import Winnow.Proofs.Text.Decoding

/-!
# Decoding undoes encoding

The lead byte of a character tells how many bytes follow and leaves out what is no
character (`exists_lead_three`, `exists_lead_four`). Every byte that follows adds six
bits, and the last one completes the number of the character, so an encoded character is
read as itself in front of anything (`decodeFrom_encodeChar`). So decoding undoes
encoding, in UTF-8 for all texts and in Latin-1 for those of its 256 characters
(`Encoding.decode_encode`).
-/

namespace Winnow

namespace Utf8

/-! ## Bytes of a sequence -/

theorem toNat_toUInt8 {number : Nat} (small : number < 256) : number.toUInt8.toNat = number :=
  UInt8.toNat_ofNat_of_lt small

theorem decodeFrom_lead {number : Nat} (high : 0x80 ≤ number) (small : number < 256)
    {pending : Pending} (leads : Pending.ofLead? number = some pending) (rest : List UInt8) :
    decodeFrom none (number.toUInt8 :: rest) = decodeFrom (some pending) rest := by
  have long : ¬number < 0x80 := Nat.not_lt.mpr high
  rw [decodeFrom_cons, feed, toNat_toUInt8 small, start, if_neg long, leads]
  rfl

section

variable {bits width least greatest sextet : Nat}

/-- A byte that fits adds six bits, and further bytes are missing. -/
theorem decodeFrom_further (missing : Nat) (small : sextet < 64) (low : least ≤ 0x80 + sextet)
    (high : 0x80 + sextet ≤ greatest) (rest : List UInt8) :
    decodeFrom (some ⟨bits, width, missing + 2, least, greatest⟩) ((0x80 + sextet).toUInt8 :: rest)
      = decodeFrom (some ⟨bits * 64 + sextet, width + 1, missing + 1, 0x80, 0xBF⟩) rest := by
  have further : ¬missing + 2 ≤ 1 := by omega
  rw [decodeFrom_cons, feed, toNat_toUInt8 (by omega), if_pos ⟨low, high⟩, Nat.add_sub_cancel_left,
    if_neg further]
  rfl

/-- The last byte completes a character. -/
theorem decodeFrom_last (small : sextet < 64) (low : least ≤ 0x80 + sextet)
    (high : 0x80 + sextet ≤ greatest) (rest : List UInt8) :
    decodeFrom (some ⟨bits, width, 1, least, greatest⟩) ((0x80 + sextet).toUInt8 :: rest)
      = Char.ofNat (bits * 64 + sextet) :: decodeFrom none rest := by
  rw [decodeFrom_cons, feed, toNat_toUInt8 (by omega), if_pos ⟨low, high⟩, Nat.add_sub_cancel_left,
    if_pos (Nat.le_refl 1)]
  rfl

end

/-! ## Lead bytes -/

theorem ofLead?_two {code : Nat} (low : 0x80 ≤ code) (high : code < 0x800) :
    Pending.ofLead? (0xC0 + code / 64) = some ⟨code / 64, 1, 1, 0x80, 0xBF⟩ := by
  rw [Pending.ofLead?, if_neg (by omega), if_pos (by omega), Nat.add_sub_cancel_left]

/-- The lead byte of three bytes lets the second one follow, unless the number is one of those that
no character has. -/
theorem exists_lead_three {code : Nat} (low : 0x800 ≤ code) (high : code < 0x10000)
    (valid : code.isValidChar) :
    ∃ least greatest,
      Pending.ofLead? (0xE0 + code / 4096) = some ⟨code / 4096, 1, 2, least, greatest⟩ ∧
        least ≤ 0x80 + code / 64 % 64 ∧ 0x80 + code / 64 % 64 ≤ greatest := by
  rw [Nat.isValidChar] at valid
  by_cases first : code / 4096 = 0
  · exact ⟨0xA0, 0xBF, by rw [first]; rfl, by omega, by omega⟩
  · by_cases surrogates : code / 4096 = 0xD
    · exact ⟨0x80, 0x9F, by rw [surrogates]; rfl, by omega, by omega⟩
    · refine ⟨0x80, 0xBF, ?_, by omega, by omega⟩
      rw [Pending.ofLead?, if_neg (by omega), if_neg (by omega), if_neg (by omega),
        if_neg (by omega), if_pos (by omega), Nat.add_sub_cancel_left]

/-- The lead byte of four bytes lets the second one follow, up to the last character. -/
theorem exists_lead_four {code : Nat} (low : 0x10000 ≤ code) (high : code < 0x110000) :
    ∃ least greatest,
      Pending.ofLead? (0xF0 + code / 262144) = some ⟨code / 262144, 1, 3, least, greatest⟩ ∧
        least ≤ 0x80 + code / 4096 % 64 ∧ 0x80 + code / 4096 % 64 ≤ greatest := by
  by_cases first : code / 262144 = 0
  · exact ⟨0x90, 0xBF, by rw [first]; rfl, by omega, by omega⟩
  · by_cases last : code / 262144 = 4
    · exact ⟨0x80, 0x8F, by rw [last]; rfl, by omega, by omega⟩
    · refine ⟨0x80, 0xBF, ?_, by omega, by omega⟩
      rw [Pending.ofLead?, if_neg (by omega), if_neg (by omega), if_neg (by omega),
        if_neg (by omega), if_neg (by omega), if_neg (by omega), if_pos (by omega),
        Nat.add_sub_cancel_left]

/-! ## Texts -/

/-- An encoded character is read as itself, and what follows it is read by itself. -/
theorem decodeFrom_encodeChar (char : Char) (rest : List UInt8) :
    decodeFrom none (encodeChar char ++ rest) = char :: decodeFrom none rest := by
  have valid : char.toNat.isValidChar := char.valid
  have itself : Char.ofNat char.toNat = char := char.ofNat_toNat
  have bound : char.toNat < 0x110000 := by
    rw [Nat.isValidChar] at valid
    omega
  rw [encodeChar]
  generalize char.toNat = code at valid itself bound
  split
  · next ascii =>
      have same : code.toUInt8.toNat = code := toNat_toUInt8 (by omega)
      have long : ∀ begun ∈ (none : Option Pending), begun.Long := nofun
      rw [List.singleton_append, decodeFrom_cons_ascii long (by omega), same, itself]
      rfl
  · split
    · have whole : code / 64 * 64 + code % 64 = code := by omega
      rw [List.cons_append, List.singleton_append,
        decodeFrom_lead (by omega) (by omega) (ofLead?_two (by omega) (by omega)),
        decodeFrom_last (by omega) (by omega) (by omega), whole, itself]
    · split
      · obtain ⟨least, greatest, leads, low, high⟩ :=
          exists_lead_three (by omega) (by omega) valid
        have whole : (code / 4096 * 64 + code / 64 % 64) * 64 + code % 64 = code := by omega
        rw [List.cons_append, List.cons_append, List.singleton_append,
          decodeFrom_lead (by omega) (by omega) leads, decodeFrom_further 0 (by omega) low high,
          decodeFrom_last (by omega) (by omega) (by omega), whole, itself]
      · obtain ⟨least, greatest, leads, low, high⟩ := exists_lead_four (by omega) bound
        have whole : ((code / 262144 * 64 + code / 4096 % 64) * 64 + code / 64 % 64) * 64
            + code % 64 = code := by
          omega
        rw [List.cons_append, List.cons_append, List.cons_append, List.singleton_append,
          decodeFrom_lead (by omega) (by omega) leads, decodeFrom_further 1 (by omega) low high,
          decodeFrom_further 0 (by omega) (by omega) (by omega),
          decodeFrom_last (by omega) (by omega) (by omega), whole, itself]

/-- Every text is read back from its bytes. -/
theorem decodeReplacing_encode (text : Text) : decodeReplacing (encode text) = text := by
  induction text with
  | nil => rfl
  | cons char text ih =>
      have bytes : encode (char :: text) = encodeChar char ++ encode text := List.flatMap_cons
      rw [bytes]
      exact (decodeFrom_encodeChar char (encode text)).trans (congrArg (char :: ·) ih)

end Utf8

/-- The bytes of a text, every character being the byte of its number. -/
def Latin1.encode (text : Text) : List UInt8 := text.map fun char => char.toNat.toUInt8

namespace Encoding

/-- The bytes of a text. -/
def encode : Encoding → Text → List UInt8
  | utf8, text => Utf8.encode text
  | latin1, text => Latin1.encode text

/-- Whether an encoding has bytes for every character of a text. -/
def CanWrite : Encoding → Text → Prop
  | utf8, _ => True
  | latin1, text => ∀ char ∈ text, char.toNat ≤ 255

/-- A text for whose characters there are bytes is read back from them. -/
theorem decode_encode {encoding : Encoding} {text : Text} (writable : encoding.CanWrite text) :
    encoding.decode (encoding.encode text) = text := by
  cases encoding with
  | utf8 => exact Utf8.decodeReplacing_encode text
  | latin1 =>
      have same : ∀ char ∈ text, Char.ofNat char.toNat.toUInt8.toNat = char := by
        intro char member
        have small : char.toNat < 256 := Nat.lt_succ_of_le (writable char member)
        rw [Utf8.toNat_toUInt8 small, char.ofNat_toNat]
      rw [decode, encode, Latin1.decode, Latin1.encode, List.map_map]
      exact (List.map_congr_left same).trans (List.map_id text)

end Encoding

end Winnow
