import Winnow.Candidates

/-!
# Decoding keeps ASCII

A byte below 128 is decoded as the character of its number wherever it stands. It
continues no sequence, so what has begun before it is replaced and reaches no further
(`Encoding.decode_append_ascii`). Conversely such a character is decoded from its own
byte only (`Encoding.mem_of_decode`): a sequence of several bytes stands for a character
behind the first 128, and malformed bytes are replaced by another character. The null
character is left out there, as it also stands for numbers that no character has.
-/

namespace Winnow

/-- Only its own number makes a character of ASCII. -/
theorem eq_of_ofNat_eq {code byte : Nat} (ascii : byte < 0x80) (nonzero : byte ≠ 0)
    (same : Char.ofNat code = Char.ofNat byte) : code = byte := by
  have valid : byte.isValidChar := .inl (by omega)
  have number : (Char.ofNat code).toNat = byte := by
    rw [same, Char.ofNat, dif_pos valid]
    rfl
  by_cases validCode : code.isValidChar
  · rw [Char.ofNat, dif_pos validCode] at number
    exact number
  · rw [Char.ofNat, dif_neg validCode] at number
    exact absurd number.symm nonzero

namespace Utf8

/-! ## Sequences of several bytes -/

/-- What holds of a sequence that has begun: no byte of ASCII continues it, and it stands for a
character behind the first 128, as its bits are two at least, or they will be with the next byte,
behind which another one is missing. -/
structure Pending.Long (pending : Pending) : Prop where
  low : 0x80 ≤ pending.low
  bits : 2 ≤ pending.bits ∨
    2 ≤ pending.missing ∧ 2 ≤ pending.bits * 64 + (pending.low - 0x80)

theorem Pending.long_of_ofLead? {byte : Nat} {pending : Pending}
    (found : ofLead? byte = some pending) : pending.Long := by
  rw [ofLead?] at found
  simp only [Option.ite_none_left_eq_some] at found
  -- The bits are two at least, except those of E0, E1, F0 and F1, behind which bytes are missing.
  constructor <;> grind

/-- Reading a byte shows a character of ASCII only if the byte is its number, and what has begun
is long. -/
structure Continued (byte : Nat) (read : List Segment × Option Pending) : Prop where
  shown : ∀ segment ∈ read.1, ∀ code, code < 0x80 → code ≠ 0 →
    segment.charOrReplacement = Char.ofNat code → byte = code
  long : ∀ pending ∈ read.2, pending.Long

theorem replacement_ne_ascii {code : Nat} (ascii : code < 0x80) (nonzero : code ≠ 0) :
    replacement ≠ Char.ofNat code := by
  intro same
  have number : 0xFFFD = code := eq_of_ofNat_eq ascii nonzero same
  omega

/-- Where no sequence has begun, a byte shows itself or begins a long sequence. -/
theorem continued_start (byte : Nat) : Continued byte (start byte) := by
  rw [start]
  split
  · refine ⟨List.forall_mem_singleton.mpr fun code ascii nonzero same => ?_, nofun⟩
    exact eq_of_ofNat_eq ascii nonzero same
  · split
    · next pending found =>
        exact ⟨List.forall_mem_nil _, fun other same =>
          Option.some.inj same ▸ Pending.long_of_ofLead? found⟩
    · refine ⟨List.forall_mem_singleton.mpr fun code ascii nonzero same => ?_, nofun⟩
      exact absurd same (replacement_ne_ascii ascii nonzero)

/-- A byte continues a long sequence, ends it with a character behind the first 128, or is read
where no sequence has begun. -/
theorem continued_feed {pending : Option Pending} (long : ∀ begun ∈ pending, begun.Long)
    (byte : Nat) : Continued byte (feed pending byte) := by
  cases pending with
  | none => exact continued_start byte
  | some begun =>
      obtain ⟨low, bits⟩ := long begun rfl
      rw [feed]
      split
      · dsimp only
        split
        · refine ⟨List.forall_mem_singleton.mpr fun code ascii nonzero same => ?_, nofun⟩
          have number := eq_of_ofNat_eq ascii nonzero same
          omega
        · refine ⟨List.forall_mem_nil _, fun next same => ?_⟩
          obtain rfl := Option.some.inj same
          refine ⟨Nat.le_refl _, .inl ?_⟩
          dsimp only
          omega
      · obtain ⟨shown, nextLong⟩ := continued_start byte
        refine ⟨List.forall_mem_cons.mpr ⟨fun code ascii nonzero same => ?_, shown⟩, nextLong⟩
        exact absurd same (replacement_ne_ascii ascii nonzero)

/-- A byte shows something or leaves a sequence that has begun. -/
theorem feed_progress (pending : Option Pending) (byte : Nat) :
    (feed pending byte).1 ≠ [] ∨ (feed pending byte).2 ≠ none := by
  have begins : (start byte).1 ≠ [] ∨ (start byte).2 ≠ none := by
    rw [start]
    split
    · simp
    · split <;> simp
  cases pending with
  | none => exact begins
  | some begun =>
      rw [feed]
      split
      · dsimp only
        split <;> simp
      · simp

/-! ## Decoding behind what has begun -/

/-- The text of the bytes that follow what is pending, malformed subparts replaced. -/
def decodeFrom (pending : Option Pending) (bytes : List UInt8) : Text :=
  (segmentsFrom pending bytes).map Segment.charOrReplacement

theorem decodeFrom_cons (pending : Option Pending) (byte : UInt8) (rest : List UInt8) :
    decodeFrom pending (byte :: rest)
      = (feed pending byte.toNat).1.map Segment.charOrReplacement
        ++ decodeFrom (feed pending byte.toNat).2 rest := by
  rw [decodeFrom, segmentsFrom, List.map_append]
  rfl

/-- Nothing is decoded only from nothing. -/
theorem decodeFrom_ne_nil {pending : Option Pending} {bytes : List UInt8}
    (filled : pending ≠ none ∨ bytes ≠ []) : decodeFrom pending bytes ≠ [] := by
  induction bytes generalizing pending with
  | nil =>
      cases pending with
      | none => simp at filled
      | some begun => simp [decodeFrom, segmentsFrom]
  | cons byte rest ih =>
      rw [decodeFrom_cons]
      rcases feed_progress pending byte.toNat with shows | begins
      · simp [shows]
      · simp [ih (.inl begins)]

/-- Behind a long sequence, or none, a byte of ASCII shows its own character. -/
theorem decodeFrom_cons_ascii {pending : Option Pending} (long : ∀ begun ∈ pending, begun.Long)
    {byte : UInt8} (ascii : byte.toNat < 0x80) (rest : List UInt8) :
    decodeFrom pending (byte :: rest)
      = decodeFrom pending [] ++ Char.ofNat byte.toNat :: decodeFrom none rest := by
  have starts : start byte.toNat = ([.scalar (Char.ofNat byte.toNat) 1], none) := if_pos ascii
  rw [decodeFrom_cons]
  cases pending with
  | none =>
      rw [feed, starts]
      rfl
  | some begun =>
      have low := (long begun rfl).low
      have apart : ¬(begun.low ≤ byte.toNat ∧ byte.toNat ≤ begun.high) := by omega
      rw [feed, if_neg apart, starts]
      rfl

/-- A byte of ASCII shows its own character wherever it stands, and what follows it is decoded by
itself. -/
theorem decodeFrom_append_ascii {pending : Option Pending} (long : ∀ begun ∈ pending, begun.Long)
    (before : List UInt8) {byte : UInt8} (ascii : byte.toNat < 0x80) (rest : List UInt8) :
    decodeFrom pending (before ++ byte :: rest)
      = decodeFrom pending before ++ Char.ofNat byte.toNat :: decodeFrom none rest := by
  induction before generalizing pending with
  | nil => exact decodeFrom_cons_ascii long ascii rest
  | cons other before ih =>
      have nextLong := (continued_feed long other.toNat).long
      rw [List.cons_append, decodeFrom_cons, decodeFrom_cons, ih nextLong, List.append_assoc]

/-- Decoding shows a character of ASCII only where its byte stands. -/
theorem mem_of_decodeFrom {pending : Option Pending} (long : ∀ begun ∈ pending, begun.Long)
    {byte : UInt8} (ascii : byte.toNat < 0x80) (nonzero : byte ≠ 0) {bytes : List UInt8}
    (shown : Char.ofNat byte.toNat ∈ decodeFrom pending bytes) : byte ∈ bytes := by
  have someNumber : byte.toNat ≠ 0 := fun zero => nonzero (UInt8.toNat_inj.mp zero)
  induction bytes generalizing pending with
  | nil =>
      cases pending with
      | none => cases shown
      | some begun =>
          have same := List.mem_singleton.mp shown
          exact absurd same.symm (replacement_ne_ascii ascii someNumber)
  | cons other rest ih =>
      rw [decodeFrom_cons] at shown
      obtain ⟨here, nextLong⟩ := continued_feed long other.toNat
      rcases List.mem_append.mp shown with now | later
      · obtain ⟨segment, member, same⟩ := List.mem_map.mp now
        have number : other.toNat = byte.toNat := here segment member _ ascii someNumber same
        exact List.mem_cons.mpr (.inl (UInt8.toNat_inj.mp number.symm))
      · exact List.mem_cons_of_mem _ (ih nextLong later)

end Utf8

/-! ## Both encodings -/

namespace Encoding

/-- Nothing is decoded only from nothing. -/
theorem decode_eq_nil_iff {encoding : Encoding} {bytes : List UInt8} :
    encoding.decode bytes = [] ↔ bytes = [] := by
  cases encoding with
  | utf8 =>
      constructor
      · intro nothing
        cases bytes with
        | nil => rfl
        | cons byte rest =>
            exact absurd nothing (Utf8.decodeFrom_ne_nil (.inr (List.cons_ne_nil byte rest)))
      · rintro rfl
        rfl
  | latin1 => exact List.map_eq_nil_iff

/-- A byte of ASCII is decoded as its own character, and what stands before it and behind it is
decoded by itself. -/
theorem decode_append_ascii (encoding : Encoding) (before : List UInt8) {byte : UInt8}
    (ascii : byte.toNat < 0x80) (after : List UInt8) :
    encoding.decode (before ++ byte :: after)
      = encoding.decode before ++ Char.ofNat byte.toNat :: encoding.decode after := by
  cases encoding with
  | utf8 =>
      have long : ∀ begun ∈ (none : Option Utf8.Pending), begun.Long := nofun
      exact Utf8.decodeFrom_append_ascii long before ascii after
  | latin1 => simp [decode, Latin1.decode]

/-- A character of ASCII is decoded from its own byte only. -/
theorem mem_of_decode {encoding : Encoding} {byte : UInt8} (ascii : byte.toNat < 0x80)
    (nonzero : byte ≠ 0) {bytes : List UInt8}
    (shown : Char.ofNat byte.toNat ∈ encoding.decode bytes) : byte ∈ bytes := by
  cases encoding with
  | utf8 =>
      have long : ∀ begun ∈ (none : Option Utf8.Pending), begun.Long := nofun
      exact Utf8.mem_of_decodeFrom long ascii nonzero shown
  | latin1 =>
      obtain ⟨other, member, same⟩ := List.mem_map.mp shown
      have someNumber : byte.toNat ≠ 0 := fun zero => nonzero (UInt8.toNat_inj.mp zero)
      have number : other.toNat = byte.toNat := eq_of_ofNat_eq ascii someNumber same
      exact UInt8.toNat_inj.mp number ▸ member

end Encoding

end Winnow
