import Winnow.Proofs.Number.Numerals
import Winnow.Proofs.Style.Terminal

/-!
# Colors in hexadecimal digits

The digits of a color are read in pairs, and a pair is a numeral: it writes a byte, or
it is a minus in front of a digit (`hexPair?_cases`). So the channels of a color are
above -16 and not above 255, and none is negative unless it is written so
(`hexValues?_bounds`). Rounding gives back the values that were written
(`byteChannels_of_hexValues?`), and a color is written as a number sign and six digits
exactly if these are bytes (`isHexCode_hex_iff`).
-/

namespace Winnow

namespace Color

/-! ## Pairs of digits -/

/-- A pair of characters is a minus in front of a digit, or it does not begin with a minus and is a
byte. -/
theorem hexPair?_cases {first second : Char} {value : Int}
    (read : hexPair? first second = some value) :
    (first = '-' ∧ ∃ digit : Nat, Numeral.digitValue? 16 second = some digit ∧
        value = -(digit : Int)) ∨
      (first ≠ '-' ∧ 0 ≤ value ∧ value ≤ 255) := by
  have kept : Numeral.isBlank '-' = false := by decide
  rcases Numeral.integer?_cases (by decide) read with
    ⟨digits, shape, magnitude, written, rfl⟩ | ⟨noMinus, magnitude, bound, rfl⟩
  · rw [Text.trim_pair] at shape
    -- There is a digit behind the minus, so neither character is dropped.
    have whole : [first, second].filter (!Numeral.isBlank ·) = [first, second] := by
      refine List.filter_sublist.eq_of_length_le ?_
      cases digits with
      | nil => cases written
      | cons digit digits =>
          rw [shape]
          simp
    obtain ⟨rfl, rfl⟩ := List.cons.inj (whole.symm.trans shape)
    exact .inl ⟨rfl, magnitude, Numeral.digitsFrom_singleton written, rfl⟩
  · rw [Text.trim_pair] at noMinus bound
    have size := List.length_filter_le (!Numeral.isBlank ·) [first, second]
    have byte := Nat.lt_of_lt_of_le bound (Nat.pow_le_pow_right (by decide : 0 < 16) size)
    refine .inr ⟨?_, Int.natCast_nonneg _, Int.ofNat_le.mpr (Nat.le_of_lt_succ byte)⟩
    rintro rfl
    simp [kept] at noMinus

/-- The pairs of digits behind the number signs of a color: three digits count twice each. -/
def digitPairs (text : Text) : List (Char × Char) :=
  match text.dropWhile (· = '#') with
  | [r, g, b] => [(r, r), (g, g), (b, b)]
  | [r, r', g, g', b, b'] => [(r, r'), (g, g'), (b, b')]
  | _ => []

/-- The values of a color are those of its pairs of digits. -/
theorem exists_digitPairs {text : Text} {red green blue : Int}
    (read : hexValues? text = some (red, green, blue)) :
    ∃ r g b, digitPairs text = [r, g, b] ∧ hexPair? r.1 r.2 = some red ∧
      hexPair? g.1 g.2 = some green ∧ hexPair? b.1 b.2 = some blue := by
  rw [hexValues?] at read
  rw [digitPairs]
  generalize text.dropWhile (· = '#') = digits at read
  split at read
  · simp only [bind, Option.bind_eq_some_iff] at read
    obtain ⟨_, redRead, _, greenRead, _, blueRead, same⟩ := read
    cases same
    exact ⟨_, _, _, rfl, redRead, greenRead, blueRead⟩
  · simp only [bind, Option.bind_eq_some_iff] at read
    obtain ⟨_, redRead, _, greenRead, _, blueRead, same⟩ := read
    cases same
    exact ⟨_, _, _, rfl, redRead, greenRead, blueRead⟩
  · cases read

/-- Whether two characters are a minus in front of a digit other than zero. -/
def IsNegative (pair : Char × Char) : Prop :=
  pair.1 = '-' ∧ ∃ digit, Numeral.digitValue? 16 pair.2 = some digit ∧ digit ≠ 0

/-- Whether one of the channels of a color is written as a negative number. -/
def WritesNegative (text : Text) : Prop := ∃ pair ∈ digitPairs text, IsNegative pair

/-- A pair of digits writes a byte unless it is negative, and then it is above -16. -/
theorem hexPair?_bounds {pair : Char × Char} {value : Int}
    (read : hexPair? pair.1 pair.2 = some value) :
    -15 ≤ value ∧ value ≤ 255 ∧ (0 ≤ value ↔ ¬IsNegative pair) := by
  rcases hexPair?_cases read with ⟨minus, digit, found, rfl⟩ | ⟨noMinus, low, high⟩
  · have small := Numeral.digitValue?_lt found
    refine ⟨by omega, by omega, ?_⟩
    constructor
    · rintro low ⟨-, other, also, nonzero⟩
      obtain rfl := Option.some.inj (found.symm.trans also)
      omega
    · intro plain
      have zero : digit = 0 := Decidable.byContradiction fun nonzero =>
        plain ⟨minus, digit, found, nonzero⟩
      omega
  · exact ⟨by omega, high, iff_of_true low fun negative => noMinus negative.1⟩

/-- The channels of a color are written as bytes unless one is negative. -/
theorem hexValues?_bounds {text : Text} {red green blue : Int}
    (read : hexValues? text = some (red, green, blue)) :
    (∀ value ∈ [red, green, blue], -15 ≤ value ∧ value ≤ 255) ∧
      ((∀ value ∈ [red, green, blue], 0 ≤ value) ↔ ¬WritesNegative text) := by
  obtain ⟨r, g, b, pairs, redRead, greenRead, blueRead⟩ := exists_digitPairs read
  obtain ⟨redLow, redHigh, redSign⟩ := hexPair?_bounds redRead
  obtain ⟨greenLow, greenHigh, greenSign⟩ := hexPair?_bounds greenRead
  obtain ⟨blueLow, blueHigh, blueSign⟩ := hexPair?_bounds blueRead
  constructor
  · simp only [List.forall_mem_cons]
    exact ⟨⟨redLow, redHigh⟩, ⟨greenLow, greenHigh⟩, ⟨blueLow, blueHigh⟩, List.forall_mem_nil _⟩
  · rw [WritesNegative, pairs]
    simp [redSign, greenSign, blueSign]

/-! ## Channels as bytes -/

/-- A value that is read as a channel is the byte that the channel is rounded to. -/
theorem round_channelOfByte {value : Int} (low : -15 ≤ value) (high : value ≤ 255) :
    ((channelOfByte value).mul (.ofInt 255)).round = value := by
  have all : ∀ offset < 271,
      ((channelOfByte ((offset : Nat) - 15 : Int)).mul (.ofInt 255)).round
        = (offset : Int) - 15 := by
    decide +kernel
  obtain ⟨offset, rfl⟩ : ∃ offset : Nat, value = (offset : Int) - 15 :=
    ⟨(value + 15).toNat, by omega⟩
  exact all offset (by omega)

/-- The bytes of a color are the values that it is written with. -/
theorem byteChannels_of_hexValues? {text : Text} {red green blue : Int} {color : Color}
    (read : hexValues? text = some (red, green, blue)) (same : ofHex? text = some color) :
    color.byteChannels = [red, green, blue] := by
  have bounds := (hexValues?_bounds read).1
  simp only [List.forall_mem_cons] at bounds
  obtain ⟨⟨redLow, redHigh⟩, ⟨greenLow, greenHigh⟩, ⟨blueLow, blueHigh⟩, -⟩ := bounds
  rw [ofHex?, read] at same
  obtain rfl := Option.some.inj same
  simp only [byteChannels, channels, List.map_cons, List.map_nil,
    round_channelOfByte redLow redHigh, round_channelOfByte greenLow greenHigh,
    round_channelOfByte blueLow blueHigh]

theorem hasByteChannels_named :
    ∀ entry ∈ standard ++ grays ++ bright, entry.2.HasByteChannels := by
  decide +kernel

theorem hasByteChannels_black : black.HasByteChannels :=
  hasByteChannels_named ("black", _) List.mem_cons_self

/-- The digits of base 16, in lower case. -/
def hexAlphabet : Text := "0123456789abcdef".toList

/-- A number sign and six hexadecimal digits in lower case. -/
def IsHexCode (text : Text) : Prop :=
  ∃ digits, text = '#' :: digits ∧ digits.length = 6 ∧ ∀ digit ∈ digits, digit ∈ hexAlphabet

/-- A byte is written with two hexadecimal digits. -/
theorem hexByte_of_byte {value : Int} (low : 0 ≤ value) (high : value ≤ 255) :
    (hexByte value).length = 2 ∧ ∀ digit ∈ hexByte value, digit ∈ hexAlphabet := by
  have all : ∀ byte < 256, (hexByte (byte : Nat)).length = 2 ∧
      (hexByte (byte : Nat)).all (hexAlphabet.contains ·) = true := by
    decide +kernel
  obtain ⟨byte, rfl⟩ := Int.eq_ofNat_of_zero_le low
  obtain ⟨length, digits⟩ := all byte (by omega)
  refine ⟨length, fun digit member => ?_⟩
  exact List.contains_iff_mem.mp (List.all_eq_true.mp digits digit member)

/-- A color is written as a hexadecimal code exactly if its channels are bytes, where none of them
is above 255. -/
theorem isHexCode_hex_iff {color : Color} (high : ∀ channel ∈ color.byteChannels, channel ≤ 255) :
    IsHexCode color.hex ↔ color.HasByteChannels := by
  constructor
  · rintro ⟨digits, same, -, alphabet⟩ channel member
    refine ⟨Int.not_lt.mp fun negative => ?_, high channel member⟩
    have minus : '-' ∈ color.byteChannels.flatMap hexByte := by
      refine List.mem_flatMap.mpr ⟨channel, member, ?_⟩
      rw [hexByte, if_pos negative]
      exact List.mem_cons_self
    rw [(List.cons.inj same).2] at minus
    exact absurd (alphabet _ minus) (by decide)
  · intro bytes
    refine ⟨_, rfl, ?_, ?_⟩
    · have two : ∀ channel ∈ color.byteChannels, (hexByte channel).length = 2 :=
        fun channel member => (hexByte_of_byte (bytes channel member).1 (bytes channel member).2).1
      rw [List.length_flatMap, List.map_congr_left two]
      rfl
    · intro digit member
      obtain ⟨channel, inside, written⟩ := List.mem_flatMap.mp member
      exact (hexByte_of_byte (bytes channel inside).1 (bytes channel inside).2).2 digit written

end Color

end Winnow
