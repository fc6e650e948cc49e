import Winnow.Proofs.Style.Joining
import Winnow.Proofs.Style.HexColor

/-!
# Channels of accepted styles

The words of an accepted style that begin with a number sign are hexadecimal colors, and
the color of the style has a name or is one of these (`color_bytes_or_hex`). So its
channels are bytes unless it is written with a negative one (`hasByteChannels_iff`),
which reading lets pass (`channels_below_zero`). Exactly then is it written as a
hexadecimal code, and exactly then are all codes of the style bytes
(`channels_of_accepted`).
-/

namespace Winnow

namespace Style

/-! ## Accepted styles -/

/-- The words of a style that are read as hexadecimal colors. -/
def hexWords (spec : Text) : List Text :=
  (Text.words spec.lower).filter fun word => word.head? = some '#'

/-- A word of an item that begins with a number sign is its color. -/
theorem Item.Written.color_of_mem {item : Item} {piece : List Text} (written : item.Written piece)
    {word : Text} (member : word ∈ piece) (marked : word.head? = some '#') :
    ∃ color, item = .color color ∧ Color.ofHex? word = some color := by
  have unmarked : ∀ {name : String} {color : Color}, (name, color) ∈ Color.standard ++ Color.grays →
      name.toList.head? ≠ some '#' := fun named => (names_apart _ named).1
  cases written with
  | emphasis emphasis =>
      obtain rfl := List.mem_singleton.mp member
      cases emphasis <;> cases marked
  | standard named =>
      obtain rfl := List.mem_singleton.mp member
      exact absurd marked (unmarked (List.mem_append_left _ named))
  | gray named =>
      obtain rfl := List.mem_singleton.mp member
      exact absurd marked (unmarked (List.mem_append_right _ named))
  | bright base named =>
      rcases List.mem_cons.mp member with rfl | member
      · cases marked
      · obtain rfl := List.mem_singleton.mp member
        obtain ⟨⟨name, color⟩, listed, rfl⟩ := List.mem_map.mp base
        exact absurd marked (unmarked (List.mem_append_left _ listed))
  | hex _ read =>
      obtain rfl := List.mem_singleton.mp member
      exact ⟨_, rfl, read⟩

/-- A color that is written has a name and bytes for channels, or a word writes it with hexadecimal
digits. -/
theorem Item.Written.bytes_or_hex {color : Color} {piece : List Text}
    (written : (Item.color color).Written piece) :
    color.HasByteChannels ∨
      ∃ word ∈ piece, word.head? = some '#' ∧ Color.ofHex? word = some color := by
  cases written with
  | standard named =>
      exact .inl (Color.hasByteChannels_named _
        (List.mem_append_left _ (List.mem_append_left _ named)))
  | gray named =>
      exact .inl (Color.hasByteChannels_named _
        (List.mem_append_left _ (List.mem_append_right _ named)))
  | bright _ named => exact .inl (Color.hasByteChannels_named _ (List.mem_append_right _ named))
  | hex marked read => exact .inr ⟨_, List.mem_singleton_self _, marked, read⟩

section

variable {spec : Text} {style : Style}

/-- What is accepted is the style of items, and the words that are read as hexadecimal colors are
among the words of the items. -/
theorem exists_cutting_of_parse (accepted : parse spec = .ok style) :
    ∃ cutting words, IsCutting cutting words ∧ style = ofItems (cutting.map Prod.fst) ∧
      hexWords spec = words.filter fun word => word.head? = some '#' := by
  by_cases alone : Text.words spec.lower = ["none".toList]
  · rw [parse, if_pos alone] at accepted
    refine ⟨[], [], isCutting_nil_iff.mpr rfl, (Except.ok.inj accepted).symm, ?_⟩
    rw [hexWords, alone]
    rfl
  · obtain ⟨cutting, cut, same⟩ := (parse_eq_ok_iff alone).mp accepted
    exact ⟨cutting, _, cut, same, rfl⟩

/-- A color that is not among the attributes of an accepted style is black. -/
theorem color_of_not_colored (accepted : parse spec = .ok style) (uncolored : style.colored = false) :
    style.color = .black := by
  obtain ⟨cutting, words, -, rfl, -⟩ := exists_cutting_of_parse accepted
  have none : lastColor? (cutting.map Prod.fst) = none := Option.not_isSome_iff_eq_none.mp (by
    rw [Bool.not_eq_true]
    exact uncolored)
  rw [ofItems, none]
  rfl

/-- The words that begin with a number sign are colors. -/
theorem exists_values_of_mem_hexWords (accepted : parse spec = .ok style) {word : Text}
    (member : word ∈ hexWords spec) :
    ∃ red green blue, Color.hexValues? word = some (red, green, blue) := by
  obtain ⟨cutting, words, cut, -, same⟩ := exists_cutting_of_parse accepted
  rw [same, List.mem_filter, decide_eq_true_iff] at member
  obtain ⟨inside, marked⟩ := member
  rw [← cut.whole] at inside
  obtain ⟨part, listed, inPiece⟩ := List.mem_flatMap.mp inside
  obtain ⟨color, -, read⟩ := (cut.written part listed).color_of_mem inPiece marked
  obtain ⟨⟨red, green, blue⟩, values, -⟩ := Option.map_eq_some_iff.mp read
  exact ⟨red, green, blue, values⟩

/-- The color of an accepted style has bytes for channels, or a word writes it with hexadecimal
digits. -/
theorem color_bytes_or_hex (accepted : parse spec = .ok style) :
    style.color.HasByteChannels ∨
      ∃ word ∈ hexWords spec, Color.ofHex? word = some style.color := by
  obtain ⟨cutting, words, cut, rfl, same⟩ := exists_cutting_of_parse accepted
  rw [ofItems]
  dsimp only
  cases last : lastColor? (cutting.map Prod.fst) with
  | none => exact .inl Color.hasByteChannels_black
  | some color =>
      obtain ⟨item, listed, isColor⟩ := List.mem_filterMap.mp (List.mem_of_getLast? last)
      obtain ⟨⟨item, piece⟩, part, rfl⟩ := List.mem_map.mp listed
      cases item with
      | emphasis => cases isColor
      | color other =>
          obtain rfl := Option.some.inj isColor
          refine (cut.written _ part).bytes_or_hex.imp_right ?_
          rintro ⟨word, inPiece, marked, read⟩
          refine ⟨word, ?_, read⟩
          rw [same, List.mem_filter, decide_eq_true_iff, ← cut.whole]
          exact ⟨List.mem_flatMap.mpr ⟨_, part, inPiece⟩, marked⟩

/-- Whether the color of a style is that of a word which writes a negative channel. -/
def HasNegativeColor (spec : Text) (style : Style) : Prop :=
  ∃ word ∈ hexWords spec, Color.ofHex? word = some style.color ∧ Color.WritesNegative word

/-- The channels of an accepted style are bytes unless its color has a negative one. -/
theorem hasByteChannels_iff (accepted : parse spec = .ok style) :
    style.color.HasByteChannels ↔ ¬HasNegativeColor spec style := by
  constructor
  · rintro bytes ⟨word, member, read, negative⟩
    obtain ⟨red, green, blue, values⟩ := exists_values_of_mem_hexWords accepted member
    rw [Color.HasByteChannels, Color.byteChannels_of_hexValues? values read] at bytes
    exact (Color.hexValues?_bounds values).2.mp (fun value inside => (bytes value inside).1) negative
  · intro noNegative
    refine (color_bytes_or_hex accepted).elim id ?_
    rintro ⟨word, member, read⟩
    obtain ⟨red, green, blue, values⟩ := exists_values_of_mem_hexWords accepted member
    obtain ⟨bounds, signs⟩ := Color.hexValues?_bounds values
    have low := signs.mpr fun negative => noNegative ⟨word, member, read, negative⟩
    rw [Color.HasByteChannels, Color.byteChannels_of_hexValues? values read]
    exact fun value inside => ⟨low value inside, (bounds value inside).2⟩

/-- No channel of an accepted style is above 255. -/
theorem byteChannels_le (accepted : parse spec = .ok style) :
    ∀ channel ∈ style.color.byteChannels, channel ≤ 255 := by
  rcases color_bytes_or_hex accepted with bytes | ⟨word, member, read⟩
  · exact fun channel inside => (bytes channel inside).2
  · obtain ⟨red, green, blue, values⟩ := exists_values_of_mem_hexWords accepted member
    rw [Color.byteChannels_of_hexValues? values read]
    exact fun channel inside => ((Color.hexValues?_bounds values).1 channel inside).2

end

theorem terminalCodes_bytes_iff (style : Style) :
    (∀ code ∈ style.terminalCodes, 0 ≤ code ∧ code ≤ 255) ↔ style.Drawable := by
  obtain ⟨bold, underline, italic, colored, color⟩ := style
  cases bold <;> cases italic <;> cases underline <;> cases colored <;>
    simp [terminalCodes, Drawable, Color.HasByteChannels]

/-- Of an accepted style every word that begins with a number sign is read as three channels from
-15 to 255, which are all bytes unless one of them is written as a negative number. The color of the
style is written as a hexadecimal code, and all codes that switch the style on are bytes, exactly if
that color is not one with a negative channel. -/
theorem channels_of_accepted {spec : Text} {style : Style} (accepted : parse spec = .ok style) :
    (∀ word ∈ hexWords spec, ∃ red green blue,
        Color.hexValues? word = some (red, green, blue) ∧
        (∀ value ∈ [red, green, blue], -15 ≤ value ∧ value ≤ 255) ∧
        ((∀ value ∈ [red, green, blue], 0 ≤ value) ↔ ¬Color.WritesNegative word)) ∧
      (Color.IsHexCode style.color.hex ↔ ¬HasNegativeColor spec style) ∧
      ((∀ code ∈ style.terminalCodes, 0 ≤ code ∧ code ≤ 255) ↔ ¬HasNegativeColor spec style) := by
  refine ⟨fun word member => ?_, ?_, ?_⟩
  · obtain ⟨red, green, blue, values⟩ := exists_values_of_mem_hexWords accepted member
    exact ⟨red, green, blue, values, Color.hexValues?_bounds values⟩
  · rw [Color.isHexCode_hex_iff (byteChannels_le accepted), hasByteChannels_iff accepted]
  · rw [terminalCodes_bytes_iff, ← hasByteChannels_iff accepted, Drawable]
    cases colored : style.colored with
    | true => exact forall_prop_of_true rfl
    | false =>
        rw [color_of_not_colored accepted colored]
        exact iff_of_true nofun Color.hasByteChannels_black

/-- Two colors, the first of which has negative channels. -/
def overriddenSpec : Text := "#-1-1-1 bold #0F0".toList

/-- A negative color is read, but behind another one it does not count. -/
theorem channels_of_accepted_overridden :
    Color.hexValues? "#-1-1-1".toList = some (-1, -1, -1) ∧
      hexWords overriddenSpec = ["#-1-1-1".toList, "#0f0".toList] ∧
      ∃ style, parse overriddenSpec = .ok style ∧ Color.IsHexCode style.color.hex ∧
        ∀ code ∈ style.terminalCodes, 0 ≤ code ∧ code ≤ 255 := by
  have words : hexWords overriddenSpec = ["#-1-1-1".toList, "#0f0".toList] := by decide
  have accepted : parse overriddenSpec = .ok ⟨true, false, false, true,
      ⟨Color.channelOfByte 0, Color.channelOfByte 255, Color.channelOfByte 0⟩⟩ := by
    rfl
  have unsigned : ∀ pair ∈ Color.digitPairs "#0f0".toList, pair.1 ≠ '-' := by decide
  have counts : ¬HasNegativeColor overriddenSpec ⟨true, false, false, true,
      ⟨Color.channelOfByte 0, Color.channelOfByte 255, Color.channelOfByte 0⟩⟩ := by
    rintro ⟨word, member, read, pair, listed, minus, -⟩
    rw [words] at member
    rcases List.mem_cons.mp member with rfl | member
    · exact absurd read (by decide)
    · obtain rfl := List.mem_singleton.mp member
      exact unsigned pair listed minus
  obtain ⟨-, code, codes⟩ := channels_of_accepted accepted
  exact ⟨by decide, words, _, accepted, code.mpr counts, codes.mpr counts⟩

/-- A minus in front of a digit is accepted as a pair of digits, and the channel is negative. -/
theorem channels_below_zero :
    hexWords "#-1-1-1".toList = ["#-1-1-1".toList] ∧
      Color.hexValues? "#-1-1-1".toList = some (-1, -1, -1) ∧
      ∃ style, parse "#-1-1-1".toList = .ok style ∧ style.color.hex = "#-1-1-1".toList ∧
        style.terminalCodes = [38, 2, -1, -1, -1] := by
  refine ⟨by decide, by decide, _, rfl, ?_, ?_⟩
  · decide +kernel
  · decide +kernel

end Style

end Winnow
