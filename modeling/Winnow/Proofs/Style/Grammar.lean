import Winnow.Style.Parser
import Mathlib.Data.List.Induction

/-!
# How a style is written

The words of a style are cut into items (`IsCutting`), and each item is an attribute or a
color with its words (`Item.Written`). Every item adds to the style that was read before
(`addWords_written`), and where no item begins reading ends with a problem
(`addWords_stuck`). No item begins with the words of another one (`Item.Written.unique`),
so there is one way to cut. What is accepted, with which style, and what is reported
otherwise is said in terms of the cutting (`parse_grammar`).
-/

namespace Winnow.Style

/-! ## Items -/

/-- The attributes that have names. -/
inductive Emphasis
  | bold
  | underline
  | italic
  deriving DecidableEq, Repr

/-- The name of an attribute. -/
def Emphasis.name : Emphasis → Text
  | bold => "bold".toList
  | underline => "underline".toList
  | italic => "italic".toList

/-- What a style is put together from. -/
inductive Item
  | emphasis (emphasis : Emphasis)
  | color (color : Color)
  deriving DecidableEq, Repr

/-- The word in front of the names of bright colors. -/
def brightWord : Text := "bright".toList

/-- The words that write an item. -/
inductive Item.Written : Item → List Text → Prop
  | emphasis (emphasis : Emphasis) : Written (.emphasis emphasis) [emphasis.name]
  | standard {name : String} {color : Color} (named : (name, color) ∈ Color.standard) :
      Written (.color color) [name.toList]
  | gray {name : String} {color : Color} (named : (name, color) ∈ Color.grays) :
      Written (.color color) [name.toList]
  | bright {name : String} {color : Color} (base : name ∈ Color.standard.map Prod.fst)
      (named : (name, color) ∈ Color.bright) :
      Written (.color color) [brightWord, name.toList]
  | hex {word : Text} {color : Color} (marked : word.head? = some '#')
      (read : Color.ofHex? word = some color) : Written (.color color) [word]

/-- Words are cut into items, each with the words that write it. -/
structure IsCutting (cutting : List (Item × List Text)) (words : List Text) : Prop where
  written : ∀ part ∈ cutting, part.1.Written part.2
  whole : cutting.flatMap Prod.snd = words

theorem Item.Written.ne_nil {item : Item} {piece : List Text} (written : item.Written piece) :
    piece ≠ [] := by
  cases written <;> exact List.cons_ne_nil _ _

/-- Only no items are cut out of no words. -/
theorem isCutting_nil_iff {cutting : List (Item × List Text)} :
    IsCutting cutting [] ↔ cutting = [] := by
  constructor
  · rintro ⟨written, whole⟩
    cases cutting with
    | nil => rfl
    | cons part cutting =>
        rw [List.flatMap_cons] at whole
        exact absurd (List.append_eq_nil_iff.mp whole).1 (written part List.mem_cons_self).ne_nil
  · rintro rfl
    exact ⟨nofun, rfl⟩

/-- The first item is cut off, and the others are cut out of the words behind it. -/
theorem isCutting_cons_iff {part : Item × List Text} {cutting : List (Item × List Text)}
    {words : List Text} :
    IsCutting (part :: cutting) words ↔
      part.1.Written part.2 ∧ ∃ rest, part.2 ++ rest = words ∧ IsCutting cutting rest := by
  constructor
  · rintro ⟨written, whole⟩
    obtain ⟨here, behind⟩ := List.forall_mem_cons.mp written
    exact ⟨here, _, whole, behind, rfl⟩
  · rintro ⟨here, rest, rfl, behind⟩
    exact ⟨List.forall_mem_cons.mpr ⟨here, behind.written⟩, by rw [List.flatMap_cons, behind.whole]⟩

/-- No item is written at the beginning of words. -/
def NoItem (words : List Text) : Prop := ∀ item piece, Item.Written item piece → ¬piece <+: words

/-! ## What items add -/

/-- The style with an item added to it. -/
def addItem (style : Style) : Item → Style
  | .emphasis .bold => { style with bold := true }
  | .emphasis .underline => { style with underline := true }
  | .emphasis .italic => { style with italic := true }
  | .color color => style.withColor color

/-- The color of an item. -/
def Item.color? : Item → Option Color
  | .emphasis _ => none
  | .color value => some value

/-- The last color of items. -/
def lastColor? (items : List Item) : Option Color := (items.filterMap Item.color?).getLast?

/-- The style of items: the attributes that are among them, and the last color if there is one. -/
def ofItems (items : List Item) : Style where
  bold := items.contains (.emphasis .bold)
  underline := items.contains (.emphasis .underline)
  italic := items.contains (.emphasis .italic)
  colored := (lastColor? items).isSome
  color := (lastColor? items).getD .black

/-- An item behind others is added to their style. -/
theorem ofItems_concat (items : List Item) (item : Item) :
    ofItems (items ++ [item]) = (ofItems items).addItem item := by
  match item with
  | .emphasis .bold => simp [ofItems, addItem, lastColor?, Item.color?]
  | .emphasis .underline => simp [ofItems, addItem, lastColor?, Item.color?]
  | .emphasis .italic => simp [ofItems, addItem, lastColor?, Item.color?]
  | .color color => simp [ofItems, addItem, withColor, lastColor?, Item.color?]

theorem foldl_addItem (items : List Item) : items.foldl addItem plain = ofItems items := by
  induction items using List.reverseRecOn with
  | nil => rfl
  | append_singleton items item ih =>
      rw [List.foldl_append, ih, List.foldl_cons, List.foldl_nil, ofItems_concat]

/-- An item is known from what it adds to the plain style. -/
theorem addItem_plain_inj {item other : Item} (same : plain.addItem item = plain.addItem other) :
    item = other := by
  match item, other with
  | .emphasis first, .emphasis second =>
      cases first <;> cases second <;> first | rfl | cases same
  | .emphasis first, .color _ => cases first <;> cases congrArg colored same
  | .color _, .emphasis second => cases second <;> cases congrArg colored same
  | .color _, .color _ => exact congrArg Item.color (congrArg Style.color same)

/-! ## Words of items -/

theorem addAttribute?_name (style : Style) (emphasis : Emphasis) :
    addAttribute? style emphasis.name = some (style.addItem (.emphasis emphasis)) := by
  cases emphasis <;> rfl

/-- No other word adds an attribute. -/
theorem addAttribute?_eq_none {style : Style} {word : Text}
    (unnamed : ∀ emphasis : Emphasis, word ≠ emphasis.name) : addAttribute? style word = none := by
  have other : ∀ name : String, word ≠ name.toList → String.ofList word ≠ name := by
    rintro name differ rfl
    exact differ String.toList_ofList.symm
  have bold := other "bold" (unnamed .bold)
  have underline := other "underline" (unnamed .underline)
  have italic := other "italic" (unnamed .italic)
  rw [addAttribute?]
  split
  · contradiction
  · contradiction
  · contradiction
  · rfl

theorem named?_eq_none {table : List (String × Color)} {word : Text}
    (absent : ∀ {name color}, (name, color) ∈ table → word ≠ name.toList) :
    Color.named? table word = none := by
  refine Option.eq_none_iff_forall_ne_some.mpr fun color found => ?_
  obtain ⟨before, behind, rfl, -⟩ := List.lookup_eq_some_iff.mp found
  exact absent (List.mem_append_right before List.mem_cons_self) String.toList_ofList.symm

theorem named?_standard :
    ∀ entry ∈ Color.standard, Color.named? Color.standard entry.1.toList = some entry.2 := by
  decide

theorem named?_grays :
    ∀ entry ∈ Color.grays, Color.named? Color.standard entry.1.toList = none ∧
      Color.named? Color.grays entry.1.toList = some entry.2 := by
  decide

theorem base_bright :
    ∀ entry ∈ Color.bright, entry.1 ∈ Color.standard.map Prod.fst := by
  decide

theorem named?_bright :
    ∀ entry ∈ Color.bright, Color.named? Color.bright entry.1.toList = some entry.2 := by
  decide

theorem names_apart :
    ∀ entry ∈ Color.standard ++ Color.grays, entry.1.toList.head? ≠ some '#' ∧
      entry.1.toList ≠ Emphasis.bold.name ∧ entry.1.toList ≠ Emphasis.underline.name ∧
      entry.1.toList ≠ Emphasis.italic.name := by
  decide

namespace Item.Written

variable {item other : Item} {piece : List Text} {word : Text} {color : Color}

/-- What writes a color by itself is no name of an attribute. -/
theorem ne_name (written : Written (.color color) [word]) (emphasis : Emphasis) :
    word ≠ emphasis.name := by
  have apart : ∀ {name : String}, (name, color) ∈ Color.standard ++ Color.grays →
      name.toList ≠ emphasis.name := by
    intro name member
    obtain ⟨-, bold, underline, italic⟩ := names_apart _ member
    cases emphasis with
    | bold => exact bold
    | underline => exact underline
    | italic => exact italic
  cases written with
  | standard named => exact apart (List.mem_append_left _ named)
  | gray named => exact apart (List.mem_append_right _ named)
  | hex marked =>
      rintro rfl
      cases emphasis <;> cases marked

/-- What writes a color by itself is read as this color. -/
theorem colorOfWord (written : Written (.color color) [word]) (spec : Text) :
    colorOfWord spec word = .ok color := by
  cases written with
  | standard named =>
      have found := named?_standard _ named
      simp only [Style.colorOfWord, found]
  | gray named =>
      obtain ⟨missed, found⟩ := named?_grays _ named
      simp only [Style.colorOfWord, missed, found]
  | hex marked read =>
      have unnamed : ∀ {table}, table ⊆ Color.standard ++ Color.grays →
          Color.named? table word = none := fun part =>
        named?_eq_none fun named same => (names_apart _ (part named)).1 (same ▸ marked)
      have standard := unnamed (List.subset_append_left _ _)
      have gray := unnamed (List.subset_append_right _ _)
      simp only [Style.colorOfWord, standard, gray, if_pos marked, read]

/-- A word that writes an item adds it. -/
theorem addWord (written : Written item [word]) (spec : Text) (style : Style) :
    addWord spec style word = .ok (style.addItem item) := by
  cases item with
  | emphasis emphasis =>
      cases written
      rw [Style.addWord, addAttribute?_name]
  | color color =>
      rw [Style.addWord, addAttribute?_eq_none written.ne_name, written.colorOfWord]
      rfl

theorem ne_brightWord (written : Written item [word]) : word ≠ brightWord := by
  rintro rfl
  have unread : Style.addWord [] plain brightWord = .error (.unknownAttribute brightWord []) := by
    rfl
  rw [written.addWord] at unread
  cases unread

theorem word_or_bright (written : Written item piece) :
    (∃ word, piece = [word]) ∨
      ∃ entry ∈ Color.bright, piece = [brightWord, entry.1.toList] ∧ item = .color entry.2 := by
  cases written with
  | emphasis | standard | gray | hex => exact .inl ⟨_, rfl⟩
  | bright _ named => exact .inr ⟨_, named, rfl, rfl⟩

end Item.Written

/-- What is reported for a word at which no item begins. -/
def problemAt (spec word : Text) : ParseError :=
  if word.head? = some '#' then .invalidHex word else .unknownAttribute word spec

/-- A word that writes nothing is reported. -/
theorem addWord_unwritten {word : Text} (unwritten : ∀ item, ¬Item.Written item [word])
    (spec : Text) (style : Style) : addWord spec style word = .error (problemAt spec word) := by
  have unnamed : ∀ emphasis : Emphasis, word ≠ emphasis.name := by
    rintro emphasis rfl
    exact unwritten _ (.emphasis emphasis)
  have standard : Color.named? Color.standard word = none := by
    refine named?_eq_none fun named => ?_
    rintro rfl
    exact unwritten _ (.standard named)
  have gray : Color.named? Color.grays word = none := by
    refine named?_eq_none fun named => ?_
    rintro rfl
    exact unwritten _ (.gray named)
  rw [addWord, addAttribute?_eq_none unnamed]
  simp only [colorOfWord, standard, gray, problemAt]
  split
  · next marked =>
      have unread : Color.ofHex? word = none :=
        Option.eq_none_iff_forall_ne_some.mpr fun color read => unwritten _ (.hex marked read)
      rw [unread]
      rfl
  · rfl

/-! ## Reading item by item -/

/-- The words of an item add it. -/
theorem addWords_written {item : Item} {piece : List Text} (written : item.Written piece)
    (spec : Text) (style : Style) (rest : List Text) :
    addWords spec style (piece ++ rest) = addWords spec (style.addItem item) rest := by
  rcases written.word_or_bright with ⟨word, rfl⟩ | ⟨entry, named, rfl, rfl⟩
  · have here := written.addWord spec style
    cases rest with
    | nil => exact here
    | cons name rest =>
        have alone : brightColor? word name = none := if_neg written.ne_brightWord
        simp only [List.singleton_append, addWords, alone, here]
  · have found : brightColor? brightWord entry.1.toList = some entry.2 :=
      (if_pos rfl).trans (named?_bright entry named)
    simp only [List.cons_append, List.nil_append, addWords, found]
    rfl

/-- Where no item begins, the first word is reported. -/
theorem addWords_stuck {word : Text} {rest : List Text} (stuck : NoItem (word :: rest))
    (spec : Text) (style : Style) :
    addWords spec style (word :: rest) = .error (problemAt spec word) := by
  have here : addWord spec style word = .error (problemAt spec word) :=
    addWord_unwritten (fun item written => stuck item _ written (List.prefix_append [word] rest))
      spec style
  cases rest with
  | nil => exact here
  | cons name rest =>
      have dull : brightColor? word name = none := by
        rw [brightColor?]
        split
        · next bright =>
            refine named?_eq_none fun named same => ?_
            refine stuck _ _ (.bright (base_bright _ named) named) ⟨rest, ?_⟩
            rw [bright, same]
            rfl
        · rfl
      simp only [addWords, dull, here]

/-- Words that are cut into items add them one after the other. -/
theorem addWords_cutting {cutting : List (Item × List Text)} {words : List Text}
    (cut : IsCutting cutting words) (spec : Text) (style : Style) (rest : List Text) :
    addWords spec style (words ++ rest)
      = addWords spec ((cutting.map Prod.fst).foldl addItem style) rest := by
  induction cutting generalizing words style with
  | nil =>
      obtain rfl := cut.whole
      rfl
  | cons part cutting ih =>
      obtain ⟨written, behind, rfl, others⟩ := isCutting_cons_iff.mp cut
      rw [List.append_assoc, addWords_written written, ih others]
      rfl

/-! ## Cutting words into items -/

/-- Of two items that begin the same words, neither goes on behind the other, and they are the
same. -/
theorem Item.Written.unique {item other : Item} {piece second rest behind : List Text}
    (written : item.Written piece) (also : other.Written second)
    (same : piece ++ rest = second ++ behind) : item = other ∧ piece = second := by
  -- A word is told from others by what it adds, and the first word of a bright color adds nothing.
  rcases written.word_or_bright with ⟨word, rfl⟩ | ⟨entry, named, rfl, rfl⟩
  · rcases also.word_or_bright with ⟨_, rfl⟩ | ⟨entry, -, rfl, -⟩
    · obtain ⟨rfl, -⟩ := List.cons.inj same
      have equal := (written.addWord [] plain).symm.trans (also.addWord [] plain)
      exact ⟨addItem_plain_inj (Except.ok.inj equal), rfl⟩
    · exact absurd (List.cons.inj same).1 written.ne_brightWord
  · rcases also.word_or_bright with ⟨_, rfl⟩ | ⟨next, alsoNamed, rfl, rfl⟩
    · exact absurd (List.cons.inj same).1.symm also.ne_brightWord
    · have names : entry.1.toList = next.1.toList := (List.cons.inj (List.cons.inj same).2).1
      have colors := named?_bright entry named
      rw [names, named?_bright next alsoNamed] at colors
      exact ⟨congrArg Item.color (Option.some.inj colors).symm, by rw [names]⟩

/-- There is one way to cut words into items. -/
theorem IsCutting.unique {cutting other : List (Item × List Text)} {words : List Text}
    (cut : IsCutting cutting words) (also : IsCutting other words) : cutting = other := by
  induction cutting generalizing other words with
  | nil =>
      obtain rfl := cut.whole
      exact (isCutting_nil_iff.mp also).symm
  | cons part cutting ih =>
      cases other with
      | nil =>
          obtain rfl := also.whole
          exact isCutting_nil_iff.mp cut
      | cons next other =>
          obtain ⟨here, rest, rfl, behind⟩ := isCutting_cons_iff.mp cut
          obtain ⟨alsoHere, alsoRest, same, alsoBehind⟩ := isCutting_cons_iff.mp also
          obtain ⟨items, pieces⟩ := alsoHere.unique here same
          rw [pieces] at same
          obtain rfl := List.append_cancel_left same
          rw [ih behind alsoBehind, Prod.ext items.symm pieces.symm]

/-- Words are cut into items up to their end or to a place where no item begins. -/
theorem exists_cutting (words : List Text) :
    ∃ cutting before rest, words = before ++ rest ∧ IsCutting cutting before ∧
      (rest = [] ∨ NoItem rest) := by
  induction size : words.length using Nat.strongRecOn generalizing words with
  | ind count ih =>
      by_cases stuck : NoItem words
      · exact ⟨[], [], words, rfl, isCutting_nil_iff.mpr rfl, .inr stuck⟩
      · simp only [NoItem, not_forall, not_not] at stuck
        obtain ⟨item, piece, written, rest, rfl⟩ := stuck
        have shorter : rest.length < count := by
          rw [← size, List.length_append]
          exact Nat.lt_add_of_pos_left (List.length_pos_iff.mpr written.ne_nil)
        obtain ⟨cutting, before, behind, rfl, cut, ends⟩ := ih _ shorter rest rfl
        exact ⟨(item, piece) :: cutting, piece ++ before, behind, (List.append_assoc ..).symm,
          isCutting_cons_iff.mpr ⟨written, before, rfl, cut⟩, ends⟩

section

variable {spec : Text} {words : List Text} {style : Style} {problem : ParseError}

/-- Words add up to a style exactly if they are cut into items, whose style it is then. -/
theorem addWords_eq_ok_iff :
    addWords spec plain words = .ok style ↔
      ∃ cutting, IsCutting cutting words ∧ style = ofItems (cutting.map Prod.fst) := by
  have reads : ∀ {cutting before}, IsCutting cutting before → ∀ rest,
      addWords spec plain (before ++ rest)
        = addWords spec (ofItems (cutting.map Prod.fst)) rest := by
    intro cutting before cut rest
    rw [addWords_cutting cut, foldl_addItem]
  constructor
  · intro read
    obtain ⟨cutting, before, rest, rfl, cut, ends⟩ := exists_cutting words
    rw [reads cut] at read
    match rest with
    | [] =>
        rw [List.append_nil]
        exact ⟨cutting, cut, (Except.ok.inj read).symm⟩
    | word :: rest =>
        rw [addWords_stuck (ends.resolve_left (List.cons_ne_nil _ _))] at read
        cases read
  · rintro ⟨cutting, cut, rfl⟩
    have whole := reads cut []
    rwa [List.append_nil] at whole

/-- Reading words ends with a problem exactly at a word at which no item begins, behind others that
are cut into items. -/
theorem addWords_eq_error_iff :
    addWords spec plain words = .error problem ↔
      ∃ cutting before word rest, words = before ++ word :: rest ∧ IsCutting cutting before ∧
        NoItem (word :: rest) ∧ problem = problemAt spec word := by
  constructor
  · intro read
    obtain ⟨cutting, before, rest, rfl, cut, ends⟩ := exists_cutting words
    rw [addWords_cutting cut] at read
    match rest with
    | [] => cases read
    | word :: rest =>
        have stuck := ends.resolve_left (List.cons_ne_nil _ _)
        rw [addWords_stuck stuck] at read
        exact ⟨cutting, before, word, rest, rfl, cut, stuck, (Except.error.inj read).symm⟩
  · rintro ⟨cutting, before, word, rest, rfl, cut, stuck, rfl⟩
    rw [addWords_cutting cut, addWords_stuck stuck]

end

/-- A text is a style exactly if it has no words, the word none alone, or words that are cut into
items. There is one way to cut them, and the style has the attributes that are among the items and
the last of their colors. Any other text is reported for the first word at which no item begins. -/
theorem parse_grammar (spec : Text) :
    (∀ style, parse spec = .ok style ↔
        ((Text.words spec.lower = [] ∨ Text.words spec.lower = ["none".toList]) ∧ style = plain) ∨
          ∃ cutting, IsCutting cutting (Text.words spec.lower) ∧
            style = ofItems (cutting.map Prod.fst)) ∧
      (∀ cutting, IsCutting cutting (Text.words spec.lower) →
        ∀ other, IsCutting other (Text.words spec.lower) → other = cutting) ∧
      ∀ problem, parse spec = .error problem ↔
        Text.words spec.lower ≠ ["none".toList] ∧
          ∃ cutting before word rest, Text.words spec.lower = before ++ word :: rest ∧
            IsCutting cutting before ∧ NoItem (word :: rest) ∧ problem = problemAt spec word := by
  rw [parse]
  generalize Text.words spec.lower = words
  refine ⟨fun style => ?_, fun _ cut _ also => also.unique cut, fun problem => ?_⟩
  · by_cases alone : words = ["none".toList]
    · have uncut : ∀ cutting, ¬IsCutting cutting words := by
        intro cutting cut
        have read : addWords spec plain words = .ok _ := addWords_eq_ok_iff.mpr ⟨cutting, cut, rfl⟩
        have unread : addWords spec plain ["none".toList]
            = .error (.unknownAttribute "none".toList spec) := rfl
        rw [alone, unread] at read
        cases read
      simp only [if_pos alone, Except.ok.injEq, uncut, false_and, exists_false, or_false]
      simp [alone, eq_comm]
    · rw [if_neg alone, addWords_eq_ok_iff]
      constructor
      · exact .inr
      · rintro (⟨none | none, rfl⟩ | cut)
        · exact ⟨[], none ▸ isCutting_nil_iff.mpr rfl, rfl⟩
        · exact absurd none alone
        · exact cut
  · by_cases alone : words = ["none".toList]
    · simp [alone]
    · rw [if_neg alone, addWords_eq_error_iff, and_iff_right alone]

/-- A style that names three colors. -/
def colorfulSpec : Text := "Bright RED bold #0f0\tgrey".toList

/-- Its words cut into items. -/
def colorfulCutting : List (Item × List Text) := [
  (.color (.ofPercent 100 0 0), ["bright".toList, "red".toList]),
  (.emphasis .bold, ["bold".toList]),
  (.color ⟨Color.channelOfByte 0, Color.channelOfByte 255, Color.channelOfByte 0⟩,
    ["#0f0".toList]),
  (.color (.ofPercent 50 50 50), ["grey".toList])]

/-- This style is bold and gray, and its words are cut in no other way. -/
theorem parse_grammar_colorful :
    IsCutting colorfulCutting (Text.words colorfulSpec.lower) ∧
      (∀ other, IsCutting other (Text.words colorfulSpec.lower) → other = colorfulCutting) ∧
      parse colorfulSpec = .ok ⟨true, false, false, true, .ofPercent 50 50 50⟩ := by
  have words : Text.words colorfulSpec.lower
      = ["bright".toList, "red".toList, "bold".toList, "#0f0".toList, "grey".toList] := by
    decide
  have red : Item.Written (.color (.ofPercent 100 0 0)) [brightWord, "red".toList] :=
    .bright (by decide) (by decide +kernel)
  have bold : Item.Written (.emphasis .bold) ["bold".toList] := .emphasis .bold
  have green : Item.Written
      (.color ⟨Color.channelOfByte 0, Color.channelOfByte 255, Color.channelOfByte 0⟩)
      ["#0f0".toList] :=
    .hex rfl (by decide)
  have grey : Item.Written (.color (.ofPercent 50 50 50)) ["grey".toList] :=
    .gray (by decide)
  have cut : IsCutting colorfulCutting (Text.words colorfulSpec.lower) := by
    refine ⟨?_, words.symm⟩
    simp only [colorfulCutting, List.forall_mem_cons]
    exact ⟨red, bold, green, grey, nofun⟩
  obtain ⟨reads, unique, -⟩ := parse_grammar colorfulSpec
  exact ⟨cut, unique _ cut, (reads _).mpr (.inr ⟨_, cut, by decide⟩)⟩

/-- Where a word behind the word bright names no bright color, the word bright is reported. -/
example : parse "bold bright bright red".toList
    = .error (.unknownAttribute "bright".toList "bold bright bright red".toList) := by
  rfl

end Winnow.Style
