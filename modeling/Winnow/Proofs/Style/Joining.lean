import Winnow.Proofs.Style.Grammar

/-!
# Styles one behind the other

To add an item is to combine with it (`addItem_eq_combine`), and combining is
associative, so the style of two rows of items is that of both, combined
(`ofItems_append`). A blank between two texts keeps them apart: it ends the search for
the letters that decide how a sigma is lowered (`lower_append_blank`), and it ends a
word (`words_append_blank`). No item reaches from an accepted text into the next one,
since each of the texts is cut into items by itself. So texts that are joined by a blank
write the combined style (`parse_joined`).
-/

namespace Winnow

/-! ## Texts on both sides of a blank -/

namespace Text

/-- A blank ends the search for a cased letter. -/
theorem nextIsCased_append_blank (text rest : Text) :
    nextIsCased (text ++ ' ' :: rest) = nextIsCased text := by
  have stops : (' ' :: rest).dropWhile
      (fun char => Unicode.inRuns Unicode.caseIgnorable char.toNat) = ' ' :: rest :=
    List.dropWhile_cons_of_neg (by decide)
  have uncased : Unicode.inRuns Unicode.casedLetters ' '.toNat = false := by decide
  rw [nextIsCased, nextIsCased, List.dropWhile_append, stops]
  cases text.dropWhile fun char => Unicode.inRuns Unicode.caseIgnorable char.toNat with
  | nil => exact uncased
  | cons char rest => rfl

/-- What stands in front of a blank does not matter behind it. -/
theorem lowerAfter_behind_blank (before front text : Text) :
    lowerAfter (before ++ ' ' :: front) text = lowerAfter before text := by
  induction text generalizing before with
  | nil => rfl
  | cons char rest ih =>
      have here : lowerChar (before ++ ' ' :: front) char rest = lowerChar before char rest := by
        simp only [lowerChar, nextIsCased_append_blank]
      rw [lowerAfter, lowerAfter, here, ← List.cons_append, ih]

/-- Texts on both sides of a blank are lowered by themselves. -/
theorem lowerAfter_append_blank (before text rest : Text) :
    lowerAfter before (text ++ ' ' :: rest) = lowerAfter before text ++ ' ' :: lower rest := by
  induction text generalizing before with
  | nil =>
      have kept : lowerChar before ' ' rest = [' '] := by
        rw [lowerChar, if_neg (by decide), if_neg (by decide)]
        decide
      have behind : lowerAfter (' ' :: before) rest = lower rest :=
        lowerAfter_behind_blank [] before rest
      rw [List.nil_append, lowerAfter, lowerAfter, kept, behind]
      rfl
  | cons char text ih =>
      have here : lowerChar before char (text ++ ' ' :: rest) = lowerChar before char text := by
        simp only [lowerChar, nextIsCased_append_blank]
      rw [List.cons_append, lowerAfter, lowerAfter, here, ih, List.append_assoc]

/-- Lowering keeps a blank, and the texts on both sides of it are lowered by themselves. -/
theorem lower_append_blank (text rest : Text) :
    lower (text ++ ' ' :: rest) = lower text ++ ' ' :: lower rest :=
  lowerAfter_append_blank [] text rest

/-- A separator ends the piece before it, and the pieces behind it begin anew. -/
theorem piecesFrom_append_separator {separates : Char → Bool} {separator : Char}
    (ends : separates separator = true) (piece text rest : Text) :
    piecesFrom separates piece (text ++ separator :: rest)
      = piecesFrom separates piece text ++ piecesFrom separates [] rest := by
  induction text generalizing piece with
  | nil =>
      rw [List.nil_append, piecesFrom, piecesFrom, if_pos ends]
      split <;> rfl
  | cons char text ih =>
      rw [List.cons_append, piecesFrom, piecesFrom]
      split
      · split
        · exact ih []
        · rw [ih, List.cons_append]
      · exact ih (char :: piece)

/-- The words of texts on both sides of a blank are those of both. -/
theorem words_append_blank (text rest : Text) :
    words (text ++ ' ' :: rest) = words text ++ words rest :=
  piecesFrom_append_separator (by decide) [] text rest

end Text

namespace Style

/-! ## Combining -/

@[simp] theorem combine_plain (style : Style) : style.combine plain = style := by
  simp [combine, plain]

theorem combine_assoc (base middle overlay : Style) :
    (base.combine middle).combine overlay = base.combine (middle.combine overlay) := by
  cases covers : overlay.colored <;> simp [combine, covers, Bool.or_assoc]

/-- Adding an item is combining with what the item is by itself. -/
theorem addItem_eq_combine (style : Style) (item : Item) :
    style.addItem item = style.combine (plain.addItem item) := by
  match item with
  | .emphasis .bold => simp [addItem, combine, plain]
  | .emphasis .underline => simp [addItem, combine, plain]
  | .emphasis .italic => simp [addItem, combine, plain]
  | .color color => simp [addItem, withColor, combine, plain]

/-- The style of items behind others is laid over the style of the others. -/
theorem ofItems_append (items others : List Item) :
    ofItems (items ++ others) = (ofItems items).combine (ofItems others) := by
  induction others using List.reverseRecOn with
  | nil => rw [List.append_nil, ← foldl_addItem [], List.foldl_nil, combine_plain]
  | append_singleton others item ih =>
      rw [← List.append_assoc, ofItems_concat, ih, addItem_eq_combine, combine_assoc,
        ← addItem_eq_combine, ← ofItems_concat]

/-! ## Joined styles -/

theorem IsCutting.append {cutting other : List (Item × List Text)} {words rest : List Text}
    (cut : IsCutting cutting words) (behind : IsCutting other rest) :
    IsCutting (cutting ++ other) (words ++ rest) where
  written := List.forall_mem_append.mpr ⟨cut.written, behind.written⟩
  whole := by rw [List.flatMap_append, cut.whole, behind.whole]

/-- A text other than the word none alone is a style exactly if its words are cut into items. -/
theorem parse_eq_ok_iff {spec : Text} {style : Style}
    (named : Text.words spec.lower ≠ ["none".toList]) :
    parse spec = .ok style ↔
      ∃ cutting, IsCutting cutting (Text.words spec.lower) ∧
        style = ofItems (cutting.map Prod.fst) := by
  rw [parse, if_neg named]
  exact addWords_eq_ok_iff

/-- Texts that are styles, neither of them the word none alone, are a style when they are joined by
a blank: that of the second text laid over that of the first one. In which order more than two
styles are combined makes no difference. -/
theorem parse_joined :
    (∀ (first second : Text) (base overlay : Style),
      Text.words first.lower ≠ ["none".toList] → Text.words second.lower ≠ ["none".toList] →
      parse first = .ok base → parse second = .ok overlay →
      parse (first ++ ' ' :: second) = .ok (base.combine overlay)) ∧
    ∀ base middle overlay : Style,
      (base.combine middle).combine overlay = base.combine (middle.combine overlay) := by
  refine ⟨fun first second base overlay firstNamed secondNamed reads alsoReads => ?_,
    combine_assoc⟩
  have joined : Text.words (first ++ ' ' :: second).lower
      = Text.words first.lower ++ Text.words second.lower := by
    rw [Text.lower_append_blank, Text.words_append_blank]
  have named : Text.words (first ++ ' ' :: second).lower ≠ ["none".toList] := by
    intro alone
    rw [joined, List.append_eq_singleton_iff] at alone
    rcases alone with ⟨-, secondAlone⟩ | ⟨firstAlone, -⟩
    · exact secondNamed secondAlone
    · exact firstNamed firstAlone
  obtain ⟨cutting, cut, rfl⟩ := (parse_eq_ok_iff firstNamed).mp reads
  obtain ⟨other, behind, rfl⟩ := (parse_eq_ok_iff secondNamed).mp alsoReads
  refine (parse_eq_ok_iff named).mpr ⟨cutting ++ other, ?_, ?_⟩
  · rw [joined]
    exact cut.append behind
  · rw [List.map_append, ofItems_append]

/-- A bright color at the end of one style and the name of a color at the beginning of the next one
are two colors, of which the second one counts. -/
theorem parse_joined_colors :
    parse "BOLD bright red".toList = .ok ⟨true, false, false, true, .ofPercent 100 0 0⟩ ∧
      parse "blue italic".toList = .ok ⟨false, false, true, true, .ofPercent 0 0 80⟩ ∧
      parse "BOLD bright red blue italic".toList
        = .ok ⟨true, false, true, true, .ofPercent 0 0 80⟩ := by
  have first : parse "BOLD bright red".toList
      = .ok ⟨true, false, false, true, .ofPercent 100 0 0⟩ := by
    rfl
  have second : parse "blue italic".toList
      = .ok ⟨false, false, true, true, .ofPercent 0 0 80⟩ := by
    rfl
  exact ⟨first, second,
    parse_joined.1 _ _ _ _ (by decide) (by decide) first second⟩

/-- The word none is no style beside others. -/
example : parse "none bold".toList
    = .error (.unknownAttribute "none".toList "none bold".toList) := by
  rfl

end Style

end Winnow
