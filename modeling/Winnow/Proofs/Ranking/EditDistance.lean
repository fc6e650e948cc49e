import Winnow.Proofs.Ranking.Edits
import Winnow.Ranking.EditDistance
import Winnow.Text.Utf8
import Mathlib.Order.Bounds.Defs

/-!
# The edit distance as the least number of edits

A row holds the distances of one text from the beginnings of another one (`CellsFor`). One
more character of the first text turns its row into the next one (`CellsFor.next`), since
the last characters of two texts are kept, substituted, or one of them is dropped
(`editedAlong_cons_cons_iff`), so the last cell of the last row is the distance of the
whole texts (`isDistance_levenshtein`). That the edit distance is a metric follows from
what can be done with edits, not from the rows. Folding keeps lengths, so it does not
matter that texts are found to be too long before they are folded
(`distanceOf_leastEdits`).
-/

namespace Winnow.Ranking

/-! ## Reading texts from their ends -/

namespace EditedAlong

variable {bound others : Nat} {first second third fourth : Text}

/-- Edits along two texts, then along two others. -/
theorem append (along : EditedAlong bound first second) (behind : EditedAlong others third fourth) :
    EditedAlong (bound + others) (first ++ third) (second ++ fourth) := by
  induction along with
  | nil bound => exact behind.mono (Nat.le_add_left _ _)
  | keep char _ ih => exact .keep char ih
  | insert char _ ih =>
      rw [Nat.add_right_comm]
      exact .insert char ih
  | delete char _ ih =>
      rw [Nat.add_right_comm]
      exact .delete char ih
  | substitute old new _ ih =>
      rw [Nat.add_right_comm]
      exact .substitute old new ih

/-- Edits can be made from right to left as well. -/
theorem reverse (along : EditedAlong bound first second) :
    EditedAlong bound first.reverse second.reverse := by
  induction along with
  | nil bound => exact .nil bound
  | keep char _ ih =>
      rw [List.reverse_cons, List.reverse_cons]
      exact ih.append (.keep char (.nil 0))
  | @insert _ first _ char _ ih =>
      rw [List.reverse_cons, ← List.append_nil first.reverse]
      exact ih.append (.insert char (.nil 0))
  | @delete _ _ second char _ ih =>
      rw [List.reverse_cons, ← List.append_nil second.reverse]
      exact ih.append (.delete char (.nil 0))
  | substitute old new _ ih =>
      rw [List.reverse_cons, List.reverse_cons]
      exact ih.append (.substitute old new (.nil 0))

end EditedAlong

section

variable {bound : Nat} {first second : Text}

theorem editedAlong_reverse_iff :
    EditedAlong bound first.reverse second.reverse ↔ EditedAlong bound first second := by
  refine ⟨fun along => ?_, EditedAlong.reverse⟩
  rw [← List.reverse_reverse first, ← List.reverse_reverse second]
  exact along.reverse

/-- Nothing becomes a text when each character is inserted. -/
theorem editedAlong_nil_left_iff : EditedAlong bound [] second ↔ second.length ≤ bound := by
  constructor
  · intro along
    obtain ⟨count, le, edits⟩ := along.exists_editedIn
    have lengths := edits.symm.length_le
    rw [List.length_nil] at lengths
    omega
  · intro enough
    induction second generalizing bound with
    | nil => exact .nil bound
    | cons char second ih =>
        match bound, enough with
        | _ + 1, enough => exact .insert char (ih (Nat.le_of_succ_le_succ enough))

theorem editedAlong_nil_right_iff : EditedAlong bound first [] ↔ first.length ≤ bound := by
  rw [← editedAlong_nil_left_iff, ← exists_editedIn_iff, ← exists_editedIn_iff]
  exact exists_congr fun count => and_congr_right fun _ => ⟨EditedIn.symm, EditedIn.symm⟩

/-- At the front two characters are kept if they are equal, or one edit is spent on both of them,
on the second one or on the first one. -/
theorem editedAlong_cons_cons_iff {old new : Char} :
    EditedAlong bound (old :: first) (new :: second) ↔
      (old = new ∧ EditedAlong bound first second) ∨
        ∃ less, bound = less + 1 ∧
          (EditedAlong less first second ∨ EditedAlong less (old :: first) second ∨
            EditedAlong less first (new :: second)) := by
  constructor
  · intro along
    cases along with
    | keep _ along => exact .inl ⟨rfl, along⟩
    | insert _ along => exact .inr ⟨_, rfl, .inr (.inl along)⟩
    | delete _ along => exact .inr ⟨_, rfl, .inr (.inr along)⟩
    | substitute _ _ along => exact .inr ⟨_, rfl, .inl along⟩
  · rintro (⟨rfl, along⟩ | ⟨less, rfl, along | along | along⟩)
    · exact .keep old along
    · exact .substitute old new along
    · exact .insert new along
    · exact .delete old along

end

/-! ## The cells of a row -/

/-- So many edits along two texts are the least that are enough. -/
def IsDistance (count : Nat) (first second : Text) : Prop :=
  ∀ bound, EditedAlong bound first second ↔ count ≤ bound

/-- The distance of two texts from those of the texts without their first characters. -/
theorem IsDistance.cell {diagonal above left : Nat} {first second : Text} {char other : Char}
    (both : IsDistance diagonal first second) (onlyFirst : IsDistance above first (other :: second))
    (onlySecond : IsDistance left (char :: first) second) :
    IsDistance
      (min (if char = other then diagonal else diagonal + 1) (min (above + 1) (left + 1)))
      (char :: first) (other :: second) := by
  intro bound
  rw [editedAlong_cons_cons_iff, both bound]
  simp only [both _, onlyFirst _, onlySecond _]
  split
  · next same =>
      simp only [same, true_and]
      constructor
      · rintro (kept | ⟨less, rfl, enough⟩) <;> omega
      · intro enough
        by_cases kept : diagonal ≤ bound
        · exact .inl kept
        · exact .inr ⟨bound - 1, by omega, by omega⟩
  · next differ =>
      simp only [differ, false_and, false_or]
      constructor
      · rintro ⟨less, rfl, enough⟩
        omega
      · intro enough
        exact ⟨bound - 1, by omega, by omega⟩

/-- The cells of a row, one for each character of a text that follows `before`: the distances of the
first text from what has been read up to there. Both are held with the last character first. -/
inductive CellsFor (first : Text) : Text → Text → List Nat → Prop
  | nil (before : Text) : CellsFor first before [] []
  | cons {before rest : Text} {char : Char} {cell : Nat} {row : List Nat}
      (here : IsDistance cell first (char :: before))
      (behind : CellsFor first (char :: before) rest row) :
      CellsFor first before (char :: rest) (cell :: row)

namespace CellsFor

variable {first before rest : Text} {row : List Nat}

/-- The row of no characters counts. -/
theorem initial (before rest : Text) :
    CellsFor [] before rest (List.range' (before.length + 1) rest.length) := by
  induction rest generalizing before with
  | nil => exact .nil before
  | cons char rest ih =>
      rw [List.length_cons, List.range'_succ]
      exact .cons (fun _ => editedAlong_nil_left_iff) (ih (char :: before))

/-- One more character of the first text gives the next row. -/
theorem next {char : Char} {diagonal left : Nat} (cells : CellsFor first before rest row)
    (corner : IsDistance diagonal first before) (edge : IsDistance left (char :: first) before) :
    CellsFor (char :: first) before rest (distanceRow char diagonal left rest row) := by
  induction cells generalizing diagonal left with
  | nil before => exact .nil before
  | cons here _ ih =>
      -- The cell above is the corner of the next one.
      have cell := corner.cell here edge
      exact .cons cell (ih here cell)

/-- The last cell is the distance from the whole text. -/
theorem last {edge : Nat} (cells : CellsFor first before rest row)
    (empty : IsDistance edge first before) :
    IsDistance (row.getLastD edge) first (rest.reverse ++ before) := by
  induction cells generalizing edge with
  | nil before => exact empty
  | cons here _ ih =>
      rw [List.getLastD_cons, List.reverse_cons, List.append_assoc, List.singleton_append]
      exact ih here

/-- The rows that are still to come lead to the distance of the whole texts. -/
theorem run {second : Text} (cells : CellsFor first [] second row) (rest : Text) :
    IsDistance (distanceFrom first.length row second rest) (rest.reverse ++ first)
      second.reverse := by
  -- In front of every row stands the number of characters that have been read.
  have edge : ∀ first : Text, IsDistance first.length first [] := fun _ _ =>
    editedAlong_nil_right_iff
  induction rest generalizing first row with
  | nil =>
      have whole := cells.last (edge first)
      rwa [List.append_nil] at whole
  | cons char rest ih =>
      have further := ih (cells.next (edge first) (edge (char :: first)))
      rw [List.reverse_cons, List.append_assoc, List.singleton_append]
      exact further

end CellsFor

/-- The rows end with the distance of two texts. -/
theorem isDistance_levenshtein (first second : Text) :
    IsDistance (levenshtein first second) first second := by
  have whole := (CellsFor.initial [] second).run first
  rw [List.append_nil] at whole
  exact fun bound => editedAlong_reverse_iff.symm.trans (whole bound)

/-! ## A metric on texts -/

section

variable (first second third : Text)

/-- The edit distance is the least number of edits. -/
theorem isLeast_levenshtein :
    IsLeast {count | EditedIn count first second} (levenshtein first second) := by
  have enough : ∀ bound, (∃ count ≤ bound, EditedIn count first second) ↔
      levenshtein first second ≤ bound := fun bound =>
    exists_editedIn_iff.trans (isDistance_levenshtein first second bound)
  obtain ⟨count, le, edits⟩ := (enough _).mpr (Nat.le_refl _)
  have same : count = levenshtein first second :=
    Nat.le_antisymm le ((enough count).mp ⟨count, Nat.le_refl _, edits⟩)
  subst same
  exact ⟨edits, fun other others => (enough other).mp ⟨other, Nat.le_refl _, others⟩⟩

theorem levenshtein_comm : levenshtein first second = levenshtein second first := by
  obtain ⟨there, leastThere⟩ := isLeast_levenshtein first second
  obtain ⟨back, leastBack⟩ := isLeast_levenshtein second first
  exact Nat.le_antisymm (leastThere back.symm) (leastBack there.symm)

/-- Only equal texts have no distance. -/
theorem levenshtein_eq_zero_iff : levenshtein first second = 0 ↔ first = second := by
  obtain ⟨edits, least⟩ := isLeast_levenshtein first second
  constructor
  · intro zero
    rw [zero] at edits
    exact editedIn_zero_iff.mp edits
  · intro same
    exact Nat.le_zero.mp (least (editedIn_zero_iff.mpr same))

theorem levenshtein_triangle :
    levenshtein first third ≤ levenshtein first second + levenshtein second third :=
  (isLeast_levenshtein first third).2
    ((isLeast_levenshtein first second).1.trans (isLeast_levenshtein second third).1)

theorem length_le_levenshtein : first.length ≤ second.length + levenshtein first second :=
  (isLeast_levenshtein first second).1.length_le

/-- The edit distance is no more than the length of the longer text. -/
theorem levenshtein_le_max : levenshtein first second ≤ max first.length second.length := by
  refine (isDistance_levenshtein first second _).mp ?_
  induction first generalizing second with
  | nil => exact editedAlong_nil_left_iff.mpr (Nat.le_max_right _ _)
  | cons old first ih =>
      cases second with
      | nil => exact editedAlong_nil_right_iff.mpr (Nat.le_max_left _ _)
      | cons new second =>
          rw [List.length_cons, List.length_cons, Nat.add_max_add_right]
          exact .substitute old new (ih second)

end

/-! ## The edit distance of what is handed in -/

section

/-- The characters of a text that count: folded unless case counts. -/
def counted (caseSensitive : Bool) (data : TextData) : Text :=
  if caseSensitive then data.decoded else data.decoded.foldCase

/-- The edit distance of what is handed in for two texts. -/
def distanceOf (limit : Nat) (caseSensitive : Bool) (first second : TextData) : Nat :=
  editDistance limit first.decoded second.decoded caseSensitive

/-- The shorter text is too long to compare, so both of them are. -/
def Saturates (limit : Nat) (first second : TextData) : Prop :=
  limit ≤ min first.decoded.length second.decoded.length

instance (limit : Nat) (first second : TextData) : Decidable (Saturates limit first second) :=
  inferInstanceAs (Decidable (_ ≤ _))

theorem length_counted (caseSensitive : Bool) (data : TextData) :
    (counted caseSensitive data).length = data.decoded.length := by
  cases caseSensitive with
  | true => rfl
  | false => exact Text.length_foldCase _

variable {limit : Nat} (caseSensitive : Bool) {first second : TextData}

theorem saturates_comm : Saturates limit first second ↔ Saturates limit second first := by
  rw [Saturates, Saturates, Nat.min_comm]

theorem distanceOf_of_saturates (long : Saturates limit first second) :
    distanceOf limit caseSensitive first second = saturatedDistance :=
  if_pos long

theorem distanceOf_eq (short : ¬Saturates limit first second) :
    distanceOf limit caseSensitive first second
      = levenshtein (counted caseSensitive first) (counted caseSensitive second) := by
  refine (if_neg short).trans ?_
  cases caseSensitive <;> rfl

end

/-- The edit distance of texts is saturated if both of them are too long, and the same either way
round. Otherwise it is the least number of edits that turn the characters that count of one text
into those of the other one; no distance means that these are equal, it lies between the difference
of the lengths and the greater of them, and it is never greater by way of a third text. -/
theorem distanceOf_leastEdits (limit : Nat) (caseSensitive : Bool)
    (first second third : TextData) :
    (Saturates limit first second →
        distanceOf limit caseSensitive first second = saturatedDistance) ∧
      distanceOf limit caseSensitive first second = distanceOf limit caseSensitive second first ∧
      (¬Saturates limit first second →
        IsLeast {count | EditedIn count (counted caseSensitive first)
            (counted caseSensitive second)}
          (distanceOf limit caseSensitive first second) ∧
        (distanceOf limit caseSensitive first second = 0 ↔
          counted caseSensitive first = counted caseSensitive second) ∧
        max first.decoded.length second.decoded.length
            - min first.decoded.length second.decoded.length
          ≤ distanceOf limit caseSensitive first second ∧
        distanceOf limit caseSensitive first second
          ≤ max first.decoded.length second.decoded.length ∧
        (¬Saturates limit second third → ¬Saturates limit first third →
          distanceOf limit caseSensitive first third
            ≤ distanceOf limit caseSensitive first second
              + distanceOf limit caseSensitive second third)) := by
  refine ⟨distanceOf_of_saturates caseSensitive, ?_, fun short => ?_⟩
  · by_cases long : Saturates limit first second
    · rw [distanceOf_of_saturates _ long, distanceOf_of_saturates _ (saturates_comm.mp long)]
    · rw [distanceOf_eq _ long, distanceOf_eq _ (mt saturates_comm.mp long), levenshtein_comm]
  · rw [distanceOf_eq _ short]
    have longer := levenshtein_le_max (counted caseSensitive first) (counted caseSensitive second)
    have there :=
      length_le_levenshtein (counted caseSensitive first) (counted caseSensitive second)
    have back :=
      length_le_levenshtein (counted caseSensitive second) (counted caseSensitive first)
    rw [levenshtein_comm (counted caseSensitive second)] at back
    simp only [length_counted] at longer there back
    refine ⟨isLeast_levenshtein _ _, levenshtein_eq_zero_iff _ _, by omega, longer,
      fun shortBehind shortWhole => ?_⟩
    rw [distanceOf_eq _ shortBehind, distanceOf_eq _ shortWhole]
    exact levenshtein_triangle _ _ _

/-- Capital letters, the same letters and one more as bytes, and a single letter, where texts of
three characters are too long. -/
theorem distanceOf_leastEdits_bytes :
    Saturates 3 (.text "abc".toList) (.text "abcd".toList) ∧
      distanceOf 3 false (.text "abc".toList) (.text "abcd".toList) = saturatedDistance ∧
      ¬Saturates 3 (.text "AB".toList) (.bytes [0x61, 0x62, 0x63]) ∧
      ¬Saturates 3 (.bytes [0x61, 0x62, 0x63]) (.text "c".toList) ∧
      ¬Saturates 3 (.text "AB".toList) (.text "c".toList) ∧
      IsLeast {count | EditedIn count "ab".toList "abc".toList} 1 ∧
      distanceOf 3 false (.text "AB".toList) (.text "c".toList) ≤ 1 + 2 := by
  have long : Saturates 3 (.text "abc".toList) (.text "abcd".toList) := by decide
  have short : ¬Saturates 3 (.text "AB".toList) (.bytes [0x61, 0x62, 0x63]) := by decide
  have shortBehind : ¬Saturates 3 (.bytes [0x61, 0x62, 0x63]) (.text "c".toList) := by decide
  have shortWhole : ¬Saturates 3 (.text "AB".toList) (.text "c".toList) := by decide
  have saturated := (distanceOf_leastEdits 3 false (.text "abc".toList) (.text "abcd".toList)
    (.text [])).1 long
  obtain ⟨least, -, -, -, triangle⟩ := (distanceOf_leastEdits 3 false (.text "AB".toList)
    (.bytes [0x61, 0x62, 0x63]) (.text "c".toList)).2.2 short
  have one : distanceOf 3 false (.text "AB".toList) (.bytes [0x61, 0x62, 0x63]) = 1 := by
    decide
  have two : distanceOf 3 false (.bytes [0x61, 0x62, 0x63]) (.text "c".toList) = 2 := by
    decide
  have folded : counted false (.text "AB".toList) = "ab".toList := by decide
  have decoded : counted false (.bytes [0x61, 0x62, 0x63]) = "abc".toList := by decide
  rw [one, folded, decoded] at least
  have way := triangle shortBehind shortWhole
  rw [one, two] at way
  exact ⟨long, saturated, short, shortBehind, shortWhole, least, way⟩

end Winnow.Ranking
