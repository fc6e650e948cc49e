import Winnow.Engine
import Winnow.Proofs.Ranking.Collation
import Mathlib.Data.Prod.Lex
import Mathlib.Order.Compare

/-!
# How two entries are compared

Two entries are compared by the ranks that they have where their texts are cut
to the longer one's length (`compareEntries_eq_ok_iff`). Ranks are ordered
linearly, so all comparisons that cut at one length agree with each other.
Entries of different lengths are cut at different places, and so nothing is said
here about three of them.
-/

namespace Winnow.Ranking

theorem compareCodes_compares (left right : List Nat) :
    (compareCodes left right).Compares left right := by
  cases order : compareCodes left right with
  | lt => exact compareCodes_eq_lt_iff.mp order
  | eq => exact compareCodes_eq_eq_iff.mp order
  | gt => exact compareCodes_eq_gt_iff.mp order

end Winnow.Ranking

namespace Winnow

/-- Pairs are compared by their first members, and by their second ones if those tie. -/
theorem compares_toLex {α β : Type} [LT α] [LT β] {left right : α × β}
    {first second : Ordering} (firstRight : first.Compares left.1 right.1)
    (secondRight : second.Compares left.2 right.2) :
    (first.then second).Compares (toLex left) (toLex right) := by
  cases first with
  | lt => exact Prod.Lex.toLex_lt_toLex.mpr (.inl firstRight)
  | gt => exact Prod.Lex.toLex_lt_toLex.mpr (.inl firstRight)
  | eq =>
      cases second with
      | lt => exact Prod.Lex.toLex_lt_toLex.mpr (.inr ⟨firstRight, secondRight⟩)
      | eq => exact congrArg toLex (Prod.ext firstRight secondRight)
      | gt => exact Prod.Lex.toLex_lt_toLex.mpr (.inr ⟨firstRight.symm, secondRight⟩)

theorem compare_compares {α : Type} [LinearOrder α] (left right : α) :
    (compare left right).Compares left right := by
  rw [← cmp_eq_compare]
  exact cmp_compares left right

namespace Entry

/-- Where the texts of two entries are cut when they are compared. -/
def reach (left right : Entry) : Nat := max left.text.length right.text.length

/-- The composed code points of an entry up to a length. -/
def codes (count : Nat) (entry : Entry) : List Nat :=
  (Ranking.composed entry.text).take count

/-- What ranks an entry among entries that are cut at one length: its score, its code
points up to there, and its place. -/
def rank (count : Nat) (entry : Entry) : Int ×ₗ List Nat ×ₗ Nat :=
  toLex (entry.score, toLex (entry.codes count, entry.index))

theorem length_le_reach_left (left right : Entry) : left.text.length ≤ left.reach right :=
  Nat.le_max_left _ _

theorem length_le_reach_right (left right : Entry) : right.text.length ≤ left.reach right :=
  Nat.le_max_right _ _

/-- The texts of two entries are compared by their code points up to the length of the
longer one. -/
theorem localeCompare_reach (left right : Entry) :
    Ranking.localeCompare left.text right.text (max left.text.length right.text.length)
      = if 0 ∈ left.codes (left.reach right) ∨ 0 ∈ right.codes (left.reach right) then
          .error .embeddedNull
        else .ok (Ranking.compareCodes (left.codes (left.reach right))
          (right.codes (left.reach right))) := by
  have lengths : max (left.text.length : Int) right.text.length = left.reach right := by
    rw [reach]
    omega
  rw [lengths, Ranking.localeCompare_natCast]
  rfl

/-- Two entries cannot be compared: they have one score, and a null character is among
the code points that would decide. -/
def Clashes (left right : Entry) : Prop :=
  left.score = right.score ∧
    (0 ∈ left.codes (left.reach right) ∨ 0 ∈ right.codes (left.reach right))

instance (left right : Entry) : Decidable (left.Clashes right) :=
  inferInstanceAs (Decidable (_ ∧ _))

theorem reach_comm (left right : Entry) : left.reach right = right.reach left :=
  Nat.max_comm _ _

theorem clashes_comm {left right : Entry} : left.Clashes right ↔ right.Clashes left := by
  rw [Clashes, Clashes, reach_comm, eq_comm, or_comm]

theorem not_clashes {left right : Entry} (leftFree : Ranking.nullChar ∉ left.text)
    (rightFree : Ranking.nullChar ∉ right.text) : ¬left.Clashes right := by
  rintro ⟨-, member | member⟩
  · exact Ranking.zero_notMem_composed leftFree (List.mem_of_mem_take member)
  · exact Ranking.zero_notMem_composed rightFree (List.mem_of_mem_take member)

end Entry

/-- Entries that do not clash are compared by their ranks. -/
theorem compareEntries_ok {left right : Entry} (free : ¬left.Clashes right) :
    ∃ order, compareEntries left right = .ok order ∧
      order.Compares (left.rank (left.reach right)) (right.rank (left.reach right)) := by
  have codes := Ranking.compareCodes_compares (left.codes (left.reach right))
    (right.codes (left.reach right))
  have places : (_ : Ordering).Compares (toLex (left.codes (left.reach right), left.index))
      (toLex (right.codes (left.reach right), right.index)) :=
    compares_toLex codes (compare_compares left.index right.index)
  have ranks : (_ : Ordering).Compares (left.rank (left.reach right))
      (right.rank (left.reach right)) :=
    compares_toLex (compare_compares left.score right.score) places
  refine ⟨_, ?_, ranks⟩
  rw [compareEntries, Entry.localeCompare_reach]
  by_cases tie : left.score = right.score
  · have equal : compare left.score right.score = .eq := compare_eq_iff_eq.mpr tie
    rw [if_neg (not_not.mpr tie), equal, if_neg fun null => free ⟨tie, null⟩]
    cases Ranking.compareCodes _ _ <;> rfl
  · rw [if_pos tie]
    have differ : compare left.score right.score ≠ .eq := mt compare_eq_iff_eq.mp tie
    cases order : compare left.score right.score with
    | lt => rfl
    | eq => exact absurd order differ
    | gt => rfl

theorem compareEntries_error {left right : Entry} (clash : left.Clashes right) :
    compareEntries left right = .error .embeddedNull := by
  obtain ⟨tie, null⟩ := clash
  rw [compareEntries, if_neg (not_not.mpr tie), Entry.localeCompare_reach, if_pos null]

/-- A comparison succeeds unless the entries clash, and it orders their ranks. -/
theorem compareEntries_eq_ok_iff {left right : Entry} {order : Ordering} :
    compareEntries left right = .ok order ↔
      ¬left.Clashes right ∧
        order.Compares (left.rank (left.reach right)) (right.rank (left.reach right)) := by
  by_cases clash : left.Clashes right
  · simp [compareEntries_error clash, clash]
  · obtain ⟨found, compared, right⟩ := compareEntries_ok clash
    rw [compared]
    constructor
    · rintro equal
      obtain rfl := Except.ok.inj equal
      exact ⟨clash, right⟩
    · rintro ⟨-, other⟩
      rw [right.inj other]

theorem compareEntries_swap {left right : Entry} {order : Ordering} :
    compareEntries left right = .ok order ↔ compareEntries right left = .ok order.swap := by
  rw [compareEntries_eq_ok_iff, compareEntries_eq_ok_iff, Entry.clashes_comm,
    Entry.reach_comm left right, Ordering.compares_swap]

theorem precedes_iff {left right : Entry} :
    compareEntries left right = .ok .lt ↔
      ¬left.Clashes right ∧
        left.rank (left.reach right) < right.rank (left.reach right) :=
  compareEntries_eq_ok_iff

/-- Of two entries at different places that do not clash, one precedes the other. -/
theorem precedes_or_precedes {left right : Entry} (free : ¬left.Clashes right)
    (distinct : left.index ≠ right.index) :
    compareEntries left right = .ok .lt ∨ compareEntries right left = .ok .lt := by
  obtain ⟨order, compared, ranks⟩ := compareEntries_ok free
  cases order with
  | lt => exact .inl compared
  | gt => exact .inr (compareEntries_swap.mp compared)
  | eq =>
      have tie : (left.codes _, left.index) = (right.codes _, right.index) :=
        toLex.injective (congrArg Prod.snd (toLex.injective ranks))
      exact absurd (congrArg Prod.snd tie) distinct

theorem precedes_asymm {left right : Entry} (first : compareEntries left right = .ok .lt) :
    compareEntries right left ≠ .ok .lt := by
  rw [compareEntries_swap.mp first]
  intro equal
  cases equal

end Winnow
