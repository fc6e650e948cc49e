import Winnow.Proofs.Ranking.Row
import Mathlib.Order.Bounds.Basic
import Mathlib.Data.List.TakeWhile

/-!
# Fuzzy scores are optimal

The last row of the score computation is right for all letters of the pattern
(`rowFor_scoreRow`), so the score that is read off it is minus the greatest
value of an alignment, and the worst score exactly if there is no alignment
(`fuzzyScore_optimal`).
-/

namespace Winnow.Ranking

/-- Stripping leaves nothing of a text exactly when it is blank. -/
theorem isEmpty_strip (text : Text) : text.strip.isEmpty = text.all Text.isBlank := by
  have stripped : text.strip = [] ↔ ∀ char ∈ text.dropWhile Text.isBlank, Text.isBlank char := by
    simp [Text.strip, Text.trim, Text.dropTrailing, List.dropWhile_eq_nil_iff]
  have split : text.takeWhile Text.isBlank ++ text.dropWhile Text.isBlank = text :=
    List.takeWhile_append_dropWhile
  rw [Bool.eq_iff_iff, List.isEmpty_iff, stripped, List.all_eq_true]
  constructor
  · intro rest char member
    rw [← split] at member
    rcases List.mem_append.mp member with leading | later
    · exact List.mem_takeWhile_imp leading
    · exact rest char later
  · intro all char member
    exact all char (List.dropWhile_sublist _ |>.subset member)

/-- The letters of a pattern carry their weights through folding. -/
theorem weight_of_mem_comparedLetters {pattern : Text} {caseSensitive : Bool} {letter : Letter}
    (member : letter ∈ comparedLetters pattern caseSensitive) :
    letter.weight = 1 ∨ letter.weight = 2 := by
  cases caseSensitive with
  | true => exact weight_of_mem_lettersAfter member
  | false =>
      obtain ⟨original, originalMember, rfl⟩ := List.mem_map.mp member
      have weight : original.weight = 1 ∨ original.weight = 2 :=
        weight_of_mem_lettersAfter originalMember
      exact weight

/-- The last row that a score is read off. -/
def scoreRow (pattern candidate : Text) (caseSensitive : Bool) : List Int :=
  lastRow (comparedCandidate candidate caseSensitive) (positionScores candidate) true true
    (candidate.map fun _ => unreachable) ((if caseSensitive then id else Text.foldCase) pattern)

/-- The last row is right for all letters of the pattern. -/
theorem rowFor_scoreRow (pattern candidate : Text) (caseSensitive : Bool) :
    RowFor (comparedCandidate candidate caseSensitive) (positionScores candidate)
      (comparedLetters pattern caseSensitive) (scoreRow pattern candidate caseSensitive) := by
  have lengths : (positionScores candidate).length
      = (comparedCandidate candidate caseSensitive).length := by simp
  have start := RowFor.start (comparedCandidate candidate caseSensitive) lengths
  have row : (comparedCandidate candidate caseSensitive).map (fun _ => unreachable)
      = candidate.map fun _ => unreachable := by
    cases caseSensitive with
    | true => rfl
    | false =>
        rw [comparedCandidate, if_neg Bool.false_ne_true, List.map_map]
        rfl
  rw [row] at start
  have done := start.lastRow (bonuses_positionScores candidate)
    ((if caseSensitive then id else Text.foldCase) pattern) [] (by simp) rfl
  rw [comparedLetters_eq]
  exact done

theorem fuzzyScore_of_long {pattern candidate : Text} {caseSensitive : Bool}
    (long : 256 < candidate.length) : fuzzyScore pattern candidate caseSensitive = worstScore := by
  rw [fuzzyScore, if_pos (by rw [longestScored]; omega)]

theorem fuzzyScore_of_blank {pattern candidate : Text} {caseSensitive : Bool}
    (short : candidate.length ≤ 256) (blank : pattern.all Text.isBlank = true) :
    fuzzyScore pattern candidate caseSensitive = 0 := by
  rw [fuzzyScore, if_neg (by rw [longestScored]; omega), isEmpty_strip, blank, if_pos rfl]

/-- The score of a candidate that is not too long, for a pattern with letters. -/
theorem fuzzyScore_eq {pattern candidate : Text} {caseSensitive : Bool}
    (short : candidate.length ≤ 256) (some : pattern.all Text.isBlank = false) :
    fuzzyScore pattern candidate caseSensitive
      = if bestOfRow (scoreRow pattern candidate caseSensitive) < reachableFloor then worstScore
        else -bestOfRow (scoreRow pattern candidate caseSensitive) := by
  rw [fuzzyScore, if_neg (by rw [longestScored]; omega), isEmpty_strip, some,
    if_neg Bool.false_ne_true]
  cases caseSensitive <;> rfl

/-- An alignment of the letters makes the best value reachable. -/
theorem reachableFloor_le_bestOfRow {pattern candidate : Text} {caseSensitive : Bool}
    {positions : List Nat} (short : candidate.length ≤ 256)
    (some : comparedLetters pattern caseSensitive ≠ [])
    (aligned : IsAlignment (comparedLetters pattern caseSensitive)
      (comparedCandidate candidate caseSensitive) positions) :
    reachableFloor ≤ bestOfRow (scoreRow pattern candidate caseSensitive) := by
  have value := alignmentValue_lower (bonuses_positionScores candidate)
    (fun _ => weight_of_mem_comparedLetters) aligned some
  have best := (rowFor_scoreRow pattern candidate caseSensitive).le_best aligned some
  rw [length_positionScores] at value
  rw [reachableFloor]
  omega

theorem comparedLetters_ne_nil {pattern : Text} {caseSensitive : Bool}
    (some : pattern.all Text.isBlank = false) : comparedLetters pattern caseSensitive ≠ [] := by
  intro empty
  rw [comparedLetters_eq_nil_iff.mp empty] at some
  cases some

/-- The best value is too low for an alignment exactly if the letters cannot be aligned. -/
theorem bestOfRow_lt_reachableFloor_iff {pattern candidate : Text} {caseSensitive : Bool}
    (short : candidate.length ≤ 256) (some : pattern.all Text.isBlank = false) :
    bestOfRow (scoreRow pattern candidate caseSensitive) < reachableFloor ↔
      ¬∃ positions, IsAlignment (comparedLetters pattern caseSensitive)
        (comparedCandidate candidate caseSensitive) positions := by
  constructor
  · rintro low ⟨positions, aligned⟩
    have reachable := reachableFloor_le_bestOfRow short (comparedLetters_ne_nil some) aligned
    omega
  · intro none
    rcases (rowFor_scoreRow pattern candidate caseSensitive).best_attained with
      low | ⟨positions, aligned, -⟩
    · rw [length_comparedCandidate] at low
      rw [unreachable] at low
      rw [reachableFloor]
      omega
    · exact absurd ⟨positions, aligned⟩ none

/-- A candidate that is not too long has the worst score exactly if the letters cannot
be aligned. -/
theorem fuzzyScore_eq_worstScore_iff {pattern candidate : Text} {caseSensitive : Bool}
    (short : candidate.length ≤ 256) :
    fuzzyScore pattern candidate caseSensitive = worstScore ↔
      ¬∃ positions, IsAlignment (comparedLetters pattern caseSensitive)
        (comparedCandidate candidate caseSensitive) positions := by
  cases blank : pattern.all Text.isBlank with
  | true =>
      rw [fuzzyScore_of_blank short blank, comparedLetters_eq_nil_iff.mpr blank]
      constructor
      · intro worst
        rw [worstScore, unreachable] at worst
        omega
      · intro none
        exact absurd ⟨[], .nil, rfl⟩ none
  | false =>
      rw [fuzzyScore_eq short blank, ← bestOfRow_lt_reachableFloor_iff short blank]
      constructor
      · intro worst
        by_contra reachable
        rw [if_neg reachable, worstScore, unreachable] at worst
        rw [reachableFloor] at reachable
        omega
      · intro low
        exact if_pos low

/-- Fuzzy scores are optimal. Candidates of more than 256 characters have the worst
score and blank patterns have the score zero. Else the score is minus the greatest value
of an alignment of the letters, and it is the worst one exactly if there is none. -/
theorem fuzzyScore_optimal (pattern candidate : Text) (caseSensitive : Bool) :
    (256 < candidate.length → fuzzyScore pattern candidate caseSensitive = worstScore) ∧
    (candidate.length ≤ 256 → pattern.all Text.isBlank = true →
      fuzzyScore pattern candidate caseSensitive = 0) ∧
    (candidate.length ≤ 256 → pattern.all Text.isBlank = false →
      ((∃ positions, IsAlignment (comparedLetters pattern caseSensitive)
          (comparedCandidate candidate caseSensitive) positions) →
        IsGreatest {value | ∃ positions,
            IsAlignment (comparedLetters pattern caseSensitive)
              (comparedCandidate candidate caseSensitive) positions ∧
            alignmentValue (positionScores candidate) (comparedLetters pattern caseSensitive)
              positions = value}
          (-fuzzyScore pattern candidate caseSensitive)) ∧
      (fuzzyScore pattern candidate caseSensitive = worstScore ↔
        ¬∃ positions, IsAlignment (comparedLetters pattern caseSensitive)
          (comparedCandidate candidate caseSensitive) positions)) := by
  refine ⟨?_, ?_, ?_⟩
  · intro long
    exact fuzzyScore_of_long long
  · intro short blank
    exact fuzzyScore_of_blank short blank
  · intro short some
    refine ⟨?_, fuzzyScore_eq_worstScore_iff short⟩
    rintro ⟨positions, aligned⟩
    have right := rowFor_scoreRow pattern candidate caseSensitive
    have nonempty : comparedLetters pattern caseSensitive ≠ [] := comparedLetters_ne_nil some
    have reachable := reachableFloor_le_bestOfRow short nonempty aligned
    rw [fuzzyScore_eq short some, if_neg (by omega), Int.neg_neg]
    constructor
    · rcases right.best_attained with low | attained
      · rw [length_comparedCandidate] at low
        rw [unreachable, reachableFloor] at *
        omega
      · exact attained
    · rintro value ⟨others, othersAligned, rfl⟩
      exact right.le_best othersAligned nonempty

end Winnow.Ranking
