import Winnow.Proofs.Ranking.FuzzyScore
import Mathlib.Algebra.Group.Int.Defs

/-!
# Bounds of the score computation

Cells that no alignment reaches hold a value far below that of any alignment, and every
letter adds bonuses to it. What keeps the two apart is that no cell exceeds its start by
more than a hundred for every position up to its own, however many letters have been
read. One letter keeps a row in bounds (`RowInBounds.next`), hence a whole pattern does
(`RowInBounds.lastRow`), and the values that a pass carries stay within those of the row
before (`RowInBounds.running`). So the best value tells whether there is an alignment,
and no sum that is formed on the way leaves a signed word of 32 bits
(`unreachable_kept_apart`).
-/

namespace Winnow.Ranking

/-! ## Rows in bounds -/

/-- No cell of a row lies below the value of cells that no alignment reaches, or above a
hundred for every position up to its own. -/
def RowInBounds (row : List Int) : Prop :=
  ∀ position, unreachable ≤ row.getD position unreachable ∧
    row.getD position unreachable ≤ 100 * ((position : Int) + 1)

/-- The row before the first letter is in bounds. -/
theorem rowInBounds_start (candidate : Text) :
    RowInBounds (candidate.map fun _ => unreachable) := by
  intro position
  have cell : (candidate.map fun _ => unreachable).getD position unreachable = unreachable := by
    rw [List.getD_eq_getElem?_getD, List.getElem?_map]
    cases candidate[position]? <;> rfl
  rw [cell, unreachable]
  omega

namespace RowInBounds

variable {candidate : Text} {bonuses row : List Int}

/-- The running values stay within the bounds of the cells that have been passed. -/
theorem running (bounded : RowInBounds row) {count : Nat} (inside : count ≤ row.length) :
    (unreachable ≤ (runningAt row count).left ∧ (runningAt row count).left ≤ 100 * count) ∧
      unreachable ≤ (runningAt row count).bestLeft ∧
      (runningAt row count).bestLeft ≤ 100 * count := by
  induction count with
  | zero =>
      have start : runningAt row 0 = ⟨unreachable, unreachable⟩ := rfl
      rw [start]
      decide
  | succ count ih =>
      have passed := ih (by omega)
      have cell := bounded count
      rw [runningAt_succ inside]
      simp only [gapScore]
      omega

/-- One letter keeps a row in bounds, whether it is the first one or not. -/
theorem next (bounded : RowInBounds row) (same : SameLength candidate bonuses row)
    (known : Bonuses bonuses) (short : candidate.length ≤ 256) {letter : Letter}
    (weight : letter.weight = 1 ∨ letter.weight = 2) (isFirst : Bool) :
    RowInBounds
      (rowFrom isFirst letter.weight letter.char 0 .start (columns candidate bonuses row)) := by
  intro position
  cases here : candidate[position]? with
  | none =>
      have outside := List.getElem?_eq_none_iff.mp here
      rw [← same.length_next isFirst letter.weight letter.char] at outside
      rw [List.getD_eq_getElem?_getD, List.getElem?_eq_none_iff.mpr outside, Option.getD_none,
        unreachable]
      omega
  | some found =>
      have inside := (List.getElem?_eq_some_iff.mp here).1
      have passed : position ≤ row.length := by
        rw [same.row]
        omega
      have carried := bounded.running passed
      have bonus := weighted_bonus_bounds known weight position
      rw [same.cell_next isFirst letter.weight letter.char here, cell, Int.mul_comm]
      simp only [leadingGapScore, consecutiveScore, wordStartScore, gapScore, unreachable]
        at carried ⊢
      split
      · cases isFirst with
        | true =>
            rw [if_pos rfl]
            omega
        | false =>
            rw [if_neg Bool.false_ne_true]
            omega
      · omega

/-- The rest of a pattern keeps a row in bounds. -/
theorem lastRow (bounded : RowInBounds row) (same : SameLength candidate bonuses row)
    (known : Bonuses bonuses) (short : candidate.length ≤ 256) (isFirst startsWord : Bool)
    (rest : Text) : RowInBounds (lastRow candidate bonuses isFirst startsWord row rest) := by
  induction rest generalizing isFirst startsWord row with
  | nil => exact bounded
  | cons char rest ih =>
      rw [Ranking.lastRow]
      split
      · exact ih bounded same isFirst true
      · let letter : Letter := ⟨char, if startsWord then wordStartWeight else innerWeight⟩
        have weight : letter.weight = 1 ∨ letter.weight = 2 := by
          cases startsWord with
          | false => exact .inl rfl
          | true => exact .inr rfl
        exact ih (bounded.next same known short weight isFirst)
          ⟨same.bonuses, same.length_next isFirst letter.weight char⟩ false false

end RowInBounds

theorem rowInBounds_scoreRow (pattern : Text) {candidate : Text} (caseSensitive : Bool)
    (short : candidate.length ≤ 256) : RowInBounds (scoreRow pattern candidate caseSensitive) := by
  have same : SameLength (comparedCandidate candidate caseSensitive) (positionScores candidate)
      (candidate.map fun _ => unreachable) := ⟨by simp, by simp⟩
  exact (rowInBounds_start candidate).lastRow same (bonuses_positionScores candidate)
    (by rw [length_comparedCandidate]; exact short) true true _

/-! ## The rows of a run -/

/-- A run goes on behind any part of a pattern from the row that is behind this part. -/
theorem lastRow_append (candidate : Text) (bonuses : List Int) (before read rest : Text)
    (row : List Int) :
    lastRow candidate bonuses (before.all Text.isBlank) (beginsWord before) row (read ++ rest)
      = lastRow candidate bonuses ((read.reverse ++ before).all Text.isBlank)
          (beginsWord (read.reverse ++ before))
          (lastRow candidate bonuses (before.all Text.isBlank) (beginsWord before) row read)
          rest := by
  induction read generalizing before row with
  | nil => rfl
  | cons char read ih =>
      rw [List.cons_append, lastRow, lastRow, List.reverse_cons, List.append_assoc,
        List.singleton_append]
      by_cases blank : Text.isBlank char = true
      · have next := ih (char :: before) row
        have all : (char :: before).all Text.isBlank = before.all Text.isBlank := by simp [blank]
        have starts : beginsWord (char :: before) = true := by simp [beginsWord, blank]
        rw [all, starts] at next
        rw [if_pos blank, if_pos blank]
        exact next
      · have all : (char :: before).all Text.isBlank = false := by simp [blank]
        have continues : beginsWord (char :: before) = false := by simp [beginsWord, blank]
        have next := ih (char :: before)
        rw [all, continues] at next
        rw [if_neg blank, if_neg blank]
        exact next _

/-- A run goes on behind any part of a pattern from the row that is behind this part. -/
theorem scoreRow_append (read rest candidate : Text) (caseSensitive : Bool) :
    scoreRow (read ++ rest) candidate caseSensitive
      = lastRow (comparedCandidate candidate caseSensitive) (positionScores candidate)
          (read.all Text.isBlank) (beginsWord read.reverse)
          (scoreRow read candidate caseSensitive)
          ((if caseSensitive then id else Text.foldCase) rest) := by
  have folded : (if caseSensitive then id else Text.foldCase) (read ++ rest)
      = (if caseSensitive then id else Text.foldCase) read
        ++ (if caseSensitive then id else Text.foldCase) rest := by
    cases caseSensitive with
    | true => rfl
    | false => exact List.map_append
  have blank : ((if caseSensitive then id else Text.foldCase) read).reverse.all Text.isBlank
      = read.all Text.isBlank := by
    cases caseSensitive <;> simp [Text.foldCase, List.all_map, Function.comp_def]
  have starts : beginsWord ((if caseSensitive then id else Text.foldCase) read).reverse
      = beginsWord read.reverse := by
    cases caseSensitive with
    | true => rfl
    | false =>
        rw [if_neg Bool.false_ne_true, Text.foldCase, ← List.map_reverse]
        exact beginsWord_foldCase read.reverse
  have split := lastRow_append (comparedCandidate candidate caseSensitive)
    (positionScores candidate) [] ((if caseSensitive then id else Text.foldCase) read)
    ((if caseSensitive then id else Text.foldCase) rest) (candidate.map fun _ => unreachable)
  rw [List.append_nil, blank, starts, ← folded] at split
  exact split

/-- Behind the letters of one part of a pattern come those of the next part. -/
theorem lettersAfter_append (before read rest : Text) :
    lettersAfter before (read ++ rest)
      = lettersAfter before read ++ lettersAfter (read.reverse ++ before) rest := by
  induction read generalizing before with
  | nil => rfl
  | cons char read ih =>
      have next := ih (char :: before)
      rw [List.cons_append, lettersAfter, lettersAfter, List.reverse_cons, List.append_assoc,
        List.singleton_append]
      split
      · exact next
      · rw [next, List.cons_append]

/-- The letter that a character is behind the part of a pattern that has been read. -/
def letterBehind (read : Text) (char : Char) (caseSensitive : Bool) : Letter :=
  ⟨if caseSensitive then char else Text.foldChar char, if beginsWord read.reverse then 2 else 1⟩

/-- A character that is not blank is one more letter. -/
theorem comparedLetters_concat (read : Text) {char : Char} (caseSensitive : Bool)
    (isLetter : Text.isBlank char = false) :
    comparedLetters (read ++ [char]) caseSensitive
      = comparedLetters read caseSensitive ++ [letterBehind read char caseSensitive] := by
  have more : letters (read ++ [char])
      = letters read ++ [⟨char, if beginsWord read.reverse then 2 else 1⟩] := by
    rw [letters, lettersAfter_append, lettersAfter_cons_of_letter [] isLetter, List.append_nil]
    rfl
  rw [comparedLetters, comparedLetters, more]
  cases caseSensitive with
  | true => rfl
  | false => exact List.map_append

/-- Behind a letter a run goes on from the row that the letter leaves; none that follows is the
first one or begins a word. -/
theorem scoreRow_append_cons (read rest candidate : Text) {char : Char} (caseSensitive : Bool)
    (isLetter : Text.isBlank char = false) :
    scoreRow (read ++ char :: rest) candidate caseSensitive
      = lastRow (comparedCandidate candidate caseSensitive) (positionScores candidate) false false
          (scoreRow (read ++ [char]) candidate caseSensitive)
          ((if caseSensitive then id else Text.foldCase) rest) := by
  have some : (read ++ [char]).all Text.isBlank = false := by simp [isLetter]
  have continues : beginsWord (read ++ [char]).reverse = false := by
    simp [beginsWord, isLetter]
  rw [List.append_cons, scoreRow_append, some, continues]

/-- The row behind one more letter is made by one pass from the row before. -/
theorem scoreRow_concat (read candidate : Text) {char : Char} (caseSensitive : Bool)
    (isLetter : Text.isBlank char = false) :
    scoreRow (read ++ [char]) candidate caseSensitive
      = rowFrom (comparedLetters read caseSensitive).isEmpty
          (letterBehind read char caseSensitive).weight
          (letterBehind read char caseSensitive).char 0 .start
          (columns (comparedCandidate candidate caseSensitive) (positionScores candidate)
            (scoreRow read candidate caseSensitive)) := by
  have first : read.all Text.isBlank = (comparedLetters read caseSensitive).isEmpty := by
    rw [Bool.eq_iff_iff, List.isEmpty_iff, comparedLetters_eq_nil_iff]
  have folded : (if caseSensitive then id else Text.foldCase) [char]
      = [(letterBehind read char caseSensitive).char] := by
    cases caseSensitive <;> rfl
  have letter : ¬Text.isBlank (letterBehind read char caseSensitive).char = true := by
    cases caseSensitive <;> simp [letterBehind, isLetter]
  rw [scoreRow_append, folded, lastRow, if_neg letter, lastRow, first]
  rfl

/-! ## What keeps cells apart -/

/-- Letters can be aligned with the last one at a position. -/
def EndsAt (letters : List Letter) (candidate : Text) (position : Nat) : Prop :=
  ∃ positions, IsAlignment letters candidate (positions ++ [position])

/-- What a pass carries in front of the column at a position. -/
def carriedAt (columns : List Column) (position : Nat) : Running :=
  (columns.take position).foldl Running.pass .start

/-- The sums that are formed at a column, whether its character is the one read or not. -/
def sumsAt (weight : Int) (position : Nat) (running : Running) (column : Column) : List Int :=
  [running.bestLeft + gapScore, running.left + consecutiveScore,
    running.bestLeft + column.bonus * weight, leadingGapScore * position + column.bonus * weight]

/-- A value lies neither below that of cells which no alignment reaches, nor above a hundred for
every character of a candidate. -/
def InBounds (length : Nat) (value : Int) : Prop :=
  unreachable ≤ value ∧ value ≤ 100 * length

/-- A signed word of 32 bits can hold a value. -/
def FitsWord (value : Int) : Prop := -2 ^ 31 ≤ value ∧ value < 2 ^ 31

/-- What holds of the pass for one more letter, which makes the row `after` from the row `before`.
Whether a cell is reached depends on where an alignment of all letters up to this one can end; what
the pass carries and forms on its way is bounded in front of every column. -/
structure PassInBounds (candidate : Text) (bonuses : List Int) (letters : List Letter)
    (letter : Letter) (before after : List Int) : Prop where
  made : after = rowFrom letters.isEmpty letter.weight letter.char 0 .start
    (columns candidate bonuses before)
  cells : after.length = candidate.length
  reached : ∀ position value, after[position]? = some value →
    EndsAt (letters ++ [letter]) candidate position →
    -5 * (position : Int) ≤ value ∧ value ≤ 100 * ((position : Int) + 1)
  unreached : ∀ position value, after[position]? = some value →
    ¬EndsAt (letters ++ [letter]) candidate position →
    unreachable ≤ value ∧ value ≤ unreachable + 100 * ((position : Int) + 1)
  carried : ∀ position ≤ candidate.length,
    InBounds candidate.length (carriedAt (columns candidate bonuses before) position).left ∧
      InBounds candidate.length (carriedAt (columns candidate bonuses before) position).bestLeft
  sums : ∀ position column, (columns candidate bonuses before)[position]? = some column →
    ∀ sum ∈ sumsAt letter.weight position (carriedAt (columns candidate bonuses before) position)
      column, FitsWord sum

section

variable {candidate : Text} {bonuses row : List Int} {letters : List Letter}

/-- A cell where an alignment ends is worth no less than five for every position before it. -/
theorem RowFor.reached (right : RowFor candidate bonuses letters row) (known : Bonuses bonuses)
    (weights : ∀ letter ∈ letters, letter.weight = 1 ∨ letter.weight = 2) {position : Nat}
    (ends : EndsAt letters candidate position) :
    -5 * (position : Int) ≤ row.getD position unreachable := by
  obtain ⟨positions, aligned⟩ := ends
  exact Int.le_trans (reachedValue_lower known weights position aligned.length_eq)
    (right.upper positions position aligned)

theorem RowFor.unreached (right : RowFor candidate bonuses letters row) {position : Nat}
    (inside : position < candidate.length) (apart : ¬EndsAt letters candidate position) :
    row.getD position unreachable ≤ unreachable + 100 * ((position : Int) + 1) := by
  rcases right.attained position inside with low | ⟨positions, aligned, -⟩
  · exact low
  · exact absurd ⟨positions, aligned⟩ apart

/-- The running values of a pass are in bounds. -/
theorem RowInBounds.carried (bounded : RowInBounds row) (same : SameLength candidate bonuses row)
    {position : Nat} (inside : position ≤ candidate.length) :
    InBounds candidate.length (carriedAt (columns candidate bonuses row) position).left ∧
      InBounds candidate.length (carriedAt (columns candidate bonuses row) position).bestLeft := by
  rw [← same.row] at inside
  have values := bounded.running inside
  rw [same.row] at inside
  rw [carriedAt, same.running, InBounds, InBounds]
  omega

/-- No sum that a pass forms leaves a word. -/
theorem RowInBounds.sums (bounded : RowInBounds row) (same : SameLength candidate bonuses row)
    (known : Bonuses bonuses) (short : candidate.length ≤ 256) {letter : Letter}
    (weight : letter.weight = 1 ∨ letter.weight = 2) {position : Nat} {column : Column}
    (here : (columns candidate bonuses row)[position]? = some column) :
    ∀ sum ∈ sumsAt letter.weight position (carriedAt (columns candidate bonuses row) position)
      column, FitsWord sum := by
  have inside : position < candidate.length := by
    rw [← same.length_next true letter.weight letter.char, length_rowFrom]
    exact (List.getElem?_eq_some_iff.mp here).1
  have carried := bounded.carried same (Nat.le_of_lt inside)
  have bonus := weighted_bonus_bounds known weight position
  rw [same.column (List.getElem?_eq_getElem inside)] at here
  obtain rfl := Option.some.inj here
  simp only [InBounds, unreachable] at carried
  simp only [sumsAt, List.forall_mem_cons, FitsWord, gapScore, consecutiveScore, wordStartScore,
    leadingGapScore, Int.mul_comm _ letter.weight]
  exact ⟨by omega, by omega, by omega, by omega, List.forall_mem_nil _⟩

end

/-- The pass for one more letter is in bounds. -/
theorem passInBounds (read : Text) {candidate : Text} {char : Char} (caseSensitive : Bool)
    (short : candidate.length ≤ 256) (isLetter : Text.isBlank char = false) :
    PassInBounds (comparedCandidate candidate caseSensitive) (positionScores candidate)
      (comparedLetters read caseSensitive) (letterBehind read char caseSensitive)
      (scoreRow read candidate caseSensitive)
      (scoreRow (read ++ [char]) candidate caseSensitive) := by
  have known := bonuses_positionScores candidate
  have before := (rowFor_scoreRow read candidate caseSensitive).same
  have bounded := rowInBounds_scoreRow read caseSensitive short
  have after := rowFor_scoreRow (read ++ [char]) candidate caseSensitive
  have afterBounded := rowInBounds_scoreRow (read ++ [char]) caseSensitive short
  have weights : ∀ letter ∈ comparedLetters (read ++ [char]) caseSensitive,
      letter.weight = 1 ∨ letter.weight = 2 := fun _ => weight_of_mem_comparedLetters
  rw [comparedLetters_concat read caseSensitive isLetter] at after weights
  have weight := weights (letterBehind read char caseSensitive) (by simp)
  rw [← length_comparedCandidate candidate caseSensitive] at short
  have cell : ∀ {position value},
      (scoreRow (read ++ [char]) candidate caseSensitive)[position]? = some value →
      (scoreRow (read ++ [char]) candidate caseSensitive).getD position unreachable = value := by
    intro position value here
    rw [List.getD_eq_getElem?_getD, here, Option.getD_some]
  refine ⟨scoreRow_concat read candidate caseSensitive isLetter, after.same.row, ?_, ?_, ?_, ?_⟩
  · intro position value here ends
    rw [← cell here]
    exact ⟨after.reached known weights ends, (afterBounded position).2⟩
  · intro position value here apart
    have inside : position < (comparedCandidate candidate caseSensitive).length := by
      rw [← after.same.row]
      exact (List.getElem?_eq_some_iff.mp here).1
    rw [← cell here]
    exact ⟨(afterBounded position).1, after.unreached inside apart⟩
  · intro position inside
    exact bounded.carried before inside
  · intro position column here
    exact bounded.sums before known short weight here

/-- The best value of any part of a row is in bounds. -/
theorem RowInBounds.best {row : List Int} (bounded : RowInBounds row) {count : Nat}
    (inside : count ≤ row.length) : InBounds row.length (bestOfRow (row.take count)) := by
  have values := bounded.running inside
  have same : bestOfRow (row.take count) = (runningAt row count).bestLeft := by
    rw [bestOfRow_eq, runningAt, List.take_length, runningAt]
  rw [same, InBounds]
  omega

/-- The value of cells that no alignment reaches is never taken for that of an alignment, and no
value leaves a signed word. The run of a pattern goes through the rows behind each of its letters.
In every one of them a cell where an alignment of the letters read so far can end is worth no less
than minus five for every position before it, and any other cell has gained no more than a hundred
for every position up to its own. What a pass carries and the best value behind every cell of the
last row stay in bounds, and in the end the best value is too low exactly if the pattern cannot be
aligned. -/
theorem unreachable_kept_apart {pattern candidate : Text} (caseSensitive : Bool)
    (short : candidate.length ≤ 256) (some : pattern.all Text.isBlank = false) :
    (∀ read char rest, pattern = read ++ char :: rest → Text.isBlank char = false →
      scoreRow pattern candidate caseSensitive
          = lastRow (comparedCandidate candidate caseSensitive) (positionScores candidate) false
              false (scoreRow (read ++ [char]) candidate caseSensitive)
              ((if caseSensitive then id else Text.foldCase) rest) ∧
        comparedLetters (read ++ [char]) caseSensitive
          = comparedLetters read caseSensitive ++ [letterBehind read char caseSensitive] ∧
        PassInBounds (comparedCandidate candidate caseSensitive) (positionScores candidate)
          (comparedLetters read caseSensitive) (letterBehind read char caseSensitive)
          (scoreRow read candidate caseSensitive)
          (scoreRow (read ++ [char]) candidate caseSensitive)) ∧
    (∀ count ≤ candidate.length,
      InBounds candidate.length
          (bestOfRow ((scoreRow pattern candidate caseSensitive).take count)) ∧
        FitsWord (bestOfRow ((scoreRow pattern candidate caseSensitive).take count) + gapScore) ∧
        FitsWord (-bestOfRow ((scoreRow pattern candidate caseSensitive).take count))) ∧
    fuzzyScore pattern candidate caseSensitive
      = (if bestOfRow (scoreRow pattern candidate caseSensitive) < unreachable / 2 then worstScore
        else -bestOfRow (scoreRow pattern candidate caseSensitive)) ∧
    (bestOfRow (scoreRow pattern candidate caseSensitive) < unreachable / 2 ↔
      ¬∃ positions, IsAlignment (comparedLetters pattern caseSensitive)
        (comparedCandidate candidate caseSensitive) positions) := by
  have floor : unreachable / 2 = reachableFloor := by decide
  rw [floor]
  refine ⟨?_, ?_, fuzzyScore_eq short some, bestOfRow_lt_reachableFloor_iff short some⟩
  · rintro read char rest rfl isLetter
    exact ⟨scoreRow_append_cons read rest candidate caseSensitive isLetter,
      comparedLetters_concat read caseSensitive isLetter,
      passInBounds read caseSensitive short isLetter⟩
  · intro count inside
    have length : (scoreRow pattern candidate caseSensitive).length = candidate.length := by
      rw [(rowFor_scoreRow pattern candidate caseSensitive).same.row, length_comparedCandidate]
    rw [← length] at inside
    have best := (rowInBounds_scoreRow pattern caseSensitive short).best inside
    rw [length] at best
    refine ⟨best, ?_⟩
    simp only [InBounds, unreachable, FitsWord, gapScore] at best ⊢
    omega

/-- In a candidate that holds the two letters of a pattern the other way round, the second one
stands where nothing reaches: its cell has gained a bonus and is still too low. -/
theorem unreachable_kept_apart_reversed :
    "ba".toList.length ≤ 256 ∧ "ab".toList.all Text.isBlank = false ∧
      scoreRow "a".toList "ba".toList true = [unreachable, -4] ∧
      scoreRow "ab".toList "ba".toList true = [unreachable + 50, unreachable] ∧
      ¬∃ positions, IsAlignment (comparedLetters "ab".toList true)
        (comparedCandidate "ba".toList true) positions := by
  have short : "ba".toList.length ≤ 256 := by decide
  have some : "ab".toList.all Text.isBlank = false := by decide
  have first : scoreRow "a".toList "ba".toList true = [unreachable, -4] := by decide +kernel
  have second : scoreRow "ab".toList "ba".toList true = [unreachable + 50, unreachable] := by
    decide +kernel
  have apart := unreachable_kept_apart true short some
  refine ⟨short, some, first, second, apart.2.2.2.mp ?_⟩
  rw [second]
  decide

end Winnow.Ranking
