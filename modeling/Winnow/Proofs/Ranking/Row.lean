import Winnow.Proofs.Ranking.Alignment
import Mathlib.Order.Lattice

/-!
# Rows of the score computation

A row is right for the letters read so far (`RowFor`) when no alignment that
ends at a position is better than the cell there, and every cell is either the
value of such an alignment or so low that it can only stem from cells that no
alignment reaches. The slack of the low cells grows with the position, not with
the number of letters, so it stays far below every real value. One letter keeps
the invariant (`RowFor.next`), hence a whole pattern does (`RowFor.lastRow`).
-/

namespace Winnow.Ranking

/-! ## Running values -/

/-- The running values behind the first `count` cells of a row. -/
def runningAt (row : List Int) (count : Nat) : Running :=
  (row.take count).foldl
    (fun running value => ⟨value, max (running.bestLeft + gapScore) value⟩) .start

theorem runningAt_succ {row : List Int} {count : Nat} (inside : count < row.length) :
    runningAt row (count + 1)
      = ⟨row.getD count unreachable,
          max ((runningAt row count).bestLeft + gapScore) (row.getD count unreachable)⟩ := by
  rw [runningAt, List.take_add_one, List.foldl_append, ← runningAt]
  simp [List.getD_eq_getElem?_getD, inside]

/-- No cell that has been passed is better than the best one, gaps being counted. -/
theorem le_bestLeft {row : List Int} {count position : Nat} (bound : count ≤ row.length)
    (passed : position < count) :
    row.getD position unreachable - 5 * ((count : Int) - 1 - position)
      ≤ (runningAt row count).bestLeft := by
  induction count with
  | zero => omega
  | succ count ih =>
      rw [runningAt_succ bound]
      rcases Nat.lt_succ_iff_lt_or_eq.mp passed with earlier | rfl
      · have best := ih (by omega) earlier
        simp only [gapScore]
        omega
      · simp only [gapScore]
        omega

/-- The best value is that of a cell that has been passed, unless none is reachable. -/
theorem bestLeft_attained {row : List Int} {count : Nat} (bound : count ≤ row.length) :
    (runningAt row count).bestLeft ≤ unreachable ∨
      ∃ position < count, (runningAt row count).bestLeft
        = row.getD position unreachable - 5 * ((count : Int) - 1 - position) := by
  induction count with
  | zero => exact .inl (Int.le_refl _)
  | succ count ih =>
      rw [runningAt_succ bound]
      rcases Int.le_total ((runningAt row count).bestLeft + gapScore)
          (row.getD count unreachable) with newer | older
      · refine .inr ⟨count, Nat.lt_succ_self count, ?_⟩
        rw [max_eq_right newer]
        show row.getD count unreachable = _
        omega
      · rw [max_eq_left older]
        rcases ih (by omega) with low | ⟨position, passed, equal⟩
        · left
          simp only [gapScore]
          omega
        · refine .inr ⟨position, Nat.lt_succ_of_lt passed, ?_⟩
          rw [equal]
          simp only [gapScore]
          omega

/-! ## The cells of a row -/

/-- The cell of a new row at a column. -/
theorem getElem?_rowFrom (isFirst : Bool) (weight : Int) (char : Char) (position : Nat)
    (running : Running) (columns : List Column) (index : Nat) :
    (rowFrom isFirst weight char position running columns)[index]?
      = columns[index]?.map fun column =>
          cell isFirst weight char (position + index)
            ((columns.take index).foldl Running.pass running) column := by
  induction columns generalizing position running index with
  | nil => simp [rowFrom]
  | cons column rest ih =>
      cases index with
      | zero => simp [rowFrom]
      | succ index =>
          rw [rowFrom, List.getElem?_cons_succ, ih, List.getElem?_cons_succ]
          simp only [List.take_succ_cons, List.foldl_cons]
          rw [Nat.add_right_comm, Nat.add_assoc]

@[simp] theorem length_rowFrom (isFirst : Bool) (weight : Int) (char : Char) (position : Nat)
    (running : Running) (columns : List Column) :
    (rowFrom isFirst weight char position running columns).length = columns.length := by
  induction columns generalizing position running with
  | nil => rfl
  | cons column rest ih => simp [rowFrom, ih]

/-- The columns are the characters with their bonuses and cells. -/
theorem columns_eq_zip (text : Text) (bonuses row : List Int) :
    columns text bonuses row
      = (text.zip (bonuses.zip row)).map fun entry => ⟨entry.1, entry.2.1, entry.2.2⟩ := by
  induction text generalizing bonuses row with
  | nil => rfl
  | cons char text ih =>
      cases bonuses with
      | nil => rfl
      | cons bonus bonuses =>
          cases row with
          | nil => rfl
          | cons previous row => simp [columns, ih]

/-- What a candidate, its bonuses and a row have in common. -/
structure SameLength (candidate : Text) (bonuses row : List Int) : Prop where
  bonuses : bonuses.length = candidate.length
  row : row.length = candidate.length

section

variable {candidate : Text} {bonuses row : List Int}

/-- The column of a character. -/
theorem SameLength.column (same : SameLength candidate bonuses row) {position : Nat} {char : Char}
    (here : candidate[position]? = some char) :
    (columns candidate bonuses row)[position]?
      = some ⟨char, bonuses.getD position 0, row.getD position unreachable⟩ := by
  have inside := (List.getElem?_eq_some_iff.mp here).1
  have bonusInside : position < bonuses.length := by rw [same.bonuses]; exact inside
  have rowInside : position < row.length := by rw [same.row]; exact inside
  simp [columns_eq_zip, List.zip, List.getElem?_zipWith, here, bonusInside, rowInside,
    List.getD_eq_getElem?_getD]

/-- The columns hold the row. -/
theorem SameLength.columns_previous (same : SameLength candidate bonuses row) :
    (columns candidate bonuses row).map Column.previous = row := by
  have inner : row.length ≤ bonuses.length := by rw [same.bonuses, same.row]
  have outer : (bonuses.zip row).length ≤ candidate.length := by
    rw [List.length_zip, same.bonuses, same.row, Nat.min_self]
  rw [columns_eq_zip, List.map_map]
  calc (candidate.zip (bonuses.zip row)).map (Prod.snd ∘ Prod.snd)
      = ((candidate.zip (bonuses.zip row)).map Prod.snd).map Prod.snd := by rw [List.map_map]
    _ = row := by rw [List.map_snd_zip outer, List.map_snd_zip inner]

/-- The pass over the columns carries the running values of the row. -/
theorem SameLength.running (same : SameLength candidate bonuses row) (count : Nat) :
    ((columns candidate bonuses row).take count).foldl Running.pass .start
      = runningAt row count := by
  rw [runningAt]
  conv_rhs => rw [← same.columns_previous, ← List.map_take, List.foldl_map]
  rfl

/-- The cell of a new row at a character. -/
theorem SameLength.cell_next (same : SameLength candidate bonuses row) (isFirst : Bool)
    (weight : Int) (letter : Char) {position : Nat} {char : Char}
    (here : candidate[position]? = some char) :
    (rowFrom isFirst weight letter 0 .start (columns candidate bonuses row)).getD position
        unreachable
      = cell isFirst weight letter position (runningAt row position)
          ⟨char, bonuses.getD position 0, row.getD position unreachable⟩ := by
  rw [List.getD_eq_getElem?_getD, getElem?_rowFrom, same.column here, same.running]
  simp

theorem SameLength.length_next (same : SameLength candidate bonuses row) (isFirst : Bool)
    (weight : Int) (letter : Char) :
    (rowFrom isFirst weight letter 0 .start (columns candidate bonuses row)).length
      = candidate.length := by
  simp [columns_eq_zip, same.bonuses, same.row]

/-! ## Rows that are right for the letters read -/

/-- A row is right for letters: no alignment is better than the cell where it ends, and
a cell that is not the value of one is as low as nothing that is aligned. -/
structure RowFor (candidate : Text) (bonuses : List Int) (letters : List Letter)
    (row : List Int) : Prop where
  same : SameLength candidate bonuses row
  upper : ∀ positions position, IsAlignment letters candidate (positions ++ [position]) →
    reachedValue bonuses letters (positions ++ [position]) ≤ row.getD position unreachable
  attained : ∀ position < candidate.length,
    row.getD position unreachable ≤ unreachable + 100 * ((position : Int) + 1) ∨
      ∃ positions, IsAlignment letters candidate (positions ++ [position]) ∧
        reachedValue bonuses letters (positions ++ [position]) = row.getD position unreachable

/-- Before the first letter no cell is reachable. -/
theorem RowFor.start (candidate : Text) {bonuses : List Int}
    (lengths : bonuses.length = candidate.length) :
    RowFor candidate bonuses [] (candidate.map fun _ => unreachable) where
  same := ⟨lengths, List.length_map _⟩
  upper positions position aligned := by
    have impossible := aligned.length_eq
    simp at impossible
  attained position inside := by
    left
    simp [List.getD_eq_getElem?_getD, inside]
    omega

/-- A step from the letter before reaches no more than the running values allow. -/
theorem stepValue_le_running (same : SameLength candidate bonuses row) {letter : Letter}
    {previous position : Nat} (later : previous < position)
    (inside : position < candidate.length) :
    row.getD previous unreachable + stepValue bonuses letter previous position
      ≤ max ((runningAt row position).left + consecutiveScore)
          ((runningAt row position).bestLeft + bonuses.getD position 0 * letter.weight) := by
  have bound : position ≤ row.length := by rw [same.row]; omega
  have best := le_bestLeft bound later
  rw [stepValue, Int.mul_comm letter.weight]
  split
  · next next =>
      subst next
      rw [runningAt_succ bound] at best ⊢
      simp only [consecutiveScore, wordStartScore, gapScore] at best ⊢
      omega
  · omega

/-- The running values stem from a step from the letter before, or from cells that
nothing reaches. -/
theorem running_attained (same : SameLength candidate bonuses row) (letter : Letter)
    {position : Nat} (inside : position < candidate.length) :
    (runningAt row position).left ≤ unreachable ∧
        (runningAt row position).bestLeft ≤ unreachable ∨
      ∃ previous < position,
        max ((runningAt row position).left + consecutiveScore)
            ((runningAt row position).bestLeft + bonuses.getD position 0 * letter.weight)
          = row.getD previous unreachable + stepValue bonuses letter previous position := by
  have bound : position ≤ row.length := by rw [same.row]; omega
  cases position with
  | zero => exact .inl ⟨Int.le_refl _, Int.le_refl _⟩
  | succ before =>
      have left : (runningAt row (before + 1)).left = row.getD before unreachable := by
        rw [runningAt_succ bound]
      have newer : row.getD before unreachable ≤ (runningAt row (before + 1)).bestLeft := by
        rw [runningAt_succ bound]
        exact Int.le_max_right _ _
      rcases bestLeft_attained bound with low | ⟨best, passed, equal⟩
      · exact .inl ⟨by omega, low⟩
      · right
        rw [left, Int.mul_comm _ letter.weight]
        simp only [stepValue, consecutiveScore, wordStartScore, gapScore]
        -- The run goes on unless the best cell with its gap is worth more.
        by_cases run : (runningAt row (before + 1)).bestLeft
            + letter.weight * bonuses.getD (before + 1) 0 ≤ row.getD before unreachable + 45
        · refine ⟨before, Nat.lt_succ_self before, ?_⟩
          rw [if_pos rfl]
          omega
        · refine ⟨best, passed, ?_⟩
          split
          · next next =>
              obtain rfl : before = best := Nat.succ.inj next
              omega
          · omega

variable {letters : List Letter} {letter : Letter}

/-- The first letter makes a row that is right for it from any row. -/
theorem RowFor.first (same : SameLength candidate bonuses row) :
    RowFor candidate bonuses [letter]
      (rowFrom true letter.weight letter.char 0 .start (columns candidate bonuses row)) where
  same := ⟨same.bonuses, same.length_next true letter.weight letter.char⟩
  upper positions position aligned := by
    rw [← List.nil_append [letter]] at aligned
    obtain ⟨none, -, here⟩ := IsAlignment.snoc_iff.mp aligned
    obtain rfl : positions = [] := List.length_eq_zero_iff.mp none.length_eq
    rw [same.cell_next true letter.weight letter.char here, cell, if_pos rfl, Int.mul_comm]
    simp [reachedValue, stepsValue, leadingGapScore]
  attained position inside := by
    have here : candidate[position]? = some candidate[position] := List.getElem?_eq_getElem inside
    rw [same.cell_next true letter.weight letter.char here, cell]
    split
    · next equal =>
        have empty : IsAlignment [] candidate [] := ⟨.nil, rfl⟩
        refine .inr ⟨[], IsAlignment.snoc_iff.mpr ⟨empty, ?_, ?_⟩, ?_⟩
        · intro earlier member
          cases member
        · rw [here, equal]
        · simp [reachedValue, stepsValue, leadingGapScore, Int.mul_comm]
    · left
      omega

/-- One more letter keeps a row right. -/
theorem RowFor.next (right : RowFor candidate bonuses letters row) (known : Bonuses bonuses)
    (weight : letter.weight = 1 ∨ letter.weight = 2) (some : letters ≠ []) :
    RowFor candidate bonuses (letters ++ [letter])
      (rowFrom false letter.weight letter.char 0 .start (columns candidate bonuses row)) where
  same := ⟨right.same.bonuses, right.same.length_next false letter.weight letter.char⟩
  upper positions position aligned := by
    obtain ⟨before, later, here⟩ := IsAlignment.snoc_iff.mp aligned
    have inside := (List.getElem?_eq_some_iff.mp here).1
    rw [right.same.cell_next false letter.weight letter.char here, cell, if_pos rfl]
    rcases List.eq_nil_or_concat positions with rfl | ⟨earlier, previous, rfl⟩
    · exact absurd (List.length_eq_zero_iff.mp before.length_eq.symm) some
    · rw [List.concat_eq_append] at before later ⊢
      rw [reachedValue_snoc bonuses letter position previous before.length_eq]
      calc reachedValue bonuses letters (earlier ++ [previous])
              + stepValue bonuses letter previous position
          ≤ row.getD previous unreachable + stepValue bonuses letter previous position :=
            Int.add_le_add_right (right.upper earlier previous before) _
        _ ≤ _ := stepValue_le_running right.same (later previous (by simp)) inside
  attained position inside := by
    have here : candidate[position]? = .some candidate[position] :=
      List.getElem?_eq_getElem inside
    have bonus := weighted_bonus_bounds known weight position
    rw [right.same.cell_next false letter.weight letter.char here, cell]
    split
    · next equal =>
        simp only [Bool.false_eq_true, if_false]
        rcases running_attained right.same letter inside with ⟨left, best⟩ | ⟨previous, later, step⟩
        · -- Nothing is aligned before this position, so one bonus is all that is added.
          left
          rw [Int.mul_comm _ letter.weight]
          simp only [consecutiveScore, wordStartScore, gapScore]
          omega
        · rw [step]
          rcases right.attained previous (by omega) with low | ⟨earlier, aligned, value⟩
          · -- The slack of the earlier cell covers what this letter adds.
            left
            have upper := stepValue_upper known weight later
            omega
          · refine .inr ⟨earlier ++ [previous], aligned.snoc later (by rw [here, equal]), ?_⟩
            rw [reachedValue_snoc bonuses letter position previous aligned.length_eq, value]
    · left
      omega

/-! ## The last row -/

/-- A pattern begins with a letter unless all that has been read is blank. -/
theorem lettersAfter_cons_of_letter {before : Text} {char : Char} (rest : Text)
    (isLetter : Text.isBlank char = false) :
    lettersAfter before (char :: rest)
      = ⟨char, if beginsWord before then wordStartWeight else innerWeight⟩
          :: lettersAfter (char :: before) rest := by
  rw [lettersAfter, isLetter]
  rfl

/-- The rest of a pattern turns a row that is right for the letters read into one that
is right for all of them. -/
theorem RowFor.lastRow (known : Bonuses bonuses) (rest before : Text)
    (right : RowFor candidate bonuses letters row)
    (weights : ∀ letter ∈ letters, letter.weight = 1 ∨ letter.weight = 2)
    (read : letters.isEmpty = before.all Text.isBlank) :
    RowFor candidate bonuses (letters ++ lettersAfter before rest)
      (lastRow candidate bonuses letters.isEmpty (beginsWord before) row rest) := by
  induction rest generalizing letters before row with
  | nil => simpa [lettersAfter, Ranking.lastRow] using right
  | cons char rest ih =>
      by_cases blank : Text.isBlank char = true
      · have next := ih (char :: before) right weights (by simp [read, blank])
        have starts : beginsWord (char :: before) = true := by simp [beginsWord, blank]
        rw [starts] at next
        rw [lettersAfter, Ranking.lastRow, if_pos blank, if_pos blank]
        exact next
      · have isLetter : Text.isBlank char = false := by simpa using blank
        have continues : beginsWord (char :: before) = false := by simp [beginsWord, isLetter]
        rw [lettersAfter_cons_of_letter rest isLetter, Ranking.lastRow, if_neg blank,
          List.append_cons]
        have weight : ∀ letter ∈ letters
            ++ [⟨char, if beginsWord before then wordStartWeight else innerWeight⟩],
            letter.weight = 1 ∨ letter.weight = 2 := by
          intro letter member
          rcases List.mem_append.mp member with earlier | last
          · exact weights letter earlier
          · rw [List.mem_singleton.mp last]
            by_cases starts : beginsWord before <;> simp [starts, wordStartWeight, innerWeight]
        have step : RowFor candidate bonuses
            (letters ++ [⟨char, if beginsWord before then wordStartWeight else innerWeight⟩])
            (rowFrom letters.isEmpty (if beginsWord before then wordStartWeight else innerWeight)
              char 0 .start (columns candidate bonuses row)) := by
          cases letters with
          | nil => exact RowFor.first right.same
          | cons first others =>
              exact right.next known (weight _ (by simp)) (List.cons_ne_nil _ _)
        have done := ih (char :: before) step weight (by simp [isLetter])
        have nonempty : ∀ last : Letter, (letters ++ [last]).isEmpty = false := by
          intro last
          cases letters <;> rfl
        rw [continues, nonempty] at done
        exact done

/-- The best value of a row is the best one behind its last cell. -/
theorem bestOfRow_eq (row : List Int) :
    bestOfRow row = (runningAt row row.length).bestLeft := by
  have general : ∀ (running : Running) (cells : List Int),
      cells.foldl (fun best value => max (best + gapScore) value) running.bestLeft
        = (cells.foldl (fun running value =>
            (⟨value, max (running.bestLeft + gapScore) value⟩ : Running)) running).bestLeft := by
    intro running cells
    induction cells generalizing running with
    | nil => rfl
    | cons value cells ih => exact ih ⟨value, max (running.bestLeft + gapScore) value⟩
  rw [bestOfRow, runningAt, List.take_length]
  exact general .start row

/-- No alignment is worth more than the best value of a right row. -/
theorem RowFor.le_best (right : RowFor candidate bonuses letters row) {positions : List Nat}
    (aligned : IsAlignment letters candidate positions) (some : letters ≠ []) :
    alignmentValue bonuses letters positions ≤ bestOfRow row := by
  rcases List.eq_nil_or_concat positions with rfl | ⟨earlier, position, rfl⟩
  · exact absurd (List.length_eq_zero_iff.mp aligned.length_eq.symm) some
  · rw [List.concat_eq_append] at aligned ⊢
    have inside : position < row.length := by
      rw [right.same.row]
      exact aligned.lt_length (by simp)
    have best := le_bestLeft (Nat.le_refl row.length) inside
    have value := right.upper earlier position aligned
    rw [alignmentValue, List.getLastD_concat, bestOfRow_eq, right.same.bonuses]
    rw [right.same.row] at best ⊢
    omega

/-- The best value of a right row is that of an alignment, unless it is too low for one. -/
theorem RowFor.best_attained (right : RowFor candidate bonuses letters row) :
    bestOfRow row ≤ unreachable + 100 * candidate.length ∨
      ∃ positions, IsAlignment letters candidate positions ∧
        alignmentValue bonuses letters positions = bestOfRow row := by
  rcases bestLeft_attained (Nat.le_refl row.length) with low | ⟨position, inside, equal⟩
  · left
    rw [bestOfRow_eq]
    omega
  · rw [right.same.row] at inside
    rcases right.attained position inside with low | ⟨earlier, aligned, value⟩
    · left
      rw [bestOfRow_eq, equal, right.same.row]
      omega
    · refine .inr ⟨earlier ++ [position], aligned, ?_⟩
      rw [alignmentValue, List.getLastD_concat, value, bestOfRow_eq, equal, right.same.bonuses,
        right.same.row]

end

end Winnow.Ranking
