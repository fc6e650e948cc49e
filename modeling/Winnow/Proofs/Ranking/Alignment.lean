import Winnow.Ranking.Alignment
import Winnow.Proofs.Unicode.Folding

/-!
# Alignments and their values

An alignment places the letters of a pattern, in order, on characters of a
candidate. Its value is stated here by itself, as a sum over its positions, so
that the row-by-row computation of the score can be compared with it. Two facts
carry that comparison: how a value grows by one more letter
(`reachedValue_snoc`), and that it never falls far (`reachedValue_lower`).
-/

namespace Winnow.Ranking

/-- A character of a pattern that has to be aligned, and how often its bonus counts. -/
structure Letter where
  char : Char
  weight : Int
  deriving DecidableEq, Repr

/-- Whether the character behind `before`, last character first, begins a word of a
pattern: no letter has come yet, or a blank stands directly before it. -/
def beginsWord (before : Text) : Bool :=
  before.all Text.isBlank || before.head?.any Text.isBlank

/-- The letters of a pattern behind `before`, last character first; blanks are no letters. -/
def lettersAfter (before : Text) : Text → List Letter
  | [] => []
  | char :: rest =>
    if Text.isBlank char then lettersAfter (char :: before) rest
    else ⟨char, if beginsWord before then 2 else 1⟩ :: lettersAfter (char :: before) rest

/-- The letters of a pattern. -/
def letters (pattern : Text) : List Letter := lettersAfter [] pattern

/-- A letter whose character is folded. -/
def Letter.folded (letter : Letter) : Letter := { letter with char := Text.foldChar letter.char }

/-- The letters that are aligned: those of the pattern, folded unless case counts. -/
def comparedLetters (pattern : Text) (caseSensitive : Bool) : List Letter :=
  if caseSensitive then letters pattern else (letters pattern).map Letter.folded

/-- The candidate that letters are compared with, folded unless case counts. -/
def comparedCandidate (candidate : Text) (caseSensitive : Bool) : Text :=
  if caseSensitive then candidate else candidate.map Text.foldChar

/-- Increasing positions of a candidate, one for every letter, that spell the letters. -/
structure IsAlignment (letters : List Letter) (candidate : Text) (positions : List Nat) :
    Prop where
  increasing : positions.Pairwise (· < ·)
  spelled : positions.map (candidate[·]?) = letters.map fun letter => some letter.char

/-- What a letter adds at a position behind the one of the letter before it: on the
next character at least 45, elsewhere its bonus less five for every character between. -/
def stepValue (bonuses : List Int) (letter : Letter) (previous position : Nat) : Int :=
  let bonus := letter.weight * bonuses.getD position 0
  if position = previous + 1 then max 45 bonus
  else bonus - 5 * ((position : Int) - previous - 1)

/-- What all letters behind the first one add. -/
def stepsValue (bonuses : List Int) (previous : Nat) : List Letter → List Nat → Int
  | letter :: letters, position :: positions =>
    stepValue bonuses letter previous position + stepsValue bonuses position letters positions
  | _, _ => 0

/-- The value of an alignment up to its last position: every character before the
first position costs four. -/
def reachedValue (bonuses : List Int) : List Letter → List Nat → Int
  | letter :: letters, position :: positions =>
    -4 * position + letter.weight * bonuses.getD position 0
      + stepsValue bonuses position letters positions
  | _, _ => 0

/-- The value of an alignment: every character behind the last position costs five. -/
def alignmentValue (bonuses : List Int) (letters : List Letter) (positions : List Nat) : Int :=
  reachedValue bonuses letters positions
    - 5 * ((bonuses.length : Int) - 1 - positions.getLastD 0)

/-! ## The letters of a pattern -/

theorem beginsWord_foldCase (before : Text) :
    beginsWord (Text.foldCase before) = beginsWord before := by
  cases before with
  | nil => rfl
  | cons char rest => simp [beginsWord, Text.foldCase, List.all_map, Function.comp_def]

/-- The letters of a folded pattern are the folded letters. -/
theorem lettersAfter_foldCase (before pattern : Text) :
    lettersAfter (Text.foldCase before) (Text.foldCase pattern)
      = (lettersAfter before pattern).map Letter.folded := by
  induction pattern generalizing before with
  | nil => rfl
  | cons char rest ih =>
      have next := ih (char :: before)
      simp only [Text.foldCase, List.map_cons] at next ⊢
      rw [lettersAfter, lettersAfter, Text.isBlank_foldChar]
      split
      · exact next
      · rw [next, List.map_cons, ← Text.foldCase, beginsWord_foldCase]
        rfl

theorem letters_foldCase (pattern : Text) :
    letters (Text.foldCase pattern) = (letters pattern).map Letter.folded :=
  lettersAfter_foldCase [] pattern

/-- The characters of the letters are the pattern without its blanks. -/
theorem lettersAfter_map_char (before pattern : Text) :
    (lettersAfter before pattern).map Letter.char
      = pattern.filter fun char => !Text.isBlank char := by
  induction pattern generalizing before with
  | nil => rfl
  | cons char rest ih =>
      rw [lettersAfter]
      split
      · next blank => simp [blank, ih]
      · next letter => simp [letter, ih]

/-- The bonus of a letter counts once or twice. -/
theorem weight_of_mem_lettersAfter {before pattern : Text} {letter : Letter}
    (member : letter ∈ lettersAfter before pattern) : letter.weight = 1 ∨ letter.weight = 2 := by
  induction pattern generalizing before with
  | nil => cases member
  | cons char rest ih =>
      rw [lettersAfter] at member
      split at member
      · exact ih member
      · rcases List.mem_cons.mp member with rfl | later
        · by_cases starts : beginsWord before <;> simp [starts]
        · exact ih later

theorem comparedLetters_eq (pattern : Text) (caseSensitive : Bool) :
    comparedLetters pattern caseSensitive
      = letters ((if caseSensitive then id else Text.foldCase) pattern) := by
  cases caseSensitive with
  | false => exact (letters_foldCase pattern).symm
  | true => rfl

@[simp] theorem length_comparedCandidate (candidate : Text) (caseSensitive : Bool) :
    (comparedCandidate candidate caseSensitive).length = candidate.length := by
  cases caseSensitive <;> simp [comparedCandidate]

/-- The characters of the compared letters are those of the pattern that are no blanks. -/
theorem comparedLetters_map_char (pattern : Text) (caseSensitive : Bool) :
    (comparedLetters pattern caseSensitive).map Letter.char
      = comparedCandidate (pattern.filter fun char => !Text.isBlank char) caseSensitive := by
  cases caseSensitive with
  | true => exact lettersAfter_map_char [] pattern
  | false =>
      rw [comparedCandidate, if_neg Bool.false_ne_true, ← lettersAfter_map_char [] pattern,
        List.map_map]
      simp [comparedLetters, letters, Letter.folded, Function.comp_def]

/-- A pattern has no letters exactly when it is blank. -/
theorem comparedLetters_eq_nil_iff {pattern : Text} {caseSensitive : Bool} :
    comparedLetters pattern caseSensitive = [] ↔ pattern.all Text.isBlank = true := by
  have chars := comparedLetters_map_char pattern caseSensitive
  constructor
  · intro empty
    rw [empty, List.map_nil] at chars
    have none : pattern.filter (fun char => !Text.isBlank char) = [] := by
      apply List.length_eq_zero_iff.mp
      rw [← length_comparedCandidate _ caseSensitive, ← chars]
      rfl
    simpa [List.filter_eq_nil_iff] using none
  · intro blank
    have none : pattern.filter (fun char => !Text.isBlank char) = [] := by
      simpa [List.filter_eq_nil_iff] using blank
    rw [none] at chars
    cases caseSensitive <;> simpa [comparedCandidate] using chars

/-! ## Alignments -/

namespace IsAlignment

variable {letters : List Letter} {candidate : Text} {positions : List Nat}

theorem length_eq (aligned : IsAlignment letters candidate positions) :
    positions.length = letters.length := by
  simpa using congrArg List.length aligned.spelled

/-- An alignment of one more letter is an alignment of the others and a later
position that holds this letter. -/
theorem snoc_iff {letter : Letter} {position : Nat} :
    IsAlignment (letters ++ [letter]) candidate (positions ++ [position]) ↔
      IsAlignment letters candidate positions ∧ (∀ earlier ∈ positions, earlier < position) ∧
        candidate[position]? = some letter.char := by
  constructor
  · intro aligned
    have spelled := aligned.spelled
    rw [List.map_append, List.map_append] at spelled
    obtain ⟨before, last⟩ := List.append_inj' spelled rfl
    have increasing := List.pairwise_append.mp aligned.increasing
    refine ⟨⟨increasing.1, before⟩, ?_, by simpa using last⟩
    intro earlier member
    exact increasing.2.2 earlier member position List.mem_cons_self
  · rintro ⟨aligned, later, here⟩
    refine ⟨List.pairwise_append.mpr ⟨aligned.increasing, List.pairwise_singleton _ _, ?_⟩, ?_⟩
    · intro earlier member last lastMember
      rw [List.mem_singleton.mp lastMember]
      exact later earlier member
    · rw [List.map_append, List.map_append, aligned.spelled]
      simp [here]

/-- No position of an alignment lies outside the candidate. -/
theorem lt_length (aligned : IsAlignment letters candidate positions) {position : Nat}
    (member : position ∈ positions) : position < candidate.length := by
  have found : candidate[position]? ∈ positions.map (candidate[·]?) :=
    List.mem_map_of_mem member
  rw [aligned.spelled] at found
  obtain ⟨letter, -, here⟩ := List.mem_map.mp found
  exact (List.getElem?_eq_some_iff.mp here.symm).1

/-- An alignment goes on at any later position that holds the next letter. -/
theorem snoc {letter : Letter} {previous position : Nat}
    (aligned : IsAlignment letters candidate (positions ++ [previous]))
    (later : previous < position) (here : candidate[position]? = some letter.char) :
    IsAlignment (letters ++ [letter]) candidate (positions ++ [previous] ++ [position]) := by
  refine snoc_iff.mpr ⟨aligned, ?_, here⟩
  intro old member
  rcases List.mem_append.mp member with earlier | last
  · have increasing := (List.pairwise_append.mp aligned.increasing).2.2
    exact Nat.lt_trans (increasing old earlier previous List.mem_cons_self) later
  · rw [List.mem_singleton.mp last]
    exact later

end IsAlignment

/-- The letters can be aligned exactly when their characters, in order, are left over
from the candidate once others are struck out. -/
theorem exists_isAlignment_iff {letters : List Letter} {candidate : Text} :
    (∃ positions, IsAlignment letters candidate positions) ↔
      (letters.map Letter.char).Sublist candidate := by
  constructor
  · rintro ⟨positions, aligned⟩
    have inside : ∀ position ∈ positions, position < candidate.length :=
      fun _ member => aligned.lt_length member
    let indices : List (Fin candidate.length) :=
      positions.pmap (fun position bound => ⟨position, bound⟩) inside
    have increasing : indices.Pairwise (· < ·) := by
      simpa [indices, List.pairwise_pmap] using
        aligned.increasing.imp fun {left right} less _ _ => less
    have chars : letters.map Letter.char = indices.map fun index => candidate[index] := by
      have spelled : (letters.map Letter.char).map some
          = (indices.map fun index => candidate[index]).map some := by
        rw [List.map_map, List.map_map]
        calc letters.map (some ∘ Letter.char)
            = positions.map (candidate[·]?) := aligned.spelled.symm
          _ = (indices.map Fin.val).map (candidate[·]?) := by
              simp [indices, List.map_pmap]
          _ = indices.map (some ∘ fun index => candidate[index]) := by
              simp [List.map_map, Function.comp_def]
      exact (List.map_inj_right fun _ _ => Option.some.inj).mp spelled
    rw [chars]
    exact List.map_getElem_sublist increasing
  · intro sublist
    obtain ⟨indices, chars, increasing⟩ := List.sublist_eq_map_getElem sublist
    refine ⟨indices.map Fin.val, List.pairwise_map.mpr increasing, ?_⟩
    calc (indices.map Fin.val).map (candidate[·]?)
        = (indices.map fun index => candidate[index]).map some := by
          simp [List.map_map, Function.comp_def]
      _ = letters.map fun letter => some letter.char := by
          rw [← chars, List.map_map]
          rfl

/-! ## Bonuses -/

@[simp] theorem length_positionScoresAfter (previous : CharClass) (text : Text) :
    (positionScoresAfter previous text).length = text.length := by
  induction text generalizing previous with
  | nil => rfl
  | cons char rest ih => simp [positionScoresAfter, ih]

@[simp] theorem length_positionScores (text : Text) :
    (positionScores text).length = text.length :=
  length_positionScoresAfter _ _

theorem transitionScore_bounds (previous current : CharClass) :
    0 ≤ transitionScore previous current ∧ transitionScore previous current ≤ 50 := by
  cases previous <;> cases current <;> decide

/-- A bonus lies between zero and that of a word start. -/
theorem positionScoresAfter_bounds {previous : CharClass} {text : Text} {bonus : Int}
    (member : bonus ∈ positionScoresAfter previous text) : 0 ≤ bonus ∧ bonus ≤ 50 := by
  induction text generalizing previous with
  | nil => cases member
  | cons char rest ih =>
      rcases List.mem_cons.mp member with rfl | later
      · exact transitionScore_bounds _ _
      · exact ih later

/-- Bonuses that a row may be computed with. -/
structure Bonuses (bonuses : List Int) : Prop where
  bounds : ∀ position, 0 ≤ bonuses.getD position 0 ∧ bonuses.getD position 0 ≤ 50

theorem bonuses_positionScores (text : Text) : Bonuses (positionScores text) where
  bounds position := by
    rw [List.getD_eq_getElem?_getD]
    cases found : (positionScores text)[position]? with
    | none => decide
    | some bonus => exact positionScoresAfter_bounds (List.mem_of_getElem? found)

/-! ## Growing values -/

/-- One more letter adds its step to the letters behind the first. -/
theorem stepsValue_snoc (bonuses : List Int) (letter : Letter) (position : Nat)
    {letters : List Letter} {positions : List Nat} (previous : Nat)
    (lengths : positions.length = letters.length) :
    stepsValue bonuses previous (letters ++ [letter]) (positions ++ [position])
      = stepsValue bonuses previous letters positions
        + stepValue bonuses letter (positions.getLastD previous) position := by
  induction letters generalizing positions previous with
  | nil =>
      obtain rfl : positions = [] := List.length_eq_zero_iff.mp lengths
      simp [stepsValue]
  | cons first letters ih =>
      cases positions with
      | nil => simp at lengths
      | cons start positions =>
          have next := ih start (Nat.succ.inj lengths)
          simp only [List.cons_append, stepsValue, next, List.getLastD_cons]
          omega

/-- One more letter adds its step to the value of an alignment. -/
theorem reachedValue_snoc (bonuses : List Int) (letter : Letter) (position : Nat)
    {letters : List Letter} {positions : List Nat} (previous : Nat)
    (lengths : (positions ++ [previous]).length = letters.length) :
    reachedValue bonuses (letters ++ [letter]) (positions ++ [previous] ++ [position])
      = reachedValue bonuses letters (positions ++ [previous])
        + stepValue bonuses letter previous position := by
  cases letters with
  | nil => simp at lengths
  | cons first letters =>
      cases positions with
      | nil =>
          have rest : ([] : List Nat).length = letters.length := Nat.succ.inj lengths
          have step := stepsValue_snoc bonuses letter position previous rest
          simp only [List.nil_append, List.cons_append, reachedValue, List.getLastD_nil]
            at step ⊢
          rw [step]
          omega
      | cons start positions =>
          have rest : (positions ++ [previous]).length = letters.length := by
            simpa using lengths
          have step := stepsValue_snoc bonuses letter position start rest
          simp only [List.cons_append, reachedValue, List.getLastD_concat] at step ⊢
          rw [step]
          omega

/-- A weighted bonus lies between zero and a hundred. -/
theorem weighted_bonus_bounds {bonuses : List Int} (known : Bonuses bonuses) {letter : Letter}
    (weight : letter.weight = 1 ∨ letter.weight = 2) (position : Nat) :
    0 ≤ letter.weight * bonuses.getD position 0 ∧
      letter.weight * bonuses.getD position 0 ≤ 100 := by
  have bonus := known.bounds position
  rcases weight with single | double
  · rw [single]
    omega
  · rw [double]
    omega

theorem stepValue_lower {bonuses : List Int} (known : Bonuses bonuses) {letter : Letter}
    (weight : letter.weight = 1 ∨ letter.weight = 2) (previous position : Nat) :
    -5 * ((position : Int) - previous) ≤ stepValue bonuses letter previous position := by
  have bonus := weighted_bonus_bounds known weight position
  rw [stepValue]
  split <;> omega

/-- A step is worth no more than a weighted bonus can be. -/
theorem stepValue_upper {bonuses : List Int} (known : Bonuses bonuses) {letter : Letter}
    (weight : letter.weight = 1 ∨ letter.weight = 2) {previous position : Nat}
    (later : previous < position) :
    stepValue bonuses letter previous position ≤ 100 := by
  have bonus := weighted_bonus_bounds known weight position
  rw [stepValue]
  split <;> omega

/-- Letters behind the first one cost at most five for every character passed. -/
theorem stepsValue_lower {bonuses : List Int} (known : Bonuses bonuses)
    {letters : List Letter} (weights : ∀ letter ∈ letters, letter.weight = 1 ∨ letter.weight = 2)
    {positions : List Nat} (previous : Nat) (lengths : positions.length = letters.length) :
    -5 * ((positions.getLastD previous : Int) - previous)
      ≤ stepsValue bonuses previous letters positions := by
  induction letters generalizing positions previous with
  | nil =>
      obtain rfl : positions = [] := List.length_eq_zero_iff.mp lengths
      simp [stepsValue]
  | cons first letters ih =>
      cases positions with
      | nil => simp at lengths
      | cons start positions =>
          have step := stepValue_lower known (weights first List.mem_cons_self) previous start
          have rest := ih (fun letter member => weights letter (List.mem_cons_of_mem _ member))
            start (Nat.succ.inj lengths)
          rw [stepsValue, List.getLastD_cons]
          omega

/-- The value of an alignment never falls below five for every character before its end. -/
theorem reachedValue_lower {bonuses : List Int} (known : Bonuses bonuses)
    {letters : List Letter} (weights : ∀ letter ∈ letters, letter.weight = 1 ∨ letter.weight = 2)
    {positions : List Nat} (position : Nat)
    (lengths : (positions ++ [position]).length = letters.length) :
    -5 * (position : Int) ≤ reachedValue bonuses letters (positions ++ [position]) := by
  obtain ⟨start, rest, split⟩ := List.exists_cons_of_ne_nil
    (List.append_ne_nil_of_right_ne_nil positions (List.cons_ne_nil position []))
  cases letters with
  | nil => simp at lengths
  | cons first letters =>
      have last : rest.getLastD start = position := by
        rw [← List.getLastD_cons (a := 0), ← split, List.getLastD_concat]
      rw [split] at lengths ⊢
      have bonus := weighted_bonus_bounds known (weights first List.mem_cons_self) start
      have steps := stepsValue_lower known
        (fun letter member => weights letter (List.mem_cons_of_mem _ member))
        start (Nat.succ.inj lengths)
      rw [last] at steps
      rw [reachedValue]
      omega

/-- The value of an alignment never falls below five for every character. -/
theorem alignmentValue_lower {candidate : Text} {bonuses : List Int} (known : Bonuses bonuses)
    {letters : List Letter} (weights : ∀ letter ∈ letters, letter.weight = 1 ∨ letter.weight = 2)
    {positions : List Nat} (aligned : IsAlignment letters candidate positions)
    (some : letters ≠ []) :
    -5 * (bonuses.length : Int) ≤ alignmentValue bonuses letters positions := by
  rcases List.eq_nil_or_concat positions with rfl | ⟨earlier, position, rfl⟩
  · exact absurd (List.length_eq_zero_iff.mp aligned.length_eq.symm) some
  · rw [List.concat_eq_append] at aligned ⊢
    have lower := reachedValue_lower known weights position aligned.length_eq
    rw [alignmentValue, List.getLastD_concat]
    omega

end Winnow.Ranking
