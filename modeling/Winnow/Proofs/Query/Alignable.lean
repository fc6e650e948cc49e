import Winnow.Proofs.Query.Pieces
import Winnow.Proofs.Query.Spelling
import Winnow.Proofs.Ranking.FuzzyScore

/-!
# When accepted candidates can be aligned

The filter asks for every piece of a query by itself and ignores case variants;
the score aligns all letters of the query at once, by their folded forms. Both
agree on the queries that are `Alignable`: at most one piece has letters, and no
letter has case variants unless case counts (`sublist_of_alignable`). For any
other query there is a candidate that is no longer than the query, is accepted
and cannot be aligned: pieces with letters can be read in another order or share
a letter (`exists_unaligned_of_pieces`), and a letter can be replaced by a
variant (`exists_unaligned_of_variant`).
-/

namespace Winnow

open Regex

/-! ## Letters -/

/-- A character as it is compared: folded unless case counts. -/
def comparedChar (caseSensitive : Bool) (char : Char) : Char :=
  if caseSensitive then char else Text.foldChar char

@[simp] theorem isBlank_comparedChar (caseSensitive : Bool) (char : Char) :
    Text.isBlank (comparedChar caseSensitive char) = Text.isBlank char := by
  cases caseSensitive <;> simp [comparedChar]

theorem comparedCandidate_eq_map (text : Text) (caseSensitive : Bool) :
    Ranking.comparedCandidate text caseSensitive = text.map (comparedChar caseSensitive) := by
  cases caseSensitive with
  | true => exact (List.map_id text).symm
  | false => rfl

theorem letters_append (left right : Text) :
    Text.letters (left ++ right) = Text.letters left ++ Text.letters right :=
  List.filter_append left right

theorem letters_eq_nil_iff {text : Text} :
    Text.letters text = [] ↔ text.all Text.isBlank = true := by
  simp [Text.letters, List.filter_eq_nil_iff]

/-- A query can be aligned exactly if the candidate holds its letters in order. -/
theorem exists_isAlignment_iff_sublist {query candidate : Text} {caseSensitive : Bool} :
    (∃ positions, Ranking.IsAlignment (Ranking.comparedLetters query caseSensitive)
        (Ranking.comparedCandidate candidate caseSensitive) positions) ↔
      ((Text.letters query).map (comparedChar caseSensitive)).Sublist
        (candidate.map (comparedChar caseSensitive)) := by
  rw [Ranking.exists_isAlignment_iff, Ranking.comparedLetters_map_char,
    comparedCandidate_eq_map, comparedCandidate_eq_map]
  rfl

/-- Letters that a candidate holds in order are letters of the candidate. -/
theorem letters_sublist {query candidate : Text} {caseSensitive : Bool}
    (inside : ((Text.letters query).map (comparedChar caseSensitive)).Sublist
      (candidate.map (comparedChar caseSensitive))) :
    ((Text.letters query).map (comparedChar caseSensitive)).Sublist
      ((Text.letters candidate).map (comparedChar caseSensitive)) := by
  have kept : ∀ text : Text,
      (text.map (comparedChar caseSensitive)).filter (fun char => !Text.isBlank char)
        = (Text.letters text).map (comparedChar caseSensitive) := by
    intro text
    simp [List.filter_map, Text.letters, Function.comp_def]
  have letters := inside.filter fun char => !Text.isBlank char
  rw [kept, kept] at letters
  simpa [Text.letters, List.filter_filter] using letters

/-! ## Queries that agree -/

/-- A query whose accepted candidates can all be aligned: at most one of its pieces has
letters, and unless case counts no character of it has case variants. -/
structure Alignable (query : Text) (options : MatchOptions) : Prop where
  single : ((pieceTexts options query).filter fun piece => !piece.all Text.isBlank).length ≤ 1
  unvaried : options.caseSensitive = true ∨ ∀ char ∈ query, CaseRule.variantsOf char = []

/-- A character that stands for another one without variants is compared like it. -/
theorem comparedChar_eq_of_corresponds {caseSensitive : Bool} {char found : Char}
    (unvaried : caseSensitive = true ∨ CaseRule.variantsOf char = [])
    (stands : (ruleFor caseSensitive).Corresponds char found) :
    comparedChar caseSensitive found = comparedChar caseSensitive char := by
  cases caseSensitive with
  | true => rw [CaseRule.corresponds_exact.mp stands]
  | false =>
      have single : CaseRule.variantsOf char = [] := by simpa using unvaried
      exact CaseRule.foldChar_eq_of_corresponds single stands

/-- Characters that stand for characters without variants are compared like them. -/
theorem map_comparedChar_eq {caseSensitive : Bool} {chars picked : Text}
    (all : List.Forall₂ (ruleFor caseSensitive).Corresponds chars picked)
    (unvaried : ∀ char ∈ chars, caseSensitive = true ∨ CaseRule.variantsOf char = []) :
    picked.map (comparedChar caseSensitive) = chars.map (comparedChar caseSensitive) := by
  induction all with
  | nil => rfl
  | cons stands _ ih =>
      obtain ⟨here, later⟩ := List.forall_mem_cons.mp unvaried
      rw [List.map_cons, List.map_cons, comparedChar_eq_of_corresponds here stands, ih later]

/-- Leaving blank texts out leaves no letter out. -/
theorem letters_flatten_filter (texts : List Text) :
    Text.letters (texts.filter fun text => !text.all Text.isBlank).flatten
      = Text.letters texts.flatten := by
  induction texts with
  | nil => rfl
  | cons text texts ih =>
      rw [List.flatten_cons, letters_append, ← ih, List.filter_cons]
      split
      · rw [List.flatten_cons, letters_append]
      · next blank =>
          have none : Text.letters text = [] := letters_eq_nil_iff.mpr (by simpa using blank)
          rw [none, List.nil_append]

/-- A text that spells every piece of an alignable query holds its letters in order. -/
theorem sublist_of_alignable {query candidate : Text} {options : MatchOptions}
    (alignable : Alignable query options)
    (spelled : ∀ piece ∈ pieceTexts options query,
      Spelled (ruleFor options.caseSensitive) piece candidate) :
    ((Text.letters query).map (comparedChar options.caseSensitive)).Sublist
      (candidate.map (comparedChar options.caseSensitive)) := by
  have letters : Text.letters query
      = Text.letters ((pieceTexts options query).filter fun piece =>
          !piece.all Text.isBlank).flatten := by
    rw [letters_flatten_filter, letters_pieceTexts]
  have single := alignable.single
  rw [letters]
  cases lettered : (pieceTexts options query).filter fun piece => !piece.all Text.isBlank with
  | nil => exact List.nil_sublist _
  | cons piece others =>
      rw [lettered, List.length_cons] at single
      obtain rfl : others = [] := List.length_eq_zero_iff.mp (by omega)
      have member : piece ∈ pieceTexts options query :=
        (List.mem_filter.mp (lettered ▸ List.mem_cons_self)).1
      have unvaried : ∀ char ∈ piece,
          options.caseSensitive = true ∨ CaseRule.variantsOf char = [] := by
        intro char inside
        have inQuery := mem_query_of_mem_pieceTexts member inside
        exact alignable.unvaried.imp_right fun none => none char inQuery
      obtain ⟨picked, all, inside⟩ := exists_sublist_of_spelled (spelled piece member)
      have own : (Text.letters piece).Sublist piece := List.filter_sublist
      rw [List.flatten_singleton]
      refine (own.map (comparedChar options.caseSensitive)).trans ?_
      rw [← map_comparedChar_eq all unvaried]
      exact inside.map _

/-! ## Candidates that cannot be aligned -/

/-- A candidate that spells all texts, is no longer than they are together, and does not
hold their letters in order. -/
structure Unaligned (caseSensitive : Bool) (texts : List Text) (candidate : Text) : Prop where
  spelled : ∀ text ∈ texts, Spelled (ruleFor caseSensitive) text candidate
  short : candidate.length ≤ texts.flatten.length
  apart : ¬((Text.letters texts.flatten).map (comparedChar caseSensitive)).Sublist
    (candidate.map (comparedChar caseSensitive))

theorem spelled_flatten {rule : CaseRule} {texts : List Text} {text : Text}
    (member : text ∈ texts) : Spelled rule text texts.flatten := by
  obtain ⟨before, after, rfl⟩ := List.append_of_mem member
  have own : Spelled rule text text := spelled_self text
  simpa using own.extend before.flatten after.flatten

/-- A character with another letter in the place of all that are lowered alike. -/
def replaceLower (lower variant : Nat) (char : Char) : Char :=
  if Unicode.toLower char.toNat = lower then Char.ofNat variant else char

section

variable {char : Char} {variant : Nat}

/-- Every character stands for what replaces it. -/
theorem corresponds_replaceLower (member : variant ∈ CaseRule.variantsOf char) (other : Char) :
    CaseRule.ignoreAll.Corresponds other
      (replaceLower (Unicode.toLower char.toNat) variant other) := by
  rw [replaceLower]
  split
  · next same =>
      have variants : variant ∈ CaseRule.variantsOf other := by rwa [CaseRule.variantsOf, same]
      exact (CaseRule.corresponds_variant variants).1
  · exact CaseRule.corresponds_refl _ _

/-- Once letters are replaced by a variant, nothing is lowered like them. -/
theorem toLower_replaceLower_ne (member : variant ∈ CaseRule.variantsOf char) (other : Char) :
    Unicode.toLower (replaceLower (Unicode.toLower char.toNat) variant other).toNat
      ≠ Unicode.toLower char.toNat := by
  rw [replaceLower]
  split
  · exact (CaseRule.corresponds_variant member).2
  · next moved => exact moved

end

/-- A letter with case variants can be replaced by one. -/
theorem exists_unaligned_of_variant {texts : List Text} {char : Char}
    (inside : char ∈ texts.flatten) (varied : CaseRule.variantsOf char ≠ []) :
    ∃ candidate, Unaligned false texts candidate := by
  obtain ⟨variant, member⟩ := List.exists_mem_of_ne_nil _ varied
  obtain ⟨-, isLetter, -⟩ := CaseRule.variantsOf_spec member
  let replaced := replaceLower (Unicode.toLower char.toNat) variant
  refine ⟨texts.flatten.map replaced, ?_, (List.length_map replaced).le, ?_⟩
  · intro text textMember
    obtain ⟨before, after, rfl⟩ := List.append_of_mem textMember
    have own : Spelled (ruleFor false) text (text.map replaced) :=
      spelled_of_forall₂ (List.forall₂_map_right_iff.mpr
        (List.forall₂_same.mpr fun other _ => corresponds_replaceLower member other))
    have extended := own.extend (before.flatten.map replaced) (after.flatten.map replaced)
    simpa using extended
  · intro held
    have letter : char ∈ Text.letters texts.flatten :=
      List.mem_filter.mpr ⟨inside, by simp [isLetter]⟩
    have found := held.subset (List.mem_map_of_mem letter)
    rw [List.map_map] at found
    obtain ⟨other, -, same⟩ := List.mem_map.mp found
    exact toLower_replaceLower_ne member other (Text.toLower_eq_of_foldChar_eq same)

/-- A text with letters is split at its first letter. -/
theorem exists_firstLetter {text : Text} (some : text.all Text.isBlank = false) :
    ∃ before letter after, text = before ++ letter :: after ∧ Text.letters before = [] ∧
      Text.isBlank letter = false := by
  have letters : Text.letters text ≠ [] := by
    rw [ne_eq, letters_eq_nil_iff, some]
    exact Bool.false_ne_true
  obtain ⟨letter, others, split⟩ := List.exists_cons_of_ne_nil letters
  obtain ⟨before, after, rfl, blank, isLetter, -⟩ := List.filter_eq_cons_iff.mp split
  exact ⟨before, letter, after, rfl, List.filter_eq_nil_iff.mpr blank, by simpa using isLetter⟩

/-- Characters that are compared alike stand for a common one. -/
theorem exists_corresponds_of_comparedChar_eq {caseSensitive : Bool} {left right : Char}
    (same : comparedChar caseSensitive left = comparedChar caseSensitive right) :
    ∃ common, (ruleFor caseSensitive).Corresponds left common ∧
      (ruleFor caseSensitive).Corresponds right common := by
  cases caseSensitive with
  | true =>
      obtain rfl : left = right := same
      exact ⟨left, CaseRule.corresponds_refl _ _, CaseRule.corresponds_refl _ _⟩
  | false => exact CaseRule.exists_corresponds_of_foldChar_eq same

theorem perm_two_middle {before middle after : List Text} {left right : Text} :
    (before ++ left :: (middle ++ right :: after)).Perm
      (left :: right :: (before ++ middle ++ after)) := by
  refine List.perm_middle.trans (List.Perm.cons _ ?_)
  rw [← List.append_assoc]
  exact List.perm_middle

section

variable {caseSensitive : Bool} {texts : List Text} {left right : Char}
  {leftBefore rightBefore leftAfter rightAfter : Text}

/-- Two texts whose letters can be read as one are merged; the candidate then has too few
letters. -/
theorem unaligned_of_merged {before middle after : List Text}
    (order : texts = before ++ (leftBefore ++ left :: leftAfter) ::
      (middle ++ (rightBefore ++ right :: rightAfter) :: after))
    (leftLetter : Text.isBlank left = false) (rightLetter : Text.isBlank right = false)
    (same : comparedChar caseSensitive left = comparedChar caseSensitive right) :
    ∃ candidate, Unaligned caseSensitive texts candidate := by
  obtain ⟨common, leftStands, rightStands⟩ := exists_corresponds_of_comparedChar_eq same
  let others := before ++ middle ++ after
  have members : texts.Perm
      ((leftBefore ++ left :: leftAfter) :: (rightBefore ++ right :: rightAfter) :: others) :=
    order ▸ perm_two_middle
  let merged := merge leftBefore rightBefore common leftAfter rightAfter
  have spells : Spelled (ruleFor caseSensitive) (leftBefore ++ left :: leftAfter) merged ∧
      Spelled (ruleFor caseSensitive) (rightBefore ++ right :: rightAfter) merged :=
    spelled_merge leftStands rightStands
  have fewer : ∀ test : Char → Bool, test left = true → test right = true →
      (merged ++ others.flatten).countP test < texts.flatten.countP test := by
    intro test leftCounts rightCounts
    have both : merged.countP test < (leftBefore ++ left :: leftAfter).countP test
        + (rightBefore ++ right :: rightAfter).countP test :=
      countP_merge_lt leftCounts rightCounts
    rw [members.flatten.countP_eq, List.flatten_cons, List.flatten_cons, ← List.append_assoc,
      List.countP_append, List.countP_append, List.countP_append]
    omega
  refine ⟨merged ++ others.flatten, ?_, ?_, ?_⟩
  · intro text member
    rcases List.mem_cons.mp (members.mem_iff.mp member) with rfl | later
    · simpa using spells.1.extend [] others.flatten
    · rcases List.mem_cons.mp later with rfl | other
      · simpa using spells.2.extend [] others.flatten
      · have own : Spelled (ruleFor caseSensitive) text others.flatten := spelled_flatten other
        simpa using own.extend merged []
  · have shorter := fewer (fun _ => true) rfl rfl
    rw [List.countP_true] at shorter
    exact shorter.le
  · intro held
    have enough := (letters_sublist held).length_le
    have missing := fewer (fun char => !Text.isBlank char) (by simp [leftLetter])
      (by simp [rightLetter])
    rw [List.length_map, List.length_map, Text.letters, Text.letters,
      ← List.countP_eq_length_filter, ← List.countP_eq_length_filter] at enough
    omega

/-- The letters of texts behind blank ones begin with the first letter of the first text that
has any. -/
theorem letters_flatten_firstLetter {before after : List Text} {char : Char} {start rest : Text}
    (blank : Text.letters before.flatten = []) (startBlank : Text.letters start = [])
    (letter : Text.isBlank char = false) :
    ∃ others, Text.letters (before ++ (start ++ char :: rest) :: after).flatten
      = char :: others := by
  rw [List.flatten_append, List.flatten_cons, letters_append, letters_append, letters_append,
    blank, startBlank, List.nil_append, List.nil_append]
  refine ⟨Text.letters rest ++ Text.letters after.flatten, ?_⟩
  rw [Text.letters, List.filter_cons_of_pos (by simp [letter])]
  rfl

/-- Two texts whose first letters differ are put in the other order; the candidate then has
the wrong letter first. -/
theorem unaligned_of_swapped {before middle after : List Text}
    (order : texts = before ++ (leftBefore ++ left :: leftAfter) ::
      (middle ++ (rightBefore ++ right :: rightAfter) :: after))
    (blank : Text.letters before.flatten = [])
    (leftBlank : Text.letters leftBefore = []) (rightBlank : Text.letters rightBefore = [])
    (leftLetter : Text.isBlank left = false) (rightLetter : Text.isBlank right = false)
    (differ : comparedChar caseSensitive left ≠ comparedChar caseSensitive right) :
    ∃ candidate, Unaligned caseSensitive texts candidate := by
  -- Both hold the same letters, so one is a sublist of the other only if they are equal.
  let swapped := (rightBefore ++ right :: rightAfter) ::
    ((before ++ (leftBefore ++ left :: leftAfter) :: middle) ++ after)
  have members : texts.Perm swapped := by
    rw [order, ← List.cons_append, ← List.append_assoc]
    exact List.perm_middle
  have leftFirst : ∃ others, Text.letters texts.flatten = left :: others :=
    order ▸ letters_flatten_firstLetter blank leftBlank leftLetter
  have rightFirst : ∃ others, Text.letters ([] ++ swapped).flatten = right :: others :=
    letters_flatten_firstLetter rfl rightBlank rightLetter
  refine ⟨swapped.flatten, ?_, members.flatten.length_eq.ge, ?_⟩
  · intro text member
    exact spelled_flatten (members.mem_iff.mp member)
  · intro held
    have count : (Text.letters texts.flatten).length = (Text.letters swapped.flatten).length :=
      (members.flatten.filter _).length_eq
    have equal := (letters_sublist held).eq_of_length (by
      rw [List.length_map, List.length_map, count])
    obtain ⟨leftOthers, leftSplit⟩ := leftFirst
    obtain ⟨rightOthers, rightSplit⟩ := rightFirst
    rw [List.nil_append] at rightSplit
    rw [leftSplit, rightSplit, List.map_cons, List.map_cons] at equal
    exact differ (List.head_eq_of_cons_eq equal)

end

theorem exists_two_of_length {entries : List Text} (several : 2 ≤ entries.length) :
    ∃ first second others, entries = first :: second :: others := by
  obtain ⟨first, rest, rfl⟩ := List.exists_cons_of_length_pos (by omega : 0 < entries.length)
  rw [List.length_cons] at several
  obtain ⟨second, others, rfl⟩ := List.exists_cons_of_length_pos (by omega : 0 < rest.length)
  exact ⟨first, second, others, rfl⟩

/-- Pieces with letters can be read in another order, or share a letter. -/
theorem exists_unaligned_of_pieces {texts : List Text} (caseSensitive : Bool)
    (several : 2 ≤ (texts.filter fun text => !text.all Text.isBlank).length) :
    ∃ candidate, Unaligned caseSensitive texts candidate := by
  obtain ⟨first, second, others, lettered⟩ := exists_two_of_length several
  obtain ⟨before, rest, rfl, blank, firstLettered, restSplit⟩ :=
    List.filter_eq_cons_iff.mp lettered
  obtain ⟨middle, after, rfl, -, secondLettered, -⟩ := List.filter_eq_cons_iff.mp restSplit
  obtain ⟨leftBefore, left, leftAfter, rfl, leftBlank, leftLetter⟩ :=
    exists_firstLetter (by simpa using firstLettered)
  obtain ⟨rightBefore, right, rightAfter, rfl, rightBlank, rightLetter⟩ :=
    exists_firstLetter (by simpa using secondLettered)
  by_cases same : comparedChar caseSensitive left = comparedChar caseSensitive right
  · exact unaligned_of_merged rfl leftLetter rightLetter same
  · have beforeBlank : Text.letters before.flatten = [] := by
      rw [letters_eq_nil_iff, List.all_flatten, List.all_eq_true]
      intro text member
      simpa using blank text member
    exact unaligned_of_swapped rfl beforeBlank leftBlank rightBlank leftLetter rightLetter same

/-! ## Which queries agree -/

/-- For a query that is not alignable, a candidate spells all its pieces without being
aligned. -/
theorem exists_unaligned {query : Text} {options : MatchOptions}
    (unalignable : ¬Alignable query options) :
    ∃ candidate, Unaligned options.caseSensitive (pieceTexts options query) candidate := by
  by_cases single :
      ((pieceTexts options query).filter fun piece => !piece.all Text.isBlank).length ≤ 1
  · have varied : ¬(options.caseSensitive = true ∨
        ∀ char ∈ query, CaseRule.variantsOf char = []) :=
      fun unvaried => unalignable ⟨single, unvaried⟩
    obtain ⟨counts, some⟩ := not_or.mp varied
    obtain ⟨char, rest⟩ := not_forall.mp some
    obtain ⟨inside, variants⟩ := Classical.not_imp.mp rest
    obtain ⟨variant, member⟩ := List.exists_mem_of_ne_nil _ variants
    have letter : char ∈ Text.letters query :=
      List.mem_filter.mpr ⟨inside, by simp [(CaseRule.variantsOf_spec member).2.1]⟩
    rw [← letters_pieceTexts options] at letter
    rw [Bool.eq_false_iff.mpr counts]
    exact exists_unaligned_of_variant (List.mem_filter.mp letter).1 variants
  · exact exists_unaligned_of_pieces options.caseSensitive (by omega)

/-- Accepted candidates of an alignable query have an alignment, and up to 256 characters
they do not have the worst score. Any other query accepts a candidate, no longer than the
query, that has no alignment and the worst score. -/
theorem alignment_of_accepted (query : Text) (caseSensitive tokenize : Bool) :
    ∃ tokens, TokenSet.compile query ⟨.fuzzy, caseSensitive, tokenize⟩ = .ok tokens ∧
      (Alignable query ⟨.fuzzy, caseSensitive, tokenize⟩ →
        ∀ candidate, tokens.accepts candidate = true →
          (∃ positions, Ranking.IsAlignment (Ranking.comparedLetters query caseSensitive)
            (Ranking.comparedCandidate candidate caseSensitive) positions) ∧
          (candidate.length ≤ 256 →
            Ranking.fuzzyScore query candidate caseSensitive ≠ Ranking.worstScore)) ∧
      (¬Alignable query ⟨.fuzzy, caseSensitive, tokenize⟩ →
        ∃ candidate, candidate.length ≤ query.length ∧ tokens.accepts candidate = true ∧
          (¬∃ positions, Ranking.IsAlignment (Ranking.comparedLetters query caseSensitive)
            (Ranking.comparedCandidate candidate caseSensitive) positions) ∧
          Ranking.fuzzyScore query candidate caseSensitive = Ranking.worstScore) := by
  let options : MatchOptions := ⟨.fuzzy, caseSensitive, tokenize⟩
  obtain ⟨tokens, compiled, accepts⟩ := compile_fuzzyQuery query caseSensitive tokenize
  refine ⟨tokens, compiled, ?_, ?_⟩
  · intro alignable candidate accepted
    have aligned := exists_isAlignment_iff_sublist.mpr
      (sublist_of_alignable alignable ((accepts candidate).mp accepted))
    refine ⟨aligned, fun short worst => ?_⟩
    exact (Ranking.fuzzyScore_eq_worstScore_iff short).mp worst aligned
  · intro unalignable
    obtain ⟨candidate, spelled, short, apart⟩ := exists_unaligned unalignable
    rw [letters_pieceTexts] at apart
    have none := mt exists_isAlignment_iff_sublist.mp apart
    refine ⟨candidate, short.trans (length_flatten_pieceTexts_le options query),
      (accepts candidate).mpr spelled, none, ?_⟩
    rcases Nat.lt_or_ge 256 candidate.length with long | small
    · exact Ranking.fuzzyScore_of_long long
    · exact (Ranking.fuzzyScore_eq_worstScore_iff small).mpr none

/-- Words are accepted in any order, and a letter is accepted for its variants, but neither
can be aligned. -/
theorem alignment_fails_on_accepted :
    (TokenSet.compile ['b', ' ', 'a'] ⟨.fuzzy, false, true⟩).map
        (fun tokens => tokens.accepts ['a', 'b']) = .ok true ∧
      Ranking.fuzzyScore ['b', ' ', 'a'] ['a', 'b'] false = Ranking.worstScore ∧
      (TokenSet.compile ['s'] ⟨.fuzzy, false, true⟩).map
        (fun tokens => tokens.accepts ['ſ']) = .ok true ∧
      Ranking.fuzzyScore ['s'] ['ſ'] false = Ranking.worstScore := by
  decide +kernel

/-- A word without variants is alignable. -/
example : Alignable ['m', 'a', 'p'] ⟨.fuzzy, false, true⟩ where
  single := by decide +kernel
  unvaried := by
    right
    intro char member
    simp only [List.mem_cons, List.not_mem_nil, or_false] at member
    rcases member with rfl | rfl | rfl <;> decide +kernel

end Winnow
