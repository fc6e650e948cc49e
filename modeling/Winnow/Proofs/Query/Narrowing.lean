import Winnow.Proofs.Query.Glob
import Winnow.Proofs.Query.Literal
import Winnow.Proofs.Query.Places
import Winnow.Proofs.Query.Spelling
import Mathlib.Data.List.DropRight

/-!
# Which queries and options accept less

Three of the methods say themselves what they look for (`Finds`); a regular
expression has a language of its own and is left out here. What one of them
finds for a piece it also finds for every part of the piece (`Finds.of_isInfix`),
without regard to case (`Finds.ignoreAll`), and by the looser methods if the
literal one finds it (`Finds.of_literal`). The pieces of a part of a query are
parts of the pieces of the query (`exists_isPiece_of_isInfix`), wherever it is
cut. So a query only accepts less when more is typed (`accepts_of_isInfix`) and
more under looser options (`accepts_of_looser`).
-/

namespace Winnow

open Regex

/-! ## What a piece asks for -/

/-- A method finds a piece in a text. There is no case for regular expressions, which have a
language of their own. -/
inductive Finds (rule : CaseRule) (piece text : Text) : Method → Prop
  | literal : Occurs rule piece text → Finds rule piece text .literal
  | glob {before middle after : Text} :
      text = before ++ middle ++ after → GlobMatches rule piece middle →
      Finds rule piece text .glob
  | fuzzy : Spelled rule piece text → Finds rule piece text .fuzzy

section

variable {rule : CaseRule} {piece part text : Text} {method : Method}

/-- Every piece compiles by a method other than the regular expressions, into a pattern that occurs
where the method finds the piece. -/
theorem compile_finds (plain : method ≠ .regex) (some : piece ≠ []) (caseSensitive : Bool)
    {room : Nat} :
    ∃ pattern, Pattern.compile piece method caseSensitive room = .ok pattern ∧
      ∀ text, pattern.occursIn text = true ↔ Finds (ruleFor caseSensitive) piece text method := by
  cases method with
  | literal =>
      obtain ⟨pattern, compiled, occurs⟩ := compile_literal piece caseSensitive
      refine ⟨pattern, compiled, fun text => (occurs text).trans ⟨.literal, ?_⟩⟩
      rintro ⟨found⟩
      exact found
  | glob =>
      obtain ⟨pattern, compiled, -, occurs⟩ :=
        compile_flat (piece.map FlatItem.ofGlob) caseSensitive fun _ _ => flatPath_glob_iff
      refine ⟨pattern, ?_, fun text => (occurs text).trans ⟨?_, ?_⟩⟩
      · rw [Pattern.compile, globSource_eq_flatSource, compiled]
      · rintro ⟨before, middle, after, split, matched⟩
        exact .glob split matched
      · rintro (- | ⟨split, matched⟩)
        exact ⟨_, _, _, split, matched⟩
  | regex => exact absurd rfl plain
  | fuzzy =>
      obtain ⟨char, chars, rfl⟩ := List.exists_cons_of_ne_nil some
      obtain ⟨pattern, compiled, -, occurs⟩ := compile_fuzzy char chars caseSensitive
      refine ⟨pattern, compiled, fun text => (occurs text).trans ⟨.fuzzy, ?_⟩⟩
      rintro (- | - | spelled)
      exact spelled

/-! ## Parts of a piece -/

/-- What corresponds to two texts one behind the other is what corresponds to each. -/
theorem exists_append_of_forall₂ {α β : Type} {relation : α → β → Prop} {left right : List α}
    {found : List β} (all : List.Forall₂ relation (left ++ right) found) :
    ∃ first second, found = first ++ second ∧ List.Forall₂ relation left first ∧
      List.Forall₂ relation right second := by
  refine ⟨found.take left.length, found.drop left.length,
    (List.take_append_drop _ found).symm, ?_, ?_⟩
  · simpa using List.forall₂_take left.length all
  · simpa using List.forall₂_drop left.length all

/-- With a text every part of it occurs. -/
theorem Occurs.of_isInfix (inside : part <:+: piece) (occurs : Occurs rule piece text) :
    Occurs rule part text := by
  obtain ⟨left, right, rfl⟩ := inside
  obtain ⟨before, found, after, rfl, all⟩ := occurs
  obtain ⟨front, back, rfl, frontAll, -⟩ := exists_append_of_forall₂ all
  obtain ⟨skipped, middle, rfl, -, middleAll⟩ := exists_append_of_forall₂ frontAll
  exact ⟨before ++ skipped, middle, back ++ after, by simp, middleAll⟩

/-- What two globs one behind the other mean is what the first one means and then what the second
one means. -/
theorem GlobMatches.exists_append {left right : Text}
    (matched : GlobMatches rule (left ++ right) text) :
    ∃ first second, text = first ++ second ∧ GlobMatches rule left first ∧
      GlobMatches rule right second := by
  induction left generalizing text with
  | nil => exact ⟨[], text, rfl, .nil, matched⟩
  | cons char left ih =>
      rw [List.cons_append] at matched
      cases matched with
      | @star run _ _ free rest =>
          obtain ⟨first, second, rfl, front, back⟩ := ih rest
          exact ⟨run ++ first, second, (List.append_assoc ..).symm, .star free front, back⟩
      | @question found _ _ other rest =>
          obtain ⟨first, second, rfl, front, back⟩ := ih rest
          exact ⟨found :: first, second, rfl, .question other front, back⟩
      | @char _ found _ _ noStar noQuestion stands rest =>
          obtain ⟨first, second, rfl, front, back⟩ := ih rest
          exact ⟨found :: first, second, rfl, .char noStar noQuestion stands front, back⟩

/-- With characters every part of them is spelled. -/
theorem Spelled.of_isInfix (inside : part <:+: piece) (spelled : Spelled rule piece text) :
    Spelled rule part text := by
  obtain ⟨left, right, rfl⟩ := inside
  obtain ⟨places, all, bridged⟩ := spelled_iff_exists_places.mp spelled
  obtain ⟨front, back, rfl, frontAll, -⟩ := exists_append_of_forall₂ all
  obtain ⟨skipped, middle, rfl, -, middleAll⟩ := exists_append_of_forall₂ frontAll
  refine spelled_iff_exists_places.mpr ⟨middle, middleAll, bridged.infix ?_⟩
  exact ⟨skipped, back, rfl⟩

/-- What a method finds for a piece it finds for every part of it. -/
theorem Finds.of_isInfix (inside : part <:+: piece) (finds : Finds rule piece text method) :
    Finds rule part text method := by
  cases finds with
  | literal occurs => exact .literal (occurs.of_isInfix inside)
  | @glob before _ after split matched =>
      obtain ⟨left, right, rfl⟩ := inside
      obtain ⟨front, back, rfl, frontMatched, -⟩ := matched.exists_append
      obtain ⟨skipped, middle, rfl, -, middleMatched⟩ := frontMatched.exists_append
      have whole : text = (before ++ skipped) ++ middle ++ (back ++ after) := by simp [split]
      exact .glob whole middleMatched
  | fuzzy spelled => exact .fuzzy (spelled.of_isInfix inside)

/-! ## Looser methods -/

/-- A character that stands for another one if case counts does so if it is ignored. -/
theorem CaseRule.Corresponds.ignoreAll {char found : Char}
    (same : CaseRule.exact.Corresponds char found) : CaseRule.ignoreAll.Corresponds char found := by
  rw [CaseRule.corresponds_exact.mp same]
  exact CaseRule.corresponds_refl _ _

/-- A glob that means a text if case counts means it if case is ignored. -/
theorem GlobMatches.ignoreAll {glob : Text} (matched : GlobMatches .exact glob text) :
    GlobMatches .ignoreAll glob text := by
  induction matched with
  | nil => exact .nil
  | star free _ ih => exact .star free ih
  | question other _ ih => exact .question other ih
  | char noStar noQuestion stands _ ih =>
      exact .char noStar noQuestion (CaseRule.Corresponds.ignoreAll stands) ih

/-- What a method finds if case counts it finds if case is ignored. -/
theorem Finds.ignoreAll (finds : Finds .exact piece text method) :
    Finds .ignoreAll piece text method := by
  cases finds with
  | literal occurs =>
      obtain ⟨before, found, after, split, all⟩ := occurs
      exact .literal ⟨before, found, after, split,
        all.imp fun _ _ => CaseRule.Corresponds.ignoreAll⟩
  | glob split matched => exact .glob split matched.ignoreAll
  | fuzzy spelled =>
      obtain ⟨places, all, bridged⟩ := spelled_iff_exists_places.mp spelled
      refine .fuzzy (spelled_iff_exists_places.mpr ⟨places, all.imp ?_, bridged⟩)
      rintro char place ⟨found, here, stands⟩
      exact ⟨found, here, CaseRule.Corresponds.ignoreAll stands⟩

/-- A wildcard has no letter case, so it stands for itself only. -/
theorem CaseRule.Corresponds.eq_of_wildcard {char found : Char} (wildcard : char = '*' ∨ char = '?')
    (caseSensitive : Bool) (same : (ruleFor caseSensitive).Corresponds char found) :
    found = char := by
  cases caseSensitive with
  | true => exact CaseRule.corresponds_exact.mp same
  | false =>
      have plain : Unicode.isCased char.toNat = false := by
        rcases wildcard with rfl | rfl <;> decide +kernel
      exact (CaseRule.corresponds_of_not_isCased plain).mp same

/-- A glob means the texts of characters that correspond to its own one by one: its wildcards stand
for themselves as well. -/
theorem globMatches_of_forall₂ {caseSensitive : Bool} {glob : Text}
    (all : List.Forall₂ (ruleFor caseSensitive).Corresponds glob text) :
    GlobMatches (ruleFor caseSensitive) glob text := by
  induction all with
  | nil => exact .nil
  | @cons char found glob text stands _ ih =>
      by_cases star : char = '*'
      · rw [CaseRule.Corresponds.eq_of_wildcard (.inl star) _ stands, star]
        have free : '\n' ∉ ['*'] := by decide
        exact .star free ih
      by_cases question : char = '?'
      · rw [CaseRule.Corresponds.eq_of_wildcard (.inr question) _ stands, question]
        exact .question (by decide) ih
      · exact .char star question stands ih

/-- What the literal method finds the glob method finds too, and so does the fuzzy one. -/
theorem Finds.of_literal {caseSensitive : Bool} (plain : method ≠ .regex)
    (finds : Finds (ruleFor caseSensitive) piece text .literal) :
    Finds (ruleFor caseSensitive) piece text method := by
  obtain ⟨before, found, after, rfl, all⟩ := finds
  cases method with
  | literal => exact .literal ⟨before, found, after, rfl, all⟩
  | glob => exact .glob rfl (globMatches_of_forall₂ all)
  | regex => exact absurd rfl plain
  | fuzzy => exact .fuzzy ((spelled_of_forall₂ all).extend before after)

end

/-! ## Parts of a query -/

section

variable {query part piece : Text}

/-- Characters without separators that stand side by side in a text stand in one of its words. -/
theorem exists_isWord_of_isInfix (some : piece ≠ []) (free : tokenSeparator ∉ piece)
    (inside : piece <:+: query) : ∃ word, IsWord query word ∧ piece <:+: word := by
  obtain ⟨before, after, rfl⟩ := inside
  let letter : Char → Bool := (· ≠ tokenSeparator)
  -- The word reaches to the separators next to the piece, or to the ends of the text.
  let left := before.rtakeWhile letter
  let right := after.takeWhile letter
  refine ⟨left ++ piece ++ right, ⟨by simp [some], ?_, before.rdropWhile letter,
    after.dropWhile letter, ?_, ?_, ?_⟩, ⟨left, right, rfl⟩⟩
  · have leftFree : tokenSeparator ∉ left := fun member => by
      simpa [letter] using List.mem_rtakeWhile_imp member
    have rightFree : tokenSeparator ∉ right := fun member => by
      simpa [letter] using List.mem_takeWhile_imp member
    simp [leftFree, free, rightFree]
  · have front : before.rdropWhile letter ++ left = before := List.rdropWhile_append_rtakeWhile
    have back : right ++ after.dropWhile letter = after := List.takeWhile_append_dropWhile
    calc before ++ piece ++ after
        = (before.rdropWhile letter ++ left) ++ piece ++ (right ++ after.dropWhile letter) := by
          rw [front, back]
      _ = before.rdropWhile letter ++ (left ++ piece ++ right) ++ after.dropWhile letter := by
          simp only [List.append_assoc]
  · intro char ending
    obtain ⟨some, rfl⟩ := List.mem_getLast?_eq_getLast ending
    simpa [letter] using List.rdropWhile_last_not letter before some
  · intro char beginning
    have stops := List.head?_dropWhile_not letter after
    rw [Option.mem_def.mp beginning] at stops
    simpa [letter] using stops

/-- Every piece of a part of a query lies in a piece of the query. -/
theorem exists_isPiece_of_isInfix {tokenize : Bool} (inside : part <:+: query)
    (isPiece : IsPiece tokenize part piece) :
    ∃ whole, IsPiece tokenize query whole ∧ piece <:+: whole := by
  rw [IsPiece] at isPiece
  split at isPiece
  · next cut =>
      obtain ⟨some, free, before, after, split, -, -⟩ := isPiece
      have within : piece <:+: part := ⟨before, after, split.symm⟩
      obtain ⟨word, isWord, holds⟩ := exists_isWord_of_isInfix some free (within.trans inside)
      exact ⟨word, by rwa [IsPiece, if_pos cut], holds⟩
  · next uncut =>
      obtain ⟨some, rfl⟩ := isPiece
      refine ⟨query, ?_, inside⟩
      rw [IsPiece, if_neg uncut]
      exact ⟨fun none => some (List.infix_nil.mp (none ▸ inside)), rfl⟩

theorem exists_whole_of_isWord (isWord : IsPiece true query piece) :
    ∃ whole, IsPiece false query whole ∧ piece <:+: whole := by
  obtain ⟨some, -, before, after, split, -, -⟩ := isWord
  have inside : piece <:+: query := ⟨before, after, split.symm⟩
  exact ⟨query, ⟨fun none => some (List.infix_nil.mp (none ▸ inside)), rfl⟩, inside⟩

end

/-! ## Comparing queries -/

/-- A query under some options accepts nothing that another one, maybe under other options, does not
accept; both of them compile. -/
def AcceptsOnly (query : Text) (options : MatchOptions) (wider : Text) (looser : MatchOptions) :
    Prop :=
  ∃ tokens widerTokens, TokenSet.compile query options = .ok tokens ∧
    TokenSet.compile wider looser = .ok widerTokens ∧
    ∀ text, tokens.accepts text = true → widerTokens.accepts text = true

section

variable {query wider : Text} {options looser : MatchOptions}

/-- A query compiles by every method other than the regular expressions, and it accepts the texts
in which the method finds each of its pieces. -/
theorem compile_plainQuery (query : Text) {room : Nat} (plain : options.method ≠ .regex) :
    ∃ tokens, TokenSet.compile query options room = .ok tokens ∧
      ∀ text, tokens.accepts text = true ↔
        ∀ piece, IsPiece options.tokenize query piece →
          Finds (ruleFor options.caseSensitive) piece text options.method := by
  obtain ⟨tokens, compiled, accepts⟩ :=
    compile_query query fun piece some => compile_finds plain some options.caseSensitive
  refine ⟨tokens, compiled, fun text => (accepts text).trans ?_⟩
  exact forall_congr' fun piece => imp_congr_left mem_pieceTexts_iff

/-- A query accepts only what another one accepts if whatever is found for all its pieces is
found for the pieces of the other one. -/
theorem acceptsOnly_of_pieces (plain : options.method ≠ .regex)
    (looserPlain : looser.method ≠ .regex)
    (covers : ∀ piece text, IsPiece looser.tokenize wider piece →
      ∃ whole, IsPiece options.tokenize query whole ∧
        (Finds (ruleFor options.caseSensitive) whole text options.method →
          Finds (ruleFor looser.caseSensitive) piece text looser.method)) :
    AcceptsOnly query options wider looser := by
  obtain ⟨tokens, compiled, accepts⟩ := compile_plainQuery query plain
  obtain ⟨widerTokens, widerCompiled, widerAccepts⟩ := compile_plainQuery wider looserPlain
  refine ⟨tokens, widerTokens, compiled, widerCompiled, fun text accepted => ?_⟩
  refine (widerAccepts text).mpr fun piece isPiece => ?_
  obtain ⟨whole, isWhole, found⟩ := covers piece text isPiece
  exact found ((accepts text).mp accepted whole isWhole)

/-- Typing more never widens the result: a query accepts only what each part of it accepts. -/
theorem accepts_of_isInfix {part : Text} (plain : options.method ≠ .regex)
    (inside : part <:+: query) : AcceptsOnly query options part options := by
  refine acceptsOnly_of_pieces plain plain fun piece text isPiece => ?_
  obtain ⟨whole, isWhole, holds⟩ := exists_isPiece_of_isInfix inside isPiece
  exact ⟨whole, isWhole, Finds.of_isInfix holds⟩

/-- A part that is cut out of two words. -/
theorem accepts_of_isInfix_glob :
    (⟨.glob, false, true⟩ : MatchOptions).method ≠ .regex ∧ "? b".toList <:+: "a? bc".toList ∧
      AcceptsOnly "a? bc".toList ⟨.glob, false, true⟩ "? b".toList ⟨.glob, false, true⟩ :=
  ⟨by decide, by decide, accepts_of_isInfix (by decide) (by decide)⟩

/-- Looser options never lose a match: ignoring case, cutting the query into words, and the glob
and fuzzy methods in place of the literal one. -/
theorem accepts_of_looser (query : Text) :
    (∀ method tokenize, method ≠ .regex →
      AcceptsOnly query ⟨method, true, tokenize⟩ query ⟨method, false, tokenize⟩) ∧
    (∀ method caseSensitive, method ≠ .regex →
      AcceptsOnly query ⟨method, caseSensitive, false⟩ query ⟨method, caseSensitive, true⟩) ∧
    ∀ caseSensitive tokenize,
      AcceptsOnly query ⟨.literal, caseSensitive, tokenize⟩
          query ⟨.glob, caseSensitive, tokenize⟩ ∧
        AcceptsOnly query ⟨.literal, caseSensitive, tokenize⟩
          query ⟨.fuzzy, caseSensitive, tokenize⟩ := by
  have literalPlain : Method.literal ≠ .regex := by decide
  have globPlain : Method.glob ≠ .regex := by decide
  have fuzzyPlain : Method.fuzzy ≠ .regex := by decide
  refine ⟨fun method tokenize plain => ?_, fun method caseSensitive plain => ?_,
    fun caseSensitive tokenize => ⟨?_, ?_⟩⟩
  · exact acceptsOnly_of_pieces plain plain fun piece text isPiece =>
      ⟨piece, isPiece, Finds.ignoreAll⟩
  · refine acceptsOnly_of_pieces plain plain fun piece text isWord => ?_
    obtain ⟨whole, isWhole, holds⟩ := exists_whole_of_isWord isWord
    exact ⟨whole, isWhole, Finds.of_isInfix holds⟩
  · exact acceptsOnly_of_pieces literalPlain globPlain fun piece text isPiece =>
      ⟨piece, isPiece, Finds.of_literal globPlain⟩
  · exact acceptsOnly_of_pieces literalPlain fuzzyPlain fun piece text isPiece =>
      ⟨piece, isPiece, Finds.of_literal fuzzyPlain⟩

/-- A fuzzy query of two words loses nothing if it is cut or if its capital letter is ignored. -/
theorem accepts_of_looser_fuzzy :
    Method.fuzzy ≠ .regex ∧
      AcceptsOnly "Ab c".toList ⟨.fuzzy, true, true⟩ "Ab c".toList ⟨.fuzzy, false, true⟩ ∧
      AcceptsOnly "Ab c".toList ⟨.fuzzy, true, false⟩ "Ab c".toList ⟨.fuzzy, true, true⟩ :=
  ⟨by decide, (accepts_of_looser _).1 .fuzzy true (by decide),
    (accepts_of_looser _).2.1 .fuzzy true (by decide)⟩

end

end Winnow
