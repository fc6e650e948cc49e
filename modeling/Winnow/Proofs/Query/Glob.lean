import Winnow.Proofs.Query.Flat

/-!
# What globs match

A glob means what its characters say one after the other (`GlobMatches`): a star
is any run of characters, a question mark any one character, neither of them a
line feed, and every other character stands for itself. Taking the wildcards out
of the escaped glob is a translation character by character
(`globSource_eq_flatSource`), so the source of a glob is flat, and its path leads
past exactly the texts that the glob means (`flatPath_glob_iff`).
-/

namespace Winnow

open Regex

/-! ## The source -/

/-- The item that a character of a glob stands for. -/
def FlatItem.ofGlob (char : Char) : FlatItem :=
  if char = '*' then .run else if char = '?' then .one else .literal char

/-- An escaped character is translated by itself, whatever follows it. -/
theorem unescapeWildcards_escapeChar (char : Char) (rest : Text) :
    unescapeWildcards (escapeChar char ++ rest)
      = (FlatItem.ofGlob char).source ++ unescapeWildcards rest := by
  by_cases star : char = '*'
  · rw [star]
    rfl
  by_cases question : char = '?'
  · rw [question]
    rfl
  rw [FlatItem.ofGlob, if_neg star, if_neg question, FlatItem.source, escapeChar]
  split
  · rw [List.cons_append, List.cons_append, List.nil_append, unescapeWildcards]
    · rfl
    · exact star
    · exact question
  · next ordinary =>
      have noSlash : char ≠ '\\' := by
        rintro rfl
        exact ordinary (by decide)
      rw [List.cons_append, List.nil_append, unescapeWildcards]
      · rfl
      · intro others slash
        exact absurd slash noSlash
      · intro others slash
        exact absurd slash noSlash
      · intro next others slash
        exact absurd slash noSlash

/-- Behind an escaped text the scan goes on as if it began there, whatever the text ends in: it
never stops between a backslash and the character that belongs to it. -/
theorem unescapeWildcards_escape (glob rest : Text) :
    unescapeWildcards (escape glob ++ rest)
      = flatSource (glob.map FlatItem.ofGlob) ++ unescapeWildcards rest := by
  induction glob with
  | nil => rfl
  | cons char glob ih =>
      have source : flatSource ((char :: glob).map FlatItem.ofGlob)
          = (FlatItem.ofGlob char).source ++ flatSource (glob.map FlatItem.ofGlob) := rfl
      rw [escape, List.flatMap_cons, List.append_assoc, unescapeWildcards_escapeChar, ← escape, ih,
        source, List.append_assoc]

/-- The source of a glob is flat: it is translated character by character. -/
theorem globSource_eq_flatSource (glob : Text) :
    globSource glob = flatSource (glob.map FlatItem.ofGlob) := by
  have alone := unescapeWildcards_escape glob []
  rwa [List.append_nil, unescapeWildcards, List.append_nil] at alone

theorem globSource_append (glob further : Text) :
    globSource (glob ++ further) = globSource glob ++ globSource further := by
  rw [globSource, escape_append, unescapeWildcards_escape, ← globSource_eq_flatSource]
  rfl

/-- What an item stands for in a source, by the character of the glob. -/
theorem FlatItem.source_ofGlob (char : Char) :
    (FlatItem.ofGlob char).source
      = if char = '*' then ['.', '*'] else if char = '?' then ['.'] else escape [char] := by
  have alone : escape [char] = escapeChar char := List.append_nil _
  rw [FlatItem.ofGlob, alone]
  split
  · rfl
  · split <;> rfl

/-- The scan of the escaped glob translates the glob character by character: a star into a dotted
star, a question mark into a dot, and any other character into itself, escaped. So the source of two
globs, one behind the other, is that of both, and a backslash becomes two whatever follows it. -/
theorem globSource_characterwise (glob further : Text) :
    globSource glob
        = glob.flatMap (fun char =>
            if char = '*' then ['.', '*'] else if char = '?' then ['.'] else escape [char]) ∧
      globSource (glob ++ further) = globSource glob ++ globSource further ∧
      globSource (glob ++ '\\' :: further)
        = globSource glob ++ '\\' :: '\\' :: globSource further := by
  refine ⟨?_, globSource_append glob further, ?_⟩
  · rw [globSource_eq_flatSource, flatSource, List.flatMap_map]
    exact List.flatMap_congr fun char _ => FlatItem.source_ofGlob char
  · have slash : globSource ['\\'] = ['\\', '\\'] := by decide
    rw [List.append_cons, globSource_append, globSource_append, slash, List.append_assoc]
    rfl

-- The dot stands for itself, so it keeps its backslash; the wildcards lose theirs.
example : globSource "*.c?".toList = ".*\\.c.".toList := by decide

/-! ## The meaning -/

/-- What a glob means, read from its first character to its last one. -/
inductive GlobMatches (rule : CaseRule) : (glob text : Text) → Prop
  | nil : GlobMatches rule [] []
  | star {run glob text : Text} :
      '\n' ∉ run → GlobMatches rule glob text → GlobMatches rule ('*' :: glob) (run ++ text)
  | question {found : Char} {glob text : Text} :
      found ≠ '\n' → GlobMatches rule glob text → GlobMatches rule ('?' :: glob) (found :: text)
  | char {char found : Char} {glob text : Text} :
      char ≠ '*' → char ≠ '?' → rule.Corresponds char found → GlobMatches rule glob text →
      GlobMatches rule (char :: glob) (found :: text)

/-- The path of a glob leads past exactly the texts that the glob means. -/
theorem flatPath_glob_iff {rule : CaseRule} {glob before after : Text} :
    flatPath rule (glob.map FlatItem.ofGlob) before after ↔
      ∃ middle, before = middle ++ after ∧ GlobMatches rule glob middle := by
  induction glob generalizing before with
  | nil =>
      constructor
      · rintro rfl
        exact ⟨[], rfl, .nil⟩
      · rintro ⟨middle, rfl, matched⟩
        cases matched
        rfl
  | cons char glob ih =>
      constructor
      · rintro ⟨between, passed, rest⟩
        obtain ⟨middle, rfl, matched⟩ := ih.mp rest
        rw [FlatItem.ofGlob] at passed
        split at passed
        · next star =>
            obtain ⟨run, rfl, free⟩ := notLineFeed_runPath_iff.mp passed
            exact ⟨run ++ middle, (List.append_assoc ..).symm, star ▸ .star free matched⟩
        split at passed
        · next question =>
            obtain ⟨found, rfl, other⟩ := notLineFeed_path_iff.mp passed
            exact ⟨found :: middle, rfl, question ▸ .question other matched⟩
        · next noStar noQuestion =>
            obtain ⟨found, rfl, stands⟩ := literal_path_iff.mp passed
            exact ⟨found :: middle, rfl, .char noStar noQuestion stands matched⟩
      · rintro ⟨middle, rfl, matched⟩
        cases matched with
        | @star run _ text free matched =>
            refine ⟨text ++ after, notLineFeed_runPath_iff.mpr ⟨run, ?_, free⟩,
              ih.mpr ⟨text, rfl, matched⟩⟩
            exact List.append_assoc ..
        | @question found _ text other matched =>
            exact ⟨text ++ after, notLineFeed_path_iff.mpr ⟨found, rfl, other⟩,
              ih.mpr ⟨text, rfl, matched⟩⟩
        | @char _ found _ text noStar noQuestion stands matched =>
            refine ⟨text ++ after, ?_, ih.mpr ⟨text, rfl, matched⟩⟩
            rw [FlatItem.ofGlob, if_neg noStar, if_neg noQuestion]
            exact literal_path_iff.mpr ⟨found, rfl, stands⟩

/-- Every glob compiles, and its pattern matches a text exactly if the glob means some part of
it. -/
theorem glob_occursIn_iff (glob : Text) (caseSensitive : Bool) :
    ∃ pattern, Pattern.compile glob .glob caseSensitive = .ok pattern ∧
      ∀ text, pattern.occursIn text = true ↔
        ∃ before middle after, text = before ++ middle ++ after ∧
          GlobMatches (ruleFor caseSensitive) glob middle := by
  obtain ⟨pattern, compiled, -, occurs⟩ :=
    compile_flat (glob.map FlatItem.ofGlob) caseSensitive fun _ _ => flatPath_glob_iff
  refine ⟨pattern, ?_, occurs⟩
  rw [Pattern.compile, globSource_eq_flatSource, compiled]

end Winnow
