import Winnow.Proofs.Query.Flat
import Winnow.Proofs.Query.Pieces
import Mathlib.Data.List.Forall2

/-!
# What literal queries accept

An escaped text is flat and holds nothing but literals (`escape_eq_flatSource`),
so its pattern matches where characters that correspond to it stand side by side
(`compile_literal`); none of them is read as anything but itself. A literal query
accepts the texts in which each of its pieces occurs (`literal_accepts_iff`).
-/

namespace Winnow

open Regex

/-- A text occurs in another one: characters that correspond to it stand there side by side. -/
def Occurs (rule : CaseRule) (piece text : Text) : Prop :=
  ∃ before found after, text = before ++ found ++ after ∧
    List.Forall₂ rule.Corresponds piece found

/-- An escaped text is flat and holds nothing but literals. -/
theorem escape_eq_flatSource (text : Text) : escape text = flatSource (text.map .literal) := by
  rw [escape, flatSource, List.flatMap_map]
  rfl

/-- The pattern that a text is compiled into literally. -/
def literalPattern (piece : Text) (caseSensitive : Bool) : Pattern :=
  flatPattern (piece.map .literal) caseSensitive

theorem compile_literalPattern (piece : Text) (caseSensitive : Bool) {room : Nat} :
    Pattern.compile piece .literal caseSensitive room
      = .ok (literalPattern piece caseSensitive) := by
  rw [Pattern.compile, escape_eq_flatSource, ofSource_flat, literalPattern]

/-- A regular expression without characters that have a meaning of their own is compiled into the
literal pattern, except that it keeps its source. -/
theorem ofSource_plainText {text : Text} (ordinary : ∀ char ∈ text, char ∉ metacharacters)
    (caseSensitive : Bool) {room : Nat} :
    Pattern.ofSource text caseSensitive room
      = .ok { literalPattern text caseSensitive with source := text } := by
  let given : Flags := { ignoreCase := !caseSensitive }
  obtain ⟨widths, count, read⟩ :=
    parse_plainText ordinary (show given.verbose = false from rfl) rfl
  refine ofSource_of_parse count ?_
  rw [List.map_map]
  exact read

/-- The path of literals leads past exactly the texts that correspond to them. -/
theorem flatPath_literals_iff {rule : CaseRule} {chars before after : Text} :
    flatPath rule (chars.map .literal) before after ↔
      ∃ middle, before = middle ++ after ∧ List.Forall₂ rule.Corresponds chars middle := by
  induction chars generalizing before with
  | nil =>
      constructor
      · rintro rfl
        exact ⟨[], rfl, .nil⟩
      · rintro ⟨middle, rfl, all⟩
        cases all
        rfl
  | cons char chars ih =>
      constructor
      · rintro ⟨between, passed, rest⟩
        obtain ⟨found, rfl, stands⟩ := literal_path_iff.mp passed
        obtain ⟨middle, rfl, all⟩ := ih.mp rest
        exact ⟨found :: middle, rfl, .cons stands all⟩
      · rintro ⟨middle, rfl, all⟩
        cases all with
        | @cons _ found _ middle stands others =>
            exact ⟨middle ++ after, literal_path_iff.mpr ⟨found, rfl, stands⟩,
              ih.mpr ⟨middle, rfl, others⟩⟩

/-- Every text compiles literally, and its pattern matches the texts in which it occurs. -/
theorem compile_literal (piece : Text) (caseSensitive : Bool) {room : Nat} :
    ∃ pattern, Pattern.compile piece .literal caseSensitive room = .ok pattern ∧
      ∀ text, pattern.occursIn text = true ↔ Occurs (ruleFor caseSensitive) piece text := by
  obtain ⟨pattern, compiled, -, occurs⟩ :=
    compile_flat (piece.map .literal) caseSensitive fun _ _ => flatPath_literals_iff
  refine ⟨pattern, ?_, occurs⟩
  rw [Pattern.compile, escape_eq_flatSource, compiled]

/-- Every literal query compiles, and it accepts a text exactly if each of its pieces occurs
there: its words if it is cut, and else the query itself. -/
theorem literal_accepts_iff (query : Text) (caseSensitive tokenize : Bool) :
    ∃ tokens, TokenSet.compile query ⟨.literal, caseSensitive, tokenize⟩ = .ok tokens ∧
      ∀ text, tokens.accepts text = true ↔
        ∀ piece, IsPiece tokenize query piece → Occurs (ruleFor caseSensitive) piece text := by
  let options : MatchOptions := ⟨.literal, caseSensitive, tokenize⟩
  have compiles : ∀ piece, piece ≠ [] → ∃ pattern,
      Pattern.compile piece options.method options.caseSensitive = .ok pattern ∧
        ∀ text, pattern.occursIn text = true ↔ Occurs (ruleFor caseSensitive) piece text :=
    fun piece _ => compile_literal piece caseSensitive
  obtain ⟨tokens, compiled, accepts⟩ := compile_query query compiles
  refine ⟨tokens, compiled, fun text => ?_⟩
  rw [accepts]
  exact forall_congr' fun piece => imp_congr_left mem_pieceTexts_iff

end Winnow
