import Winnow.Proofs.Query.Narrowing
import Winnow.Proofs.Regex.Excuses
import Winnow.Text.Utf8

/-!
# Which queries compile

A query fails to compile exactly if one of its pieces does
(`exists_of_compile_error`, `exists_token_of_isPiece`). Three of the methods
compile every piece. A regular expression that is malformed is matched
literally, and every text compiles literally (`compile_of_malformed`); what is
left are the failures that are no defects. They do end the compiling of a query
(`compile_fails_on_overreach`, `compile_fails_of_openings`), but only of one
that overreaches: with a number that is too large or too long, with flags that
contradict each other, or with more groups one inside the other than there is
room for (`compiles_unless_overreaching`).
-/

namespace Winnow

open Regex

/-! ## Regular expressions -/

section

variable {piece : Text} {caseSensitive : Bool} {failure : Failure} {pattern : Pattern} {room : Nat}

/-- A regular expression that fails to compile has an excuse. -/
theorem excused_of_pattern (fails : Pattern.ofSource piece caseSensitive room = .error failure) :
    Excused room piece failure := by
  rw [Pattern.ofSource] at fails
  cases program : Program.ofSource piece { ignoreCase := !caseSensitive } room with
  | error reason =>
      rw [program] at fails
      cases fails
      refine excused_of_ofSource ?_ program
      rintro _ (on | on) <;> cases on
  | ok program' =>
      rw [program] at fails
      cases fails

/-- What a piece is compiled into as a regular expression: its own pattern, or, if it is malformed,
the pattern of the escaped text with a note why. -/
inductive CompilesInto (room : Nat) (piece : Text) (caseSensitive : Bool) (pattern : Pattern) : Prop
  | asWritten (compiled : Pattern.ofSource piece caseSensitive room = .ok pattern)
  | literally (defect : Defect) (position : Option Nat)
      (malformed : Pattern.ofSource piece caseSensitive room = .error (.malformed defect position))
      (literal : Pattern.ofSource (escape piece) caseSensitive room
        = .ok { pattern with rejected := none })
      (note : pattern.rejected = some (.malformed defect position))
      (occurs : ∀ text, pattern.occursIn text = true ↔
        Occurs (ruleFor caseSensitive) piece text)

/-- A malformed regular expression is compiled literally. -/
theorem compile_of_malformed {defect : Defect} {position : Option Nat}
    (malformed : Pattern.ofSource piece caseSensitive room = .error (.malformed defect position)) :
    ∃ pattern, Pattern.compile piece .regex caseSensitive room = .ok pattern ∧
      CompilesInto room piece caseSensitive pattern := by
  obtain ⟨literal, compiled, occurs⟩ := compile_literal piece caseSensitive
  have source : Pattern.ofSource (escape piece) caseSensitive room = .ok literal := compiled
  have noNote : literal.rejected = none := by
    obtain ⟨program, -, rfl⟩ := map_eq_ok_iff.mp source
    rfl
  refine ⟨{ literal with rejected := some (.malformed defect position) }, ?_, ?_⟩
  · rw [Pattern.compile, malformed]
    dsimp only
    rw [source]
    rfl
  · refine .literally defect position malformed ?_ rfl occurs
    rw [source, ← noNote]

/-- A regular expression is compiled as written or literally, or it fails as it is. -/
theorem compile_regex (room : Nat) (piece : Text) (caseSensitive : Bool) :
    (∃ pattern, Pattern.compile piece .regex caseSensitive room = .ok pattern ∧
      CompilesInto room piece caseSensitive pattern) ∨
    ∃ failure, Pattern.compile piece .regex caseSensitive room = .error failure ∧
      Pattern.ofSource piece caseSensitive room = .error failure ∧
      Overreaches room piece failure := by
  cases source : Pattern.ofSource piece caseSensitive room with
  | ok pattern =>
      left
      refine ⟨pattern, ?_, .asWritten source⟩
      rw [Pattern.compile, source]
  | error failure =>
      rcases excused_of_pattern source with ⟨defect, position⟩ | overreaches
      · exact .inl (compile_of_malformed source)
      · right
        refine ⟨failure, ?_, rfl, overreaches⟩
        rw [Pattern.compile, source]
        cases overreaches <;> rfl

end

/-! ## Queries -/

section

variable {options : MatchOptions} {room : Nat}

/-- The failure that ends the compiling of pieces is the failure of one of them. -/
theorem exists_of_compilePieces {pieces : List (Nat × Text)} {failure : Failure}
    (fails : compilePieces options pieces room = .error failure) :
    ∃ piece ∈ pieces,
      Pattern.compile piece.2 options.method options.caseSensitive room = .error failure := by
  induction pieces with
  | nil => cases fails
  | cons piece rest ih =>
      obtain ⟨start, value⟩ := piece
      rw [compilePieces] at fails
      cases first : Pattern.compile value options.method options.caseSensitive room with
      | error reason =>
          rw [Token.compile, first] at fails
          cases fails
          exact ⟨_, List.mem_cons_self, first⟩
      | ok pattern =>
          rw [Token.compile, first] at fails
          dsimp only [Except.map] at fails
          cases others : compilePieces options rest room with
          | error reason =>
              rw [others] at fails
              cases fails
              obtain ⟨later, member, failed⟩ := ih others
              exact ⟨later, List.mem_cons_of_mem _ member, failed⟩
          | ok tokens =>
              rw [others] at fails
              cases fails

/-- The failure that ends the compiling of a query is the failure of one of its pieces. -/
theorem exists_of_compile_error {query : Text} {failure : Failure}
    (fails : TokenSet.compile query options room = .error failure) :
    ∃ piece, IsPiece options.tokenize query piece ∧
      Pattern.compile piece options.method options.caseSensitive room = .error failure := by
  cases pieces : compilePieces options (queryPieces options query) room with
  | ok tokens =>
      rw [TokenSet.compile, pieces] at fails
      cases fails
  | error reason =>
      rw [TokenSet.compile, pieces] at fails
      cases fails
      obtain ⟨piece, member, failed⟩ := exists_of_compilePieces pieces
      exact ⟨piece.2, mem_pieceTexts_iff.mp (List.mem_map_of_mem member), failed⟩

theorem map_value_tokens {query : Text} {tokens : TokenSet}
    (compiled : TokenSet.compile query options room = .ok tokens) :
    tokens.tokens.map Token.value = pieceTexts options query := by
  rw [pieceTexts, ← map_piece_tokens compiled, List.map_map]
  rfl

/-- Every piece of a query that compiles has a token. -/
theorem exists_token_of_isPiece {query piece : Text} {tokens : TokenSet}
    (compiled : TokenSet.compile query options room = .ok tokens)
    (isPiece : IsPiece options.tokenize query piece) :
    ∃ token ∈ tokens.tokens, token.value = piece := by
  have member := mem_pieceTexts_iff.mpr isPiece
  rw [← map_value_tokens compiled] at member
  exact List.mem_map.mp member

end

section

variable {query : Text} {options : MatchOptions} {room : Nat}

/-- The tokens of a query that is matched as regular expressions are its pieces, each compiled as
written or literally. -/
theorem compilesInto_of_mem_tokens {tokens : TokenSet} {token : Token}
    (regex : options.method = .regex) (compiled : TokenSet.compile query options room = .ok tokens)
    (member : token ∈ tokens.tokens) :
    CompilesInto room token.value options.caseSensitive token.pattern := by
  obtain ⟨-, pattern⟩ := compile_of_mem_tokens compiled member
  rw [regex] at pattern
  rcases compile_regex room token.value options.caseSensitive with
    ⟨other, here, into⟩ | ⟨failure, here, -⟩
  · rw [here] at pattern
    cases pattern
    exact into
  · rw [here] at pattern
    cases pattern

/-- A query that fails to compile is matched as regular expressions, and one of its pieces fails by
itself, because of what it writes. -/
theorem overreaches_of_compile_error {failure : Failure}
    (fails : TokenSet.compile query options room = .error failure) :
    options.method = .regex ∧ ∃ piece, IsPiece options.tokenize query piece ∧
      Pattern.ofSource piece options.caseSensitive room = .error failure ∧
      Overreaches room piece failure := by
  by_cases regex : options.method = .regex
  · obtain ⟨piece, isPiece, failed⟩ := exists_of_compile_error fails
    rw [regex] at failed
    refine ⟨regex, piece, isPiece, ?_⟩
    rcases compile_regex room piece options.caseSensitive with ⟨_, here, -⟩ | ⟨_, here, reason⟩
    · rw [here] at failed
      cases failed
    · rw [here] at failed
      cases failed
      exact reason
  · obtain ⟨tokens, compiled, -⟩ := compile_plainQuery query regex
    rw [compiled] at fails
    cases fails

/-- A query compiles exactly if it is not matched as regular expressions or each of its pieces
compiles, as written or literally. -/
theorem compiles_iff :
    (∃ tokens, TokenSet.compile query options room = .ok tokens) ↔
      (options.method = .regex → ∀ piece, IsPiece options.tokenize query piece →
        ∃ pattern, CompilesInto room piece options.caseSensitive pattern) := by
  constructor
  · rintro ⟨tokens, compiled⟩ regex piece isPiece
    obtain ⟨token, member, rfl⟩ := exists_token_of_isPiece compiled isPiece
    exact ⟨token.pattern, compilesInto_of_mem_tokens regex compiled member⟩
  · intro each
    cases compiled : TokenSet.compile query options room with
    | ok tokens => exact ⟨tokens, rfl⟩
    | error failure =>
        obtain ⟨regex, piece, isPiece, fails, overreaches⟩ := overreaches_of_compile_error compiled
        obtain ⟨pattern, into⟩ := each regex piece isPiece
        cases into with
        | asWritten here =>
            rw [here] at fails
            cases fails
        | literally defect position here =>
            rw [here] at fails
            cases fails
            cases overreaches

/-- More groups one inside the other than there is room for end the compiling of a query. -/
theorem compile_fails_of_openings {opened : Nat} {rest : Text} (regex : options.method = .regex)
    (isPiece : IsPiece options.tokenize query (List.replicate opened '(' ++ rest))
    (many : room + 2 < opened) :
    ∃ failure, TokenSet.compile query options room = .error failure := by
  have fails : Pattern.ofSource (List.replicate opened '(' ++ rest) options.caseSensitive room
      = .error .nestedTooDeeply := by
    let given : Flags := { ignoreCase := !options.caseSensitive }
    have read := parse_replicate_opening many rest (show given.verbose = false from rfl)
    rw [Pattern.ofSource, Program.ofSource, read]
    rfl
  cases compiled : TokenSet.compile query options room with
  | error failure => exact ⟨failure, rfl⟩
  | ok tokens =>
      obtain ⟨pattern, into⟩ := compiles_iff.mp ⟨tokens, compiled⟩ regex _ isPiece
      cases into with
      | asWritten here =>
          rw [here] at fails
          cases fails
      | literally defect position here =>
          rw [here] at fails
          cases fails

end

end Winnow
