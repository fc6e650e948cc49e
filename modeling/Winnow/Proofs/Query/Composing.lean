import Winnow.Proofs.Query.Compiling
import Winnow.Style.Span

/-!
# Queries one behind the other

A query that is cut treats what stands behind a separator as a query of its own:
its pieces only stand further behind (`piecesFrom_append`, `piecesFrom_shift`).
Tokens know nothing of each other but their places, so the tokens of two joined
queries are those of both (`compilePieces_append`), and so are the spans, whose
tokens are numbered on (`spansFrom_append`, `spansFrom_shift`). What a query
accepts depends on nothing but the set of its pieces
(`accepts_iff_of_isPiece`). All of this together is `compile_append`.
-/

namespace Winnow

open Regex

/-! ## Pieces -/

/-- What stands in front of a query moves its pieces. -/
theorem piecesFrom_shift (count : Nat) {offset : Nat} {piece : Text} (query : Text)
    (inside : piece.length ≤ offset) :
    piecesFrom (offset + count) piece query
      = (piecesFrom offset piece query).map (Prod.map (· + count) id) := by
  have moved : offset + count - piece.length = offset - piece.length + count := by omega
  induction query generalizing offset piece with
  | nil =>
      rw [piecesFrom, piecesFrom, moved]
      split <;> rfl
  | cons char rest ih =>
      have next : offset + count + 1 = offset + 1 + count := by omega
      have later : piecesFrom (offset + 1 + count) [] rest
          = (piecesFrom (offset + 1) [] rest).map (Prod.map (· + count) id) :=
        ih (Nat.zero_le _) (by simp only [List.length_nil]; omega)
      rw [piecesFrom, piecesFrom, moved, next]
      split
      · split
        · exact later
        · rw [later]
          rfl
      · exact ih (by rw [List.length_cons]; omega) (by rw [List.length_cons]; omega)

/-- A separator ends the piece before it, and behind it the cutting begins anew. -/
theorem piecesFrom_append (offset : Nat) (piece left right : Text) :
    piecesFrom offset piece (left ++ tokenSeparator :: right)
      = piecesFrom offset piece left ++ piecesFrom (offset + left.length + 1) [] right := by
  induction left generalizing offset piece with
  | nil =>
      rw [List.nil_append, piecesFrom, piecesFrom, if_pos rfl, List.length_nil, Nat.add_zero]
      split <;> rfl
  | cons char left ih =>
      have next : offset + (left.length + 1) + 1 = offset + 1 + left.length + 1 := by omega
      rw [List.cons_append, List.length_cons, next, piecesFrom, piecesFrom]
      split
      · split
        · exact ih (offset + 1) []
        · rw [ih, List.cons_append]
      · exact ih (offset + 1) (char :: piece)

/-- The pieces of two queries with a separator between them are the pieces of both. -/
theorem queryPieces_append {options : MatchOptions} (cut : options.tokenize = true)
    (left right : Text) :
    queryPieces options (left ++ tokenSeparator :: right)
      = queryPieces options left
        ++ (queryPieces options right).map (Prod.map (· + (left.length + 1)) id) := by
  have moved : piecesFrom (0 + (left.length + 1)) [] right
      = (piecesFrom 0 [] right).map (Prod.map (· + (left.length + 1)) id) :=
    piecesFrom_shift (left.length + 1) right (Nat.le_refl 0)
  simp only [queryPieces, if_pos cut]
  rw [piecesFrom_append, ← moved, Nat.add_assoc]

/-! ## Tokens -/

/-- The same token of a query that has more characters in front. -/
def Token.shift (count : Nat) (token : Token) : Token := { token with start := token.start + count }

@[simp] theorem Token.stop_shift (count : Nat) (token : Token) :
    (token.shift count).stop = token.stop + count := by
  simp only [stop, shift, length]
  omega

section

variable {options : MatchOptions}

theorem Token.compile_shift {start : Nat} {value : Text} {token : Token} (count : Nat)
    (compiled : Token.compile options start value = .ok token) :
    Token.compile options (start + count) value = .ok (token.shift count) := by
  obtain ⟨pattern, here, rfl⟩ := map_eq_ok_iff.mp compiled
  rw [Token.compile, here]
  rfl

/-- Pieces compile exactly into the tokens that they compile into one by one. -/
theorem compilePieces_eq_ok_iff {pieces : List (Nat × Text)} {tokens : List Token} :
    compilePieces options pieces = .ok tokens ↔
      List.Forall₂ (fun piece token => Token.compile options piece.1 piece.2 = .ok token)
        pieces tokens := by
  refine ⟨forall₂_of_compilePieces, fun all => ?_⟩
  induction all with
  | nil => rfl
  | cons first _ ih => rw [compilePieces, first, ih]

/-- Pieces behind other ones are compiled on their own, wherever they stand. -/
theorem compilePieces_append {left right : List (Nat × Text)} {first second : List Token}
    (count : Nat) (leftCompiled : compilePieces options left = .ok first)
    (rightCompiled : compilePieces options right = .ok second) :
    compilePieces options (left ++ right.map (Prod.map (· + count) id))
      = .ok (first ++ second.map (Token.shift count)) := by
  rw [compilePieces_eq_ok_iff] at leftCompiled rightCompiled ⊢
  have moved : List.Forall₂
      (fun piece token => Token.compile options piece.1 piece.2 = .ok token)
      (right.map (Prod.map (· + count) id)) (second.map (Token.shift count)) := by
    rw [List.forall₂_map_left_iff, List.forall₂_map_right_iff]
    exact rightCompiled.imp fun _ _ compiled => Token.compile_shift count compiled
  exact List.rel_append leftCompiled moved

end

/-! ## Spans -/

/-- The same span of a query that has more tokens in front. -/
def Span.renumber (count : Nat) (span : Span) : Span := { span with token := span.token + count }

section

variable {text : Text} {style : Style}

/-- The spans of tokens behind other ones are numbered on. -/
theorem spansFrom_append (index : Nat) (first second : List Token) :
    spansFrom text style index (first ++ second)
      = spansFrom text style index first
        ++ spansFrom text style (index + first.length) second := by
  induction first generalizing index with
  | nil => rfl
  | cons token first ih =>
      have next : index + 1 + first.length = index + (first.length + 1) := by omega
      rw [List.cons_append, spansFrom, spansFrom, ih, List.length_cons, next, List.append_assoc]

/-- Numbering tokens on does not change their spans, nor does moving the tokens. -/
theorem spansFrom_shift (index count moved : Nat) (tokens : List Token) :
    spansFrom text style (index + count) (tokens.map (Token.shift moved))
      = (spansFrom text style index tokens).map (Span.renumber count) := by
  induction tokens generalizing index with
  | nil => rfl
  | cons token tokens ih =>
      have next : index + count + 1 = index + 1 + count := by omega
      have own : tokenSpans (token.shift moved).pattern text style (index + count)
          = (tokenSpans token.pattern text style index).map (Span.renumber count) := by
        simp only [tokenSpans, List.map_map]
        rfl
      rw [List.map_cons, spansFrom, spansFrom, own, next, ih, List.map_append]

end

/-! ## Acceptance by pieces -/

section

variable {options : MatchOptions} {query other : Text} {tokens others : TokenSet}

/-- A query accepts a text exactly if each of its pieces compiles into a pattern that occurs. -/
theorem accepts_iff_of_isPiece (compiled : TokenSet.compile query options = .ok tokens)
    (text : Text) :
    tokens.accepts text = true ↔ ∀ piece, IsPiece options.tokenize query piece →
      ∃ pattern, Pattern.compile piece options.method options.caseSensitive = .ok pattern ∧
        pattern.occursIn text = true := by
  rw [TokenSet.accepts, List.all_eq_true]
  constructor
  · intro accepted piece isPiece
    obtain ⟨token, member, rfl⟩ := exists_token_of_isPiece compiled isPiece
    exact ⟨token.pattern, (compile_of_mem_tokens compiled member).2, accepted token member⟩
  · intro each token member
    obtain ⟨piece, here⟩ := compile_of_mem_tokens compiled member
    obtain ⟨pattern, same, occurs⟩ := each token.value (mem_pieceTexts_iff.mp piece)
    obtain rfl := Except.ok.inj (here.symm.trans same)
    exact occurs

/-- A query whose pieces are all pieces of one that compiles does compile. -/
theorem exists_compile_of_isPiece (compiled : TokenSet.compile query options = .ok tokens)
    (known : ∀ piece, IsPiece options.tokenize other piece →
      IsPiece options.tokenize query piece) :
    ∃ others, TokenSet.compile other options = .ok others := by
  cases result : TokenSet.compile other options with
  | ok others => exact ⟨others, rfl⟩
  | error failure =>
      obtain ⟨piece, isPiece, fails⟩ := exists_of_compile_error result
      obtain ⟨token, member, rfl⟩ := exists_token_of_isPiece compiled (known piece isPiece)
      have here := (compile_of_mem_tokens compiled member).2
      rw [fails] at here
      cases here

theorem accepts_eq_of_isPiece (compiled : TokenSet.compile query options = .ok tokens)
    (otherCompiled : TokenSet.compile other options = .ok others)
    (same : ∀ piece, IsPiece options.tokenize other piece ↔ IsPiece options.tokenize query piece)
    (text : Text) : others.accepts text = tokens.accepts text := by
  rw [Bool.eq_iff_iff, accepts_iff_of_isPiece compiled, accepts_iff_of_isPiece otherCompiled]
  exact forall_congr' fun piece => imp_congr_left (same piece)

end

theorem isWord_append_iff {left right word : Text} :
    IsWord (left ++ tokenSeparator :: right) word ↔ IsWord left word ∨ IsWord right word := by
  have words : ∀ (offset : Nat) (query : Text),
      word ∈ (piecesFrom offset [] query).map Prod.snd ↔ IsWord query word :=
    fun offset query => mem_piecesFrom_iff List.not_mem_nil
  rw [← words 0, piecesFrom_append, List.map_append, List.mem_append, words, words]

/-! ## Joined queries -/

/-- Queries compose. If two queries compile, so does one behind the other with a separator between
them: its tokens are those of both, the latter moved behind the former, it accepts what both
accept, and its spans are those of both, numbered on. What it accepts is a matter of its words
alone: any query of the same words, in whatever order and however often they come and however many
separators stand around them, compiles and accepts the same. -/
theorem compile_append {options : MatchOptions} {left right : Text} {first second : TokenSet}
    (cut : options.tokenize = true) (leftCompiled : TokenSet.compile left options = .ok first)
    (rightCompiled : TokenSet.compile right options = .ok second) :
    ∃ both, TokenSet.compile (left ++ tokenSeparator :: right) options = .ok both ∧
      both.tokens = first.tokens ++ second.tokens.map (Token.shift (left.length + 1)) ∧
      (∀ candidate : TextData, both.accepts candidate.decoded
        = (first.accepts candidate.decoded && second.accepts candidate.decoded)) ∧
      (∀ (candidate : TextData) (style : Style), both.highlight candidate.decoded style
        = first.highlight candidate.decoded style
          ++ (second.highlight candidate.decoded style).map
            (Span.renumber first.tokens.length)) ∧
      ∀ query, (∀ word, IsWord query word ↔ IsWord left word ∨ IsWord right word) →
        ∃ tokens, TokenSet.compile query options = .ok tokens ∧
          ∀ candidate : TextData,
            tokens.accepts candidate.decoded = both.accepts candidate.decoded := by
  obtain ⟨firstTokens, leftPieces, rfl⟩ := map_eq_ok_iff.mp leftCompiled
  obtain ⟨secondTokens, rightPieces, rfl⟩ := map_eq_ok_iff.mp rightCompiled
  let both : TokenSet := ⟨left ++ tokenSeparator :: right, options,
    firstTokens ++ secondTokens.map (Token.shift (left.length + 1))⟩
  have compiled : TokenSet.compile (left ++ tokenSeparator :: right) options = .ok both := by
    rw [TokenSet.compile, queryPieces_append cut,
      compilePieces_append (left.length + 1) leftPieces rightPieces]
    rfl
  refine ⟨both, compiled, rfl, fun candidate => ?_, fun candidate style => ?_, ?_⟩
  · simp only [both, TokenSet.accepts, List.all_append, List.all_map]
    rfl
  · simp only [both, TokenSet.highlight]
    rw [spansFrom_append, spansFrom_shift]
  · intro query words
    have same : ∀ piece, IsPiece options.tokenize query piece ↔
        IsPiece options.tokenize (left ++ tokenSeparator :: right) piece := by
      intro piece
      rw [IsPiece, IsPiece, if_pos cut, if_pos cut, words, isWord_append_iff]
    obtain ⟨tokens, queryCompiled⟩ :=
      exists_compile_of_isPiece compiled fun piece => (same piece).mp
    exact ⟨tokens, queryCompiled, fun candidate =>
      accepts_eq_of_isPiece compiled queryCompiled same candidate.decoded⟩

/-- Regular expressions, one of them malformed, with separators on both sides of the joint. -/
theorem compile_append_malformed :
    (⟨.regex, false, true⟩ : MatchOptions).tokenize = true ∧ ∃ first second both,
      TokenSet.compile "a( ".toList ⟨.regex, false, true⟩ = .ok first ∧
      TokenSet.compile " b+ a".toList ⟨.regex, false, true⟩ = .ok second ∧
      TokenSet.compile "a(   b+ a".toList ⟨.regex, false, true⟩ = .ok both ∧
      both.tokens = first.tokens ++ second.tokens.map (Token.shift 4) ∧
      both.accepts "ba(b".toList
        = (first.accepts "ba(b".toList && second.accepts "ba(b".toList) := by
  have leftCompiles : (TokenSet.compile "a( ".toList ⟨.regex, false, true⟩).isOk = true := by
    decide +kernel
  have rightCompiles : (TokenSet.compile " b+ a".toList ⟨.regex, false, true⟩).isOk = true := by
    decide +kernel
  cases left : TokenSet.compile "a( ".toList ⟨.regex, false, true⟩ with
  | error failure =>
      rw [left] at leftCompiles
      cases leftCompiles
  | ok first =>
      cases right : TokenSet.compile " b+ a".toList ⟨.regex, false, true⟩ with
      | error failure =>
          rw [right] at rightCompiles
          cases rightCompiles
      | ok second =>
          obtain ⟨both, joined, tokens, accepts, -⟩ := compile_append rfl left right
          exact ⟨rfl, first, second, both, rfl, rfl, joined, tokens,
            accepts (.text "ba(b".toList)⟩

end Winnow
