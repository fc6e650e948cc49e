import Winnow.Style.Span
import Winnow.Proofs.Query.Choice
import Winnow.Proofs.Query.Literal
import Winnow.Proofs.Regex.Reaching

/-!
# Acceptance and highlighting

A text is accepted by searching for each token, and highlighted by collecting all
matches of each token and leaving the empty stretches out. A span therefore shows
that its token occurs (`occursIn_of_mem_tokenSpans`). The converse needs that what
a search finds is worth showing (`Pattern.Shows`). Patterns of literal and fuzzy
tokens are of this kind: a literal one covers as many characters as it has
(`shows_literal`), and every group of a fuzzy one covers one character
(`shows_fuzzy`). So for these methods a text is accepted exactly if every token is
highlighted somewhere (`accepts_iff_highlighted`). A glob that is a star also accepts
where it matches nothing that could be shown.
-/

namespace Winnow

open Regex

/-! ## Spans -/

section

variable {text : Text} {style : Style} {span : Span}

/-- A span of a token is a stretch of a match that is not empty. -/
theorem mem_tokenSpans_iff {pattern : Pattern} {index : Nat} :
    span ∈ tokenSpans pattern text style index ↔
      ∃ found ∈ pattern.program.node.allMatches text.toArray,
        ∃ stretch ∈ matchStretches pattern.groups found, stretch.1 < stretch.2 ∧
          span = ⟨stretch.1, stretch.2, style, index⟩ := by
  simp only [tokenSpans, List.mem_map, List.mem_filter, List.mem_flatMap, decide_eq_true_eq]
  constructor
  · rintro ⟨stretch, ⟨⟨found, matched, member⟩, visible⟩, rfl⟩
    exact ⟨found, matched, stretch, member, visible, rfl⟩
  · rintro ⟨found, matched, stretch, member, visible, rfl⟩
    exact ⟨stretch, ⟨⟨found, matched, member⟩, visible⟩, rfl⟩

/-- The spans of tokens belong to them by their indices. -/
theorem mem_spansFrom_iff {tokens : List Token} {index : Nat} :
    span ∈ spansFrom text style index tokens ↔
      ∃ further token, tokens[further]? = some token ∧
        span ∈ tokenSpans token.pattern text style (index + further) := by
  induction tokens generalizing index with
  | nil => simp [spansFrom]
  | cons token rest ih =>
      rw [spansFrom, List.mem_append, ih]
      constructor
      · rintro (here | ⟨further, later, found, member⟩)
        · exact ⟨0, token, rfl, here⟩
        · refine ⟨further + 1, later, found, ?_⟩
          rwa [Nat.add_comm further, ← Nat.add_assoc]
      · rintro ⟨further, later, found, member⟩
        cases further with
        | zero =>
            obtain rfl := Option.some.inj found
            exact .inl member
        | succ further =>
            refine .inr ⟨further, later, found, ?_⟩
            rwa [Nat.add_assoc, Nat.add_comm 1]

/-- A span of a query is a span of the token that it names. -/
theorem mem_highlight_iff {tokens : TokenSet} :
    span ∈ tokens.highlight text style ↔
      ∃ token, tokens.tokens[span.token]? = some token ∧
        span ∈ tokenSpans token.pattern text style span.token := by
  rw [TokenSet.highlight, mem_spansFrom_iff]
  simp only [Nat.zero_add]
  constructor
  · rintro ⟨index, token, found, member⟩
    obtain ⟨_, _, _, _, _, rfl⟩ := mem_tokenSpans_iff.mp member
    exact ⟨token, found, member⟩
  · rintro ⟨token, found, member⟩
    exact ⟨span.token, token, found, member⟩

end

/-! ## What is shown of a match -/

/-- What a search finds is worth showing: some stretch of it is not empty. -/
def Pattern.Shows (pattern : Pattern) : Prop :=
  ∀ (text : Text) (found : Match), pattern.program.node.search text.toArray = some found →
    ∃ stretch ∈ matchStretches pattern.groups found, stretch.1 < stretch.2

section

variable {pattern : Pattern} {text : Text} {style : Style} {index : Nat}

/-- A pattern that has a span occurs. -/
theorem occursIn_of_mem_tokenSpans {span : Span}
    (member : span ∈ tokenSpans pattern text style index) : pattern.occursIn text = true := by
  obtain ⟨found, matched, -⟩ := mem_tokenSpans_iff.mp member
  rw [Pattern.occursIn, ← head?_allMatches, List.isSome_head?]
  exact List.ne_nil_of_mem matched

/-- A pattern that is worth showing occurs exactly if it has a span. -/
theorem occursIn_iff_exists_span (shows : pattern.Shows) :
    pattern.occursIn text = true ↔ ∃ span, span ∈ tokenSpans pattern text style index := by
  constructor
  · intro occurs
    obtain ⟨found, searched⟩ := Option.isSome_iff_exists.mp occurs
    obtain ⟨stretch, member, visible⟩ := shows text found searched
    have matched : found ∈ pattern.program.node.allMatches text.toArray :=
      List.mem_of_head? ((head?_allMatches _).trans searched)
    exact ⟨_, mem_tokenSpans_iff.mpr ⟨found, matched, stretch, member, visible, rfl⟩⟩
  · rintro ⟨span, member⟩
    exact occursIn_of_mem_tokenSpans member

end

/-! ## Literal and fuzzy patterns -/

section

variable {rule : CaseRule} {chars : Array Char} {state later : MatchState}

/-- A row of literals is reached by going past as many characters. -/
theorem advance_of_reaches_literals {piece : Text}
    (reaches : (Node.ofSeq ((piece.map FlatItem.literal).map (FlatItem.node rule))).Reaches chars
      state later) : later = state.advance piece.length := by
  induction piece generalizing state with
  | nil =>
      cases reaches with
      | empty => rfl
  | cons char piece ih =>
      obtain ⟨middle, first, rest⟩ := exists_middle_of_ofSeq reaches
      cases first with
      | char =>
          rw [ih rest]
          simp only [MatchState.advance, List.length_cons]
          congr 1
          omega

end

/-- A literal pattern shows the characters that it covers. -/
theorem shows_literal {piece : Text} {caseSensitive : Bool} {pattern : Pattern}
    (nonempty : piece ≠ [])
    (compiled : Pattern.compile piece .literal caseSensitive = .ok pattern) : pattern.Shows := by
  rw [compile_literalPattern] at compiled
  obtain rfl := Except.ok.inj compiled
  intro text found searched
  obtain ⟨later, reached, stop, -⟩ := exists_reached_of_searchFrom searched
  refine ⟨found.span, List.mem_singleton.mpr rfl, ?_⟩
  have letters : 0 < piece.length := List.length_pos_of_ne_nil nonempty
  rw [Match.span, stop, advance_of_reaches_literals reached]
  simp only [MatchState.advance]
  omega

/-- A fuzzy pattern shows the characters that its groups capture. -/
theorem shows_fuzzy {piece : Text} {caseSensitive : Bool} {pattern : Pattern}
    (nonempty : piece ≠ [])
    (compiled : Pattern.compile piece .fuzzy caseSensitive = .ok pattern) : pattern.Shows := by
  obtain ⟨char, chars, rfl⟩ := List.exists_cons_of_ne_nil nonempty
  rw [compile_fuzzyPattern] at compiled
  obtain rfl := Except.ok.inj compiled
  intro text found searched
  obtain ⟨-, matched, -⟩ := leftmost_of_searchFrom searched
  generalize found.start = start at matched
  obtain ⟨-, later, latest, rfl⟩ := exists_latestPlaces_of_matchAt matched
  refine ⟨(start, start + 1), ?_, Nat.lt_succ_self start⟩
  rw [groups_fuzzyPattern, matchStretches_recordAll latest]
  exact List.mem_cons_self

/-! ## Queries -/

/-- Every span of a compiled query shows that the token it names occurs. A query of literal or
fuzzy tokens accepts a text exactly if every token is named by a span. -/
theorem accepts_iff_highlighted {query : Text} {options : MatchOptions} {tokens : TokenSet}
    (compiled : TokenSet.compile query options = .ok tokens) (text : Text) (style : Style) :
    (∀ span ∈ tokens.highlight text style, ∃ token, tokens.tokens[span.token]? = some token ∧
      token.pattern.occursIn text = true) ∧
    (options.method = .literal ∨ options.method = .fuzzy →
      (tokens.accepts text = true ↔
        ∀ index < tokens.tokens.length,
          ∃ span ∈ tokens.highlight text style, span.token = index)) := by
  constructor
  · intro span member
    obtain ⟨token, found, own⟩ := mem_highlight_iff.mp member
    exact ⟨token, found, occursIn_of_mem_tokenSpans own⟩
  · intro method
    have shows : ∀ token ∈ tokens.tokens, token.pattern.Shows := by
      intro token member
      obtain ⟨piece, pattern⟩ := compile_of_mem_tokens compiled member
      have nonempty : token.value ≠ [] := ne_nil_of_mem_pieceTexts piece
      rcases method with literal | fuzzy
      · exact shows_literal nonempty (literal ▸ pattern)
      · exact shows_fuzzy nonempty (fuzzy ▸ pattern)
    rw [TokenSet.accepts, List.all_eq_true, List.forall_mem_iff_getElem]
    refine forall_congr' fun index => forall_congr' fun inside => ?_
    rw [occursIn_iff_exists_span (shows _ (List.getElem_mem inside))]
    constructor
    · rintro ⟨span, own⟩
      obtain ⟨_, _, _, _, _, rfl⟩ := mem_tokenSpans_iff.mp own
      exact ⟨_, mem_highlight_iff.mpr ⟨_, List.getElem?_eq_getElem inside, own⟩, rfl⟩
    · rintro ⟨span, member, rfl⟩
      obtain ⟨token, found, own⟩ := mem_highlight_iff.mp member
      obtain ⟨_, rfl⟩ := List.getElem?_eq_some_iff.mp found
      exact ⟨span, own⟩

/-- A fuzzy query of two words, one of which is a single character. -/
theorem accepts_iff_highlighted_fuzzy :
    ∃ tokens, TokenSet.compile "ac b".toList ⟨.fuzzy, true, true⟩ = .ok tokens ∧
      ((⟨.fuzzy, true, true⟩ : MatchOptions).method = .literal ∨
        (⟨.fuzzy, true, true⟩ : MatchOptions).method = .fuzzy) ∧
      (tokens.accepts "abc".toList = true ↔
        ∀ index < tokens.tokens.length,
          ∃ span ∈ tokens.highlight "abc".toList .standard, span.token = index) := by
  obtain ⟨tokens, compiled, -⟩ := compile_fuzzyQuery "ac b".toList true true
  exact ⟨tokens, compiled, .inr rfl,
    (accepts_iff_highlighted compiled "abc".toList .standard).2 (.inr rfl)⟩

/-- A glob that matches nothing at all accepts every text and shows none of it. -/
example :
    (TokenSet.compile ['*'] ⟨.glob, true, true⟩).map
        (fun tokens => (tokens.accepts [], tokens.highlight [] .standard)) = .ok (true, []) := by
  decide +kernel

end Winnow
