import Winnow.Proofs.Regex.Extent
import Winnow.Proofs.Style.Highlight

/-!
# Where spans lie

The spans of a query stand token by token: their tokens never decrease
(`pairwise_token_spansFrom`), and those that name a token are the spans of that
token (`filter_highlight`). Every span is a stretch of a match that is not empty,
so it lies in the text (`lt_and_le_of_mem_tokenSpans`). If whole matches are shown,
the spans of a token are as far apart as its matches
(`pairwise_tokenSpans_of_groups_le`).
-/

namespace Winnow

open Regex

section

variable {text : Text} {style : Style} {pattern : Pattern} {index : Nat}

/-! ## Tokens -/

theorem eq_of_mem_tokenSpans {span : Span} (member : span ∈ tokenSpans pattern text style index) :
    span.token = index ∧ span.style = style := by
  obtain ⟨_, _, _, _, _, rfl⟩ := mem_tokenSpans_iff.mp member
  exact ⟨rfl, rfl⟩

theorem le_token_of_mem_spansFrom {tokens : List Token} {span : Span}
    (member : span ∈ spansFrom text style index tokens) : index ≤ span.token := by
  obtain ⟨further, token, -, own⟩ := mem_spansFrom_iff.mp member
  exact (eq_of_mem_tokenSpans own).1 ▸ Nat.le_add_right index further

/-- The tokens that spans name never decrease. -/
theorem pairwise_token_spansFrom (index : Nat) (tokens : List Token) :
    (spansFrom text style index tokens).Pairwise fun left right => left.token ≤ right.token := by
  induction tokens generalizing index with
  | nil => exact .nil
  | cons token tokens ih =>
      rw [spansFrom, List.pairwise_append]
      refine ⟨?_, ih (index + 1), ?_⟩
      · refine List.pairwise_of_forall_mem_list fun left leftMember right rightMember => ?_
        exact Nat.le_of_eq
          ((eq_of_mem_tokenSpans leftMember).1.trans (eq_of_mem_tokenSpans rightMember).1.symm)
      · intro left leftMember right rightMember
        rw [(eq_of_mem_tokenSpans leftMember).1]
        exact Nat.le_of_succ_le (le_token_of_mem_spansFrom rightMember)

/-- The spans that name a token are its spans. -/
theorem filter_spansFrom {tokens : List Token} {further : Nat} {token : Token}
    (found : tokens[further]? = some token) :
    (spansFrom text style index tokens).filter (fun span => span.token = index + further)
      = tokenSpans token.pattern text style (index + further) := by
  induction tokens generalizing index further with
  | nil => cases found
  | cons first tokens ih =>
      rw [spansFrom, List.filter_append]
      cases further with
      | zero =>
          obtain rfl := Option.some.inj found
          have own : ∀ span ∈ tokenSpans first.pattern text style index,
              span.token = index + 0 := fun span member => (eq_of_mem_tokenSpans member).1
          have others : ∀ span ∈ spansFrom text style (index + 1) tokens,
              ¬span.token = index + 0 := by
            intro span member
            have later := le_token_of_mem_spansFrom member
            omega
          rw [List.filter_eq_self.mpr (by simpa using own),
            List.filter_eq_nil_iff.mpr (by simpa using others), List.append_nil, Nat.add_zero]
      | succ further =>
          have earlier : ∀ span ∈ tokenSpans first.pattern text style index,
              ¬span.token = index + (further + 1) := by
            intro span member
            have own := (eq_of_mem_tokenSpans member).1
            omega
          have next : index + (further + 1) = index + 1 + further := by omega
          rw [List.filter_eq_nil_iff.mpr (by simpa using earlier), List.nil_append, next]
          exact ih found

/-- The spans of a query that name a token are the spans of that token. -/
theorem filter_highlight {tokens : TokenSet} {token : Token}
    (found : tokens.tokens[index]? = some token) :
    (tokens.highlight text style).filter (fun span => span.token = index)
      = tokenSpans token.pattern text style index := by
  have own := @filter_spansFrom text style 0 tokens.tokens index token found
  rwa [Nat.zero_add] at own

/-! ## Stretches -/

/-- What is shown of a match does not leave the text. -/
theorem stop_le_of_mem_matchStretches {groups start size : Nat} {found : Match}
    {stretch : Nat × Nat} (lies : found.LiesIn start size)
    (member : stretch ∈ matchStretches groups found) : stretch.2 ≤ size := by
  rw [matchStretches] at member
  split at member
  · rw [List.mem_singleton.mp member]
    exact lies.stop_le
  · obtain ⟨group, -, shown⟩ := List.mem_filterMap.mp member
    obtain ⟨capture, latest, rfl⟩ := Option.map_eq_some_iff.mp shown
    exact lies.capture_le capture (List.mem_of_find?_eq_some latest)

/-- A span of a token is not empty and lies in the text. -/
theorem lt_and_le_of_mem_tokenSpans {span : Span}
    (member : span ∈ tokenSpans pattern text style index) :
    0 ≤ span.start ∧ span.start < span.stop ∧ span.stop ≤ text.length := by
  obtain ⟨found, matched, stretch, shown, visible, rfl⟩ := mem_tokenSpans_iff.mp member
  have inside : stretch.2 ≤ text.toArray.size :=
    stop_le_of_mem_matchStretches (liesIn_of_mem_allMatches matched) shown
  rw [List.size_toArray] at inside
  exact ⟨Int.natCast_nonneg _, Int.ofNat_lt.mpr visible, Int.ofNat_le.mpr inside⟩

/-- If whole matches are shown, the spans of a token are its matches that cover something. -/
theorem tokenSpans_of_groups_le (single : pattern.groups ≤ 1) :
    tokenSpans pattern text style index
      = (((pattern.program.node.allMatches text.toArray).map Match.span).filter
          fun stretch => stretch.1 < stretch.2).map
        fun stretch => ⟨stretch.1, stretch.2, style, index⟩ := by
  have whole : matchStretches pattern.groups = fun found => [found.span] := by
    funext found
    rw [matchStretches, if_pos single]
  rw [tokenSpans, whole, ← List.map_eq_flatMap]

/-- If what is shown of the matches is as many characters each, and some, the spans of a token are
those characters. -/
theorem tokenSpans_of_places {places : List Nat} {width : Nat} (visible : 0 < width)
    (shown : (pattern.program.node.allMatches text.toArray).flatMap
        (matchStretches pattern.groups) = places.map fun place => (place, place + width)) :
    tokenSpans pattern text style index
      = places.map fun place => ⟨place, ↑(place + width), style, index⟩ := by
  have all : ∀ stretch ∈ places.map fun place => (place, place + width),
      decide (stretch.1 < stretch.2) = true := by
    intro stretch member
    obtain ⟨place, -, rfl⟩ := List.mem_map.mp member
    exact decide_eq_true (Nat.lt_add_of_pos_right visible)
  rw [tokenSpans, shown, List.filter_eq_self.mpr all, List.map_map]
  rfl

/-- If whole matches are shown, each span of a token ends before the next ones begin. -/
theorem pairwise_tokenSpans_of_groups_le (single : pattern.groups ≤ 1) :
    (tokenSpans pattern text style index).Pairwise fun left right => left.stop ≤ right.start := by
  rw [tokenSpans_of_groups_le single, List.pairwise_map]
  refine List.Pairwise.filter _ (List.pairwise_map.mpr ?_)
  exact (pairwise_allMatches _).imp fun apart => Int.ofNat_le.mpr apart

end

/-- Spans are well formed, whatever the tokens of a query are compiled into: each of them covers
something, lies in the candidate, names a token and has the style that was asked for; they stand in
the order of their tokens; and those of a token whose pattern has at most one group stand from left
to right without overlapping. -/
theorem highlight_wellFormed (tokens : TokenSet) (candidate : TextData) (style : Style) :
    let spans := tokens.highlight candidate.decoded style
    (∀ span ∈ spans, 0 ≤ span.start ∧ span.start < span.stop ∧
      span.stop ≤ candidate.decoded.length ∧ span.token < tokens.tokens.length ∧
      span.style = style) ∧
    (spans.Pairwise fun left right => left.token ≤ right.token) ∧
    ∀ index token, tokens.tokens[index]? = some token → token.pattern.groups ≤ 1 →
      (spans.filter fun span => span.token = index).Pairwise
        fun left right => left.start < right.start ∧ left.stop ≤ right.start := by
  intro spans
  refine ⟨fun span member => ?_, pairwise_token_spansFrom 0 tokens.tokens, ?_⟩
  · obtain ⟨token, found, own⟩ := mem_highlight_iff.mp member
    obtain ⟨named, -⟩ := List.getElem?_eq_some_iff.mp found
    obtain ⟨start, visible, stop⟩ := lt_and_le_of_mem_tokenSpans own
    exact ⟨start, visible, stop, named, (eq_of_mem_tokenSpans own).2⟩
  · intro index token found single
    rw [filter_highlight found]
    refine (pairwise_tokenSpans_of_groups_le single).imp_of_mem ?_
    intro left right leftMember _ apart
    exact ⟨Int.lt_of_lt_of_le (lt_and_le_of_mem_tokenSpans leftMember).2.1 apart, apart⟩

end Winnow
