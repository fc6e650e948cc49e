import Winnow.Proofs.Query.Choice
import Winnow.Proofs.Style.Placement

/-!
# What is highlighted for fuzzy words

The spans of a fuzzy word come in blocks, one for each match, and a block has one
span for each character of the word. `Blocks` says which places they take without
speaking of patterns: every block begins at the leftmost place behind the block before
it from which the word can be spelled, and goes on with the latest places
(`LatestPlaces`). The matches of a text are such blocks (`exists_blocks_of_scans`), so
the spans are known place by place (`highlight_fuzzy`).
-/

namespace Winnow

open Regex

variable {rule : CaseRule} {text : Text}

/-- The places that are highlighted for a fuzzy word from an offset on, match by match. Behind the
last block the word cannot be spelled any more. -/
inductive Blocks (rule : CaseRule) (text word : Text) : Nat → List (List Nat) → Prop
  | done {start : Nat} :
      (∀ place, start ≤ place → ¬SpelledFrom rule word text place) → Blocks rule text word start []
  | block {start first : Nat} {later : List Nat} {blocks : List (List Nat)} :
      start ≤ first → SpelledFrom rule word text first →
      (∀ earlier, start ≤ earlier → earlier < first → ¬SpelledFrom rule word text earlier) →
      LatestPlaces rule text first word.tail later →
      Blocks rule text word (later.getLastD first + 1) blocks →
      Blocks rule text word start ((first :: later) :: blocks)

section

variable {char : Char} {chars : Text} {start : Nat} {blocks : List (List Nat)}

/-- There is one row of blocks only. -/
theorem Blocks.unique {word : Text} {others : List (List Nat)}
    (all : Blocks rule text word start blocks) (another : Blocks rule text word start others) :
    blocks = others := by
  induction all generalizing others with
  | done fails =>
      cases another with
      | done _ => rfl
      | block behind spelled _ _ _ => exact absurd spelled (fails _ behind)
  | @block _ first _ _ after spelled leftmost latest _ ih =>
      cases another with
      | done fails => exact absurd spelled (fails first after)
      | @block _ other _ _ otherAfter otherSpelled otherLeftmost otherLatest rest =>
          rcases Nat.lt_trichotomy first other with before | rfl | behind
          · exact absurd spelled (otherLeftmost first after before)
          · obtain rfl := latest.unique otherLatest
            rw [ih rest]
          · exact absurd otherSpelled (leftmost other otherAfter behind)

/-- The word is spelled at the places of every block. -/
theorem Blocks.spelledAt (all : Blocks rule text (char :: chars) start blocks) :
    ∀ block ∈ blocks, SpelledAt rule (char :: chars) text block := by
  induction all with
  | done _ => exact List.forall_mem_nil _
  | block _ spelled _ latest _ ih =>
      exact List.forall_mem_cons.mpr
        ⟨⟨.cons spelled.stands latest.stands, latest.bridged⟩, ih⟩

theorem le_getLastD {first : Nat} {later : List Nat}
    (increasing : (first :: later).Pairwise (· < ·)) :
    ∀ place ∈ first :: later, place ≤ later.getLastD first := by
  intro place member
  rw [← List.getLast_eq_getLastD (List.cons_ne_nil first later)]
  exact (increasing.imp Nat.le_of_lt).rel_getLast member

/-- The places of all blocks increase, and none lies before the offset. -/
theorem Blocks.pairwise (all : Blocks rule text (char :: chars) start blocks) :
    (∀ place ∈ blocks.flatten, start ≤ place) ∧ blocks.flatten.Pairwise (· < ·) := by
  induction all with
  | done _ => exact ⟨List.forall_mem_nil _, .nil⟩
  | @block start first later blocks behind _ _ latest _ ih =>
      have increasing := pairwise_of_bridged latest.bridged
      have last := le_getLastD increasing
      rw [List.flatten_cons, List.pairwise_append]
      refine ⟨fun place member => ?_, increasing, ih.2, fun left leftMember right rightMember => ?_⟩
      · rcases List.mem_append.mp member with own | further
        · rcases List.mem_cons.mp own with rfl | others
          · exact behind
          · exact behind.trans (Nat.le_of_lt (List.rel_of_pairwise_cons increasing others))
        · have here := last first List.mem_cons_self
          have there := ih.1 place further
          omega
      · exact Nat.lt_of_lt_of_le (Nat.lt_succ_of_le (last left leftMember)) (ih.1 right rightMember)

theorem lt_of_matchAt_fuzzyNode {place : Nat} {found : Match}
    (matched : (fuzzyNode rule char chars).matchAt text.toArray false place = some found) :
    found.start < found.stop := by
  obtain ⟨-, later, latest, rfl⟩ := exists_latestPlaces_of_matchAt matched
  have last := le_getLastD (pairwise_of_bridged latest.bridged) place List.mem_cons_self
  exact Nat.lt_succ_of_le last

/-- The matches of a scan by a fuzzy pattern are shown block by block. -/
theorem exists_blocks_of_scans {occurrences : List Match}
    (scans : (fuzzyNode rule char chars).Scans text.toArray start occurrences) :
    ∃ blocks, Blocks rule text (char :: chars) start blocks ∧
      occurrences.flatMap (matchStretches (char :: chars).length)
        = blocks.flatten.map fun place => (place, place + 1) := by
  induction scans with
  | done fails =>
      refine ⟨[], .done fun place after spelled => ?_, rfl⟩
      have inside : place ≤ text.toArray.size := Nat.le_of_lt spelled.inside
      exact matchAt_fuzzyNode_eq_none_iff.mp (fails place after inside) spelled
  | found behind matched leftmost _ ih =>
      obtain ⟨spelled, later, latest, shape⟩ := exists_latestPlaces_of_matchAt matched
      obtain ⟨blocks, others, shown⟩ := ih
      have stop := congrArg Match.stop shape
      dsimp only at stop
      rw [stop] at others
      refine ⟨_, .block behind spelled (fun earlier after before => ?_) latest others, ?_⟩
      · exact matchAt_fuzzyNode_eq_none_iff.mp (leftmost earlier after before)
      · rw [List.flatMap_cons, shown, shape, matchStretches_recordAll latest, List.flatten_cons,
          List.map_append]

/-- The spans of a fuzzy pattern are the characters at the places of its blocks. -/
theorem exists_blocks_of_tokenSpans (char : Char) (chars : Text) (caseSensitive : Bool)
    (text : Text) (style : Style) (index : Nat) :
    ∃ blocks, Blocks (ruleFor caseSensitive) text (char :: chars) 0 blocks ∧
      tokenSpans (fuzzyPattern char chars caseSensitive) text style index
        = blocks.flatten.map fun place => ⟨place, place + 1, style, index⟩ := by
  obtain ⟨blocks, all, shown⟩ := exists_blocks_of_scans
    (scans_allMatches fun _ _ matched => lt_of_matchAt_fuzzyNode matched)
  exact ⟨blocks, all, tokenSpans_of_places Nat.zero_lt_one shown⟩

end

/-- Every fuzzy query compiles. The spans that name a word of it come in blocks, one for each match,
with one span for each character of the word, and their places increase throughout. A block begins
at the leftmost place behind the block before it from which the word can be spelled, goes on with
the latest places from which the rest can be spelled, and blocks end where the word cannot be
spelled any more; this leaves no choice. If case counts, the characters at the places of a block
are the word. -/
theorem highlight_fuzzy (query : Text) (caseSensitive tokenize : Bool) :
    ∃ tokens, TokenSet.compile query ⟨.fuzzy, caseSensitive, tokenize⟩ = .ok tokens ∧
      ∀ index token, tokens.tokens[index]? = some token → ∀ (candidate : TextData) (style : Style),
        ∃ blocks, Blocks (ruleFor caseSensitive) candidate.decoded token.value 0 blocks ∧
          (∀ others, Blocks (ruleFor caseSensitive) candidate.decoded token.value 0 others →
            others = blocks) ∧
          ((tokens.highlight candidate.decoded style).filter fun span => span.token = index)
            = (blocks.flatten.map fun place => ⟨place, place + 1, style, index⟩) ∧
          (∀ block ∈ blocks, block.length = token.value.length ∧
            SpelledAt (ruleFor caseSensitive) token.value candidate.decoded block ∧
            (caseSensitive = true →
              block.map (fun place => candidate.decoded[place]?) = token.value.map some)) ∧
          blocks.flatten.Pairwise (· < ·) := by
  obtain ⟨tokens, compiled, -⟩ := compile_fuzzyQuery query caseSensitive tokenize
  refine ⟨tokens, compiled, fun index token named candidate style => ?_⟩
  obtain ⟨piece, pattern⟩ := compile_of_mem_tokens compiled (List.mem_of_getElem? named)
  obtain ⟨char, chars, word⟩ := List.exists_cons_of_ne_nil (ne_nil_of_mem_pieceTexts piece)
  rw [word, compile_fuzzyPattern] at pattern
  obtain ⟨blocks, all, spans⟩ :=
    exists_blocks_of_tokenSpans char chars caseSensitive candidate.decoded style index
  rw [filter_highlight named, ← Except.ok.inj pattern, word]
  refine ⟨blocks, all, fun others another => another.unique all, spans, fun block member => ?_,
    all.pairwise.2⟩
  have spelled := all.spelledAt block member
  refine ⟨spelled.stands.length_eq.symm, spelled, ?_⟩
  rintro rfl
  exact (forall₂_standsAt_exact_iff.mp spelled.stands).symm

/-- A fuzzy word takes the leftmost place for its first character and the last one for its second
one. -/
example :
    (TokenSet.compile "ab".toList ⟨.fuzzy, true, true⟩).map
        (fun tokens => (tokens.highlight "xaabb\nab".toList .standard).map
          fun span => (span.start, span.stop)) = .ok [(1, 2), (4, 5), (6, 7), (7, 8)] := by
  decide +kernel

end Winnow
