import Winnow.Proofs.Style.Placement

/-!
# What is highlighted for literal words

A literal word is highlighted where a plain scan of the text finds it. `Occurrences` is
that scan, without patterns: take the leftmost place at which the word occurs, go on behind
it, and stop when the word occurs no more, so places at which an occurrence overlaps the one
before it are passed over. A literal pattern matches at exactly the places at which its word
occurs and covers as many characters (`matchAt_literalPattern_isSome_iff`,
`eq_of_matchAt_literalPattern`); therefore its matches are such a scan
(`exists_occurrences_of_scans`), and the spans of the word are known (`highlight_literal`).
-/

namespace Winnow

open Regex

/-- A word occurs at a place of a text: its characters correspond one by one to those that stand
from there on. -/
def OccursAt (rule : CaseRule) (word text : Text) (place : Nat) : Prop :=
  List.Forall₂ (StandsAt rule text) word (List.range' place word.length)

/-- The places that a scan for a word reports from an offset on: the leftmost one at which the word
occurs, and those that the scan from behind that occurrence reports. -/
inductive Occurrences (rule : CaseRule) (text word : Text) : Nat → List Nat → Prop
  | done {start : Nat} :
      (∀ place, start ≤ place → ¬OccursAt rule word text place) →
      Occurrences rule text word start []
  | found {start place : Nat} {others : List Nat} :
      start ≤ place → OccursAt rule word text place →
      (∀ earlier, start ≤ earlier → earlier < place → ¬OccursAt rule word text earlier) →
      Occurrences rule text word (place + word.length) others →
      Occurrences rule text word start (place :: others)

section

variable {rule : CaseRule} {text word : Text} {place start : Nat}

/-- A word occurs at a place exactly if what is left of the text there begins with characters that
correspond to it. -/
theorem occursAt_iff_drop :
    OccursAt rule word text place ↔
      ∃ found after, text.drop place = found ++ after ∧
        List.Forall₂ rule.Corresponds word found := by
  induction word generalizing place with
  | nil => exact ⟨fun _ => ⟨[], _, rfl, .nil⟩, fun _ => .nil⟩
  | cons char word ih =>
      have split : OccursAt rule (char :: word) text place ↔
          StandsAt rule text char place ∧ OccursAt rule word text (place + 1) :=
        List.forall₂_cons
      rw [split, ih]
      constructor
      · rintro ⟨⟨first, here, stands⟩, found, after, behind, others⟩
        refine ⟨first :: found, after, ?_, .cons stands others⟩
        rw [drop_eq_cons_iff.mp here, behind, List.cons_append]
      · rintro ⟨_, after, left, _ | @⟨_, first, _, found, stands, others⟩⟩
        have here : text[place]? = some first := by
          have head : (text.drop place)[0]? = some first := by rw [left]; rfl
          simpa using head
        refine ⟨⟨first, here, stands⟩, found, after, ?_, others⟩
        rw [drop_eq_cons_iff.mp here] at left
        exact List.tail_eq_of_cons_eq left

theorem OccursAt.inside (nonempty : word ≠ []) (occurs : OccursAt rule word text place) :
    place < text.length := by
  obtain ⟨char, word, rfl⟩ := List.exists_cons_of_ne_nil nonempty
  obtain ⟨⟨found, here, -⟩, -⟩ := List.forall₂_cons.mp occurs
  exact (List.getElem?_eq_some_iff.mp here).1

/-- A scan leaves no choice. -/
theorem Occurrences.unique {places others : List Nat}
    (scan : Occurrences rule text word start places)
    (another : Occurrences rule text word start others) : places = others := by
  induction scan generalizing others with
  | done absent =>
      cases another with
      | done _ => rfl
      | found behind occurs _ _ => exact absurd occurs (absent _ behind)
  | @found _ place _ behind occurs leftmost _ ih =>
      cases another with
      | done absent => exact absurd occurs (absent place behind)
      | @found _ other _ otherBehind otherOccurs otherLeftmost rest =>
          rcases Nat.lt_trichotomy place other with before | rfl | after
          · exact absurd occurs (otherLeftmost place behind before)
          · rw [ih rest]
          · exact absurd otherOccurs (leftmost other otherBehind after)

/-- A scan passes over an occurrence only if it overlaps one that is reported. -/
theorem Occurrences.complete {places : List Nat} (scan : Occurrences rule text word start places)
    (behind : start ≤ place) (occurs : OccursAt rule word text place) :
    ∃ reported ∈ places, reported ≤ place ∧ place < reported + word.length := by
  induction scan with
  | done absent => exact absurd occurs (absent place behind)
  | @found _ first others _ _ leftmost _ ih =>
      have reached : first ≤ place :=
        Nat.le_of_not_lt fun before => leftmost place behind before occurs
      by_cases covered : place < first + word.length
      · exact ⟨first, List.mem_cons_self, reached, covered⟩
      · obtain ⟨reported, member, rest⟩ := ih (Nat.le_of_not_lt covered)
        exact ⟨reported, List.mem_cons_of_mem first member, rest⟩

/-! ## Matches -/

variable {caseSensitive : Bool} {found : Match}

/-- A literal pattern matches at exactly the places at which its word occurs. -/
theorem matchAt_literalPattern_isSome_iff :
    ((literalPattern word caseSensitive).program.node.matchAt text.toArray false place).isSome
      = true ↔ OccursAt (ruleFor caseSensitive) word text place := by
  rw [literalPattern, matchAt_isSome_iff (leads_flatPattern _ caseSensitive text),
    occursAt_iff_drop, exists_comm]
  exact exists_congr fun after => flatPath_literals_iff

/-- A match of a literal pattern covers as many characters as its word has. -/
theorem eq_of_matchAt_literalPattern
    (matched : (literalPattern word caseSensitive).program.node.matchAt text.toArray false place
      = some found) : found = ⟨place, place + word.length, []⟩ := by
  obtain ⟨later, reached, stop, captures⟩ := exists_reached_of_matchAt matched
  obtain rfl := start_of_matchAt matched
  calc found = ⟨found.start, found.stop, found.captures⟩ := rfl
    _ = ⟨found.start, later.offset, later.captures⟩ := by rw [stop, captures]
    _ = ⟨found.start, found.start + word.length, []⟩ := by
      rw [advance_of_reaches_literals reached]
      rfl

/-- The matches of a scan by a literal pattern begin at the places that a scan for its word
reports. -/
theorem exists_occurrences_of_scans {all : List Match} (nonempty : word ≠ [])
    (scans : (literalPattern word caseSensitive).program.node.Scans text.toArray start all) :
    ∃ places, Occurrences (ruleFor caseSensitive) text word start places ∧
      all = places.map fun place => ⟨place, place + word.length, []⟩ := by
  have absent : ∀ place, (literalPattern word caseSensitive).program.node.matchAt text.toArray
      false place = none → ¬OccursAt (ruleFor caseSensitive) word text place := by
    intro place fails
    rw [← matchAt_literalPattern_isSome_iff, fails]
    exact Bool.false_ne_true
  induction scans with
  | done fails =>
      refine ⟨[], .done fun place behind occurs => ?_, rfl⟩
      have inside : place ≤ text.toArray.size := Nat.le_of_lt (occurs.inside nonempty)
      exact absent place (fails place behind inside) occurs
  | found behind matched leftmost _ ih =>
      have occurs := matchAt_literalPattern_isSome_iff.mp (Option.isSome_of_eq_some matched)
      have shape := eq_of_matchAt_literalPattern matched
      obtain ⟨places, rest, rfl⟩ := ih
      rw [congrArg Match.stop shape] at rest
      refine ⟨_, .found behind occurs (fun earlier after before => ?_) rest, ?_⟩
      · exact absent earlier (leftmost earlier after before)
      · rw [List.map_cons, ← shape]

/-- The spans of a literal pattern are the occurrences of its word that a scan reports. -/
theorem exists_occurrences_of_tokenSpans (nonempty : word ≠ []) (caseSensitive : Bool)
    (text : Text) (style : Style) (index : Nat) :
    ∃ places, Occurrences (ruleFor caseSensitive) text word 0 places ∧
      tokenSpans (literalPattern word caseSensitive) text style index
        = places.map fun place => ⟨place, ↑(place + word.length), style, index⟩ := by
  have letters : 0 < word.length := List.length_pos_of_ne_nil nonempty
  have consumes : ∀ place found, (literalPattern word caseSensitive).program.node.matchAt
      text.toArray false place = some found → found.start < found.stop := by
    intro place found matched
    rw [eq_of_matchAt_literalPattern matched]
    exact Nat.lt_add_of_pos_right letters
  obtain ⟨places, scan, all⟩ :=
    exists_occurrences_of_scans nonempty (scans_allMatches consumes)
  refine ⟨places, scan, tokenSpans_of_places letters ?_⟩
  rw [all, List.flatMap_map, List.map_eq_flatMap]
  rfl

end

/-- Every literal query compiles, and the spans that name a word of it are those of a plain scan of
the text for that word: the leftmost place at which the characters of the word correspond one by one
to those that stand there, up to its last character; then the leftmost such place behind that; and
so on until there is none. This leaves no choice, and an occurrence is passed over only if it
overlaps one that is highlighted. -/
theorem highlight_literal (query : Text) (caseSensitive tokenize : Bool) :
    ∃ tokens, TokenSet.compile query ⟨.literal, caseSensitive, tokenize⟩ = .ok tokens ∧
      ∀ index token, tokens.tokens[index]? = some token → ∀ (candidate : TextData) (style : Style),
        ∃ places, Occurrences (ruleFor caseSensitive) candidate.decoded token.value 0 places ∧
          (∀ others, Occurrences (ruleFor caseSensitive) candidate.decoded token.value 0 others →
            others = places) ∧
          ((tokens.highlight candidate.decoded style).filter fun span => span.token = index)
            = (places.map fun place => ⟨place, ↑(place + token.value.length), style, index⟩) ∧
          ∀ place, OccursAt (ruleFor caseSensitive) token.value candidate.decoded place →
            ∃ reported ∈ places, reported ≤ place ∧ place < reported + token.value.length := by
  obtain ⟨tokens, compiled, -⟩ := literal_accepts_iff query caseSensitive tokenize
  refine ⟨tokens, compiled, fun index token named candidate style => ?_⟩
  obtain ⟨piece, pattern⟩ := compile_of_mem_tokens compiled (List.mem_of_getElem? named)
  rw [compile_literalPattern] at pattern
  obtain ⟨places, scan, spans⟩ := exists_occurrences_of_tokenSpans (ne_nil_of_mem_pieceTexts piece)
    caseSensitive candidate.decoded style index
  rw [filter_highlight named, ← Except.ok.inj pattern]
  exact ⟨places, scan, fun others another => another.unique scan, spans,
    fun place => scan.complete (Nat.zero_le place)⟩

/-- Of occurrences that overlap, the leftmost one is highlighted. -/
example :
    (TokenSet.compile "aa".toList ⟨.literal, false, true⟩).map
        (fun tokens => (tokens.highlight "aAaaa".toList .standard).map
          fun span => (span.start, span.stop)) = .ok [(0, 2), (2, 4)] := by
  decide +kernel

end Winnow
