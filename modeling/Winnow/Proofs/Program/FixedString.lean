import Winnow.Program
import Winnow.Proofs.Candidates.Lines
import Winnow.Proofs.Engine.Filter
import Winnow.Proofs.Query.Literal

/-!
# Filtering for fixed strings

A literal query whose case counts accepts the texts that hold its words as they are
(`fixedStrings_accept_iff`). Unranked and unbounded filtering keeps the accepted
candidates in the order of the input (`Engine.filter_all`), and every line that is
printed is one candidate, since none holds a line feed (`splitOn_printed`). So a run
that asks for fixed strings prints the candidates that hold every word of the query:
`filter_prints_matching`.
-/

namespace Winnow

/-! ## Accepting fixed strings -/

/-- A text occurs in another one with its letter case if it is a part of it. -/
theorem occurs_exact_iff {piece text : Text} : Occurs .exact piece text ↔ piece <:+: text := by
  constructor
  · rintro ⟨before, found, after, rfl, stands⟩
    rw [Regex.CaseRule.forall₂_corresponds_exact.mp stands]
    exact List.infix_append before found after
  · rintro ⟨before, after, rfl⟩
    exact ⟨before, piece, after, rfl, Regex.CaseRule.forall₂_corresponds_exact.mpr rfl⟩

/-- A text holds words: every piece between the spaces of the words, joined by spaces, is a part
of it. -/
def HoldsWords (words : List Text) (text : Text) : Prop :=
  ∀ piece ∈ ([' '].intercalate words).splitOn ' ', piece ≠ [] → piece <:+: text

instance (words : List Text) (text : Text) : Decidable (HoldsWords words text) :=
  inferInstanceAs (Decidable (∀ piece ∈ _, _))

/-- The options that ask for fixed strings, cut at spaces. -/
def MatchOptions.fixedStrings : MatchOptions := ⟨.literal, true, true⟩

/-- Every query for fixed strings compiles, without anything to report, and it accepts the texts
that hold its words. -/
theorem fixedStrings_accept_iff (words : List Text) :
    ∃ tokens, TokenSet.compile (Text.join [' '] words) .fixedStrings = .ok tokens ∧
      Notice.ofQuery tokens = [] ∧
      ∀ text, tokens.accepts text = true ↔ HoldsWords words text := by
  have compiles : ∀ piece, piece ≠ [] → ∃ pattern,
      Pattern.compile piece MatchOptions.fixedStrings.method
          MatchOptions.fixedStrings.caseSensitive = .ok pattern ∧
        ∀ text, pattern.occursIn text = true ↔ Occurs .exact piece text :=
    fun piece _ => compile_literal piece true
  obtain ⟨tokens, compiled, accepts⟩ := compile_query (Text.join [' '] words) compiles
  refine ⟨tokens, compiled, ?_, fun text => ?_⟩
  · refine List.filterMap_eq_nil_iff.mpr fun token member => ?_
    have literal := (compile_literalPattern _ _).symm.trans (compile_of_mem_tokens compiled member).2
    rw [← Except.ok.inj literal]
    rfl
  · have pieces : pieceTexts .fixedStrings (Text.join [' '] words)
        = (([' '].intercalate words).splitOn ' ').filter fun piece => !piece.isEmpty :=
      map_snd_piecesFrom List.not_mem_nil
    rw [accepts, pieces, HoldsWords]
    simp only [List.mem_filter, Bool.not_eq_true', List.isEmpty_eq_false_iff, and_imp]
    exact forall₃_congr fun piece _ _ => occurs_exact_iff

/-! ## Filtering everything -/

namespace Engine

variable {engine : Engine}

/-- The entries hold the accepted texts in the order of the input. -/
theorem map_text_acceptedEntries (texts : List Text) :
    (engine.acceptedEntries texts texts.length).map Entry.text
      = texts.filter engine.tokens.accepts := by
  have each : ∀ placed : Text × Nat, (engine.accepted? placed).map Entry.text
      = if engine.tokens.accepts placed.1 then some placed.1 else none := by
    intro placed
    rw [accepted?]
    split <;> rfl
  rw [acceptedEntries, List.take_length, List.map_filterMap]
  simp only [each]
  rw [← List.filterMap_eq_filter, ← List.zipIdx_map_fst 0 texts, List.filterMap_map]
  simp [Option.guard]

/-- An unranked filter without bounds evaluates every candidate and keeps the order. -/
theorem filter_all (unranked : engine.isRanked = false) (texts : List Text) :
    engine.filter texts ⟨none, none⟩
      = .ok ⟨engine.acceptedEntries texts texts.length, texts.length, false⟩ := by
  have all : Budget.evaluated ⟨none, none⟩ texts.length = texts.length := rfl
  rw [filter, evaluateFrom_zero, all, unranked]
  simp

end Engine

/-! ## Printing -/

/-- Lines that can all be made are printed one after the other. -/
theorem Program.linesUntilError_eq {ε α : Type} {line : α → Except ε Text} {shown : α → Text}
    {items : List α} (made : ∀ item ∈ items, line item = .ok (shown item)) :
    linesUntilError line items = ((items.map shown).flatMap (· ++ ['\n']), none) := by
  induction items with
  | nil => rfl
  | cons item rest ih =>
      obtain ⟨here, later⟩ := List.forall_mem_cons.mp made
      rw [linesUntilError, here, ih later]
      simp

/-- The lines of what is printed are the printed texts, if none of them holds a line feed. -/
theorem splitOn_printed {texts : List Text} (free : ∀ text ∈ texts, '\n' ∉ text) :
    (texts.flatMap (· ++ ['\n'])).splitOn '\n' = texts ++ [[]] := by
  induction texts with
  | nil => rfl
  | cons text rest ih =>
      obtain ⟨here, later⟩ := List.forall_mem_cons.mp free
      rw [List.flatMap_cons, List.append_assoc, List.singleton_append,
        List.splitOn_append_cons_self_of_not_mem here, ih later, List.cons_append]

/-! ## The run -/

/-- A run asks for fixed strings: the query is literal and cut at spaces, case counts, nothing
bounds or ranks the result, and plain candidates are printed. -/
structure Program.FixedString (surroundings : Surroundings) (prepared : Prepared)
    (request : CommandLine.Request) : Prop where
  literal : prepared.settings.matching.method = .literal
  caseCounts : prepared.settings.matching.caseSensitive = true
  cut : prepared.settings.matching.tokenize = true
  unlimited : prepared.settings.limit = none
  untimed : prepared.settings.timeout = none
  unranked : prepared.settings.matching.levenshteinSort = false
  noTerminal : surroundings.outputIsTerminal = false
  noCommand : asked request.command = none

namespace Program.FixedString

variable {surroundings : Surroundings} {prepared : Prepared} {request : CommandLine.Request}

/-- The engine of such a run accepts the texts that hold the words of the query, does not rank
and has nothing to report. -/
theorem exists_engine (fixed : FixedString surroundings prepared request) :
    ∃ engine, prepared.settings.engine (queryOf request) = .ok engine ∧
      engine.isRanked = false ∧ Notice.ofQuery engine.tokens = [] ∧
      ∀ text, engine.tokens.accepts text = true ↔ HoldsWords request.query text := by
  have options : prepared.settings.matching.options = .fixedStrings := by
    rw [MatchingSettings.options, fixed.literal, fixed.caseCounts, fixed.cut]
    rfl
  obtain ⟨tokens, compiled, unreported, accepts⟩ := fixedStrings_accept_iff request.query
  refine ⟨⟨tokens, prepared.settings.matching.sort, false⟩, ?_, ?_, unreported, accepts⟩
  · rw [Settings.engine, Engine.ofQuery, options, fixed.unranked, queryOf, compiled]
    rfl
  · obtain ⟨all, -, rfl⟩ := map_eq_ok_iff.mp compiled
    simp [Engine.isRanked, Engine.ranksByAlignment, Engine.options, MatchOptions.fixedStrings]

/-- Whatever the candidates are, those that hold the words of the query are printed. -/
theorem filter_eq (fixed : FixedString surroundings prepared request) (candidates : List Text) :
    let found := candidates.filter fun text => HoldsWords request.query text
    Program.filter surroundings prepared request candidates
      = .ok (⟨if found.isEmpty then 1 else 0, found.flatMap (· ++ ['\n']), []⟩, []) := by
  intro found
  obtain ⟨engine, compiled, unranked, unreported, accepts⟩ := fixed.exists_engine
  have filtered : prepared.settings.filterBy engine candidates
      = .ok ⟨engine.acceptedEntries candidates candidates.length, candidates.length, false⟩ := by
    rw [Settings.filterBy, Settings.budget, fixed.unlimited, fixed.untimed,
      engine.filter_all unranked]
    rfl
  have texts : (engine.acceptedEntries candidates candidates.length).map Entry.text = found := by
    rw [Engine.map_text_acceptedEntries]
    refine List.filter_congr fun text _ => ?_
    rw [Bool.eq_iff_iff, accepts, decide_eq_true_eq]
  have plain : ∀ entry : Entry, lineFor prepared request engine none entry.text
      = .ok entry.text := by
    intro entry
    rw [lineFor, fixed.noCommand]
  have printed : linesUntilError
      (fun entry : Entry => lineFor prepared request engine none entry.text)
      (engine.acceptedEntries candidates candidates.length)
        = (found.flatMap (· ++ ['\n']), none) := by
    rw [← texts]
    exact linesUntilError_eq fun entry _ => plain entry
  have nothing : (engine.acceptedEntries candidates candidates.length).isEmpty
      = found.isEmpty := by
    rw [← texts, List.isEmpty_map]
  simp only [Program.filter, compiled, filtered, fixed.noTerminal, Bool.and_false, Except.mapError,
    bind, Except.bind, Bool.false_eq_true, if_false, printed, nothing, Notice.ofFiltering,
    unreported, pure, Except.pure, List.append_nil]

end Program.FixedString

/-- A run that asks for fixed strings prints exactly the candidates that hold every word of the
query, unchanged, each on a line of its own and in the order of the input. Its status tells
whether there is one, and nothing is reported. -/
theorem Program.filter_prints_matching {surroundings : Surroundings} {prepared : Prepared}
    {request : CommandLine.Request} (fixed : FixedString surroundings prepared request)
    (encoding : Encoding) (bytes : List UInt8) :
    let candidates := Candidates.read encoding bytes
    let found := candidates.filter fun text => HoldsWords request.query text
    let output := found.flatMap (· ++ ['\n'])
    Program.filter surroundings prepared request candidates
        = .ok (⟨if found.isEmpty then 1 else 0, output, []⟩, []) ∧
      output.splitOn '\n' = found ++ [[]] := by
  intro candidates found output
  refine ⟨fixed.filter_eq candidates, splitOn_printed fun text member => ?_⟩
  exact Candidates.lineFeed_notMem_read encoding bytes text (List.mem_of_mem_filter member)

/-- Of four lines, the second of which ends with a carriage return and the third of which holds a
malformed byte, two hold `a` and `b`, which are one word of the query with a space in it. -/
theorem Program.filter_prints_matching_spaced :
    let surroundings : Surroundings := {}
    let prepared : Prepared := ⟨{ matching := { caseSensitive := true } }, none⟩
    let request : CommandLine.Request := { query := [[], ['a', ' ', 'b']] }
    let bytes : List UInt8 :=
      [0x61, 0x62, 0x0A, 0x61, 0x0D, 0x0A, 0x62, 0xFF, 0x61, 0x0A, 0x41, 0x62]
    FixedString surroundings prepared request ∧
      Program.filter surroundings prepared request (Candidates.read .utf8 bytes)
        = .ok (⟨0, ['a', 'b', '\n', 'b', '\uFFFD', 'a', '\n'], []⟩, []) := by
  intro surroundings prepared request bytes
  have fixed : FixedString surroundings prepared request := ⟨rfl, rfl, rfl, rfl, rfl, rfl, rfl, rfl⟩
  have found : (Candidates.read .utf8 bytes).filter (fun text => HoldsWords request.query text)
      = [['a', 'b'], ['b', '\uFFFD', 'a']] := by
    decide +kernel
  have printed := (filter_prints_matching fixed .utf8 bytes).1
  rw [found] at printed
  exact ⟨fixed, printed⟩

end Winnow
