import Winnow.Picker.Keys
import Winnow.Proofs.Query.Pieces
import Mathlib.Data.List.Infix

/-!
# The selection over a whole run

Whatever is done to a picker, one step edits the line of the query and then either
filters afresh, because the text is another one, or moves the selection
(`Picker.act`). `Picker.Settled` is what every step preserves: the result is that
of a fresh filter for the text of the line, and the selection is where the moves
since the text last changed lead, going around at both ends. `perform_selected` says
so after every step of every run.
-/

namespace Winnow

/-! ## Actions -/

/-- What can be done to a picker: setting the text of the query, pressing a key that does not end
the picker, and moving the selection. -/
inductive Picker.Action
  | setText (text : Text)
  | press (key : Key)
  | move (delta : Int)
  deriving DecidableEq, Repr

namespace Picker.Action

/-- What an action does to the line of the query. -/
def edited (line : QueryLine) : Action → QueryLine
  | .setText text => line.replace text
  | .press key => editedBy line key
  | .move _ => line

/-- How far an action moves the selection. -/
def delta : Action → Int
  | .press .previous => -1
  | .press .next => 1
  | .move delta => delta
  | _ => 0

/-- The line of the query behind actions. -/
def lineAfter (line : QueryLine) (actions : List Action) : QueryLine := actions.foldl edited line

/-- How far the selection was moved since the text of the query last changed, on top of `moved`
before the actions. -/
def movedAfter (line : QueryLine) (moved : Int) : List Action → Int
  | [] => moved
  | action :: rest =>
    let next := action.edited line
    movedAfter next (if next.text = line.text then moved + action.delta else 0) rest

end Picker.Action

theorem QueryLine.text_ofText (text : Text) : (QueryLine.ofText text).text = text := by
  rw [QueryLine.text, ofText, List.reverse_reverse, List.append_nil]

/-! ## Filtering afresh -/

/-- Filtering candidates afresh for a query: the engine that it compiles into, and the result. -/
structure Settings.FiltersTo (settings : Settings) (candidates : List Text) (query : Text)
    (engine : Engine) (result : FilterResult) : Prop where
  compiled : Engine.ofQuery query settings.matching.options settings.matching.sort
    settings.matching.levenshteinSort = .ok engine
  filtered : engine.filter candidates ⟨settings.limit, settings.timeout⟩ = .ok result

/-- A query compiles, and ranking meets no texts that cannot be compared. -/
def Settings.CanFilter (settings : Settings) (candidates : List Text) (query : Text) : Prop :=
  ∃ engine result, settings.FiltersTo candidates query engine result

section

variable {settings : Settings} {candidates : List Text} {query : Text} {engine : Engine}
  {result : FilterResult}

/-- Whether candidates can be filtered is found out by filtering them. -/
theorem Settings.canFilter_iff : settings.CanFilter candidates query ↔
    (Engine.ofQuery query settings.matching.options settings.matching.sort
        settings.matching.levenshteinSort).map
      (fun engine => (engine.filter candidates ⟨settings.limit, settings.timeout⟩).isOk)
        = .ok true := by
  rw [map_eq_ok_iff]
  constructor
  · rintro ⟨engine, result, fresh⟩
    exact ⟨engine, fresh.compiled, by rw [fresh.filtered]; rfl⟩
  · rintro ⟨engine, compiled, succeeds⟩
    cases filtered : engine.filter candidates ⟨settings.limit, settings.timeout⟩ with
    | error problem =>
        rw [filtered] at succeeds
        cases succeeds
    | ok result => exact ⟨engine, result, compiled, filtered⟩

instance : Decidable (settings.CanFilter candidates query) :=
  decidable_of_iff _ Settings.canFilter_iff.symm

theorem Settings.FiltersTo.engine_eq (fresh : settings.FiltersTo candidates query engine result) :
    settings.engine query = .ok engine := by
  rw [Settings.engine, fresh.compiled]
  rfl

theorem Settings.FiltersTo.filterBy_eq
    (fresh : settings.FiltersTo candidates query engine result) :
    settings.filterBy engine candidates = .ok result := by
  rw [Settings.filterBy, Settings.budget, fresh.filtered]
  rfl

end

/-! ## One step -/

namespace Picker

/-- Carries out an action. -/
def act (picker : Picker) : Action → Step
  | .setText text => picker.setText text
  | .press key => picker.press key
  | .move delta => (picker.move delta, none)

/-- Carries out actions one after the other; a failure ends the run. -/
def perform (picker : Picker) : List Action → Except FilterError Picker
  | [] => .ok picker
  | action :: rest =>
    match picker.act action with
    | (_, some problem) => .error problem
    | (next, none) => next.perform rest

/-- What holds of a picker between two steps. `moved` is how far the selection was moved since the
text last changed. -/
structure Settled (candidates : List Text) (settings : Settings) (moved : Int)
    (picker : Picker) : Prop where
  candidates_eq : picker.candidates = candidates
  settings_eq : picker.settings = settings
  fresh : settings.FiltersTo candidates picker.query picker.engine picker.result
  selected_eq : (picker.selected : Int)
    = if picker.result.entries.length = 0 then 0 else moved % picker.result.entries.length

variable {candidates : List Text} {settings : Settings} {moved : Int} {picker : Picker}

/-- Filtering afresh selects the first entry. -/
theorem refresh_settled (candidates_eq : picker.candidates = candidates)
    (settings_eq : picker.settings = settings)
    (works : settings.CanFilter candidates picker.query) :
    ∃ next, picker.refresh = (next, none) ∧ next.line = picker.line ∧
      Settled candidates settings 0 next := by
  obtain ⟨engine, result, fresh⟩ := works
  refine ⟨{ picker with engine, result, selected := 0 }, ?_, rfl,
    ⟨candidates_eq, settings_eq, fresh, by simp⟩⟩
  rw [refresh, settings_eq, fresh.engine_eq]
  dsimp only
  rw [candidates_eq, fresh.filterBy_eq]

namespace Settled

/-- Another line of the query keeps the selection if its text is the same, and filters afresh
if not. -/
theorem setLine (settled : Settled candidates settings moved picker) (line : QueryLine)
    (works : settings.CanFilter candidates line.text) :
    ∃ next, picker.setLine line = (next, none) ∧ next.line = line ∧
      Settled candidates settings (if line.text = picker.query then moved else 0) next := by
  rw [Picker.setLine]
  split
  · next same =>
      have fresh := settled.fresh
      rw [← same] at fresh
      exact ⟨{ picker with line }, rfl, rfl, settled.candidates_eq, settled.settings_eq, fresh,
        settled.selected_eq⟩
  · exact refresh_settled settled.candidates_eq settled.settings_eq works

/-- Moves of the selection add up. -/
theorem move (settled : Settled candidates settings moved picker) (delta : Int) :
    Settled candidates settings (moved + delta) (picker.move delta) := by
  refine ⟨settled.candidates_eq, settled.settings_eq, settled.fresh, ?_⟩
  have before := settled.selected_eq
  rw [Picker.move]
  dsimp only
  split
  · rfl
  · next some =>
      have nonzero : (picker.result.entries.length : Int) ≠ 0 := Int.natCast_ne_zero.mpr some
      rw [if_neg some] at before
      rw [Int.toNat_of_nonneg (Int.emod_nonneg _ nonzero), before, Int.emod_add_emod]

/-- One step: the line is edited, and the moves add up unless the text is another one. -/
theorem act (settled : Settled candidates settings moved picker) (action : Action)
    (works : settings.CanFilter candidates (action.edited picker.line).text) :
    ∃ next, picker.act action = (next, none) ∧ next.line = action.edited picker.line ∧
      Settled candidates settings
        (if (action.edited picker.line).text = picker.line.text then moved + action.delta else 0)
        next := by
  have edits : ∀ line, settings.CanFilter candidates line.text →
      ∃ next, picker.setLine line = (next, none) ∧ next.line = line ∧
        Settled candidates settings (if line.text = picker.line.text then moved + 0 else 0)
          next := by
    intro line works
    rw [Int.add_zero]
    exact settled.setLine line works
  have moves : ∀ delta, ∃ next, (picker.move delta, none) = (next, (none : Option FilterError)) ∧
      next.line = picker.line ∧
        Settled candidates settings
          (if picker.line.text = picker.line.text then moved + delta else 0) next := by
    intro delta
    rw [if_pos rfl]
    exact ⟨_, rfl, rfl, settled.move delta⟩
  cases action with
  | setText text => exact edits _ works
  | move delta => exact moves delta
  | press key =>
      cases key with
      | previous => exact moves (-1)
      | next => exact moves 1
      | _ => exact edits _ works

/-- A whole run: the line is edited by all actions, and what counts is the moves since its text
last changed. -/
theorem perform (settled : Settled candidates settings moved picker) (actions : List Action)
    (works : ∀ before, before <+: actions →
      settings.CanFilter candidates (Action.lineAfter picker.line before).text) :
    ∃ last, picker.perform actions = .ok last ∧
      last.line = Action.lineAfter picker.line actions ∧
      Settled candidates settings (Action.movedAfter picker.line moved actions) last := by
  induction actions generalizing picker moved with
  | nil => exact ⟨picker, rfl, rfl, settled⟩
  | cons action rest ih =>
      have first := works [action] (List.cons_prefix_cons.mpr ⟨rfl, List.nil_prefix⟩)
      obtain ⟨next, stepped, line, nextSettled⟩ := settled.act action first
      have later : ∀ before, before <+: rest →
          settings.CanFilter candidates (Action.lineAfter next.line before).text := by
        intro before begins
        rw [line]
        exact works (action :: before) (List.cons_prefix_cons.mpr ⟨rfl, begins⟩)
      obtain ⟨last, performed, lastLine, lastSettled⟩ := ih nextSettled later
      rw [line] at lastLine lastSettled
      refine ⟨last, ?_, lastLine, lastSettled⟩
      rw [Picker.perform, stepped]
      exact performed

/-- Without entries nothing is selected. -/
theorem current_of_empty (settled : Settled candidates settings moved picker)
    (empty : picker.result.entries = []) : picker.selected = 0 ∧ picker.current = none := by
  have selected := settled.selected_eq
  rw [empty, if_pos List.length_nil] at selected
  refine ⟨Int.natCast_eq_zero.mp selected, ?_⟩
  rw [current, empty]
  rfl

/-- With entries one of them is selected. -/
theorem current_of_some (settled : Settled candidates settings moved picker)
    (some : picker.result.entries ≠ []) :
    (picker.selected : Int) = moved % picker.result.entries.length ∧
      ∃ inside : picker.selected < picker.result.entries.length,
        picker.current = Option.some picker.result.entries[picker.selected].text := by
  have selected := settled.selected_eq
  have count := List.length_pos_iff.mpr some
  rw [if_neg (Nat.ne_of_gt count)] at selected
  have inside : picker.selected < picker.result.entries.length := by
    have below := Int.emod_lt_of_pos moved (Int.natCast_pos.mpr count)
    omega
  refine ⟨selected, inside, ?_⟩
  rw [current, List.getElem?_eq_getElem inside]
  rfl

end Settled

/-- A picker is settled when it starts. -/
theorem start_settled {query : Text} (theme : Theme) (highlight : Style) (maxRows : Int)
    (works : settings.CanFilter candidates query) :
    ∃ first, start candidates settings theme highlight maxRows query = .ok first ∧
      first.line = .ofText query ∧ Settled candidates settings 0 first := by
  obtain ⟨engine, result, fresh⟩ := works
  refine ⟨⟨candidates, settings, theme, highlight, maxRows, .ofText query, 0, engine, result⟩,
    ?_, rfl, rfl, rfl, ?_, by simp⟩
  · rw [start, fresh.engine_eq]
    dsimp only [bind, Except.bind]
    rw [fresh.filterBy_eq]
    rfl
  · rw [Picker.query, QueryLine.text_ofText]
    exact fresh

/-- The picker over a whole run in which every query compiles and can be ranked. The start and
every step succeed, and behind each step the text is that of the edited line, the result is that
of filtering afresh for it, and the selection is where the moves since the last change of the
text lead, going around in the entries; without entries nothing is selected. -/
theorem perform_selected (candidates : List Text) (settings : Settings) (theme : Theme)
    (highlight : Style) (maxRows : Int) (query : Text) (actions : List Action)
    (works : ∀ before, before <+: actions →
      settings.CanFilter candidates (Action.lineAfter (.ofText query) before).text) :
    ∃ first, start candidates settings theme highlight maxRows query = .ok first ∧
      ∀ before, before <+: actions →
        ∃ picker, first.perform before = .ok picker ∧
          picker.query = (Action.lineAfter (.ofText query) before).text ∧
          settings.FiltersTo candidates picker.query picker.engine picker.result ∧
          (picker.result.entries = [] → picker.selected = 0 ∧ picker.current = none) ∧
          (picker.result.entries ≠ [] →
            (picker.selected : Int)
                = Action.movedAfter (.ofText query) 0 before % picker.result.entries.length ∧
              ∃ inside : picker.selected < picker.result.entries.length,
                picker.current = some picker.result.entries[picker.selected].text) := by
  have startWorks := works [] List.nil_prefix
  rw [Action.lineAfter, List.foldl_nil, QueryLine.text_ofText] at startWorks
  obtain ⟨first, started, line, settled⟩ := start_settled theme highlight maxRows startWorks
  refine ⟨first, started, fun before begins => ?_⟩
  rw [← line] at works
  obtain ⟨picker, performed, pickerLine, pickerSettled⟩ :=
    settled.perform before fun earlier part => works earlier (part.trans begins)
  rw [line] at pickerLine pickerSettled
  exact ⟨picker, performed, congrArg QueryLine.text pickerLine, pickerSettled.fresh,
    pickerSettled.current_of_empty, pickerSettled.current_of_some⟩

/-- Settings under which candidates are ranked by how a fuzzy query is aligned with them. -/
def rankingSettings : Settings := { matching := { method := .fuzzy, sort := true } }

/-- A move on the unfiltered candidates, a key that changes the text, and moves behind it with
the same text set once more between them. -/
def wanderingActions : List Action :=
  [.move (-1), .press (.char 'b'), .move 5, .setText ['b'], .press .previous]

/-- Only the moves behind the last change of the text count. -/
theorem perform_selected_wandering :
    (∀ before, before <+: wanderingActions →
      rankingSettings.CanFilter [['a', 'b'], ['b'], ['c'], ['x', 'b']]
        (Action.lineAfter (.ofText []) before).text) ∧
      ∃ first picker,
        start [['a', 'b'], ['b'], ['c'], ['x', 'b']] rankingSettings .standard .standard 15 []
          = .ok first ∧
        first.perform wanderingActions = .ok picker ∧ picker.query = ['b'] ∧
        rankingSettings.FiltersTo [['a', 'b'], ['b'], ['c'], ['x', 'b']] ['b'] picker.engine
          picker.result ∧
        (picker.result.entries ≠ [] →
          (picker.selected : Int) = 4 % picker.result.entries.length) := by
  have works : ∀ before, before <+: wanderingActions →
      rankingSettings.CanFilter [['a', 'b'], ['b'], ['c'], ['x', 'b']]
        (Action.lineAfter (.ofText []) before).text := by
    intro before begins
    have all : ∀ before ∈ wanderingActions.inits,
        rankingSettings.CanFilter [['a', 'b'], ['b'], ['c'], ['x', 'b']]
          (Action.lineAfter (.ofText []) before).text := by
      decide +kernel
    exact all before ((List.mem_inits _ _).mpr begins)
  obtain ⟨first, started, runs⟩ := perform_selected [['a', 'b'], ['b'], ['c'], ['x', 'b']]
    rankingSettings .standard .standard 15 [] wanderingActions works
  obtain ⟨picker, performed, query, fresh, -, selected⟩ := runs wanderingActions List.prefix_rfl
  rw [show picker.query = ['b'] from query] at fresh
  exact ⟨works, first, picker, started, performed, query, fresh, fun some => (selected some).1⟩

end Picker

end Winnow
