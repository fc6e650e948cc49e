import Winnow.Engine
import Winnow.Settings.Basic
import Winnow.Picker.QueryLine
import Winnow.Number.Fixed

/-!
# The picker

Picking a candidate by typing a query. Whenever the text of the query changes, the candidates are
filtered afresh and the first entry is selected; moving the selection goes around at both ends.
-/

namespace Winnow

/-- Why candidates cannot be filtered. -/
inductive FilterError
  | pattern (failure : Regex.Failure)
  | collation (problem : Ranking.CollationError)
  deriving DecidableEq, Repr

/-- The wording of an error. -/
def FilterError.message : FilterError → String
  | pattern failure => failure.message []
  | collation problem => problem.message

namespace Settings

/-- The engine for a query. -/
def engine (settings : Settings) (query : Text) : Except FilterError Engine :=
  (Engine.ofQuery query settings.matching.options settings.matching.sort
    settings.matching.levenshteinSort).mapError .pattern

/-- What bounds an evaluation. -/
def budget (settings : Settings) : Budget := ⟨settings.limit, settings.timeout⟩

/-- Filters candidates by an engine. -/
def filterBy (settings : Settings) (engine : Engine) (candidates : List Text) :
    Except FilterError FilterResult :=
  (engine.filter candidates settings.budget).mapError .collation

end Settings

/-- The state of picking a candidate. -/
structure Picker where
  candidates : List Text
  settings : Settings
  theme : Theme
  highlight : Style
  maxRows : Int
  line : QueryLine
  selected : Nat
  engine : Engine
  result : FilterResult
  deriving DecidableEq, Repr

/-- A state that a step leads to, with what went wrong in the step. -/
abbrev Picker.Step := Picker × Option FilterError

namespace Picker

/-- The text of the query. -/
def query (picker : Picker) : Text := picker.line.text

/-- Starts picking. -/
def start (candidates : List Text) (settings : Settings) (theme : Theme) (highlight : Style)
    (maxRows : Int) (query : Text) : Except FilterError Picker := do
  let engine ← settings.engine query
  let result ← settings.filterBy engine candidates
  pure ⟨candidates, settings, theme, highlight, maxRows, .ofText query, 0, engine, result⟩

/-- Filters the candidates by the query and selects the first entry. -/
def refresh (picker : Picker) : Step :=
  match picker.settings.engine picker.query with
  | .error problem => (picker, some problem)
  | .ok engine =>
    match picker.settings.filterBy engine picker.candidates with
    | .error problem => ({ picker with engine }, some problem)
    | .ok result => ({ picker with engine, result, selected := 0 }, none)

/-- Sets the line of the query; only another text makes a difference to the result. -/
def setLine (picker : Picker) (line : QueryLine) : Step :=
  let changed := { picker with line }
  if line.text = picker.query then (changed, none) else changed.refresh

/-- Sets the text of the query. -/
def setText (picker : Picker) (text : Text) : Step := picker.setLine (picker.line.replace text)

/-- Adds candidates, which count from the next evaluation on. -/
def addCandidates (picker : Picker) (candidates : List Text) : Picker :=
  { picker with candidates := picker.candidates ++ candidates }

/-- Moves the selection. -/
def move (picker : Picker) (delta : Int) : Picker :=
  let count := picker.result.entries.length
  { picker with
    selected := if count = 0 then 0 else (((picker.selected : Int) + delta) % (count : Int)).toNat }

/-- The selected candidate. -/
def current (picker : Picker) : Option Text :=
  (picker.result.entries[picker.selected]?).map Entry.text

/-- The number of the first row that is visible: as small as possible with the selection still
visible. -/
def firstRow (picker : Picker) : Nat := ((picker.selected : Int) - picker.maxRows + 1).toNat

/-- The visible entries with the numbers of their rows. -/
def visible (picker : Picker) : List (Nat × Entry) :=
  let rows := (List.range picker.result.entries.length).zip picker.result.entries
  (rows.drop picker.firstRow).take picker.maxRows.toNat

/-- The style of a row. -/
def rowStyle (picker : Picker) (row : Nat) : Text :=
  if row = picker.selected then "class:selected".toList else []

/-- The end of a row. -/
def rowEnd : Text × Text := ([], ['\n'])

/-- One row as styled text. -/
def rowFragments (picker : Picker) (row : Nat) (entry : Entry) : List (Text × Text) :=
  styleCandidate entry.text (picker.engine.highlight entry.text picker.highlight)
      (picker.rowStyle row)
    ++ [rowEnd]

/-- How many candidates were found, and whether all were looked at. -/
def status (picker : Picker) : Text :=
  natText picker.result.entries.length ++ '/' :: natText picker.candidates.length
    ++ (if picker.result.truncated then " (truncated)".toList else [])

/-- The visible rows and the status as styled text. -/
def fragments (picker : Picker) : List (Text × Text) :=
  picker.visible.flatMap (fun (row, entry) => picker.rowFragments row entry)
    ++ [("class:status".toList, picker.status)]

end Picker

end Winnow
