import Winnow.Settings.Basic
import Winnow.Settings.Field

/-!
# Settings from documents

A document gives settings section by section. Fields that are absent keep their defaults and fields
that nobody knows are passed over. All problems are collected in the order of the fields, but only
those of the first theme that has any.
-/

namespace Winnow

open Yaml (Value Scalar Entries)

/-- What is read from a section, or every problem with it. -/
abbrev Reading (α : Type) := Except (List Problem) α

namespace Reading

/-- Applies what is read to something else that is read; problems add up. -/
def apply {α β : Type} (function : Reading (α → β)) (argument : Reading α) : Reading β :=
  match function, argument with
  | .ok function, .ok argument => .ok (function argument)
  | .error first, .error second => .error (first ++ second)
  | .error first, .ok _ => .error first
  | .ok _, .error second => .error second

/-- What is read inside a section. -/
def inside {α : Type} (name : String) (reading : Reading α) : Reading α :=
  reading.mapError fun problems => problems.map (Problem.inside name)

/-- Reads one value; a misfit is the only problem. -/
def ofMisfit {α : Type} (name : String) (read : Except Misfit α) : Reading α :=
  read.mapError fun misfit => [⟨[name], misfit⟩]

/-- Reads a field that has a default. -/
def field {α : Type} (entries : Entries) (name : String) (read : Field.Reader α) (default : α) :
    Reading α :=
  match entries.getText? name with
  | none => .ok default
  | some value => ofMisfit name (read value)

/-- Reads a section that has a default; it has to be a mapping. -/
def nested {α : Type} (entries : Entries) (name kind : String) (read : Entries → Reading α)
    (default : α) : Reading α :=
  match entries.getText? name with
  | none => .ok default
  | some (.map inner) => inside name (read inner)
  | some _ => .error [⟨[name], .noSection kind⟩]

end Reading

/-- Reads a matching method. -/
def Field.method : Field.Reader Method := fun value =>
  match value with
  | .scalar (.text name) =>
    match Method.ofName? name with
    | some method => .ok method
    | none => .error (.rejected (Method.unknownMessage name))
  | value => .error (.rejected ("matching method must be a string, got " ++ value.typeName))

/-- Reads the text of a style. -/
def Field.styleText : Field.Reader Text := fun value =>
  match Field.text value with
  | .error misfit => .error misfit
  | .ok spec =>
    match Style.parse spec with
    | .ok _ => .ok spec
    | .error problem => .error (.rejected problem.message)

namespace MatchingSettings

/-- The name of this section in reports. -/
def kind : String := "MatchingConfig"

/-- Reads the section on matching. -/
def ofEntries (entries : Entries) : Reading MatchingSettings :=
  let method := Reading.field entries "method" Field.method .literal
  let caseSensitive := Reading.field entries "case_sensitive" Field.truth false
  let tokenize := Reading.field entries "tokenize" Field.truth true
  let sort := Reading.field entries "sort" Field.truth false
  let levenshteinSort := Reading.field entries "levenshtein_sort" Field.truth false
  (((((Reading.apply (.ok mk) method).apply caseSensitive).apply tokenize).apply sort).apply
    levenshteinSort)

end MatchingSettings

namespace CommandSettings

/-- The name of this section in reports. -/
def kind : String := "TemplateConfig"

/-- Reads the section on commands. -/
def ofEntries (entries : Entries) : Reading CommandSettings :=
  let standard : CommandSettings := {}
  let terminal := Reading.field entries "terminal" Field.text standard.terminal
  let sshClient := Reading.field entries "ssh_client" Field.text standard.sshClient
  let runCommand := Reading.field entries "run_command" Field.text standard.runCommand
  let runShellCommand :=
    Reading.field entries "run_shell_command" Field.text standard.runShellCommand
  ((((Reading.apply (.ok mk) terminal).apply sshClient).apply runCommand).apply runShellCommand)

end CommandSettings

/-- Why a document gives no settings. A key that is no text, or that a theme may not have, is not
reported as a problem of a field. -/
inductive SettingsError
  | invalid (kind : String) (problems : List Problem)
  | foreignKey
  deriving DecidableEq, Repr

/-- Whether every key is a text. -/
def allTextKeys (entries : Entries) : Bool :=
  entries.toList.all fun (key, _) =>
    match key with
    | .text _ => true
    | _ => false

namespace Theme

/-- Reads a theme with the name under which it stands. -/
def ofEntries (name : Scalar) (entries : Entries) : Reading Theme :=
  let standard := Theme.standard
  let name := Reading.ofMisfit "name" (Field.text (.scalar name))
  let highlight := Reading.field entries "highlight" Field.styleText standard.highlight
  let selected := Reading.field entries "selected" Field.text standard.selected
  (((Reading.apply (.ok mk) name).apply highlight).apply selected)

/-- The entries of a theme that is written as the text of its style. -/
def shorthand (spec : Text) : Entries :=
  Entries.ofList [(.text "highlight".toList, .scalar (.text spec))]

/-- The key of a theme while themes are read: its name in lower case, and whether the name is given
as bytes. -/
structure Key where
  isBytes : Bool
  text : Text
  deriving DecidableEq, Repr

/-- The key of a theme with the name under which it stands. -/
def keyOf (theme : Theme) (name : Scalar) : Key :=
  match name with
  | .text text => ⟨false, text.lower⟩
  | _ => ⟨true, theme.name.map Char.toLower⟩

/-- Whether a theme has a key that it may not have. -/
def hasForeignKey (entries : Entries) : Bool :=
  !allTextKeys entries || (entries.getText? "name").isSome

/-- The entries of a theme; a value of another kind is no theme. -/
def entriesOf? : Value → Option Entries
  | .map entries => some entries
  | .scalar (.text spec) => some (shorthand spec)
  | _ => none

end Theme

/-- Writes a value under a key, in the place of an earlier one. -/
def putByKey {κ α : Type} [DecidableEq κ] (key : κ) (value : α) : List (κ × α) → List (κ × α)
  | [] => [(key, value)]
  | (other, old) :: rest =>
    if other = key then (key, value) :: rest else (other, old) :: putByKey key value rest

/-- Reads themes one after the other onto those that are read already; a later one takes the place
of an earlier one with the same key. -/
def readThemes (read : List (Theme.Key × Theme)) :
    List (Scalar × Value) → Except SettingsError (List (Theme.Key × Theme))
  | [] => .ok read
  | (name, value) :: rest =>
    match Theme.entriesOf? value with
    | none => readThemes read rest
    | some entries =>
      if Theme.hasForeignKey entries then .error .foreignKey
      else
        match Theme.ofEntries name entries with
        | .error problems => .error (.invalid "Theme" problems)
        | .ok theme => readThemes (putByKey (theme.keyOf name) theme read) rest

/-- Joins themes that are read with those that have a text for a key; from then on bytes and texts
are the same key. -/
def joinThemes (joined : List (Text × Theme)) : List (Theme.Key × Theme) → List (Text × Theme)
  | [] => joined
  | (key, theme) :: rest => joinThemes (putByKey key.text theme joined) rest

/-- Reads the section on themes; null means that there are none. -/
def themesOf : Value → Except SettingsError (List (Text × Theme))
  | .scalar .null => .ok []
  | .map entries => (readThemes [] entries.toList).map (joinThemes [])
  | value =>
    .error (.invalid "Theme" [⟨[], .rejected ("themes must be a mapping, got " ++ value.typeName)⟩])

namespace Settings

/-- The name of the whole in reports. -/
def kind : String := "Config"

/-- Reads the section on themes; the outer error is a foreign key. -/
def themesReading (entries : Entries) : Except SettingsError (Reading (List (Text × Theme))) :=
  match entries.getText? "themes" with
  | none => .ok (.ok [])
  | some value =>
    match themesOf value with
    | .ok themes => .ok (.ok themes)
    | .error (.invalid _ problems) => .ok (Reading.inside "themes" (.error problems))
    | .error .foreignKey => .error .foreignKey

/-- Reads settings from a mapping. -/
def ofEntries (entries : Entries) : Except SettingsError Settings :=
  if !allTextKeys entries then .error .foreignKey
  else
    match themesReading entries with
    | .error problem => .error problem
    | .ok themes =>
      let matching :=
        Reading.nested entries "matching" MatchingSettings.kind MatchingSettings.ofEntries {}
      let commands :=
        Reading.nested entries "templates" CommandSettings.kind CommandSettings.ofEntries {}
      let color := Reading.field entries "color" Field.truth true
      let limit := Reading.field entries "limit" (Field.optional Field.count) none
      let timeout := Reading.field entries "timeout" (Field.optional Field.seconds) none
      let settings : Reading Settings :=
        ((((((Reading.apply (.ok mk) matching).apply themes).apply commands).apply color).apply
          limit).apply timeout)
      settings.mapError (.invalid kind)

end Settings

end Winnow
