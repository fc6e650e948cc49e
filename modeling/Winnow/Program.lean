import Winnow.CommandLine.Overrides
import Winnow.Settings.Layer
import Winnow.Picker.Keys
import Winnow.Notice

/-!
# The program

A run reads its arguments, the settings and the candidates, and prints the candidates that the query
accepts, or the one that is picked. All that it may read is given as a value, so a run is a
function.
-/

namespace Winnow

open CommandLine (Request)

/-- What surrounds a run. Reading the standard input may be interrupted, and then there are no
bytes. -/
structure Surroundings where
  files : FileTree := ⟨[], []⟩
  settingsDirectory : Option Text := none
  home : Text := []
  locale : Text := []
  input : Option (List UInt8) := some []
  inputIsTerminal : Bool := false
  outputIsTerminal : Bool := false
  keys : List Key := []

/-- What a run leaves behind. -/
structure Outcome where
  status : Nat
  output : Text
  report : Text
  deriving DecidableEq, Repr

/-- Why a run ends without an exit status. -/
inductive Failure
  | settings (problem : LoadError)
  | filter (problem : FilterError)
  | nullInPath
  deriving DecidableEq, Repr

namespace Program

/-- Whether a locale is known: the plain one under its two names, also with UTF-8 however that is
spelled. -/
def knowsLocale (name : Text) : Bool :=
  let isPlain (name : Text) : Bool := name = ['C'] || name = "POSIX".toList
  match name with
  | 'C' :: '.' :: codeset => (codeset.filter Char.isAlphanum).map Char.toLower = "utf8".toList
  | name => name.isEmpty || isPlain name

/-- Notices as lines; details only if they are asked for. -/
def reportOf (request : Request) (notices : List Notice) : Text :=
  (notices.filter fun notice => request.verbose || !notice.isDetail).flatMap Notice.line

/-- The line that tells why there are no settings. -/
def settingsReport (reason : String) : Text :=
  "Error loading configuration: ".toList ++ reason.toList ++ ['\n']

/-- The line that tells why a run goes no further. -/
def errorReport (reason : String) : Text := "Error: ".toList ++ reason.toList ++ ['\n']

/-- What is asked for on the command line, unless it is empty. -/
def asked (text : Option Text) : Option Text := text.filter fun text => !text.isEmpty

/-- Where the settings of a request are loaded from. -/
def sourceOf (surroundings : Surroundings) (request : Request) : SettingsSource :=
  let usual :=
    SettingsSource.inside
      (SettingsSource.directory surroundings.settingsDirectory surroundings.home)
  ⟨request.config.getD usual.main, request.configDir.getD usual.dropIns⟩

/-- Why the settings of a run are refused. -/
inductive Refusal
  | loading (problem : LoadError)
  | override (problem : OverrideError)
  | style (problem : Style.ParseError)
  deriving DecidableEq, Repr

/-- The wording of a refusal. -/
def Refusal.message : Refusal → String
  | loading problem => problem.report
  | override problem => problem.message
  | style problem => problem.message

/-- The settings of a run with the style that the command line asks for. -/
structure Prepared where
  settings : Settings
  style : Option Style
  deriving DecidableEq, Repr

/-- Puts a request before loaded settings. -/
def prepareLoaded (settings : Settings) (request : Request) : Except Refusal Prepared :=
  match settings.override request with
  | .error problem => .error (.override problem)
  | .ok settings =>
    match asked request.highlight with
    | none => .ok ⟨settings, none⟩
    | some spec =>
      match Style.parse spec with
      | .error problem => .error (.style problem)
      | .ok style => .ok ⟨settings, some style⟩

/-- Loads the settings of a run. An error that is not of a kind to be reported ends the run without
an exit status. -/
def prepare (surroundings : Surroundings) (request : Request) :
    Except Failure (Except Refusal Prepared) :=
  match (sourceOf surroundings request).load surroundings.files with
  | .error problem =>
    if problem.isReported then .ok (.error (.loading problem)) else .error (.settings problem)
  | .ok settings => .ok (prepareLoaded settings request)

/-- The style of matched text: the one on the command line, or that of the theme. -/
def styleOf (prepared : Prepared) (request : Request) : Style :=
  match prepared.style, (prepared.settings.theme request.theme).style with
  | some style, _ => style
  | none, .ok style => style
  | none, .error _ => .plain

/-- The line for a candidate that was accepted: the command for it if there is a template, else the
candidate, with its matches highlighted where a style is given. -/
def lineFor (prepared : Prepared) (request : Request) (engine : Engine) (style : Option Style)
    (candidate : Text) : Except (Text × Template.BuildError) Text :=
  match asked request.command with
  | some template =>
    let replacements :=
      prepared.settings.commands.replacements [("cmd".toList, candidate)]
    ((Template.build template replacements).map ShellWords.join).mapError fun problem =>
      (template, problem)
  | none =>
    match style with
    | none => .ok candidate
    | some style => .ok (renderTerminal candidate (engine.highlight candidate style))

/-- The lines up to the first that cannot be made, and why that is so. -/
def linesUntilError {ε α : Type} (line : α → Except ε Text) : List α → Text × Option ε
  | [] => ([], none)
  | item :: rest =>
    match line item with
    | .error problem => ([], some problem)
    | .ok text =>
      let (lines, problem) := linesUntilError line rest
      (text ++ '\n' :: lines, problem)

/-- The query of a request: its words joined by spaces. -/
def queryOf (request : Request) : Text := Text.join [' '] request.query

/-- Prints every accepted candidate. -/
def filter (surroundings : Surroundings) (prepared : Prepared) (request : Request)
    (candidates : List Text) : Except Failure (Outcome × List Notice) := do
  let engine ← (prepared.settings.engine (queryOf request)).mapError .filter
  let result ← (prepared.settings.filterBy engine candidates).mapError .filter
  let style :=
    if prepared.settings.color && surroundings.outputIsTerminal then
      some (styleOf prepared request)
    else none
  let (output, problem) :=
    linesUntilError (fun entry : Entry => lineFor prepared request engine style entry.text)
      result.entries
  let notices := Notice.ofFiltering engine result
  match problem with
  | some (template, problem) =>
    pure (⟨2, output, errorReport (problem.message template)⟩, notices)
  | none =>
    let truncated :=
      if result.truncated then [Notice.truncated result.evaluated candidates.length] else []
    pure (⟨if result.entries.isEmpty then 1 else 0, output, []⟩, notices ++ truncated)

/-- The number of rows that the picker shows. -/
def pickerRows : Int := 15

/-- What is reported for the states in which a picker filtered its candidates. -/
def pickerNotices (pickers : List Picker) : List Notice :=
  pickers.flatMap fun picker => Notice.ofFiltering picker.engine picker.result

/-- Prints the candidate that is picked. -/
def pick (surroundings : Surroundings) (prepared : Prepared) (request : Request)
    (candidates : List Text) : Except Failure (Outcome × List Notice) := do
  let highlight := if prepared.settings.color then styleOf prepared request else .plain
  let theme := prepared.settings.theme request.theme
  let picker ←
    (Picker.start candidates prepared.settings theme highlight pickerRows
      (queryOf request)).mapError .filter
  if !surroundings.inputIsTerminal then
    let reason := FileError.message "/dev/tty".toList .noTerminal
    pure (⟨1, [], errorReport reason⟩, pickerNotices [picker])
  else
    let run ← (picker.run surroundings.keys).mapError .filter
    let notices := pickerNotices [picker] ++ .waitingForKeys :: pickerNotices run.refreshed
    match run.chosen with
    | none => pure (⟨1, [], []⟩, notices)
    | some candidate =>
      match lineFor prepared request run.picker.engine none candidate with
      | .ok line => pure (⟨0, line ++ ['\n'], []⟩, notices)
      | .error (template, problem) =>
        pure (⟨2, [], errorReport (problem.message template)⟩, notices)

/-- The bytes of the candidates, or the outcome of a run that cannot have them. -/
def inputOf (surroundings : Surroundings) (request : Request) :
    Except Failure (Except Outcome (List UInt8)) :=
  match request.input with
  | some path =>
    if path.text.contains '\x00' then .error .nullInPath
    else
      match surroundings.files.read path with
      | .ok bytes => .ok (.ok bytes)
      | .error problem => .ok (.error ⟨1, [], errorReport (problem.message path.text)⟩)
  | none =>
    match surroundings.input with
    | some bytes => .ok (.ok bytes)
    | none => .ok (.error ⟨130, [], []⟩)

/-- Reads the candidates and filters them or lets one be picked. -/
def runPrepared (surroundings : Surroundings) (prepared : Prepared) (request : Request) :
    Except Failure (Outcome × List Notice) := do
  match ← inputOf surroundings request with
  | .error outcome => pure (outcome, [])
  | .ok bytes =>
    let candidates := Candidates.read request.encoding bytes
    if request.interactive then pick surroundings prepared request candidates
    else filter surroundings prepared request candidates

/-- What is reported before anything else: an unknown locale and the files that settings are loaded
from. -/
def openingNotices (surroundings : Surroundings) (request : Request) : List Notice :=
  (if knowsLocale surroundings.locale then [] else [.unknownLocale])
    ++ ((sourceOf surroundings request).visited surroundings.files).map .loading

/-- A run for a request. -/
def runRequest (surroundings : Surroundings) (request : Request) : Except Failure Outcome := do
  let opening := openingNotices surroundings request
  match ← prepare surroundings request with
  | .error refusal =>
    pure ⟨2, [], reportOf request opening ++ settingsReport refusal.message⟩
  | .ok prepared =>
    let (outcome, notices) ← runPrepared surroundings prepared request
    pure { outcome with report := reportOf request (opening ++ notices) ++ outcome.report }

/-- A run with the given arguments. -/
def run (surroundings : Surroundings) (arguments : List Text) : Except Failure Outcome :=
  match Request.ofArguments arguments with
  | .error stop => .ok ⟨stop.status, stop.output, stop.report⟩
  | .ok request => runRequest surroundings request

end Program

end Winnow
