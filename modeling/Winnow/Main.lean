import Winnow.Program

/-!
# The command

Gathers what surrounds a run, and carries out what the run says. Keys are not read, so picking a
candidate interactively is cancelled.
-/

namespace Winnow.Main

/-- The bytes of a file, if it can be read. -/
def readFile? (path : String) : IO (Option (List UInt8)) := do
  try
    let bytes ← IO.FS.readBinFile path
    pure (some bytes.toList)
  catch _ => pure none

/-- The names in a directory, if it can be read. -/
def readNames? (path : String) : IO (Option (List String)) := do
  try
    let folder ← IO.FS.realPath path
    let entries ← folder.readDir
    pure (some (entries.toList.map fun entry => entry.fileName))
  catch _ => pure none

/-- What is found at a path, with the files of a directory. -/
def snapshot (path : Path) : IO FileTree := do
  let place := String.ofList path.text
  match ← readNames? place with
  | none =>
    match ← readFile? place with
    | some bytes => pure ⟨[(path, bytes)], []⟩
    | none => pure ⟨[], []⟩
  | some names =>
    let files ← names.filterMapM fun name => do
      let bytes ← readFile? (place ++ "/" ++ name)
      pure (bytes.map fun bytes => (path.child name.toList, bytes))
    pure ⟨files, [path]⟩

/-- Several snapshots as one. -/
def gather (paths : List Path) : IO FileTree := do
  let trees ← paths.mapM snapshot
  pure ⟨trees.flatMap FileTree.files, trees.flatMap FileTree.folders⟩

/-- The first of several variables that is set and not empty. -/
def firstVariable (names : List String) : IO String := do
  let values ← names.filterMapM fun name => (IO.getEnv name : IO (Option String))
  pure ((values.find? fun value => !value.isEmpty).getD "")

/-- Everything that can be read from a stream. -/
partial def readAll (stream : IO.FS.Stream) (read : ByteArray) : IO ByteArray := do
  let chunk ← stream.read 65536
  if chunk.isEmpty then pure read else readAll stream (read ++ chunk)

/-- What surrounds a run for a request. -/
def surroundingsOf (request : CommandLine.Request) : IO Surroundings := do
  let directory ← IO.getEnv "FILTER_CONFIG_DIR"
  let home ← IO.getEnv "HOME"
  let locale ← firstVariable ["LC_ALL", "LC_COLLATE", "LANG"]
  let input ← IO.getStdin
  let output ← IO.getStdout
  let surroundings : Surroundings := {
    settingsDirectory := directory.map String.toList
    home := (home.getD "").toList
    locale := locale.toList
    inputIsTerminal := ← input.isTty
    outputIsTerminal := ← output.isTty }
  let source := Program.sourceOf surroundings request
  let files ← gather ([source.main, source.dropIns] ++ request.input.toList)
  let bytes ← if request.input.isSome then pure ByteArray.empty else readAll input ByteArray.empty
  pure { surroundings with files, input := some bytes.toList }

/-- The wording of a failure. -/
def failureMessage : Failure → String
  | .settings problem => problem.message
  | .filter problem => problem.message
  | .nullInPath => "embedded null byte"

end Winnow.Main

/-- Runs the program. -/
def main (arguments : List String) : IO UInt32 := do
  let texts := arguments.map String.toList
  let surroundings ←
    match Winnow.CommandLine.Request.ofArguments texts with
    | .ok request => Winnow.Main.surroundingsOf request
    | .error _ => pure {}
  match Winnow.Program.run surroundings texts with
  | .error problem =>
    IO.eprintln (Winnow.Main.failureMessage problem)
    pure 1
  | .ok outcome =>
    IO.print (String.ofList outcome.output)
    IO.eprint (String.ofList outcome.report)
    pure outcome.status.toUInt32
