import Winnow.Files.Path
import Winnow.Text.Utf8
import Winnow.Text.Quoted
import Winnow.Number.Fixed

/-!
# Files

A snapshot of the files that a run may read. Relative paths begin at the working directory, whose
parents are directories of which nothing else is known.
-/

namespace Winnow

/-- What is found at a path. -/
inductive FileState
  | missing
  | throughFile
  | nameTooLong
  | directory (names : List Text)
  | file (bytes : List UInt8)
  deriving DecidableEq, Repr

/-- The files below the working directory by their parts, and the directories that are empty. -/
structure FileTree where
  files : List (Path × List UInt8)
  folders : List Path
  deriving Repr

namespace FileTree

/-- The paths of everything that is there. -/
def paths (tree : FileTree) : List Path := tree.files.map Prod.fst ++ tree.folders

/-- The part of a path right below a directory. -/
def nameBelow? (place path : Path) : Option Text :=
  if path.slashes = place.slashes && place.parts.isPrefixOf path.parts then
    (path.parts.drop place.parts.length).head?
  else none

/-- The names in a directory, each once. -/
def namesIn (tree : FileTree) (place : Path) : List Text :=
  (tree.paths.filterMap (nameBelow? place)).eraseDups

/-- What is found at a path without double dots. -/
def stateAt (tree : FileTree) (place : Path) : FileState :=
  match tree.files.lookup place with
  | some bytes => .file bytes
  | none =>
    let names := tree.namesIn place
    if names.isEmpty && !tree.folders.contains place && !place.parts.isEmpty then .missing
    else .directory names

/-- The longest name, in bytes. -/
def longestName : Nat := 255

/-- Follows the parts of a path from a directory. `above` counts how far the place lies above the
working directory. -/
def follow (tree : FileTree) (above : Nat) (place : Path) : List Text → FileState
  | [] => if 0 < above then .directory [] else tree.stateAt place
  | part :: rest =>
    match (if 0 < above then .directory [] else tree.stateAt place) with
    | .file _ => .throughFile
    | .directory _ =>
      if part = ['.', '.'] then
        if place.parts.isEmpty then
          tree.follow (if place.isAbsolute then 0 else above + 1) place rest
        else tree.follow above { place with parts := place.parts.dropLast } rest
      else if longestName < (Utf8.encode part).length then .nameTooLong
      else if 0 < above then .missing
      else tree.follow above (place.child part) rest
    | state => state

/-- What is found at a path. What is recorded under just this spelling is there; otherwise the parts
are followed one by one. -/
def state (tree : FileTree) (path : Path) : FileState :=
  match tree.files.lookup path with
  | some bytes => .file bytes
  | none =>
    if tree.folders.contains path then .directory (tree.namesIn path)
    else tree.follow 0 { path with parts := [] } path.parts

/-- The bytes of a file, if there is one. -/
def file? (tree : FileTree) (path : Path) : Option (List UInt8) :=
  match tree.state path with
  | .file bytes => some bytes
  | _ => none

/-- The names in a directory, if there is one. -/
def directory? (tree : FileTree) (path : Path) : Option (List Text) :=
  match tree.state path with
  | .directory names => some names
  | _ => none

end FileTree

/-- Why a file cannot be read. -/
inductive FileError
  | missing
  | throughFile
  | isDirectory
  | noTerminal
  | nameTooLong
  deriving DecidableEq, Repr

namespace FileError

/-- The number of an error. -/
def number : FileError → Nat
  | missing => 2
  | noTerminal => 6
  | throughFile => 20
  | isDirectory => 21
  | nameTooLong => 36

/-- The reason of an error. -/
def reason : FileError → String
  | missing => "No such file or directory"
  | noTerminal => "No such device or address"
  | throughFile => "Not a directory"
  | isDirectory => "Is a directory"
  | nameTooLong => "File name too long"

/-- The wording of an error at a path. -/
def message (path : Text) (problem : FileError) : String :=
  String.ofList ("[Errno ".toList ++ natText problem.number ++ "] ".toList
    ++ problem.reason.toList ++ ": ".toList ++ path.quoted)

end FileError

/-- Reads a file. -/
def FileTree.read (tree : FileTree) (path : Path) : Except FileError (List UInt8) :=
  match tree.state path with
  | .file bytes => .ok bytes
  | .missing => .error .missing
  | .throughFile => .error .throughFile
  | .nameTooLong => .error .nameTooLong
  | .directory _ => .error .isDirectory

end Winnow
