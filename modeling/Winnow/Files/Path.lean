import Winnow.Text.Basic

/-!
# Paths

A path is its leading slashes and its parts. Empty parts and single dots mean nothing and are
dropped; double dots are kept. Two leading slashes differ from one, three or more do not.
-/

namespace Winnow

/-- A path: how many leading slashes it has, at most two, and its parts. -/
structure Path where
  slashes : Nat
  parts : List Text
  deriving DecidableEq, Repr

namespace Path

/-- The parts of a path that mean something. -/
def partsOf (text : Text) : List Text :=
  (Text.piecesFrom (· = '/') [] text).filter (· ≠ ['.'])

/-- The number of leading slashes that counts. -/
def leadingSlashes : Text → Nat
  | '/' :: '/' :: '/' :: _ => 1
  | '/' :: '/' :: _ => 2
  | '/' :: _ => 1
  | _ => 0

/-- Reads a path. -/
def ofText (text : Text) : Path := ⟨leadingSlashes text, partsOf text⟩

/-- Writes a path; the empty one is a dot. -/
def text (path : Path) : Text :=
  if path.slashes = 0 && path.parts.isEmpty then ['.']
  else List.replicate path.slashes '/' ++ Text.join ['/'] path.parts

/-- Whether a path begins at the root. -/
def isAbsolute (path : Path) : Bool := path.slashes ≠ 0

/-- A path inside a directory. -/
def child (path : Path) (name : Text) : Path := { path with parts := path.parts ++ [name] }

/-- The ending of a name from its last dot on. A dot at the very beginning or at the very end begins
no ending. -/
def suffixOf (name : Text) : Text :=
  let ending := name.reverse.takeWhile (· ≠ '.')
  if ending.isEmpty || name.length ≤ ending.length + 1 then [] else '.' :: ending.reverse

end Path

end Winnow
