import Winnow.Picker.Basic

/-!
# Keys

Keys edit the query, move the selection, and end the picker with the selected candidate or without
one.
-/

namespace Winnow

/-- A key that the picker knows. -/
inductive Key
  | char (char : Char)
  | backspace
  | delete
  | left
  | right
  | toStart
  | toEnd
  | previous
  | next
  | accept
  | cancel
  deriving DecidableEq, Repr

namespace Key

/-- The names of the keys that are no characters. -/
def names : List (String × Key) := [
  ("up", previous), ("c-p", previous), ("down", next), ("c-n", next), ("enter", accept),
  ("escape", cancel), ("c-c", cancel), ("backspace", backspace), ("delete", delete),
  ("left", left), ("right", right), ("home", toStart), ("end", toEnd)]

/-- The key with a name; a character is its own name. -/
def ofName? (name : Text) : Option Key :=
  match name with
  | [only] => some (char only)
  | name => names.lookup (String.ofList name)

end Key

namespace Picker

/-- What a key does to the line of the query. -/
def editedBy (line : QueryLine) : Key → QueryLine
  | .char char => line.insert char
  | .backspace => line.deleteBefore
  | .delete => line.deleteAfter
  | .left => line.left
  | .right => line.right
  | .toStart => line.toStart
  | .toEnd => line.toEnd
  | _ => line

/-- Presses a key that does not end the picker. -/
def press (picker : Picker) : Key → Step
  | .previous => (picker.move (-1), none)
  | .next => (picker.move 1, none)
  | key => picker.setLine (editedBy picker.line key)

/-- The state when the picker ends, the chosen candidate, and every state on the way in which the
candidates were filtered again. -/
structure Run where
  picker : Picker
  chosen : Option Text
  refreshed : List Picker
  deriving DecidableEq, Repr

/-- Presses keys until one ends the picker. A picker that runs out of keys is cancelled. -/
def run (picker : Picker) : List Key → Except FilterError Run
  | [] => .ok ⟨picker, none, []⟩
  | key :: rest =>
    if key = .accept then .ok ⟨picker, picker.current, []⟩
    else if key = .cancel then .ok ⟨picker, none, []⟩
    else
      match picker.press key with
      | (_, some problem) => .error problem
      | (next, none) =>
        match next.run rest with
        | .error problem => .error problem
        | .ok run =>
          if next.query = picker.query then .ok run
          else .ok { run with refreshed := next :: run.refreshed }

end Picker

end Winnow
