import Winnow.Yaml.Value

/-!
# Built-in settings

The mapping under all other layers.
-/

namespace Winnow.Builtin

open Yaml (Value Scalar Entries)

/-- A text as a value. -/
def text (value : String) : Value := .scalar (.text value.toList)

/-- A truth value as a value. -/
def truth (value : Bool) : Value := .scalar (.bool value)

/-- A mapping with texts as keys. -/
def mapping (entries : List (String × Value)) : Entries :=
  .ofList (entries.map fun (name, value) => (.text name.toList, value))

/-- A theme. -/
def theme (highlight selected : String) : Value :=
  .map (mapping [("highlight", text highlight), ("selected", text selected)])

/-- The built-in settings. -/
def settings : Entries :=
  mapping [
    ("color", truth true),
    ("matching", .map (mapping [
      ("method", text "normal"),
      ("case_sensitive", truth false),
      ("tokenize", truth true),
      ("sort", truth false),
      ("levenshtein_sort", truth false)])),
    ("themes", .map (mapping [
      ("default", theme "bold underline" "reverse"),
      ("solarized", theme "bold #b58900" "bg:#073642 #93a1a1"),
      ("mono", theme "underline" "reverse")])),
    ("templates", .map (mapping [
      ("terminal", text "x-terminal-emulator"),
      ("ssh_client", text "ssh"),
      ("run_command", text "\x7bcmd\x7d"),
      ("run_shell_command", text "\x7bterminal\x7d -e \x7bcmd\x7d")]))]

end Winnow.Builtin
