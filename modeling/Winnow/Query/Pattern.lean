import Winnow.Query.Options
import Winnow.Regex.Escape
import Winnow.Regex.Program

/-!
# Patterns of tokens

The text of a token becomes a regular expression by the matching method. Glob wildcards are found
in the escaped text, where every special character stands behind a backslash, so that an escape is
never read twice. A fuzzy pattern asks for the characters in order, each in a group of its own.
-/

namespace Winnow

/-- Replaces the escaped wildcards of an escaped text; the character behind a backslash is consumed
together with it. -/
def unescapeWildcards : Text → Text
  | '\\' :: '*' :: rest => '.' :: '*' :: unescapeWildcards rest
  | '\\' :: '?' :: rest => '.' :: unescapeWildcards rest
  | '\\' :: char :: rest => '\\' :: char :: unescapeWildcards rest
  | char :: rest => char :: unescapeWildcards rest
  | [] => []

/-- The regular expression of a glob: a star stands for any run of characters, a question mark for
any one character. -/
def globSource (text : Text) : Text := unescapeWildcards (Regex.escape text)

/-- The group that asks for one character of a fuzzy pattern. -/
def fuzzyGroup (char : Char) : Text := '(' :: Regex.escapeChar char ++ [')']

/-- The regular expression that accepts every text with the given characters in order. -/
def fuzzySource (text : Text) : Text := Text.join ['.', '*'] (text.map fuzzyGroup)

/-- A compiled token pattern. `rejected` tells why a regular expression is matched literally. -/
structure Pattern where
  source : Text
  program : Regex.Program
  rejected : Option Regex.Failure
  deriving DecidableEq, Repr

namespace Pattern

/-- Compiles the source of a regular expression in which a group may stand inside `room` others. -/
def ofSource (source : Text) (caseSensitive : Bool) (room : Nat := Regex.nestingRoom) :
    Except Regex.Failure Pattern :=
  (Regex.Program.ofSource source { ignoreCase := !caseSensitive } room).map fun program =>
    ⟨source, program, none⟩

/-- Whether letter case is ignored, by option or by a flag in the pattern. -/
def ignoresCase (pattern : Pattern) : Bool := pattern.program.flags.ignoreCase

/-- The number of groups. -/
def groups (pattern : Pattern) : Nat := pattern.program.groups

/-- Compiles the text of a token. A malformed regular expression is matched literally. -/
def compile (text : Text) (method : Method) (caseSensitive : Bool)
    (room : Nat := Regex.nestingRoom) : Except Regex.Failure Pattern :=
  match method with
  | .literal => ofSource (Regex.escape text) caseSensitive room
  | .glob => ofSource (globSource text) caseSensitive room
  | .fuzzy => ofSource (fuzzySource text) caseSensitive room
  | .regex =>
    match ofSource text caseSensitive room with
    | .error (.malformed defect position) =>
      (ofSource (Regex.escape text) caseSensitive room).map fun pattern =>
        { pattern with rejected := some (.malformed defect position) }
    | result => result

/-- Whether a pattern matches somewhere in a text. -/
def occursIn (pattern : Pattern) (text : Text) : Bool :=
  (pattern.program.node.search text.toArray).isSome

end Pattern

end Winnow
