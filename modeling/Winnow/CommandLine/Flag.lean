import Winnow.Text.Basic

/-!
# Flags

A flag is an argument that begins with a dash. Every flag has one or two spellings, and some take
an operand. A spelling with two dashes may be cut short where only one flag remains possible, and
flags of one letter may share a dash.
-/

namespace Winnow.CommandLine

/-- The flags. -/
inductive Flag
  | help
  | config
  | configDir
  | matching
  | caseSensitive
  | ignoreCase
  | noTokenize
  | sort
  | levenshteinSort
  | theme
  | highlight
  | input
  | encoding
  | limit
  | timeout
  | command
  | noColor
  | interactive
  | verbose
  | version
  deriving DecidableEq, Repr

namespace Flag

/-- All flags in the order in which they are listed. -/
def all : List Flag := [
  help, config, configDir, matching, caseSensitive, ignoreCase, noTokenize, sort, levenshteinSort,
  theme, highlight, input, encoding, limit, timeout, command, noColor, interactive, verbose,
  version]

/-- The spellings of a flag in the order in which they are listed. -/
def spellings : Flag → List String
  | help => ["-h", "--help"]
  | config => ["--config", "-c"]
  | configDir => ["--config-dir"]
  | matching => ["--matching", "-m"]
  | caseSensitive => ["--case-sensitive", "-s"]
  | ignoreCase => ["--ignore-case", "-i"]
  | noTokenize => ["--no-tokenize"]
  | sort => ["--sort"]
  | levenshteinSort => ["--levenshtein-sort"]
  | theme => ["--theme", "-t"]
  | highlight => ["--highlight"]
  | input => ["--input"]
  | encoding => ["--encoding"]
  | limit => ["--limit"]
  | timeout => ["--timeout"]
  | command => ["--command"]
  | noColor => ["--no-color"]
  | interactive => ["--interactive", "-I"]
  | verbose => ["--verbose", "-v"]
  | version => ["--version", "-V"]

/-- Whether a flag takes an operand. -/
def takesOperand : Flag → Bool
  | config | configDir | matching | theme | highlight | input | encoding | limit | timeout => true
  | command => true
  | _ => false

/-- A flag in messages: all its spellings. -/
def title (flag : Flag) : Text := Text.join ['/'] (flag.spellings.map String.toList)

/-- All spellings with their flags. -/
def table : List (Text × Flag) :=
  all.flatMap fun flag => flag.spellings.map fun spelling => (spelling.toList, flag)

/-- The flag with exactly this spelling. -/
def ofSpelling? (spelling : Text) : Option Flag := table.lookup spelling

/-- A text cut at its first equality sign. -/
def splitOperand (text : Text) : Text × Option Text :=
  let spelling := text.takeWhile (· ≠ '=')
  match text.dropWhile (· ≠ '=') with
  | '=' :: operand => (spelling, some operand)
  | _ => (spelling, none)

end Flag

/-- An argument by its form. A flag may have an operand within the same argument, and the argument
itself is kept for messages. -/
inductive Argument
  | word (text : Text)
  | separator
  | flag (flag : Flag) (isShort : Bool) (operand : Option Text)
  | unknownFlag (text : Text)
  deriving DecidableEq, Repr

/-- The spellings that a cut short argument may stand for. -/
abbrev Ambiguity := List Text

namespace Argument

/-- Whether an argument writes a negative number. -/
def isNegativeNumber (text : Text) : Bool :=
  let isDigit (char : Char) : Bool := Unicode.isDecimal char.toNat
  let digits := if text.getLast? = some '\n' then text.dropLast else text
  match digits with
  | '-' :: digits =>
    match digits.dropWhile isDigit with
    | [] => !digits.isEmpty
    | '.' :: fraction => !fraction.isEmpty && fraction.all isDigit
    | _ => false
  | _ => false

/-- An argument that begins with a dash and is no spelling of a flag: a word if it writes a negative
number or holds a space. -/
def unmatched (text : Text) : Argument :=
  if isNegativeNumber text || text.contains ' ' then word text else unknownFlag text

/-- An argument that begins with a single dash: a flag of one letter with more behind it. -/
def ofShort (text : Text) : Argument :=
  match Flag.ofSpelling? (text.take 2) with
  | some found => flag found true (some (text.drop 2))
  | none => unmatched text

/-- An argument that begins with two dashes: a spelling cut short. -/
def ofLong (text : Text) : Except Ambiguity Argument :=
  let (spelling, operand) := Flag.splitOperand text
  match Flag.table.filter fun entry => spelling.isPrefixOf entry.1 with
  | [] => .ok (unmatched text)
  | [(_, found)] => .ok (flag found false operand)
  | several => .error (several.map Prod.fst)

/-- Whether a spelling has a single dash. -/
def isShort (spelling : Text) : Bool := spelling[1]? ≠ some '-'

/-- The form of an argument. -/
def ofText (text : Text) : Except Ambiguity Argument :=
  if text.head? ≠ some '-' then .ok (word text)
  else
    match Flag.ofSpelling? text with
    | some found => .ok (flag found (isShort text) none)
    | none =>
      if text = ['-'] then .ok (word text)
      else
        let (spelling, operand) := Flag.splitOperand text
        match Flag.ofSpelling? spelling, operand with
        | some found, some operand => .ok (flag found (isShort spelling) (some operand))
        | _, _ => if isShort text then .ok (ofShort text) else ofLong text

end Argument

end Winnow.CommandLine
