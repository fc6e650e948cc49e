import Winnow.Text.Basic

/-!
# Words of a shell command

A command line is split into words as a shell does it: blanks separate words, single quotes keep
everything, double quotes keep everything but escapes of themselves and of the backslash. Quoting is
the way back.
-/

namespace Winnow.ShellWords

/-- Why a command line cannot be split. -/
inductive SplitError
  | noClosingQuotation
  | noEscapedCharacter
  deriving DecidableEq, Repr

/-- The wording of an error. -/
def SplitError.message : SplitError → String
  | noClosingQuotation => "No closing quotation"
  | noEscapedCharacter => "No escaped character"

/-- Where the reader stands: in plain text, in quotes of one kind, or behind a backslash, inside
double quotes or not. -/
inductive Mode
  | plain
  | quote (mark : Char)
  | escape (inQuotes : Bool)
  deriving DecidableEq, Repr

/-- The characters between words. -/
def isSeparator (char : Char) : Bool :=
  char = ' ' || char = '\t' || char = '\r' || char = '\n'

/-- A word that has ended: nothing is no word unless it was quoted. -/
def finish (word : Text) (quoted : Bool) : List Text :=
  if word.isEmpty && !quoted then [] else [word.reverse]

/-- Splits the rest of a command line. `word` holds the characters of the word that has begun, last
one first, and `quoted` tells whether a part of it was quoted. -/
def splitFrom (mode : Mode) (word : Text) (quoted : Bool) : Text → Except SplitError (List Text)
  | [] =>
    match mode with
    | .plain => .ok (finish word quoted)
    | .quote _ => .error .noClosingQuotation
    | .escape _ => .error .noEscapedCharacter
  | char :: rest =>
    match mode with
    | .plain =>
      if isSeparator char then
        (splitFrom .plain [] false rest).map (finish word quoted ++ ·)
      else if char = '\'' || char = '"' then splitFrom (.quote char) word true rest
      else if char = '\\' then splitFrom (.escape false) word quoted rest
      else splitFrom .plain (char :: word) quoted rest
    | .quote mark =>
      if char = mark then splitFrom .plain word quoted rest
      else if char = '\\' && mark = '"' then splitFrom (.escape true) word quoted rest
      else splitFrom (.quote mark) (char :: word) quoted rest
    | .escape true =>
      let kept := if char = '\\' || char = '"' then word else '\\' :: word
      splitFrom (.quote '"') (char :: kept) quoted rest
    | .escape false => splitFrom .plain (char :: word) quoted rest

/-- Splits a command line into words. -/
def split (line : Text) : Except SplitError (List Text) := splitFrom .plain [] false line

/-- The characters that need no quotes. -/
def isSafe (char : Char) : Bool :=
  char.isAlphanum || "_@%+=:,./-".toList.contains char

/-- One character inside single quotes; a single quote is put into double quotes of its own. -/
def quoteChar (char : Char) : Text := if char = '\'' then "'\"'\"'".toList else [char]

/-- A word that is read back as it is. -/
def quote (word : Text) : Text :=
  if !word.isEmpty && word.all isSafe then word
  else '\'' :: word.flatMap quoteChar ++ ['\'']

/-- A command line that is split into the given words. -/
def join (words : List Text) : Text := Text.join [' '] (words.map quote)

end Winnow.ShellWords
