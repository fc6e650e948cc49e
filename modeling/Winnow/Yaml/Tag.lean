import Winnow.Regex.Program

/-!
# Tags

A tag says what kind of value a node is. A plain scalar without a tag gets one by its notation.
-/

namespace Winnow.Yaml

/-- The kinds of values that documents know. -/
inductive Tag
  | str
  | seq
  | map
  | null
  | bool
  | int
  | float
  | timestamp
  | binary
  | set
  | omap
  | pairs
  | merge
  | value
  | unknown
  deriving DecidableEq, Repr

namespace Tag

/-- What the names of all tags begin with. -/
def base : Text := "tag:yaml.org,2002:".toList

/-- The tags by the rest of their names. -/
def names : List (String × Tag) := [
  ("str", str), ("seq", seq), ("map", map), ("null", null), ("bool", bool), ("int", int),
  ("float", float), ("timestamp", timestamp), ("binary", binary), ("set", set), ("omap", omap),
  ("pairs", pairs), ("merge", merge), ("value", value)]

/-- The tag with a name. -/
def ofName (name : Text) : Tag :=
  if name.take base.length = base then
    (names.lookup (String.ofList (name.drop base.length))).getD unknown
  else unknown

end Tag

namespace Spelling

/-- The words for truth values, in lower case. -/
def truthWords : List (String × Bool) := [
  ("yes", true), ("no", false), ("true", true), ("false", false), ("on", true), ("off", false)]

/-- A word in lower case, in capitals, or with a capital first letter. -/
def spellings (word : String) : List Text :=
  let letters := word.toList
  let capitals := letters.map Char.toUpper
  [letters, capitals, capitals.take 1 ++ letters.drop 1]

/-- Whether a text is a truth value. -/
def isTruth (text : Text) : Bool :=
  truthWords.any fun (word, _) => (spellings word).contains text

/-- Whether a text is null. -/
def isNull (text : Text) : Bool :=
  text.isEmpty || text = ['~'] || (spellings "null").contains text

/-- Whether a text is an infinite number or no number. -/
def isSpecialReal (text : Text) : Bool :=
  let unsigned :=
    match text with
    | '+' :: rest => rest
    | '-' :: rest => rest
    | rest => rest
  match unsigned with
  | '.' :: word =>
    (spellings "inf").contains word
      || (unsigned = text && ["nan".toList, "NaN".toList, "NAN".toList].contains word)
  | _ => false

/-- The notations of integers: binary, octal, decimal, hexadecimal, and to the base of sixty. -/
def integerSource : String :=
  "[-+]?0b[0-1_]+|[-+]?0[0-7_]+|[-+]?(?:0|[1-9][0-9_]*)|[-+]?0x[0-9a-fA-F_]+"
    ++ "|[-+]?[1-9][0-9_]*(?::[0-5]?[0-9])+"

/-- The notations of finite real numbers: decimal and to the base of sixty. -/
def realSource : String :=
  "[-+]?(?:[0-9][0-9_]*)\\.[0-9_]*(?:[eE][-+][0-9]+)?|\\.[0-9][0-9_]*(?:[eE][-+][0-9]+)?"
    ++ "|[-+]?[0-9][0-9_]*(?::[0-5]?[0-9])+\\.[0-9_]*"

/-- The notation of a date. -/
def dateSource : String := "[0-9][0-9][0-9][0-9]-[0-9][0-9]-[0-9][0-9]"

/-- The notation of a date with or without a time of day; the groups are year, month, day, hour,
minute, second, fraction, zone, sign, hours and minutes. -/
def timestampSource : String :=
  "([0-9][0-9][0-9][0-9])-([0-9][0-9]?)-([0-9][0-9]?)(?:(?:[Tt]|[ \\t]+)([0-9][0-9]?)"
    ++ ":([0-9][0-9]):([0-9][0-9])(?:\\.([0-9]*))?"
    ++ "(?:[ \\t]*(Z|([-+])([0-9][0-9]?)(?::([0-9][0-9]))?))?)?"

/-- A notation as a program. -/
def program? (source : String) : Option Regex.Program :=
  (Regex.Program.ofSource source.toList .none).toOption

/-- The program for integers. -/
def integerProgram? : Option Regex.Program := program? integerSource

/-- The program for finite real numbers. -/
def realProgram? : Option Regex.Program := program? realSource

/-- The program for dates. -/
def dateProgram? : Option Regex.Program := program? dateSource

/-- The program for dates with or without a time of day. -/
def timestampProgram? : Option Regex.Program := program? timestampSource

/-- The match of a notation with a whole text. -/
def match? (program? : Option Regex.Program) (text : Text) : Option Regex.Match :=
  program?.bind fun program => program.matchWhole? text

/-- Whether a text has a notation. -/
def holds (program? : Option Regex.Program) (text : Text) : Bool := (match? program? text).isSome

/-- Whether a text is a date, or a date with a time of day. A date alone has two digits for the
month and for the day. -/
def isTimestamp (text : Text) : Bool :=
  holds dateProgram? text || (text.any (· = ':') && holds timestampProgram? text)

/-- The tag of a plain scalar. -/
def tagOf (text : Text) : Tag :=
  if isNull text then .null
  else if isTruth text then .bool
  else if holds realProgram? text || isSpecialReal text then .float
  else if holds integerProgram? text then .int
  else if text = ['<', '<'] then .merge
  else if isTimestamp text then .timestamp
  else if text = ['='] then .value
  else .str

end Spelling

end Winnow.Yaml
