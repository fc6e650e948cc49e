import Winnow.Number.Numeral
import Winnow.Text.Quoted

/-!
# What can be wrong with a pattern

Every defect is a cause with the data that its message shows. A malformed pattern is told apart
from the failures that no reader of patterns recovers from: numbers that are too large or too long
for what they are read into, contradictory flags, and groups nested deeper than there is room for.
-/

namespace Winnow.Regex

/-- A defect of a pattern. -/
inductive Defect
  | danglingBackslash
  | incompleteEscape (escape : Text)
  | badEscape (escape : Text)
  | octalTooLarge (escape : Text)
  | missingBrace
  | missingName (kind : String)
  | unterminatedName (terminator : Char)
  | undefinedCharacter (name : Text)
  | openGroup
  | groupInLookbehind
  | invalidReference (group : Nat)
  | unterminatedSet
  | badRange (low high : Text)
  | countsReversed
  | nothingToRepeat
  | multipleRepeat
  | unexpectedEnd
  | badGroupName (name : Text)
  | unknownGroupName (name : Text)
  | badGroupNumber
  | repeatedGroupName (name : Text) (group earlier : Nat)
  | unknownExtension (extension : Text)
  | unterminatedComment
  | unterminatedGroup
  | unbalancedParenthesis
  | tooManyBranches
  | lateGlobalFlags
  | unknownFlag
  | missingFlag (expected : String)
  | localeFlag
  | conflictingClassFlags
  | globalFlagOn
  | globalFlagOff
  | classFlagOff
  | flagOnAndOff
  | variableLookbehind
  | distantLookbehind
  | templateRepetition (operator : String)
  | tooDeep
  deriving DecidableEq, Repr

/-- A text in front of a formatted value. -/
def labelled (label : String) (value : Text) : String := label ++ String.ofList value

/-- The wording of a defect. -/
def Defect.message : Defect → String
  | danglingBackslash => "bad escape (end of pattern)"
  | incompleteEscape escape => labelled "incomplete escape " escape
  | badEscape escape => labelled "bad escape " escape
  | octalTooLarge escape =>
    labelled "octal escape value " (escape ++ " outside of range 0-0o377".toList)
  | missingBrace => "missing \x7b"
  | missingName kind => "missing " ++ kind
  | unterminatedName terminator =>
    labelled "missing " (terminator :: ", unterminated name".toList)
  | undefinedCharacter name => labelled "undefined character name " name.quoted
  | openGroup => "cannot refer to an open group"
  | groupInLookbehind => "cannot refer to group defined in the same lookbehind subpattern"
  | invalidReference group => labelled "invalid group reference " (natText group)
  | unterminatedSet => "unterminated character set"
  | badRange low high => labelled "bad character range " (low ++ '-' :: high)
  | countsReversed => "min repeat greater than max repeat"
  | nothingToRepeat => "nothing to repeat"
  | multipleRepeat => "multiple repeat"
  | unexpectedEnd => "unexpected end of pattern"
  | badGroupName name => labelled "bad character in group name " name.quoted
  | unknownGroupName name => labelled "unknown group name " name.quoted
  | badGroupNumber => "bad group number"
  | repeatedGroupName name group earlier =>
    labelled "redefinition of group name "
      (name.quoted ++ " as group ".toList ++ natText group ++ "; was group ".toList
        ++ natText earlier)
  | unknownExtension extension => labelled "unknown extension " extension
  | unterminatedComment => "missing ), unterminated comment"
  | unterminatedGroup => "missing ), unterminated subpattern"
  | unbalancedParenthesis => "unbalanced parenthesis"
  | tooManyBranches => "conditional backref with more than two branches"
  | lateGlobalFlags => "global flags not at the start of the expression"
  | unknownFlag => "unknown flag"
  | missingFlag expected => "missing " ++ expected
  | localeFlag => "bad inline flags: cannot use 'L' flag with a str pattern"
  | conflictingClassFlags => "bad inline flags: flags 'a', 'u' and 'L' are incompatible"
  | globalFlagOn => "bad inline flags: cannot turn on global flag"
  | globalFlagOff => "bad inline flags: cannot turn off global flag"
  | classFlagOff => "bad inline flags: cannot turn off flags 'a', 'u' and 'L'"
  | flagOnAndOff => "bad inline flags: flag turned on and off"
  | variableLookbehind => "look-behind requires fixed-width pattern"
  | distantLookbehind => "looks too much behind"
  | templateRepetition operator => "internal: unsupported template operator " ++ operator
  | tooDeep => "pattern nested too deeply"

/-- Why a pattern cannot be compiled. -/
inductive Failure
  | malformed (defect : Defect) (position : Option Nat)
  | repetitionTooLarge
  | contradictoryFlags
  | characterTooLarge
  | numeralTooLong (digits : Nat)
  | nestedTooDeeply
  deriving DecidableEq, Repr

/-- The number of the line that holds an offset, counted from one. -/
def lineNumber (pattern : Text) (offset : Nat) : Nat := (pattern.take offset).count '\n' + 1

/-- The distance of an offset from the last line feed before it, or from before the pattern. -/
def columnNumber (pattern : Text) (offset : Nat) : Nat :=
  ((pattern.take offset).reverse.takeWhile (· ≠ '\n')).length + 1

/-- The wording of a failure for the pattern that it belongs to. A position is also told as line and
column if the pattern has several lines. -/
def Failure.message (pattern : Text) : Failure → String
  | malformed defect none => defect.message
  | malformed defect (some position) =>
    let located := labelled (defect.message ++ " at position ") (natText position)
    if pattern.contains '\n' then
      labelled (located ++ " (line ")
        (natText (lineNumber pattern position) ++ ", column ".toList
          ++ natText (columnNumber pattern position) ++ [')'])
    else located
  | repetitionTooLarge => "the repetition number is too large"
  | contradictoryFlags => "ASCII and UNICODE flags are incompatible"
  | characterTooLarge => "Python int too large to convert to C int"
  | numeralTooLong digits => Numeral.tooLongMessage digits
  | nestedTooDeeply => "maximum recursion depth exceeded"

end Winnow.Regex
