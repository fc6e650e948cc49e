import Winnow.Number.Numeral
import Winnow.Text.Quoted

/-!
# What can be wrong with a document

All defects of the notation are one cause. The others come from scalars whose notation is right but
which have no value, such as a thirteenth month, and from collections that nest too deep. Two
things have no value here because values are trees and texts consist of characters: a collection
with an alias for itself, and half of a surrogate pair.
-/

namespace Winnow.Yaml

/-- Why a date or a time does not exist. -/
inductive DateDefect
  | year
  | month
  | day
  | hour
  | minute
  | second
  | offset (minutes : Int)
  deriving DecidableEq, Repr

/-- Why a document has no value. -/
inductive LoadError
  | malformed
  | characterRange
  | characterOverflow
  | badInteger (base : Nat) (text : Text)
  | numeralTooLong (digits : Nat)
  | emptyNumeral
  | badReal (text : Text)
  | weightTooLarge
  | badDate (defect : DateDefect)
  | badTruth (text : Text)
  | badTimestamp
  | mappedTimestamp
  | nestedTooDeeply
  | containsItself
  | loneSurrogate
  deriving DecidableEq, Repr

/-- A number of minutes as days and seconds, parts that are zero being left out. -/
def durationText (minutes : Int) : Text :=
  let days := Int.fdiv minutes 1440
  let seconds := Int.fmod minutes 1440 * 60
  let parts :=
    (if days = 0 then [] else ["days=".toList ++ intText days])
      ++ (if seconds = 0 then [] else ["seconds=".toList ++ intText seconds])
  "datetime.timedelta(".toList
    ++ (if parts.isEmpty then ['0'] else Text.join [',', ' '] parts) ++ [')']

/-- The wording of a defect. -/
def DateDefect.message : DateDefect → String
  | year => "year 0 is out of range"
  | month => "month must be in 1..12"
  | day => "day is out of range for month"
  | hour => "hour must be in 0..23"
  | minute => "minute must be in 0..59"
  | second => "second must be in 0..59"
  | offset minutes =>
    String.ofList
      ("offset must be a timedelta strictly between -timedelta(hours=24) and ".toList
        ++ "timedelta(hours=24), not ".toList ++ durationText minutes ++ ['.'])

/-- The wording of an error; defects of the notation have none. -/
def LoadError.message : LoadError → String
  | malformed => ""
  | characterRange => "chr() arg not in range(0x110000)"
  | characterOverflow => "Python int too large to convert to C int"
  | badInteger base text =>
    String.ofList ("invalid literal for int() with base ".toList ++ natText base ++ [':', ' ']
      ++ text.quoted)
  | numeralTooLong digits => Numeral.tooLongMessage digits
  | emptyNumeral => "string index out of range"
  | weightTooLarge => "int too large to convert to float"
  | badReal text =>
    String.ofList ("could not convert string to float: ".toList ++ text.quoted)
  | badDate defect => defect.message
  | badTruth text => String.ofList text.quoted
  | badTimestamp => ""
  | mappedTimestamp => "expected string or bytes-like object, got 'list'"
  | nestedTooDeeply => "maximum recursion depth exceeded"
  | containsItself => ""
  | loneSurrogate => ""

/-- Whether an error is of a kind that a run reports: a defect of the notation or a bad value. The
others are accidents of the conversion. -/
def LoadError.isReported : LoadError → Bool
  | malformed => true
  | characterRange => true
  | badInteger _ _ => true
  | numeralTooLong _ => true
  | badReal _ => true
  | badDate _ => true
  | _ => false

end Winnow.Yaml
