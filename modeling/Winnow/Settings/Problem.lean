import Winnow.Text.Basic

/-!
# Problems with settings

A value that does not fit its field is a problem at a location. All problems of a section are
reported together, one line each.
-/

namespace Winnow

/-- Why a value does not fit its field. -/
inductive Misfit
  | noText
  | noTruth
  | unreadableTruth
  | noInteger
  | unreadableInteger
  | hugeInteger
  | fraction
  | notFinite
  | noNumber
  | unreadableNumber
  | belowOne
  | notPositive
  | noSection (name : String)
  | rejected (reason : String)
  deriving DecidableEq, Repr

/-- The kind of a misfit and its wording. -/
def Misfit.message : Misfit → String
  | noText => "string_type: Input should be a valid string"
  | noTruth => "bool_type: Input should be a valid boolean"
  | unreadableTruth =>
    "bool_parsing: Input should be a valid boolean, unable to interpret input"
  | noInteger => "int_type: Input should be a valid integer"
  | unreadableInteger =>
    "int_parsing: Input should be a valid integer, unable to parse string as an integer"
  | hugeInteger =>
    "int_parsing_size: Unable to parse input string as an integer, exceeded maximum size"
  | fraction =>
    "int_from_float: Input should be a valid integer, got a number with a fractional part"
  | notFinite => "finite_number: Input should be a finite number"
  | noNumber => "float_type: Input should be a valid number"
  | unreadableNumber =>
    "float_parsing: Input should be a valid number, unable to parse string as a number"
  | belowOne => "greater_than_equal: Input should be greater than or equal to 1"
  | notPositive => "greater_than: Input should be greater than 0"
  | noSection name =>
    "model_type: Input should be a valid dictionary or instance of " ++ name
  | rejected reason => "value_error: Value error, " ++ reason

/-- A misfit with the names of the sections and the field where it is. -/
structure Problem where
  location : List String
  misfit : Misfit
  deriving DecidableEq, Repr

namespace Problem

/-- A problem seen from the section around it. -/
def inside (name : String) (problem : Problem) : Problem :=
  { problem with location := name :: problem.location }

/-- The line that reports a problem. -/
def line (problem : Problem) : String :=
  ".".intercalate problem.location ++ ": " ++ problem.misfit.message

/-- The report of problems with a section of the given kind. -/
def report (kind : String) (problems : List Problem) : String :=
  "\n".intercalate (kind :: problems.map line)

end Problem

end Winnow
