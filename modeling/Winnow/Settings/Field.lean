import Winnow.Settings.Problem
import Winnow.Number.Numeral
import Winnow.Text.Utf8
import Winnow.Yaml.Value

/-!
# Reading fields

The values of documents are read leniently: a field for a number also takes a text that writes one,
a field for a truth value also takes words and the numbers zero and one.
-/

namespace Winnow.Field

open Yaml (Value)

/-- Reads one field. -/
abbrev Reader (α : Type) := Value → Except Misfit α

/-- The text that a value is or, for bytes, stands for. -/
def textOf? : Value → Option Text
  | .scalar (.text text) => some text
  | .scalar (.bytes bytes) => (Utf8.decode bytes).toOption
  | _ => none

/-- Reads a text. -/
def text : Reader Text := fun value =>
  match textOf? value with
  | some text => .ok text
  | none => .error .noText

/-- The words for true. -/
def trueWords : List String := ["1", "t", "true", "y", "yes", "on"]

/-- The words for false. -/
def falseWords : List String := ["0", "f", "false", "n", "no", "off"]

/-- Reads a word as a truth value; the letter case of ASCII does not matter. -/
def truthOfText (text : Text) : Except Misfit Bool :=
  let word := String.ofList (text.map Char.toLower)
  if trueWords.contains word then .ok true
  else if falseWords.contains word then .ok false
  else .error .unreadableTruth

/-- The first integer above the signed range of 64 bits; its negative is the least inside. -/
def wordLimit : Int := Nat.pow 2 63

/-- Whether an integer is within the signed range of 64 bits. -/
def isWord (value : Int) : Bool := decide (-wordLimit ≤ value ∧ value < wordLimit)

/-- Reads an integer as a truth value. -/
def truthOfInt (value : Int) : Except Misfit Bool :=
  if value = 0 then .ok false
  else if value = 1 then .ok true
  else if isWord value then .error .unreadableTruth
  else .error .noTruth

/-- Reads a truth value. -/
def truth : Reader Bool := fun value =>
  match textOf? value, value with
  | some text, _ => truthOfText text
  | none, .scalar (.bool value) => .ok value
  | none, .scalar (.int value) => truthOfInt value
  | none, .scalar (.real value) =>
    match value.toInt? with
    | some value => truthOfInt value
    | none => .error .noTruth
  | _, _ => .error .noTruth

/-- The longest numeral of an integer that is read. -/
def longestInteger : Nat := 4300

/-- Whether underscores stand in a numeral only between two other characters each. -/
def underscoresFit : Text → Bool
  | [] => true
  | ['_'] => false
  | '_' :: '_' :: _ => false
  | _ :: rest => underscoresFit rest

/-- A numeral without its underscores, if they stand between other characters. -/
def dropUnderscores (text : Text) : Text :=
  if text.head? ≠ some '_' && underscoresFit text then text.filter (· ≠ '_') else text

/-- A numeral without zeros behind its point, if nothing else stands there. -/
def dropZeroFraction (text : Text) : Text :=
  let fraction := (text.dropWhile (· ≠ '.')).drop 1
  if fraction.all (· = '0') then text.takeWhile (· ≠ '.') else text

/-- A numeral without leading zeros and the underscores among them, except for the last such
character where no other digit follows. Only a digit or a minus may come first. -/
def dropLeadingZeros? (text : Text) : Option Text :=
  match text with
  | '0' :: _ =>
    let isFiller (char : Char) : Bool := char = '0' || char = '_'
    let last := ((text.takeWhile isFiller).getLast?).toList
    match text.dropWhile isFiller with
    | [] => some last
    | '.' :: tail => some (last ++ '.' :: tail)
    | char :: tail => if char.isDigit then some (char :: tail) else none
  | char :: _ => if char.isDigit || char = '-' then some text else none
  | [] => none

/-- A numeral without a plus in front, which no minus may follow. -/
def dropPlus? : Text → Option Text
  | '+' :: '-' :: _ => none
  | '+' :: rest => some rest
  | text => some text

/-- The value of digits that begin with no zero unless there is only one. -/
def strictDigits? (digits : Text) : Option Nat :=
  if digits.isEmpty || !digits.all Char.isDigit then none
  else if digits.head? = some '0' && digits ≠ ['0'] then none
  else some (Numeral.digitsValue digits)

/-- The value of a numeral with an optional minus. -/
def strictInteger? : Text → Option Int
  | '-' :: digits => (strictDigits? digits).map fun value => -(value : Int)
  | digits => (strictDigits? digits).map fun value => (value : Int)

/-- A numeral tidied up: blanks, a plus, leading zeros, a fraction of zeros and underscores are
dropped in this order. -/
def tidied? (text : Text) : Option Text := do
  let unsigned ← dropPlus? (text.trim Numeral.isBlank)
  let significant ← dropLeadingZeros? unsigned
  pure (dropUnderscores (dropZeroFraction significant))

/-- Reads a text as an integer. -/
def integerOfText (text : Text) : Except Misfit Int :=
  match (tidied? text).bind strictInteger? with
  | some value => if longestInteger < text.length then .error .hugeInteger else .ok value
  | none => .error .unreadableInteger

/-- Reads a real number as an integer. -/
def integerOfReal (value : Binary64) : Except Misfit Int :=
  match value with
  | .finite _ _ _ =>
    match value.toInt? with
    | some value =>
      if isWord value && value ≠ -wordLimit then .ok value else .error .hugeInteger
    | none => .error .fraction
  | _ => .error .notFinite

/-- Reads an integer. -/
def integer : Reader Int := fun value =>
  match textOf? value, value with
  | some text, _ => integerOfText text
  | none, .scalar (.bool value) => .ok (if value then 1 else 0)
  | none, .scalar (.int value) => .ok value
  | none, .scalar (.real value) => integerOfReal value
  | _, _ => .error .noInteger

/-- Reads a text as a real number. -/
def realOfText (text : Text) : Except Misfit Binary64 :=
  match Numeral.plainReal? (text.trim Numeral.isBlank) with
  | some value => .ok value
  | none =>
    match Numeral.plainReal? (dropUnderscores text) with
    | some value => .ok value
    | none => .error .unreadableNumber

/-- Reads a real number. -/
def real : Reader Binary64 := fun value =>
  match textOf? value, value with
  | some text, _ => realOfText text
  | none, .scalar (.bool value) => .ok (.ofInt (if value then 1 else 0))
  | none, .scalar (.int value) =>
    match Binary64.ofInt value with
    | .infinite _ => .error .noNumber
    | value => .ok value
  | none, .scalar (.real value) => .ok value
  | _, _ => .error .noNumber

/-- Reads a field where null means that nothing is set. -/
def optional {α : Type} (read : Reader α) : Reader (Option α) := fun value =>
  match value with
  | .scalar .null => .ok none
  | value => (read value).map some

/-- Reads an integer that is at least one. -/
def count : Reader Int := fun value => do
  let number ← integer value
  if number < 1 then throw .belowOne else pure number

/-- Reads a number of seconds, which is above zero. What is not a number is not below anything. -/
def seconds : Reader Binary64 := fun value => do
  let number ← real value
  if number.isPositive || number = .notANumber then pure number else throw .notPositive

end Winnow.Field
