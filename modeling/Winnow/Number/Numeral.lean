import Winnow.Number.Binary64
import Winnow.Number.Fixed
import Winnow.Text.Case

/-!
# Reading numbers

Numerals are read leniently: blanks around them, a sign, decimal digits of any script, and single
underscores between digits.
-/

namespace Winnow.Numeral

/-- The blanks that may surround a numeral: all but the information separators. -/
def isBlank (char : Char) : Bool :=
  Text.isBlank char && !(0x1C ≤ char.toNat && char.toNat ≤ 0x1F)

/-- Splits off a sign; true means minus. -/
def sign : Text → Bool × Text
  | '-' :: rest => (true, rest)
  | '+' :: rest => (false, rest)
  | text => (false, text)

/-- The value of a digit in the given base; letters of either case follow nine. -/
def digitValue? (base : Nat) (char : Char) : Option Nat :=
  let code := char.toNat
  let value :=
    match Unicode.decimalValue? code with
    | some value => some value
    | none =>
      if 0x41 ≤ code ∧ code ≤ 0x5A then some (code - 0x37)
      else if 0x61 ≤ code ∧ code ≤ 0x7A then some (code - 0x57)
      else none
  value.filter (· < base)

/-- Reads digits with single underscores between them. `afterDigit` tells whether the last
character was a digit, which is required before an underscore and at the end. -/
def digitsFrom (base : Nat) (total : Nat) (afterDigit : Bool) : Text → Option Nat
  | [] => if afterDigit then some total else none
  | char :: rest =>
    if char = '_' then if afterDigit then digitsFrom base total false rest else none
    else
      match digitValue? base char with
      | some value => digitsFrom base (total * base + value) true rest
      | none => none

/-- Reads an integer in the given base. -/
def integer? (base : Nat) (text : Text) : Option Int :=
  let (negative, digits) := sign (text.trim isBlank)
  (digitsFrom base 0 false digits).map fun (value : Nat) =>
    if negative then -(value : Int) else value

/-- The most digits that a decimal integer may be written with. -/
def digitLimit : Nat := 4300

/-- The wording for a decimal integer with too many digits. -/
def tooLongMessage (digits : Nat) : String :=
  "Exceeds the limit (" ++ String.ofList (natText digitLimit)
    ++ " digits) for integer string conversion: value has " ++ String.ofList (natText digits)
    ++ " digits; use sys.set_int_max_str_digits() to increase the limit"

/-- The number of decimal digits that a numeral begins with behind its sign. -/
def leadingDigits (text : Text) : Nat :=
  let run := (sign (text.trim isBlank)).2.takeWhile fun char =>
    char = '_' || (digitValue? 10 char).isSome
  (run.filter (· ≠ '_')).length

/-- Reads a decimal integer that does not have too many digits. -/
def limitedInteger? (text : Text) : Option Int :=
  if digitLimit < leadingDigits text then none else integer? 10 text

/-- Digits of any script as those of ASCII. -/
def asciiDigit (char : Char) : Char :=
  match Unicode.decimalValue? char.toNat with
  | some value => Char.ofNat (0x30 + value)
  | none => char

/-- The text without the underscores that stand between two digits; none if one stands
elsewhere. -/
def dropUnderscores (afterDigit : Bool) : Text → Option Text
  | [] => some []
  | '_' :: next :: rest =>
    if afterDigit && next.isDigit then (dropUnderscores true rest).map (next :: ·) else none
  | ['_'] => none
  | char :: rest => (dropUnderscores char.isDigit rest).map (char :: ·)

/-- The number that a run of ASCII digits writes. -/
def digitsValue (digits : Text) : Nat :=
  digits.foldl (fun total char => total * 10 + (char.toNat - 0x30)) 0

/-- Reads a decimal exponent: nothing, or a letter e, a sign and digits. -/
def exponent? : Text → Option Int
  | [] => some 0
  | mark :: rest =>
    if mark = 'e' ∨ mark = 'E' then
      let (negative, digits) := sign rest
      if digits.isEmpty || !digits.all Char.isDigit then none
      else
        let value : Int := digitsValue digits
        some (if negative then -value else value)
    else none

/-- Reads an unsigned decimal number: digits with at most one point among them, then an exponent. -/
def decimal? (negative : Bool) (text : Text) : Option Binary64 :=
  let whole := text.takeWhile Char.isDigit
  let afterWhole := text.dropWhile Char.isDigit
  let (fraction, tail) :=
    match afterWhole with
    | '.' :: rest => (rest.takeWhile Char.isDigit, rest.dropWhile Char.isDigit)
    | rest => ([], rest)
  if whole.isEmpty && fraction.isEmpty then none
  else
    (exponent? tail).map fun power =>
      Binary64.ofDecimal negative (digitsValue (whole ++ fraction)) (power - fraction.length)

/-- Reads a number without surrounding blanks or underscores: decimal, infinite or not a
number. -/
def plainReal? (text : Text) : Option Binary64 :=
  let (negative, body) := sign text
  let name := String.ofList (body.map Char.toLower)
  if name = "inf" ∨ name = "infinity" then some (.infinite negative)
  else if name = "nan" then some .notANumber
  else decimal? negative body

/-- Reads a number as the command line writes it. -/
def real? (text : Text) : Option Binary64 :=
  (dropUnderscores false ((text.trim isBlank).map asciiDigit)).bind plainReal?

end Winnow.Numeral
