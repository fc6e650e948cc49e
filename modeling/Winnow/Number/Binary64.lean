import Winnow.Text.Basic

/-!
# Binary floating point in exact arithmetic

A number of the 64-bit binary format is a sign, a significand below 2^53 and a power of two. Every
operation computes the exact ratio of two natural numbers and rounds it once, to nearest with ties
to even, so all results evaluate in the kernel.
-/

namespace Winnow

/-- A number of the 64-bit binary format. The finite ones are `± significand · 2 ^ exponent`. -/
inductive Binary64
  | finite (negative : Bool) (significand : Nat) (exponent : Int)
  | infinite (negative : Bool)
  | notANumber
  deriving DecidableEq, Repr, Inhabited

/-- The quotient rounded to nearest, a tie going to the even neighbour. -/
def roundDiv (numerator denominator : Nat) : Nat :=
  let quotient := numerator / denominator
  let doubled := 2 * (numerator % denominator)
  if doubled < denominator then quotient
  else if denominator < doubled then quotient + 1
  else quotient + quotient % 2

namespace Binary64

/-- The least exponent of the format. -/
def leastExponent : Int := -1074

/-- The greatest exponent of the format. -/
def greatestExponent : Int := 971

/-- Zero. -/
def zero : Binary64 := finite false 0 0

/-- The ratio divided by a power of two and rounded to an integer. -/
def scaledRound (numerator denominator : Nat) (exponent : Int) : Nat :=
  if exponent < 0 then roundDiv (numerator * Nat.pow 2 (-exponent).toNat) denominator
  else roundDiv numerator (denominator * Nat.pow 2 exponent.toNat)

/-- Whether the ratio is at least a power of two. -/
def atLeastPower (numerator denominator : Nat) (exponent : Int) : Bool :=
  if exponent < 0 then decide (denominator ≤ numerator * Nat.pow 2 (-exponent).toNat)
  else decide (denominator * Nat.pow 2 exponent.toNat ≤ numerator)

/-- The number nearest to a ratio with the given sign. -/
def ofRatio (negative : Bool) (numerator denominator : Nat) : Binary64 :=
  if numerator = 0 then finite negative 0 0
  else
    let guess : Int := (Nat.log2 numerator : Int) - (Nat.log2 denominator : Int)
    let magnitude := if atLeastPower numerator denominator guess then guess else guess - 1
    let exponent := max leastExponent (magnitude - 52)
    let significand := scaledRound numerator denominator exponent
    let (significand, exponent) :=
      if significand = Nat.pow 2 53 then (Nat.pow 2 52, exponent + 1) else (significand, exponent)
    if significand = 0 then finite negative 0 0
    else if exponent > greatestExponent then infinite negative
    else finite negative significand exponent

/-- The number nearest to a ratio of an integer to a natural number. -/
def ofIntRatio (numerator : Int) (denominator : Nat) : Binary64 :=
  ofRatio (decide (numerator < 0)) numerator.natAbs denominator

/-- The number nearest to an integer. -/
def ofInt (value : Int) : Binary64 := ofIntRatio value 1

/-- The number nearest to `± digits · 10 ^ exponent`. -/
def ofDecimal (negative : Bool) (digits : Nat) (exponent : Int) : Binary64 :=
  if digits = 0 then finite negative 0 0
  else if exponent < 0 then
    if (-exponent).toNat > Nat.log2 digits + 400 then finite negative 0 0
    else ofRatio negative digits (Nat.pow 10 (-exponent).toNat)
  else if exponent > 400 then infinite negative
  else ofRatio negative (digits * Nat.pow 10 exponent.toNat) 1

/-- The sign of a number as it is written. -/
def isNegative : Binary64 → Bool
  | finite negative _ _ => negative
  | infinite negative => negative
  | notANumber => false

/-- The number with the other sign. -/
def neg : Binary64 → Binary64
  | finite negative significand exponent => finite (!negative) significand exponent
  | infinite negative => infinite (!negative)
  | notANumber => notANumber

/-- The integer `significand · 2 ^ (exponent - least)` with its sign, for a `least` that is not
above the exponent. -/
def scaledInt (negative : Bool) (significand : Nat) (exponent least : Int) : Int :=
  let magnitude : Int := (significand * Nat.pow 2 (exponent - least).toNat : Nat)
  if negative then -magnitude else magnitude

/-- The number nearest to an integer times a power of two; zero gets the given sign. -/
def ofScaledInt (value : Int) (exponent : Int) (zeroNegative : Bool) : Binary64 :=
  if value = 0 then finite zeroNegative 0 0
  else if exponent < 0 then ofIntRatio value (Nat.pow 2 (-exponent).toNat)
  else ofIntRatio (value * (Nat.pow 2 exponent.toNat : Nat)) 1

/-- The sum of two numbers. -/
def add : Binary64 → Binary64 → Binary64
  | notANumber, _ => notANumber
  | _, notANumber => notANumber
  | infinite a, infinite b => if a = b then infinite a else notANumber
  | infinite a, finite _ _ _ => infinite a
  | finite _ _ _, infinite b => infinite b
  | finite a m d, finite b n e =>
    let least := min d e
    ofScaledInt (scaledInt a m d least + scaledInt b n e least) least (a && b)

/-- The product of two numbers. -/
def mul : Binary64 → Binary64 → Binary64
  | notANumber, _ => notANumber
  | _, notANumber => notANumber
  | infinite a, infinite b => infinite (a != b)
  | infinite a, finite b n _ => if n = 0 then notANumber else infinite (a != b)
  | finite a m _, infinite b => if m = 0 then notANumber else infinite (a != b)
  | finite a m d, finite b n e =>
    let sign := a != b
    let product : Int := (m * n : Nat)
    ofScaledInt (if sign then -product else product) (d + e) sign

/-- Equality of values: the two zeros are equal and what is not a number equals nothing. -/
def sameValue : Binary64 → Binary64 → Bool
  | finite _ 0 _, finite _ 0 _ => true
  | notANumber, _ => false
  | a, b => decide (a = b)

/-- Whether a number is greater than zero. -/
def isPositive : Binary64 → Bool
  | finite negative significand _ => !negative && significand != 0
  | infinite negative => !negative
  | notANumber => false

/-- The integer part of a finite number; zero for the others, which have none. -/
def truncate : Binary64 → Int
  | finite negative significand exponent =>
    let magnitude : Nat :=
      if exponent < 0 then significand / Nat.pow 2 (-exponent).toNat
      else significand * Nat.pow 2 exponent.toNat
    if negative then -(magnitude : Int) else magnitude
  | _ => 0

/-- The nearest integer of a finite number, ties going to even; zero for the others. -/
def round : Binary64 → Int
  | finite negative significand exponent =>
    let magnitude : Nat :=
      if exponent < 0 then roundDiv significand (Nat.pow 2 (-exponent).toNat)
      else significand * Nat.pow 2 exponent.toNat
    if negative then -(magnitude : Int) else magnitude
  | _ => 0

/-- The integer that a number is, if it is one. -/
def toInt? : Binary64 → Option Int
  | finite negative significand exponent =>
    if exponent < 0 ∧ significand % Nat.pow 2 (-exponent).toNat ≠ 0 then none
    else some (truncate (finite negative significand exponent))
  | _ => none

end Binary64

end Winnow
