import Winnow.Number.Binary64

/-!
# Numbers with a fixed number of places

The decimal text of an integer, and of a binary number rounded to a fixed number of places.
-/

namespace Winnow

/-- Decimal digits of a natural number. -/
def natText (value : Nat) : Text := Nat.toDigits 10 value

/-- Decimal digits of an integer behind its sign. -/
def intText (value : Int) : Text :=
  if value < 0 then '-' :: natText value.natAbs else natText value.natAbs

/-- A number of hundredths, thousandths, … as digits with a point before the last `places`. -/
def pointText (places scaled : Nat) : Text :=
  let digits := natText scaled
  let padded := List.replicate (places + 1 - digits.length) '0' ++ digits
  padded.take (padded.length - places) ++ '.' :: padded.drop (padded.length - places)

/-- A binary number with a fixed number of places, rounded from its exact value with ties to
even. -/
def Binary64.fixed (places : Nat) : Binary64 → Text
  | .notANumber => ['n', 'a', 'n']
  | .infinite negative => (if negative then ['-'] else []) ++ ['i', 'n', 'f']
  | .finite negative significand exponent =>
    let scaled := significand * Nat.pow 10 places
    let rounded :=
      if exponent < 0 then roundDiv scaled (Nat.pow 2 (-exponent).toNat)
      else scaled * Nat.pow 2 exponent.toNat
    (if negative then ['-'] else []) ++ pointText places rounded

end Winnow
