import Winnow.Text.Basic

/-!
# Word boundaries

Every position of a text has a bonus that depends on the classes of its character and of the one
before: starts of words count most, then changes inside a word such as camel case.
-/

namespace Winnow.Ranking

/-- The class of a character. Title case letters, like everything that is neither a cased letter nor
a decimal digit, stand outside words. -/
inductive CharClass
  | lower
  | upper
  | digit
  | nonWord
  deriving DecidableEq, Repr

/-- The class of a character. -/
def CharClass.of (char : Char) : CharClass :=
  let code := char.toNat
  if Unicode.isLowercase code then .lower
  else if Unicode.isUppercase code then .upper
  else if Unicode.isDecimal code then .digit
  else .nonWord

/-- The bonus for the start of a word. -/
def wordStartScore : Int := 50

/-- The bonus for a character outside words. -/
def nonWordScore : Int := 40

/-- What a skipped character adds. -/
def gapScore : Int := -5

/-- The bonus for a change of class inside a word: less than a word start, even one gap away. -/
def camelScore : Int := wordStartScore + gapScore - 1

/-- The bonus for a character of one class behind a character of another. -/
def transitionScore : CharClass → CharClass → Int
  | .nonWord, .nonWord => nonWordScore
  | .nonWord, _ => wordStartScore
  | .lower, .upper => camelScore
  | .digit, .digit => 0
  | _, .digit => camelScore
  | _, .nonWord => nonWordScore
  | _, _ => 0

/-- The bonuses of a text that follows a character of the given class. -/
def positionScoresAfter (previous : CharClass) : Text → List Int
  | [] => []
  | char :: rest =>
    transitionScore previous (.of char) :: positionScoresAfter (.of char) rest

/-- The bonus of every position; the first one counts as if it followed a character outside
words. -/
def positionScores (text : Text) : List Int := positionScoresAfter .nonWord text

end Winnow.Ranking
