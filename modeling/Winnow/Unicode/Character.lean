import Winnow.Unicode.Runs
import Winnow.Unicode.Letter
import Winnow.Unicode.Number
import Winnow.Unicode.LetterCase
import Winnow.Unicode.CaseMapping
import Winnow.Unicode.Identifier
import Winnow.Unicode.Printable

/-!
# Classes and case of one code point

Predicates are stated on code points as numbers, because a pattern may name code points that no
text holds. The tables behind them are those of Unicode 14.0.
-/

namespace Winnow.Unicode

/-- Separators and the controls that separate words, lines and paragraphs. -/
def blankRuns : Runs :=
  [(0x09, 0x0D), (0x1C, 0x20), (0x85, 0x85), (0xA0, 0xA0), (0x1680, 0x1680), (0x2000, 0x200A),
    (0x2028, 0x2029), (0x202F, 0x202F), (0x205F, 0x205F), (0x3000, 0x3000)]

/-- White space. -/
def isBlank (code : Nat) : Bool := inRuns blankRuns code

/-- The property Lowercase. -/
def isLowercase (code : Nat) : Bool := inRuns lowercaseLetters code

/-- The property Uppercase; title case letters are neither upper nor lower case. -/
def isUppercase (code : Nat) : Bool := inRuns uppercaseLetters code

/-- A letter of any script. -/
def isLetter (code : Nat) : Bool := inRuns letters code

/-- The value of a decimal digit of any script. -/
def decimalValue? (code : Nat) : Option Nat :=
  (decimalZeros.find? fun first => first ≤ code ∧ code < first + 10).map (code - ·)

/-- A decimal digit of any script. -/
def isDecimal (code : Nat) : Bool := (decimalValue? code).isSome

/-- A letter or a character with a numeric value. -/
def isAlphanumeric (code : Nat) : Bool := isLetter code || inRuns numerics code

/-- A character that a quoted text shows as itself. -/
def isPrintable (code : Nat) : Bool := inRuns printables code

/-- A character that may begin an identifier. -/
def startsIdentifier (code : Nat) : Bool := inRuns identifierStarts code

/-- A character that may stand inside an identifier. -/
def continuesIdentifier (code : Nat) : Bool := inRuns identifierParts code

/-- The lower case letter of a code point, itself if it has none; of the only lower case form with
two code points, that of the dotted capital I, the first. -/
def toLower (code : Nat) : Nat := mapped lowerMappings code

/-- The upper case letter of a code point, itself if it has none; of a form of several code points
the first. -/
def toUpper (code : Nat) : Nat := mapped upperMappings code

/-- Whether some case mapping moves a code point. -/
def isCased (code : Nat) : Bool := code != toLower code || code != toUpper code

/-- Whether some code point between `low` and `high` is cased. -/
def anyCased (low high : Nat) : Bool :=
  lowerMappings.any (·.meets low high) || upperMappings.any (·.meets low high)

/-- Every code point whose lower case letter is the given one. -/
def lowerPreimages (code : Nat) : List Nat :=
  let moved := lowerMappings.filterMap (·.preimage? code)
  if toLower code == code then code :: moved else moved

end Winnow.Unicode
