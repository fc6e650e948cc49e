import Winnow.Regex.Expr

/-!
# Tests on one character

A test compares one character of the subject with a set. Under a case rule the subject's character
is lowered first, and the members of the set are prepared so that both sides agree on every form of
a letter, such as the long s beside s and the final sigma beside sigma.
-/

namespace Winnow.Regex

/-- How letter case is treated: exactly, or ignored for the letters of ASCII or of all scripts. -/
inductive CaseRule
  | exact
  | ignoreAscii
  | ignoreAll
  deriving DecidableEq, Repr

/-- The lower case letters that share their upper case letter with another lower case letter, each
with those others. -/
def caseVariants : List (Nat × List Nat) := [
  (0x0069, [0x0131]), (0x0073, [0x017F]), (0x00B5, [0x03BC]), (0x0131, [0x0069]),
  (0x017F, [0x0073]), (0x0345, [0x03B9, 0x1FBE]), (0x0390, [0x1FD3]), (0x03B0, [0x1FE3]),
  (0x03B2, [0x03D0]), (0x03B5, [0x03F5]), (0x03B8, [0x03D1]), (0x03B9, [0x0345, 0x1FBE]),
  (0x03BA, [0x03F0]), (0x03BC, [0x00B5]), (0x03C0, [0x03D6]), (0x03C1, [0x03F1]),
  (0x03C2, [0x03C3]), (0x03C3, [0x03C2]), (0x03C6, [0x03D5]), (0x03D0, [0x03B2]),
  (0x03D1, [0x03B8]), (0x03D5, [0x03C6]), (0x03D6, [0x03C0]), (0x03F0, [0x03BA]),
  (0x03F1, [0x03C1]), (0x03F5, [0x03B5]), (0x0432, [0x1C80]), (0x0434, [0x1C81]),
  (0x043E, [0x1C82]), (0x0441, [0x1C83]), (0x0442, [0x1C84, 0x1C85]), (0x044A, [0x1C86]),
  (0x0463, [0x1C87]), (0x1C80, [0x0432]), (0x1C81, [0x0434]), (0x1C82, [0x043E]),
  (0x1C83, [0x0441]), (0x1C84, [0x0442, 0x1C85]), (0x1C85, [0x0442, 0x1C84]), (0x1C86, [0x044A]),
  (0x1C87, [0x0463]), (0x1C88, [0xA64B]), (0x1E61, [0x1E9B]), (0x1E9B, [0x1E61]),
  (0x1FBE, [0x0345, 0x03B9]), (0x1FD3, [0x0390]), (0x1FE3, [0x03B0]), (0xA64B, [0x1C88]),
  (0xFB05, [0xFB06]), (0xFB06, [0xFB05])]

/-- A letter of ASCII in upper case. -/
def isAsciiUpper (code : Nat) : Bool := 0x41 ≤ code && code ≤ 0x5A

/-- A letter of ASCII in lower case. -/
def isAsciiLower (code : Nat) : Bool := 0x61 ≤ code && code ≤ 0x7A

/-- The last code point of the basic plane. -/
def basicPlaneEnd : Nat := 0xFFFF

namespace CaseRule

/-- The letter that stands for all its cases. -/
def lower : CaseRule → Nat → Nat
  | exact, code => code
  | ignoreAscii, code => if isAsciiUpper code then code + 0x20 else code
  | ignoreAll, code => Unicode.toLower code

/-- Whether the rule makes a difference for a code point. -/
def isCased : CaseRule → Nat → Bool
  | exact, _ => false
  | ignoreAscii, code => isAsciiUpper code || isAsciiLower code
  | ignoreAll, code => Unicode.isCased code

/-- Whether the rule makes a difference for some code point of a range. -/
def anyCased : CaseRule → Nat → Nat → Bool
  | exact, _, _ => false
  | ignoreAscii, low, high =>
    decide (low ≤ 0x5A ∧ 0x41 ≤ high ∨ low ≤ 0x7A ∧ 0x61 ≤ high)
  | ignoreAll, low, high => Unicode.anyCased low high

/-- The other letters that a lowered letter is not told apart from. -/
def variants : CaseRule → Nat → List Nat
  | ignoreAll, code => ((caseVariants.find? fun entry => entry.1 == code).map (·.2)).getD []
  | _, _ => []

/-- The code points that the rule lowers to the given one. -/
def preimages : CaseRule → Nat → List Nat
  | exact, code => [code]
  | ignoreAscii, code =>
    if isAsciiLower code then [code, code - 0x20]
    else if isAsciiUpper code then []
    else [code]
  | ignoreAll, code => Unicode.lowerPreimages code

end CaseRule

/-- Members of a set as they are compared with a character. -/
inductive Member
  | literal (code : Nat)
  | range (low high : Nat)
  /-- Some code point of the basic plane in the range lowers to the character or to one that is not
  told apart from it. -/
  | foldedRange (rule : CaseRule) (low high : Nat)
  /-- The character or its upper case letter is in the range. -/
  | eitherCase (low high : Nat)
  | category (kind : Category) (ascii negated : Bool)
  deriving DecidableEq, Repr

/-- Membership in a class, for ASCII alone or for all scripts. -/
def Category.holds (ascii : Bool) (code : Nat) : Category → Bool
  | digit =>
    if ascii then 0x30 ≤ code && code ≤ 0x39 else Unicode.isDecimal code
  | space =>
    if ascii then (0x09 ≤ code && code ≤ 0x0D) || code == 0x20 else Unicode.isBlank code
  | word =>
    if ascii then
      (0x30 ≤ code && code ≤ 0x39) || isAsciiUpper code || isAsciiLower code || code == 0x5F
    else Unicode.isAlphanumeric code || code == 0x5F

/-- Whether a member holds a character. -/
def Member.holds (code : Nat) : Member → Bool
  | literal other => code == other
  | range low high => low ≤ code && code ≤ high
  | foldedRange rule low high =>
    (code :: rule.variants code).any fun lowered =>
      (rule.preimages lowered).any fun source =>
        low ≤ source && source ≤ high && source ≤ basicPlaneEnd
  | eitherCase low high =>
    (low ≤ code && code ≤ high)
      || (low ≤ Unicode.toUpper code && Unicode.toUpper code ≤ high)
  | category kind ascii negated => kind.holds ascii code != negated

/-- A test on one character: it is lowered by the rule and looked up among the members. -/
structure CharTest where
  rule : CaseRule
  negated : Bool
  members : List Member
  deriving DecidableEq, Repr

namespace CharTest

/-- Whether a code point passes the test. -/
def acceptsCode (test : CharTest) (code : Nat) : Bool :=
  (test.members.any fun member => member.holds (test.rule.lower code)) != test.negated

/-- Whether a character passes the test. -/
def accepts (test : CharTest) (char : Char) : Bool := test.acceptsCode char.toNat

/-- Every character. -/
def anything : CharTest := ⟨.exact, true, []⟩

/-- Every character but the line feed. -/
def notLineFeed : CharTest := ⟨.exact, true, [.literal 0x0A]⟩

/-- The characters that correspond to one code point under a case rule, or all others. -/
def literal (rule : CaseRule) (negated : Bool) (code : Nat) : CharTest :=
  if rule.isCased code then
    let lowered := rule.lower code
    ⟨rule, negated, (lowered :: rule.variants lowered).map .literal⟩
  else ⟨.exact, negated, [.literal code]⟩

/-- Whether the rule makes a difference for a member of a set. Every member beyond the basic plane
counts. -/
def memberCased (rule : CaseRule) : SetItem → Bool
  | .literal code => rule.isCased code || basicPlaneEnd < rule.lower code
  | .range low high => rule.anyCased low high || basicPlaneEnd < high
  | .category _ _ => false

/-- The prepared members for a member of a set under a rule that makes a difference for the set. A
single code point beyond the basic plane is compared as it is. -/
def foldMember (rule : CaseRule) (ascii : Bool) : SetItem → List Member
  | .literal code =>
    let lowered := rule.lower code
    if lowered ≤ basicPlaneEnd then (lowered :: rule.variants lowered).map .literal
    else [.literal code]
  | .range low high =>
    if high ≤ basicPlaneEnd then [.foldedRange rule low high]
    else [.foldedRange rule low high, .eitherCase low high]
  | .category category negated => [.category category ascii negated]

/-- The prepared member for a member of a set where letter case makes no difference. -/
def plainMember (ascii : Bool) : SetItem → Member
  | .literal code => .literal code
  | .range low high => .range low high
  | .category category negated => .category category ascii negated

/-- The characters in a set, or all others. -/
def set (rule : CaseRule) (ascii negated : Bool) (items : List SetItem) : CharTest :=
  if rule ≠ .exact && items.any (memberCased rule) then
    ⟨rule, negated, items.flatMap (foldMember rule ascii)⟩
  else ⟨.exact, negated, items.map (plainMember ascii)⟩

end CharTest

end Winnow.Regex
