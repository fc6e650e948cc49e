import Winnow.Unicode.Decomposition
import Winnow.Unicode.CombiningClass
import Winnow.Unicode.Composition

/-!
# Compatibility composition

Normalization form KC: every code point is replaced by its full compatibility decomposition, marks
are put into canonical order, and what can be composed canonically is composed. Hangul syllables
are taken apart and joined by arithmetic, everything else by table.
-/

namespace Winnow.Unicode

namespace Hangul

/-- The first precomposed syllable. -/
def syllableBase : Nat := 0xAC00

/-- The first leading consonant. -/
def leadBase : Nat := 0x1100

/-- The first vowel. -/
def vowelBase : Nat := 0x1161

/-- One before the first trailing consonant: the offset zero means that there is none. -/
def trailBase : Nat := 0x11A7

def leadCount : Nat := 19

def vowelCount : Nat := 21

def trailCount : Nat := 28

/-- The jamo of a precomposed syllable. -/
def decompose? (code : Nat) : Option (List Nat) :=
  if syllableBase ≤ code ∧ code < syllableBase + leadCount * vowelCount * trailCount then
    let offset := code - syllableBase
    let lead := leadBase + offset / (vowelCount * trailCount)
    let vowel := vowelBase + offset % (vowelCount * trailCount) / trailCount
    let trail := offset % trailCount
    some (if trail = 0 then [lead, vowel] else [lead, vowel, trailBase + trail])
  else none

/-- Joins a leading consonant with a vowel, or a syllable without a trailing consonant with one. -/
def compose? (first second : Nat) : Option Nat :=
  if leadBase ≤ first ∧ first < leadBase + leadCount
      ∧ vowelBase ≤ second ∧ second < vowelBase + vowelCount then
    some (syllableBase
      + ((first - leadBase) * vowelCount + (second - vowelBase)) * trailCount)
  else if syllableBase ≤ first ∧ first < syllableBase + leadCount * vowelCount * trailCount
      ∧ (first - syllableBase) % trailCount = 0
      ∧ trailBase < second ∧ second < trailBase + trailCount then
    some (first + (second - trailBase))
  else none

end Hangul

/-- The code points in the 24-bit fields of a number, lowest field first; `count` bounds their
number. -/
def fields : (count : Nat) → Nat → List Nat
  | 0, _ => []
  | count + 1, packed =>
    if packed = 0 then [] else packed % 0x1000000 :: fields count (packed / 0x1000000)

/-- The longest compatibility decomposition has this many code points. -/
def longestDecomposition : Nat := 18

/-- The full compatibility decomposition of a code point. -/
def decompose (code : Nat) : List Nat :=
  if code < 0xA0 then [code]
  else
    match Hangul.decompose? code with
    | some jamo => jamo
    | none =>
      let block := decompositionBlocks.find? fun (first, last, _) => first ≤ code ∧ code ≤ last
      let entry := block.bind fun (_, _, entries) =>
        entries.find? fun packed => packed % 0x1000000 = code
      match entry with
      | some packed => fields longestDecomposition (packed / 0x1000000)
      | none => [code]

/-- The canonical combining class of a code point; that of a starter is zero. -/
def combiningClass (code : Nat) : Nat :=
  if code < 0x300 then 0
  else
    match combiningClasses.find? fun (first, last, _) => first ≤ code ∧ code ≤ last with
    | some (_, _, value) => value
    | none => 0

/-- Puts a mark before the marks of a higher class that directly precede the rest, and after those
of its own class. -/
def insertMark (mark : Nat) : List Nat → List Nat
  | [] => [mark]
  | next :: rest =>
    if combiningClass next ≠ 0 ∧ combiningClass next < combiningClass mark then
      next :: insertMark mark rest
    else mark :: next :: rest

/-- Canonical order: every stretch of marks is sorted by class, equal classes keeping their
order. -/
def canonicalOrder : List Nat → List Nat
  | [] => []
  | code :: rest =>
    if combiningClass code = 0 then code :: canonicalOrder rest
    else insertMark code (canonicalOrder rest)

/-- The canonical composition of two code points. -/
def compose? (first second : Nat) : Option Nat :=
  match Hangul.compose? first second with
  | some syllable => some syllable
  | none =>
    let block := compositionBlocks.find? fun (low, high, _) => low ≤ first ∧ first ≤ high
    let entry := block.bind fun (_, _, entries) =>
      entries.find? fun (left, right, _) => left = first ∧ right = second
    entry.map fun (_, _, composed) => composed

/-- Composition behind a starter. `marks` are the code points kept since the starter, last one
first, and `lastClass` is the class of the last of them; a code point is blocked from the starter
by a kept mark of its own or a higher class. -/
def composeAfter (starter : Nat) (marks : List Nat) (lastClass : Nat) : List Nat → List Nat
  | [] => starter :: marks.reverse
  | code :: rest =>
    let value := combiningClass code
    let reachable := marks.isEmpty || lastClass < value
    match if reachable then compose? starter code else none with
    | some composed => composeAfter composed marks lastClass rest
    | none =>
      if value = 0 then starter :: (marks.reverse ++ composeAfter code [] 0 rest)
      else composeAfter starter (code :: marks) value rest

/-- Canonical composition of a text in canonical order. -/
def compose : List Nat → List Nat
  | [] => []
  | code :: rest =>
    if combiningClass code = 0 then composeAfter code [] 0 rest else code :: compose rest

/-- Normalization form KC. -/
def normalize (codes : List Nat) : List Nat :=
  if codes.all (· < 0xA0) then codes
  else compose (canonicalOrder (codes.flatMap decompose))

end Winnow.Unicode
