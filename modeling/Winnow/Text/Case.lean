import Winnow.Text.Basic

/-!
# Letter case of texts

Folding lowers a text character by character and keeps its length. Lowering gives the full lower
case form: the dotted capital I becomes two characters, and a capital sigma at the end of a word
becomes the final form.
-/

namespace Winnow.Text

/-- A capital letter whose lower case form spans two characters. -/
def dottedCapitalI : Char := Char.ofNat 0x130

/-- The lower case letter of a character. A character whose lower case form spans several
characters is kept as it is, so that folding never changes a length. -/
def foldChar (char : Char) : Char :=
  if char = dottedCapitalI then char else Char.ofNat (Unicode.toLower char.toNat)

/-- A text folded character by character. -/
def foldCase (text : Text) : Text := text.map foldChar

/-- Folding never changes a length. -/
@[simp] theorem length_foldCase (text : Text) : (foldCase text).length = text.length := by
  simp [foldCase]

/-- Whether the nearest character that counts for letter case is a cased letter. -/
def nextIsCased (text : Text) : Bool :=
  match text.dropWhile fun char => Unicode.inRuns Unicode.caseIgnorable char.toNat with
  | [] => false
  | char :: _ => Unicode.inRuns Unicode.casedLetters char.toNat

/-- The full lower case form of one character between what stands before it, last character first,
and what follows it. -/
def lowerChar (before : Text) (char : Char) (after : Text) : Text :=
  if char = dottedCapitalI then ['i', Char.ofNat 0x307]
  else if char = 'Σ' then if nextIsCased before && !nextIsCased after then ['ς'] else ['σ']
  else [Char.ofNat (Unicode.toLower char.toNat)]

/-- The full lower case form of a text that follows `before`, last character first. -/
def lowerAfter (before : Text) : Text → Text
  | [] => []
  | char :: rest => lowerChar before char rest ++ lowerAfter (char :: before) rest

/-- The full lower case form of a text. -/
def lower (text : Text) : Text := lowerAfter [] text

end Winnow.Text
