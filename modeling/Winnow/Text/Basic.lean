import Winnow.Unicode.Character

/-!
# Text

A text is a list of characters: offsets and lengths count characters, and every rule below is a
recursion on the list. Blanks are the white space characters of Unicode.
-/

namespace Winnow

/-- A text, as the list of its characters. -/
abbrev Text := List Char

namespace Text

/-- White space of any script, the information separators included. -/
def isBlank (char : Char) : Bool := Unicode.isBlank char.toNat

/-- Drops the characters of the given kind from the end. -/
def dropTrailing (drop : Char → Bool) (text : Text) : Text :=
  (text.reverse.dropWhile drop).reverse

/-- Drops the characters of the given kind from both ends. -/
def trim (drop : Char → Bool) (text : Text) : Text :=
  dropTrailing drop (text.dropWhile drop)

/-- Drops the blanks at both ends. -/
def strip (text : Text) : Text := trim isBlank text

/-- The non-empty pieces between separators, where `piece` holds the characters read since the last
separator, last one first. -/
def piecesFrom (separates : Char → Bool) (piece : Text) : Text → List Text
  | [] => if piece.isEmpty then [] else [piece.reverse]
  | char :: rest =>
    if separates char then
      if piece.isEmpty then piecesFrom separates [] rest
      else piece.reverse :: piecesFrom separates [] rest
    else piecesFrom separates (char :: piece) rest

/-- The non-empty pieces between blanks. -/
def words (text : Text) : List Text := piecesFrom isBlank [] text

/-- The pieces joined by a separator. -/
def join (separator : Text) (pieces : List Text) : Text := separator.intercalate pieces

/-- Every character from one list replaced by the other one. -/
def replaceChar (old new : Char) (text : Text) : Text :=
  text.map fun char => if char = old then new else char

end Text

end Winnow
