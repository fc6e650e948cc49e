import Winnow.Text.Basic

/-!
# The line for the query

A text with a cursor in it. The cursor stays within the text, and moving it by keys never leaves the
current line of a text that has several.
-/

namespace Winnow

/-- A text with a cursor: what stands before the cursor, nearest character first, and what stands
behind it. -/
structure QueryLine where
  before : Text
  after : Text
  deriving DecidableEq, Repr

namespace QueryLine

/-- A text with the cursor at its end. -/
def ofText (text : Text) : QueryLine := ⟨text.reverse, []⟩

/-- The text. -/
def text (line : QueryLine) : Text := line.before.reverse ++ line.after

/-- Another text; the cursor keeps its place if that is within the text. -/
def replace (line : QueryLine) (text : Text) : QueryLine :=
  ⟨(text.take line.before.length).reverse, text.drop line.before.length⟩

/-- Inserts a character at the cursor. -/
def insert (line : QueryLine) (char : Char) : QueryLine :=
  { line with before := char :: line.before }

/-- Deletes the character before the cursor. -/
def deleteBefore (line : QueryLine) : QueryLine := { line with before := line.before.drop 1 }

/-- Deletes the character behind the cursor. -/
def deleteAfter (line : QueryLine) : QueryLine := { line with after := line.after.drop 1 }

/-- Moves the cursor to the left by at most the given number of characters. -/
def moveLeft (line : QueryLine) (count : Nat) : QueryLine :=
  ⟨line.before.drop count, (line.before.take count).reverse ++ line.after⟩

/-- Moves the cursor to the right by at most the given number of characters. -/
def moveRight (line : QueryLine) (count : Nat) : QueryLine :=
  ⟨(line.after.take count).reverse ++ line.before, line.after.drop count⟩

/-- The number of characters between the cursor and the nearest line end. -/
def column (text : Text) : Nat := (text.takeWhile (· ≠ '\n')).length

/-- Moves the cursor one character to the left. -/
def left (line : QueryLine) : QueryLine := line.moveLeft (min 1 (column line.before))

/-- Moves the cursor one character to the right. -/
def right (line : QueryLine) : QueryLine := line.moveRight (min 1 (column line.after))

/-- Moves the cursor to the beginning of its line. -/
def toStart (line : QueryLine) : QueryLine := line.moveLeft (column line.before)

/-- Moves the cursor to the end of its line. -/
def toEnd (line : QueryLine) : QueryLine := line.moveRight (column line.after)

end QueryLine

end Winnow
