import Winnow.Text.Case

/-!
# Edit distance

The least number of insertions, deletions and substitutions of one character that turn one text into
another, computed row by row over the prefixes of the second text.
-/

namespace Winnow.Ranking

/-- The result for texts that are too long to compare. -/
def saturatedDistance : Nat := 4294967295

/-- The distances of one more character from the prefixes of a text, given those of the text read
before. `diagonal` is the cell to the upper left and `left` the cell to the left. -/
def distanceRow (char : Char) (diagonal left : Nat) : Text → List Nat → List Nat
  | other :: rest, above :: row =>
    let substituted := if char = other then diagonal else diagonal + 1
    let value := min substituted (min (above + 1) (left + 1))
    value :: distanceRow char above value rest row
  | _, _ => []

/-- Continues the rows through the rest of the first text; `length` is the number of characters read
before. -/
def distanceFrom (length : Nat) (row : List Nat) (second : Text) : Text → Nat
  | [] => row.getLastD length
  | char :: rest =>
    distanceFrom (length + 1) (distanceRow char length (length + 1) second row) second rest

/-- The edit distance of two texts. -/
def levenshtein (first second : Text) : Nat :=
  distanceFrom 0 (List.range' 1 second.length) second first

/-- The edit distance of two texts, letter case being ignored unless it is asked for. If the shorter
text has `limit` characters the distance is saturated. -/
def editDistance (limit : Nat) (first second : Text) (caseSensitive : Bool) : Nat :=
  if limit ≤ min first.length second.length then saturatedDistance
  else if caseSensitive then levenshtein first second
  else levenshtein first.foldCase second.foldCase

end Winnow.Ranking
