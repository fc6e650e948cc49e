import Winnow.Ranking.Boundary
import Winnow.Text.Case

/-!
# Fuzzy scores

The score of a pattern against a candidate is the value of the best alignment of its characters, in
order, with characters of the candidate. It is computed row by row: a row holds, for every position
of the candidate, the best value of an alignment of the pattern read so far whose last character
stands there. A row is made from the one before by a single pass that carries four running values.
-/

namespace Winnow.Ranking

/-- Longer candidates are not scored. -/
def longestScored : Nat := 256

/-- The value of a cell that no alignment reaches. -/
def unreachable : Int := -1073741824

/-- The worst score. -/
def worstScore : Int := -unreachable

/-- What a character skipped before the first aligned one adds. -/
def leadingGapScore : Int := -4

/-- What a character adds that directly follows the one aligned before it. -/
def consecutiveScore : Int := wordStartScore + gapScore

/-- Values below this one stem from a cell that no alignment reaches. -/
def reachableFloor : Int := -536870912

/-- What the pass over a row carries along: the cell to the left in the row before, and the best
cell of the row before up to there, gaps being counted. -/
structure Running where
  left : Int
  bestLeft : Int
  deriving DecidableEq, Repr

/-- Nothing has been passed. -/
def Running.start : Running := ⟨unreachable, unreachable⟩

/-- One position of the candidate as a row sees it: its character, its bonus, and its cell in the
row before. -/
structure Column where
  char : Char
  bonus : Int
  previous : Int
  deriving DecidableEq, Repr

/-- The running values behind a column. -/
def Running.pass (running : Running) (column : Column) : Running :=
  ⟨column.previous, max (running.bestLeft + gapScore) column.previous⟩

/-- The new cell of a column for a pattern character whose bonus counts `weight` times. -/
def cell (isFirst : Bool) (weight : Int) (char : Char) (position : Nat) (running : Running)
    (column : Column) : Int :=
  if char = column.char then
    let bonus := column.bonus * weight
    if isFirst then leadingGapScore * position + bonus
    else max (running.left + consecutiveScore) (running.bestLeft + bonus)
  else unreachable

/-- The new row from a position on. -/
def rowFrom (isFirst : Bool) (weight : Int) (char : Char) (position : Nat) (running : Running) :
    List Column → List Int
  | [] => []
  | column :: rest =>
    cell isFirst weight char position running column
      :: rowFrom isFirst weight char (position + 1) (running.pass column) rest

/-- The columns of a candidate over a row. -/
def columns : Text → List Int → List Int → List Column
  | char :: text, bonus :: bonuses, previous :: row =>
    ⟨char, bonus, previous⟩ :: columns text bonuses row
  | _, _, _ => []

/-- The weight of a character that begins a word of the pattern. -/
def wordStartWeight : Int := 2

/-- The weight of any other character. -/
def innerWeight : Int := 1

/-- The last row for the rest of a pattern. `isFirst` tells that no character has been aligned and
`startsWord` that the next one begins a word; blanks only separate words. -/
def lastRow (candidate : Text) (bonuses : List Int) (isFirst startsWord : Bool) (row : List Int) :
    Text → List Int
  | [] => row
  | char :: rest =>
    if Text.isBlank char then lastRow candidate bonuses isFirst true row rest
    else
      let weight := if startsWord then wordStartWeight else innerWeight
      let next := rowFrom isFirst weight char 0 .start (columns candidate bonuses row)
      lastRow candidate bonuses false false next rest

/-- The best value of a row, every position behind a cell counting as a gap. -/
def bestOfRow (row : List Int) : Int :=
  row.foldl (fun best value => max (best + gapScore) value) unreachable

/-- How well a pattern aligns to a candidate; smaller is better. -/
def fuzzyScore (pattern candidate : Text) (caseSensitive : Bool) : Int :=
  if candidate.length > longestScored then worstScore
  else if pattern.strip.isEmpty then 0
  else
    let bonuses := positionScores candidate
    let fold := if caseSensitive then id else Text.foldCase
    let row := candidate.map fun _ => unreachable
    let best := bestOfRow (lastRow (fold candidate) bonuses true true row (fold pattern))
    if best < reachableFloor then worstScore else -best

end Winnow.Ranking
