import Winnow.Text.Basic
import Winnow.Unicode.Normalization

/-!
# Collation

Texts are compared code point by code point after compatibility composition, up to a number of
characters. A null character ends a text for the collating rules of a locale, so a text that holds
one cannot be compared.
-/

namespace Winnow.Ranking

/-- Why two texts cannot be compared. -/
inductive CollationError
  | embeddedNull
  deriving DecidableEq, Repr

/-- The wording of an error. -/
def CollationError.message : CollationError → String
  | embeddedNull => "embedded null character"

/-- The composed code points of a text. -/
def composed (text : Text) : List Nat := Unicode.normalize (text.map Char.toNat)

/-- The beginning of a list; a negative count leaves that many members off the end. -/
def cut {α : Type} (count : Int) (list : List α) : List α :=
  if 0 ≤ count then list.take count.toNat else list.take (list.length - count.natAbs)

/-- Compares code points one after the other; a list comes before its extensions. -/
def compareCodes : List Nat → List Nat → Ordering
  | [], [] => .eq
  | [], _ :: _ => .lt
  | _ :: _, [] => .gt
  | first :: left, second :: right =>
    match compare first second with
    | .eq => compareCodes left right
    | order => order

/-- Compares the first `count` code points of two texts. -/
def localeCompare (left right : Text) (count : Int) : Except CollationError Ordering :=
  let left := cut count (composed left)
  let right := cut count (composed right)
  if left.contains 0 || right.contains 0 then .error .embeddedNull
  else .ok (compareCodes left right)

end Winnow.Ranking
