/-!
# Sorting by a comparison that can fail

Stable binary insertion. The run at the beginning that is in order already, or strictly in reverse
order, is kept or reversed; each further element is put behind the elements that it is not below.
The comparisons are made in a fixed order, so the first failure among them is the failure of the
sort.
-/

namespace Winnow.Ranking

variable {α ε : Type}

/-- A test whether one element comes before another. -/
abbrev Before (α ε : Type) := α → α → Except ε Bool

/-- Continues the run that ends with `last`: the elements that keep to the direction, last one
first, and the rest. -/
def runFrom (before : Before α ε) (descending : Bool) (run : List α) (last : α) :
    List α → Except ε (List α × List α)
  | [] => .ok (last :: run, [])
  | next :: rest => do
    if (← before next last) = descending then runFrom before descending (last :: run) next rest
    else pure (last :: run, next :: rest)

/-- The run at the beginning in order, and the rest. -/
def initialRun (before : Before α ε) : List α → Except ε (List α × List α)
  | [] => .ok ([], [])
  | [only] => .ok ([only], [])
  | first :: second :: rest => do
    let descending ← before second first
    let (run, rest) ← runFrom before descending [first] second rest
    pure (if descending then run else run.reverse, rest)

/-- The place for an element between `low` and `high` in a sorted array, found by halving; `steps`
bounds the number of halvings. -/
def placeFor (before : Before α ε) (sorted : Array α) (element : α) (low high : Nat) :
    (steps : Nat) → Except ε Nat
  | 0 => .ok low
  | steps + 1 =>
    if low < high then
      let middle := low + (high - low) / 2
      match sorted[middle]? with
      | some other => do
        if ← before element other then placeFor before sorted element low middle steps
        else placeFor before sorted element (middle + 1) high steps
      | none => .ok low
    else .ok low

/-- Puts an element into its place in a sorted list. -/
def insertSorted (before : Before α ε) (sorted : List α) (element : α) : Except ε (List α) := do
  let place ← placeFor before sorted.toArray element 0 sorted.length (sorted.length + 1)
  pure (sorted.take place ++ element :: sorted.drop place)

/-- Puts elements one after the other into their places. -/
def insertAll (before : Before α ε) (sorted : List α) : List α → Except ε (List α)
  | [] => .ok sorted
  | element :: rest => do
    let sorted ← insertSorted before sorted element
    insertAll before sorted rest

/-- Sorts a list. -/
def sortBy (before : Before α ε) (list : List α) : Except ε (List α) := do
  let (run, rest) ← initialRun before list
  insertAll before run rest

end Winnow.Ranking
