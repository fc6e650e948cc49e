/-!
# Runs of code points

A set of code points is a list of inclusive runs in increasing order, and a letter case mapping is
a list of runs whose members all move by the same distance. Both forms are plain lists of numbers,
so a membership test evaluates in the kernel as well as at run time.
-/

namespace Winnow.Unicode

/-- Inclusive runs `(first, last)` in increasing order. -/
abbrev Runs := List (Nat × Nat)

/-- Membership in sorted runs: the search ends at the first run that starts past the code point. -/
def inRuns : Runs → Nat → Bool
  | [], _ => false
  | (first, last) :: rest, code =>
    if code < first then false else if code ≤ last then true else inRuns rest code

/-- The code points `first`, `first + stride`, …, `last`, which map to `target`,
`target + stride`, … in the same order. -/
structure MappingRun where
  first : Nat
  last : Nat
  stride : Nat
  target : Nat

namespace MappingRun

/-- The image of a code point of this run. -/
def image? (run : MappingRun) (code : Nat) : Option Nat :=
  if run.first ≤ code ∧ code ≤ run.last ∧ (code - run.first) % run.stride = 0 then
    some (run.target + (code - run.first))
  else none

/-- The code point of this run that has the given image. -/
def preimage? (run : MappingRun) (image : Nat) : Option Nat :=
  if run.target ≤ image ∧ image - run.target ≤ run.last - run.first
      ∧ (image - run.target) % run.stride = 0 then
    some (run.first + (image - run.target))
  else none

/-- Whether some member of this run lies between `low` and `high`, both included. -/
def meets (run : MappingRun) (low high : Nat) : Bool :=
  let skipped := (low - run.first + run.stride - 1) / run.stride
  let member := run.first + skipped * run.stride
  decide (member ≤ run.last ∧ member ≤ high)

end MappingRun

/-- The image of a code point under sorted mapping runs, itself where no run holds it. -/
def mapped : List MappingRun → Nat → Nat
  | [], code => code
  | run :: rest, code =>
    if code < run.first then
      code
    else
      match run.image? code with
      | some image => image
      | none => mapped rest code

end Winnow.Unicode
