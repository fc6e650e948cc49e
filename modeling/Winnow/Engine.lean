import Winnow.Query.Token
import Winnow.Ranking.Alignment
import Winnow.Ranking.EditDistance
import Winnow.Ranking.Collation
import Winnow.Ranking.Sort
import Winnow.Style.Span

/-!
# Filtering and ranking

An engine holds a compiled query and evaluates it against lists of candidates. A limit on the number
of candidates or a deadline ends the evaluation early. A ranked result is sorted by score, then by
collation, then by the place in the input.
-/

namespace Winnow

/-- A candidate that passed the filter. -/
structure Entry where
  index : Nat
  text : Text
  score : Int
  deriving DecidableEq, Repr

/-- The result of filtering a list of candidates. -/
structure FilterResult where
  entries : List Entry
  evaluated : Nat
  truncated : Bool
  deriving DecidableEq, Repr

/-- Compares two entries by score, collation and place. -/
def compareEntries (left right : Entry) : Except Ranking.CollationError Ordering :=
  if left.score ≠ right.score then .ok (compare left.score right.score)
  else
    match Ranking.localeCompare left.text right.text (max left.text.length right.text.length) with
    | .error problem => .error problem
    | .ok .eq => .ok (compare left.index right.index)
    | .ok order => .ok order

/-- Whether an entry is ranked before another one. -/
def rankedBefore (left right : Entry) : Except Ranking.CollationError Bool :=
  (compareEntries left right).map fun order => order == .lt

/-- A compiled query with the way its results are ranked. -/
structure Engine where
  tokens : TokenSet
  sort : Bool
  levenshteinSort : Bool
  deriving DecidableEq, Repr

/-- What bounds an evaluation: a number of candidates, and a number of seconds. Time is not
measured: a deadline is either over when the evaluation begins or never reached. -/
structure Budget where
  limit : Option Int
  deadline : Option Binary64
  deriving DecidableEq, Repr

namespace Budget

/-- No bound. -/
def unlimited : Budget := ⟨none, none⟩

/-- Whether a deadline is over when the evaluation begins. -/
def isOver (budget : Budget) : Bool :=
  match budget.deadline with
  | some .notANumber => false
  | some seconds => !seconds.isPositive
  | none => false

/-- Whether the evaluation stops before the next candidate. -/
def stopsAfter (budget : Budget) (evaluated : Nat) : Bool :=
  budget.isOver ||
    match budget.limit with
    | some limit => decide (limit ≤ evaluated)
    | none => false

end Budget

namespace Engine

/-- Compiles a query. -/
def ofQuery (query : Text) (options : MatchOptions) (sort levenshteinSort : Bool) :
    Except Regex.Failure Engine :=
  (TokenSet.compile query options).map fun tokens => ⟨tokens, sort, levenshteinSort⟩

/-- The query as typed. -/
def query (engine : Engine) : Text := engine.tokens.query

/-- The options of the query. -/
def options (engine : Engine) : MatchOptions := engine.tokens.options

/-- Whether fuzzy scores rank the results. -/
def ranksByAlignment (engine : Engine) : Bool :=
  engine.sort && engine.options.method = .fuzzy

/-- Whether results are put into a new order. -/
def isRanked (engine : Engine) : Bool :=
  !engine.tokens.tokens.isEmpty && (engine.levenshteinSort || engine.ranksByAlignment)

/-- The score of an accepted candidate; smaller is better. -/
def score (engine : Engine) (candidate : Text) : Int :=
  if engine.levenshteinSort then
    Ranking.editDistance Ranking.saturatedDistance engine.query candidate
      engine.options.caseSensitive
  else if engine.ranksByAlignment then
    Ranking.fuzzyScore engine.query candidate engine.options.caseSensitive
  else 0

/-- Evaluates candidates from an index on, as long as the budget lasts. The entries are in the order
of the input. -/
def evaluateFrom (engine : Engine) (budget : Budget) (index : Nat) : List Text → FilterResult
  | [] => ⟨[], index, false⟩
  | text :: rest =>
    if budget.stopsAfter index then ⟨[], index, true⟩
    else
      let result := engine.evaluateFrom budget (index + 1) rest
      if engine.tokens.accepts text then
        let score := if engine.isRanked then engine.score text else 0
        { result with entries := ⟨index, text, score⟩ :: result.entries }
      else result

/-- Filters and ranks candidates. -/
def filter (engine : Engine) (candidates : List Text) (budget : Budget) :
    Except Ranking.CollationError FilterResult :=
  let result := engine.evaluateFrom budget 0 candidates
  if engine.isRanked then
    (Ranking.sortBy rankedBefore result.entries).map fun entries => { result with entries }
  else .ok result

/-- Every stretch of a candidate that the query matches. -/
def highlight (engine : Engine) (candidate : Text) (style : Style) : List Span :=
  engine.tokens.highlight candidate style

end Engine

end Winnow
