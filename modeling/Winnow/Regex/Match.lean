import Winnow.Regex.Node

/-!
# Matching

A compiled pattern is run against a text by backtracking: `Node.run` gets what has to hold
afterwards as a function and returns the first final state, in order of preference, that this
function accepts. Repetitions try a further round only if the last one has consumed something.
-/

namespace Winnow.Regex

/-- Where a group matched last. -/
structure Capture where
  group : Nat
  start : Nat
  stop : Nat
  deriving DecidableEq, Repr

/-- A point of a match: the offset that has been reached, and what groups have matched, the latest
first. -/
structure MatchState where
  offset : Nat
  captures : List Capture
  deriving DecidableEq, Repr

namespace MatchState

/-- Where a group matched last. -/
def captureOf? (state : MatchState) (group : Nat) : Option Capture :=
  state.captures.find? fun capture => capture.group == group

/-- The state some characters later. -/
def advance (state : MatchState) (count : Nat) : MatchState :=
  { state with offset := state.offset + count }

/-- The state after a group has matched from the given offset up to here. -/
def record (state : MatchState) (group start : Nat) : MatchState :=
  { state with captures := ⟨group, start, state.offset⟩ :: state.captures }

end MatchState

/-- What has to hold after a part of a pattern has matched. -/
abbrev Continuation := MatchState → Option MatchState

/-- Whether the character at an offset is a word character. -/
def wordAt (text : Array Char) (ascii : Bool) (offset : Nat) : Bool :=
  match text[offset]? with
  | some char => Category.word.holds ascii char.toNat
  | none => false

/-- Whether word characters change at an offset. An empty text has neither boundaries nor other
positions. -/
def changesWord (text : Array Char) (ascii : Bool) (offset : Nat) : Bool :=
  (offset != 0 && wordAt text ascii (offset - 1)) != wordAt text ascii offset

/-- Whether a position passes a test. -/
def Position.holds (text : Array Char) (offset : Nat) : Position → Bool
  | textStart => offset == 0
  | textEnd => offset == text.size
  | lineStart => offset == 0 || text[offset - 1]? == some '\n'
  | lineEnd => offset == text.size || text[offset]? == some '\n'
  | lastLineEnd =>
    offset == text.size || (offset + 1 == text.size && text[offset]? == some '\n')
  | boundary ascii => text.size != 0 && changesWord text ascii offset
  | notBoundary ascii => text.size != 0 && !changesWord text ascii offset

/-- Whether `count` characters from two offsets on are the same under a case rule. -/
def sameText (text : Array Char) (rule : CaseRule) (left right : Nat) : (count : Nat) → Bool
  | 0 => true
  | count + 1 =>
    match text[left]?, text[right]? with
    | some first, some second =>
      rule.lower first.toNat == rule.lower second.toNat
        && sameText text rule (left + 1) (right + 1) count
    | _, _ => false

/-- A part of a pattern as a function of what has to hold afterwards. -/
abbrev Runner := MatchState → Continuation → Option MatchState

namespace Runner

/-- The rounds that a repetition requires. -/
def required (body : Runner) : (count : Nat) → Runner
  | 0, state, next => next state
  | count + 1, state, next => body state fun state => required body count state next

/-- Further rounds as long as they match, at most `rounds`; `from?` is the offset where the round
before began. -/
def greedy (body : Runner) : (rounds : Nat) → (from? : Option Nat) → Runner
  | 0, _, state, next => next state
  | rounds + 1, from?, state, next =>
    if from? = some state.offset then next state
    else
      match body state fun later => greedy body rounds (some state.offset) later next with
      | some final => some final
      | none => next state

/-- Further rounds only where what follows does not match, at most `rounds`. -/
def lazy (body : Runner) : (rounds : Nat) → (from? : Option Nat) → Runner
  | 0, _, state, next => next state
  | rounds + 1, from?, state, next =>
    match next state with
    | some final => some final
    | none =>
      if from? = some state.offset then none
      else body state fun later => lazy body rounds (some state.offset) later next

/-- The state after the most rounds that match, at most `rounds`, each matched on its own. -/
def possessive (body : Runner) : (rounds : Nat) → (from? : Option Nat) → MatchState → MatchState
  | 0, _, state => state
  | rounds + 1, from?, state =>
    if from? = some state.offset then state
    else
      match body state some with
      | some later => possessive body rounds (some state.offset) later
      | none => state

/-- The state after the rounds that are required, each matched on its own. -/
def requiredPossessive (body : Runner) : (count : Nat) → MatchState → Option MatchState
  | 0, state => some state
  | count + 1, state => (body state some).bind (requiredPossessive body count)

/-- A repetition. Beyond the required rounds, one round may be empty and each other one consumes a
character, so the rest of the text bounds their number. -/
def repetition (body : Runner) (greed : Greed) (least : Nat) (most : Option Nat) (size : Nat) :
    Runner := fun state next =>
  let limit (state : MatchState) : Nat :=
    let reachable := size - state.offset + 2
    match most with
    | some most => min (most - least) reachable
    | none => reachable
  match greed with
  | .greedy => required body least state fun state => greedy body (limit state) none state next
  | .lazy => required body least state fun state => lazy body (limit state) none state next
  | .possessive =>
    match requiredPossessive body least state with
    | some state => next (possessive body (limit state) none state)
    | none => none

end Runner

/-- Runs a compiled pattern from a state. -/
def Node.run (text : Array Char) : Node → Runner
  | empty, state, next => next state
  | char test, state, next =>
    match text[state.offset]? with
    | some found => if test.accepts found then next (state.advance 1) else none
    | none => none
  | position test, state, next =>
    if test.holds text state.offset then next state else none
  | backreference group rule, state, next =>
    match state.captureOf? group with
    | some earlier =>
      let length := earlier.stop - earlier.start
      if sameText text rule earlier.start state.offset length then next (state.advance length)
      else none
    | none => none
  | seq first second, state, next =>
    first.run text state fun later => second.run text later next
  | alt first second, state, next =>
    match first.run text state next with
    | some final => some final
    | none => second.run text state next
  | capture group body, state, next =>
    body.run text state fun later => next (later.record group state.offset)
  | atomic body, state, next =>
    match body.run text state some with
    | some later => next later
    | none => none
  | look negated behind body, state, next =>
    let found :=
      if behind ≤ state.offset then
        body.run text { state with offset := state.offset - behind } some
      else none
    match found, negated with
    | some later, false => next { later with offset := state.offset }
    | none, true => next state
    | _, _ => none
  | conditional group present absent, state, next =>
    if (state.captureOf? group).isSome then present.run text state next
    else absent.run text state next
  | repetition greed least most body, state, next =>
    Runner.repetition (body.run text) greed least most text.size state next

/-- A match: where it lies and what its groups matched. -/
structure Match where
  start : Nat
  stop : Nat
  captures : List Capture
  deriving DecidableEq, Repr

/-- The characters that a match covers, as offsets. -/
def Match.span (found : Match) : Nat × Nat := (found.start, found.stop)

/-- What a group of a match covers, if the group took part. -/
def Match.groupSpan? (found : Match) (group : Nat) : Option (Nat × Nat) :=
  (found.captures.find? fun capture => capture.group == group).map fun capture =>
    (capture.start, capture.stop)

/-- The preferred match that begins at an offset; one that must advance is not empty. -/
def Node.matchAt (node : Node) (text : Array Char) (mustAdvance : Bool) (start : Nat) :
    Option Match :=
  (node.run text ⟨start, []⟩ fun state =>
      if mustAdvance && state.offset == start then none else some state).map
    fun state => ⟨start, state.offset, state.captures⟩

/-- The first match that begins at one of `count` offsets; only the first of them demands a match
that advances. -/
def Node.searchFrom (node : Node) (text : Array Char) (mustAdvance : Bool) (start : Nat) :
    (count : Nat) → Option Match
  | 0 => none
  | count + 1 =>
    match node.matchAt text mustAdvance start with
    | some found => some found
    | none => node.searchFrom text false (start + 1) count

/-- The leftmost match of a text. -/
def Node.search (node : Node) (text : Array Char) : Option Match :=
  node.searchFrom text false 0 (text.size + 1)

/-- The matches from an offset on, one after the other, at most `count`. Behind an empty match the
next one may begin at the same offset but must advance. -/
def Node.matchesFrom (node : Node) (text : Array Char) (mustAdvance : Bool) (start : Nat) :
    (count : Nat) → List Match
  | 0 => []
  | count + 1 =>
    match node.searchFrom text mustAdvance start (text.size + 1 - start) with
    | some found =>
      found :: node.matchesFrom text (found.stop == found.start) found.stop count
    | none => []

/-- All matches of a text. At most two of them begin at one offset. -/
def Node.allMatches (node : Node) (text : Array Char) : List Match :=
  node.matchesFrom text false 0 (2 * text.size + 2)

end Winnow.Regex
