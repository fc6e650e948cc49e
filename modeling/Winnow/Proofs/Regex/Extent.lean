import Winnow.Proofs.Regex.Reaching

/-!
# Where matches lie

A run never goes back behind the offset where it began (`Node.Reaches.offset_le`),
and neither it nor a group ever leaves the text (`Node.Reaches.liesIn`), whatever
looks, references and repetitions a pattern has. A match therefore lies between
the offset from which it was searched and the end of the text (`Match.LiesIn`),
and the matches of a text follow each other from left to right
(`pairwise_allMatches`). Which stretches they cover is settled by what is covered
from each single offset (`Node.CoversAlike`).
-/

namespace Winnow.Regex

variable {chars : Array Char}

/-! ## States -/

/-- A state lies in a text of some size, and so does all that its groups have matched. -/
structure MatchState.LiesIn (size : Nat) (state : MatchState) : Prop where
  offset_le : state.offset ≤ size
  stop_le : ∀ capture ∈ state.captures, capture.stop ≤ size

/-- Characters that are the same as earlier ones do exist. -/
theorem add_le_size_of_sameText {rule : CaseRule} {left right count : Nat}
    (inside : right ≤ chars.size) (same : sameText chars rule left right count = true) :
    right + count ≤ chars.size := by
  induction count generalizing left right with
  | zero => exact inside
  | succ count ih =>
      rw [sameText] at same
      split at same
      · next first second _ here =>
          obtain ⟨bound, -⟩ := Array.getElem?_eq_some_iff.mp here
          have further := ih bound (Bool.and_eq_true_iff.mp same).2
          omega
      · cases same

section

variable {node : Node} {state later : MatchState}

/-- A pattern only goes on: looks come back to where they began, everything else advances. -/
theorem Node.Reaches.offset_le (reaches : node.Reaches chars state later) :
    state.offset ≤ later.offset := by
  induction reaches with
  | empty | position | look | lookNot | done => exact Nat.le_refl _
  | char | backreference => exact Nat.le_add_right _ _
  | seq _ _ first second => exact Nat.le_trans first second
  | altFirst _ ih | altSecond _ ih | capture _ ih | atomic _ ih | present _ _ ih | absent _ _ ih =>
      exact ih
  | round _ _ _ first rest => exact Nat.le_trans first rest

/-- A pattern does not leave the text, and its groups match inside the text. -/
theorem Node.Reaches.liesIn (reaches : node.Reaches chars state later)
    (inside : state.LiesIn chars.size) : later.LiesIn chars.size := by
  induction reaches with
  | empty | position | lookNot | done => exact inside
  | char here =>
      obtain ⟨bound, -⟩ := Array.getElem?_eq_some_iff.mp here
      exact ⟨bound, inside.stop_le⟩
  | backreference _ same => exact ⟨add_le_size_of_sameText inside.offset_le same, inside.stop_le⟩
  | seq _ _ first second => exact second (first inside)
  | altFirst _ ih | altSecond _ ih | atomic _ ih | present _ _ ih | absent _ _ ih => exact ih inside
  | capture _ ih =>
      have behind := ih inside
      exact ⟨behind.offset_le, List.forall_mem_cons.mpr ⟨behind.offset_le, behind.stop_le⟩⟩
  | look _ _ ih =>
      -- The offset is that of the look; only what its groups have matched is kept.
      have back := ih ⟨Nat.le_trans (Nat.sub_le _ _) inside.offset_le, inside.stop_le⟩
      exact ⟨inside.offset_le, back.stop_le⟩
  | round _ _ _ first rest => exact rest (first inside)

end

/-! ## Matches -/

/-- A match lies between an offset and the end of a text of some size, and its groups have matched
inside the text. -/
structure Match.LiesIn (start size : Nat) (found : Match) : Prop where
  start_le : start ≤ found.start
  start_le_stop : found.start ≤ found.stop
  stop_le : found.stop ≤ size
  capture_le : ∀ capture ∈ found.captures, capture.stop ≤ size

section

variable {node : Node} {mustAdvance : Bool} {start count : Nat} {found : Match}

theorem start_of_matchAt (matched : node.matchAt chars mustAdvance start = some found) :
    found.start = start := by
  obtain ⟨_, -, rfl⟩ := Option.map_eq_some_iff.mp matched
  rfl

/-- A match that begins in the text ends in it. -/
theorem liesIn_of_matchAt (inside : start ≤ chars.size)
    (matched : node.matchAt chars mustAdvance start = some found) :
    found.LiesIn start chars.size := by
  have begins : found.start = start := start_of_matchAt matched
  obtain ⟨later, reached, stop, captures⟩ := exists_reached_of_matchAt matched
  have lies : later.LiesIn chars.size :=
    reached.liesIn ⟨begins ▸ inside, fun _ none => absurd none List.not_mem_nil⟩
  exact ⟨Nat.le_of_eq begins.symm, stop ▸ reached.offset_le, stop ▸ lies.offset_le,
    captures ▸ lies.stop_le⟩

/-- What is searched from an offset lies behind it, as long as no offset beyond the end is tried. -/
theorem liesIn_of_searchFrom (room : count ≤ chars.size + 1 - start)
    (searched : node.searchFrom chars mustAdvance start count = some found) :
    found.LiesIn start chars.size := by
  induction count generalizing mustAdvance start with
  | zero => cases searched
  | succ count ih =>
      rw [Node.searchFrom] at searched
      split at searched
      · next matched =>
          obtain rfl := Option.some.inj searched
          exact liesIn_of_matchAt (by omega) matched
      · have further := ih (by omega) searched
        exact { further with start_le := Nat.le_of_succ_le further.start_le }

/-- Every match from an offset on lies behind it. -/
theorem liesIn_of_mem_matchesFrom
    (member : found ∈ node.matchesFrom chars mustAdvance start count) :
    found.LiesIn start chars.size := by
  induction count generalizing mustAdvance start with
  | zero => cases member
  | succ count ih =>
      rw [Node.matchesFrom] at member
      split at member
      · next first searched =>
          have lies := liesIn_of_searchFrom (Nat.le_refl _) searched
          rcases List.mem_cons.mp member with rfl | later
          · exact lies
          · have behind := ih later
            have before : start ≤ first.stop := Nat.le_trans lies.start_le lies.start_le_stop
            exact { behind with start_le := Nat.le_trans before behind.start_le }
      · cases member

/-- Matches from an offset on end before the next ones begin. -/
theorem pairwise_matchesFrom (node : Node) (mustAdvance : Bool) (start count : Nat) :
    (node.matchesFrom chars mustAdvance start count).Pairwise
      fun left right => left.stop ≤ right.start := by
  induction count generalizing mustAdvance start with
  | zero => exact .nil
  | succ count ih =>
      rw [Node.matchesFrom]
      split
      · exact .cons (fun right member => (liesIn_of_mem_matchesFrom member).start_le) (ih _ _)
      · exact .nil

theorem liesIn_of_mem_allMatches (member : found ∈ node.allMatches chars) :
    found.LiesIn 0 chars.size :=
  liesIn_of_mem_matchesFrom member

/-- The matches of a text follow each other from left to right. -/
theorem pairwise_allMatches (node : Node) :
    (node.allMatches chars).Pairwise fun left right => left.stop ≤ right.start :=
  pairwise_matchesFrom node false 0 _

end

/-! ## Stretches -/

/-- Two patterns cover the same in a text: where one of them matches, so does the other one, with
the same end. Their groups may differ. -/
def Node.CoversAlike (chars : Array Char) (left right : Node) : Prop :=
  ∀ mustAdvance start, (left.matchAt chars mustAdvance start).map Match.span
    = (right.matchAt chars mustAdvance start).map Match.span

section

variable {left right : Node}

/-- Patterns that cover the same find the same. -/
theorem Node.CoversAlike.searchFrom (alike : Node.CoversAlike chars left right)
    (mustAdvance : Bool) (start count : Nat) :
    (left.searchFrom chars mustAdvance start count).map Match.span
      = (right.searchFrom chars mustAdvance start count).map Match.span := by
  induction count generalizing mustAdvance start with
  | zero => rfl
  | succ count ih =>
      have here := alike mustAdvance start
      rw [Node.searchFrom, Node.searchFrom]
      cases first : left.matchAt chars mustAdvance start with
      | none =>
          rw [first, Option.map_none, eq_comm, Option.map_eq_none_iff] at here
          rw [here]
          exact ih false (start + 1)
      | some found =>
          rw [first, Option.map_some, eq_comm, Option.map_eq_some_iff] at here
          obtain ⟨other, second, same⟩ := here
          rw [second, Option.map_some, Option.map_some, same]

theorem Node.CoversAlike.search (alike : Node.CoversAlike chars left right) :
    (left.search chars).map Match.span = (right.search chars).map Match.span :=
  alike.searchFrom false 0 (chars.size + 1)

/-- Patterns that cover the same have matches that cover the same. -/
theorem Node.CoversAlike.matchesFrom (alike : Node.CoversAlike chars left right)
    (mustAdvance : Bool) (start count : Nat) :
    (left.matchesFrom chars mustAdvance start count).map Match.span
      = (right.matchesFrom chars mustAdvance start count).map Match.span := by
  induction count generalizing mustAdvance start with
  | zero => rfl
  | succ count ih =>
      have next := alike.searchFrom mustAdvance start (chars.size + 1 - start)
      rw [Node.matchesFrom, Node.matchesFrom]
      cases first : left.searchFrom chars mustAdvance start (chars.size + 1 - start) with
      | none =>
          rw [first, Option.map_none, eq_comm, Option.map_eq_none_iff] at next
          rw [next]
      | some found =>
          rw [first, Option.map_some, eq_comm, Option.map_eq_some_iff] at next
          obtain ⟨other, second, same⟩ := next
          obtain ⟨begins, ends⟩ : other.start = found.start ∧ other.stop = found.stop :=
            Prod.mk.inj same
          rw [second]
          dsimp only
          rw [List.map_cons, List.map_cons, same, begins, ends, ih]

theorem Node.CoversAlike.allMatches (alike : Node.CoversAlike chars left right) :
    (left.allMatches chars).map Match.span = (right.allMatches chars).map Match.span :=
  alike.matchesFrom false 0 _

end

end Winnow.Regex
