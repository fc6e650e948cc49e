import Winnow.Proofs.Regex.Extent

/-!
# Which match is preferred

Greedy rounds of a test on one character end at the last offset from which what
follows succeeds (`greedy_longest`), and a search takes the leftmost match
(`leftmost_of_searchFrom`). A pattern that never matches nothing is scanned for
by searching again and again behind the last match, until nothing is found:
`Node.Scans` says so without counting searches, and `scans_allMatches` that the
matches of a text are such a scan.
-/

namespace Winnow.Regex

variable {chars : Array Char}

/-! ## The longest run -/

/-- The characters from one offset up to another one all pass a test. -/
structure CharTest.Covers (test : CharTest) (chars : Array Char) (start stop : Nat) : Prop where
  le : start ≤ stop
  accepts : ∀ between, start ≤ between → between < stop →
    ∃ found, chars[between]? = some found ∧ test.accepts found = true

section

variable {test : CharTest} {start stop : Nat}

theorem CharTest.covers_self (test : CharTest) (start : Nat) : test.Covers chars start start :=
  ⟨Nat.le_refl _, fun _ from_ before => absurd from_ (Nat.not_le.mpr before)⟩

/-- A character that passes can be put in front. -/
theorem CharTest.Covers.cons {found : Char} (here : chars[start]? = some found)
    (passed : test.accepts found = true) (covers : test.Covers chars (start + 1) stop) :
    test.Covers chars start stop := by
  refine ⟨Nat.le_of_succ_le covers.le, fun between after before => ?_⟩
  rcases Nat.eq_or_lt_of_le after with rfl | later
  · exact ⟨found, here, passed⟩
  · exact covers.accepts between later before

theorem CharTest.Covers.head (covers : test.Covers chars start stop) (more : start < stop) :
    (∃ found, chars[start]? = some found ∧ test.accepts found = true) ∧
      test.Covers chars (start + 1) stop :=
  ⟨covers.accepts start (Nat.le_refl _) more, more,
    fun between after before => covers.accepts between (Nat.le_of_succ_le after) before⟩

/-- Behind the end of the text nothing passes. -/
theorem CharTest.Covers.eq_of_size_le (covers : test.Covers chars start stop)
    (outside : chars.size ≤ start) : start = stop := by
  rcases Nat.eq_or_lt_of_le covers.le with same | more
  · exact same
  · obtain ⟨⟨found, here, -⟩, -⟩ := covers.head more
    obtain ⟨inside, -⟩ := Array.getElem?_eq_some_iff.mp here
    omega

end

section

variable {test : CharTest} {rounds offset : Nat} {from? : Option Nat} {captures : List Capture}
  {next : Continuation}

/-- A round of a test on one character is a step if the character passes, and else the rounds
end. -/
theorem greedy_succ_of_char (moved : from? ≠ some offset) :
    (∃ found, chars[offset]? = some found ∧ test.accepts found = true ∧
        Runner.greedy ((Node.char test).run chars) (rounds + 1) from? ⟨offset, captures⟩ next
          = (Runner.greedy ((Node.char test).run chars) rounds (some offset)
              ⟨offset + 1, captures⟩ next).or (next ⟨offset, captures⟩)) ∨
      ((∀ found, chars[offset]? = some found → test.accepts found ≠ true) ∧
        Runner.greedy ((Node.char test).run chars) (rounds + 1) from? ⟨offset, captures⟩ next
          = next ⟨offset, captures⟩) := by
  rw [Runner.greedy, if_neg moved, Node.run_char]
  cases here : chars[offset]? with
  | none => exact .inr ⟨fun _ same => absurd same.symm (Option.some_ne_none _), rfl⟩
  | some found =>
      by_cases passed : test.accepts found = true
      · refine .inl ⟨found, rfl, passed, ?_⟩
        simp only [passed, if_true, MatchState.advance]
        cases Runner.greedy _ rounds (some offset) ⟨offset + 1, captures⟩ next <;> rfl
      · refine .inr ⟨fun other same => Option.some.inj same ▸ passed, ?_⟩
        simp only [if_neg passed]

/-- If greedy rounds fail, what follows fails from every offset that they could have reached. -/
theorem greedy_eq_none (moved : from? ≠ some offset) (enough : chars.size < rounds + offset)
    (fails : Runner.greedy ((Node.char test).run chars) rounds from? ⟨offset, captures⟩ next = none)
    {stop : Nat} (covers : test.Covers chars offset stop) : next ⟨stop, captures⟩ = none := by
  induction rounds generalizing from? offset with
  | zero =>
      obtain rfl : offset = stop := covers.eq_of_size_le (by omega)
      exact fails
  | succ rounds ih =>
      rcases Nat.eq_or_lt_of_le covers.le with rfl | more
      · rcases greedy_succ_of_char moved with ⟨_, -, -, step⟩ | ⟨-, step⟩
        · exact (Option.or_eq_none_iff.mp (step.symm.trans fails)).2
        · exact step.symm.trans fails
      · obtain ⟨⟨found, here, passed⟩, rest⟩ := covers.head more
        rcases greedy_succ_of_char moved with ⟨_, -, -, step⟩ | ⟨rejected, -⟩
        · exact ih (by simp) (by omega) (Option.or_eq_none_iff.mp (step.symm.trans fails)).1 rest
        · exact absurd passed (rejected found here)

/-- Greedy rounds end at the last offset within reach from which what follows succeeds. -/
theorem greedy_longest {final : MatchState} (moved : from? ≠ some offset)
    (enough : chars.size < rounds + offset)
    (ran : Runner.greedy ((Node.char test).run chars) rounds from? ⟨offset, captures⟩ next
      = some final) :
    ∃ stop, test.Covers chars offset stop ∧ next ⟨stop, captures⟩ = some final ∧
      ∀ further, stop < further → test.Covers chars offset further →
        next ⟨further, captures⟩ = none := by
  induction rounds generalizing from? offset with
  | zero =>
      refine ⟨offset, test.covers_self _, ran, fun further more covers => ?_⟩
      exact absurd (covers.eq_of_size_le (by omega)) (Nat.ne_of_lt more)
  | succ rounds ih =>
      have away : some offset ≠ some (offset + 1) := by simp
      have room : chars.size < rounds + (offset + 1) := by omega
      rcases greedy_succ_of_char moved with ⟨found, here, passed, step⟩ | ⟨rejected, step⟩
      · rcases Option.or_eq_some_iff.mp (step.symm.trans ran) with later | ⟨fails, ends⟩
        · obtain ⟨stop, covers, succeeds, last⟩ := ih away room later
          refine ⟨stop, covers.cons here passed, succeeds, fun further more others => ?_⟩
          have begins : offset < further := Nat.lt_of_lt_of_le covers.le (Nat.le_of_lt more)
          exact last further more (others.head begins).2
        · -- The step is given back: nothing behind it succeeds.
          refine ⟨offset, test.covers_self _, ends, fun further more covers => ?_⟩
          exact greedy_eq_none away room fails (covers.head more).2
      · refine ⟨offset, test.covers_self _, step.symm.trans ran, fun further more covers => ?_⟩
        obtain ⟨⟨found, here, passed⟩, -⟩ := covers.head more
        exact absurd passed (rejected found here)

/-- A greedy repetition of a test ends at the last offset within reach from which what follows
succeeds. -/
theorem star_longest {final : MatchState}
    (ran : (Node.repetition .greedy 0 none (.char test)).run chars ⟨offset, captures⟩ next
      = some final) :
    ∃ stop, test.Covers chars offset stop ∧ next ⟨stop, captures⟩ = some final ∧
      ∀ further, stop < further → test.Covers chars offset further →
        next ⟨further, captures⟩ = none := by
  have enough : chars.size < chars.size - offset + 2 + offset := by omega
  have rounds : Runner.greedy ((Node.char test).run chars) (chars.size - offset + 2) none
      ⟨offset, captures⟩ next = some final := ran
  exact greedy_longest (by simp) enough rounds

end

/-! ## The leftmost match -/

section

variable {node : Node} {start count : Nat} {found : Match}

/-- What a search finds is the leftmost match. -/
theorem leftmost_of_searchFrom (searched : node.searchFrom chars false start count = some found) :
    start ≤ found.start ∧ node.matchAt chars false found.start = some found ∧
      ∀ earlier, start ≤ earlier → earlier < found.start →
        node.matchAt chars false earlier = none := by
  induction count generalizing start with
  | zero => cases searched
  | succ count ih =>
      rw [Node.searchFrom] at searched
      split at searched
      · next first matched =>
          obtain rfl : first = found := Option.some.inj searched
          have begins : first.start = start := start_of_matchAt matched
          exact ⟨Nat.le_of_eq begins.symm, by rwa [begins], fun earlier after before => by omega⟩
      · next fails =>
          obtain ⟨behind, matched, none⟩ := ih searched
          refine ⟨Nat.le_of_succ_le behind, matched, fun earlier after before => ?_⟩
          rcases Nat.eq_or_lt_of_le after with rfl | later
          · exact fails
          · exact none earlier later before

/-- Where a search finds nothing, no match begins. -/
theorem matchAt_eq_none_of_searchFrom
    (searched : node.searchFrom chars false start count = none) {place : Nat}
    (after : start ≤ place) (before : place < start + count) :
    node.matchAt chars false place = none := by
  induction count generalizing start with
  | zero => omega
  | succ count ih =>
      rw [Node.searchFrom] at searched
      split at searched
      · cases searched
      · next fails =>
          rcases Nat.eq_or_lt_of_le after with rfl | later
          · exact fails
          · exact ih searched later (by omega)

end

/-- Matches from an offset on: each is the leftmost one behind the one before it, and behind the
last one there are no more. -/
inductive Node.Scans (node : Node) (chars : Array Char) : Nat → List Match → Prop
  | done {start : Nat} :
      (∀ place, start ≤ place → place ≤ chars.size → node.matchAt chars false place = none) →
      Scans node chars start []
  | found {start : Nat} {found : Match} {others : List Match} :
      start ≤ found.start → node.matchAt chars false found.start = some found →
      (∀ earlier, start ≤ earlier → earlier < found.start →
        node.matchAt chars false earlier = none) →
      Scans node chars found.stop others → Scans node chars start (found :: others)

/-- The matches of a pattern that never matches nothing are a scan, if they are counted far
enough. -/
theorem scans_matchesFrom {node : Node}
    (consumes : ∀ place found, node.matchAt chars false place = some found →
      found.start < found.stop) {start count : Nat} (enough : chars.size < start + count) :
    node.Scans chars start (node.matchesFrom chars false start count) := by
  induction count generalizing start with
  | zero => exact .done fun place after before => by omega
  | succ count ih =>
      rw [Node.matchesFrom]
      split
      · next found searched =>
          obtain ⟨behind, matched, leftmost⟩ := leftmost_of_searchFrom searched
          have moves : found.start < found.stop := consumes _ _ matched
          have advanced : (found.stop == found.start) = false := by
            rw [beq_eq_false_iff_ne]
            omega
          rw [advanced]
          exact .found behind matched leftmost (ih (by omega))
      · next searched =>
          exact .done fun place after before =>
            matchAt_eq_none_of_searchFrom searched after (by omega)

/-- The matches of a text by a pattern that never matches nothing are a scan of the text. -/
theorem scans_allMatches {node : Node}
    (consumes : ∀ place found, node.matchAt chars false place = some found →
      found.start < found.stop) : node.Scans chars 0 (node.allMatches chars) :=
  scans_matchesFrom consumes (by omega)

end Winnow.Regex
