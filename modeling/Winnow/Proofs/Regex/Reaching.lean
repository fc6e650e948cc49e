import Winnow.Proofs.Regex.Matching

/-!
# What a run of a pattern reaches

`Node.Reaches` says step by step which states a pattern can hand on, without an
order of preference and without what has to hold afterwards: a choice may take
either side, a repetition any number of rounds that its bounds allow. A run that
succeeds has handed on a state of this kind (`Node.handsOn`), so what holds for
all reached states holds for what a search finds (`exists_reached_of_searchFrom`).
-/

namespace Winnow.Regex

/-- A pattern can hand on a later state. A look that must fail is taken to succeed anywhere. -/
inductive Node.Reaches (chars : Array Char) : Node → MatchState → MatchState → Prop
  | empty {state : MatchState} : Reaches chars .empty state state
  | char {test : CharTest} {state : MatchState} {found : Char} :
      chars[state.offset]? = some found → test.accepts found = true →
      Reaches chars (.char test) state (state.advance 1)
  | position {test : Position} {state : MatchState} :
      test.holds chars state.offset = true → Reaches chars (.position test) state state
  | backreference {group : Nat} {rule : CaseRule} {state : MatchState} {earlier : Capture} :
      state.captureOf? group = some earlier →
      sameText chars rule earlier.start state.offset (earlier.stop - earlier.start) = true →
      Reaches chars (.backreference group rule) state
        (state.advance (earlier.stop - earlier.start))
  | seq {first second : Node} {state middle later : MatchState} :
      Reaches chars first state middle → Reaches chars second middle later →
      Reaches chars (.seq first second) state later
  | altFirst {first second : Node} {state later : MatchState} :
      Reaches chars first state later → Reaches chars (.alt first second) state later
  | altSecond {first second : Node} {state later : MatchState} :
      Reaches chars second state later → Reaches chars (.alt first second) state later
  | capture {group : Nat} {body : Node} {state later : MatchState} :
      Reaches chars body state later →
      Reaches chars (.capture group body) state (later.record group state.offset)
  | atomic {body : Node} {state later : MatchState} :
      Reaches chars body state later → Reaches chars (.atomic body) state later
  | look {behind : Nat} {body : Node} {state later : MatchState} :
      behind ≤ state.offset →
      Reaches chars body { state with offset := state.offset - behind } later →
      Reaches chars (.look false behind body) state { later with offset := state.offset }
  | lookNot {behind : Nat} {body : Node} {state : MatchState} :
      Reaches chars (.look true behind body) state state
  | present {group : Nat} {present absent : Node} {state later : MatchState} :
      (state.captureOf? group).isSome = true → Reaches chars present state later →
      Reaches chars (.conditional group present absent) state later
  | absent {group : Nat} {present absent : Node} {state later : MatchState} :
      state.captureOf? group = none → Reaches chars absent state later →
      Reaches chars (.conditional group present absent) state later
  | done {greed : Greed} {most : Option Nat} {body : Node} {state : MatchState} :
      Reaches chars (.repetition greed 0 most body) state state
  | round {greed : Greed} {least : Nat} {most : Option Nat} {body : Node}
      {state middle later : MatchState} :
      (least = 0 → most ≠ some 0) → Reaches chars body state middle →
      Reaches chars (.repetition greed (least - 1) (most.map (· - 1)) body) middle later →
      Reaches chars (.repetition greed least most body) state later

variable {chars : Array Char}

/-! ## Runs -/

/-- A part of a pattern hands on only states that it reaches. -/
def Node.HandsOn (chars : Array Char) (node : Node) : Prop :=
  ∀ (state : MatchState) (next : Continuation) (final : MatchState),
    node.run chars state next = some final →
      ∃ later, node.Reaches chars state later ∧ next later = some final

/-- A maximum leaves one round fewer behind a round. -/
theorem exists_round_of_bounded {rounds : Nat} {most : Option Nat}
    (bounded : ∀ limit, most = some limit → rounds + 1 ≤ limit) :
    most ≠ some 0 ∧ ∀ limit, most.map (· - 1) = some limit → rounds ≤ limit := by
  cases most with
  | none => simp
  | some limit =>
      have room : rounds + 1 ≤ limit := bounded limit rfl
      refine ⟨?_, ?_⟩
      · rintro same
        rw [Option.some.inj same] at room
        omega
      · rintro fewer same
        have : limit - 1 = fewer := Option.some.inj same
        omega

section

variable {body : Node} {state final : MatchState} {next : Continuation}

/-- Greedy rounds reach what as many rounds of the repetition reach. -/
theorem reached_of_greedy (greed : Greed) (handsOn : body.HandsOn chars) {rounds : Nat}
    {from? most : Option Nat} (bounded : ∀ limit, most = some limit → rounds ≤ limit)
    (ran : Runner.greedy (body.run chars) rounds from? state next = some final) :
    ∃ later, (Node.repetition greed 0 most body).Reaches chars state later ∧
      next later = some final := by
  induction rounds generalizing from? most state with
  | zero => exact ⟨state, .done, ran⟩
  | succ rounds ih =>
      obtain ⟨room, fewer⟩ := exists_round_of_bounded bounded
      rw [Runner.greedy] at ran
      split at ran
      · exact ⟨state, .done, ran⟩
      split at ran
      · next more =>
          obtain rfl := Option.some.inj ran
          obtain ⟨middle, reached, further⟩ := handsOn _ _ _ more
          obtain ⟨later, rest, finished⟩ := ih fewer further
          exact ⟨later, .round (fun _ => room) reached rest, finished⟩
      · exact ⟨state, .done, ran⟩

/-- Lazy rounds reach what as many rounds of the repetition reach. -/
theorem reached_of_lazy (greed : Greed) (handsOn : body.HandsOn chars) {rounds : Nat}
    {from? most : Option Nat} (bounded : ∀ limit, most = some limit → rounds ≤ limit)
    (ran : Runner.lazy (body.run chars) rounds from? state next = some final) :
    ∃ later, (Node.repetition greed 0 most body).Reaches chars state later ∧
      next later = some final := by
  induction rounds generalizing from? most state with
  | zero => exact ⟨state, .done, ran⟩
  | succ rounds ih =>
      obtain ⟨room, fewer⟩ := exists_round_of_bounded bounded
      rw [Runner.lazy] at ran
      split at ran
      · next finished => exact ⟨state, .done, finished.trans ran⟩
      split at ran
      · cases ran
      · obtain ⟨middle, reached, further⟩ := handsOn _ _ _ ran
        obtain ⟨later, rest, finished⟩ := ih fewer further
        exact ⟨later, .round (fun _ => room) reached rest, finished⟩

/-- Possessive rounds reach what as many rounds of the repetition reach. -/
theorem reaches_possessive (greed : Greed) (handsOn : body.HandsOn chars) {rounds : Nat}
    {from? most : Option Nat} (bounded : ∀ limit, most = some limit → rounds ≤ limit) :
    (Node.repetition greed 0 most body).Reaches chars state
      (Runner.possessive (body.run chars) rounds from? state) := by
  induction rounds generalizing from? most state with
  | zero => exact .done
  | succ rounds ih =>
      obtain ⟨room, fewer⟩ := exists_round_of_bounded bounded
      rw [Runner.possessive]
      split
      · exact .done
      split
      · next later ran =>
          obtain ⟨middle, reached, same⟩ := handsOn _ _ _ ran
          obtain rfl := Option.some.inj same
          exact .round (fun _ => room) reached (ih fewer)
      · exact .done

/-- The rounds that are required come first; what follows them begins with a maximum that they have
lowered. -/
theorem reached_of_required (greed : Greed) (handsOn : body.HandsOn chars) {least : Nat}
    {most : Option Nat} {between : Continuation}
    (ran : Runner.required (body.run chars) least state between = some final)
    (further : ∀ middle, between middle = some final →
      ∃ later, (Node.repetition greed 0 (most.map (· - least)) body).Reaches chars middle later ∧
        next later = some final) :
    ∃ later, (Node.repetition greed least most body).Reaches chars state later ∧
      next later = some final := by
  induction least generalizing state most with
  | zero => simpa using further state ran
  | succ least ih =>
      rw [Runner.required] at ran
      obtain ⟨middle, reached, rest⟩ := handsOn _ _ _ ran
      have fewer : ∀ middle, between middle = some final →
          ∃ later, (Node.repetition greed 0 ((most.map (· - 1)).map (· - least)) body).Reaches chars
            middle later ∧ next later = some final := by
        intro middle passed
        simpa [Option.map_map, Function.comp_def, Nat.sub_sub, Nat.add_comm] using
          further middle passed
      obtain ⟨later, others, finished⟩ := ih rest fewer
      exact ⟨later, .round (fun none => absurd none (Nat.succ_ne_zero least)) reached others,
        finished⟩

/-- Rounds that are required and not given back reach a state from which the others go on. -/
theorem reached_of_requiredPossessive (greed : Greed) (handsOn : body.HandsOn chars) {least : Nat}
    {most : Option Nat} {middle later : MatchState}
    (ran : Runner.requiredPossessive (body.run chars) least state = some middle)
    (rest : (Node.repetition greed 0 (most.map (· - least)) body).Reaches chars middle later) :
    (Node.repetition greed least most body).Reaches chars state later := by
  induction least generalizing state most with
  | zero =>
      obtain rfl := Option.some.inj ran
      simpa using rest
  | succ least ih =>
      rw [Runner.requiredPossessive, Option.bind_eq_some_iff] at ran
      obtain ⟨first, one, others⟩ := ran
      obtain ⟨_, reached, same⟩ := handsOn _ _ _ one
      obtain rfl := Option.some.inj same
      refine .round (fun none => absurd none (Nat.succ_ne_zero least)) reached (ih others ?_)
      simpa [Option.map_map, Function.comp_def, Nat.sub_sub, Nat.add_comm] using rest

/-- The rounds beyond the required ones are no more than the maximum leaves. -/
theorem rounds_le (least reachable : Nat) (most : Option Nat) :
    ∀ limit, most.map (· - least) = some limit →
      (match most with
        | some most => min (most - least) reachable
        | none => reachable) ≤ limit := by
  cases most with
  | none => simp
  | some most =>
      rintro limit left
      obtain rfl := Option.some.inj left
      exact Nat.min_le_left _ _

/-- A repetition hands on what its rounds reach. -/
theorem handsOn_repetition (greed : Greed) (least : Nat) (most : Option Nat)
    (handsOn : body.HandsOn chars) : (Node.repetition greed least most body).HandsOn chars := by
  intro state next final ran
  rw [Node.run_repetition, Runner.repetition.eq_def] at ran
  cases greed with
  | greedy =>
      exact reached_of_required .greedy handsOn ran fun middle passed =>
        reached_of_greedy .greedy handsOn (rounds_le _ _ _) passed
  | lazy =>
      exact reached_of_required .lazy handsOn ran fun middle passed =>
        reached_of_lazy .lazy handsOn (rounds_le _ _ _) passed
  | possessive =>
      dsimp only at ran
      split at ran
      · next middle required =>
          exact ⟨_, reached_of_requiredPossessive .possessive handsOn required
            (reaches_possessive .possessive handsOn (rounds_le _ _ _)), ran⟩
      · cases ran

end

/-- A run that succeeds has handed on a state that the pattern reaches. -/
theorem Node.handsOn (node : Node) : node.HandsOn chars := by
  induction node with
  | empty =>
      intro state next final ran
      exact ⟨state, .empty, ran⟩
  | char test =>
      intro state next final ran
      rw [Node.run_char] at ran
      split at ran
      · next found here =>
          split at ran
          · next accepted => exact ⟨_, .char here accepted, ran⟩
          · cases ran
      · cases ran
  | position test =>
      intro state next final ran
      rw [Node.run_position] at ran
      split at ran
      · next holds => exact ⟨_, .position holds, ran⟩
      · cases ran
  | backreference group rule =>
      intro state next final ran
      rw [Node.run_backreference] at ran
      split at ran
      · next earlier found =>
          split at ran
          · next same => exact ⟨_, .backreference found same, ran⟩
          · cases ran
      · cases ran
  | seq first second firstHandsOn secondHandsOn =>
      intro state next final ran
      rw [Node.run_seq] at ran
      obtain ⟨middle, one, rest⟩ := firstHandsOn _ _ _ ran
      obtain ⟨later, two, finished⟩ := secondHandsOn _ _ _ rest
      exact ⟨later, .seq one two, finished⟩
  | alt first second firstHandsOn secondHandsOn =>
      intro state next final ran
      rw [Node.run_alt] at ran
      split at ran
      · next firstRan =>
          obtain ⟨later, reached, finished⟩ := firstHandsOn _ _ _ firstRan
          exact ⟨later, .altFirst reached, finished.trans ran⟩
      · obtain ⟨later, reached, finished⟩ := secondHandsOn _ _ _ ran
        exact ⟨later, .altSecond reached, finished⟩
  | capture group body bodyHandsOn =>
      intro state next final ran
      rw [Node.run_capture] at ran
      obtain ⟨later, reached, finished⟩ := bodyHandsOn _ _ _ ran
      exact ⟨_, .capture reached, finished⟩
  | atomic body bodyHandsOn =>
      intro state next final ran
      rw [Node.run_atomic] at ran
      split at ran
      · next later bodyRan =>
          obtain ⟨_, reached, same⟩ := bodyHandsOn _ _ _ bodyRan
          obtain rfl := Option.some.inj same
          exact ⟨_, .atomic reached, ran⟩
      · cases ran
  | look negated behind body bodyHandsOn =>
      intro state next final ran
      rw [Node.run_look] at ran
      split at ran
      · next later found =>
          split at found
          · next inside =>
              obtain ⟨_, reached, same⟩ := bodyHandsOn _ _ _ found
              obtain rfl := Option.some.inj same
              exact ⟨_, .look inside reached, ran⟩
          · cases found
      · exact ⟨state, .lookNot, ran⟩
      · cases ran
  | conditional group present absent presentHandsOn absentHandsOn =>
      intro state next final ran
      rw [Node.run_conditional] at ran
      split at ran
      · next matched =>
          obtain ⟨later, reached, finished⟩ := presentHandsOn _ _ _ ran
          exact ⟨later, .present matched reached, finished⟩
      · next unmatched =>
          obtain ⟨later, reached, finished⟩ := absentHandsOn _ _ _ ran
          exact ⟨later, .absent (Option.not_isSome_iff_eq_none.mp unmatched) reached, finished⟩
  | repetition greed least most body bodyHandsOn =>
      exact handsOn_repetition greed least most bodyHandsOn

/-! ## What is reached -/

section

variable {node : Node} {state later : MatchState}

/-- Patterns one after the other are reached one after the other. -/
theorem exists_middle_of_ofSeq {nodes : List Node}
    (reaches : (Node.ofSeq (node :: nodes)).Reaches chars state later) :
    ∃ middle, node.Reaches chars state middle ∧
      (Node.ofSeq nodes).Reaches chars middle later := by
  cases nodes with
  | nil => exact ⟨later, reaches, .empty⟩
  | cons second others =>
      cases reaches with
      | seq first rest => exact ⟨_, first, rest⟩

end

/-! ## Searches -/

section

variable {node : Node}

/-- A match ends in a state that the pattern reaches from where it begins. -/
theorem exists_reached_of_matchAt {mustAdvance : Bool} {start : Nat} {found : Match}
    (matched : node.matchAt chars mustAdvance start = some found) :
    ∃ later, node.Reaches chars ⟨found.start, []⟩ later ∧ found.stop = later.offset ∧
      found.captures = later.captures := by
  rw [Node.matchAt, Option.map_eq_some_iff] at matched
  obtain ⟨final, ran, rfl⟩ := matched
  obtain ⟨later, reached, passed⟩ := node.handsOn _ _ _ ran
  split at passed
  · cases passed
  · obtain rfl := Option.some.inj passed
    exact ⟨later, reached, rfl, rfl⟩

/-- What a search finds is a match at some offset. -/
theorem exists_reached_of_searchFrom {mustAdvance : Bool} {start count : Nat} {found : Match}
    (searched : node.searchFrom chars mustAdvance start count = some found) :
    ∃ later, node.Reaches chars ⟨found.start, []⟩ later ∧ found.stop = later.offset ∧
      found.captures = later.captures := by
  induction count generalizing mustAdvance start with
  | zero => cases searched
  | succ count ih =>
      rw [Node.searchFrom] at searched
      split at searched
      · next matched =>
          obtain rfl := Option.some.inj searched
          exact exists_reached_of_matchAt matched
      · exact ih searched

theorem head?_allMatches (node : Node) : (node.allMatches chars).head? = node.search chars := by
  rw [Node.allMatches, Node.matchesFrom, Node.search, Nat.sub_zero]
  cases node.searchFrom chars false 0 (chars.size + 1) <;> rfl

end

end Winnow.Regex
