import Winnow.Proofs.Engine.Comparison
import Winnow.Proofs.Ranking.Sort

/-!
# What filtering returns

The evaluation stops at a number of candidates that the budget alone decides
(`Budget.evaluated`), and up to there it collects the accepted ones
(`evaluateFrom_eq`). Ranking permutes them so that every entry precedes the next
one (`filter_chain`). It fails only where two entries cannot be compared:
`filter_exact` says when that happens, and what is returned otherwise.
-/

namespace Winnow

/-! ## How far the evaluation goes -/

/-- How many of a number of candidates are evaluated. -/
def Budget.evaluated (budget : Budget) (count : Nat) : Nat :=
  if budget.isOver then 0
  else
    match budget.limit with
    | none => count
    | some limit => min count (max limit 0).toNat

/-- Where the evaluation stops, nothing is left to evaluate. -/
theorem Budget.evaluated_of_stops {budget : Budget} {index : Nat} (count : Nat)
    (stops : budget.stopsAfter index = true) : budget.evaluated (index + count) - index = 0 := by
  rw [stopsAfter, Bool.or_eq_true] at stops
  rw [evaluated]
  split
  · exact Nat.zero_sub index
  · next goesOn =>
      cases bound : budget.limit with
      | none =>
          rw [bound] at stops
          simp [goesOn] at stops
      | some limit =>
          rw [bound] at stops
          have reached : limit ≤ index := by simpa [goesOn] using stops
          dsimp only
          omega

/-- Where the evaluation goes on, one more candidate is evaluated. -/
theorem Budget.evaluated_of_not_stops {budget : Budget} {index : Nat} (count : Nat)
    (goesOn : budget.stopsAfter index = false) :
    budget.evaluated (index + (count + 1)) - index
      = budget.evaluated (index + 1 + count) - (index + 1) + 1 := by
  rw [stopsAfter, Bool.or_eq_false_iff] at goesOn
  rw [evaluated, evaluated, if_neg (by simp [goesOn.1]), if_neg (by simp [goesOn.1])]
  cases bound : budget.limit with
  | none =>
      dsimp only
      omega
  | some limit =>
      have below := goesOn.2
      rw [bound] at below
      have unreached : (index : Int) < limit := by simpa using below
      dsimp only
      omega

/-- No more candidates are evaluated than there are. -/
theorem Budget.evaluated_le (budget : Budget) (count : Nat) : budget.evaluated count ≤ count := by
  rw [evaluated]
  split
  · exact Nat.zero_le count
  · split
    · exact Nat.le_refl count
    · exact Nat.min_le_left _ _

/-! ## The accepted candidates -/

namespace Engine

/-- The score that an entry for a text carries. -/
def entryScore (engine : Engine) (text : Text) : Int :=
  if engine.isRanked then engine.score text else 0

/-- The entry of a text at a place, if the text is accepted. -/
def accepted? (engine : Engine) (placed : Text × Nat) : Option Entry :=
  if engine.tokens.accepts placed.1 then some ⟨placed.2, placed.1, engine.entryScore placed.1⟩
  else none

/-- The evaluation collects the accepted ones of the candidates that the budget allows. -/
theorem evaluateFrom_eq (engine : Engine) (budget : Budget) (index : Nat) (texts : List Text) :
    engine.evaluateFrom budget index texts
      = ⟨((texts.take (budget.evaluated (index + texts.length) - index)).zipIdx index).filterMap
            engine.accepted?,
          index + (budget.evaluated (index + texts.length) - index),
          decide (budget.evaluated (index + texts.length) - index < texts.length)⟩ := by
  induction texts generalizing index with
  | nil =>
      have most := budget.evaluated_le index
      simp [evaluateFrom, Nat.sub_eq_zero_of_le most]
  | cons text rest ih =>
      rw [evaluateFrom, List.length_cons]
      split
      · next stops => simp [Budget.evaluated_of_stops (rest.length + 1) stops]
      · next goesOn =>
          rw [Budget.evaluated_of_not_stops rest.length (by simpa using goesOn), ih (index + 1),
            List.take_succ_cons, List.zipIdx_cons]
          have place : index + 1 + (budget.evaluated (index + 1 + rest.length) - (index + 1))
              = index + (budget.evaluated (index + 1 + rest.length) - (index + 1) + 1) := by
            omega
          by_cases accepted : engine.tokens.accepts text = true
          · simp [accepted?, entryScore, accepted, place]
          · simp [accepted?, accepted, place]

/-- An entry stands for an accepted one of the first candidates. -/
structure Accepts (engine : Engine) (texts : List Text) (count : Nat) (entry : Entry) : Prop where
  evaluated : entry.index < count
  here : texts[entry.index]? = some entry.text
  matched : engine.tokens.accepts entry.text = true
  scored : entry.score = engine.entryScore entry.text

/-- The entries of the accepted ones of the first candidates. -/
def acceptedEntries (engine : Engine) (texts : List Text) (count : Nat) : List Entry :=
  (texts.take count).zipIdx.filterMap engine.accepted?

variable {engine : Engine} {texts : List Text} {count : Nat}

/-- The entries are those of the accepted candidates. -/
theorem mem_acceptedEntries {entry : Entry} :
    entry ∈ engine.acceptedEntries texts count ↔ engine.Accepts texts count entry := by
  rw [acceptedEntries, List.mem_filterMap]
  constructor
  · rintro ⟨⟨text, index⟩, placed, made⟩
    have here := List.mem_zipIdx_iff_getElem?.mp placed
    rw [accepted?] at made
    split at made
    · next matched =>
        obtain rfl := Option.some.inj made
        rw [List.getElem?_take] at here
        split at here
        · next evaluated => exact ⟨evaluated, here, matched, rfl⟩
        · cases here
    · cases made
  · rintro ⟨evaluated, here, matched, scored⟩
    refine ⟨(entry.text, entry.index), ?_, ?_⟩
    · rw [List.mem_zipIdx_iff_getElem?, List.getElem?_take, if_pos evaluated]
      exact here
    · rw [accepted?, if_pos matched, ← scored]

theorem index_of_accepted? {placed : Text × Nat} {entry : Entry}
    (made : engine.accepted? placed = some entry) : entry.index = placed.2 := by
  rw [accepted?] at made
  split at made
  · rw [← Option.some.inj made]
  · cases made

/-- The entries are in the order of the input. -/
theorem acceptedEntries_increasing :
    (engine.acceptedEntries texts count).Pairwise fun left right => left.index < right.index := by
  have places : (texts.take count).zipIdx.Pairwise fun left right => left.2 < right.2 := by
    rw [← List.pairwise_map, List.zipIdx_map_snd]
    exact List.pairwise_lt_range'
  refine List.pairwise_filterMap.mpr (places.imp ?_)
  intro left right less first firstMade second secondMade
  rw [index_of_accepted? firstMade, index_of_accepted? secondMade]
  exact less

/-- What the evaluation hands over to ranking. -/
theorem evaluateFrom_zero (engine : Engine) (budget : Budget) (texts : List Text) :
    engine.evaluateFrom budget 0 texts
      = ⟨engine.acceptedEntries texts (budget.evaluated texts.length),
          budget.evaluated texts.length,
          decide (budget.evaluated texts.length < texts.length)⟩ := by
  rw [evaluateFrom_eq]
  simp [acceptedEntries]

end Engine

/-! ## Ranking -/

/-- Ranking asks how two entries compare. -/
theorem rankedBefore_eq_ok_iff {left right : Entry} {answer : Bool} :
    rankedBefore left right = .ok answer ↔
      ∃ order, compareEntries left right = .ok order ∧ (order == .lt) = answer := by
  rw [rankedBefore]
  cases compareEntries left right with
  | error problem => simp [Except.map]
  | ok order => simp [Except.map]

/-- Entries at different places that have been compared stand in their order. -/
theorem precedes_of_placed {left right : Entry} (distinct : left.index ≠ right.index)
    (placed : Ranking.Placed rankedBefore left right) :
    compareEntries left right = .ok .lt := by
  rcases placed with before | notBehind
  · obtain ⟨order, compared, less⟩ := rankedBefore_eq_ok_iff.mp before
    rw [beq_iff_eq.mp less] at compared
    exact compared
  · obtain ⟨order, compared, notLess⟩ := rankedBefore_eq_ok_iff.mp notBehind
    have free := (compareEntries_eq_ok_iff.mp compared).1
    rcases precedes_or_precedes (mt Entry.clashes_comm.mp free) distinct with less | greater
    · exact less
    · rw [greater] at compared
      rw [← Except.ok.inj compared] at notLess
      cases notLess

/-- A chain of one relation whose elements all stand in another one is a chain of both. -/
theorem isChain_and_pairwise {α : Type} {first second : α → α → Prop} {list : List α}
    (chain : list.IsChain first) (pairwise : list.Pairwise second) :
    list.IsChain fun left right => first left right ∧ second left right := by
  induction chain with
  | nil => exact .nil
  | singleton only => exact .singleton only
  | cons_cons step _ ih =>
      obtain ⟨here, later⟩ := List.pairwise_cons.mp pairwise
      exact (ih later).cons_cons ⟨step, here _ List.mem_cons_self⟩

namespace Engine

variable {engine : Engine} {texts : List Text} {budget : Budget} {result : FilterResult}

/-- Filtering loses, doubles and changes no accepted entry. -/
theorem filter_perm (done : engine.filter texts budget = .ok result) :
    result.evaluated = budget.evaluated texts.length ∧
      result.truncated = decide (budget.evaluated texts.length < texts.length) ∧
      result.entries.Perm (engine.acceptedEntries texts (budget.evaluated texts.length)) := by
  rw [filter, evaluateFrom_zero] at done
  dsimp only at done
  split at done
  · cases sorted : Ranking.sortBy rankedBefore
        (engine.acceptedEntries texts (budget.evaluated texts.length)) with
    | error problem =>
        rw [sorted] at done
        cases done
    | ok entries =>
        rw [sorted] at done
        obtain rfl := Except.ok.inj done
        exact ⟨rfl, rfl, (Ranking.sortBy_chain sorted).2⟩
  · obtain rfl := Except.ok.inj done
    exact ⟨rfl, rfl, .refl _⟩

theorem filter_distinct (done : engine.filter texts budget = .ok result) :
    result.entries.Pairwise fun left right => left.index ≠ right.index := by
  have members := (filter_perm done).2.2
  refine (members.pairwise_iff fun {_ _} => Ne.symm).mpr ?_
  exact acceptedEntries_increasing.imp Nat.ne_of_lt

/-- In a ranked result every entry precedes the next one. -/
theorem filter_chain (done : engine.filter texts budget = .ok result)
    (ranked : engine.isRanked = true) :
    result.entries.IsChain fun left right => compareEntries left right = .ok .lt := by
  have distinct := filter_distinct done
  rw [filter, evaluateFrom_zero, if_pos ranked] at done
  cases sorted : Ranking.sortBy rankedBefore
      (engine.acceptedEntries texts (budget.evaluated texts.length)) with
  | error problem =>
      rw [sorted] at done
      cases done
  | ok entries =>
      rw [sorted] at done
      obtain rfl := Except.ok.inj done
      have chain := isChain_and_pairwise (Ranking.sortBy_chain sorted).1 distinct
      exact chain.imp fun _ _ both => precedes_of_placed both.2 both.1

/-- Entries any two of which can be compared are ranked. -/
theorem filter_ok (free : ∀ left right,
      engine.Accepts texts (budget.evaluated texts.length) left →
      engine.Accepts texts (budget.evaluated texts.length) right →
      left.index ≠ right.index → ¬left.Clashes right) :
    ∃ result, engine.filter texts budget = .ok result := by
  rw [filter, evaluateFrom_zero]
  dsimp only
  split
  · have comparable : Ranking.Comparable rankedBefore
        (engine.acceptedEntries texts (budget.evaluated texts.length)) := by
      refine List.Pairwise.imp_of_mem ?_ acceptedEntries_increasing
      intro left right leftMember rightMember less
      have apart := free left right (mem_acceptedEntries.mp leftMember)
        (mem_acceptedEntries.mp rightMember) (Nat.ne_of_lt less)
      obtain ⟨order, compared, -⟩ := compareEntries_ok apart
      exact ⟨⟨_, rankedBefore_eq_ok_iff.mpr ⟨order, compared, rfl⟩⟩,
        ⟨_, rankedBefore_eq_ok_iff.mpr ⟨_, compareEntries_swap.mp compared, rfl⟩⟩⟩
    obtain ⟨entries, sorted⟩ := Ranking.sortBy_ok comparable
    rw [sorted]
    exact ⟨_, rfl⟩
  · exact ⟨_, rfl⟩

end Engine

/-! ## Ties -/

/-- The rank of an entry among entries whose texts composition leaves alone. -/
def Entry.key (entry : Entry) : Int ×ₗ List Nat ×ₗ Nat :=
  toLex (entry.score, toLex (entry.text.map Char.toNat, entry.index))

theorem Entry.rank_of_stable {entry : Entry} {count : Nat}
    (stable : Ranking.composed entry.text = entry.text.map Char.toNat)
    (whole : entry.text.length ≤ count) : entry.rank count = entry.key := by
  rw [rank, codes, stable, List.take_of_length_le (by simpa using whole), key]

theorem score_le_of_precedes {left right : Entry}
    (precedes : compareEntries left right = .ok .lt) : left.score ≤ right.score := by
  rcases Prod.Lex.toLex_lt_toLex.mp (precedes_iff.mp precedes).2 with less | ⟨tie, -⟩
  · exact less.le
  · exact tie.le

/-- An entry that precedes another one with the same score has no null character among
the code points of its own length, and neither has the other one. -/
theorem null_free_of_precedes {left right : Entry}
    (precedes : compareEntries left right = .ok .lt) (tie : left.score = right.score) :
    0 ∉ left.codes left.text.length ∧ 0 ∉ right.codes right.text.length := by
  have free := (precedes_iff.mp precedes).1
  constructor
  · intro member
    have fits := Entry.length_le_reach_left left right
    exact free ⟨tie, .inl (List.take_subset_take_left _ fits member)⟩
  · intro member
    have fits := Entry.length_le_reach_right left right
    exact free ⟨tie, .inr (List.take_subset_take_left _ fits member)⟩

/-- In a chain of entries every tie shows that no null character is involved: an entry
that ties with another one ties with a neighbour on that side. -/
theorem null_free_of_chain {entries : List Entry} {left right : Entry}
    (chain : entries.IsChain fun left right => compareEntries left right = .ok .lt)
    (leftMember : left ∈ entries) (rightMember : right ∈ entries)
    (distinct : left.index ≠ right.index) (tie : left.score = right.score) :
    0 ∉ left.codes left.text.length := by
  have sorted : entries.Pairwise fun left right => left.score ≤ right.score :=
    List.pairwise_map.mp ((List.isChain_map Entry.score).mpr
      (chain.imp fun _ _ => score_le_of_precedes)).pairwise
  obtain ⟨before, after, rfl⟩ := List.append_of_mem leftMember
  obtain ⟨beforeSorted, restSorted, across⟩ := List.pairwise_append.mp sorted
  obtain ⟨-, behind, meet⟩ := List.isChain_append.mp chain
  rcases List.mem_append.mp rightMember with rightBefore | rightBehind
  · rcases List.eq_nil_or_concat before with rfl | ⟨others, previous, rfl⟩
    · cases rightBefore
    · rw [List.concat_eq_append] at *
      have next := meet previous (by simp) left (by simp)
      have upper := across previous (by simp) left List.mem_cons_self
      have lower : right.score ≤ previous.score := by
        rcases List.mem_append.mp rightBefore with earlier | last
        · exact (List.pairwise_append.mp beforeSorted).2.2 right earlier previous (by simp)
        · rw [List.mem_singleton.mp last]
      exact (null_free_of_precedes next (by omega)).2
  · rcases List.mem_cons.mp rightBehind with rfl | rightAfter
    · exact absurd rfl distinct
    · cases after with
      | nil => cases rightAfter
      | cons next others =>
          have step := (List.isChain_cons_cons.mp behind).1
          obtain ⟨firstLe, othersSorted⟩ := List.pairwise_cons.mp restSorted
          have lower := firstLe next List.mem_cons_self
          have upper : next.score ≤ right.score := by
            rcases List.mem_cons.mp rightAfter with rfl | later
            · exact le_refl _
            · exact (List.pairwise_cons.mp othersSorted).1 right later
          exact (null_free_of_precedes step (by omega)).1

/-- Neighbours that composition leaves alone stand in the order of their keys. -/
theorem key_lt_of_precedes {left right : Entry}
    (precedes : compareEntries left right = .ok .lt)
    (leftStable : Ranking.composed left.text = left.text.map Char.toNat)
    (rightStable : Ranking.composed right.text = right.text.map Char.toNat) :
    left.key < right.key := by
  have less := (precedes_iff.mp precedes).2
  rwa [Entry.rank_of_stable leftStable (Entry.length_le_reach_left left right),
    Entry.rank_of_stable rightStable (Entry.length_le_reach_right left right)] at less

/-- Ranked entries that composition leaves alone increase strictly by their keys. -/
theorem filter_sorted {engine : Engine} {texts : List Text} {budget : Budget}
    {result : FilterResult} (done : engine.filter texts budget = .ok result)
    (ranked : engine.isRanked = true)
    (stable : ∀ entry ∈ result.entries,
      Ranking.composed entry.text = entry.text.map Char.toNat) :
    result.entries.Pairwise fun left right => left.key < right.key := by
  have chain : result.entries.IsChain fun left right => left.key < right.key :=
    (Engine.filter_chain done ranked).imp_of_mem_imp
      fun left right leftMember rightMember precedes =>
        key_lt_of_precedes precedes (stable left leftMember) (stable right rightMember)
  exact List.pairwise_map.mp ((List.isChain_map Entry.key).mpr chain).pairwise

/-- Filtering is exact wherever it succeeds. What is returned stands for the accepted ones
of the candidates that the budget allows, each once; unranked entries keep the order of the
input, and ranked ones increase strictly by score, code points and place if composition
leaves their texts alone. An unranked filter always succeeds. A ranked one succeeds unless
two accepted candidates clash: they tie in score, and a null character is among the code
points that they are compared by. It fails if that character is among those up to the
length of its own text. -/
theorem filter_exact (engine : Engine) (candidates : List TextData) (budget : Budget) :
    let texts := candidates.map TextData.decoded
    let count := budget.evaluated texts.length
    (∀ result, engine.filter texts budget = .ok result →
      result.evaluated = count ∧ (result.truncated = true ↔ count < texts.length) ∧
      (∀ entry, entry ∈ result.entries ↔ engine.Accepts texts count entry) ∧
      (result.entries.map Entry.index).Nodup ∧
      (engine.isRanked = false →
        result.entries.Pairwise fun left right => left.index < right.index) ∧
      (engine.isRanked = true →
        (∀ entry, engine.Accepts texts count entry →
          Ranking.composed entry.text = entry.text.map Char.toNat) →
        result.entries.Pairwise fun left right => left.key < right.key)) ∧
    (engine.isRanked = false → ∃ result, engine.filter texts budget = .ok result) ∧
    ((∀ left right, engine.Accepts texts count left → engine.Accepts texts count right →
        left.index ≠ right.index → ¬left.Clashes right) →
      ∃ result, engine.filter texts budget = .ok result) ∧
    (engine.isRanked = true → (∃ result, engine.filter texts budget = .ok result) →
      ∀ left right, engine.Accepts texts count left → engine.Accepts texts count right →
        left.index ≠ right.index → left.score = right.score →
          0 ∉ left.codes left.text.length) := by
  intro texts count
  refine ⟨?_, ?_, ?_, ?_⟩
  · intro result done
    obtain ⟨evaluated, truncated, members⟩ := Engine.filter_perm done
    have accepted : ∀ entry, entry ∈ result.entries ↔ engine.Accepts texts count entry :=
      fun entry => members.mem_iff.trans Engine.mem_acceptedEntries
    refine ⟨evaluated, ?_, accepted, ?_, ?_, ?_⟩
    · rw [truncated, decide_eq_true_eq]
    · exact List.pairwise_map.mpr (Engine.filter_distinct done)
    · intro unranked
      rw [Engine.filter, Engine.evaluateFrom_zero, unranked, if_neg Bool.false_ne_true] at done
      rw [← Except.ok.inj done]
      exact Engine.acceptedEntries_increasing
    · intro ranked stable
      exact filter_sorted done ranked fun entry member => stable entry ((accepted entry).mp member)
  · intro unranked
    rw [Engine.filter, unranked, if_neg Bool.false_ne_true]
    exact ⟨_, rfl⟩
  · intro free
    exact Engine.filter_ok free
  · rintro ranked ⟨result, done⟩ left right leftAccepted rightAccepted distinct tie
    have members := (Engine.filter_perm done).2.2
    exact null_free_of_chain (Engine.filter_chain done ranked)
      (members.mem_iff.mpr (Engine.mem_acceptedEntries.mpr leftAccepted))
      (members.mem_iff.mpr (Engine.mem_acceptedEntries.mpr rightAccepted)) distinct tie

/-- Two equal candidates with a null character at the end tie, and ranking them fails. -/
theorem filter_fails_on_null :
    (Engine.ofQuery ['x'] {} true true).map (fun engine =>
        engine.filter [['x', Ranking.nullChar], ['x', Ranking.nullChar]] .unlimited)
      = .ok (.error .embeddedNull) := by
  decide +kernel

end Winnow
