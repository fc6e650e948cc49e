import Winnow.Ranking.Sort
import Mathlib.Data.List.Chain

/-!
# What sorting by a comparison that can fail guarantees

Nothing is assumed of the comparison. Whenever the sort succeeds, its result is
a permutation in which every two neighbours have been compared and stand as the
comparison says (`sortBy_chain`). The argument is local: an element is put
between two neighbours that it has been compared with, so neither sortedness of
the list nor transitivity is needed. A sort whose comparisons all succeed
succeeds (`sortBy_ok`).
-/

namespace Winnow.Ranking

variable {α ε : Type} {before : Before α ε}

theorem bind_eq_ok_iff {β γ : Type} {first : Except ε β} {second : β → Except ε γ} {result : γ} :
    (first >>= second) = .ok result ↔
      ∃ middle, first = .ok middle ∧ second middle = .ok result := by
  cases first with
  | error problem => simp [bind, Except.bind]
  | ok middle => simp [bind, Except.bind]

/-- Two elements have been compared, and the first one may stand before the second. -/
def Placed (before : Before α ε) (left right : α) : Prop :=
  before left right = .ok true ∨ before right left = .ok false

/-! ## The run at the beginning -/

/-- A run keeps to its direction and loses nothing. -/
theorem runFrom_spec {descending : Bool} {run list found rest : List α} {last : α}
    (read : runFrom before descending run last list = .ok (found, rest))
    (chain : (last :: run).IsChain fun later earlier => before later earlier = .ok descending) :
    (found.IsChain fun later earlier => before later earlier = .ok descending) ∧
      found.reverse ++ rest = run.reverse ++ last :: list := by
  induction list generalizing run last with
  | nil =>
      obtain ⟨rfl, rfl⟩ : last :: run = found ∧ [] = rest := by simpa [runFrom] using read
      exact ⟨chain, by simp⟩
  | cons next list ih =>
      rw [runFrom] at read
      obtain ⟨direction, compared, read⟩ := bind_eq_ok_iff.mp read
      split at read
      · next same =>
          subst same
          obtain ⟨kept, joined⟩ := ih read (chain.cons_cons compared)
          exact ⟨kept, by simpa using joined⟩
      · obtain ⟨rfl, rfl⟩ : last :: run = found ∧ next :: list = rest := by
          simpa [pure, Except.pure] using read
        exact ⟨chain, by simp⟩

/-- The run at the beginning is in order, and the rest is what is left. -/
theorem initialRun_spec {list run rest : List α}
    (read : initialRun before list = .ok (run, rest)) :
    run.IsChain (Placed before) ∧ (run ++ rest).Perm list := by
  match list, read with
  | [], read =>
      obtain ⟨rfl, rfl⟩ : [] = run ∧ [] = rest := by simpa [initialRun] using read
      exact ⟨.nil, .refl _⟩
  | [only], read =>
      obtain ⟨rfl, rfl⟩ : [only] = run ∧ [] = rest := by simpa [initialRun] using read
      exact ⟨.singleton only, .refl _⟩
  | first :: second :: list, read =>
      rw [initialRun] at read
      obtain ⟨descending, compared, read⟩ := bind_eq_ok_iff.mp read
      obtain ⟨⟨found, left⟩, continued, read⟩ := bind_eq_ok_iff.mp read
      obtain ⟨chain, joined⟩ :=
        runFrom_spec continued (List.isChain_pair.mpr compared)
      have whole : (found ++ left).Perm (first :: second :: list) := by
        have reversed : (found.reverse ++ left).Perm (first :: second :: list) := by
          rw [joined]
          exact .refl _
        exact ((List.reverse_perm found).symm.append_right left).trans reversed
      cases descending with
      | true =>
          obtain ⟨rfl, rfl⟩ : found = run ∧ left = rest := by
            simpa [pure, Except.pure] using read
          exact ⟨chain.imp fun _ _ => .inl, whole⟩
      | false =>
          obtain ⟨rfl, rfl⟩ : found.reverse = run ∧ left = rest := by
            simpa [pure, Except.pure] using read
          refine ⟨List.isChain_reverse.mpr (chain.imp fun _ _ => .inr), ?_⟩
          exact ((List.reverse_perm found).append_right left).trans whole

/-! ## Insertion -/

/-- The place that is found lies in the interval; an element at its border has been
compared unless the border is the one of the interval. -/
theorem placeFor_spec {sorted : Array α} {element : α} {low high place : Nat} (steps : Nat)
    (found : placeFor before sorted element low high steps = .ok place)
    (ordered : low ≤ high) (inside : high ≤ sorted.size) (enough : high - low < steps) :
    low ≤ place ∧ place ≤ high ∧
      (∀ other, low < place → sorted[place - 1]? = some other →
        before element other = .ok false) ∧
      (∀ other, place < high → sorted[place]? = some other →
        before element other = .ok true) := by
  induction steps generalizing low high with
  | zero => omega
  | succ steps ih =>
      rw [placeFor] at found
      split at found
      · next proper =>
          have middleInside : low + (high - low) / 2 < sorted.size := by omega
          simp only [Array.getElem?_eq_getElem middleInside] at found
          obtain ⟨comesBefore, compared, found⟩ := bind_eq_ok_iff.mp found
          cases comesBefore with
          | true =>
              obtain ⟨atLeast, atMost, left, right⟩ :=
                ih found (by omega) (by omega) (by omega)
              refine ⟨atLeast, by omega, left, fun other below here => ?_⟩
              rcases Nat.lt_or_eq_of_le atMost with inner | border
              · exact right other inner here
              · -- The place is the middle, where the element was last compared.
                rw [border, Array.getElem?_eq_getElem middleInside] at here
                rw [← Option.some.inj here]
                exact compared
          | false =>
              obtain ⟨atLeast, atMost, left, right⟩ :=
                ih found (by omega) (by omega) (by omega)
              refine ⟨by omega, atMost, fun other above here => ?_, right⟩
              rcases Nat.lt_or_eq_of_le atLeast with inner | border
              · exact left other inner here
              · have middle : place - 1 = low + (high - low) / 2 := by omega
                rw [middle, Array.getElem?_eq_getElem middleInside] at here
                rw [← Option.some.inj here]
                exact compared
      · next empty =>
          obtain rfl : low = place := by simpa using found
          exact ⟨Nat.le_refl _, ordered, fun _ above => absurd above (by omega),
            fun _ below => absurd below (by omega)⟩

/-- An element is put between neighbours that it has been compared with. -/
theorem insertSorted_spec {sorted result : List α} {element : α}
    (inserted : insertSorted before sorted element = .ok result)
    (chain : sorted.IsChain (Placed before)) :
    result.IsChain (Placed before) ∧ result.Perm (element :: sorted) := by
  obtain ⟨place, found, joined⟩ := bind_eq_ok_iff.mp inserted
  obtain rfl : sorted.take place ++ element :: sorted.drop place = result := by
    simpa [pure, Except.pure] using joined
  obtain ⟨-, atMost, left, right⟩ :=
    placeFor_spec _ found (Nat.zero_le _) (by simp) (by omega)
  constructor
  · refine List.isChain_append.mpr
      ⟨chain.take place, List.isChain_cons.mpr ⟨?_, chain.drop place⟩, ?_⟩
    · intro other atHead
      rw [List.head?_drop] at atHead
      have below : place < sorted.length :=
        (List.getElem?_eq_some_iff.mp atHead).1
      exact .inl (right other below (by simpa using atHead))
    · intro other atLast first atHead
      obtain rfl : element = first := by simpa using atHead
      have above : 0 < place := by
        rcases Nat.eq_zero_or_pos place with rfl | positive
        · simp at atLast
        · exact positive
      rw [List.getLast?_take, if_neg (by omega)] at atLast
      refine .inr (left other above ?_)
      have inner : place - 1 < sorted.length := by omega
      simpa [inner] using atLast
  · have middle : (sorted.take place ++ element :: sorted.drop place).Perm
        (element :: (sorted.take place ++ sorted.drop place)) := List.perm_middle
    rwa [List.take_append_drop] at middle

/-- Elements are put in one after the other. -/
theorem insertAll_spec {sorted list result : List α}
    (inserted : insertAll before sorted list = .ok result)
    (chain : sorted.IsChain (Placed before)) :
    result.IsChain (Placed before) ∧ result.Perm (sorted ++ list) := by
  induction list generalizing sorted with
  | nil =>
      obtain rfl : sorted = result := by simpa [insertAll] using inserted
      exact ⟨chain, by simp⟩
  | cons element list ih =>
      obtain ⟨longer, first, rest⟩ := bind_eq_ok_iff.mp inserted
      obtain ⟨kept, members⟩ := insertSorted_spec first chain
      obtain ⟨done, all⟩ := ih rest kept
      refine ⟨done, all.trans ?_⟩
      exact (members.append_right list).trans List.perm_middle.symm

/-- A sorted list holds the elements of the list, and every two neighbours in it have
been compared. -/
theorem sortBy_chain {list sorted : List α} (done : sortBy before list = .ok sorted) :
    sorted.IsChain (Placed before) ∧ sorted.Perm list := by
  obtain ⟨⟨run, rest⟩, start, inserted⟩ := bind_eq_ok_iff.mp done
  obtain ⟨chain, split⟩ := initialRun_spec start
  obtain ⟨kept, members⟩ := insertAll_spec inserted chain
  exact ⟨kept, members.trans split⟩

/-! ## Sorts that succeed -/

/-- Elements any two of which can be compared, either way round. -/
def Comparable (before : Before α ε) (elements : List α) : Prop :=
  elements.Pairwise fun left right =>
    (∃ result, before left right = .ok result) ∧ ∃ result, before right left = .ok result

theorem Comparable.perm {left right : List α} (comparable : Comparable before left)
    (same : left.Perm right) : Comparable before right :=
  (same.pairwise_iff fun {_ _} either => ⟨either.2, either.1⟩).mp comparable

/-- A run is read if its elements can be compared. -/
theorem runFrom_ok (descending : Bool) (run : List α) {list : List α} {last : α}
    (comparable : Comparable before (last :: list)) :
    ∃ found rest, runFrom before descending run last list = .ok (found, rest) := by
  induction list generalizing run last with
  | nil => exact ⟨_, _, rfl⟩
  | cons next list ih =>
      obtain ⟨first, others⟩ := List.pairwise_cons.mp comparable
      obtain ⟨direction, compared⟩ := (first next List.mem_cons_self).2
      rw [runFrom, compared]
      by_cases same : direction = descending
      · simpa [bind, Except.bind, same] using ih (last :: run) others
      · exact ⟨last :: run, next :: list, by simp [bind, Except.bind, same, pure, Except.pure]⟩

/-- A place is found if the element can be compared with all others. -/
theorem placeFor_ok {sorted : Array α} {element : α}
    (comparable : ∀ other ∈ sorted, ∃ result, before element other = .ok result)
    (low high steps : Nat) :
    ∃ place, placeFor before sorted element low high steps = .ok place := by
  induction steps generalizing low high with
  | zero => exact ⟨low, rfl⟩
  | succ steps ih =>
      rw [placeFor]
      split
      · dsimp only
        split
        · next other here =>
            obtain ⟨comesBefore, compared⟩ := comparable other (Array.mem_of_getElem? here)
            rw [compared]
            cases comesBefore with
            | true => exact ih low _
            | false => exact ih _ high
        · exact ⟨low, rfl⟩
      · exact ⟨low, rfl⟩

/-- Elements are put in if they can be compared. -/
theorem insertAll_ok {sorted list : List α} (comparable : Comparable before (sorted ++ list)) :
    ∃ result, insertAll before sorted list = .ok result := by
  induction list generalizing sorted with
  | nil => exact ⟨sorted, rfl⟩
  | cons element list ih =>
      have inFront := comparable.perm List.perm_middle
      have others := (List.pairwise_cons.mp inFront).1
      have compared : ∀ other ∈ sorted.toArray, ∃ result, before element other = .ok result :=
        fun other member => (others other (by simp_all)).1
      obtain ⟨place, found⟩ := placeFor_ok compared 0 sorted.length (sorted.length + 1)
      have longer : (sorted.take place ++ element :: sorted.drop place ++ list).Perm
          (element :: (sorted ++ list)) := by
        refine (List.perm_middle.append_right list).trans ?_
        rw [List.take_append_drop]
        exact .refl _
      obtain ⟨result, inserted⟩ := ih (inFront.perm longer.symm)
      refine ⟨result, ?_⟩
      rw [insertAll, insertSorted, found]
      exact inserted

/-- A list whose elements can be compared is sorted. -/
theorem sortBy_ok {list : List α} (comparable : Comparable before list) :
    ∃ sorted, sortBy before list = .ok sorted := by
  have start : ∃ run rest, initialRun before list = .ok (run, rest) := by
    match list, comparable with
    | [], _ => exact ⟨_, _, rfl⟩
    | [only], _ => exact ⟨_, _, rfl⟩
    | first :: second :: list, comparable =>
        obtain ⟨others, rest⟩ := List.pairwise_cons.mp comparable
        obtain ⟨descending, compared⟩ := (others second List.mem_cons_self).2
        obtain ⟨found, left, read⟩ := runFrom_ok descending [first] rest
        refine ⟨if descending then found else found.reverse, left, ?_⟩
        rw [initialRun, compared]
        simp [bind, Except.bind, read, pure, Except.pure]
  obtain ⟨run, rest, read⟩ := start
  obtain ⟨sorted, inserted⟩ := insertAll_ok (comparable.perm (initialRun_spec read).2.symm)
  refine ⟨sorted, ?_⟩
  rw [sortBy, read]
  exact inserted

end Winnow.Ranking
