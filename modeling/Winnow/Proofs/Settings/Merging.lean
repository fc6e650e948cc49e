import Winnow.Proofs.Yaml.Entries
import Winnow.Settings.Layer

/-!
# Merging mappings

At each key a merged mapping holds the value on top put above the one below
(`get?_merge`), and its keys are those below followed by the new ones on top
(`keys_merge`). So a row of mappings merged one after the other holds at each
key the values found there stacked up (`get?_foldl_merge`), and its keys do not
depend on how the row is grouped (`keys_merge_foldl`); its values do, as a value
that is no mapping hides what is below it from what is above it.
-/

namespace Winnow.Yaml

/-! ## Values -/

/-- A value that is no mapping. -/
def Value.IsPlain (value : Value) : Prop := ∀ entries, value ≠ .map entries

namespace Value

theorem above_of_isPlain {value : Value} (plain : value.IsPlain) (below : Option Value) :
    above below value = value := by
  cases value with
  | map entries => exact absurd rfl (plain entries)
  | _ => rfl

theorem above_of_noMapping {below : Option Value}
    (noMapping : ∀ under, below ≠ some (.map under)) (value : Value) :
    above below value = value := by
  cases value with
  | map entries => exact above.eq_2 below entries noMapping
  | _ => rfl

/-- What is found at a key of merged mappings, by what is found there below and on top. -/
def onTop (below : Option Value) : Option Value → Option Value
  | none => below
  | some value => some (above below value)

/-- Values put one above the other, the first one lowest. -/
def stack (below : Option Value) (values : List Value) : Option Value :=
  values.foldl (fun found value => some (above found value)) below

theorem stack_append (below : Option Value) (lower upper : List Value) :
    stack below (lower ++ upper) = stack (stack below lower) upper := List.foldl_append

theorem stack_append_plain {value : Value} (plain : value.IsPlain) (below : Option Value)
    (lower upper : List Value) :
    stack below (lower ++ value :: upper) = stack (some value) upper := by
  rw [stack_append]
  show stack (some (above _ value)) upper = _
  rw [above_of_isPlain plain]

theorem stack_map (under : Entries) (sections : List Entries) :
    stack (some (.map under)) (sections.map .map)
      = some (.map (sections.foldl Entries.merge under)) := by
  induction sections generalizing under with
  | nil => rfl
  | cons first rest ih => exact ih (under.merge first)

/-- Values are mappings only, or mappings above a last plain one. -/
theorem exists_sections (values : List Value) :
    (∃ sections : List Entries, values = sections.map .map) ∨
      ∃ (lower : List Value) (value : Value) (sections : List Entries),
        values = lower ++ value :: sections.map .map ∧ value.IsPlain := by
  induction values with
  | nil => exact .inl ⟨[], rfl⟩
  | cons value values ih =>
      rcases ih with ⟨sections, rfl⟩ | ⟨lower, last, sections, rfl, plain⟩
      · cases value with
        | map entries => exact .inl ⟨entries :: sections, rfl⟩
        | _ => exact .inr ⟨[], _, sections, rfl, fun _ same => by cases same⟩
      · exact .inr ⟨value :: lower, last, sections, rfl, plain⟩

end Value

/-! ## Two mappings -/

mutual

/-- Putting a value above another one keeps keys from occurring twice. -/
theorem Value.Distinct.above : ∀ {below : Option Value} {value : Value},
    (∀ under ∈ below, under.Distinct) → value.Distinct → (Value.above below value).Distinct
  | below, .map entries, lower, upper => by
      by_cases mapping : ∃ under, below = some (.map under)
      · obtain ⟨under, rfl⟩ := mapping
        exact Entries.Distinct.merge (lower _ rfl) upper
      · rw [Value.above_of_noMapping (not_exists.mp mapping)]
        exact upper
  | _, .scalar _, _, _ => trivial
  | _, .set _, _, _ => trivial
  | _, .pair, _, _ => trivial
  | _, .list _, _, _ => trivial

/-- Merging keeps keys from occurring twice. -/
theorem Entries.Distinct.merge : ∀ {below above : Entries},
    below.Distinct → above.Distinct → (below.merge above).Distinct
  | _, .nil, lower, _ => lower
  | below, .cons key value rest, lower, ⟨_, good, later⟩ => by
      have here : (Value.above (below.get? key) value).Distinct :=
        Value.Distinct.above (fun _ found => lower.get? found) good
      rw [Entries.merge]
      exact Entries.Distinct.merge (lower.put key here) later

end

namespace Entries

/-- At each key of merged mappings the value on top is put above the one below. -/
theorem get?_merge (below : Entries) {above : Entries} (distinct : above.Distinct)
    (wanted : Scalar) :
    (below.merge above).get? wanted = Value.onTop (below.get? wanted) (above.get? wanted) := by
  induction above using rowInduction generalizing below with
  | nil => rfl
  | cons key value rest ih =>
      obtain ⟨once, -, later⟩ := distinct
      rw [merge, ih _ later, get?_put, get?]
      split
      · next same =>
          rw [← get?_congr same rest, once, get?_congr same below]
          rfl
      · rfl

/-- The keys of one mapping, then the new ones of another one. -/
def joinKeys (left right : List Scalar) : List Scalar :=
  left ++ right.filter fun key => !hasKey left key

theorem hasKey_congr {left right : Scalar} (same : left.sameKey right = true)
    (keys : List Scalar) : hasKey keys left = hasKey keys right := by
  rw [hasKey, hasKey]
  congr 1
  funext key
  exact Scalar.sameKey_congr_right same key

/-- Merged mappings have the keys below and then the new ones on top. -/
theorem keys_merge (below : Entries) {above : Entries} (distinct : above.Distinct) :
    (below.merge above).keys = joinKeys below.keys above.keys := by
  induction above using rowInduction generalizing below with
  | nil => exact (List.append_nil _).symm
  | cons key value rest ih =>
      obtain ⟨once, -, later⟩ := distinct
      have others : ∀ other ∈ rest.keys, key.sameKey other = false := by
        intro other member
        have absent := isSome_get? rest key
        rw [once, Option.isSome_none, eq_comm, hasKey, List.any_eq_false] at absent
        rw [Scalar.sameKey_comm]
        exact Bool.eq_false_iff.mpr (absent other member)
      rw [merge, ih _ later, keys_put, keys, joinKeys, joinKeys, List.filter_cons]
      cases known : hasKey below.keys key with
      | true => rfl
      | false =>
          have same : ∀ other ∈ rest.keys,
              (!hasKey (below.keys ++ [key]) other) = !hasKey below.keys other := by
            intro other member
            simp [hasKey, others other member]
          rw [if_neg Bool.false_ne_true, List.filter_congr same]
          simp

/-- A mapping that is merged onto the empty one stays as it is. -/
theorem nil_merge {entries : Entries} (distinct : entries.Distinct) :
    Entries.nil.merge entries = entries := by
  refine eq_of_keys_of_get? (Distinct.merge distinct_nil distinct) distinct ?_ fun key => ?_
  · rw [keys_merge _ distinct, joinKeys]
    simp [keys, hasKey]
  · rw [get?_merge _ distinct]
    cases entries.get? key with
    | none => rfl
    | some value => exact congrArg some (Value.above_of_noMapping (by simp [get?]) value)

/-! ## A row of mappings -/

/-- A row of mappings merged one after the other keeps keys from occurring twice. -/
theorem Distinct.foldl_merge {base : Entries} {layers : List Entries} (distinct : base.Distinct)
    (all : ∀ layer ∈ layers, layer.Distinct) : (layers.foldl Entries.merge base).Distinct := by
  induction layers generalizing base with
  | nil => exact distinct
  | cons layer layers ih =>
      obtain ⟨here, later⟩ := List.forall_mem_cons.mp all
      exact ih (distinct.merge here) later

/-- A row of mappings holds at each key the values found there, stacked up. -/
theorem get?_foldl_merge (base : Entries) {layers : List Entries}
    (all : ∀ layer ∈ layers, layer.Distinct) (key : Scalar) :
    (layers.foldl merge base).get? key
      = Value.stack (base.get? key) (layers.filterMap (·.get? key)) := by
  induction layers generalizing base with
  | nil => rfl
  | cons layer layers ih =>
      obtain ⟨here, later⟩ := List.forall_mem_cons.mp all
      rw [List.foldl_cons, ih _ later, get?_merge _ here, List.filterMap_cons]
      cases layer.get? key <;> rfl

/-- Joining keys can be grouped at will. -/
theorem joinKeys_assoc (first second third : List Scalar) :
    joinKeys (joinKeys first second) third = joinKeys first (joinKeys second third) := by
  have new : ∀ key, (!hasKey (first ++ second.filter fun key => !hasKey first key) key)
      = (!hasKey first key && !hasKey second key) := by
    intro key
    rw [hasKey, List.any_append, ← hasKey, List.any_filter]
    cases known : hasKey first key with
    | true => rfl
    | false =>
        rw [Bool.false_or, Bool.not_false, Bool.true_and, hasKey]
        congr 2
        funext other
        cases same : other.sameKey key with
        | true => rw [hasKey_congr same, known]; rfl
        | false => rw [Bool.and_false]
  rw [joinKeys, joinKeys, joinKeys, joinKeys, List.filter_append, List.filter_filter,
    List.append_assoc]
  simp only [new]

/-- The keys of a row of mappings are joined one after the other. -/
theorem keys_foldl_merge (base : Entries) {layers : List Entries}
    (all : ∀ layer ∈ layers, layer.Distinct) :
    (layers.foldl merge base).keys = (layers.map keys).foldl joinKeys base.keys := by
  induction layers generalizing base with
  | nil => rfl
  | cons layer layers ih =>
      obtain ⟨here, later⟩ := List.forall_mem_cons.mp all
      rw [List.foldl_cons, ih _ later, keys_merge _ here]
      rfl

/-- The keys of a row of mappings do not depend on whether the row is merged before it is put onto
its base. -/
theorem keys_merge_foldl (base : Entries) {layers : List Entries}
    (all : ∀ layer ∈ layers, layer.Distinct) :
    (base.merge (layers.foldl merge .nil)).keys = (layers.foldl merge base).keys := by
  have associative : Std.Associative joinKeys := ⟨joinKeys_assoc⟩
  have start : joinKeys base.keys [] = base.keys := List.append_nil _
  have grouped : (layers.map keys).foldl joinKeys (joinKeys base.keys [])
      = joinKeys base.keys ((layers.map keys).foldl joinKeys []) := List.foldl_assoc
  rw [keys_merge _ (distinct_nil.foldl_merge all), keys_foldl_merge _ all,
    keys_foldl_merge _ all, keys, ← grouped, start]

end Entries

end Winnow.Yaml
