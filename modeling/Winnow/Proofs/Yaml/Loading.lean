import Winnow.Proofs.Yaml.Entries
import Winnow.Yaml.Document

/-!
# Mappings of documents

Entries are written into a mapping one after the other, so in the mappings of a
document no key occurs twice (`load_distinct`), whatever they merge.
-/

namespace Winnow.Yaml

/-- Writing entries one after the other keeps keys from occurring twice. -/
theorem Entries.Distinct.putAll {entries : Entries} {pairs : List (Scalar × Value)}
    (distinct : entries.Distinct) (all : ∀ pair ∈ pairs, pair.2.Distinct) :
    (entries.putAll pairs).Distinct := by
  induction pairs generalizing entries with
  | nil => exact distinct
  | cons pair pairs ih =>
      obtain ⟨here, later⟩ := List.forall_mem_cons.mp all
      exact ih (distinct.put pair.1 here) later

namespace Building

variable {α β γ : Type}

theorem both_eq_ok_iff {left : Building α} {right : Building β} {first : α} {second : β} :
    left.both right = .ok (first, second) ↔ left = .ok first ∧ right = .ok second := by
  cases left <;> cases right <;> simp [both]

theorem map_both_eq_ok_iff {left : Building α} {right : Building β} {join : α × β → γ}
    {value : γ} :
    (left.both right).map join = .ok value ↔
      ∃ first second, left = .ok first ∧ right = .ok second ∧ join (first, second) = value := by
  cases left <;> cases right <;> simp [both, Except.map]

theorem inside_eq_ok_iff {content : Building α} {collect : α → β} {value : β} :
    content.inside collect = .ok value ↔ ∃ held, content = .ok held ∧ collect held = value := by
  cases content <;> simp [inside]

/-- Two lists of entries whose values are such values are one. -/
theorem append_distinct {left right : Building (List (Scalar × Value))}
    (leftDistinct : ∀ {entries}, left = .ok entries → ∀ pair ∈ entries, pair.2.Distinct)
    (rightDistinct : ∀ {entries}, right = .ok entries → ∀ pair ∈ entries, pair.2.Distinct)
    {entries : List (Scalar × Value)} (built : left.append right = .ok entries) :
    ∀ pair ∈ entries, pair.2.Distinct := by
  obtain ⟨first, second, firstBuilt, secondBuilt, rfl⟩ := map_both_eq_ok_iff.mp built
  exact List.forall_mem_append.mpr ⟨leftDistinct firstBuilt, rightDistinct secondBuilt⟩

theorem scalar_distinct {tag : Tag} {text : Text} {value : Value}
    (built : scalar tag text = .ok value) : value.Distinct := by
  rw [scalar] at built
  split at built <;> cases built
  trivial

end Building

open Building

mutual

/-- In the value of a node no key of a mapping occurs twice. -/
theorem build_distinct : ∀ {tag : Tag} {node : Node} {value : Value},
    Value.build tag node = .ok value → value.Distinct
  | tag, .scalar _ text, value, built => by
      rw [Value.build] at built
      split at built
      · cases built
      · exact scalar_distinct built
  | tag, .sequence _ items, value, built => by
      unfold Value.build at built
      split at built
      · obtain ⟨values, -, rfl⟩ := inside_eq_ok_iff.mp built
        trivial
      · obtain ⟨values, -, rfl⟩ := inside_eq_ok_iff.mp built
        trivial
      · obtain ⟨values, -, rfl⟩ := inside_eq_ok_iff.mp built
        trivial
      · cases built
      · cases built
      · cases built
  | tag, .mapping _ pairs, value, built => by
      have content : ∀ {entries}, (mergedOf pairs).append (ownOf pairs) = .ok entries →
          ∀ pair ∈ entries, pair.2.Distinct := append_distinct mergedOf_distinct ownOf_distinct
      unfold Value.build at built
      split at built
      · split at built
        · obtain ⟨entries, entriesBuilt, rfl⟩ := inside_eq_ok_iff.mp built
          exact Entries.distinct_nil.putAll (content entriesBuilt)
        · cases built
      · split at built
        · obtain ⟨entries, -, rfl⟩ := inside_eq_ok_iff.mp built
          trivial
        · cases built
      · cases built
      · cases built
      · cases built
      · split at built <;> cases built
      · split at built
        · exact scalar_distinct built
        · cases built

/-- A mapping's own entries hold such values. -/
theorem ownOf_distinct : ∀ {pairs : NodePairs} {entries : List (Scalar × Value)},
    ownOf pairs = .ok entries → ∀ pair ∈ entries, pair.2.Distinct
  | .nil, entries, built => by
      cases built
      exact List.forall_mem_nil _
  | .cons key value rest, entries, built => by
      rw [ownOf] at built
      split at built
      · exact ownOf_distinct built
      · obtain ⟨⟨name, found⟩, later, entryBuilt, laterBuilt, rfl⟩ := map_both_eq_ok_iff.mp built
        obtain ⟨-, valueBuilt⟩ := both_eq_ok_iff.mp entryBuilt
        exact List.forall_mem_cons.mpr ⟨build_distinct valueBuilt, ownOf_distinct laterBuilt⟩

/-- The entries that a mapping merges hold such values. -/
theorem mergedOf_distinct : ∀ {pairs : NodePairs} {entries : List (Scalar × Value)},
    mergedOf pairs = .ok entries → ∀ pair ∈ entries, pair.2.Distinct
  | .nil, entries, built => by
      cases built
      exact List.forall_mem_nil _
  | .cons key value rest, entries, built => by
      rw [mergedOf] at built
      split at built
      · exact append_distinct sourceOf_distinct mergedOf_distinct built
      · exact mergedOf_distinct built

theorem sourceOf_distinct : ∀ {node : Node} {entries : List (Scalar × Value)},
    sourceOf node = .ok entries → ∀ pair ∈ entries, pair.2.Distinct
  | .scalar _ _, entries, built => by cases built
  | .sequence _ items, entries, built => sourcesOf_distinct built
  | .mapping _ _, entries, built => append_distinct mergedOf_distinct ownOf_distinct built

/-- The entries of several mappings hold such values. -/
theorem sourcesOf_distinct : ∀ {items : NodeItems} {entries : List (Scalar × Value)},
    sourcesOf items = .ok entries → ∀ pair ∈ entries, pair.2.Distinct
  | .nil, entries, built => by
      cases built
      exact List.forall_mem_nil _
  | .cons (.mapping _ pairs) tail, entries, built =>
      append_distinct sourcesOf_distinct (append_distinct mergedOf_distinct ownOf_distinct) built
  | .cons (.scalar _ _) tail, entries, built => by cases built
  | .cons (.sequence _ _) tail, entries, built => by cases built

end

/-- In the value of a document's node no key of a mapping occurs twice. -/
theorem ofNode_distinct {node : Node} {value : Value} (loaded : Value.ofNode node = .ok value) :
    value.Distinct := by
  rw [Value.ofNode] at loaded
  cases built : Value.build node.tag node with
  | error defect =>
      rw [built] at loaded
      cases loaded
  | ok found =>
      rw [built] at loaded
      cases loaded
      exact build_distinct built

/-- In the mappings of a document no key occurs twice. -/
theorem load_distinct {text : Text} {value : Value} (loaded : load text = .ok value) :
    value.Distinct := by
  rw [load] at loaded
  cases node : Node.ofText text with
  | error problem =>
      rw [node] at loaded
      cases loaded
  | ok root =>
      rw [node] at loaded
      cases root with
      | none =>
          cases loaded
          trivial
      | some root => exact ofNode_distinct loaded

end Winnow.Yaml
