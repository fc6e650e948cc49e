import Winnow.Proofs.Settings.Merging

/-!
# Sections that resurface

Layers can be merged with each other first and then put onto a base, or put onto
it one after the other. That gives the same unless a section resurfaces
(`Resurfaces`): one layer resets a section that the base holds, and a later one
adds to it. If the layers are merged first, nothing of the reset is left, and the
section of the base shows again. The two ways agree exactly if that happens
nowhere (`merge_foldl_eq_iff`).
-/

namespace Winnow.Yaml

/-! ## Values at one key -/

namespace Value

/-- Where no mapping is below, it makes no difference whether values are stacked on their own
first. -/
theorem onTop_stack_of_noMapping {below : Option Value}
    (noMapping : ∀ under, below ≠ some (.map under)) (values : List Value) :
    onTop below (stack none values) = stack below values := by
  cases values with
  | nil => rfl
  | cons first rest =>
      have onNothing : above none first = first := above_of_noMapping (by simp) first
      have kept : ∀ value, ∃ top, stack (some value) rest = some top := by
        induction rest with
        | nil => exact fun value => ⟨value, rfl⟩
        | cons next rest ih => exact fun value => ih (above (some value) next)
      obtain ⟨top, found⟩ := kept first
      show onTop below (stack (some (above none first)) rest) = stack (some (above below first)) rest
      rw [onNothing, above_of_noMapping noMapping, found, onTop, above_of_noMapping noMapping]

/-- Mappings stacked on anything but a mapping are merged with each other. -/
theorem stack_map_of_noMapping {below : Option Value}
    (noMapping : ∀ under, below ≠ some (.map under)) {sections : List Entries}
    (filled : sections ≠ []) (all : ∀ entries ∈ sections, entries.Distinct) :
    stack below (sections.map .map) = some (.map (sections.foldl Entries.merge .nil)) := by
  obtain ⟨first, rest, rfl⟩ := List.exists_cons_of_ne_nil filled
  have here : first.Distinct := (List.forall_mem_cons.mp all).1
  rw [List.foldl_cons, Entries.nil_merge here, ← stack_map]
  show stack (some (above below (.map first))) (rest.map .map) = _
  rw [above_of_noMapping noMapping]

end Value

namespace Entries

/-- What layers hold at a key are mappings in which no key occurs twice, as far as they are
mappings. -/
theorem distinct_of_filterMap {layers : List Entries} (all : ∀ layer ∈ layers, layer.Distinct)
    {key : Scalar} (lower : List Value) {sections : List Entries}
    (found : layers.filterMap (·.get? key) = lower ++ sections.map .map) :
    ∀ entries ∈ sections, entries.Distinct := by
  intro entries member
  have inside : Value.map entries ∈ layers.filterMap (·.get? key) := by
    rw [found]
    exact List.mem_append_right _ (List.mem_map_of_mem member)
  obtain ⟨layer, layerMember, here⟩ := List.mem_filterMap.mp inside
  exact (all layer layerMember).get? here

/-- A mapping inside another one is smaller. -/
theorem sizeOf_lt_of_get? {entries under : Entries} {key : Scalar}
    (found : entries.get? key = some (.map under)) : sizeOf under < sizeOf entries := by
  induction entries using rowInduction with
  | nil => cases found
  | cons other value rest ih =>
      rw [get?] at found
      split at found
      · cases found
        simp
        omega
      · have smaller := ih found
        simp
        omega

/-- Induction over mappings: what holds for a mapping may rest on the mappings inside it. -/
@[elab_as_elim]
theorem sectionInduction {motive : Entries → Prop}
    (step : ∀ entries, (∀ key under, entries.get? key = some (.map under) → motive under) →
      motive entries) (entries : Entries) : motive entries :=
  step entries fun _ under _ => sectionInduction step under
termination_by sizeOf entries
decreasing_by exact sizeOf_lt_of_get? ‹_›

/-! ## Sections that resurface -/

/-- A section of a base shows again although layers above it reset it: at some key the base holds a
mapping, and the layers hold a plain value there and later mappings, which the one of the base
changes if it is put under them. The key may lie deeper, where base and layers all hold
mappings. -/
inductive Resurfaces : (base : Entries) → (layers : List Entries) → Prop
  | reset {base : Entries} {layers : List Entries} {key : Scalar} {under : Entries}
      {lower : List Value} {plain : Value} {sections : List Entries} :
      base.get? key = some (.map under) →
      layers.filterMap (·.get? key) = lower ++ plain :: sections.map .map → plain.IsPlain →
      sections ≠ [] → under.merge (sections.foldl merge .nil) ≠ sections.foldl merge .nil →
      Resurfaces base layers
  | inside {base : Entries} {layers : List Entries} {key : Scalar} {under : Entries}
      {sections : List Entries} :
      base.get? key = some (.map under) → layers.filterMap (·.get? key) = sections.map .map →
      Resurfaces under sections → Resurfaces base layers

/-- Merging layers first or one after the other gives the same exactly if it does at each key. -/
theorem merge_foldl_eq_iff_stack {base : Entries} {layers : List Entries}
    (distinct : base.Distinct) (all : ∀ layer ∈ layers, layer.Distinct) :
    base.merge (layers.foldl merge .nil) = layers.foldl merge base ↔
      ∀ key, Value.onTop (base.get? key) (Value.stack none (layers.filterMap (·.get? key)))
        = Value.stack (base.get? key) (layers.filterMap (·.get? key)) := by
  have rowDistinct := distinct_nil.foldl_merge all
  have grouped : ∀ key, (base.merge (layers.foldl merge .nil)).get? key
      = Value.onTop (base.get? key) (Value.stack none (layers.filterMap (·.get? key))) := by
    intro key
    rw [get?_merge _ rowDistinct, get?_foldl_merge _ all]
    rfl
  constructor
  · intro same key
    rw [← grouped, same, get?_foldl_merge _ all]
  · intro same
    refine eq_of_keys_of_get? (distinct.merge rowDistinct) (distinct.foldl_merge all)
      (keys_merge_foldl base all) fun key => ?_
    rw [grouped, same, get?_foldl_merge _ all]

/-- What is put under the mappings that layers hold above a plain value shows only if the layers
are merged first. -/
theorem onTop_stack_of_plain (under : Entries) (lower : List Value) {plain : Value}
    {sections : List Entries} (isPlain : plain.IsPlain) (filled : sections ≠ [])
    (all : ∀ entries ∈ sections, entries.Distinct) :
    Value.onTop (some (.map under)) (Value.stack none (lower ++ plain :: sections.map .map))
        = some (.map (under.merge (sections.foldl merge .nil))) ∧
      Value.stack (some (.map under)) (lower ++ plain :: sections.map .map)
        = some (.map (sections.foldl merge .nil)) := by
  have noMapping : ∀ entries, some plain ≠ some (.map entries) :=
    fun entries same => isPlain entries (Option.some.inj same)
  constructor
  · rw [Value.stack_append_plain isPlain, Value.stack_map_of_noMapping noMapping filled all]
    rfl
  · rw [Value.stack_append_plain isPlain, Value.stack_map_of_noMapping noMapping filled all]

/-- Mappings that layers hold at a key are put onto the one of the base. -/
theorem onTop_stack_of_map {under : Entries} {sections : List Entries}
    (all : ∀ entries ∈ sections, entries.Distinct) :
    Value.onTop (some (.map under)) (Value.stack none (sections.map .map))
      = some (.map (under.merge (sections.foldl merge .nil))) := by
  by_cases empty : sections = []
  · rw [empty]
    rfl
  · rw [Value.stack_map_of_noMapping (by simp) empty all]
    rfl

/-- Where a section resurfaces, the order of merging makes a difference. -/
theorem Resurfaces.merge_foldl_ne {base : Entries} {layers : List Entries}
    (resurfaces : Resurfaces base layers) (distinct : base.Distinct)
    (all : ∀ layer ∈ layers, layer.Distinct) :
    base.merge (layers.foldl Entries.merge .nil) ≠ layers.foldl Entries.merge base := by
  induction resurfaces with
  | @reset base layers key under lower plain sections below above isPlain filled shows =>
      intro same
      have here := (merge_foldl_eq_iff_stack distinct all).mp same key
      have sectionsDistinct : ∀ entries ∈ sections, entries.Distinct :=
        distinct_of_filterMap all (lower ++ [plain]) (by simpa using above)
      obtain ⟨grouped, sequential⟩ :=
        onTop_stack_of_plain under lower isPlain filled sectionsDistinct
      rw [below, above, grouped, sequential] at here
      exact shows (Value.map.inj (Option.some.inj here))
  | @inside base layers key under sections below above _ ih =>
      intro same
      have here := (merge_foldl_eq_iff_stack distinct all).mp same key
      have sectionsDistinct : ∀ entries ∈ sections, entries.Distinct :=
        distinct_of_filterMap all [] above
      rw [below, above, onTop_stack_of_map sectionsDistinct, Value.stack_map] at here
      exact ih (distinct.get? below) sectionsDistinct (Value.map.inj (Option.some.inj here))

/-- Layers that are merged with each other first and then put onto a base give the same as layers
that are put onto it one after the other, exactly if no section of the base resurfaces. -/
theorem merge_foldl_eq_iff {base : Entries} {layers : List Entries} (distinct : base.Distinct)
    (all : ∀ layer ∈ layers, layer.Distinct) :
    base.merge (layers.foldl merge .nil) = layers.foldl merge base ↔ ¬Resurfaces base layers := by
  refine ⟨fun same resurfaces => resurfaces.merge_foldl_ne distinct all same, ?_⟩
  induction base using sectionInduction generalizing layers with
  | step base ih =>
      intro settled
      refine (merge_foldl_eq_iff_stack distinct all).mpr fun key => ?_
      by_cases mapping : ∃ under, base.get? key = some (.map under)
      · obtain ⟨under, below⟩ := mapping
        rw [below]
        rcases Value.exists_sections (layers.filterMap (·.get? key)) with
          ⟨sections, above⟩ | ⟨lower, plain, sections, above, isPlain⟩
        · have sectionsDistinct : ∀ entries ∈ sections, entries.Distinct :=
            distinct_of_filterMap all [] above
          rw [above, onTop_stack_of_map sectionsDistinct, Value.stack_map]
          have same := ih key under below (distinct.get? below) sectionsDistinct
            fun resurfaces => settled (.inside below above resurfaces)
          rw [same]
        · have sectionsDistinct : ∀ entries ∈ sections, entries.Distinct :=
            distinct_of_filterMap all (lower ++ [plain]) (by simpa using above)
          rw [above]
          by_cases empty : sections = []
          · rw [empty, List.map_nil, Value.stack_append_plain isPlain,
              Value.stack_append_plain isPlain]
            exact congrArg some (Value.above_of_isPlain isPlain _)
          · obtain ⟨grouped, sequential⟩ :=
              onTop_stack_of_plain under lower isPlain empty sectionsDistinct
            rw [grouped, sequential]
            by_cases same : under.merge (sections.foldl merge .nil) = sections.foldl merge .nil
            · rw [same]
            · exact absurd (.reset below above isPlain empty same) settled
      · exact Value.onTop_stack_of_noMapping (not_exists.mp mapping) _

end Entries

end Winnow.Yaml
