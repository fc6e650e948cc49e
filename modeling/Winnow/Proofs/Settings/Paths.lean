import Winnow.Proofs.Settings.Resurfacing

/-!
# Merged mappings path by path

A path of keys leads through mappings inside each other to a value (`Value.at?`). Where
the mapping on top leads to a value, the merged mapping leads to that value put above the
one below (`at?_merge_of_some`); where the one on top leads nowhere, without a plain value
in the way, the merged one leads to what is below (`at?_merge_of_none`). So the last writer
wins path by path, and mappings on both sides are joined (`merge_pathwise`).
-/

namespace Winnow.Yaml

namespace Value

/-- The value at the end of a path of keys. -/
def at? : Value → List Scalar → Option Value
  | value, [] => some value
  | .map entries, key :: path => (entries.get? key).bind fun inner => inner.at? path
  | _, _ :: _ => none

theorem IsPlain.at?_cons {value : Value} (plain : value.IsPlain) (key : Scalar)
    (path : List Scalar) : value.at? (key :: path) = none := by
  cases value with
  | map entries => exact absurd rfl (plain entries)
  | _ => rfl

theorem isMap_or_isPlain (value : Value) : (∃ entries, value = .map entries) ∨ value.IsPlain := by
  cases value with
  | map entries => exact .inl ⟨entries, rfl⟩
  | _ => exact .inr fun _ same => by cases same

end Value

namespace Entries

/-- The value at the end of a path of keys that begins in a mapping. -/
def at? (entries : Entries) (path : List Scalar) : Option Value := (Value.map entries).at? path

section

variable {below above : Entries}

theorem at?_merge_cons (distinct : above.Distinct) (key : Scalar) (path : List Scalar) :
    (below.merge above).at? (key :: path)
      = (Value.onTop (below.get? key) (above.get? key)).bind fun inner => inner.at? path := by
  rw [at?, Value.at?, get?_merge below distinct]

theorem at?_cons_of_get? {entries : Entries} {key : Scalar} {value : Value}
    (found : entries.get? key = some value) (path : List Scalar) :
    entries.at? (key :: path) = value.at? path := by
  rw [at?, Value.at?, found, Option.bind_some]

/-- Where a key holds no mapping, no path leads beyond it. -/
theorem at?_cons_cons_of_noMapping {entries : Entries} {key : Scalar}
    (noMapping : ∀ under, entries.get? key ≠ some (.map under)) (next : Scalar)
    (path : List Scalar) : entries.at? (key :: next :: path) = none := by
  cases found : entries.get? key with
  | none => rw [at?, Value.at?, found, Option.bind_none]
  | some value =>
      have plain : value.IsPlain := fun under same => noMapping under (found.trans (same ▸ rfl))
      rw [at?_cons_of_get? found, plain.at?_cons]

/-- Where a key holds no mapping, no path through it leads to one. -/
theorem at?_cons_ne_map {entries : Entries} {key : Scalar}
    (noMapping : ∀ under, entries.get? key ≠ some (.map under)) (path : List Scalar)
    (inner : Entries) : entries.at? (key :: path) ≠ some (.map inner) := by
  cases path with
  | nil =>
      intro found
      obtain ⟨value, here, found⟩ := Option.bind_eq_some_iff.mp found
      obtain rfl := Option.some.inj found
      exact noMapping inner here
  | cons next path =>
      rw [at?_cons_cons_of_noMapping noMapping]
      exact nofun

/-- Where the mapping on top leads to a value, merged mappings lead to that value above the one
below. -/
theorem at?_merge_of_some (distinct : above.Distinct) {path : List Scalar} {value : Value}
    (found : above.at? path = some value) :
    (below.merge above).at? path = some (Value.above (below.at? path) value) := by
  induction path generalizing below above with
  | nil =>
      obtain rfl := Option.some.inj found
      rfl
  | cons key path ih =>
      obtain ⟨top, here, found⟩ := Option.bind_eq_some_iff.mp found
      rw [at?_merge_cons distinct, here, Value.onTop, Option.bind_some]
      rcases top.isMap_or_isPlain with ⟨upper, rfl⟩ | plain
      · by_cases mapping : ∃ under, below.get? key = some (.map under)
        · obtain ⟨under, lower⟩ := mapping
          rw [at?_cons_of_get? lower, lower]
          exact ih (distinct.get? here) found
        · have noMapping := not_exists.mp mapping
          rw [Value.above_of_noMapping noMapping, found,
            Value.above_of_noMapping (at?_cons_ne_map noMapping path)]
      · cases path with
        | nil =>
            obtain rfl := Option.some.inj found
            rw [Value.above_of_isPlain plain, Value.above_of_isPlain plain]
            rfl
        | cons next path =>
            rw [plain.at?_cons] at found
            cases found

/-- Where the mapping on top leads nowhere and no plain value is in the way, merged mappings lead
to what is below. -/
theorem at?_merge_of_none (distinct : above.Distinct) {path : List Scalar}
    (missing : above.at? path = none)
    (clear : ∀ front value, front <+: path → above.at? front = some value → ¬value.IsPlain) :
    (below.merge above).at? path = below.at? path := by
  induction path generalizing below above with
  | nil => cases missing
  | cons key path ih =>
      rw [at?_merge_cons distinct]
      cases here : above.get? key with
      | none => rfl
      | some top =>
          have inMapping := clear [key] top (List.cons_prefix_cons.mpr ⟨rfl, List.nil_prefix⟩)
            (at?_cons_of_get? here [])
          obtain ⟨upper, rfl⟩ := top.isMap_or_isPlain.resolve_right inMapping
          rw [at?_cons_of_get? here] at missing
          rw [Value.onTop, Option.bind_some]
          by_cases mapping : ∃ under, below.get? key = some (.map under)
          · obtain ⟨under, lower⟩ := mapping
            rw [at?_cons_of_get? lower, lower]
            refine ih (distinct.get? here) missing fun front value begins found => ?_
            exact clear (key :: front) value (List.cons_prefix_cons.mpr ⟨rfl, begins⟩)
              ((at?_cons_of_get? here front).trans found)
          · have noMapping := not_exists.mp mapping
            rw [Value.above_of_noMapping noMapping, missing]
            cases path with
            | nil => cases missing
            | cons next path => rw [at?_cons_cons_of_noMapping noMapping]

/-- What a path leads to in a mapping without double keys has none either. -/
theorem Distinct.at? {entries : Entries} (distinct : entries.Distinct) {path : List Scalar}
    {inner : Entries} (found : entries.at? path = some (.map inner)) : inner.Distinct := by
  induction path generalizing entries with
  | nil =>
      obtain rfl := Value.map.inj (Option.some.inj found)
      exact distinct
  | cons key path ih =>
      obtain ⟨value, here, found⟩ := Option.bind_eq_some_iff.mp found
      rcases value.isMap_or_isPlain with ⟨under, rfl⟩ | plain
      · exact ih (distinct.get? here) found
      · cases path with
        | nil => exact absurd (Option.some.inj found) (plain inner)
        | cons next path =>
            rw [plain.at?_cons] at found
            cases found

theorem hasKey_keys_merge (distinct : above.Distinct) (key : Scalar) :
    hasKey (below.merge above).keys key = (hasKey below.keys key || hasKey above.keys key) := by
  rw [← isSome_get?, ← isSome_get?, ← isSome_get?, get?_merge _ distinct]
  cases above.get? key with
  | none => simp [Value.onTop]
  | some _ => simp [Value.onTop]

/-! ## Merging again -/

/-- Keys that are joined to themselves stay as they are. -/
theorem joinKeys_self (keys : List Scalar) : joinKeys keys keys = keys := by
  have known : ∀ key ∈ keys, ¬(!hasKey keys key) = true := by
    intro key member
    have found : hasKey keys key = true :=
      List.any_eq_true.mpr ⟨key, member, Scalar.sameKey_refl key⟩
    simp [found]
  rw [joinKeys, List.filter_eq_nil_iff.mpr known, List.append_nil]

/-- Merging the same mapping a second time changes nothing. -/
theorem merge_merge_self (belowDistinct : below.Distinct) (distinct : above.Distinct) :
    (below.merge above).merge above = below.merge above := by
  induction above using sectionInduction generalizing below with
  | step above ih =>
      have mergedDistinct := belowDistinct.merge distinct
      refine eq_of_keys_of_get? (mergedDistinct.merge distinct) mergedDistinct ?_ fun key => ?_
      · rw [keys_merge _ distinct, keys_merge _ distinct, joinKeys_assoc, joinKeys_self]
      · rw [get?_merge _ distinct, get?_merge _ distinct]
        cases here : above.get? key with
        | none => rfl
        | some top =>
            rw [Value.onTop, Value.onTop]
            refine congrArg some ?_
            rcases top.isMap_or_isPlain with ⟨upper, rfl⟩ | plain
            · have upperDistinct : upper.Distinct := distinct.get? here
              by_cases mapping : ∃ under, below.get? key = some (.map under)
              · obtain ⟨under, lower⟩ := mapping
                rw [lower]
                exact congrArg Value.map
                  (ih key upper here (belowDistinct.get? lower) upperDistinct)
              · have again := ih key upper here distinct_nil upperDistinct
                rw [nil_merge upperDistinct] at again
                rw [Value.above_of_noMapping (not_exists.mp mapping)]
                exact congrArg Value.map again
            · rw [Value.above_of_isPlain plain, Value.above_of_isPlain plain]

/-! ## The last writer -/

/-- In merged mappings the last writer wins path by path. A plain value on top is found at its path.
Where nothing is on top and no plain value is in the way, the value below is found, or nothing if
nothing is there. A mapping on top gives a mapping whose keys are its own and those of the mapping
below, if there is one. Nothing changes if one of the mappings is empty or if the one on top is
merged a second time. -/
theorem merge_pathwise (belowDistinct : below.Distinct) (distinct : above.Distinct) :
    (∀ path value, above.at? path = some value → value.IsPlain →
        (below.merge above).at? path = some value) ∧
      (∀ path, above.at? path = none →
        (∀ front value, front <+: path → above.at? front = some value → ¬value.IsPlain) →
        (below.merge above).at? path = below.at? path) ∧
      (∀ path upper, above.at? path = some (.map upper) →
        ∃ joined, (below.merge above).at? path = some (.map joined) ∧
          ∀ key, hasKey joined.keys key = true ↔
            hasKey upper.keys key = true ∨
              ∃ under, below.at? path = some (.map under) ∧ hasKey under.keys key = true) ∧
      below.merge .nil = below ∧ Entries.nil.merge above = above ∧
      (below.merge above).merge above = below.merge above := by
  refine ⟨fun path value found plain => ?_, fun path missing clear => ?_,
    fun path upper found => ?_, rfl, nil_merge distinct, merge_merge_self belowDistinct distinct⟩
  · rw [at?_merge_of_some distinct found, Value.above_of_isPlain plain]
  · exact at?_merge_of_none distinct missing clear
  · rw [at?_merge_of_some distinct found]
    by_cases mapping : ∃ under, below.at? path = some (.map under)
    · obtain ⟨under, lower⟩ := mapping
      refine ⟨under.merge upper, by rw [lower]; rfl, fun key => ?_⟩
      rw [hasKey_keys_merge (distinct.at? found), Bool.or_eq_true, or_comm]
      simp [lower]
    · have noMapping := not_exists.mp mapping
      refine ⟨upper, by rw [Value.above_of_noMapping noMapping], fun key => ?_⟩
      simp [noMapping]

end

/-- A key that is a text. -/
def textKey (name : String) : Scalar := .text name.toList

/-- A mapping with a section that holds another one, a list, and a number as its last key. -/
def lowerLayer : Entries :=
  .ofList [
    (textKey "a", .map (.ofList [(textKey "x", .scalar (.int 1)),
      (textKey "y", .map (.ofList [(textKey "z", .scalar (.int 2))]))])),
    (textKey "b", .list .nil), (.int 1, .scalar (.int 3))]

/-- A mapping that resets the inner section, puts a section in place of the list, and spells the
number as a truth value. -/
def upperLayer : Entries :=
  .ofList [
    (textKey "a", .map (.ofList [(textKey "y", .null), (textKey "w", .map .nil)])),
    (textKey "b", .map (.ofList [(textKey "c", .scalar (.int 4))])), (.bool true, .null)]

/-- The reset and the value under the other spelling win, what is not written stays, and sections
are joined. -/
theorem merge_pathwise_mixed :
    lowerLayer.Distinct ∧ upperLayer.Distinct ∧
      (lowerLayer.merge upperLayer).at? [textKey "a", textKey "y"] = some .null ∧
      (lowerLayer.merge upperLayer).at? [.int 1] = some .null ∧
      (lowerLayer.merge upperLayer).at? [textKey "a", textKey "x"] = some (.scalar (.int 1)) ∧
      (∃ joined, (lowerLayer.merge upperLayer).at? [textKey "a"] = some (.map joined) ∧
        hasKey joined.keys (textKey "x") = true ∧ hasKey joined.keys (textKey "w") = true) ∧
      (lowerLayer.merge upperLayer).merge upperLayer = lowerLayer.merge upperLayer := by
  have lowerDistinct : lowerLayer.Distinct := by decide +kernel
  have upperDistinct : upperLayer.Distinct := by decide +kernel
  obtain ⟨replaced, kept, joins, -, -, again⟩ := merge_pathwise lowerDistinct upperDistinct
  have nullPlain : Value.null.IsPlain := nofun
  have clear : ∀ front value, front <+: [textKey "a", textKey "x"] →
      upperLayer.at? front = some value → ¬value.IsPlain := by
    intro front value begins found
    rcases List.prefix_cons_iff.mp begins with rfl | ⟨rest, rfl, later⟩
    · obtain rfl := Option.some.inj found
      exact fun plain => plain _ rfl
    · rcases List.prefix_cons_iff.mp later with rfl | ⟨rest, rfl, last⟩
      · obtain rfl := Option.some.inj found
        exact fun plain => plain _ rfl
      · rw [List.prefix_nil.mp last] at found
        cases found
  obtain ⟨joined, here, keys⟩ := joins [textKey "a"] _ rfl
  refine ⟨lowerDistinct, upperDistinct, replaced _ _ rfl nullPlain, replaced _ _ rfl nullPlain,
    (kept _ rfl clear).trans rfl, ⟨joined, here, ?_, ?_⟩, again⟩
  · exact (keys _).mpr (.inr ⟨_, rfl, by decide +kernel⟩)
  · exact (keys _).mpr (.inl (by decide +kernel))

end Entries

end Winnow.Yaml
