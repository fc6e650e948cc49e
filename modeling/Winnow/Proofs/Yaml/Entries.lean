import Winnow.Yaml.Value

/-!
# Mappings by their keys

Keys are the same if they stand for the same (`Scalar.sameKey_iff`), so being
the same key is an equivalence, and a mapping is read at a key without
regard to its spelling. Writing at a key changes what is found at that key only
(`get?_put`) and adds the key at the end if it is new (`keys_put`). Mappings in
which no key occurs twice are equal if they have the same keys in the same order
and hold the same values there (`eq_of_keys_of_get?`).
-/

namespace Winnow.Yaml

deriving instance DecidableEq for Value, Items, Entries

namespace Scalar

/-- Keys are the same exactly if they stand for the same. -/
theorem sameKey_iff {left right : Scalar} :
    left.sameKey right = true ↔ left.form = right.form := by
  rw [sameKey, decide_eq_true_iff]

theorem form_eq_itself_text_iff {key : Scalar} {text : Text} :
    key.form = .itself (.text text) ↔ key = .text text := by
  cases key with
  | real value => cases integer : value.toInt? <;> simp [form, integer]
  | moment value => cases instant : value.instant? <;> simp [form, instant]
  | _ => simp [form]

@[simp] theorem sameKey_refl (key : Scalar) : key.sameKey key = true := sameKey_iff.mpr rfl

theorem sameKey_comm (left right : Scalar) : left.sameKey right = right.sameKey left := by
  rw [Bool.eq_iff_iff, sameKey_iff, sameKey_iff, eq_comm]

theorem sameKey_congr_left {left middle : Scalar} (same : left.sameKey middle = true)
    (right : Scalar) : left.sameKey right = middle.sameKey right := by
  rw [Bool.eq_iff_iff, sameKey_iff, sameKey_iff, sameKey_iff.mp same]

theorem sameKey_congr_right {middle right : Scalar} (same : middle.sameKey right = true)
    (left : Scalar) : left.sameKey middle = left.sameKey right := by
  rw [Bool.eq_iff_iff, sameKey_iff, sameKey_iff, sameKey_iff.mp same]

theorem sameKey_text {key : Scalar} {text : Text} :
    key.sameKey (.text text) = true ↔ key = .text text :=
  sameKey_iff.trans form_eq_itself_text_iff

end Scalar

namespace Entries

@[elab_as_elim]
theorem rowInduction {motive : Entries → Prop} (nil : motive .nil)
    (cons : ∀ key value rest, motive rest → motive (.cons key value rest)) :
    ∀ entries, motive entries
  | .nil => nil
  | .cons key value rest => cons key value rest (rowInduction nil cons rest)

/-! ## Reading and writing at a key -/

/-- The keys of a mapping in their order. -/
def keys : Entries → List Scalar
  | nil => []
  | cons key _ rest => key :: rest.keys

/-- Whether a key is among some keys, in any spelling. -/
def hasKey (keys : List Scalar) (wanted : Scalar) : Bool := keys.any fun key => key.sameKey wanted

/-- A text is among some keys exactly if it is one of them. -/
theorem hasKey_text {keys : List Scalar} {text : Text} :
    hasKey keys (.text text) = true ↔ .text text ∈ keys := by
  rw [hasKey, List.any_eq_true]
  constructor
  · rintro ⟨key, member, same⟩
    exact Scalar.sameKey_text.mp same ▸ member
  · intro member
    exact ⟨_, member, Scalar.sameKey_refl _⟩

theorem map_fst_toList (entries : Entries) : entries.toList.map Prod.fst = entries.keys := by
  induction entries using rowInduction with
  | nil => rfl
  | cons key value rest ih => rw [toList, keys, List.map_cons, ih]

theorem get?_congr {left right : Scalar} (same : left.sameKey right = true) (entries : Entries) :
    entries.get? left = entries.get? right := by
  induction entries using rowInduction with
  | nil => rfl
  | cons key value rest ih => rw [get?, get?, Scalar.sameKey_congr_right same, ih]

/-- Something is found at a key exactly if the key is there. -/
theorem isSome_get? (entries : Entries) (wanted : Scalar) :
    (entries.get? wanted).isSome = hasKey entries.keys wanted := by
  induction entries using rowInduction with
  | nil => rfl
  | cons key value rest ih =>
      rw [get?, keys, hasKey, List.any_cons, ← hasKey, ← ih]
      cases key.sameKey wanted <;> rfl

/-- Writing at a key changes what is found there and nothing else. -/
theorem get?_put (entries : Entries) (key : Scalar) (value : Value) (wanted : Scalar) :
    (entries.put key value).get? wanted
      = if key.sameKey wanted then some value else entries.get? wanted := by
  induction entries using rowInduction with
  | nil => rfl
  | cons other old rest ih =>
      rw [put]
      by_cases here : other.sameKey key = true
      · rw [if_pos here, get?, get?, Scalar.sameKey_congr_left here wanted]
        split <;> rfl
      · rw [if_neg here, get?, get?, ih]
        by_cases wantedHere : other.sameKey wanted = true
        · have apart : ¬key.sameKey wanted = true := by
            intro same
            exact here ((Scalar.sameKey_congr_right same other).trans wantedHere)
          rw [if_pos wantedHere, if_neg apart, if_pos wantedHere]
        · rw [if_neg wantedHere, if_neg wantedHere]

/-- Writing at a key adds it at the end unless it is there. -/
theorem keys_put (entries : Entries) (key : Scalar) (value : Value) :
    (entries.put key value).keys
      = if hasKey entries.keys key then entries.keys else entries.keys ++ [key] := by
  induction entries using rowInduction with
  | nil => rfl
  | cons other old rest ih =>
      rw [put, keys, hasKey, List.any_cons, ← hasKey]
      by_cases here : other.sameKey key = true
      · rw [if_pos here, here, Bool.true_or, if_pos rfl]
        rfl
      · rw [if_neg here, Bool.eq_false_iff.mpr here, Bool.false_or, keys, ih]
        split <;> rfl

end Entries

/-! ## Keys that occur once -/

mutual

/-- In every mapping of a value that a merge can reach, each key occurs once. -/
def Value.Distinct : Value → Prop
  | .map entries => entries.Distinct
  | _ => True

/-- Each key of a mapping occurs once, and so it is in the mappings inside. -/
def Entries.Distinct : Entries → Prop
  | .nil => True
  | .cons key value rest => rest.get? key = none ∧ value.Distinct ∧ rest.Distinct

end

mutual

/-- It can be decided whether keys of a value occur once. -/
instance Value.decidableDistinct : (value : Value) → Decidable value.Distinct
  | .map entries => Entries.decidableDistinct entries
  | .scalar _ => .isTrue trivial
  | .set _ => .isTrue trivial
  | .pair => .isTrue trivial
  | .list _ => .isTrue trivial

/-- It can be decided whether keys of a mapping occur once. -/
instance Entries.decidableDistinct : (entries : Entries) → Decidable entries.Distinct
  | .nil => .isTrue trivial
  | .cons key value rest =>
    have : Decidable value.Distinct := Value.decidableDistinct value
    have : Decidable rest.Distinct := Entries.decidableDistinct rest
    inferInstanceAs (Decidable (rest.get? key = none ∧ value.Distinct ∧ rest.Distinct))

end

namespace Entries

theorem distinct_nil : Entries.nil.Distinct := trivial

/-- In such a mapping an entry is found at its key. -/
theorem Distinct.get?_of_mem {entries : Entries} (distinct : entries.Distinct) {key : Scalar}
    {value : Value} (member : (key, value) ∈ entries.toList) : entries.get? key = some value := by
  induction entries using rowInduction with
  | nil => cases member
  | cons other old rest ih =>
      obtain ⟨once, -, later⟩ := distinct
      rw [Entries.get?]
      rcases List.mem_cons.mp member with here | inside
      · obtain ⟨rfl, rfl⟩ := Prod.mk.inj here
        rw [if_pos (Scalar.sameKey_refl key)]
      · have apart : ¬other.sameKey key = true := by
          intro same
          have found := ih later inside
          rw [← get?_congr same, once] at found
          cases found
        rw [if_neg apart, ih later inside]

/-- What is found in such a mapping is such a value. -/
theorem Distinct.get? {entries : Entries} (distinct : entries.Distinct) {key : Scalar}
    {value : Value} (found : entries.get? key = some value) : value.Distinct := by
  induction entries using rowInduction with
  | nil => cases found
  | cons other old rest ih =>
      obtain ⟨-, here, later⟩ := distinct
      rw [Entries.get?] at found
      split at found
      · exact Option.some.inj found ▸ here
      · exact ih later found

/-- The keys of such a mapping are different from each other. -/
theorem Distinct.nodup_keys {entries : Entries} (distinct : entries.Distinct) :
    entries.keys.Nodup := by
  induction entries using rowInduction with
  | nil => exact List.nodup_nil
  | cons key value rest ih =>
      obtain ⟨once, -, later⟩ := distinct
      refine List.nodup_cons.mpr ⟨fun member => ?_, ih later⟩
      have found : hasKey rest.keys key = true :=
        List.any_eq_true.mpr ⟨key, member, Scalar.sameKey_refl key⟩
      rw [← isSome_get?, once] at found
      cases found

/-- Writing such a value keeps keys from occurring twice. -/
theorem Distinct.put {entries : Entries} (distinct : entries.Distinct) (key : Scalar)
    {value : Value} (good : value.Distinct) : (entries.put key value).Distinct := by
  induction entries using rowInduction with
  | nil => exact ⟨rfl, good, trivial⟩
  | cons other old rest ih =>
      obtain ⟨once, here, later⟩ := distinct
      rw [Entries.put]
      split
      · exact ⟨once, good, later⟩
      · next apart =>
          refine ⟨?_, here, ih later⟩
          rw [get?_put, Scalar.sameKey_comm, if_neg apart, once]

/-- Mappings with the same keys in the same order that hold the same values are equal. -/
theorem eq_of_keys_of_get? {left right : Entries} (leftDistinct : left.Distinct)
    (rightDistinct : right.Distinct) (sameKeys : left.keys = right.keys)
    (sameValues : ∀ key, left.get? key = right.get? key) : left = right := by
  induction left using rowInduction generalizing right with
  | nil =>
      cases right with
      | nil => rfl
      | cons key value rest => cases sameKeys
  | cons key value rest ih =>
      cases right with
      | nil => cases sameKeys
      | cons other otherValue others =>
          obtain ⟨rfl, restKeys⟩ := List.cons.inj sameKeys
          obtain ⟨once, -, restDistinct⟩ := leftDistinct
          obtain ⟨otherOnce, -, othersDistinct⟩ := rightDistinct
          have here : value = otherValue := by
            have found := sameValues key
            rw [Entries.get?, Entries.get?, Scalar.sameKey_refl] at found
            exact Option.some.inj found
          have later : ∀ wanted, rest.get? wanted = others.get? wanted := by
            intro wanted
            by_cases same : key.sameKey wanted = true
            · rw [← get?_congr same, ← get?_congr same, once, otherOnce]
            · have found := sameValues wanted
              rwa [Entries.get?, Entries.get?, if_neg same, if_neg same] at found
          rw [here, ih restDistinct othersDistinct restKeys later]

end Entries

end Winnow.Yaml
