import Winnow.CommandLine.Overrides
import Winnow.Proofs.Settings.Lookup
import Winnow.Proofs.Ranking.Sort
import Mathlib.Algebra.Order.Field.Power
import Mathlib.Algebra.Order.Field.Rat

/-!
# Settings under a request

What a request asks for prevails, field by field, over what stands in the settings
(`Prevails`), and what it cannot ask for stays (`Settings.IsOverridden`). A request with a
limit below one or a timeout that is not above zero is refused (`Settings.override_eq_ok`),
and under any other one there is a result (`Settings.exists_override`). The result is valid
if the settings were, and the same request changes nothing more
(`Settings.override_asked`).
-/

namespace Winnow

open CommandLine (Request)
open Yaml (Entries)

/-! ## Numbers above zero -/

namespace Binary64

/-- A number is above zero if its value is; what is not a number has none. -/
def IsAboveZero : Binary64 → Prop
  | finite negative significand exponent =>
    0 < (if negative then -1 else 1) * (significand : ℚ) * 2 ^ exponent
  | infinite negative => negative = false
  | notANumber => False

/-- Whether a number is above zero can be computed. -/
theorem isPositive_iff {number : Binary64} : number.isPositive = true ↔ number.IsAboveZero := by
  cases number with
  | finite negative significand exponent =>
      have power : (0 : ℚ) < 2 ^ exponent := zpow_pos two_pos exponent
      cases negative with
      | true =>
          have below : -1 * (significand : ℚ) * 2 ^ exponent ≤ 0 := by
            rw [neg_one_mul, neg_mul, neg_nonpos]
            exact mul_nonneg significand.cast_nonneg power.le
          exact iff_of_false nofun below.not_gt
      | false =>
          have above : 0 < 1 * (significand : ℚ) * 2 ^ exponent ↔ significand ≠ 0 := by
            rw [one_mul, mul_pos_iff_of_pos_right power, Nat.cast_pos, Nat.pos_iff_ne_zero]
          exact bne_iff_ne.trans above.symm
  | infinite negative => simp [isPositive, IsAboveZero]
  | notANumber => simp [isPositive, IsAboveZero]

theorem mayBeTimeout_iff {seconds : Binary64} :
    mayBeTimeout seconds = true ↔ seconds.IsAboveZero ∨ seconds = .notANumber := by
  rw [mayBeTimeout, Bool.or_eq_true, isPositive_iff, decide_eq_true_iff]

end Binary64

/-! ## Fields with bounds -/

namespace Field

variable {value : Yaml.Value}

/-- What is read where null means that nothing is set is read without that, too. -/
theorem of_optional {α : Type} {read : Reader α} {result : α}
    (reads : optional read value = .ok (some result)) : read value = .ok result := by
  unfold optional at reads
  split at reads
  · cases reads
  · cases found : read value with
    | error problem =>
        rw [found] at reads
        cases reads
    | ok inner =>
        rw [found] at reads
        cases reads
        rfl

/-- A count that is read is at least one. -/
theorem one_le_of_count {limit : Int} (reads : count value = .ok limit) : 1 ≤ limit := by
  obtain ⟨number, -, kept⟩ := Ranking.bind_eq_ok_iff.mp reads
  split at kept
  · cases kept
  · next bounded =>
      cases kept
      exact Int.not_lt.mp bounded

/-- A number of seconds that is read is above zero, or no number. -/
theorem isAboveZero_of_seconds {number : Binary64} (reads : seconds value = .ok number) :
    number.IsAboveZero ∨ number = .notANumber := by
  obtain ⟨other, -, kept⟩ := Ranking.bind_eq_ok_iff.mp reads
  split at kept
  · next allowed =>
      cases kept
      exact Binary64.mayBeTimeout_iff.mp allowed
  · cases kept

end Field

/-! ## What prevails -/

/-- The value that is asked for prevails over the one that stands there, which stays where none is
asked for. -/
inductive Prevails {α : Type} (standing : α) : Option α → α → Prop
  | asked (value : α) : Prevails standing (some value) value
  | unasked : Prevails standing none standing

namespace Prevails

variable {α : Type} {standing value other : α} {asked : Option α}

/-- One value prevails. -/
theorem unique (prevails : Prevails standing asked value) (also : Prevails standing asked other) :
    value = other := by
  cases prevails <;> cases also <;> rfl

theorem again (prevails : Prevails standing asked value) : Prevails value asked value := by
  cases prevails with
  | asked => exact .asked value
  | unasked => exact .unasked

theorem holds (property : α → Prop) (prevails : Prevails standing asked value)
    (stands : property standing) (asks : ∀ wanted, asked = some wanted → property wanted) :
    property value := by
  cases prevails with
  | asked => exact asks value rfl
  | unasked => exact stands

theorem getD (standing : α) (asked : Option α) :
    Prevails standing asked (asked.getD standing) := by
  cases asked with
  | none => exact .unasked
  | some value => exact .asked value

/-- Where nothing but `false` can be asked for, that prevails. -/
theorem switchOff (standing isAsked : Bool) :
    Prevails standing (if isAsked then some false else none) (standing && !isAsked) := by
  cases isAsked with
  | true =>
      rw [Bool.not_true, Bool.and_false]
      exact .asked false
  | false =>
      rw [Bool.not_false, Bool.and_true]
      exact .unasked

theorem orElse (standing asked : Option α) :
    Prevails standing (asked.map some) (asked.or standing) := by
  cases asked with
  | none => exact .unasked
  | some value => exact .asked (some value)

end Prevails

/-- A request asks for no limit below one, and for no timeout that is a number and not above
zero. -/
structure CommandLine.Request.IsWithinBounds (request : Request) : Prop where
  limit : ∀ limit, request.limit = some limit → 1 ≤ limit
  timeout : ∀ seconds, request.timeout = some seconds →
    seconds.IsAboveZero ∨ seconds = .notANumber

namespace Settings

/-- Settings are others under a request: what it asks for prevails, and the themes and the
templates, for which it cannot ask, are the same. -/
structure IsOverridden (settings : Settings) (request : Request) (result : Settings) : Prop where
  method : Prevails settings.matching.method request.matching result.matching.method
  caseSensitive :
    Prevails settings.matching.caseSensitive request.caseSensitive result.matching.caseSensitive
  tokenize : Prevails settings.matching.tokenize request.tokenize result.matching.tokenize
  sort : Prevails settings.matching.sort request.sort result.matching.sort
  levenshteinSort : Prevails settings.matching.levenshteinSort request.levenshteinSort
    result.matching.levenshteinSort
  color : Prevails settings.color (if request.noColor then some false else none) result.color
  limit : Prevails settings.limit (request.limit.map some) result.limit
  timeout : Prevails settings.timeout (request.timeout.map some) result.timeout
  themes : result.themes = settings.themes
  commands : result.commands = settings.commands

/-- Settings whose limits are within their bounds: at least one candidate, and a time above zero. -/
structure IsValid (settings : Settings) : Prop where
  limit : ∀ limit, settings.limit = some limit → 1 ≤ limit
  timeout : ∀ seconds, settings.timeout = some seconds → seconds.IsAboveZero

variable {settings result other : Settings} {request : Request}

/-- There is one result under a request. -/
theorem IsOverridden.unique (overridden : settings.IsOverridden request result)
    (also : settings.IsOverridden request other) : result = other := by
  obtain ⟨⟨_, _, _, _, _⟩, _, _, _, _, _⟩ := result
  obtain ⟨⟨_, _, _, _, _⟩, _, _, _, _, _⟩ := other
  obtain rfl := overridden.method.unique also.method
  obtain rfl := overridden.caseSensitive.unique also.caseSensitive
  obtain rfl := overridden.tokenize.unique also.tokenize
  obtain rfl := overridden.sort.unique also.sort
  obtain rfl := overridden.levenshteinSort.unique also.levenshteinSort
  obtain rfl := overridden.color.unique also.color
  obtain rfl := overridden.limit.unique also.limit
  obtain rfl := overridden.timeout.unique also.timeout
  obtain rfl := overridden.themes.trans also.themes.symm
  obtain rfl := overridden.commands.trans also.commands.symm
  rfl

/-- Under the same request a result is itself. -/
theorem IsOverridden.again (overridden : settings.IsOverridden request result) :
    result.IsOverridden request result where
  method := overridden.method.again
  caseSensitive := overridden.caseSensitive.again
  tokenize := overridden.tokenize.again
  sort := overridden.sort.again
  levenshteinSort := overridden.levenshteinSort.again
  color := overridden.color.again
  limit := overridden.limit.again
  timeout := overridden.timeout.again
  themes := rfl
  commands := rfl

/-- A request that is not refused is within the bounds, and what it makes of settings is what it
asks for, all else staying as it is. -/
theorem override_eq_ok (done : settings.override request = .ok result) :
    request.IsWithinBounds ∧ settings.IsOverridden request result := by
  rw [override] at done
  split at done
  · cases done
  · next limited =>
      split at done
      · cases done
      · next timed =>
          obtain rfl := Except.ok.inj done
          rw [Bool.not_eq_true, Option.any_eq_false] at limited timed
          constructor
          · constructor
            · intro limit asked
              exact Int.not_lt.mp (of_decide_eq_false (limited limit asked))
            · intro seconds asked
              have allowed := timed seconds asked
              rw [Bool.not_eq_false', Binary64.mayBeTimeout_iff] at allowed
              exact allowed
          · exact {
              method := .getD _ _
              caseSensitive := .getD _ _
              tokenize := .getD _ _
              sort := .getD _ _
              levenshteinSort := .getD _ _
              color := .switchOff _ _
              limit := .orElse _ _
              timeout := .orElse _ _
              themes := rfl
              commands := rfl }

/-- A request within the bounds is not refused. -/
theorem exists_override (settings : Settings) (bounds : request.IsWithinBounds) :
    ∃ result, settings.override request = .ok result := by
  have limited : request.limit.any (· < 1) = false := by
    rw [Option.any_eq_false]
    intro limit asked
    exact decide_eq_false (Int.not_lt.mpr (bounds.limit limit asked))
  have timed : (request.timeout.any fun seconds => !mayBeTimeout seconds) = false := by
    rw [Option.any_eq_false]
    intro seconds asked
    rw [Bool.not_eq_false', Binary64.mayBeTimeout_iff]
    exact bounds.timeout seconds asked
  rw [override, limited, timed]
  exact ⟨_, rfl⟩

/-- Settings that are read are valid, unless their timeout is no number. -/
theorem isValid_of_ofEntries {entries : Entries} (loaded : ofEntries entries = .ok settings)
    (number : settings.timeout ≠ some .notANumber) : settings.IsValid := by
  obtain ⟨-, limited, timed⟩ := fields_of_ofEntries loaded
  constructor
  · intro limit there
    rw [there] at limited
    rcases Reading.field_eq_ok_iff.mp limited with ⟨-, ⟨⟩⟩ | ⟨value, -, reads⟩
    exact Field.one_le_of_count (Field.of_optional reads)
  · intro seconds there
    rw [there] at timed
    rcases Reading.field_eq_ok_iff.mp timed with ⟨-, ⟨⟩⟩ | ⟨value, -, reads⟩
    rcases Field.isAboveZero_of_seconds (Field.of_optional reads) with above | rfl
    · exact above
    · exact absurd there number

/-- Settings stay valid under a request that is in bounds. -/
theorem IsValid.of_isOverridden (valid : settings.IsValid)
    (overridden : settings.IsOverridden request result)
    (limits : ∀ limit, request.limit = some limit → 1 ≤ limit)
    (timeouts : ∀ seconds, request.timeout = some seconds → seconds.IsAboveZero) :
    result.IsValid where
  limit := by
    refine overridden.limit.holds (fun value => ∀ limit, value = some limit → 1 ≤ limit)
      valid.limit ?_
    intro wanted asked limit same
    obtain ⟨given, there, rfl⟩ := Option.map_eq_some_iff.mp asked
    exact limits limit (there.trans same)
  timeout := by
    refine overridden.timeout.holds
      (fun value => ∀ seconds, value = some seconds → seconds.IsAboveZero) valid.timeout ?_
    intro wanted asked seconds same
    obtain ⟨given, there, rfl⟩ := Option.map_eq_some_iff.mp asked
    exact timeouts seconds (there.trans same)

/-- A request changes what it asks for and nothing else. Unless it asks for a timeout that is no
number, it is refused exactly if it asks for a limit below one or for a timeout that is not above
zero. Otherwise what it asks for prevails, the result is valid if the settings were, and the same
request changes nothing more. -/
theorem override_asked (settings : Settings) {request : Request}
    (number : request.timeout ≠ some .notANumber) :
    ((∃ problem, settings.override request = .error problem) ↔
      (∃ limit, request.limit = some limit ∧ limit < 1) ∨
        ∃ seconds, request.timeout = some seconds ∧ ¬seconds.IsAboveZero) ∧
    ∀ result, settings.override request = .ok result →
      settings.IsOverridden request result ∧ (settings.IsValid → result.IsValid) ∧
        result.override request = .ok result := by
  have timed : request.IsWithinBounds → ∀ seconds, request.timeout = some seconds →
      seconds.IsAboveZero := by
    intro bounds seconds asked
    rcases bounds.timeout seconds asked with above | rfl
    · exact above
    · exact absurd asked number
  constructor
  · constructor
    · rintro ⟨problem, refused⟩
      by_contra inside
      rw [not_or] at inside
      have bounds : request.IsWithinBounds := {
        limit := fun limit asked => Int.not_lt.mp fun low => inside.1 ⟨limit, asked, low⟩
        timeout := fun seconds asked =>
          .inl (by_contra fun short => inside.2 ⟨seconds, asked, short⟩) }
      obtain ⟨result, done⟩ := settings.exists_override bounds
      rw [refused] at done
      cases done
    · intro outside
      cases outcome : settings.override request with
      | error problem => exact ⟨problem, rfl⟩
      | ok result =>
          have bounds := (override_eq_ok outcome).1
          rcases outside with ⟨limit, asked, low⟩ | ⟨seconds, asked, short⟩
          · exact absurd low (Int.not_lt.mpr (bounds.limit limit asked))
          · exact absurd (timed bounds seconds asked) short
  · intro result done
    obtain ⟨bounds, overridden⟩ := override_eq_ok done
    obtain ⟨again, redone⟩ := result.exists_override bounds
    obtain rfl := (override_eq_ok redone).2.unique overridden.again
    exact ⟨overridden,
      fun valid => valid.of_isOverridden overridden bounds.limit (timed bounds), redone⟩

/-- A document in which case counts and at most seven candidates are looked at. -/
def boundedSettings : Entries := .ofList [
  (.text "matching".toList, .map (.ofList [
    (.text "case_sensitive".toList, .scalar (.bool true)),
    (.text "sort".toList, .scalar (.bool true))])),
  (.text "limit".toList, .scalar (.int 7))]

/-- A request for case to be ignored, no colors, and at most three candidates. -/
def narrowRequest : Request :=
  { caseSensitive := some false, limit := some 3, noColor := true }

/-- A request for `false` prevails over `true` in the settings and is not taken for none; what is
not asked for, such as the ranking, stays. -/
theorem override_asked_narrow :
    narrowRequest.timeout ≠ some .notANumber ∧
      Request.ofArguments
          ["-i".toList, "--limit".toList, "3".toList, "--no-color".toList] = .ok narrowRequest ∧
      ∃ settings result, ofEntries boundedSettings = .ok settings ∧ settings.IsValid ∧
        settings.override narrowRequest = .ok result ∧
        result.matching.caseSensitive = false ∧ result.matching.sort = true ∧
        result.limit = some 3 ∧ result.color = false ∧ result.IsValid ∧
        result.override narrowRequest = .ok result := by
  have number : narrowRequest.timeout ≠ some .notANumber := nofun
  have loaded : ofEntries boundedSettings
      = .ok { matching := { caseSensitive := true, sort := true }, limit := some 7 } := by
    decide +kernel
  have valid := isValid_of_ofEntries loaded nofun
  have done : override { matching := { caseSensitive := true, sort := true }, limit := some 7 }
      narrowRequest = .ok { matching := { sort := true }, color := false, limit := some 3 } := rfl
  obtain ⟨-, keeps, again⟩ := (override_asked _ number).2 _ done
  refine ⟨number, by decide +kernel, _, _, loaded, valid, done, ?_⟩
  exact ⟨rfl, rfl, rfl, rfl, keeps valid, again⟩

end Settings

end Winnow
