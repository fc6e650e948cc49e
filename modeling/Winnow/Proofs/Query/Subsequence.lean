import Winnow.Proofs.Query.Alignable

/-!
# Texts without line feeds

Where no line feed stands in the way, spelling is nothing but holding characters
in order: a text spells exactly what it holds as a sublist
(`spelled_iff_exists_sublist`, `spelled_exact_iff`). An alignment asks for the
same of the letters of a pattern, so for a pattern of letters the filter and the
score decide alike (`occursIn_iff_scored`).
-/

namespace Winnow

open Regex

section

variable {rule : CaseRule} {chars text : Text}

theorem HoldsBehind.spelled (holds : HoldsBehind rule chars text) : Spelled rule chars text := by
  obtain ⟨after, follows⟩ := holds
  cases follows with
  | nil => trivial
  | cons _ stands rest => exact ⟨_, _, _, after, rfl, stands, rest⟩

/-- Characters follow in a text without line feeds that holds them in order. -/
theorem holdsBehind_of_sublist {picked : Text} (all : List.Forall₂ rule.Corresponds chars picked)
    (inside : picked.Sublist text) (free : '\n' ∉ text) : HoldsBehind rule chars text := by
  induction inside generalizing chars with
  | slnil =>
      cases all
      exact ⟨[], .nil []⟩
  | @cons picked text skipped _ ih =>
      obtain ⟨other, rest⟩ := not_or.mp (mt List.mem_cons.mpr free)
      exact (ih all rest).skip (Ne.symm other)
  | @cons_cons picked text found _ ih =>
      obtain ⟨-, rest⟩ := not_or.mp (mt List.mem_cons.mpr free)
      obtain _ | ⟨stands, others⟩ := all
      obtain ⟨after, follows⟩ := ih others rest
      refine ⟨after, ?_⟩
      rw [← List.nil_append (found :: text)]
      exact .cons List.not_mem_nil stands follows

/-- A text without line feeds spells exactly what it holds in order, up to correspondence. -/
theorem spelled_iff_exists_sublist (free : '\n' ∉ text) :
    Spelled rule chars text ↔
      ∃ picked, List.Forall₂ rule.Corresponds chars picked ∧ picked.Sublist text := by
  refine ⟨exists_sublist_of_spelled, ?_⟩
  rintro ⟨picked, all, inside⟩
  exact (holdsBehind_of_sublist all inside free).spelled

/-- If case counts, a text without line feeds spells exactly its sublists. -/
theorem spelled_exact_iff (free : '\n' ∉ text) :
    Spelled .exact chars text ↔ chars.Sublist text := by
  rw [spelled_iff_exists_sublist free]
  constructor
  · rintro ⟨picked, all, inside⟩
    rwa [CaseRule.forall₂_corresponds_exact.mp all]
  · intro inside
    exact ⟨chars, CaseRule.forall₂_corresponds_exact.mpr rfl, inside⟩

end

/-- Accepting and scoring coincide for single words: if case counts, a pattern without blanks
compiles, and it occurs in a candidate of at most 256 characters without line feeds exactly if the
candidate does not have the worst score. -/
theorem occursIn_iff_scored {word : Text} (some : word ≠ [])
    (letters : ∀ char ∈ word, Text.isBlank char = false) :
    ∃ pattern, Pattern.compile word .fuzzy true = .ok pattern ∧
      ∀ candidate : Text, candidate.length ≤ 256 → '\n' ∉ candidate →
        (pattern.occursIn candidate = true ↔
          Ranking.fuzzyScore word candidate true ≠ Ranking.worstScore) := by
  obtain ⟨char, chars, rfl⟩ := List.exists_cons_of_ne_nil some
  obtain ⟨pattern, compiled, -, occurs⟩ := compile_fuzzy char chars true
  refine ⟨pattern, compiled, fun candidate short free => ?_⟩
  have all : Text.letters (char :: chars) = char :: chars :=
    List.filter_eq_self.mpr fun other member => by simp [letters other member]
  have same : ∀ text : Text, text.map (comparedChar true) = text := List.map_id
  rw [occurs, ne_eq, Ranking.fuzzyScore_eq_worstScore_iff short, not_not,
    exists_isAlignment_iff_sublist, all, same, same]
  exact spelled_exact_iff free

/-- A word whose letters stand apart and behind others, in a candidate with them and in one that has
them in another order. -/
theorem occursIn_iff_scored_apart :
    ['a', 'b'] ≠ [] ∧ (∀ char ∈ ['a', 'b'], Text.isBlank char = false) ∧
      ∃ pattern, Pattern.compile ['a', 'b'] .fuzzy true = .ok pattern ∧
        (pattern.occursIn "b a.b".toList = true ↔
          Ranking.fuzzyScore ['a', 'b'] "b a.b".toList true ≠ Ranking.worstScore) ∧
        (pattern.occursIn "ba".toList = true ↔
          Ranking.fuzzyScore ['a', 'b'] "ba".toList true ≠ Ranking.worstScore) := by
  have letters : ∀ char ∈ ['a', 'b'], Text.isBlank char = false :=
    List.forall_mem_cons.mpr ⟨by decide +kernel, List.forall_mem_singleton.mpr (by decide +kernel)⟩
  obtain ⟨pattern, compiled, coincide⟩ := occursIn_iff_scored (List.cons_ne_nil _ _) letters
  exact ⟨List.cons_ne_nil _ _, letters, pattern, compiled,
    coincide _ (by decide) (by decide), coincide _ (by decide) (by decide)⟩

end Winnow
