import Winnow.Proofs.Query.Fuzzy
import Mathlib.Data.List.Chain
import Mathlib.Data.List.Forall2

/-!
# Where fuzzy patterns match

What a fuzzy pattern spells can be said by places: its characters stand at
increasing places of the text, and no line feed lies between two places that
follow each other (`SpelledAt`). A step from one place to the next is a gap
without line feeds (`bridged_of_drop`, `exists_gap_of_bridged`), so spelling a
text is the same as having such places (`spelled_iff_exists_places`).
-/

namespace Winnow

open Regex

variable {rule : CaseRule} {text : Text}

/-- A character stands at a place of a text, up to correspondence. -/
def StandsAt (rule : CaseRule) (text : Text) (char : Char) (place : Nat) : Prop :=
  ∃ found, text[place]? = some found ∧ rule.Corresponds char found

/-- One place of a text lies behind another one, with no line feed between them. -/
def Bridged (text : Text) (left right : Nat) : Prop :=
  left < right ∧ ∀ between, left < between → between < right → text[between]? ≠ some '\n'

/-- Characters stand at places of a text, each place bridged to the next one. -/
structure SpelledAt (rule : CaseRule) (chars text : Text) (places : List Nat) : Prop where
  stands : List.Forall₂ (StandsAt rule text) chars places
  bridged : places.IsChain (Bridged text)

theorem standsAt_exact_iff {char : Char} {place : Nat} :
    StandsAt .exact text char place ↔ text[place]? = some char := by
  simp only [StandsAt, CaseRule.corresponds_exact, exists_eq_right]

/-- If case counts, characters stand at places exactly if they are the ones there. -/
theorem forall₂_standsAt_exact_iff {chars : Text} {places : List Nat} :
    List.Forall₂ (StandsAt .exact text) chars places ↔
      chars.map some = places.map fun place => text[place]? := by
  have same : StandsAt .exact text = fun char place => some char = text[place]? := by
    funext char place
    exact propext (standsAt_exact_iff.trans eq_comm)
  rw [same, ← List.forall₂_eq_eq_eq, List.forall₂_map_left_iff, List.forall₂_map_right_iff]

/-- A gap without line feeds behind a place bridges it to the place behind the gap. -/
theorem bridged_of_drop {previous : Nat} {found : Char} {gap middle : Text}
    (split : text.drop (previous + 1) = gap ++ found :: middle) (free : '\n' ∉ gap) :
    ∃ place, Bridged text previous place ∧ text[place]? = some found ∧
      middle = text.drop (place + 1) := by
  have inside : ∀ further, text[previous + 1 + further]? = (gap ++ found :: middle)[further]? := by
    intro further
    rw [← split, List.getElem?_drop]
  refine ⟨previous + 1 + gap.length, ⟨by omega, ?_⟩, ?_, ?_⟩
  · intro between after before lineFeed
    obtain ⟨further, rfl⟩ := Nat.exists_eq_add_of_le (show previous + 1 ≤ between from after)
    rw [inside, List.getElem?_append_left (by omega)] at lineFeed
    exact free (List.mem_of_getElem? lineFeed)
  · rw [inside, List.getElem?_append_right (le_refl _), Nat.sub_self]
    rfl
  · rw [Nat.add_assoc, ← List.drop_drop, split, ← List.drop_drop, List.drop_left]
    rfl

/-- What lies between a place and one that it is bridged to is a gap without line feeds. -/
theorem exists_gap_of_bridged {previous place : Nat} {found : Char}
    (bridged : Bridged text previous place) (here : text[place]? = some found) :
    ∃ gap, text.drop (previous + 1) = gap ++ found :: text.drop (place + 1) ∧ '\n' ∉ gap := by
  obtain ⟨behind, free⟩ := bridged
  refine ⟨(text.drop (previous + 1)).take (place - (previous + 1)), ?_, ?_⟩
  · have rest : (text.drop (previous + 1)).drop (place - (previous + 1)) = text.drop place := by
      rw [List.drop_drop]
      congr 1
      omega
    rw [← drop_eq_cons_iff.mp here, ← rest, List.take_append_drop]
  · intro member
    obtain ⟨further, lineFeed⟩ := List.mem_iff_getElem?.mp member
    rw [List.getElem?_take] at lineFeed
    split at lineFeed
    · next less =>
        rw [List.getElem?_drop] at lineFeed
        exact free _ (by omega) (by omega) lineFeed
    · cases lineFeed

/-- Characters follow behind a place exactly if they stand at places that it is bridged to one
after the other. -/
theorem follows_iff_exists_places {chars : Text} {previous : Nat} :
    (∃ after, Follows rule chars (text.drop (previous + 1)) after) ↔
      ∃ places, List.Forall₂ (StandsAt rule text) chars places ∧
        (previous :: places).IsChain (Bridged text) := by
  induction chars generalizing previous with
  | nil =>
      constructor
      · rintro -
        exact ⟨[], .nil, .singleton previous⟩
      · rintro -
        exact ⟨_, .nil _⟩
  | cons char chars ih =>
      constructor
      · rintro ⟨after, follows⟩
        generalize split : text.drop (previous + 1) = before at follows
        obtain _ | ⟨free, stands, rest⟩ := follows
        obtain ⟨place, bridged, here, rfl⟩ := bridged_of_drop split free
        obtain ⟨places, others, chain⟩ := ih.mp ⟨after, rest⟩
        exact ⟨place :: places, .cons ⟨_, here, stands⟩ others, .cons_cons bridged chain⟩
      · rintro ⟨places, all, chain⟩
        obtain _ | ⟨⟨found, here, stands⟩, others⟩ := all
        obtain ⟨bridged, further⟩ := List.isChain_cons_cons.mp chain
        obtain ⟨gap, split, free⟩ := exists_gap_of_bridged bridged here
        obtain ⟨after, rest⟩ := ih.mpr ⟨_, others, further⟩
        exact ⟨after, split ▸ .cons free stands rest⟩

/-- Characters are spelled in a text exactly if there are places at which they are. -/
theorem spelled_iff_exists_places {chars : Text} :
    Spelled rule chars text ↔ ∃ places, SpelledAt rule chars text places := by
  cases chars with
  | nil => exact ⟨fun _ => ⟨[], .nil, .nil⟩, fun _ => trivial⟩
  | cons char chars =>
      constructor
      · rintro ⟨before, found, middle, after, rfl, stands, follows⟩
        have behind : (before ++ found :: middle).drop (before.length + 1) = middle := by
          rw [← List.drop_drop, List.drop_left]
          rfl
        obtain ⟨places, others, chain⟩ := follows_iff_exists_places.mp ⟨after, behind ▸ follows⟩
        refine ⟨before.length :: places, .cons ⟨found, ?_, stands⟩ others, chain⟩
        rw [List.getElem?_append_right (le_refl _), Nat.sub_self]
        rfl
      · rintro ⟨places, all, chain⟩
        cases all with
        | @cons _ place _ places stands others =>
            obtain ⟨found, here, corresponds⟩ := stands
            obtain ⟨after, follows⟩ := follows_iff_exists_places.mpr ⟨places, others, chain⟩
            refine ⟨text.take place, found, _, after, ?_, corresponds, follows⟩
            rw [← drop_eq_cons_iff.mp here, List.take_append_drop]

/-- Every fuzzy pattern but the empty one compiles with a group for each of its characters, and it
matches a text exactly if its characters stand there at increasing places without a line feed
between two places that follow each other. -/
theorem fuzzy_occursIn_iff (char : Char) (chars : Text) (caseSensitive : Bool) :
    ∃ pattern, Pattern.compile (char :: chars) .fuzzy caseSensitive = .ok pattern ∧
      pattern.groups = (char :: chars).length ∧
      ∀ text, pattern.occursIn text = true ↔
        ∃ places, SpelledAt (ruleFor caseSensitive) (char :: chars) text places := by
  obtain ⟨pattern, compiled, groups, occurs⟩ := compile_fuzzy char chars caseSensitive
  refine ⟨pattern, compiled, groups, fun text => ?_⟩
  rw [occurs, spelled_iff_exists_places]

end Winnow
