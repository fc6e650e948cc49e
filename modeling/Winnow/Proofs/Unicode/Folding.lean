import Winnow.Text.Case
import Mathlib.Tactic.ByContra

/-!
# Folding of single characters

The lower case mapping moves a code point with a run of the table or keeps it.
What the table as a whole respects is checked on the ends of its runs: moved
code points and their images are characters, are no blanks, and are never the
dotted capital I. Folding a character therefore neither makes nor removes a
blank (`isBlank_foldChar`), and two characters with the same folded form have
the same lower case letter (`toLower_eq_of_foldChar_eq`).
-/

namespace Winnow.Unicode

/-- A code point is kept, or moved with a run that holds it. -/
theorem mapped_eq_self_or_moved (runs : List MappingRun) (code : Nat) :
    mapped runs code = code ∨
      ∃ run ∈ runs, run.first ≤ code ∧ code ≤ run.last ∧
        mapped runs code = run.target + (code - run.first) := by
  induction runs with
  | nil => exact .inl rfl
  | cons run rest ih =>
      rw [mapped]
      split
      · exact .inl rfl
      · by_cases inside : run.first ≤ code ∧ code ≤ run.last ∧
            (code - run.first) % run.stride = 0
        · refine .inr ⟨run, List.mem_cons_self, inside.1, inside.2.1, ?_⟩
          simp [MappingRun.image?, inside]
        · have outside : run.image? code = none := by
            rw [MappingRun.image?, if_neg inside]
          rw [outside]
          rcases ih with kept | ⟨moving, member, low, high, moved⟩
          · exact .inl kept
          · exact .inr ⟨moving, List.mem_cons_of_mem _ member, low, high, moved⟩

/-- A code point that lies outside every run is in none of them. -/
theorem inRuns_eq_false {runs : Runs} {code : Nat}
    (outside : ∀ run ∈ runs, code < run.1 ∨ run.2 < code) : inRuns runs code = false := by
  induction runs with
  | nil => rfl
  | cons run rest ih =>
      have here := outside run List.mem_cons_self
      have later := ih fun other member => outside other (List.mem_cons_of_mem _ member)
      rw [inRuns]
      split
      · rfl
      · rw [if_neg (by omega), later]

namespace MappingRun

/-- The last code point that a run maps to. -/
def image (run : MappingRun) : Nat := run.target + (run.last - run.first)

/-- Neither the members of a run nor their images lie in an interval. -/
def Avoids (run : MappingRun) (low high : Nat) : Prop :=
  (run.last < low ∨ high < run.first) ∧ (run.image < low ∨ high < run.target)

instance (run : MappingRun) (low high : Nat) : Decidable (run.Avoids low high) :=
  inferInstanceAs (Decidable (_ ∧ _))

end MappingRun

theorem lowerMappings_avoid_blanks :
    ∀ run ∈ lowerMappings, ∀ blank ∈ blankRuns, run.Avoids blank.1 blank.2 := by
  decide +kernel

theorem lowerMappings_image_valid :
    ∀ run ∈ lowerMappings,
      run.image < 0xD800 ∨ (0xDFFF < run.target ∧ run.image < 0x110000) := by
  decide +kernel

theorem lowerMappings_avoid_dottedCapitalI :
    ∀ run ∈ lowerMappings, run.image < 0x130 ∨ 0x130 < run.target := by
  decide +kernel

/-- Lowering keeps blanks apart from all other code points. -/
theorem isBlank_toLower (code : Nat) : isBlank (toLower code) = isBlank code := by
  rcases mapped_eq_self_or_moved lowerMappings code with
    kept | ⟨run, member, low, high, moved⟩
  · rw [toLower, kept]
  · have avoids := lowerMappings_avoid_blanks run member
    have before : isBlank code = false := inRuns_eq_false fun blank blankMember => by
      have away := (avoids blank blankMember).1
      omega
    have after : isBlank (toLower code) = false := inRuns_eq_false fun blank blankMember => by
      have away := (avoids blank blankMember).2
      rw [toLower, moved]
      simp only [MappingRun.image] at away
      omega
    rw [before, after]

/-- The lower case letter of a character is a character. -/
theorem toLower_isValidChar {code : Nat} (valid : code.isValidChar) :
    (toLower code).isValidChar := by
  rcases mapped_eq_self_or_moved lowerMappings code with
    kept | ⟨run, member, low, high, moved⟩
  · rwa [toLower, kept]
  · have bounds := lowerMappings_image_valid run member
    rw [toLower, moved]
    simp only [MappingRun.image, Nat.isValidChar] at bounds ⊢
    omega

/-- Only the dotted capital I could be lowered to itself, and it is not. -/
theorem toLower_ne_dottedCapitalI (code : Nat) : toLower code ≠ 0x130 := by
  rcases mapped_eq_self_or_moved lowerMappings code with
    kept | ⟨run, member, low, high, moved⟩
  · intro equal
    have same : code = 0x130 := kept.symm.trans equal
    subst same
    revert equal
    decide +kernel
  · have bounds := lowerMappings_avoid_dottedCapitalI run member
    rw [toLower, moved]
    simp only [MappingRun.image] at bounds
    omega

end Winnow.Unicode

namespace Winnow.Text

open Unicode

theorem toNat_foldChar {char : Char} (plain : char ≠ dottedCapitalI) :
    (foldChar char).toNat = toLower char.toNat := by
  have valid : (toLower char.toNat).isValidChar := toLower_isValidChar char.valid
  rw [foldChar, if_neg plain, Char.ofNat, dif_pos valid]
  rfl

@[simp] theorem foldChar_dottedCapitalI : foldChar dottedCapitalI = dottedCapitalI :=
  if_pos rfl

/-- Nothing else is folded to the dotted capital I. -/
theorem foldChar_eq_dottedCapitalI_iff {char : Char} :
    foldChar char = dottedCapitalI ↔ char = dottedCapitalI := by
  constructor
  · intro folded
    by_contra plain
    have code := toNat_foldChar plain
    rw [folded] at code
    exact toLower_ne_dottedCapitalI char.toNat code.symm
  · rintro rfl
    simp

/-- Folding keeps blanks apart from all other characters. -/
@[simp] theorem isBlank_foldChar (char : Char) : isBlank (foldChar char) = isBlank char := by
  by_cases dotted : char = dottedCapitalI
  · rw [dotted, foldChar_dottedCapitalI]
  · rw [isBlank, toNat_foldChar dotted, isBlank_toLower, isBlank]

/-- Characters with one folded form have one lower case letter. -/
theorem toLower_eq_of_foldChar_eq {left right : Char} (equal : foldChar left = foldChar right) :
    toLower left.toNat = toLower right.toNat := by
  by_cases dotted : left = dottedCapitalI
  · subst dotted
    rw [foldChar_dottedCapitalI] at equal
    rw [foldChar_eq_dottedCapitalI_iff.mp equal.symm]
  · have plain : right ≠ dottedCapitalI := by
      rintro rfl
      rw [foldChar_dottedCapitalI, foldChar_eq_dottedCapitalI_iff] at equal
      exact dotted equal
    rw [← toNat_foldChar dotted, ← toNat_foldChar plain, equal]

end Winnow.Text
