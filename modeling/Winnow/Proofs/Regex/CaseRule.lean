import Winnow.Regex.CharTest
import Winnow.Proofs.Unicode.Folding
import Mathlib.Data.List.Forall2

/-!
# Which characters a literal accepts

A literal accepts the characters that correspond to it under the case rule of
its pattern (`accepts_literal_iff`). Two characters with one folded form are
accepted alike (`exists_corresponds_of_foldChar_eq`), but ignoring case is
coarser than folding: a letter with case variants also accepts letters of
another folded form (`corresponds_variant`), and without variants it does not
(`foldChar_eq_of_corresponds`).
-/

namespace Winnow.Regex

open Unicode

/-- The case rule of a pattern without inline flags. -/
def ruleFor (caseSensitive : Bool) : CaseRule :=
  if caseSensitive then .exact else .ignoreAll

namespace CaseRule

/-- The letters that share an upper case letter with the lower case letter of a character. -/
def variantsOf (char : Char) : List Nat := variants .ignoreAll (toLower char.toNat)

/-- A character stands for another one: its lower case letter is that of the other one or a
variant of it. Characters without letter case stand for themselves only. -/
def Corresponds (rule : CaseRule) (char found : Char) : Prop :=
  if rule.isCased char.toNat = true then
    rule.lower found.toNat ∈ rule.lower char.toNat :: rule.variants (rule.lower char.toNat)
  else found = char

variable {rule : CaseRule} {char found : Char}

@[simp] theorem corresponds_refl (rule : CaseRule) (char : Char) : rule.Corresponds char char := by
  rw [Corresponds]
  split
  · exact List.mem_cons_self
  · rfl

theorem corresponds_exact : CaseRule.exact.Corresponds char found ↔ found = char := by
  rw [Corresponds, if_neg (by simp [isCased])]

theorem forall₂_corresponds_exact {chars found : List Char} :
    List.Forall₂ CaseRule.exact.Corresponds chars found ↔ chars = found := by
  have same : CaseRule.exact.Corresponds = Eq := by
    funext char other
    exact propext (corresponds_exact.trans eq_comm)
  rw [same, List.forall₂_eq_eq_eq]

theorem corresponds_of_isCased (cased : Unicode.isCased char.toNat = true) :
    CaseRule.ignoreAll.Corresponds char found ↔
      toLower found.toNat = toLower char.toNat ∨ toLower found.toNat ∈ variantsOf char := by
  have asked : CaseRule.ignoreAll.isCased char.toNat = true := cased
  rw [Corresponds, if_pos asked, List.mem_cons]
  rfl

theorem corresponds_of_not_isCased (plain : Unicode.isCased char.toNat = false) :
    CaseRule.ignoreAll.Corresponds char found ↔ found = char := by
  have asked : CaseRule.ignoreAll.isCased char.toNat = false := plain
  rw [Corresponds, if_neg (by simp [asked])]

theorem toLower_of_not_isCased {code : Nat} (plain : Unicode.isCased code = false) :
    toLower code = code := by
  rw [Unicode.isCased, Bool.or_eq_false_iff, bne_eq_false_iff_eq] at plain
  exact plain.1.symm

end CaseRule

/-- A literal accepts exactly the characters that correspond to it. -/
theorem accepts_literal_iff {rule : CaseRule} {char found : Char} :
    (CharTest.literal rule false char.toNat).accepts found = true ↔
      rule.Corresponds char found := by
  rw [CaseRule.Corresponds, CharTest.accepts, CharTest.acceptsCode, CharTest.literal]
  split
  · simp [Member.holds, List.any_map]
  · simp [Member.holds, CaseRule.lower, Char.toNat_inj]

theorem accepts_notLineFeed_iff {found : Char} :
    CharTest.notLineFeed.accepts found = true ↔ found ≠ '\n' := by
  have code : found.toNat = 0x0A ↔ found = '\n' := Char.toNat_inj (d := '\n')
  simp [CharTest.notLineFeed, CharTest.accepts, CharTest.acceptsCode, Member.holds,
    CaseRule.lower, code]

/-! ## Case variants -/

theorem caseVariants_lower :
    ∀ entry ∈ caseVariants, toUpper entry.1 ≠ entry.1 ∧ isBlank entry.1 = false ∧
      ∀ variant ∈ entry.2, variant ≠ entry.1 ∧ toLower variant = variant ∧
        variant.isValidChar := by
  decide +kernel

namespace CaseRule

variable {char found : Char}

/-- What holds for a letter with a variant, and for the variant. -/
theorem variantsOf_spec {variant : Nat} (member : variant ∈ variantsOf char) :
    Unicode.isCased char.toNat = true ∧ Text.isBlank char = false ∧
      variant ≠ toLower char.toNat ∧ toLower variant = variant ∧ variant.isValidChar := by
  rw [variantsOf, variants] at member
  cases found : caseVariants.find? fun entry => entry.1 == toLower char.toNat with
  | none =>
      rw [found] at member
      cases member
  | some entry =>
      rw [found] at member
      have key : entry.1 = toLower char.toNat := by
        simpa using List.find?_some found
      obtain ⟨upper, letter, others⟩ := caseVariants_lower entry (List.mem_of_find?_eq_some found)
      obtain ⟨other, lower, valid⟩ := others variant member
      refine ⟨?_, ?_, key ▸ other, lower, valid⟩
      · by_contra notCased
        have plain : Unicode.isCased char.toNat = false := by simpa using notCased
        have same : entry.1 = char.toNat := key.trans (toLower_of_not_isCased plain)
        rw [Unicode.isCased, Bool.or_eq_false_iff, bne_eq_false_iff_eq,
          bne_eq_false_iff_eq] at plain
        rw [same] at upper
        exact upper plain.2.symm
      · rw [key, isBlank_toLower] at letter
        exact letter

/-- A letter stands for its variants, which fold to something else. -/
theorem corresponds_variant {variant : Nat} (member : variant ∈ variantsOf char) :
    CaseRule.ignoreAll.Corresponds char (Char.ofNat variant) ∧
      toLower (Char.ofNat variant).toNat ≠ toLower char.toNat := by
  obtain ⟨cased, -, other, lower, valid⟩ := variantsOf_spec member
  have code : (Char.ofNat variant).toNat = variant := by
    rw [Char.ofNat, dif_pos valid]
    rfl
  rw [corresponds_of_isCased cased, code, lower]
  exact ⟨.inr member, other⟩

theorem variantsOf_dottedCapitalI : variantsOf Text.dottedCapitalI ≠ [] := by
  decide +kernel

/-- A letter without variants stands for letters with its folded form only. -/
theorem foldChar_eq_of_corresponds (single : variantsOf char = [])
    (same : CaseRule.ignoreAll.Corresponds char found) :
    Text.foldChar found = Text.foldChar char := by
  cases cased : Unicode.isCased char.toNat with
  | false => rw [(corresponds_of_not_isCased cased).mp same]
  | true =>
      rw [corresponds_of_isCased cased, single] at same
      have lower : toLower found.toNat = toLower char.toNat := by simpa using same
      have charPlain : char ≠ Text.dottedCapitalI := by
        rintro rfl
        exact variantsOf_dottedCapitalI single
      have foundPlain : found ≠ Text.dottedCapitalI := by
        rintro rfl
        rw [variantsOf, ← lower] at single
        exact variantsOf_dottedCapitalI single
      rw [← Char.toNat_inj, Text.toNat_foldChar foundPlain, Text.toNat_foldChar charPlain, lower]

/-- Characters with one folded form stand for a common one. -/
theorem exists_corresponds_of_foldChar_eq {left right : Char}
    (same : Text.foldChar left = Text.foldChar right) :
    ∃ common, CaseRule.ignoreAll.Corresponds left common ∧
      CaseRule.ignoreAll.Corresponds right common := by
  have lower := Text.toLower_eq_of_foldChar_eq same
  cases leftCased : Unicode.isCased left.toNat with
  | true =>
      refine ⟨right, ?_, corresponds_refl _ _⟩
      exact (corresponds_of_isCased leftCased).mpr (.inl lower.symm)
  | false =>
      refine ⟨left, corresponds_refl _ _, ?_⟩
      cases rightCased : Unicode.isCased right.toNat with
      | true => exact (corresponds_of_isCased rightCased).mpr (.inl lower)
      | false =>
          rw [toLower_of_not_isCased leftCased, toLower_of_not_isCased rightCased] at lower
          exact (corresponds_of_not_isCased rightCased).mpr (Char.toNat_inj.mp lower)

end CaseRule

end Winnow.Regex
