import Winnow.Ranking.Collation
import Mathlib.Order.Lattice
import Mathlib.Data.List.Lex

/-!
# Collation as an order

Code points are compared as lists are ordered (`compareCodes_eq_lt_iff`), so a
comparison that is cut at one length is a linear preorder. Composition makes no
null character where there was none (`zero_notMem_composed`), so texts without one
can always be compared. Cutting further behind only tells more texts apart
(`compareCodes_take`, `localeCompare_preorder`).
-/

namespace Winnow.Ranking

/-! ## Code points -/

/-- A list of code points comes first exactly if it is the lesser one. -/
theorem compareCodes_eq_lt_iff {left right : List Nat} :
    compareCodes left right = .lt ↔ left < right := by
  induction left generalizing right with
  | nil => cases right <;> simp [compareCodes]
  | cons first left ih =>
      cases right with
      | nil => simp [compareCodes]
      | cons second right =>
          rw [compareCodes, List.cons_lt_cons_iff]
          rcases Nat.lt_trichotomy first second with less | rfl | greater
          · simp [Nat.compare_eq_lt.mpr less, less]
          · simp [ih]
          · simp [Nat.compare_eq_gt.mpr greater, Nat.not_lt_of_gt greater, Nat.ne_of_gt greater]

/-- Swapping two lists of code points swaps their order. -/
theorem compareCodes_swap (left right : List Nat) :
    (compareCodes left right).swap = compareCodes right left := by
  induction left generalizing right with
  | nil => cases right <;> rfl
  | cons first left ih =>
      cases right with
      | nil => rfl
      | cons second right =>
          rw [compareCodes, compareCodes]
          rcases Nat.lt_trichotomy first second with less | rfl | greater
          · simp [Nat.compare_eq_lt.mpr less, Nat.compare_eq_gt.mpr less]
          · simp [ih]
          · simp [Nat.compare_eq_gt.mpr greater, Nat.compare_eq_lt.mpr greater]

theorem compareCodes_eq_gt_iff {left right : List Nat} :
    compareCodes left right = .gt ↔ right < left := by
  rw [← compareCodes_eq_lt_iff, ← compareCodes_swap right left]
  cases compareCodes right left <;> simp

/-- Lists of code points tie exactly if they are equal. -/
theorem compareCodes_eq_eq_iff {left right : List Nat} :
    compareCodes left right = .eq ↔ left = right := by
  rcases lt_trichotomy left right with less | rfl | greater
  · rw [compareCodes_eq_lt_iff.mpr less]
    simp [less.ne]
  · have notLess := mt compareCodes_eq_lt_iff.mp (lt_irrefl left)
    have notGreater := mt compareCodes_eq_gt_iff.mp (lt_irrefl left)
    cases order : compareCodes left left <;> simp_all
  · rw [compareCodes_eq_gt_iff.mpr greater]
    simp [greater.ne']

theorem cut_natCast {α : Type} (count : Nat) (list : List α) :
    cut count list = list.take count := by
  simp [cut]

theorem localeCompare_natCast (left right : Text) (count : Nat) :
    localeCompare left right count
      = if 0 ∈ (composed left).take count ∨ 0 ∈ (composed right).take count then
          .error .embeddedNull
        else .ok (compareCodes ((composed left).take count) ((composed right).take count)) := by
  simp only [localeCompare, cut_natCast, Bool.or_eq_true, List.contains_iff_mem]

end Winnow.Ranking

namespace Winnow.Unicode

/-! ## No null characters -/

theorem decompositionBlocks_zero_notMem :
    ∀ block ∈ decompositionBlocks, ∀ packed ∈ block.2.2,
      0 ∉ fields longestDecomposition (packed / 0x1000000) := by
  decide +kernel

theorem compositionBlocks_ne_zero :
    ∀ block ∈ compositionBlocks, ∀ entry ∈ block.2.2, entry.2.2 ≠ 0 := by
  decide +kernel

/-- The jamo of a syllable are no null characters. -/
theorem Hangul.zero_notMem_decompose? {code : Nat} {jamo : List Nat}
    (found : decompose? code = some jamo) : 0 ∉ jamo := by
  rw [decompose?] at found
  split at found
  · obtain rfl := Option.some.inj found
    have lead : ∀ offset, 0 ≠ leadBase + offset := fun _ => (Nat.add_pos_left (by decide) _).ne
    have vowel : ∀ offset, 0 ≠ vowelBase + offset := fun _ => (Nat.add_pos_left (by decide) _).ne
    have trail : ∀ offset, 0 ≠ trailBase + offset := fun _ => (Nat.add_pos_left (by decide) _).ne
    split
    · simp [lead, vowel]
    · simp [lead, vowel, trail]
  · cases found

/-- Nothing but the null character decomposes into one. -/
theorem zero_notMem_decompose {code : Nat} (some : code ≠ 0) : 0 ∉ decompose code := by
  rw [decompose]
  split
  · simp [some.symm]
  · split
    · next jamo found => exact Hangul.zero_notMem_decompose? found
    · dsimp only
      split
      · next packed found =>
          obtain ⟨block, blockFound, entryFound⟩ := Option.bind_eq_some_iff.mp found
          exact decompositionBlocks_zero_notMem block (List.mem_of_find?_eq_some blockFound)
            packed (List.mem_of_find?_eq_some entryFound)
      · simp [some.symm]

/-- Putting in a mark adds it to the code points. -/
theorem mem_insertMark {mark code : Nat} {codes : List Nat} :
    code ∈ insertMark mark codes ↔ code = mark ∨ code ∈ codes := by
  induction codes with
  | nil => simp [insertMark]
  | cons next rest ih =>
      rw [insertMark]
      split
      · rw [List.mem_cons, ih, List.mem_cons]
        exact or_left_comm
      · simp

/-- Canonical order moves code points only. -/
theorem mem_canonicalOrder {code : Nat} {codes : List Nat} :
    code ∈ canonicalOrder codes ↔ code ∈ codes := by
  induction codes with
  | nil => rfl
  | cons next rest ih =>
      rw [canonicalOrder]
      split
      · simp [ih]
      · simp [mem_insertMark, ih]

/-- Two code points are never composed into a null character. -/
theorem compose?_ne_zero {first second composed : Nat}
    (found : compose? first second = some composed) : composed ≠ 0 := by
  rw [compose?] at found
  split at found
  · next syllable joined =>
      obtain rfl := Option.some.inj found
      rw [Hangul.compose?] at joined
      split at joined
      · obtain rfl := Option.some.inj joined
        simp [Hangul.syllableBase]
      · split at joined
        · next trailing =>
            obtain rfl := Option.some.inj joined
            have base := trailing.1
            simp only [Hangul.syllableBase] at base
            omega
        · cases joined
  · obtain ⟨entry, entryFound, rfl⟩ := Option.map_eq_some_iff.mp found
    obtain ⟨block, blockFound, entryFound⟩ := Option.bind_eq_some_iff.mp entryFound
    exact compositionBlocks_ne_zero block (List.mem_of_find?_eq_some blockFound)
      entry (List.mem_of_find?_eq_some entryFound)

/-- Composition behind a starter makes no null character. -/
theorem zero_notMem_composeAfter {starter lastClass : Nat} {marks codes : List Nat}
    (starterSome : starter ≠ 0) (marksSome : 0 ∉ marks) (codesSome : 0 ∉ codes) :
    0 ∉ composeAfter starter marks lastClass codes := by
  induction codes generalizing starter marks lastClass with
  | nil => simp [composeAfter, starterSome.symm, marksSome]
  | cons code rest ih =>
      obtain ⟨codeSome, restSome⟩ := not_or.mp (mt List.mem_cons.mpr codesSome)
      rw [composeAfter]
      split
      · next composed found =>
          split at found
          · exact ih (compose?_ne_zero found) marksSome restSome
          · cases found
      · split
        · have behind : 0 ∉ composeAfter code [] 0 rest :=
            ih (Ne.symm codeSome) List.not_mem_nil restSome
          simp [starterSome.symm, marksSome, behind]
        · exact ih starterSome (mt List.mem_cons.mp (not_or.mpr ⟨codeSome, marksSome⟩)) restSome

/-- Composition makes no null character. -/
theorem zero_notMem_compose {codes : List Nat} (codesSome : 0 ∉ codes) : 0 ∉ compose codes := by
  induction codes with
  | nil => simp [compose]
  | cons code rest ih =>
      obtain ⟨codeSome, restSome⟩ := not_or.mp (mt List.mem_cons.mpr codesSome)
      rw [compose]
      split
      · exact zero_notMem_composeAfter (Ne.symm codeSome) List.not_mem_nil restSome
      · exact mt List.mem_cons.mp (not_or.mpr ⟨codeSome, ih restSome⟩)

/-- Normalization makes no null character. -/
theorem zero_notMem_normalize {codes : List Nat} (codesSome : 0 ∉ codes) :
    0 ∉ normalize codes := by
  rw [normalize]
  split
  · exact codesSome
  · apply zero_notMem_compose
    rw [mem_canonicalOrder]
    intro member
    obtain ⟨code, codeMember, inside⟩ := List.mem_flatMap.mp member
    exact zero_notMem_decompose (fun none => codesSome (none ▸ codeMember)) inside

end Winnow.Unicode

namespace Winnow.Ranking

/-- The character that ends a text for the collating rules. -/
def nullChar : Char := Char.ofNat 0

/-- A text without null characters has none when it is composed. -/
theorem zero_notMem_composed {text : Text} (free : nullChar ∉ text) : 0 ∉ composed text := by
  apply Unicode.zero_notMem_normalize
  intro member
  obtain ⟨char, charMember, zero⟩ := List.mem_map.mp member
  have null : char = nullChar := Char.toNat_inj.mp zero
  exact free (null ▸ charMember)

/-! ## Comparisons that are cut at one length -/

theorem isLE_compareCodes_iff {left right : List Nat} :
    (compareCodes left right).isLE ↔ left ≤ right := by
  rw [Ordering.isLE_iff_ne_gt, ← not_lt, ← compareCodes_eq_gt_iff]

/-- What tells two lists apart where they are cut does so as well where more of them is left. -/
theorem compareCodes_take {left right : List Nat} {count more : Nat} (le : count ≤ more)
    (apart : compareCodes (left.take count) (right.take count) ≠ .eq) :
    compareCodes (left.take more) (right.take more)
      = compareCodes (left.take count) (right.take count) := by
  induction count generalizing left right more with
  | zero => exact absurd rfl apart
  | succ count ih =>
      obtain ⟨more, rfl⟩ := Nat.exists_eq_add_of_le' (Nat.le_of_add_left_le le)
      cases left with
      | nil => cases right <;> rfl
      | cons first left =>
          cases right with
          | nil => rfl
          | cons second right =>
              simp only [List.take_succ_cons, compareCodes] at apart ⊢
              split
              · next same =>
                  rw [same] at apart
                  exact ih (Nat.le_of_succ_le_succ le) apart
              · rfl

/-- Texts without null characters are compared by the beginnings of their composed forms. -/
theorem localeCompare_of_free {left right : Text} (leftFree : nullChar ∉ left)
    (rightFree : nullChar ∉ right) (count : Nat) :
    localeCompare left right count
      = .ok (compareCodes ((composed left).take count) ((composed right).take count)) := by
  rw [localeCompare_natCast, if_neg]
  rintro (member | member)
  · exact zero_notMem_composed leftFree (List.mem_of_mem_take member)
  · exact zero_notMem_composed rightFree (List.mem_of_mem_take member)

/-- Up to a length one text does not sort behind another one. -/
def NotAfter (count : Nat) (left right : Text) : Prop :=
  ∃ order, localeCompare left right count = .ok order ∧ order.isLE

/-- Texts without null characters are in a total preorder wherever they are cut, and it only gets
finer where more of them is left. They tie exactly if the beginnings of their composed forms are
equal, swapping them swaps their order, not to sort behind is transitive, and an order that is no
tie stays the same when more code points are compared. -/
theorem localeCompare_preorder {left middle right : Text} (leftFree : nullChar ∉ left)
    (middleFree : nullChar ∉ middle) (rightFree : nullChar ∉ right) (count : Nat) :
    ∃ order, localeCompare left right count = .ok order ∧
      (order = .eq ↔ (composed left).take count = (composed right).take count) ∧
      localeCompare right left count = .ok order.swap ∧
      (NotAfter count left middle → NotAfter count middle right → NotAfter count left right) ∧
      (order ≠ .eq → ∀ more : Nat, count ≤ more → localeCompare left right more = .ok order) := by
  have notAfter_iff : ∀ {first second : Text}, nullChar ∉ first → nullChar ∉ second →
      (NotAfter count first second ↔
        (composed first).take count ≤ (composed second).take count) := by
    intro first second firstFree secondFree
    simp only [NotAfter, localeCompare_of_free firstFree secondFree, Except.ok.injEq]
    rw [exists_eq_left', isLE_compareCodes_iff]
  refine ⟨_, localeCompare_of_free leftFree rightFree count, compareCodes_eq_eq_iff, ?_, ?_, ?_⟩
  · rw [localeCompare_of_free rightFree leftFree, compareCodes_swap]
  · rw [notAfter_iff leftFree middleFree, notAfter_iff middleFree rightFree,
      notAfter_iff leftFree rightFree]
    exact le_trans
  · intro apart more le
    rw [localeCompare_of_free leftFree rightFree, compareCodes_take le apart]

/-- A ligature sorts with its letters, before a word that goes on with a later one. -/
theorem localeCompare_preorder_ligature :
    nullChar ∉ [Char.ofNat 0xFB01] ∧ nullChar ∉ "fi".toList ∧ nullChar ∉ "fj".toList ∧
      NotAfter 2 [Char.ofNat 0xFB01] "fj".toList ∧
      ∀ more : Nat, 2 ≤ more → localeCompare [Char.ofNat 0xFB01] "fj".toList more = .ok .lt := by
  have ligatureFree : nullChar ∉ [Char.ofNat 0xFB01] := by decide
  have lettersFree : nullChar ∉ "fi".toList := by decide
  have laterFree : nullChar ∉ "fj".toList := by decide
  have tie : NotAfter 2 [Char.ofNat 0xFB01] "fi".toList := ⟨.eq, by decide, rfl⟩
  have before : NotAfter 2 "fi".toList "fj".toList := ⟨.lt, by decide, rfl⟩
  obtain ⟨order, compared, -, -, trans, stays⟩ :=
    localeCompare_preorder ligatureFree lettersFree laterFree 2
  have less : localeCompare [Char.ofNat 0xFB01] "fj".toList (2 : Nat) = .ok .lt := by
    decide
  obtain rfl := Except.ok.inj (compared.symm.trans less)
  exact ⟨ligatureFree, lettersFree, laterFree, trans tie before, stays (by decide)⟩

end Winnow.Ranking
