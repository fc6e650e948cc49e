import Winnow.Proofs.Ranking.Collation

/-!
# Where null characters stand

A null character decomposes into itself, composes with nothing and stops the ordering
of marks, so a text is normalized on both sides of it separately
(`normalize_append_null`). It comes among the first code points of a composed text
exactly if what stands before it composes to fewer (`zero_mem_take_composed_iff`).
That decides which texts can be compared up to a length (`localeCompare_isOk_iff`).
-/

namespace Winnow.Unicode

/-! ## Compositions -/

/-- Every composition is one of jamo or stands in a table. -/
theorem compose?_eq_some {first second composed : Nat}
    (found : compose? first second = some composed) :
    Hangul.compose? first second = some composed ∨
      ∃ block ∈ compositionBlocks, (first, second, composed) ∈ block.2.2 := by
  rw [compose?] at found
  split at found
  · next syllable joined => exact .inl (joined.trans found)
  · obtain ⟨⟨left, right, joined⟩, entryFound, rfl⟩ := Option.map_eq_some_iff.mp found
    obtain ⟨block, blockFound, entryFound⟩ := Option.bind_eq_some_iff.mp entryFound
    have same : left = first ∧ right = second := by simpa using List.find?_some entryFound
    obtain ⟨rfl, rfl⟩ := same
    exact .inr ⟨block, List.mem_of_find?_eq_some blockFound, List.mem_of_find?_eq_some entryFound⟩

/-- Jamo are neither null characters nor plain. -/
theorem Hangul.bounds_of_compose? {first second composed : Nat}
    (found : compose? first second = some composed) : first ≠ 0 ∧ 0xA0 ≤ second := by
  rw [compose?] at found
  split at found
  · next leading =>
      simp only [leadBase, vowelBase] at leading
      omega
  · split at found
    · next trailing =>
        simp only [syllableBase, trailBase] at trailing
        omega
    · cases found

theorem compositionBlocks_bounds :
    ∀ block ∈ compositionBlocks, ∀ entry ∈ block.2.2, entry.1 ≠ 0 ∧ 0xA0 ≤ entry.2.1 := by
  decide +kernel

theorem bounds_of_compose? {first second composed : Nat}
    (found : compose? first second = some composed) : first ≠ 0 ∧ 0xA0 ≤ second := by
  rcases compose?_eq_some found with jamo | ⟨block, blockMember, member⟩
  · exact Hangul.bounds_of_compose? jamo
  · exact compositionBlocks_bounds block blockMember _ member

theorem compose?_plain {first second : Nat} (plain : second < 0xA0) :
    compose? first second = none := by
  refine Option.eq_none_iff_forall_ne_some.mpr fun composed found => ?_
  exact absurd (bounds_of_compose? found).2 (Nat.not_le_of_gt plain)

theorem compose?_null (second : Nat) : compose? 0 second = none := by
  refine Option.eq_none_iff_forall_ne_some.mpr fun composed found => ?_
  exact (bounds_of_compose? found).1 rfl

/-! ## Plain texts -/

theorem combiningClass_plain {code : Nat} (plain : code < 0xA0) : combiningClass code = 0 := by
  rw [combiningClass, if_pos (by omega)]

/-- Plain code points stay behind a plain starter. -/
theorem composeAfter_plain {starter : Nat} {codes : List Nat}
    (plain : ∀ code ∈ codes, code < 0xA0) : composeAfter starter [] 0 codes = starter :: codes := by
  induction codes generalizing starter with
  | nil => rfl
  | cons code rest ih =>
      obtain ⟨here, later⟩ := List.forall_mem_cons.mp plain
      simp [composeAfter, compose?_plain here, combiningClass_plain here, ih later]

/-- Composition leaves plain texts alone. -/
theorem compose_plain {codes : List Nat} (plain : ∀ code ∈ codes, code < 0xA0) :
    compose codes = codes := by
  cases codes with
  | nil => rfl
  | cons code rest =>
      obtain ⟨here, later⟩ := List.forall_mem_cons.mp plain
      rw [compose, if_pos (combiningClass_plain here), composeAfter_plain later]

/-- Plain texts are in canonical order. -/
theorem canonicalOrder_plain {codes : List Nat} (plain : ∀ code ∈ codes, code < 0xA0) :
    canonicalOrder codes = codes := by
  induction codes with
  | nil => rfl
  | cons code rest ih =>
      obtain ⟨here, later⟩ := List.forall_mem_cons.mp plain
      rw [canonicalOrder, if_pos (combiningClass_plain here), ih later]

/-- Plain texts decompose into themselves. -/
theorem flatMap_decompose_plain {codes : List Nat} (plain : ∀ code ∈ codes, code < 0xA0) :
    codes.flatMap decompose = codes := by
  induction codes with
  | nil => rfl
  | cons code rest ih =>
      obtain ⟨here, later⟩ := List.forall_mem_cons.mp plain
      rw [List.flatMap_cons, decompose, if_pos here, ih later, List.singleton_append]

/-- The short cut for plain texts is one. -/
theorem normalize_eq (codes : List Nat) :
    normalize codes = compose (canonicalOrder (codes.flatMap decompose)) := by
  rw [normalize]
  split
  · next all =>
      have plain : ∀ code ∈ codes, code < 0xA0 := by simpa using all
      rw [flatMap_decompose_plain plain, canonicalOrder_plain plain, compose_plain plain]
  · rfl

/-! ## Null characters are boundaries -/

/-- No mark is moved behind a null character. -/
theorem insertMark_append_null (mark : Nat) (left right : List Nat) :
    insertMark mark (left ++ 0 :: right) = insertMark mark left ++ 0 :: right := by
  induction left with
  | nil => simp [insertMark, combiningClass]
  | cons next rest ih =>
      rw [List.cons_append, insertMark, insertMark]
      split
      · rw [ih, List.cons_append]
      · rfl

/-- Marks are ordered on both sides of a null character. -/
theorem canonicalOrder_append_null (left right : List Nat) :
    canonicalOrder (left ++ 0 :: right) = canonicalOrder left ++ 0 :: canonicalOrder right := by
  induction left with
  | nil => simp [canonicalOrder, combiningClass]
  | cons code rest ih =>
      rw [List.cons_append, canonicalOrder, canonicalOrder, ih]
      split
      · rfl
      · exact insertMark_append_null _ _ _

/-- Behind a null character composition starts afresh. -/
theorem composeAfter_null (marks : List Nat) (lastClass : Nat) (codes : List Nat) :
    composeAfter 0 marks lastClass codes = 0 :: (marks.reverse ++ compose codes) := by
  induction codes generalizing marks lastClass with
  | nil => simp [composeAfter, compose]
  | cons code rest ih =>
      rw [composeAfter, compose]
      simp only [compose?_null, ite_self]
      split
      · rfl
      · simp [ih]

/-- A null character ends what is composed behind a starter. -/
theorem composeAfter_append_null (starter : Nat) (marks : List Nat) (lastClass : Nat)
    (left right : List Nat) :
    composeAfter starter marks lastClass (left ++ 0 :: right)
      = composeAfter starter marks lastClass left ++ 0 :: compose right := by
  induction left generalizing starter marks lastClass with
  | nil =>
      have alone : compose? starter 0 = none := compose?_plain (by decide)
      simp [composeAfter, alone, combiningClass, composeAfter_null]
  | cons code rest ih =>
      rw [List.cons_append, composeAfter, composeAfter]
      split
      · exact ih _ _ _
      · split
        · simp [ih]
        · exact ih _ _ _

/-- Composition goes on at both sides of a null character. -/
theorem compose_append_null (left right : List Nat) :
    compose (left ++ 0 :: right) = compose left ++ 0 :: compose right := by
  induction left with
  | nil => simp [compose, combiningClass, composeAfter_null]
  | cons code rest ih =>
      rw [List.cons_append, compose, compose]
      split
      · exact composeAfter_append_null _ _ _ _ _
      · rw [ih, List.cons_append]

/-- A text is normalized on both sides of a null character. -/
theorem normalize_append_null (left right : List Nat) :
    normalize (left ++ 0 :: right) = normalize left ++ 0 :: normalize right := by
  have null : decompose 0 = [0] := by
    rw [decompose, if_pos (by decide)]
  rw [normalize_eq, normalize_eq, normalize_eq, List.flatMap_append, List.flatMap_cons, null,
    List.singleton_append, canonicalOrder_append_null, compose_append_null]

end Winnow.Unicode

namespace Winnow.Ranking

theorem composed_append_null (before after : Text) :
    composed (before ++ nullChar :: after) = composed before ++ 0 :: composed after := by
  have null : nullChar.toNat = 0 := by decide
  rw [composed, List.map_append, List.map_cons, null, Unicode.normalize_append_null]
  rfl

/-- A null character stands in a text behind fewer composed code points than `count`. -/
def ShowsNull (count : Nat) (text : Text) : Prop :=
  ∃ before after, text = before ++ nullChar :: after ∧ (composed before).length < count

/-- The null characters among the first code points are those of the text. -/
theorem zero_mem_take_composed_iff {text : Text} {count : Nat} :
    0 ∈ (composed text).take count ↔ ShowsNull count text := by
  constructor
  · intro member
    have held : nullChar ∈ text := by
      by_contra free
      exact zero_notMem_composed free (List.mem_of_mem_take member)
    -- The first null character of the text is the first one of the composed text.
    obtain ⟨before, after, rfl, free⟩ := List.eq_append_cons_of_mem held
    refine ⟨before, after, rfl, ?_⟩
    by_contra far
    rw [composed_append_null, List.take_append_of_le_length (by omega)] at member
    exact zero_notMem_composed free (List.mem_of_mem_take member)
  · rintro ⟨before, after, rfl, near⟩
    obtain ⟨further, rfl⟩ := Nat.exists_eq_add_of_lt near
    rw [composed_append_null, Nat.add_assoc, List.take_length_add_append, List.take_succ_cons]
    simp

theorem ShowsNull.mem {count : Nat} {text : Text} (shown : ShowsNull count text) :
    nullChar ∈ text := by
  obtain ⟨before, after, rfl, -⟩ := shown
  exact List.mem_append_right before List.mem_cons_self

/-- A composed text that is not cut shows every null character of the text. -/
theorem showsNull_iff_of_length_le {text : Text} {count : Nat}
    (whole : (composed text).length ≤ count) : ShowsNull count text ↔ nullChar ∈ text := by
  refine ⟨ShowsNull.mem, fun held => ?_⟩
  obtain ⟨before, after, rfl⟩ := List.append_of_mem held
  refine ⟨before, after, rfl, ?_⟩
  rw [composed_append_null, List.length_append, List.length_cons] at whole
  omega

/-- How many members of a list of some length a cut keeps. -/
def kept (count : Int) (length : Nat) : Nat :=
  if 0 ≤ count then count.toNat else length - count.natAbs

theorem cut_eq {α : Type} (count : Int) (list : List α) :
    cut count list = list.take (kept count list.length) := by
  rw [cut, kept]
  split <;> rfl

/-- Two texts are compared up to a length exactly if neither shows a null character there. -/
theorem localeCompare_isOk_iff {left right : Text} {count : Int} :
    (∃ order, localeCompare left right count = .ok order) ↔
      ¬ShowsNull (kept count (composed left).length) left ∧
        ¬ShowsNull (kept count (composed right).length) right := by
  rw [← zero_mem_take_composed_iff, ← zero_mem_take_composed_iff, ← cut_eq, ← cut_eq,
    ← not_or, localeCompare]
  split
  · next null =>
      refine iff_of_false ?_ (not_not.mpr (by simpa using null))
      rintro ⟨order, same⟩
      cases same
  · next free => exact iff_of_true ⟨_, rfl⟩ (by simpa using free)

/-- Two texts are compared up to every length exactly if neither holds a null character. -/
theorem localeCompare_total_iff {left right : Text} :
    (∀ count, ∃ order, localeCompare left right count = .ok order) ↔
      nullChar ∉ left ∧ nullChar ∉ right := by
  constructor
  · intro returns
    let whole : Nat := max (composed left).length (composed right).length
    have keeps : ∀ length, kept whole length = whole := fun _ => rfl
    have free := localeCompare_isOk_iff.mp (returns whole)
    rwa [keeps, keeps, showsNull_iff_of_length_le (Nat.le_max_left _ _),
      showsNull_iff_of_length_le (Nat.le_max_right _ _)] at free
  · rintro ⟨leftFree, rightFree⟩ count
    exact localeCompare_isOk_iff.mpr
      ⟨fun shown => leftFree shown.mem, fun shown => rightFree shown.mem⟩

end Winnow.Ranking
