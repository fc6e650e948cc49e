import Winnow.Proofs.Style.Runs

/-!
# Fragments in the style of the selection

A fragment is drawn in the style of the selection if the name of that style is one of the
words of its own style (`IsMarked`). On top of the style of the selection every fragment
of a candidate is marked, since what is added to it begins behind a blank
(`isMarked_of_mem_styleCandidate`). On top of no style none is, since a style is then a
description, and no description holds the letter s (`not_isMarked_of_mem_styleCandidate`).
-/

namespace Winnow

/-! ## Words of a style -/

namespace Text

variable {separates : Char → Bool}

/-- The characters of a piece are those of the text. -/
theorem mem_of_mem_piecesFrom {piece text word : Text}
    (member : word ∈ piecesFrom separates piece text) :
    ∀ char ∈ word, char ∈ piece ∨ char ∈ text := by
  induction text generalizing piece with
  | nil =>
      rw [piecesFrom] at member
      split at member
      · cases member
      · rw [List.mem_singleton.mp member]
        simp
  | cons first rest ih =>
      intro char inside
      rw [piecesFrom] at member
      split at member
      · split at member
        · exact .inr (List.mem_cons_of_mem _ ((ih member char inside).resolve_left (by simp)))
        · rcases List.mem_cons.mp member with rfl | later
          · exact .inl (List.mem_reverse.mp inside)
          · exact .inr (List.mem_cons_of_mem _ ((ih later char inside).resolve_left (by simp)))
      · rcases ih member char inside with here | behind
        · rcases List.mem_cons.mp here with rfl | before
          · exact .inr List.mem_cons_self
          · exact .inl before
        · exact .inr (List.mem_cons_of_mem _ behind)

/-- Characters that do not separate are added to the piece that has begun. -/
theorem piecesFrom_append {word : Text} (free : ∀ char ∈ word, separates char = false)
    (piece rest : Text) :
    piecesFrom separates piece (word ++ rest)
      = piecesFrom separates (word.reverse ++ piece) rest := by
  induction word generalizing piece with
  | nil => rfl
  | cons char word ih =>
      obtain ⟨here, behind⟩ := List.forall_mem_cons.mp free
      rw [List.cons_append, piecesFrom, if_neg (by simp [here]), ih behind, List.reverse_cons,
        List.append_assoc, List.singleton_append]

/-- What stands at the beginning of a text up to a blank or the end is one of its words. -/
theorem mem_words_append {word rest : Text} (filled : word ≠ [])
    (free : ∀ char ∈ word, isBlank char = false) (ends : ∀ char ∈ rest.head?, isBlank char = true) :
    word ∈ words (word ++ rest) := by
  rw [words, piecesFrom_append free, List.append_nil]
  cases rest with
  | nil => simp [piecesFrom, filled]
  | cons char rest => simp [piecesFrom, filled, ends char rfl]

/-- Dropping characters from the end stops at one that is kept. -/
theorem dropTrailing_append {drop : Char → Bool} {last : Char} (kept : drop last = false)
    (before rest : Text) :
    dropTrailing drop (before ++ last :: rest) = before ++ last :: dropTrailing drop rest := by
  have stops : (last :: before.reverse).dropWhile drop = last :: before.reverse :=
    List.dropWhile_cons_of_neg (by simp [kept])
  rw [dropTrailing, dropTrailing, List.reverse_append, List.reverse_cons, List.append_assoc,
    List.singleton_append, List.dropWhile_append, stops]
  split
  · next none => simp [List.isEmpty_iff.mp none]
  · simp

/-- Joined pieces hold the characters of the pieces and of the separator. -/
theorem notMem_join {separator : Text} {pieces : List Text} {char : Char}
    (apart : char ∉ separator) (free : ∀ piece ∈ pieces, char ∉ piece) :
    char ∉ join separator pieces := by
  rw [join]
  induction pieces with
  | nil => exact List.not_mem_nil
  | cons piece pieces ih =>
      obtain ⟨here, behind⟩ := List.forall_mem_cons.mp free
      cases pieces with
      | nil => rwa [List.intercalate_singleton]
      | cons next pieces =>
          rw [List.intercalate_cons_cons, List.mem_append, List.mem_append]
          simp [here, apart, ih behind]

/-- What is left of a text that begins with a blank begins with it too, if it is not empty. -/
theorem isBlank_head?_dropTrailing {blank : Char} (isBlank : isBlank blank = true) (rest : Text) :
    ∀ char ∈ (dropTrailing Text.isBlank (blank :: rest)).head?, Text.isBlank char = true := by
  have front : dropTrailing Text.isBlank (blank :: rest) <+: blank :: rest :=
    List.reverse_suffix.mp (by
      rw [dropTrailing, List.reverse_reverse]
      exact List.dropWhile_suffix _)
  intro char head
  obtain ⟨others, shape⟩ := List.head?_eq_some_iff.mp head
  rw [shape, List.cons_prefix_cons] at front
  rw [front.1, isBlank]

theorem mem_of_mem_strip {text : Text} {char : Char} (member : char ∈ text.strip) :
    char ∈ text := by
  rw [strip, trim, dropTrailing, List.mem_reverse] at member
  have kept := (List.dropWhile_sublist _).subset member
  exact (List.dropWhile_sublist _).subset (List.mem_reverse.mp kept)

end Text

/-- A digit of base 16. -/
theorem Color.mem_hexText {value : Nat} {char : Char} (member : char ∈ hexText value) :
    ∃ digit, digit < 16 ∧ char = Nat.digitChar digit := by
  rw [hexText] at member
  induction value using Nat.strongRecOn with
  | ind value ih =>
      by_cases small : value < 16
      · rw [Nat.toDigits_of_lt_base small] at member
        exact ⟨value, small, List.mem_singleton.mp member⟩
      · have parts : Nat.toDigits 16 value
            = Nat.toDigits 16 (value / 16) ++ Nat.toDigits 16 (value % 16) := by
          rw [Nat.toDigits_append_toDigits (by decide) (by omega) (by omega), Nat.div_add_mod]
        rw [parts] at member
        rcases List.mem_append.mp member with high | low
        · exact ih (value / 16) (by omega) high
        · exact ih (value % 16) (by omega) low

/-- A written color does not hold the letter s. -/
theorem Color.s_notMem_hex (color : Color) : 's' ∉ color.hex := by
  have digits : ∀ digit, digit < 16 → 's' ≠ Nat.digitChar digit := by decide
  have free : ∀ value, 's' ∉ hexText value := by
    intro value member
    obtain ⟨digit, small, same⟩ := mem_hexText member
    exact digits digit small same
  have byteFree : ∀ value, 's' ∉ hexByte value := by
    intro value
    rw [hexByte]
    split
    · simp [free]
    · simp [free]
  simp [hex, byteFree]

theorem Text.notMem_of_mem_ite {condition : Bool} {char : Char} {word : Text} (free : char ∉ word) :
    ∀ other ∈ (if condition then [word] else []), char ∉ other := by
  cases condition with
  | true => exact List.forall_mem_singleton.mpr free
  | false => exact List.forall_mem_nil _

/-- No description of a style holds the letter s. -/
theorem Style.s_notMem_description (style : Style) : 's' ∉ style.description := by
  have color : 's' ∉ "fg:".toList ++ style.color.hex :=
    List.not_mem_append (by decide) style.color.s_notMem_hex
  rw [description]
  refine Text.notMem_join (by decide) fun word member => ?_
  simp only [List.mem_append] at member
  rcases member with ((bold | underline) | italic) | colored
  · exact Text.notMem_of_mem_ite (by decide) word bold
  · exact Text.notMem_of_mem_ite (by decide) word underline
  · exact Text.notMem_of_mem_ite (by decide) word italic
  · exact Text.notMem_of_mem_ite color word colored

/-! ## Marked fragments -/

/-- A fragment is drawn in the style of the selection. -/
def IsMarked (fragment : Text × Text) : Prop :=
  "class:selected".toList ∈ Text.words fragment.1

instance (fragment : Text × Text) : Decidable (IsMarked fragment) :=
  inferInstanceAs (Decidable ("class:selected".toList ∈ Text.words fragment.1))

/-- Fragments on top of the style of the selection are marked. -/
theorem isMarked_of_mem_styleCandidate {text : Text} {spans : List Span} :
    ∀ fragment ∈ styleCandidate text spans "class:selected".toList, IsMarked fragment := by
  refine List.forall_mem_map.mpr fun run _ => ?_
  have alone : "class:selected".toList ∈ Text.words "class:selected".toList := by decide +kernel
  have noBlank : "class:selected".toList.all (!Text.isBlank ·) = true := by decide +kernel
  have free : ∀ char ∈ "class:selected".toList, Text.isBlank char = false := fun char member =>
    Bool.not_eq_true' _ ▸ List.all_eq_true.mp noBlank char member
  obtain ⟨entry, chunk⟩ := run
  cases entry with
  | none => exact alone
  | some style =>
      rw [describeRun]
      split
      · exact alone
      · have kept : Text.strip ("class:selected".toList ++ ' ' :: style.description)
            = "class:selected".toList
              ++ Text.dropTrailing Text.isBlank (' ' :: style.description) := by
          have firstKept : ¬Text.isBlank 'c' = true := by decide +kernel
          have lastKept : Text.isBlank 'd' = false := by decide +kernel
          have front : "class:selected".toList ++ ' ' :: style.description
              = 'c' :: ("lass:selecte".toList ++ 'd' :: ' ' :: style.description) := rfl
          rw [Text.strip, Text.trim, front, List.dropWhile_cons_of_neg firstKept]
          exact Text.dropTrailing_append lastKept "class:selecte".toList _
        rw [IsMarked, kept]
        exact Text.mem_words_append (by decide) free
          (Text.isBlank_head?_dropTrailing (by decide +kernel) _)

/-- Fragments on top of no style are not marked. -/
theorem not_isMarked_of_mem_styleCandidate {text : Text} {spans : List Span} :
    ∀ fragment ∈ styleCandidate text spans [], ¬IsMarked fragment := by
  refine List.forall_mem_map.mpr fun run _ marked => ?_
  have inside : 's' ∈ (describeRun [] run).1 :=
    (Text.mem_of_mem_piecesFrom marked 's' (by decide)).resolve_left (by simp)
  obtain ⟨entry, chunk⟩ := run
  cases entry with
  | none => cases inside
  | some style =>
      rw [describeRun] at inside
      split at inside
      · cases inside
      · have described := Text.mem_of_mem_strip inside
        simp [style.s_notMem_description] at described

end Winnow
