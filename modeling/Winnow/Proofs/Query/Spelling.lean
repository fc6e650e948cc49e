import Winnow.Proofs.Query.Fuzzy
import Mathlib.Data.List.Forall2

/-!
# Spelling in longer, shorter and merged texts

What a text spells it also spells with more text around it, and it holds the
spelled characters as a sublist (`exists_sublist_of_spelled`). Two texts that
have a character in common can be merged into one that spells both and is
shorter by one character (`merge`): in front of and behind the common character
both texts are woven into each other, line feeds on line feeds, so that no gap
has to skip one.
-/

namespace Winnow

open Regex

variable {rule : CaseRule}

/-! ## Longer texts -/

/-- More text behind what is left changes nothing. -/
theorem Follows.append {chars before after : Text} (follows : Follows rule chars before after)
    (suffix : Text) : Follows rule chars (before ++ suffix) (after ++ suffix) := by
  induction follows with
  | nil left => exact .nil _
  | cons free stands _ ih =>
      rw [List.append_assoc, List.cons_append]
      exact .cons free stands ih

/-- A text spells what a part of it spells. -/
theorem Spelled.extend {chars text : Text} (spelled : Spelled rule chars text)
    (start stop : Text) : Spelled rule chars (start ++ text ++ stop) := by
  cases chars with
  | nil => trivial
  | cons char chars =>
      obtain ⟨before, found, middle, after, rfl, stands, follows⟩ := spelled
      refine ⟨start ++ before, found, middle ++ stop, after ++ stop, ?_, stands,
        follows.append stop⟩
      simp

/-- Characters stand in a text of characters that correspond to them one by one. -/
theorem follows_of_forall₂ {chars text : Text}
    (all : List.Forall₂ rule.Corresponds chars text) : Follows rule chars text [] := by
  induction all with
  | nil => exact .nil []
  | cons stands _ ih =>
      rw [← List.nil_append (_ :: _)]
      exact .cons List.not_mem_nil stands ih

theorem spelled_of_forall₂ {chars text : Text}
    (all : List.Forall₂ rule.Corresponds chars text) : Spelled rule chars text := by
  cases all with
  | nil => trivial
  | cons stands rest => exact ⟨[], _, _, [], rfl, stands, follows_of_forall₂ rest⟩

theorem spelled_self (chars : Text) : Spelled rule chars chars :=
  spelled_of_forall₂ (List.forall₂_same.mpr fun _ _ => CaseRule.corresponds_refl _ _)

/-! ## Sublists -/

/-- The characters that follow are a sublist of what was left. -/
theorem exists_sublist_of_follows {chars before after : Text}
    (follows : Follows rule chars before after) :
    ∃ picked, List.Forall₂ rule.Corresponds chars picked ∧ picked.Sublist before := by
  induction follows with
  | nil left => exact ⟨[], .nil, List.nil_sublist left⟩
  | @cons char found gap chars middle after _ stands _ ih =>
      obtain ⟨picked, all, inside⟩ := ih
      refine ⟨found :: picked, .cons stands all, ?_⟩
      exact (inside.cons_cons found).trans (List.sublist_append_right gap _)

/-- A text that spells characters holds them, up to correspondence, as a sublist. -/
theorem exists_sublist_of_spelled {chars text : Text} (spelled : Spelled rule chars text) :
    ∃ picked, List.Forall₂ rule.Corresponds chars picked ∧ picked.Sublist text := by
  cases chars with
  | nil => exact ⟨[], .nil, List.nil_sublist text⟩
  | cons char chars =>
      obtain ⟨before, found, middle, after, rfl, stands, follows⟩ := spelled
      obtain ⟨picked, all, inside⟩ := exists_sublist_of_follows follows
      refine ⟨found :: picked, .cons stands all, ?_⟩
      exact (inside.cons_cons found).trans (List.sublist_append_right before _)

/-! ## Merging -/

/-- Two texts woven into each other: line feeds of one lie on line feeds of the other. -/
def weave : Text → Text → Text
  | [], right => right
  | first :: left, [] => first :: left
  | first :: left, second :: right =>
    if first = '\n' then
      if second = '\n' then '\n' :: weave left right
      else second :: weave (first :: left) right
    else first :: weave left (second :: right)
  termination_by left right => left.length + right.length

/-- Weaving adds no characters. -/
theorem countP_weave_le (test : Char → Bool) (left right : Text) :
    (weave left right).countP test ≤ left.countP test + right.countP test := by
  induction left, right using weave.induct with
  | case1 right => simp [weave]
  | case2 first left => simp [weave]
  | case3 left right ih =>
      rw [weave, if_pos rfl, if_pos rfl, List.countP_cons, List.countP_cons, List.countP_cons]
      omega
  | case4 left second right other ih =>
      rw [weave, if_pos rfl, if_neg other]
      simp only [List.countP_cons] at ih ⊢
      omega
  | case5 first left second right letter ih =>
      rw [weave, if_neg letter]
      simp only [List.countP_cons] at ih ⊢
      omega

/-- A text in which all characters follow. -/
def HoldsBehind (rule : CaseRule) (chars text : Text) : Prop :=
  ∃ after, Follows rule chars text after

/-- A character that is no line feed can be skipped. -/
theorem HoldsBehind.skip {chars text : Text} {char : Char} (other : char ≠ '\n')
    (holds : HoldsBehind rule chars text) : HoldsBehind rule chars (char :: text) := by
  obtain ⟨after, follows⟩ := holds
  cases follows with
  | nil left => exact ⟨_, .nil _⟩
  | @cons char' found gap chars middle after free stands rest =>
      refine ⟨after, ?_⟩
      rw [← List.cons_append]
      exact .cons (mt List.mem_cons.mp (not_or.mpr ⟨other.symm, free⟩)) stands rest

theorem HoldsBehind.cons {chars text : Text} (char : Char)
    (holds : HoldsBehind rule chars text) : HoldsBehind rule (char :: chars) (char :: text) := by
  obtain ⟨after, follows⟩ := holds
  refine ⟨after, ?_⟩
  rw [← List.nil_append (char :: text)]
  exact .cons List.not_mem_nil (CaseRule.corresponds_refl _ _) follows

/-- Both texts follow in what they are woven into. -/
theorem holdsBehind_weave (rule : CaseRule) (left right : Text) :
    HoldsBehind rule left (weave left right) ∧ HoldsBehind rule right (weave left right) := by
  have self : ∀ text : Text, HoldsBehind rule text text := fun text =>
    ⟨[], follows_of_forall₂ (List.forall₂_same.mpr fun _ _ => CaseRule.corresponds_refl _ _)⟩
  induction left, right using weave.induct with
  | case1 right =>
      rw [weave]
      exact ⟨⟨_, .nil _⟩, self right⟩
  | case2 first left =>
      rw [weave]
      exact ⟨self _, ⟨_, .nil _⟩⟩
  | case3 left right ih =>
      rw [weave, if_pos rfl, if_pos rfl]
      exact ⟨ih.1.cons '\n', ih.2.cons '\n'⟩
  | case4 left second right other ih =>
      rw [weave, if_pos rfl, if_neg other]
      exact ⟨ih.1.skip other, ih.2.cons second⟩
  | case5 first left second right letter ih =>
      rw [weave, if_neg letter]
      exact ⟨ih.1.cons first, ih.2.skip letter⟩

/-- A character with what stands before it, read backwards, and what follows it is spelled. -/
theorem spelled_of_center {behind before chars middle : Text} {char found : Char}
    (backwards : HoldsBehind rule behind before.reverse)
    (stands : rule.Corresponds char found) (forwards : HoldsBehind rule chars middle) :
    Spelled rule (behind.reverse ++ char :: chars) (before ++ found :: middle) := by
  -- Character by character the center moves to the front; what it leaves joins `chars`.
  induction behind generalizing before chars middle char found with
  | nil =>
      obtain ⟨after, follows⟩ := forwards
      exact ⟨before, found, middle, after, rfl, stands, follows⟩
  | cons next behind ih =>
      obtain ⟨left, follows⟩ := backwards
      obtain ⟨after, ahead⟩ := forwards
      generalize reversed : before.reverse = text at follows
      cases follows with
      | @cons _ earlier gap _ rest _ free earlierStands others =>
          have split : before = rest.reverse ++ earlier :: gap.reverse := by
            rw [← List.reverse_reverse before, reversed]
            simp
          have earlierBackwards : HoldsBehind rule behind rest.reverse.reverse :=
            ⟨left, by simpa using others⟩
          have earlierForwards : HoldsBehind rule (char :: chars)
              (gap.reverse ++ found :: middle) :=
            ⟨after, .cons (by simpa using free) stands ahead⟩
          rw [split]
          simpa using ih earlierBackwards earlierStands earlierForwards

theorem spelled_around {start before chars middle : Text} {char found : Char}
    (backwards : HoldsBehind rule start.reverse before.reverse)
    (stands : rule.Corresponds char found) (forwards : HoldsBehind rule chars middle) :
    Spelled rule (start ++ char :: chars) (before ++ found :: middle) := by
  have center := spelled_of_center backwards stands forwards
  rwa [List.reverse_reverse] at center

/-- Two texts merged at a character of each: the one character stands for both. -/
def merge (leftBefore rightBefore : Text) (common : Char) (leftAfter rightAfter : Text) : Text :=
  (weave leftBefore.reverse rightBefore.reverse).reverse ++ common :: weave leftAfter rightAfter

section

variable {left right common : Char} {leftBefore rightBefore leftAfter rightAfter : Text}

/-- A merged text spells both texts. -/
theorem spelled_merge (leftStands : rule.Corresponds left common)
    (rightStands : rule.Corresponds right common) :
    Spelled rule (leftBefore ++ left :: leftAfter)
        (merge leftBefore rightBefore common leftAfter rightAfter) ∧
      Spelled rule (rightBefore ++ right :: rightAfter)
        (merge leftBefore rightBefore common leftAfter rightAfter) := by
  have before := holdsBehind_weave rule leftBefore.reverse rightBefore.reverse
  have after := holdsBehind_weave rule leftAfter rightAfter
  rw [← List.reverse_reverse (weave _ _)] at before
  exact ⟨spelled_around before.1 leftStands after.1, spelled_around before.2 rightStands after.2⟩

/-- Of every kind that both characters are of, a merged text has one character fewer than
both texts together. -/
theorem countP_merge_lt {test : Char → Bool} (leftCounts : test left = true)
    (rightCounts : test right = true) :
    (merge leftBefore rightBefore common leftAfter rightAfter).countP test
      < (leftBefore ++ left :: leftAfter).countP test
        + (rightBefore ++ right :: rightAfter).countP test := by
  have before := countP_weave_le test leftBefore.reverse rightBefore.reverse
  have after := countP_weave_le test leftAfter rightAfter
  rw [List.countP_reverse, List.countP_reverse] at before
  rw [merge, List.countP_append, List.countP_append, List.countP_append, List.countP_reverse,
    List.countP_cons, List.countP_cons_of_pos leftCounts, List.countP_cons_of_pos rightCounts]
  split <;> omega

end

end Winnow
