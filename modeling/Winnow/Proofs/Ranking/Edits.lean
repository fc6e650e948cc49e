import Winnow.Text.Basic

/-!
# Edits

An edit inserts, deletes or substitutes one character anywhere in a text (`Edited`), and
texts are turned into each other by edits one after the other (`EditedIn`). The order of
the edits does not matter for their number: what can be done with some edits can be done
with no more of them from left to right, each place being looked at once
(`exists_editedIn_iff`).
-/

namespace Winnow.Ranking

/-- One edit turns a text into another one. -/
inductive Edited : Text → Text → Prop
  | insert (before after : Text) (char : Char) :
      Edited (before ++ after) (before ++ char :: after)
  | delete (before after : Text) (char : Char) :
      Edited (before ++ char :: after) (before ++ after)
  | substitute (before after : Text) (old new : Char) :
      Edited (before ++ old :: after) (before ++ new :: after)

/-- A text is turned into another one by a number of edits, one after the other. -/
inductive EditedIn : Nat → Text → Text → Prop
  | none (text : Text) : EditedIn 0 text text
  | further {count : Nat} {first next last : Text} (edit : Edited first next)
      (edits : EditedIn count next last) : EditedIn (count + 1) first last

/-! ## Edits one after the other -/

theorem Edited.symm {first second : Text} (edit : Edited first second) : Edited second first := by
  cases edit with
  | insert before after char => exact .delete before after char
  | delete before after char => exact .insert before after char
  | substitute before after old new => exact .substitute before after new old

theorem Edited.cons {first second : Text} (edit : Edited first second) (char : Char) :
    Edited (char :: first) (char :: second) := by
  cases edit with
  | insert before after inserted => exact .insert (char :: before) after inserted
  | delete before after deleted => exact .delete (char :: before) after deleted
  | substitute before after old new => exact .substitute (char :: before) after old new

theorem Edited.length_le {first second : Text} (edit : Edited first second) :
    first.length ≤ second.length + 1 := by
  cases edit <;> simp <;> omega

theorem editedIn_zero_iff {first second : Text} : EditedIn 0 first second ↔ first = second := by
  constructor
  · rintro ⟨⟩
    rfl
  · rintro rfl
    exact .none first

namespace EditedIn

variable {count others : Nat} {first second third : Text}

/-- Edits can be followed by others. -/
theorem trans (edits : EditedIn count first second) (further : EditedIn others second third) :
    EditedIn (count + others) first third := by
  induction edits with
  | none => rwa [Nat.zero_add]
  | further edit _ ih =>
      rw [Nat.add_right_comm]
      exact .further edit (ih further)

theorem symm (edits : EditedIn count first second) : EditedIn count second first := by
  induction edits with
  | none text => exact .none text
  | further edit _ ih => exact ih.trans (.further edit.symm (.none _))

theorem cons (edits : EditedIn count first second) (char : Char) :
    EditedIn count (char :: first) (char :: second) := by
  induction edits with
  | none text => exact .none (char :: text)
  | further edit _ ih => exact .further (edit.cons char) ih

/-- Every edit shortens a text by one character at most. -/
theorem length_le (edits : EditedIn count first second) :
    first.length ≤ second.length + count := by
  induction edits with
  | none => exact Nat.le_refl _
  | further edit _ ih =>
      have here := edit.length_le
      omega

end EditedIn

/-! ## Edits from left to right -/

/-- A text is turned into another one from left to right with no more than a number of edits: each
character is kept, deleted or substituted, and others are inserted between them. -/
inductive EditedAlong : Nat → Text → Text → Prop
  | nil (bound : Nat) : EditedAlong bound [] []
  | keep {bound : Nat} {first second : Text} (char : Char)
      (along : EditedAlong bound first second) :
      EditedAlong bound (char :: first) (char :: second)
  | insert {bound : Nat} {first second : Text} (char : Char)
      (along : EditedAlong bound first second) : EditedAlong (bound + 1) first (char :: second)
  | delete {bound : Nat} {first second : Text} (char : Char)
      (along : EditedAlong bound first second) : EditedAlong (bound + 1) (char :: first) second
  | substitute {bound : Nat} {first second : Text} (old new : Char)
      (along : EditedAlong bound first second) :
      EditedAlong (bound + 1) (old :: first) (new :: second)

namespace EditedAlong

variable {bound more : Nat} {first next second third : Text}

/-- Fewer edits are no more than a greater number. -/
theorem mono (along : EditedAlong bound first second) (le : bound ≤ more) :
    EditedAlong more first second := by
  induction along generalizing more with
  | nil => exact .nil more
  | keep char _ ih => exact .keep char (ih le)
  | insert char _ ih =>
      match more, le with
      | _ + 1, le => exact .insert char (ih (Nat.le_of_succ_le_succ le))
  | delete char _ ih =>
      match more, le with
      | _ + 1, le => exact .delete char (ih (Nat.le_of_succ_le_succ le))
  | substitute old new _ ih =>
      match more, le with
      | _ + 1, le => exact .substitute old new (ih (Nat.le_of_succ_le_succ le))

theorem refl (text : Text) : EditedAlong bound text text := by
  induction text with
  | nil => exact .nil bound
  | cons char text ih => exact .keep char ih

/-- Edits from left to right are edits one after the other. -/
theorem exists_editedIn (along : EditedAlong bound first second) :
    ∃ count ≤ bound, EditedIn count first second := by
  induction along with
  | nil => exact ⟨0, Nat.zero_le _, .none []⟩
  | keep char _ ih =>
      obtain ⟨count, le, edits⟩ := ih
      exact ⟨count, le, edits.cons char⟩
  | @insert _ first _ char _ ih =>
      obtain ⟨count, le, edits⟩ := ih
      exact ⟨count + 1, Nat.succ_le_succ le, .further (.insert [] first char) (edits.cons char)⟩
  | @delete _ first _ char _ ih =>
      obtain ⟨count, le, edits⟩ := ih
      exact ⟨count + 1, Nat.succ_le_succ le, .further (.delete [] first char) edits⟩
  | @substitute _ first _ old new _ ih =>
      obtain ⟨count, le, edits⟩ := ih
      exact ⟨count + 1, Nat.succ_le_succ le,
        .further (.substitute [] first old new) (edits.cons new)⟩

/-! ### One more edit in front -/

/-- Induction on the edits along a text that begins with a character: others are inserted before it,
and then it is kept, deleted or substituted. -/
@[elab_as_elim]
theorem frontInduction {char : Char}
    {motive : ∀ bound third, EditedAlong bound (char :: next) third → Prop}
    (keep : ∀ {bound third} (along : EditedAlong bound next third),
      motive bound (char :: third) (.keep char along))
    (insert : ∀ {bound third} (other : Char) (along : EditedAlong bound (char :: next) third),
      motive bound third along → motive (bound + 1) (other :: third) (.insert other along))
    (delete : ∀ {bound third} (along : EditedAlong bound next third),
      motive (bound + 1) third (.delete char along))
    (substitute : ∀ {bound third} (new : Char) (along : EditedAlong bound next third),
      motive (bound + 1) (new :: third) (.substitute char new along)) :
    ∀ {bound third} (along : EditedAlong bound (char :: next) third), motive bound third along
  | _, _, .keep _ along => keep along
  | _, _, .insert other along =>
      insert other along (frontInduction keep insert delete substitute along)
  | _, _, .delete _ along => delete along
  | _, _, .substitute _ new along => substitute new along

/-- A character that was inserted at the front costs one more edit. -/
theorem of_cons {char : Char} (along : EditedAlong bound (char :: next) third) :
    EditedAlong (bound + 1) next third := by
  induction along using frontInduction with
  | keep along => exact .insert char along
  | insert other _ ih => exact .insert other ih
  | delete along => exact along.mono (by omega)
  | substitute new along => exact .insert new (along.mono (by omega))

/-- A character that was substituted at the front costs one more edit. -/
theorem of_cons_other {new : Char} (along : EditedAlong bound (new :: next) third) (old : Char) :
    EditedAlong (bound + 1) (old :: next) third := by
  induction along using frontInduction with
  | keep along => exact .substitute old new along
  | insert other _ ih => exact .insert other ih
  | delete along => exact .delete old (along.mono (by omega))
  | substitute other along => exact .substitute old other (along.mono (by omega))

/-- What costs one more edit at the front of a text costs one more edit behind a character. -/
theorem of_cons_same
    (costs : ∀ {bound third}, EditedAlong bound next third → EditedAlong (bound + 1) first third)
    {char : Char} (along : EditedAlong bound (char :: next) third) :
    EditedAlong (bound + 1) (char :: first) third := by
  induction along using frontInduction with
  | keep along => exact .keep char (costs along)
  | insert other _ ih => exact .insert other ih
  | delete along => exact .delete char (costs along)
  | substitute new along => exact .substitute char new (costs along)

/-- What costs one more edit at the front of a text costs one more edit behind a text. -/
theorem of_append_same
    (costs : ∀ {bound third}, EditedAlong bound next third → EditedAlong (bound + 1) first third)
    (before : Text) (along : EditedAlong bound (before ++ next) third) :
    EditedAlong (bound + 1) (before ++ first) third := by
  induction before generalizing bound third with
  | nil => exact costs along
  | cons char before ih => exact of_cons_same ih along

end EditedAlong

/-- One edit before others is one edit more from left to right. -/
theorem Edited.along {bound : Nat} {first next third : Text} (edit : Edited first next)
    (along : EditedAlong bound next third) : EditedAlong (bound + 1) first third := by
  cases edit with
  | insert before after char => exact .of_append_same .of_cons before along
  | delete before after char => exact .of_append_same (.delete char) before along
  | substitute before after old new =>
      exact .of_append_same (fun behind => behind.of_cons_other old) before along

theorem EditedIn.along {count : Nat} {first second : Text} (edits : EditedIn count first second) :
    EditedAlong count first second := by
  induction edits with
  | none text => exact .refl text
  | further edit _ ih => exact edit.along ih

/-- So many edits are enough exactly if they are enough from left to right. -/
theorem exists_editedIn_iff {bound : Nat} {first second : Text} :
    (∃ count ≤ bound, EditedIn count first second) ↔ EditedAlong bound first second := by
  constructor
  · rintro ⟨count, le, edits⟩
    exact edits.along.mono le
  · exact EditedAlong.exists_editedIn

end Winnow.Ranking
