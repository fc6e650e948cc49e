import Winnow.Number.Numeral
import Mathlib.Algebra.Group.Nat.Defs

/-!
# What numerals write

A numeral is a minus in front of digits, or it does not begin with a minus and is not
negative (`integer?_cases`). Every digit is below its base, so the number of characters
bounds what they write (`digitsFrom_lt`), also where signs, underscores and digits of
other scripts stand among them.
-/

namespace Winnow

theorem Text.trim_pair (drop : Char → Bool) (first second : Char) :
    Text.trim drop [first, second] = [first, second].filter (!drop ·) := by
  cases here : drop first <;> cases there : drop second <;>
    simp [trim, dropTrailing, here, there]

namespace Numeral

theorem digitValue?_lt {base digit : Nat} {char : Char} (read : digitValue? base char = some digit) :
    digit < base := by
  rw [digitValue?, Option.filter_eq_some_iff] at read
  exact of_decide_eq_true read.2

/-- A numeral is bounded by the number of its characters. -/
theorem digitsFrom_lt {base total value : Nat} (positive : 0 < base) {afterDigit : Bool}
    {text : Text} (read : digitsFrom base total afterDigit text = some value) :
    value < (total + 1) * base ^ text.length := by
  induction text generalizing total afterDigit with
  | nil =>
      rw [digitsFrom] at read
      split at read
      · obtain rfl := Option.some.inj read
        simp
      · cases read
  | cons char rest ih =>
      rw [digitsFrom] at read
      rw [List.length_cons, Nat.pow_succ']
      split at read
      · split at read
        · exact Nat.lt_of_lt_of_le (ih read)
            (Nat.mul_le_mul_left _ (Nat.le_mul_of_pos_left _ positive))
        · cases read
      · split at read
        · next digit found =>
            have room : total * base + digit + 1 ≤ (total + 1) * base := by
              have small := digitValue?_lt found
              rw [Nat.succ_mul]
              omega
            calc value < (total * base + digit + 1) * base ^ rest.length := ih read
              _ ≤ (total + 1) * base * base ^ rest.length := Nat.mul_le_mul_right _ room
              _ = (total + 1) * (base * base ^ rest.length) := Nat.mul_assoc ..
        · cases read

/-- A single character writes its digit. -/
theorem digitsFrom_singleton {base value : Nat} {char : Char}
    (read : digitsFrom base 0 false [char] = some value) : digitValue? base char = some value := by
  rw [digitsFrom] at read
  split at read
  · cases read
  · split at read
    · next digit found =>
        rw [digitsFrom, Nat.zero_mul, Nat.zero_add] at read
        exact found.trans read
    · cases read

/-- A sign is split off, or there is none. -/
theorem sign_cases (text : Text) :
    (∃ digits, text = '-' :: digits ∧ sign text = (true, digits)) ∨
      (text.head? ≠ some '-' ∧
        ∃ digits, digits.length ≤ text.length ∧ sign text = (false, digits)) := by
  rw [sign.eq_def]
  split
  · exact .inl ⟨_, rfl, rfl⟩
  · exact .inr ⟨by simp, _, Nat.le_succ _, rfl⟩
  · next noMinus _ =>
      refine .inr ⟨fun minus => ?_, _, Nat.le_refl _, rfl⟩
      obtain ⟨digits, rfl⟩ := List.head?_eq_some_iff.mp minus
      exact noMinus digits rfl

/-- A numeral is a minus in front of digits, or it does not begin with a minus and is not
negative. -/
theorem integer?_cases {base : Nat} {text : Text} {value : Int} (positive : 0 < base)
    (read : integer? base text = some value) :
    (∃ digits, text.trim isBlank = '-' :: digits ∧
        ∃ magnitude : Nat, digitsFrom base 0 false digits = some magnitude ∧
          value = -(magnitude : Int)) ∨
      ((text.trim isBlank).head? ≠ some '-' ∧
        ∃ magnitude : Nat, magnitude < base ^ (text.trim isBlank).length ∧
          value = (magnitude : Int)) := by
  rw [integer?] at read
  rcases sign_cases (text.trim isBlank) with ⟨digits, shape, split⟩ | ⟨noMinus, digits, size, split⟩
  · rw [split] at read
    obtain ⟨magnitude, written, rfl⟩ := Option.map_eq_some_iff.mp read
    exact .inl ⟨digits, shape, magnitude, written, rfl⟩
  · rw [split] at read
    obtain ⟨magnitude, written, rfl⟩ := Option.map_eq_some_iff.mp read
    have bound := digitsFrom_lt positive written
    rw [Nat.zero_add, Nat.one_mul] at bound
    exact .inr ⟨noMinus, magnitude,
      Nat.lt_of_lt_of_le bound (Nat.pow_le_pow_right positive size), rfl⟩

end Numeral

end Winnow
