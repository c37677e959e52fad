import Mathlib.Algebra.Group.Nat.Defs
import Mathlib.Logic.Basic

/-
  This file treats decimal numerals as lists of characters: their values, the numerals without a
  needless zero in front, and the order of numerals of one length.
-/

namespace Decimal

open List

def value (digits : List Char) : Nat := Nat.ofDigitChars 10 digits 0

variable {l m : List Char} {c : Char} {n : Nat}

theorem value_append : value (l ++ m) = value l * 10 ^ m.length + value m := by
  unfold value
  rw [Nat.ofDigitChars_append, Nat.ofDigitChars_eq_ofDigitChars_zero, Nat.mul_comm]

theorem value_cons : value (c :: l) = (c.toNat - '0'.toNat) * 10 ^ l.length + value l := by
  rw [← singleton_append, value_append]
  simp [value, Nat.ofDigitChars_cons, Nat.ofDigitChars_nil]

theorem digit_le (hDigit : c.isDigit = true) : 48 ≤ c.toNat ∧ c.toNat ≤ 57 :=
  Char.isDigit_iff_toNat.mp hDigit

theorem digit_lt (hDigit : c.isDigit = true) : c.toNat - '0'.toNat < 10 :=
  Nat.sub_lt_left_of_lt_add (digit_le hDigit).1 (Nat.lt_succ_of_le (digit_le hDigit).2)

theorem value_lt (hDigits : l.all Char.isDigit = true) : value l < 10 ^ l.length := by
  induction l with
  | nil => decide
  | cons c l ih =>
    simp only [all_cons, Bool.and_eq_true] at hDigits
    have hRest := ih hDigits.2
    have hScaled := Nat.mul_le_mul_right (10 ^ l.length) (Nat.le_of_lt_succ (digit_lt hDigits.1))
    rw [value_cons, length_cons, Nat.pow_succ]
    omega

/- The first digit decides, and then the rest. -/
theorem cons_le_cons {d : Char} (hDigit : c.isDigit = true) (hDigit' : d.isDigit = true)
    (hDigits : l.all Char.isDigit = true) (hDigits' : m.all Char.isDigit = true)
    (hLength : l.length = m.length) :
    value (c :: l) ≤ value (d :: m) ↔ c.toNat < d.toNat ∨ c = d ∧ value l ≤ value m := by
  have hBound := value_lt hDigits
  have hBound' := value_lt hDigits'
  have hSmall := digit_le hDigit
  have hSmall' := digit_le hDigit'
  rw [hLength] at hBound
  rw [value_cons, value_cons, hLength, ← Char.toNat_inj, show '0'.toNat = 48 from rfl]
  generalize 10 ^ m.length = p at *
  rcases Nat.lt_trichotomy c.toNat d.toNat with hLess | hSame | hMore
  · have hScaled := Nat.mul_le_mul_right p (show c.toNat - 48 + 1 ≤ d.toNat - 48 by omega)
    rw [Nat.add_mul] at hScaled
    omega
  · rw [hSame]
    omega
  · have hScaled := Nat.mul_le_mul_right p (show d.toNat - 48 + 1 ≤ c.toNat - 48 by omega)
    rw [Nat.add_mul] at hScaled
    omega

/- A numeral without a needless zero in front. -/
def canonical (l : List Char) : Bool :=
  !(l.isEmpty || (1 < l.length && l.head? == some '0') || !l.all Char.isDigit)

theorem canonical_eq_true : canonical l = true ↔
    l ≠ [] ∧ (1 < l.length → l.head? ≠ some '0') ∧ l.all Char.isDigit = true := by
  simp [canonical, and_assoc, imp_iff_not_or]

theorem value_toDigits : value (Nat.toDigits 10 n) = n := Nat.ofDigitChars_ten_toDigits

theorem all_toDigits : (Nat.toDigits 10 n).all Char.isDigit = true :=
  all_eq_true.mpr (fun _ hMem => Nat.isDigit_of_mem_toDigits (by decide) (by decide) hMem)

theorem head_toDigits (hPos : 0 < n) : (Nat.toDigits 10 n).head? ≠ some '0' := by
  induction n using Nat.strongRecOn with
  | ind n ih =>
    rw [Nat.toDigits_eq_if (by decide)]
    split
    · simp only [head?_cons, ne_eq, Option.some.injEq, Nat.digitChar_eq_zero]
      omega
    · rw [head?_append, Option.or_of_isSome (by simp [Nat.toDigits_ne_nil])]
      exact ih (n / 10) (by omega) (by omega)

theorem canonical_toDigits : canonical (Nat.toDigits 10 n) = true := by
  refine canonical_eq_true.mpr ⟨Nat.toDigits_ne_nil, fun hLong => ?_, all_toDigits⟩
  refine head_toDigits (Nat.pos_of_ne_zero ?_)
  rintro rfl
  exact absurd hLong (by decide)

theorem digitChar_digit (hDigit : c.isDigit = true) : Nat.digitChar (c.toNat - '0'.toNat) = c := by
  rw [← Char.toNat_inj, Nat.toNat_digitChar_of_lt_ten (digit_lt hDigit)]
  exact Nat.add_sub_of_le (digit_le hDigit).1

theorem toDigits_digit (hDigit : c.isDigit = true) :
    Nat.toDigits 10 (c.toNat - '0'.toNat) = [c] := by
  rw [Nat.toDigits_of_lt_base (digit_lt hDigit), digitChar_digit hDigit]

/- Digits that are read after a positive number extend its numeral. -/
theorem toDigits_append (hDigits : l.all Char.isDigit = true) (hPos : 0 < n) :
    Nat.toDigits 10 n ++ l = Nat.toDigits 10 (Nat.ofDigitChars 10 l n) := by
  induction l generalizing n with
  | nil => simp [Nat.ofDigitChars_nil]
  | cons c l ih =>
    simp only [all_cons, Bool.and_eq_true] at hDigits
    have hSmall := digit_lt hDigits.1
    rw [Nat.ofDigitChars_cons, ← ih hDigits.2 (by omega),
      ← Nat.toDigits_append_toDigits (by decide) hPos hSmall, toDigits_digit hDigits.1,
      append_assoc, singleton_append]

/- The canonical numerals are those in which numbers are written. -/
theorem toDigits_value (hCanonical : canonical l = true) : Nat.toDigits 10 (value l) = l := by
  rcases canonical_eq_true.mp hCanonical with ⟨hSome, hHead, hDigits⟩
  cases l with
  | nil => contradiction
  | cons c l =>
    simp only [all_cons, Bool.and_eq_true] at hDigits
    have hDigit := toDigits_digit hDigits.1
    unfold value
    rw [Nat.ofDigitChars_cons, Nat.mul_zero, Nat.zero_add]
    by_cases hZero : c = '0'
    · cases l with
      | nil => exact hDigit
      | cons d l => exact absurd (congrArg some hZero) (hHead (by simp))
    · have hPos : 0 < c.toNat - '0'.toNat := by
        have hBounds := digit_le hDigits.1
        have hOther : c.toNat ≠ 48 := fun hSame => hZero (Char.toNat_inj.mp hSame)
        exact show 0 < c.toNat - 48 by omega
      rw [← toDigits_append hDigits.2 hPos, hDigit, singleton_append]

end Decimal
