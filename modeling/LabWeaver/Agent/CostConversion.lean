import LabWeaver.Agent.ClaudeCode
import Mathlib.Data.Rat.Floor

/-
  This file relates the reported cost, a decimal literal in US dollars, to the micro-dollars in
  which a budget is counted.
-/

namespace LabWeaver.Cost

open List

def microusdToUsd (value : Nat) : String :=
  String.ofList (Nat.toDigits 10 (value / 1000000) ++
    '.' :: leftpad 6 '0' (Nat.toDigits 10 (value % 1000000)))

-- Decimal Literals

/- Digits with an optional fraction, and the number they stand for. -/
inductive Mantissa : List Char → ℚ → Prop where
| whole {w : List Char} (hWhole : w.all Char.isDigit = true) : Mantissa w (Decimal.value w)
| point {w f : List Char} (hWhole : w.all Char.isDigit = true)
    (hFraction : f.all Char.isDigit = true) :
    Mantissa (w ++ '.' :: f) (Decimal.value w + Decimal.value f / 10 ^ f.length)

/- Digits with an optional sign. -/
inductive Exponent : List Char → Int → Prop where
| unsigned {e : List Char} (hDigits : e.all Char.isDigit = true) : Exponent e (Decimal.value e)
| plus {e : List Char} (hDigits : e.all Char.isDigit = true) : Exponent ('+' :: e) (Decimal.value e)
| minus {e : List Char} (hDigits : e.all Char.isDigit = true) :
  Exponent ('-' :: e) (-Decimal.value e)

inductive Literal : List Char → ℚ → Prop where
| plain {m : List Char} {v : ℚ} (hMantissa : Mantissa m v) : Literal m v
| scaled {m e : List Char} {c : Char} {v : ℚ} {k : Int} (hMantissa : Mantissa m v)
    (hLetter : c = 'e' ∨ c = 'E') (hExponent : Exponent e k) : Literal (m ++ c :: e) (v * 10 ^ k)

-- Rounding

variable {w f m e : List Char} {c : Char} {v : ℚ} {k : Int} {d n : Nat}

theorem boundedBy_eq_some {limit r : Nat} : boundedBy limit n = some r ↔ n ≤ limit ∧ r = n := by
  simp [boundedBy, eq_comm]

theorem boundedI32_eq_some {j : Int} (hSome : boundedI32 k = some j) : j = k := by
  unfold boundedI32 at hSome
  exact (Option.some.inj (Option.ite_none_right_eq_some.mp hSome).2).symm

theorem ceil_div (hPos : 0 < n) :
    ⌈(d / n : ℚ)⌉ = ((d / n + if d % n = 0 then 0 else 1 : Nat) : ℤ) := by
  have hParts := Nat.div_add_mod d n
  have hRest := Nat.mod_lt d hPos
  have hUpper : d ≤ (d / n + if d % n = 0 then 0 else 1) * n := by
    split <;> grind
  have hLower : (d / n + if d % n = 0 then 0 else 1) * n < d + n := by
    split <;> grind
  rw [Int.ceil_eq_iff, div_le_iff₀ (Nat.cast_pos.mpr hPos), lt_div_iff₀ (Nat.cast_pos.mpr hPos),
    sub_mul, one_mul, sub_lt_iff_lt_add]
  constructor
  · exact_mod_cast hLower
  · exact_mod_cast hUpper

theorem ceil_scaled (hScaled : (if 0 ≤ k then d * 10 ^ k.toNat else
      d / 10 ^ (-k).toNat + if d % 10 ^ (-k).toNat = 0 then 0 else 1) = n) :
    ⌈(d * 10 ^ k : ℚ)⌉ = n := by
  subst hScaled
  split
  · rename_i hSign
    lift k to Nat using hSign
    rw [zpow_natCast, Int.toNat_natCast]
    exact_mod_cast Int.ceil_natCast (d * 10 ^ k)
  · rename_i hSign
    have hPower : (d * 10 ^ k : ℚ) = d / (10 ^ (-k).toNat : Nat) := by
      have hNegative : k = -(-k).toNat := by
        omega
      rw [hNegative, zpow_neg, zpow_natCast, div_eq_mul_inv, neg_neg, Int.toNat_natCast]
      push_cast
      rfl
    rw [hPower, ceil_div (Nat.pow_pos (by decide))]

section

variable {p : Char → Bool} (hNone : ∀ x ∈ m, p x = false)

include hNone

theorem splitOnce_append (hFound : p c = true) : splitOnce p (m ++ c :: e) = some (m, e) := by
  induction m with
  | nil => simp [splitOnce, hFound]
  | cons x m ih =>
    rw [forall_mem_cons] at hNone
    simp [splitOnce, hNone.1, ih hNone.2]

theorem splitOnce_eq_none : splitOnce p m = none := by
  induction m with
  | nil => rfl
  | cons x m ih =>
    rw [forall_mem_cons] at hNone
    simp [splitOnce, hNone.1, ih hNone.2]

end

theorem isDigit_ne (hDigit : c.isDigit = true) :
    c ≠ '.' ∧ c ≠ 'e' ∧ c ≠ 'E' ∧ c ≠ '-' ∧ c ≠ '+' := by
  refine ⟨?_, ?_, ?_, ?_, ?_⟩ <;>
    · rintro rfl
      cases hDigit

theorem digits_no_point (hDigits : w.all Char.isDigit = true) : ∀ x ∈ w, (x == '.') = false :=
  fun x hMem => beq_false_of_ne (isDigit_ne (all_eq_true.mp hDigits x hMem)).1

theorem digits_no_exponent (hDigits : w.all Char.isDigit = true) :
    ∀ x ∈ w, (x == 'e' || x == 'E') = false := by
  intro x hMem
  have hOther := isDigit_ne (all_eq_true.mp hDigits x hMem)
  simp [hOther]

theorem Mantissa.no_exponent (hMantissa : Mantissa m v) :
    ∀ x ∈ m, (x == 'e' || x == 'E') = false := by
  cases hMantissa with
  | whole hWhole => exact digits_no_exponent hWhole
  | point hWhole hFraction =>
    rw [forall_mem_append, forall_mem_cons]
    exact ⟨digits_no_exponent hWhole, rfl, digits_no_exponent hFraction⟩

/- A mantissa is its digits without the point, divided by a power of ten. -/
theorem Mantissa.split (hMantissa : Mantissa m v) : ∃ w f,
    (splitOnce (· == '.') m).getD (m, []) = (w, f) ∧
      v = Decimal.value (w ++ f) / 10 ^ f.length := by
  cases hMantissa with
  | whole hWhole =>
    refine ⟨m, [], ?_, by simp⟩
    rw [splitOnce_eq_none (digits_no_point hWhole), Option.getD_none]
  | @point w f hWhole hFraction =>
    refine ⟨w, f, ?_, ?_⟩
    · rw [splitOnce_append (digits_no_point hWhole) rfl, Option.getD_some]
    · have hPower : (10 ^ f.length : ℚ) ≠ 0 := by positivity
      rw [Decimal.value_append]
      push_cast
      field_simp

theorem Mantissa.ceil (hMantissa : Mantissa m v) (hSome : mantissaToMicrousd m k = some n) :
    ⌈v * 10 ^ k * 1000000⌉ = n := by
  rcases hMantissa.split with ⟨w, f, hSplit, hValue⟩
  unfold mantissaToMicrousd at hSome
  rw [hSplit] at hSome
  simp only [Option.bind_eq_bind, Option.bind_none, Option.ite_none_left_eq_some,
    Option.bind_eq_some_iff, boundedBy_eq_some] at hSome
  rcases hSome with ⟨-, _, ⟨-, rfl⟩, length, hLength, shifted, hShifted, power, hPower, hSome⟩
  have hCeil : ⌈(Decimal.value (w ++ f) * 10 ^ power : ℚ)⌉ = n := by
    refine ceil_scaled ?_
    split at hSome <;> simp only [Option.bind_eq_some_iff, boundedBy_eq_some] at hSome
    · rename_i hSign
      rcases hSome with ⟨_, ⟨-, rfl⟩, _, ⟨-, rfl⟩, -, rfl⟩
      rw [if_pos hSign]
    · rename_i hSign
      rcases hSome with ⟨_, ⟨-, rfl⟩, _, ⟨-, rfl⟩, -, rfl⟩
      rw [if_neg hSign]
  have hScaled : v * 10 ^ k * 1000000 = Decimal.value (w ++ f) * 10 ^ power := by
    rw [hValue, boundedI32_eq_some hPower, boundedI32_eq_some hShifted, boundedI32_eq_some hLength,
      zpow_sub₀ (by decide), zpow_add₀ (by decide), zpow_natCast]
    ring
  rw [hScaled, hCeil]

theorem Exponent.parse {j : Int} (hExponent : Exponent e k) (hSome : parseI32 e = some j) :
    j = k := by
  unfold parseI32 at hSome
  cases hExponent with
  | unsigned hDigits =>
    cases e with
    | nil => cases hSome
    | cons c e =>
      have hOther := isDigit_ne (all_eq_true.mp hDigits c mem_cons_self)
      rw [Option.ite_none_left_eq_some] at hSome
      have hRead := boundedI32_eq_some hSome.2
      split at hRead
      · simp_all
      · simp_all
      · simpa using hRead
  | plus hDigits =>
    rw [Option.ite_none_left_eq_some] at hSome
    simpa using boundedI32_eq_some hSome.2
  | minus hDigits =>
    rw [Option.ite_none_left_eq_some] at hSome
    simpa using boundedI32_eq_some hSome.2

theorem Literal.ceil {text : List Char} (hLiteral : Literal text v)
    (hSome : decimalToMicrousd (String.ofList text) = some n) : ⌈v * 1000000⌉ = n := by
  unfold decimalToMicrousd at hSome
  rw [Option.ite_none_left_eq_some, String.toList_ofList] at hSome
  replace hSome := hSome.2
  cases hLiteral with
  | plain hMantissa =>
    rw [splitOnce_eq_none hMantissa.no_exponent] at hSome
    simpa using hMantissa.ceil hSome
  | scaled hMantissa hLetter hExponent =>
    rw [splitOnce_append hMantissa.no_exponent (by simpa using hLetter)] at hSome
    rcases Option.bind_eq_some_iff.mp hSome with ⟨j, hParse, hSome⟩
    cases hExponent.parse hParse
    exact hMantissa.ceil hSome

theorem decimalToMicrousd_microusdToUsd (hBound : n ≤ maxU64) :
    decimalToMicrousd (microusdToUsd n) = some n := by
  have hWhole := Decimal.all_toDigits (n := n / 1000000)
  have hFraction : (leftpad 6 '0' (Nat.toDigits 10 (n % 1000000))).all Char.isDigit = true := by
    simp [leftpad, Decimal.all_toDigits]
  have hLength : (leftpad 6 '0' (Nat.toDigits 10 (n % 1000000))).length = 6 := by
    have hShort := (Nat.length_toDigits_le_iff (b := 10) (n := n % 1000000) (k := 6) (by decide)
      (by decide)).mpr (Nat.mod_lt n (by decide))
    rw [length_leftpad, Nat.max_eq_left hShort]
  have hValue : Decimal.value (leftpad 6 '0' (Nat.toDigits 10 (n % 1000000))) = n % 1000000 := by
    rw [leftpad, Decimal.value_append, Decimal.value_toDigits, Decimal.value,
      Nat.ofDigitChars_replicate_zero]
    simp
  have hTotal : Decimal.value (Nat.toDigits 10 (n / 1000000) ++
      leftpad 6 '0' (Nat.toDigits 10 (n % 1000000))) = n := by
    rw [Decimal.value_append, hValue, hLength, Decimal.value_toDigits]
    omega
  have hSome := Nat.toDigits_ne_nil (n := n / 1000000) (b := 10)
  have hMantissa := Mantissa.point hWhole hFraction
  rw [decimalToMicrousd, microusdToUsd, String.toList_ofList,
    splitOnce_eq_none hMantissa.no_exponent]
  generalize Nat.toDigits 10 (n / 1000000) = w at *
  generalize leftpad 6 '0' (Nat.toDigits 10 (n % 1000000)) = f at *
  have hHead : (w ++ '.' :: f).head? ≠ some '-' := by
    cases w with
    | nil => contradiction
    | cons c w =>
      have hOther := isDigit_ne (all_eq_true.mp hWhole c mem_cons_self)
      simp [hOther]
  have hWide : n ≤ maxU128 := Nat.le_trans hBound (by decide)
  rw [if_neg hHead]
  unfold mantissaToMicrousd
  rw [splitOnce_append (digits_no_point hWhole) rfl]
  have hOne : 1 ≤ maxU128 := by
    decide
  simp [hSome, hWhole, hFraction, hTotal, hLength, boundedI32, boundedBy, hWide, hBound, hOne]

/- The conversion rounds up, and gives back every amount that it printed. -/
theorem cost_conversion : (∀ (value : String) (v : ℚ) (n : Nat), Literal value.toList v →
      decimalToMicrousd value = some n → ⌈v * 1000000⌉ = n) ∧
    ∀ v ≤ maxU64, decimalToMicrousd (microusdToUsd v) = some v := by
  refine ⟨fun value v n hLiteral hSome => hLiteral.ceil ?_, fun v hBound => ?_⟩
  · rwa [String.ofList_toList]
  · exact decimalToMicrousd_microusdToUsd hBound

theorem cost_conversion_rounded : decimalToMicrousd "1.5e-6" = some 2 ∧
    ⌈((1 + 5 / 10 ^ 1) * 10 ^ (-6 : Int) * 1000000 : ℚ)⌉ = 2 := by
  have hText : decimalToMicrousd "1.5e-6" = some 2 := by
    decide +kernel
  have hMantissa : Mantissa "1.5".toList (1 + 5 / 10 ^ 1) :=
    .point (w := ['1']) (f := ['5']) rfl rfl
  refine ⟨hText, cost_conversion.1 "1.5e-6" _ 2 ?_ hText⟩
  exact .scaled (e := ['-', '6']) (k := -6) hMantissa (.inl rfl) (.minus (e := ['6']) rfl)

end LabWeaver.Cost
