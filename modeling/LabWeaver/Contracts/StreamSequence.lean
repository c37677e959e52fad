import LabWeaver.Base.Decimal
import LabWeaver.Contracts.Foundation

/-
  This file models the cursor of a public event stream: the text it is parsed from, and the
  pattern that is published for it.
-/

namespace LabWeaver

open List

inductive FoundationError where
| invalidStreamSequence

/- A position in a public event stream. -/
structure StreamSequence where
  get : Nat
  bounded : get ≤ maxU64

namespace StreamSequence

def display (sequence : StreamSequence) : String := sequence.get.repr

def fromStr (value : String) : Except FoundationError StreamSequence :=
  if value.toList.isEmpty || (1 < value.length && value.toList.head? == some '0') ||
      !value.toList.all Char.isDigit then .error .invalidStreamSequence
  else if hBound : Decimal.value value.toList ≤ maxU64 then .ok ⟨_, hBound⟩
  else .error .invalidStreamSequence

-- The Published Pattern

/- An alternative `stem[low-high][0-9]\x7bleast,most\x7d` of the pattern. A single digit is a
  range. -/
structure Alternative where
  stem : String
  (low high : Char)
  (least most : Nat)
deriving DecidableEq

/- `STREAM_SEQUENCE_PATTERN`. -/
def pattern : List Alternative :=
  [⟨"", '0', '0', 0, 0⟩, ⟨"", '1', '9', 0, 18⟩, ⟨"1", '0', '7', 18, 18⟩, ⟨"18", '0', '3', 17, 17⟩,
    ⟨"184", '0', '3', 16, 16⟩, ⟨"1844", '0', '5', 15, 15⟩, ⟨"18446", '0', '6', 14, 14⟩,
    ⟨"184467", '0', '3', 13, 13⟩, ⟨"1844674", '0', '3', 12, 12⟩, ⟨"184467440", '0', '6', 10, 10⟩,
    ⟨"1844674407", '0', '2', 9, 9⟩, ⟨"18446744073", '0', '6', 8, 8⟩,
    ⟨"1844674407370", '0', '8', 6, 6⟩, ⟨"18446744073709", '0', '4', 5, 5⟩,
    ⟨"184467440737095", '0', '4', 4, 4⟩, ⟨"1844674407370955", '0', '0', 3, 3⟩,
    ⟨"18446744073709551", '0', '5', 2, 2⟩, ⟨"184467440737095516", '0', '0', 1, 1⟩,
    ⟨"1844674407370955161", '0', '5', 0, 0⟩]

namespace Alternative

def accepts (shape : Alternative) (text : List Char) : Bool :=
  shape.stem.toList.isPrefixOf text &&
    match text.drop shape.stem.length with
    | [] => false
    | c :: rest => shape.low ≤ c && c ≤ shape.high && rest.all Char.isDigit &&
        shape.least ≤ rest.length && rest.length ≤ shape.most

/- The alternative after one more digit. -/
def push (d : Char) (shape : Alternative) : Alternative :=
  { shape with stem := String.ofList (d :: shape.stem.toList) }

end Alternative

/- The numerals of the same length up to a given one: a smaller digit in one of its places, and any
  digits after it. -/
def upTo : List Char → List Alternative
| [] => []
| [d] => [⟨"", '0', d, 0, 0⟩]
| d :: rest =>
  (if d = '0' then [] else [⟨"", '0', Nat.digitChar (d.toNat - 49), rest.length, rest.length⟩]) ++
    (upTo rest).map (.push d)

/- The pattern spells out the digits of the largest value, the first of which is one. -/
theorem pattern_eq : pattern = ⟨"", '0', '0', 0, 0⟩ :: ⟨"", '1', '9', 0, 18⟩ ::
    (upTo "8446744073709551615".toList).map (.push '1') := by
  decide +kernel

variable {l text : List Char} {c d : Char}

theorem accepts_push {shape : Alternative} :
    (shape.push d).accepts (c :: text) = (d == c && shape.accepts text) := by
  simp [Alternative.accepts, Alternative.push, isPrefixOf, Nat.add_comm 1, Bool.and_assoc]

theorem any_push {shapes : List Alternative} :
    (shapes.map (Alternative.push d)).any (·.accepts (c :: text)) = true ↔
      c = d ∧ shapes.any (·.accepts text) = true := by
  simp only [any_map, Function.comp_def, accepts_push]
  by_cases hSame : c = d
  · simp [hSame]
  · simp [hSame, Ne.symm hSame]

theorem accepts_first {low high : Char} {least most : Nat} :
    (Alternative.mk "" low high least most).accepts (c :: text) = true ↔ (low ≤ c ∧ c ≤ high) ∧
      text.all Char.isDigit = true ∧ least ≤ text.length ∧ text.length ≤ most := by
  simp [Alternative.accepts, and_assoc]

theorem upTo_iff (hSome : l ≠ []) (hDigits : l.all Char.isDigit = true) :
    (upTo l).any (·.accepts text) = true ↔ text.all Char.isDigit = true ∧
      text.length = l.length ∧ Decimal.value text ≤ Decimal.value l := by
  induction l generalizing text with
  | nil => contradiction
  | cons d l ih =>
    cases text with
    | nil => simp [Alternative.accepts]
    | cons c text =>
      rw [all_cons, Bool.and_eq_true] at hDigits ⊢
      have hBounds := Decimal.digit_le hDigits.1
      have hLe (a b : Char) : a ≤ b ↔ a.toNat ≤ b.toNat := Iff.rfl
      have hLow : '0'.toNat = 48 := rfl
      rw [length_cons, length_cons, Nat.add_right_cancel_iff]
      refine Iff.trans ?_ (and_congr_right fun hDigit => and_congr_right fun hLength =>
        (Decimal.cons_le_cons hDigit.1 hDigits.1 hDigit.2 hDigits.2 hLength).symm)
      rw [Char.isDigit_iff_toNat, hLow, show '9'.toNat = 57 from rfl]
      cases l with
      | nil =>
        rw [upTo, any_cons, any_nil, Bool.or_false, accepts_first, hLe, hLe, hLow, Nat.le_zero,
          length_nil, length_eq_zero_iff]
        grind
      | cons e l =>
        rw [upTo, any_append, Bool.or_eq_true, any_push, ih (by simp) hDigits.2]
        · by_cases hZero : d = '0'
          · rw [if_pos hZero, any_nil, hZero, hLow]
            grind
          · have hPred : (Nat.digitChar (d.toNat - 49)).toNat = 48 + (d.toNat - 49) :=
              Nat.toNat_digitChar_of_lt_ten (by omega)
            have hOther : d.toNat ≠ 48 := fun hSame => hZero (Char.toNat_inj.mp hSame)
            rw [if_neg hZero, any_cons, any_nil, Bool.or_false, accepts_first, hLe, hLe, hLow,
              hPred]
            grind
        · simp

/- The pattern matches the numerals of the `u64` values. -/
theorem pattern_iff : pattern.any (·.accepts text) = true ↔
    Decimal.canonical text = true ∧ Decimal.value text ≤ maxU64 := by
  rw [pattern_eq, any_cons, any_cons, Bool.or_eq_true, Bool.or_eq_true, Decimal.canonical_eq_true]
  cases text with
  | nil => simp [Alternative.accepts]
  | cons c text =>
    have hLe (a b : Char) : a ≤ b ↔ a.toNat ≤ b.toNat := Iff.rfl
    have hCodes : '0'.toNat = 48 ∧ '1'.toNat = 49 ∧ '9'.toNat = 57 := by
      decide
    have hTail : Decimal.value "8446744073709551615".toList = 8446744073709551615 := by
      decide
    have hMax : maxU64 = 18446744073709551615 := rfl
    have hValue := Decimal.value_lt (l := text)
    rw [accepts_first, accepts_first, any_push, upTo_iff (by decide) (by decide), hTail]
    simp only [hLe, ← Char.toNat_inj, all_cons, Bool.and_eq_true, Char.isDigit_iff_toNat,
      Decimal.value_cons, length_cons, head?_cons, ne_eq, Option.some.injEq, hCodes]
    constructor
    · rintro (⟨hZero, hText, -, hLength⟩ | ⟨hDigit, hText, -, hLength⟩ |
        ⟨hOne, hText, hLength, hLe⟩)
      · rw [Nat.le_zero, length_eq_zero_iff] at hLength
        subst hLength
        exact ⟨⟨by simp, by simp, by omega, rfl⟩, by simp [Decimal.value]; omega⟩
      · have hShort := Nat.pow_le_pow_right (show 0 < 10 by decide) hLength
        have hScaled := Nat.mul_le_mul_right (10 ^ text.length) (show c.toNat - 48 ≤ 9 by omega)
        have hValue := hValue hText
        exact ⟨⟨by simp, by omega, by omega, hText⟩, by omega⟩
      · have hLength : text.length = 19 := hLength
        rw [hOne, hLength]
        exact ⟨⟨by simp, by omega, by omega, hText⟩, by omega⟩
    · rintro ⟨⟨-, hHead, hDigit, hText⟩, hBound⟩
      by_cases hZero : c.toNat = 48
      · exact .inl ⟨by omega, hText, by omega, by omega⟩
      · by_cases hShort : text.length ≤ 18
        · exact .inr (.inl ⟨by omega, hText, by omega, hShort⟩)
        · have hScaled := Nat.mul_le_mul_right (10 ^ text.length) (show 1 ≤ c.toNat - 48 by omega)
          have hLength : text.length = 19 := by
            have hLess : 10 ^ text.length < 10 ^ 20 := by
              omega
            have hTwenty := (Nat.pow_lt_pow_iff_right (by decide)).mp hLess
            omega
          rw [hLength] at hBound
          exact .inr (.inr ⟨by omega, hText, hLength, by omega⟩)

variable {value : String}

theorem pattern_repr :
    pattern.any (·.accepts value.toList) = true ↔ ∃ n ≤ maxU64, value = n.repr := by
  rw [pattern_iff]
  constructor
  · rintro ⟨hCanonical, hBound⟩
    refine ⟨_, hBound, ?_⟩
    rw [← String.toList_inj, Nat.toList_repr, Decimal.toDigits_value hCanonical]
  · rintro ⟨n, hBound, rfl⟩
    rw [Nat.toList_repr, Decimal.value_toDigits]
    exact ⟨Decimal.canonical_toDigits, hBound⟩

theorem fromStr_eq_ok {sequence : StreamSequence} :
    fromStr value = .ok sequence ↔ sequence.display = value := by
  have hFrom : fromStr value = .ok sequence ↔
      Decimal.canonical value.toList = true ∧ Decimal.value value.toList = sequence.get := by
    rcases sequence with ⟨n, hBound⟩
    unfold fromStr Decimal.canonical
    rw [String.length_toList]
    split
    · rename_i hRefused
      simp [hRefused]
    · rename_i hRead
      split
      · simp [hRead]
      · simp [hRead]
        omega
  rw [hFrom, display, ← String.toList_inj, Nat.toList_repr]
  constructor
  · rintro ⟨hCanonical, hValue⟩
    rw [← hValue, Decimal.toDigits_value hCanonical]
  · intro hText
    rw [← hText]
    exact ⟨Decimal.canonical_toDigits, Decimal.value_toDigits⟩

/- Parsing accepts what the published pattern matches, and is the inverse of printing. -/
theorem fromStr_iff_pattern (value : String) :
    ((∃ sequence, fromStr value = .ok sequence) ↔ pattern.any (·.accepts value.toList) = true) ∧
      (pattern.any (·.accepts value.toList) = true ↔ ∃ n ≤ maxU64, value = n.repr) ∧
      ∀ sequence, fromStr value = .ok sequence ↔ sequence.display = value := by
  refine ⟨?_, pattern_repr, fun _ => fromStr_eq_ok⟩
  rw [pattern_repr]
  constructor
  · rintro ⟨sequence, hOk⟩
    exact ⟨sequence.get, sequence.bounded, (fromStr_eq_ok.mp hOk).symm⟩
  · rintro ⟨n, hBound, rfl⟩
    exact ⟨⟨n, hBound⟩, fromStr_eq_ok.mpr rfl⟩

/- Zero is among them. -/
theorem fromStr_zero : ¬ ∀ value : String, (∃ sequence, fromStr value = .ok sequence) ↔
    ∃ n, 1 ≤ n ∧ n ≤ maxU64 ∧ value = n.repr := by
  intro hAll
  rcases (hAll "0").mp ⟨⟨0, by decide⟩, fromStr_eq_ok.mpr rfl⟩ with ⟨n, hPos, -, hText⟩
  rw [← Decimal.value_toDigits (n := n), ← Nat.toList_repr, ← hText] at hPos
  exact absurd hPos (by decide)

end StreamSequence

end LabWeaver
