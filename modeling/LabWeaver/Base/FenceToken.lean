import Mathlib.Tactic.ByContra

/-
  This file develops fencing tokens: a generation, its holder, and within it a step and an
  attempt. A guard that remembers the last token it admitted refuses a stale token, and a token of
  another holder of the same generation. The tokens it accepts after a given one are those above
  it.
-/

structure FenceToken (κ : Type) where
  generation : Nat
  holder : κ
  (step attempt : Nat)
deriving DecidableEq

namespace FenceToken

variable {κ : Type} {held presented next : FenceToken κ}

/- The order in which a source issues tokens: a new generation, or the same holder with a later step
  or a further attempt at the same step. -/
def Below (held presented : FenceToken κ) : Prop :=
  held.generation < presented.generation ∨ held.generation = presented.generation ∧
    held.holder = presented.holder ∧
    (held.step < presented.step ∨ held.step = presented.step ∧ held.attempt ≤ presented.attempt)

variable (held presented)

def stale : Prop :=
  presented.generation < held.generation ∨ presented.generation = held.generation ∧
    (presented.step < held.step ∨ presented.step = held.step ∧ presented.attempt < held.attempt)
deriving Decidable

/- The presented token shares its generation unduly. -/
def foreign : Prop :=
  presented.generation = held.generation ∧ presented.holder ≠ held.holder

variable {held presented}

instance [DecidableEq κ] (held presented : FenceToken κ) : Decidable (foreign held presented) :=
  inferInstanceAs (Decidable (_ ∧ _))

theorem below_refl (token : FenceToken κ) : Below token token :=
  .inr ⟨rfl, rfl, .inr ⟨rfl, Nat.le_refl _⟩⟩

theorem below_trans (hFirst : Below held presented) (hSecond : Below presented next) :
    Below held next := by
  rcases hFirst with hLess | ⟨hEq, hHolder, hWithin⟩
  · left
    rcases hSecond with hLess' | ⟨hEq', _, _⟩
    · exact Nat.lt_trans hLess hLess'
    · omega
  · rcases hSecond with hLess' | ⟨hEq', hHolder', hWithin'⟩
    · left
      omega
    · right
      refine ⟨hEq.trans hEq', hHolder.trans hHolder', ?_⟩
      omega

/- A guard accepts exactly the tokens above the one it holds. -/
theorem below_iff : Below held presented ↔ ¬stale held presented ∧ ¬foreign held presented := by
  unfold Below stale foreign
  constructor
  · intro hBelow
    rcases hBelow with hLess | ⟨hEq, hHolder, hWithin⟩
    · exact ⟨by omega, by omega⟩
    · exact ⟨by omega, fun hForeign => hForeign.2 hHolder.symm⟩
  · intro hAccepts
    rcases hAccepts with ⟨hFresh, hOwn⟩
    by_cases hLess : held.generation < presented.generation
    · exact .inl hLess
    · right
      have hEq : held.generation = presented.generation := by
        omega
      have hHolder : held.holder = presented.holder := by
        by_contra hNe
        exact hOwn ⟨hEq.symm, fun h => hNe h.symm⟩
      exact ⟨hEq, hHolder, by omega⟩

end FenceToken
