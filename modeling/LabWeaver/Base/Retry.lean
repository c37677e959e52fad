import LabWeaver.Base.Machine
import LabWeaver.Base.Outcome

/-
  This file defines what it means that a client may repeat a request: the answer of the first call
  comes back and nothing changes, whatever the service did in between.
-/

/- An operation of a service. A call reads the state `seen`, and its transaction runs at a later
  state `s`. `θ` is the request of the client, and `γ` what a call takes from elsewhere: clocks,
  new identifiers, other services. -/
structure Endpoint (σ γ θ ρ ε : Type) where
  call : (seen s : σ) → γ → θ → Except ε (ρ × σ)

namespace Endpoint

variable {σ α γ θ ρ ε : Type} (M : Machine σ α) (e : Endpoint σ γ θ ρ ε)

def Stepwise : Prop :=
  ∀ seen s context request result s', e.call seen s context request = .ok (result, s') →
    ∃ action, M.step s action = some s'

/- A call with `first` committed `result`, and later the request arrives again: it reads `seen` and
  its transaction runs at `s`. -/
inductive Repeated (request : θ) (first : γ) (result : ρ) (seen s : σ) : Prop where
| intro {seen₀ s₀ s₁ : σ} (hReach : M.Reachable s₀) (hCall :
      e.call seen₀ s₀ first request = .ok (result, s₁))
    (hCommitted : s₁ ≠ s₀) (hSeen : M.Leads s₁ seen) (hLeads : M.Leads seen s)

/- The condition says exactly which repeated calls answer as the first and change nothing. -/
def RetrySafeWhen (condition : θ → γ → ρ → γ → σ → σ → Prop) : Prop :=
  ∀ request first result seen s, e.Repeated M request first result seen s → ∀ second,
    e.call seen s second request = .ok (result, s) ↔ condition request first result second seen s

variable {M : Machine σ α} {e : Endpoint σ γ θ ρ ε}

/- The first call of a repeated request with the state it left, which is reached. -/
theorem Repeated.exists_first (hStepwise : e.Stepwise M) {request : θ} {first : γ} {result : ρ}
    {seen s : σ} (hRepeated : e.Repeated M request first result seen s) :
    ∃ seen₀ s₀ s₁, e.call seen₀ s₀ first request = .ok (result, s₁) ∧ s₁ ≠ s₀ ∧ M.Reachable s₁ ∧
      M.Leads s₁ seen ∧ M.Leads s₁ s := by
  rcases hRepeated with ⟨hReach, hCall, hCommitted, hSeen, hLeads⟩
  rcases hStepwise _ _ _ _ _ _ hCall with ⟨action, hStep⟩
  have hAll := hLeads.invariant (fun _ _ _ hBefore hStep => .next hBefore hStep) hSeen
  exact ⟨_, _, _, hCall, hCommitted, .next hReach trivial hStep, hSeen, hAll⟩

-- Executing A Repetition

/- Execute `before`, a call with `first`, `between`, and the call with `second`: its error, if
  `observe` has seen the first one commit. -/
def repeatError (M : Machine σ α) (e : Endpoint σ γ θ ρ ε) (observe : σ → Bool) (start : σ)
    (before : List α) (request : θ) (first : γ) (between : List α) (second : γ) : Option ε :=
  match M.exec start before with
  | none => none
  | some s₀ =>
    match e.call s₀ s₀ first request with
    | .error _ => none
    | .ok (_, s₁) =>
      if observe s₀ = false ∧ observe s₁ = true then
        match M.exec s₁ between with
        | none => none
        | some s => Outcome.errorOf (e.call s s second request)
      else none

/- An executed repetition that fails is a repetition. -/
theorem repeated_of_repeatError (observe : σ → Bool) (before between : List α) {start : σ}
    {request : θ} {first second : γ} {error : ε} (hInit : M.init start)
    (hError : e.repeatError M observe start before request first between second = some error) :
    ∃ result s, e.Repeated M request first result s s ∧
      e.call s s second request = .error error := by
  unfold repeatError at hError
  split at hError
  · cases hError
  · rename_i s₀ hBefore
    split at hError
    · cases hError
    · rename_i result s₁ hCall
      rcases Option.ite_none_right_eq_some.mp hError with ⟨hObserved, hError⟩
      split at hError
      · cases hError
      · rename_i s hBetween
        have hReach : M.Reachable s₀ := Machine.exec_run (.start hInit)
          (fun _ _ _ => trivial) hBefore
        have hCommitted : s₁ ≠ s₀ := by
          intro hSame
          rw [hSame, hObserved.1] at hObserved
          cases hObserved.2
        have hFailed := Outcome.eq_error_of_errorOf hError
        exact ⟨result, s, ⟨hReach, hCall, hCommitted,
          Machine.exec_leads hBetween, .refl⟩, hFailed⟩

end Endpoint
