import Mathlib.Logic.Function.Basic

/-
  This file defines idempotency ledgers: the result of a request is stored under its key with the
  hash of the request, and a repetition is answered from the ledger.
-/

/- A ledger entry holds the hash of the request that reserved the key, and its result once it
  completed. -/
structure LedgerEntry (δ ρ : Type) where
  requestHash : δ
  result : Option ρ

abbrev Ledger (κ δ ρ : Type) := κ → Option (LedgerEntry δ ρ)

inductive LedgerDecision (ρ : Type) where
| reserved
| replay (result : ρ)
| conflict
| inProgress

namespace Ledger

variable {κ δ ρ : Type}

-- Operations

def reserve [DecidableEq δ] (ledger : Ledger κ δ ρ) (key : κ)
    (requestHash : δ) : LedgerDecision ρ :=
  match ledger key with
  | none => .reserved
  | some entry =>
    if entry.requestHash = requestHash then
      match entry.result with
      | some result => .replay result
      | none => .inProgress
    else .conflict

def complete [DecidableEq κ] (ledger : Ledger κ δ ρ) (key : κ) (requestHash : δ)
    (result : ρ) : Ledger κ δ ρ :=
  Function.update ledger key (some { requestHash, result := some result })

/- One ledger extends another when it keeps every completed entry. -/
def Extends (later earlier : Ledger κ δ ρ) : Prop :=
  ∀ key entry, earlier key = some entry → entry.result ≠ none → later key = some entry

variable {ledger : Ledger κ δ ρ} {key : κ} {requestHash : δ}

theorem reserve_eq_reserved [DecidableEq δ] :
    ledger.reserve key requestHash = .reserved ↔ ledger key = none := by
  unfold reserve
  cases hEntry : ledger key with
  | none => simp
  | some entry =>
    by_cases hHash : entry.requestHash = requestHash
    · cases hResult : entry.result <;>
        simp [hHash, hResult]
    · simp [hHash]

variable {result : ρ}

/- A key is replayed exactly when a request with the same hash completed under it. -/
theorem reserve_eq_replay [DecidableEq δ] :
    ledger.reserve key requestHash = .replay result ↔ ledger key =
      some { requestHash, result := some result } := by
  unfold reserve
  cases hEntry : ledger key with
  | none => simp
  | some entry =>
    obtain ⟨hash, stored⟩ := entry
    by_cases hHash : hash = requestHash
    · cases stored <;> simp [hHash]
    · simp [hHash]

/- A key that completed is never reserved again: the same hash is replayed and any other hash
  conflicts. -/
theorem reserve_of_completed [DecidableEq δ] {storedHash : δ} (hEntry : ledger key =
        some { requestHash := storedHash, result := some result }) :
    ledger.reserve key requestHash =
      if storedHash = requestHash then .replay result
      else .conflict := by
  unfold reserve
  rw [hEntry]

theorem extends_refl (ledger : Ledger κ δ ρ) : Extends ledger ledger := by
  intro key entry hEntry _
  exact hEntry

theorem extends_trans {first second third : Ledger κ δ ρ} (hLater : Extends third second)
    (hEarlier : Extends second first) : Extends third first := by
  intro key entry hEntry hDone
  exact hLater key entry (hEarlier key entry hEntry hDone) hDone

theorem extends_complete [DecidableEq κ] (hFree : ledger key = none) :
    Extends (ledger.complete key requestHash result) ledger := by
  intro key' entry hEntry _
  have hNe : key' ≠ key := by
    intro hEq
    rw [hEq, hFree] at hEntry
    cases hEntry
  simpa [complete, Function.update_of_ne hNe] using hEntry

end Ledger
