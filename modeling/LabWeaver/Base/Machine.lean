import Mathlib.Logic.Relation

/-
  This file defines state machines with a partial step function, their reachable states, and the
  invariant rule for runs whose steps meet a side condition.
-/

/- A set of initial states and a step function. A step that is refused returns `none` and leaves no
  trace. -/
structure Machine (σ α : Type) where
  init : σ → Prop
  step : σ → α → Option σ

namespace Machine

variable {σ α : Type} {M : Machine σ α}

-- Runs

/- The states that `M` reaches by runs whose steps all meet the side condition `ok`. -/
inductive Run (M : Machine σ α) (ok : σ → α → Prop) : σ → Prop where
| start {s : σ} (hInit : M.init s) : Run M ok s
| next {s s' : σ} {a : α} (hRun : Run M ok s) (hOk : ok s a) (hStep : M.step s a = some s') :
    Run M ok s'

/- The states reached without any side condition. -/
def Reachable (M : Machine σ α) : σ → Prop := M.Run (fun _ _ => True)

variable {ok : σ → α → Prop} {s : σ}

/- A property that holds initially and that every admitted step keeps holds in every state
  reached. -/
theorem Run.invariant {I : σ → Prop} (hInit : ∀ s, M.init s → I s)
    (hStep : ∀ s a s', I s → ok s a → M.step s a = some s' → I s') (hRun : M.Run ok s) : I s := by
  induction hRun with
  | start h => exact hInit _ h
  | next _ hOk hNext ih => exact hStep _ _ _ ih hOk hNext

/- A weaker side condition admits more runs. -/
theorem Run.mono {ok' : σ → α → Prop} (hWeaker : ∀ s a, ok s a → ok' s a) (hRun : M.Run ok s) :
    M.Run ok' s := by
  induction hRun with
  | start h => exact .start h
  | next _ hOk hNext ih => exact .next ih (hWeaker _ _ hOk) hNext

-- Continuations Of A Run

/- The states that `M` reaches from a given state. -/
inductive Leads (M : Machine σ α) (s : σ) : σ → Prop where
| refl : Leads M s s
| next {s' s'' : σ} {a : α} (hLeads : Leads M s s') (hStep : M.step s' a = some s'') : Leads M s s''

variable {s' : σ}

theorem Leads.reachable (hReach : M.Reachable s) (hLeads : M.Leads s s') : M.Reachable s' := by
  induction hLeads with
  | refl => exact hReach
  | next _ hStep ih => exact .next ih trivial hStep

/- What every step keeps holds at the end if it holds at the beginning. -/
theorem Leads.invariant {I : σ → Prop} (hStep : ∀ s a s', I s → M.step s a = some s' → I s')
    (hStart : I s) (hLeads : M.Leads s s') : I s' := by
  induction hLeads with
  | refl => exact hStart
  | next _ hNext ih => exact hStep _ _ _ ih hNext

/- A preorder that every step from a reachable state respects relates the two ends of a
  continuation. -/
theorem Leads.relation {R : σ → σ → Prop} (hRefl : ∀ s, R s s)
    (hTrans : ∀ {s s' s''}, R s s' → R s' s'' → R s s'')
    (hStep : ∀ s a s', M.Reachable s → M.step s a = some s' → R s s') (hReach : M.Reachable s)
    (hLeads : M.Leads s s') : R s s' := by
  induction hLeads with
  | refl => exact hRefl s
  | next hPart hNext ih =>
    have hMiddle := hPart.reachable hReach
    exact hTrans ih (hStep _ _ _ hMiddle hNext)

variable (M)

def startingAt (s : σ) : Machine σ α where
  init := fun s' => s' = s
  step := M.step

/- The machine that also keeps a log. The notes of a step are appended when the machine takes it. -/
def logged {β : Type} (note : σ → α → List β) : Machine (σ × List β) α where
  init := fun p => M.init p.1 ∧ p.2 = []
  step := fun p a => (M.step p.1 a).map (fun s' => (s', p.2 ++ note p.1 a))

variable {M}

theorem logged_step_eq_some {β : Type} {note : σ → α → List β} {p p' : σ × List β} {a : α} :
    (M.logged note).step p a = some p' ↔ M.step p.1 a = some p'.1 ∧ p'.2 = p.2 ++ note p.1 a := by
  rcases p' with ⟨s', log⟩
  simp only [logged, Option.map_eq_some_iff, Prod.mk.injEq]
  constructor
  · rintro ⟨_, hStep, rfl, rfl⟩
    exact ⟨hStep, rfl⟩
  · rintro ⟨hStep, rfl⟩
    exact ⟨s', hStep, rfl, rfl⟩

-- Executing A List Of Actions

/- A question about an optional value is decided on the value. -/
instance {β : Type} {value : Option β} {P : β → Prop} [DecidablePred P] :
    Decidable (∃ b, value = some b ∧ P b) :=
  match value with
  | none => isFalse (fun ⟨_, hNone, _⟩ => nomatch hNone)
  | some b => decidable_of_iff (P b)
      ⟨fun hHolds => ⟨b, rfl, hHolds⟩, fun ⟨_, hSame, hHolds⟩ => Option.some.inj hSame ▸ hHolds⟩

/- Perform the actions in order, stopping at a refusal. -/
def exec (M : Machine σ α) : σ → List α → Option σ
| s, [] => some s
| s, a :: as =>
  match M.step s a with
  | none => none
  | some s' => exec M s' as

variable {as : List α}

/- An execution whose actions all meet the side condition extends a run. -/
theorem exec_run (hStart : M.Run ok s) (hOk : ∀ a ∈ as, ∀ s, ok s a)
    (hExec : M.exec s as = some s') :
    M.Run ok s' := by
  induction as generalizing s with
  | nil =>
    cases hExec
    exact hStart
  | cons a as ih =>
    simp only [exec] at hExec
    cases hStep : M.step s a with
    | none =>
      rw [hStep] at hExec
      cases hExec
    | some next =>
      rw [hStep] at hExec
      have hHead := hOk a List.mem_cons_self s
      refine ih (.next hStart hHead hStep) ?_ hExec
      intro b hMember
      exact hOk b (List.mem_cons_of_mem a hMember)

/- An execution leads from its first state to its last. -/
theorem exec_leads (hExec : M.exec s as = some s') : M.Leads s s' := by
  -- from the state where the list is cut to its end
  have hFrom : ∀ middle, M.Leads s middle → M.exec middle as = some s' → M.Leads s s' := by
    clear hExec
    induction as with
    | nil =>
      rintro middle hLeads ⟨⟩
      exact hLeads
    | cons a as ih =>
      intro middle hLeads hRest
      simp only [exec] at hRest
      cases hStep : M.step middle a with
      | none =>
        rw [hStep] at hRest
        cases hRest
      | some next =>
        rw [hStep] at hRest
        exact ih next (.next hLeads hStep) hRest
  exact hFrom s .refl hExec

variable {P : σ → Prop}

/- What is true of the last state of an execution is true of a state at the end of a run. -/
theorem exists_run_of_exec (as : List α) [DecidablePred P] (hStart : M.init s)
    (hOk : ∀ a ∈ as, ∀ s, ok s a) (hTest : (M.exec s as).any (fun s => decide (P s)) = true) :
    ∃ s', M.Run ok s' ∧ P s' := by
  cases hExec : M.exec s as with
  | none =>
    rw [hExec] at hTest
    cases hTest
  | some s' =>
    rw [hExec] at hTest
    exact ⟨s', exec_run (.start hStart) hOk hExec, of_decide_eq_true hTest⟩

theorem exists_reachable (as : List α) [DecidablePred P] (hStart : M.init s)
    (hTest : (M.exec s as).any (fun s => decide (P s)) = true) : ∃ s', M.Reachable s' ∧ P s' :=
  exists_run_of_exec as hStart (fun _ _ _ => trivial) hTest

-- Guarded Machines

/- The machine that also refuses steps that fail a check. -/
def guarded (M : Machine σ α) (check : σ → α → Bool) : Machine σ α where
  init := M.init
  step := fun s a => if check s a then M.step s a else none

variable {check : σ → α → Bool}

theorem guarded_run (hCheck : ∀ s a, check s a = true → ok s a)
    (hRun : (M.guarded check).Reachable s) : M.Run ok s := by
  induction hRun with
  | start h => exact .start h
  | next _ _ hNext ih =>
    simp only [guarded] at hNext
    split at hNext
    · rename_i hPassed
      exact .next ih (hCheck _ _ hPassed) hNext
    · cases hNext

/- What is true after a guarded execution is true of a state at the end of a run whose steps all
  meet the side condition. -/
theorem exists_run_of_guarded (as : List α) [DecidablePred P]
    (hStart : M.init s) (hCheck : ∀ s a, check s a = true → ok s a)
    (hTest : ((M.guarded check).exec s as).any (fun s => decide (P s)) = true) :
    ∃ s', M.Run ok s' ∧ P s' := by
  have hFound : ∃ s', (M.guarded check).Reachable s' ∧ P s' := exists_reachable as hStart hTest
  rcases hFound with ⟨s', hRun, hHolds⟩
  exact ⟨s', guarded_run hCheck hRun, hHolds⟩

/- The same for a side condition that is decidable itself. -/
theorem exists_run (as : List α) [DecidablePred P] [∀ s a, Decidable (ok s a)]
    (hStart : M.init s) (hTest : ((M.guarded fun s a => decide (ok s a)).exec s as).any
      (fun s => decide (P s)) = true) : ∃ s', M.Run ok s' ∧ P s' :=
  exists_run_of_guarded as hStart (fun _ _ hOk => of_decide_eq_true hOk) hTest

end Machine
