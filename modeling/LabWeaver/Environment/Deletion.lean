import LabWeaver.Environment.Phases

/-
  This file studies what can happen to an environment once its deletion is desired. The desire is
  never withdrawn, but the workload can come back: an expiry that fails after the workload was
  stopped records `Stopped` as its failed phase, and a retry resumes it by provisioning.

  Main declaration: `deleted_environment_only_cleaned_up`.
-/

namespace LabWeaver

open Outcome
open EnvironmentInstance

-- Deletion Is Final

variable {env updated : EnvironmentInstance}

theorem InstanceStep.desired_deleted
    {okCommand : EnvironmentInstance → EnvironmentLifecycleCommand → Prop}
    (hStep : InstanceStep okCommand env updated) (hDesired : env.desiredState = .deleted) :
    updated.desiredState = .deleted := by
  cases hStep with
  | command _ _ hPlan =>
    obtain ⟨_, _, _, _, hAccepted, hEq, _⟩ := planCommandAuthorized_eq_ok.mp hPlan
    have hAllowed := hAccepted.notResurrected hDesired
    subst hEq
    simp only [withNextAttempt, plannedInstance]
    cases hKind : EnvironmentLifecycleCommand.kind _ <;>
      simp_all [allowedWhenDeleted, desiredState]
  | reconcile hReconcile =>
    rcases hReconcile.kept.desired with hSame | hDeleted
    · exact hSame.trans hDesired
    · exact hDeleted
  | refresh _ _ => exact hDesired

theorem deletion_final {δ : Type} [DecidableEq δ] {hash : RequestDocument → δ}
    {s s' : ServiceState δ} {actions : List ServiceAction} {environmentId : EnvironmentId}
    (hCoherent : s.Coherent) (hExec : (environmentService hash).exec s actions = some s')
    (hDeleted : ∃ env, s.tables.instances environmentId = some env ∧ env.desiredState = .deleted) :
    ∃ env, s'.tables.instances environmentId = some env ∧ env.desiredState = .deleted := by
  refine (Machine.Leads.invariant (I := fun s : ServiceState δ => s.Coherent ∧ ∃ env,
    s.tables.instances environmentId = some env ∧ env.desiredState = .deleted) ?_
    ⟨hCoherent, hDeleted⟩ (Machine.exec_leads hExec)).2
  rintro s action s' ⟨hCoherent, env, hEnv, hDesired⟩ hStep
  refine ⟨ServiceState.step_coherent hCoherent hStep, ?_⟩
  rcases ServiceState.step_stored hCoherent hStep hEnv with ⟨next, hNext, rfl | hMove⟩
  · exact ⟨next, hNext, hDesired⟩
  · exact ⟨next, hNext, (hMove.instanceStep (commandsMeet_true _ _)).desired_deleted hDesired⟩

-- The Way Back

variable (env)

/- It is in one of the cleanup states, and the next action of its operation stops or removes the
  workload. -/
def onlyCleanedUp : Prop :=
  (env.observedState = .expiring ∨ env.observedState = .stopped ∨ env.observedState = .deleting ∨
    env.observedState = .deleted ∨ env.observedState = .failed) ∧
  ∀ now action, nextAction env now = .ok action → action = .stop ∨ action = .cleanup

def notRetriedAfterStop (command : EnvironmentLifecycleCommand) : Prop :=
  ¬(env.desiredState = .deleted ∧ env.failedPhase = some .stopped ∧ command.kind.resumes = true)

/- The workload of a deleted environment has not been provisioned again. -/
private def notProvisioned : Prop := env.desiredState = .deleted →
    env.observedState ≠ .provisioning ∧ env.failedPhase ≠ some .provisioning

variable {env}

private theorem notProvisioned_planned {planned : EnvironmentInstance}
    {command : EnvironmentLifecycleCommand} {operationId : OperationId}
    {leaseAuthorization : Option EnvironmentLeaseAuthorization} {now : UtcTimestamp}
    (hPhase : PhaseInvariant env) (hBefore : notProvisioned env)
    (hOk : notRetriedAfterStop env command)
    (hPlan : planCommandAuthorized env command operationId leaseAuthorization now = .ok planned) :
    notProvisioned planned := by
  obtain ⟨phase, revision, observed, generation, hAccepted,
    hEq, _⟩ := planCommandAuthorized_eq_ok.mp hPlan
  subst hEq
  intro hDesired
  refine ⟨?_, by simp [plannedInstance]⟩
  intro hObserved
  have hTarget := hAccepted.target
  have hNot := hAccepted.notResurrected
  simp only [plannedInstance] at hDesired hObserved
  subst hObserved
  cases hKind : command.kind with
  | retry | recover =>
    rw [hKind] at hTarget hDesired
    simp only [acceptedTarget, steps_eq_ok] at hTarget
    obtain ⟨resumed, hFailed, hResume⟩ := hTarget
    have hDeleted : env.desiredState = .deleted := hDesired
    have hFailedOk := hPhase.failed resumed hFailed
    cases hCase : resumed <;>
      simp_all [retryResumeState, failedPhaseOk, notRetriedAfterStop, notProvisioned,
        EnvironmentOperationKind.resumes]
  | restart | reset | start | stop | cancel | expire | delete
  | cleanup | freeze | create =>
    rw [hKind] at hTarget hDesired hNot
    simp_all [acceptedTarget, desiredState, allowedWhenDeleted]

private theorem notProvisioned_reconciled (hPhase : PhaseInvariant env)
    (hBefore : notProvisioned env) (hStep : ReconcileStep env updated) :
    notProvisioned updated := by
  cases hStep with
  | cleanup hCleanup =>
    obtain ⟨_, _, _, _, hEq, _⟩ := beginTimeoutCleanup_eq_ok.mp hCleanup
    intro _
    rw [beginTimeoutCleanup_failedPhase hCleanup, hEq]
    simp [cleanupInstance]
  | observation _ hApplied hValid =>
    obtain ⟨_, _, hObserved, hEq, _⟩ := applyProviderObservation_eq_ok.mp hApplied
    subst hEq
    intro hDesired
    have hDeleted : env.desiredState = .deleted := hDesired
    have hActive := hPhase.active hObserved.active
    have hNotHere := (hBefore hDeleted).1
    have hMatch := hObserved.allowed.1
    refine ⟨?_, (hBefore hDeleted).2⟩
    intro hNext
    simp only [withNextAttempt, observedInstance] at hNext
    rw [hNext] at hMatch
    rw [hDeleted] at hActive
    cases hKind : env.operation.kind <;>
      cases hState : env.observedState <;>
      simp_all [activePhase, transitionMatchesOperation]
  | retry hRetry =>
    obtain ⟨_, _, hEq, _⟩ := applyRetry_eq_ok.mp hRetry
    subst hEq
    exact hBefore
  | failure hFailure =>
    obtain ⟨_, _, hEq, _⟩ := applyProviderFailure_eq_ok.mp hFailure
    subst hEq
    intro hDesired
    refine ⟨by simp [failedInstance], ?_⟩
    intro hFailed
    exact (hBefore hDesired).1 (Option.some.inj hFailed)

private theorem notProvisioned_step (hPhase : PhaseInvariant env) (hBefore : notProvisioned env)
    (hStep : InstanceStep notRetriedAfterStop env updated) : notProvisioned updated := by
  cases hStep with
  | command hOk _ hPlan =>
    have hPlanned := notProvisioned_planned hPhase hBefore hOk hPlan
    exact hPlanned
  | reconcile hReconcile => exact notProvisioned_reconciled hPhase hBefore hReconcile
  | refresh _ _ => exact hBefore

private theorem onlyCleanedUp_of_notProvisioned (hPhase : PhaseInvariant env)
    (hNot : notProvisioned env) (hDesired : env.desiredState = .deleted) : onlyCleanedUp env := by
  have hHere := (hNot hDesired).1
  have hActive := hPhase.active
  have hResting := hPhase.resting
  rw [hDesired] at hActive hResting
  constructor
  · cases hState : env.operation.state.active with
    | true =>
      have hPhaseNow := hActive hState
      cases hObserved : env.observedState <;>
        simp_all [activePhase]
    | false =>
      have hRest := hResting hState
      cases hObserved : env.observedState <;>
        simp_all [isTarget]
  · intro now action hNext
    obtain ⟨hState, hAction⟩ := nextAction_eq_ok.mp hNext
    have hPhaseNow := hActive hState
    cases hKind : env.operation.kind <;>
      cases hObserved : env.observedState <;>
      simp_all [activePhase, actionFor, EnvironmentOperationKind.resumes]

/- As long as no deletion is resumed after its stop, an environment whose deletion is desired is
  only cleaned up, now and later. -/
theorem deleted_environment_only_cleaned_up {δ : Type} [DecidableEq δ] {hash : RequestDocument → δ}
    {s : ServiceState δ} (hRun : (environmentService hash).Run (commandsMeet notRetriedAfterStop) s)
    {environmentId : EnvironmentId} {env : EnvironmentInstance}
    (hEnv : s.tables.instances environmentId = some env) (hDesired : env.desiredState = .deleted) :
    onlyCleanedUp env ∧ ∀ actions s', (environmentService hash).exec s actions = some s' → ∃ env',
      s'.tables.instances environmentId = some env' ∧ env'.desiredState = .deleted := by
  have hInvariant := environmentService_instances (P := fun env =>
    PhaseInvariant env ∧ notProvisioned env)
    (fun env hFresh _ => ⟨.fresh hFresh, fun h => by
      rw [hFresh.2.2.1] at h
      cases h⟩)
    (fun env updated hBefore hStep _ => ⟨hBefore.1.step hStep,
      notProvisioned_step hBefore.1 hBefore.2 hStep⟩)
    hRun environmentId env hEnv
  refine ⟨?_, ?_⟩
  · exact onlyCleanedUp_of_notProvisioned hInvariant.1 hInvariant.2 hDesired
  · intro actions s' hExec
    exact deletion_final (environmentService_coherent hRun) hExec ⟨env, hEnv, hDesired⟩

open Sample

/- The condition is met by a deletion from the start. -/
theorem deleted_environment_only_cleaned_up_sample : ∃ (s : ServiceState RequestDocument)
      (env : EnvironmentInstance),
    (environmentService id).Run (commandsMeet notRetriedAfterStop) s ∧
    s.tables.instances environmentId = some env ∧ env.desiredState = .deleted ∧
    onlyCleanedUp env ∧ ∀ actions s', (environmentService id).exec s actions = some s' → ∃ env',
      s'.tables.instances environmentId = some env' ∧ env'.desiredState = .deleted := by
  have hOk : ∀ action ∈ [create, request "key-delete" .delete (revision 1) 0 ⟨2⟩],
      ∀ s : ServiceState RequestDocument, commandsMeet notRetriedAfterStop s action := by
    intro action hMember s
    simp only [List.mem_cons, List.not_mem_nil, or_false] at hMember
    rcases hMember with rfl | rfl <;> exact fun _ env _ h => by cases h.2.2
  have hFound : ∃ s, (environmentService id).Run (commandsMeet notRetriedAfterStop) s ∧
      ∃ env, s.tables.instances environmentId = some env ∧ env.desiredState = .deleted :=
    Machine.exists_run_of_exec _ start_initial hOk (by decide)
  rcases hFound with ⟨s, hRun, env, hEnv, hDesired⟩
  exact ⟨s, env, hRun, hEnv, hDesired, deleted_environment_only_cleaned_up hRun hEnv hDesired⟩

/- The creation fails, the environment expires, the workload is stopped, the cleanup fails, and the
  retry provisions. -/
theorem expired_environment_provisioned : ∃ (s : ServiceState RequestDocument)
      (env : EnvironmentInstance),
    (environmentService id).Reachable s ∧ s.tables.instances environmentId = some env ∧
    env.desiredState = .deleted ∧ env.observedState = .provisioning ∧
    nextAction env 6000 = .ok .provision := by
  simp only [exists_and_left]
  exact Machine.exists_reachable (create :: pass 10 ⟨1⟩ rejected ++
    request "key-expire" .expire (revision 2) 20 ⟨2⟩ ::
    pass 30 ⟨2⟩ (progress .stopped) ++ pass 5000 ⟨2⟩ rejected ++
    [request "key-retry" .retry (revision 5) 6000 ⟨3⟩])
    start_initial (by decide)

end LabWeaver
