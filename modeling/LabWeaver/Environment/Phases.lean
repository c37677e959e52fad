import LabWeaver.Environment.Service

/-
  This file describes the combinations of operation kind, observed state and desired state that an
  environment can be in.
-/

namespace LabWeaver

open EnvironmentInstance EnvironmentOperationKind

-- The Reachable Phases

def activePhase (kind : EnvironmentOperationKind) (observed : ObservedEnvironmentState)
    (desired : DesiredEnvironmentState) : Bool :=
  match observed with
  | .requested => kind == .create && desired == .running
  | .validating | .building =>
    (kind == .create && desired == .running) || ((kind.resumes || kind == .reset) &&
      desired != .deleted)
  | .provisioning =>
    ((kind == .create || kind == .start || kind == .restart) && desired == .running) ||
      (kind == .reset && desired != .deleted) ||
      kind.resumes
  | .stopping => (kind == .stop || kind.resumes) && desired == .stopped
  | .stopped => (kind == .start && desired == .running) || (kind == .expire && desired == .deleted)
  | .updating => (kind == .freeze || kind.resumes) && desired == .running
  | .expiring => (kind == .expire || kind.resumes) && desired == .deleted
  | .deleting => desired == .deleted || (kind.resumes && desired == .stopped)
  | .ready | .deleted | .failed => false

def failedPhaseOk (phase : ObservedEnvironmentState) (desired : DesiredEnvironmentState) : Bool :=
  match phase with
  | .requested | .updating => desired == .running
  | .validating | .building => desired != .deleted
  | .provisioning => true
  | .stopping => desired == .stopped
  | .stopped => desired != .stopped
  | .expiring => desired == .deleted
  | .deleting => desired != .running
  | .ready | .deleted | .failed => false

/- An active operation is in one of its phases, a failed one has recorded its phase, any other has
  reached the desired state. -/
structure PhaseInvariant (env : EnvironmentInstance) : Prop where
  active : env.operation.state.active = true → activePhase env.operation.kind env.observedState
    env.desiredState = true
  failed : ∀ phase, env.failedPhase = some phase → failedPhaseOk phase env.desiredState = true
  resting : env.operation.state.active = false → env.observedState = .failed ∨
    isTarget env.desiredState env.observedState = true

-- Tables Of The Lifecycle

variable {desired : DesiredEnvironmentState} {kind : EnvironmentOperationKind}

private theorem failedPhaseOk_of_activePhase {observed : ObservedEnvironmentState}
    (hActive : activePhase kind observed desired = true) :
    failedPhaseOk observed desired = true := by
  cases observed <;> cases desired <;>
    simp_all [activePhase, failedPhaseOk]

variable {next : ObservedEnvironmentState}

private theorem activePhase_observed {observed : ObservedEnvironmentState}
    (hActive : activePhase kind observed desired = true)
    (hMatch : transitionMatchesOperation kind observed next = true)
    (hSteady : isSteadyState next = true → isTarget desired next = true ∨
      kind = .expire ∧ next = .stopped) (hTarget : isTarget desired next = false) :
    activePhase kind next desired = true := by
  cases kind <;> cases observed <;>
    simp [activePhase, resumes] at hActive <;>
    cases next <;>
    simp_all [transitionMatchesOperation, isSteadyState, activePhase, resumes]

private theorem activePhase_resumed {phase : ObservedEnvironmentState} (hKind : kind.resumes = true)
    (hPhase : failedPhaseOk phase desired = true)
    (hResume : retryResumeState phase = .ok next) : activePhase kind next desired = true := by
  cases phase <;>
    simp_all [retryResumeState, failedPhaseOk] <;>
    subst hResume <;>
    cases desired <;> simp_all [activePhase]

variable {leaseAuthorization : Option EnvironmentLeaseAuthorization}
  {command : EnvironmentLifecycleCommand}

private theorem activePhase_accepted {current : EnvironmentInstance} {now : UtcTimestamp}
    {phase : Option ObservedEnvironmentState} {revision : Revision}
    {observed : ObservedEnvironmentState} {generation : Nat} (hPhase : PhaseInvariant current)
    (hKind : command.kind ≠ .create)
    (hAccepted : CommandAccepted current command leaseAuthorization now
      phase revision observed generation) :
    activePhase command.kind observed (desiredState current command.kind) = true := by
  have hTarget := hAccepted.target
  have hAllowed := hAccepted.allowed
  have hDeleted := hAccepted.notResurrected
  have hSupersedes := hAccepted.supersedes
  have hResumed : command.kind.resumes = true → acceptedTarget current command.kind = (do
          let phase ← Outcome.require current.failedPhase .commandInvalid
          retryResumeState phase) →
      activePhase command.kind observed current.desiredState = true := by
    intro hResumes hEq
    rw [hEq, Outcome.bind_eq_ok] at hTarget
    obtain ⟨resumed, hFailed, hResume⟩ := hTarget
    exact activePhase_resumed hResumes (hPhase.failed resumed
      (Outcome.require_eq_ok.mp hFailed)) hResume
  cases hCommand : command.kind with
  | create => exact absurd hCommand hKind
  | retry | recover =>
    rw [hCommand] at hResumed
    exact hResumed rfl rfl
  | start =>
    rw [hCommand] at hTarget hAllowed
    cases hTarget
    simp_all [operationAllowed, activePhase, desiredState]
  | stop | restart | cancel | expire | delete | cleanup =>
    rw [hCommand] at hTarget
    cases hTarget
    rfl
  | reset =>
    rw [hCommand] at hTarget hDeleted
    have hNotDeleted : current.desiredState ≠ .deleted := fun h => by cases hDeleted h
    simp only [acceptedTarget] at hTarget
    split at hTarget <;> cases hTarget <;>
      simp [activePhase, desiredState, hNotDeleted]
  | freeze =>
    rw [hCommand] at hTarget hAllowed hSupersedes
    cases hTarget
    have hReady : current.observedState = .ready := by
      simpa [operationAllowed] using hAllowed
    have hIdle : current.operation.state.active = false := by
      cases hActive : current.operation.state.active with
      | false => rfl
      | true => cases hSupersedes hActive
    have hRest := hPhase.resting hIdle
    rw [hReady] at hRest
    cases hDesired : current.desiredState <;>
      simp_all [isTarget, activePhase, desiredState, resumes]

-- The Invariant

namespace PhaseInvariant

variable {okCommand : EnvironmentInstance → EnvironmentLifecycleCommand → Prop}
  {env updated : EnvironmentInstance}

theorem fresh (hFresh : freshAggregate env) : PhaseInvariant env := by
  obtain ⟨hKind, hState, hDesired, hObserved, _, _, _, _, _,
    _, _, _, _, _, _, _, _, _, _, _, hFailed, _⟩ := hFresh
  refine ⟨?_, ?_, ?_⟩
  · intro _
    rw [hKind, hDesired, hObserved]
    rfl
  · intro phase hPhase
    rw [hFailed] at hPhase
    cases hPhase
  · intro hIdle
    rw [hState] at hIdle
    cases hIdle

theorem cleanup {started deadline : UtcTimestamp}
    (hCleanup : beginTimeoutCleanup env started deadline = .ok updated) :
    PhaseInvariant updated := by
  obtain ⟨_, _, _, _, hEq, _⟩ := beginTimeoutCleanup_eq_ok.mp hCleanup
  have hNoPhase := beginTimeoutCleanup_failedPhase hCleanup
  subst hEq
  refine ⟨fun _ => rfl, ?_, ?_⟩
  · intro phase hFailed
    cases hNoPhase.symm.trans hFailed
  · rintro ⟨⟩

variable (hPhase : PhaseInvariant env)

include hPhase

/- The time of the next attempt plays no part. -/
theorem withNextAttempt {nextAttemptAt : UtcTimestamp} :
    PhaseInvariant (env.withNextAttempt nextAttemptAt) :=
  ⟨hPhase.active, hPhase.failed, hPhase.resting⟩

variable {operationId : OperationId}

theorem planned {now : UtcTimestamp} (hKind : command.kind ≠ .create)
    (hPlan : planCommandAuthorized env command operationId leaseAuthorization now = .ok updated) :
    PhaseInvariant updated := by
  obtain ⟨_, _, observed, _, hAccepted, hEq, _⟩ := planCommandAuthorized_eq_ok.mp hPlan
  subst hEq
  refine ⟨?_, ?_, ?_⟩
  · intro _
    exact activePhase_accepted hPhase hKind hAccepted
  · rintro phase ⟨⟩
  · intro hIdle
    simp only [plannedInstance, plannedOperation] at hIdle
    split at hIdle <;> cases hIdle

theorem observed {observation : AppliedProviderObservation}
    (hApplied : applyProviderObservation env operationId observation = .ok updated) :
    PhaseInvariant updated := by
  obtain ⟨revision, step, hObserved, hEq, hValid⟩ := applyProviderObservation_eq_ok.mp hApplied
  obtain ⟨hMatch, hSteady, hComplete⟩ := hObserved.allowed
  have hBefore := hPhase.active hObserved.active
  -- A Provider never reports `Failed`: an observation
  -- leads to a phase of the operation or to its target.
  have hNotFailed := (ne_failed_of_transitionMatches hMatch).2
  have hNoPhase : updated.failedPhase = none := by
    refine hValid.failedPhase_eq_none ?_
    rwa [hEq]
  subst hEq
  refine ⟨?_, ?_, ?_⟩
  · intro hActive
    have hIncomplete : observation.operationComplete = false := by
      cases hDone : observation.operationComplete with
      | false => rfl
      | true =>
        simp only [observedInstance, observedOperationState, hDone] at hActive
        split at hActive
        · cases hActive
        · split at hActive <;> cases hActive
    rw [hIncomplete] at hComplete
    refine activePhase_observed hBefore hMatch ?_ hComplete.symm
    intro hRest
    rcases hSteady hRest with hTarget | hCheckpoint
    · exact .inl hTarget
    · right
      simp only [isExpireCleanupCheckpoint, Bool.and_eq_true, beq_iff_eq] at hCheckpoint
      exact ⟨hCheckpoint.1.1.1, hCheckpoint.1.2⟩
  · intro phase hFailed
    cases hNoPhase.symm.trans hFailed
  · intro hIdle
    right
    cases hDone : observation.operationComplete with
    | true =>
      rw [hDone] at hComplete
      exact hComplete.symm
    | false =>
      simp only [observedInstance, observedOperationState, preservingCleanupFailure,
        hDone, Bool.false_and] at hIdle
      cases hIdle

variable {diagnosticCode : String}

theorem retried {retryAt : UtcTimestamp}
    (hRetry : applyRetry env operationId diagnosticCode retryAt = .ok updated) :
    PhaseInvariant updated := by
  obtain ⟨_, hScheduled, hEq, _⟩ := applyRetry_eq_ok.mp hRetry
  subst hEq
  refine ⟨?_, hPhase.failed, ?_⟩
  · intro _
    exact hPhase.active hScheduled.active
  · rintro ⟨⟩

theorem failure (hFailure : applyProviderFailure env operationId diagnosticCode = .ok updated) :
    PhaseInvariant updated := by
  obtain ⟨_, hRecorded, hEq, _⟩ := applyProviderFailure_eq_ok.mp hFailure
  subst hEq
  refine ⟨?_, ?_, fun _ => .inl rfl⟩
  · rintro ⟨⟩
  · rintro phase ⟨⟩
    exact failedPhaseOk_of_activePhase (hPhase.active hRecorded.active)

theorem reconciled (hStep : ReconcileStep env updated) : PhaseInvariant updated := by
  cases hStep with
  | cleanup hCleanup => exact cleanup hCleanup
  | observation _ hApplied _ => exact (hPhase.observed hApplied).withNextAttempt
  | retry hRetry => exact hPhase.retried hRetry
  | failure hFailure => exact hPhase.failure hFailure

theorem step (hStep : InstanceStep okCommand env updated) :
    PhaseInvariant updated := by
  cases hStep with
  | command _ hKind hPlan => exact (hPhase.planned hKind hPlan).withNextAttempt
  | reconcile hReconcile => exact hPhase.reconciled hReconcile
  | refresh _ _ => exact ⟨hPhase.active, hPhase.failed, hPhase.resting⟩

end PhaseInvariant

theorem environmentService_phases {δ : Type} [DecidableEq δ] {hash : RequestDocument → δ}
    {s : ServiceState δ} (hReachable : (environmentService hash).Reachable s)
    {environmentId : EnvironmentId} {env : EnvironmentInstance}
    (hEnv : s.tables.instances environmentId = some env) : PhaseInvariant env ∧ Storable env := by
  have hRun : (environmentService hash).Run (commandsMeet (fun _ _ => True)) s := hReachable.mono
    (fun s action _ => commandsMeet_true s action)
  refine environmentService_instances (P := fun env => PhaseInvariant env ∧ Storable env)
    ?_ ?_ hRun environmentId env hEnv
  · intro env hFresh hStorable
    exact ⟨.fresh hFresh, hStorable⟩
  · intro env updated hBefore hStep hStorable
    exact ⟨hBefore.1.step hStep, hStorable⟩

/- An environment with an active operation is in one of its phases, and any other has failed or is
  where it is wanted. -/
theorem stored_environment_consistent {δ : Type} [DecidableEq δ] {hash : RequestDocument → δ}
    {s : ServiceState δ} (hReach : (environmentService hash).Reachable s)
    {environmentId : EnvironmentId} {env : EnvironmentInstance}
    (hEnv : s.tables.instances environmentId = some env) :
    loadLocked s.tables environmentId = .ok env ∧
    (env.operation.state.active = true →
      activePhase env.operation.kind env.observedState env.desiredState = true) ∧
    (env.operation.state.active = false →
      env.observedState = .failed ∨ isTarget env.desiredState env.observedState = true) := by
  rcases environmentService_phases hReach hEnv with ⟨hPhases, hStorable⟩
  exact ⟨loadLocked_eq_ok.mpr ⟨hEnv, hStorable.valid⟩, hPhases.active, hPhases.resting⟩

open Sample in
theorem stored_environment_consistent_created : ∃ s env, (environmentService id).Reachable s ∧
    s.tables.instances environmentId = some env ∧ env.observedState = .validating ∧
    loadLocked s.tables environmentId = .ok env := by
  have hFound : ∃ s, (environmentService id).Reachable s ∧ ∃ env,
      s.tables.instances environmentId = some env ∧ env.observedState = .validating :=
    Machine.exists_reachable (create :: pass 1000 ⟨1⟩ (progress .validating)) start_initial
      (by decide)
  rcases hFound with ⟨s, hReach, env, hEnv, hState⟩
  exact ⟨s, env, hReach, hEnv, hState, (stored_environment_consistent hReach hEnv).1⟩

end LabWeaver
