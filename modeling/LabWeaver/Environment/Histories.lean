import LabWeaver.Environment.WorkLease

/-
  This file follows one environment from its creation through commands, observations, retries,
  failures and timeout cleanups. It says when it can be on its way to destruction, which commands
  bring a Work environment back to running, and what precedes Ready.

  Main declarations: `destroyed_only_with_intent`, `running_needs_lease_iff`,
  `ready_only_validated`.
-/

namespace LabWeaver

open EnvironmentInstance Outcome EnvironmentOperationKind

-- The Lifecycle Of One Environment

inductive LifecycleAction where
| command (command : EnvironmentLifecycleCommand) (operationId : OperationId)
    (leaseAuthorization : Option EnvironmentLeaseAuthorization) (authorityNow : UtcTimestamp)
| observe (operationId : OperationId) (observation : AppliedProviderObservation)
| cleanup (startedAt deadlineAt : UtcTimestamp)
| retry (operationId : OperationId) (diagnosticCode : String) (nextAttemptAt : UtcTimestamp)
| fail (operationId : OperationId) (diagnosticCode : String)

def LifecycleAction.apply (env : EnvironmentInstance) :
    LifecycleAction → Except LifecycleError EnvironmentInstance
| .command accepted operationId leaseAuthorization authorityNow =>
  planCommandAuthorized env accepted operationId leaseAuthorization authorityNow
| .observe operationId observation => applyProviderObservation env operationId observation
| .cleanup startedAt deadlineAt => beginTimeoutCleanup env startedAt deadlineAt
| .retry operationId diagnosticCode nextAttemptAt =>
  applyRetry env operationId diagnosticCode nextAttemptAt
| .fail operationId diagnosticCode => applyProviderFailure env operationId diagnosticCode

/- One environment from an aggregate that `create_in_transaction` accepts. -/
def lifecycle : Machine EnvironmentInstance LifecycleAction where
  init := fun env => env.Valid ∧ freshAggregate env
  step := fun env action => (action.apply env).toOption

namespace Sample

def fresh : EnvironmentInstance :=
  createdInstance (command .create Revision.one 0) spec none spec.eligibilityExpiresAt ⟨1⟩

def ask (kind : EnvironmentOperationKind) (expectedRevision : Revision)
    (operationId : OperationId) : LifecycleAction :=
  .command { command kind expectedRevision 0 with preserveMutableDisk := true } operationId none 0

variable (operationId : OperationId)

/- The Provider reports a phase that is not the last. -/
def report (nextState : ObservedEnvironmentState) : LifecycleAction :=
  .observe operationId
    { nextState, endpoints := [], cleanupEvidence := none, operationComplete := false }

def reportReady (endpointRevision : Revision) : LifecycleAction :=
  .observe operationId
    { nextState := .ready
      endpoints :=
        [{ id := ⟨9⟩, protocol := .http, revision := endpointRevision, health := .healthy,
           observedAt := 0 }]
      cleanupEvidence := none, operationComplete := true }

theorem fresh_init : lifecycle.init fresh := ⟨(validate_eq_ok (u := ())).mp (by decide), by decide⟩

/- The environment is created and worked off until it is Ready. -/
def toReady : List LifecycleAction :=
  [report ⟨1⟩ .validating, report ⟨1⟩ .building, report ⟨1⟩ .provisioning,
    reportReady ⟨1⟩ (revision 5)]

end Sample

variable {env next : EnvironmentInstance} {action : LifecycleAction}
  {command : EnvironmentLifecycleCommand} {operationId : OperationId}
  {leaseAuthorization : Option EnvironmentLeaseAuthorization} {authorityNow : UtcTimestamp}
  {phase : Option ObservedEnvironmentState} {revision : Revision}
  {observed : ObservedEnvironmentState} {generation : Nat}

/- What holds of the environment after every step. -/
structure Tracked (env : EnvironmentInstance) : Prop where
  valid : env.Valid
  phases : PhaseInvariant env

theorem Tracked.fresh (hInit : lifecycle.init env) :
    Tracked env ∧ env.observedState = .requested ∧ env.failedPhase = none := by
  rcases hInit with ⟨hValid, hFresh⟩
  have hRequested : env.observedState = .requested := hFresh.2.2.2.1
  refine ⟨⟨hValid, .fresh hFresh⟩, hRequested, hValid.failedPhase_eq_none ?_⟩
  rw [hRequested]
  decide

/- A second Create is not accepted. -/
theorem kind_ne_create (hPhases : PhaseInvariant env)
    (hPlan : planCommandAuthorized env command operationId leaseAuthorization authorityNow =
      .ok next) : command.kind ≠ .create := by
  intro hCreate
  rcases planCommandAuthorized_eq_ok.mp hPlan with ⟨_, _, _, _, hAccepted, _⟩
  have hRequested : env.observedState = .requested := by
    simpa [hCreate, operationAllowed] using hAccepted.allowed
  have hIdle : env.operation.state.active = false := by
    rw [Bool.eq_false_iff]
    intro hActive
    have hDestructive := hAccepted.supersedes hActive
    rw [hCreate] at hDestructive
    cases hDestructive
  have hRest := hPhases.resting hIdle
  rw [hRequested] at hRest
  cases hDesired : env.desiredState <;> simp [hDesired, isTarget] at hRest

theorem Tracked.step (hTracked : Tracked env) (hStep : lifecycle.step env action = some next) :
    Tracked next := by
  have hApply := eq_ok_of_toOption hStep
  cases action with
  | command command operationId leaseAuthorization authorityNow =>
    have hKind := kind_ne_create hTracked.phases hApply
    rcases planCommandAuthorized_eq_ok.mp hApply with ⟨_, _, _, _, _, _, hValid⟩
    exact ⟨hValid, hTracked.phases.planned hKind hApply⟩
  | observe operationId observation =>
    rcases applyProviderObservation_eq_ok.mp hApply with ⟨_, _, _, _, hValid⟩
    exact ⟨hValid, hTracked.phases.observed hApply⟩
  | cleanup startedAt deadlineAt =>
    rcases beginTimeoutCleanup_eq_ok.mp hApply with ⟨_, _, _, _, _, hValid⟩
    exact ⟨hValid, .cleanup hApply⟩
  | retry operationId diagnosticCode nextAttemptAt =>
    rcases applyRetry_eq_ok.mp hApply with ⟨_, _, _, hValid⟩
    exact ⟨hValid, hTracked.phases.retried hApply⟩
  | fail operationId diagnosticCode =>
    rcases applyProviderFailure_eq_ok.mp hApply with ⟨_, _, _, hValid⟩
    exact ⟨hValid, hTracked.phases.failure hApply⟩

-- Destruction

/- The states of an environment that is taken away. -/
def ObservedEnvironmentState.destroying : ObservedEnvironmentState → Bool
| .expiring | .deleting | .deleted => true
| _ => false

variable (env)

/- A resumed Stop is not reported to be deleting. -/
def resumedStopsKept : LifecycleAction → Prop
| .observe _ observation => env.operation.kind.resumes = true → env.observedState = .stopping →
    observation.nextState ≠ .deleting
| _ => True

/- Deleting, also if it has failed, follows the intent to delete. -/
structure Intent : Prop extends Tracked env where
  deleting : env.observedState = .deleting → env.desiredState = .deleted
  failedDeleting : env.failedPhase = some .deleting → env.desiredState = .deleted

variable {env}

theorem Intent.planned (hIntent : Intent env)
    (hAccepted : CommandAccepted env command leaseAuthorization authorityNow phase revision
      .deleting generation) : desiredState env command.kind = .deleted := by
  have hTarget := hAccepted.target
  have hAllowed := hAccepted.allowed
  have hResumed : acceptedTarget env .retry = .ok .deleting → env.desiredState = .deleted := by
    intro hResume
    rcases bind_eq_ok.mp hResume with ⟨resumed, hFailed, hPhase⟩
    refine hIntent.failedDeleting ?_
    cases resumed <;> simp [retryResumeState] at hPhase
    exact require_eq_ok.mp hFailed
  cases hKind : command.kind with
  | retry | recover =>
    rw [hKind] at hTarget
    exact hResumed hTarget
  | create | start =>
    -- neither is accepted while deleting
    rw [hKind] at hTarget hAllowed
    have hState : env.observedState = .deleting := Except.ok.inj hTarget
    rw [hState] at hAllowed
    cases hAllowed
  | stop | restart | freeze | expire =>
    rw [hKind] at hTarget
    cases hTarget
  | reset =>
    rw [hKind] at hTarget
    simp only [acceptedTarget] at hTarget
    split at hTarget <;> cases hTarget
  | cancel | delete | cleanup => rfl

/- A Provider reports Deleting to an operation that deletes, or to a resumed Stop. -/
theorem Intent.reported {observation : AppliedProviderObservation} {providerStep : Nat}
    (hIntent : Intent env) (hKept : resumedStopsKept env (.observe operationId observation))
    (hApplied : ObservationApplied env operationId observation revision providerStep)
    (hDeleting : observation.nextState = .deleting) : env.desiredState = .deleted := by
  have hActive := hIntent.phases.active hApplied.active
  have hMatch := hApplied.allowed.1
  rw [hDeleting] at hMatch
  cases hState : env.observedState <;> cases hKind : env.operation.kind <;>
    simp_all [transitionMatchesOperation, activePhase, resumedStopsKept, resumes]

theorem Intent.step (hIntent : Intent env) (hKept : resumedStopsKept env action)
    (hStep : lifecycle.step env action = some next) : Intent next := by
  have hTracked := hIntent.toTracked.step hStep
  have hApply := eq_ok_of_toOption hStep
  cases action with
  | command command operationId leaseAuthorization authorityNow =>
    rcases planCommandAuthorized_eq_ok.mp hApply with ⟨_, _, observed, _, hAccepted, rfl, _⟩
    refine ⟨hTracked, ?_, ?_⟩
    · rintro ⟨⟩
      exact hIntent.planned hAccepted
    · rintro ⟨⟩
  | observe operationId observation =>
    rcases applyProviderObservation_eq_ok.mp hApply with ⟨_, _, hApplied, rfl, _⟩
    refine ⟨hTracked, hIntent.reported hKept hApplied, ?_⟩
    intro hFailed
    exact hIntent.failedDeleting hFailed
  | cleanup startedAt deadlineAt =>
    rcases beginTimeoutCleanup_eq_ok.mp hApply with ⟨_, _, _, _, rfl, _⟩
    exact ⟨hTracked, fun _ => rfl, fun _ => rfl⟩
  | retry operationId diagnosticCode nextAttemptAt =>
    rcases applyRetry_eq_ok.mp hApply with ⟨_, _, rfl, _⟩
    exact ⟨hTracked, hIntent.deleting, hIntent.failedDeleting⟩
  | fail operationId diagnosticCode =>
    rcases applyProviderFailure_eq_ok.mp hApply with ⟨_, _, rfl, _⟩
    refine ⟨hTracked, ?_, ?_⟩
    · rintro ⟨⟩
    · intro hFailed
      exact hIntent.deleting (Option.some.inj hFailed)

/- An environment is expiring, deleting or deleted only if its deletion is desired, unless a resumed
  Stop is reported to be deleting. -/
theorem destroyed_only_with_intent (hRun : lifecycle.Run resumedStopsKept env)
    (hDestroying : env.observedState.destroying = true) : env.desiredState = .deleted := by
  have hIntent : Intent env := by
    refine Machine.Run.invariant ?_ ?_ hRun
    · intro env hInit
      rcases Tracked.fresh hInit with ⟨hTracked, hRequested, hNone⟩
      refine ⟨hTracked, ?_, ?_⟩
      · intro hDeleting
        cases hRequested.symm.trans hDeleting
      · intro hFailed
        cases hNone.symm.trans hFailed
    · intro env action next hIntent hKept hStep
      exact hIntent.step hKept hStep
  cases hActive : env.operation.state.active with
  | true =>
    have hPhase := hIntent.phases.active hActive
    cases hState : env.observedState <;>
      simp_all [activePhase, ObservedEnvironmentState.destroying, hIntent.deleting]
  | false =>
    have hRest := hIntent.phases.resting hActive
    cases hState : env.observedState <;> cases hDesired : env.desiredState <;>
      simp_all [isTarget, ObservedEnvironmentState.destroying]

theorem destroyed_only_with_intent_deleted : ∃ env, lifecycle.Run resumedStopsKept env ∧
    env.observedState.destroying = true ∧ env.desiredState = .deleted := by
  have hKept : ∀ action ∈ Sample.toReady ++ [Sample.ask .delete (Sample.revision 5) ⟨2⟩],
      ∀ env, resumedStopsKept env action := by
    simp [Sample.toReady, Sample.report, Sample.reportReady, Sample.ask, resumedStopsKept]
  have hFound : ∃ env, lifecycle.Run resumedStopsKept env ∧ env.observedState.destroying = true :=
    Machine.exists_run_of_exec _ Sample.fresh_init hKept (by decide)
  rcases hFound with ⟨env, hRun, hDestroying⟩
  exact ⟨env, hRun, hDestroying, destroyed_only_with_intent hRun hDestroying⟩

/- A Stop fails, is retried, and the Provider reports Deleting. -/
theorem destroyed_without_intent : ∃ env, lifecycle.Reachable env ∧
    env.observedState = .deleting ∧ env.desiredState = .stopped := by
  exact Machine.exists_reachable (Sample.toReady ++
    [Sample.ask .stop (Sample.revision 5) ⟨2⟩, .fail ⟨2⟩ "LW_STOP_FAILED",
      Sample.ask .retry (Sample.revision 7) ⟨3⟩, Sample.report ⟨3⟩ .deleting])
    Sample.fresh_init (by decide)

-- Work Environments

/- The command brings an environment that is not running back to running. -/
def TowardsRunning (current planned : EnvironmentInstance)
    (kind : EnvironmentOperationKind) : Prop :=
  (current.observedState = .stopped ∨ current.observedState = .failed) ∧
  (planned.desiredState = .running ∧ (planned.observedState = .validating ∨
    planned.observedState = .building ∨ planned.observedState = .provisioning) ∨ kind = .start)
deriving Decidable

theorem kind_of_towardsRunning
    (hPlan : planCommandAuthorized env command operationId leaseAuthorization authorityNow =
      .ok next) (hTowards : TowardsRunning env next command.kind) :
    command.kind = .restart ∨ command.kind.needsEligibility = true := by
  rcases planCommandAuthorized_eq_ok.mp hPlan with ⟨_, _, _, _, hAccepted, rfl, _⟩
  have hAllowed := hAccepted.allowed
  rcases hTowards with ⟨hState, hRuns⟩
  cases hKind : command.kind <;>
    simp_all [plannedInstance, desiredState, operationAllowed, needsEligibility]

/- A command that brings a Work environment back to running has a live lease and eligibility exactly
  if it is not a Restart. -/
theorem running_needs_lease_iff (hWork : env.environmentClass = .work)
    (hPlan : planCommandAuthorized env command operationId leaseAuthorization authorityNow =
      .ok next) (hTowards : TowardsRunning env next command.kind) :
    ((∃ authorization, leaseAuthorization = some authorization ∧
      leaseMatches env authorization authorityNow) ∧ authorityNow < env.eligibilityExpiresAt) ↔
      command.kind ≠ .restart := by
  rcases planCommandAuthorized_eq_ok.mp hPlan with ⟨_, _, _, _, hAccepted, _⟩
  have hLease := hAccepted.lease
  constructor
  · rintro ⟨⟨authorization, hSome, _⟩, _⟩ hRestart
    simp [leaseAuthorized, hRestart, needsEligibility, hSome] at hLease
  · intro hOther
    have hNeeds := (kind_of_towardsRunning hPlan hTowards).resolve_left hOther
    rw [leaseAuthorized, if_pos ⟨hWork, hNeeds⟩] at hLease
    exact ⟨hLease, hAccepted.eligible hNeeds⟩

namespace Sample

def failedWork : EnvironmentInstance :=
  (lifecycle.exec (createdInstance (Sample.command .create Revision.one 0) workSpec
    (some Sample.leaseAuthorization) spec.eligibilityExpiresAt ⟨1⟩)
    [report ⟨1⟩ .validating, .fail ⟨1⟩ "LW_BUILD_FAILED"]).getD fresh

def planWork (kind : EnvironmentOperationKind) (lease : Option EnvironmentLeaseAuthorization)
    (now : UtcTimestamp) : Except LifecycleError EnvironmentInstance :=
  planCommandAuthorized failedWork
    { Sample.command kind (Sample.revision 3) now with preserveMutableDisk := true } ⟨2⟩ lease now

end Sample

theorem running_needs_lease_retried : ∃ planned,
    Sample.planWork .retry (some Sample.leaseAuthorization) 0 = .ok planned ∧
      leaseMatches Sample.failedWork Sample.leaseAuthorization 0 ∧
      0 < Sample.failedWork.eligibilityExpiresAt := by
  have hFound : ∃ planned, Sample.planWork .retry (some Sample.leaseAuthorization) 0 =
      .ok planned ∧ TowardsRunning Sample.failedWork planned .retry := by
    decide
  rcases hFound with ⟨planned, hPlan, hTowards⟩
  rcases (running_needs_lease_iff (by decide) hPlan hTowards).mpr
    (by decide) with ⟨⟨_, ⟨⟩, hMatches⟩, hEligible⟩
  exact ⟨planned, hPlan, hMatches, hEligible⟩

/- A failed Work environment is restarted without a lease, after its eligibility has expired. -/
theorem running_without_lease : Sample.failedWork.environmentClass = .work ∧
    Sample.failedWork.eligibilityExpiresAt ≤ 2000000 ∧ ∃ planned,
      Sample.planWork .restart none 2000000 = .ok planned ∧
      TowardsRunning Sample.failedWork planned .restart := by
  exact ⟨by decide, by decide, by decide⟩

-- The Way To Ready

abbrev Transition : Type := ObservedEnvironmentState × ObservedEnvironmentState

variable (env)

def LifecycleAction.transition (action : LifecycleAction) : List Transition :=
  match lifecycle.step env action with
  | none => []
  | some next => [(env.observedState, next.observedState)]

/- The lifecycle with the transitions that the environment has made. -/
def tracedLifecycle : Machine (EnvironmentInstance × List Transition) LifecycleAction :=
  lifecycle.logged LifecycleAction.transition

variable (made : List Transition)

/- The environment was validated, built and sent to its Provider. -/
def Passed : Prop :=
  (.validating, .building) ∈ made ∧ (.building, .provisioning) ∈ made

/- A failed environment is restarted only if it has been built before. -/
def restartsPassed (state : EnvironmentInstance × List Transition) : LifecycleAction → Prop
| .command command _ _ _ => command.kind = .restart → state.1.observedState = .failed →
    Passed state.2
| _ => True

/- What an environment must have made to be in a phase. -/
def MadeFor : ObservedEnvironmentState → Prop
| .requested | .validating | .failed => True
| .building => (.validating, .building) ∈ made
| _ => Passed made

/- The phase of an environment, or the one it has failed in. -/
def phaseOf : ObservedEnvironmentState :=
  env.failedPhase.getD env.observedState

variable {env}

variable {made : List Transition} {state state' : EnvironmentInstance × List Transition}

theorem MadeFor.append {phase : ObservedEnvironmentState} (hMade : MadeFor made phase)
    (more : List Transition) : MadeFor (made ++ more) phase := by
  cases phase <;> simp_all [MadeFor, Passed]

theorem phaseOf_eq_observedState (hValid : env.Valid) (hState : env.observedState ≠ .failed) :
    phaseOf env = env.observedState := by
  rw [phaseOf, hValid.failedPhase_eq_none hState]
  rfl

/- A Provider skips no phase before Provisioning. -/
theorem madeFor_observed {kind : EnvironmentOperationKind} {next : ObservedEnvironmentState}
    (hMade : MadeFor made observed)
    (hMatch : transitionMatchesOperation kind observed next = true) :
    MadeFor (made ++ [(observed, next)]) next := by
  unfold transitionMatchesOperation at hMatch
  -- one goal for each line of the table
  split at hMatch <;>
    first
    | simp_all [MadeFor, Passed]; done
    | cases next <;> simp_all [MadeFor, Passed]

/- Of the commands, only a Restart of a failed environment skips phases. -/
theorem madeFor_accepted (hMade : MadeFor made (phaseOf env))
    (hRestart : command.kind = .restart → env.observedState = .failed → Passed made)
    (hKeeps : desiredState env command.kind ≠ .deleted)
    (hAccepted : CommandAccepted env command leaseAuthorization authorityNow phase revision
      observed generation) : MadeFor made observed := by
  have hTarget := hAccepted.target
  have hAllowed := hAccepted.allowed
  have hPhase := phaseOf_eq_observedState hAccepted.valid
  have hResumed : acceptedTarget env .retry = .ok observed → MadeFor made observed := by
    intro hResume
    rcases bind_eq_ok.mp hResume with ⟨resumed, hFailed, hResumes⟩
    rw [phaseOf, require_eq_ok.mp hFailed, Option.getD_some] at hMade
    cases resumed <;> cases hResumes <;> exact hMade
  cases hKind : command.kind with
  | retry | recover =>
    rw [hKind] at hTarget
    exact hResumed hTarget
  | cancel | expire | delete | cleanup =>
    rw [hKind] at hKeeps
    exact absurd rfl hKeeps
  | create | start | stop | freeze | restart | reset =>
    rw [hKind] at hTarget hAllowed hRestart
    cases hState : env.observedState <;>
      simp_all [operationAllowed, acceptedTarget, MadeFor] <;>
      subst hTarget <;> simp_all

variable (state)

/- What holds of a traced environment after every step. -/
structure Traced : Prop where
  tracked : Tracked state.1
  made : state.1.desiredState ≠ .deleted → MadeFor state.2 (phaseOf state.1)

variable {state}

theorem Traced.step (hTraced : Traced state) (hKept : restartsPassed state action)
    (hStep : tracedLifecycle.step state action = some state') : Traced state' := by
  rcases Machine.logged_step_eq_some.mp hStep with ⟨hNext, hLog⟩
  have hTracked := hTraced.tracked.step hNext
  have hApply := eq_ok_of_toOption hNext
  refine ⟨hTracked, ?_⟩
  intro hKeeps
  have hNew : state'.2 = state.2 ++ [(state.1.observedState, state'.1.observedState)] := by
    rw [hLog, LifecycleAction.transition, hNext]
  rw [hNew]
  cases action with
  | command command operationId leaseAuthorization authorityNow =>
    rcases planCommandAuthorized_eq_ok.mp hApply with ⟨_, _, observed, _, hAccepted, hEq, _⟩
    rw [hEq] at hKeeps ⊢
    have hMade : MadeFor state.2 (phaseOf state.1) := by
      refine hTraced.made (fun hDeleted => hKeeps ?_)
      change desiredState state.1 command.kind = .deleted
      have hAllowed := hAccepted.notResurrected hDeleted
      cases hKind : command.kind <;> simp_all [allowedWhenDeleted, desiredState]
    exact (madeFor_accepted hMade hKept hKeeps hAccepted).append _
  | observe operationId observation =>
    rcases applyProviderObservation_eq_ok.mp hApply with ⟨_, _, hApplied, hEq, _⟩
    have hMatch := hApplied.allowed.1
    rcases ne_failed_of_transitionMatches hMatch with ⟨hBefore, hAfter⟩
    have hObserved : state'.1.observedState = observation.nextState := by rw [hEq]; rfl
    rw [phaseOf_eq_observedState hTracked.valid (hObserved ▸ hAfter), hObserved]
    refine madeFor_observed ?_ hMatch
    rw [← phaseOf_eq_observedState hTraced.tracked.valid hBefore]
    refine hTraced.made ?_
    rwa [hEq] at hKeeps
  | cleanup startedAt deadlineAt =>
    rcases beginTimeoutCleanup_eq_ok.mp hApply with ⟨_, _, _, _, hEq, _⟩
    rw [hEq] at hKeeps
    exact absurd rfl hKeeps
  | retry operationId diagnosticCode nextAttemptAt =>
    rcases applyRetry_eq_ok.mp hApply with ⟨_, _, hEq, _⟩
    rw [hEq] at hKeeps ⊢
    exact (hTraced.made hKeeps).append _
  | fail operationId diagnosticCode =>
    rcases applyProviderFailure_eq_ok.mp hApply with ⟨_, _, hEq, _⟩
    rw [hEq] at hKeeps ⊢
    refine MadeFor.append ?_ _
    change MadeFor state.2 state.1.observedState
    by_cases hFailed : state.1.observedState = .failed
    · rw [hFailed]
      trivial
    · rw [← phaseOf_eq_observedState hTraced.tracked.valid hFailed]
      exact hTraced.made hKeeps

/- A Ready environment has been validated, built and provisioned, in every run in which a failed one
  is restarted only after that. -/
theorem ready_only_validated (hRun : tracedLifecycle.Run restartsPassed state)
    (hReady : state.1.observedState = .ready) : Passed state.2 := by
  have hTraced : Traced state := by
    refine Machine.Run.invariant ?_ ?_ hRun
    · rintro ⟨env, made⟩ ⟨hInit, _⟩
      rcases Tracked.fresh hInit with ⟨hTracked, hRequested, hNone⟩
      refine ⟨hTracked, ?_⟩
      intro _
      rw [phaseOf, hNone, hRequested]
      trivial
    · intro state action state' hTraced hKept hStep
      exact hTraced.step hKept hStep
  have hPhases := hTraced.tracked.phases
  have hRunning : state.1.desiredState ≠ .deleted := by
    intro hDeleted
    cases hActive : state.1.operation.state.active with
    | true =>
      have hPhase := hPhases.active hActive
      rw [hReady] at hPhase
      cases hPhase
    | false =>
      have hRest := hPhases.resting hActive
      rw [hReady, hDeleted] at hRest
      simp [isTarget] at hRest
  have hMade := hTraced.made hRunning
  rwa [phaseOf_eq_observedState hTraced.tracked.valid (by rw [hReady]; decide), hReady] at hMade

theorem Sample.traced_init : tracedLifecycle.init (Sample.fresh, []) := ⟨Sample.fresh_init, rfl⟩

theorem ready_only_validated_created : ∃ state, tracedLifecycle.Run restartsPassed state ∧
    state.1.observedState = .ready ∧ Passed state.2 := by
  have hKept : ∀ action ∈ Sample.toReady, ∀ state, restartsPassed state action := by
    simp [Sample.toReady, Sample.report, Sample.reportReady, restartsPassed]
  have hFound : ∃ state, tracedLifecycle.Run restartsPassed state ∧
      state.1.observedState = .ready :=
    Machine.exists_run_of_exec _ Sample.traced_init hKept (by decide)
  rcases hFound with ⟨state, hRun, hReady⟩
  exact ⟨state, hRun, hReady, ready_only_validated hRun hReady⟩

/- A creation fails in Validating, and the environment is restarted. -/
theorem ready_without_validation : ∃ state, tracedLifecycle.Reachable state ∧
    state.1.observedState = .ready ∧ ¬Passed state.2 := by
  have hFound : ∃ state, tracedLifecycle.Reachable state ∧ state.1.observedState = .ready ∧
      (.validating, .building) ∉ state.2 :=
    Machine.exists_reachable [Sample.report ⟨1⟩ .validating, .fail ⟨1⟩ "LW_BUILD_FAILED",
      Sample.ask .restart (Sample.revision 3) ⟨2⟩, Sample.reportReady ⟨2⟩ (Sample.revision 5)]
      Sample.traced_init (by decide)
  rcases hFound with ⟨state, hRun, hReady, hSkipped⟩
  exact ⟨state, hRun, hReady, fun hPassed => hSkipped hPassed.1⟩

end LabWeaver
