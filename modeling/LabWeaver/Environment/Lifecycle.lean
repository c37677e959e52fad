import LabWeaver.Contracts.Environment

/-
  This file models the lifecycle functions: accepting a command, applying an observation, moving
  an expired operation into cleanup, scheduling a retry and recording a failure. Each comes with
  one inversion lemma that says what a successful call has checked and returns.
-/

namespace LabWeaver

open Outcome
open EnvironmentInstance

inductive LifecycleError where
| revisionConflict
| revisionOverflow
| generationOverflow
| providerStepOverflow
| commandInvalid
| operationActive
| operationMismatch
| retryExhausted
| retryTimeInvalid
| diagnosticInvalid
| providerObservationInvalid
| eligibilityExpired
| contract (error : EnvironmentError)
deriving DecidableEq

/- Sanitized result returned by a Provider. -/
structure AppliedProviderObservation where
  nextState : ObservedEnvironmentState
  endpoints : List EnvironmentEndpoint
  cleanupEvidence : Option ArtifactRef
  operationComplete : Bool

/- The `?` on a contract check of a lifecycle function. -/
def liftContract {α : Type} (x : Except EnvironmentError α) : Except LifecycleError α :=
  x.mapError .contract

@[simp] theorem liftContract_eq_ok {α : Type} {x : Except EnvironmentError α} {a : α} :
    liftContract x = .ok a ↔ x = .ok a :=
  mapError_eq_ok

-- Command Tables

def incrementsGeneration (kind : EnvironmentOperationKind) : Bool := kind != .freeze

def invalidatesEndpoints : EnvironmentOperationKind → Bool
| .stop | .restart | .reset | .cancel | .expire
| .delete | .cleanup | .freeze => true
| _ => false

variable (current : EnvironmentInstance)

def desiredState : EnvironmentOperationKind → DesiredEnvironmentState
| .start | .restart => .running
| .stop => .stopped
| .cancel | .expire | .delete | .cleanup => .deleted
| .reset | .retry | .recover | .create | .freeze => current.desiredState

def retryResumeState : ObservedEnvironmentState → Except LifecycleError ObservedEnvironmentState
| .requested | .validating => .ok .validating
| .building => .ok .building
| .provisioning | .ready | .stopped => .ok .provisioning
| .stopping => .ok .stopping
| .updating => .ok .updating
| .expiring => .ok .expiring
| .deleting => .ok .deleting
| .deleted | .failed => .error .commandInvalid

variable (kind : EnvironmentOperationKind)

/- The state a command moves to, before the transition check. -/
def acceptedTarget : Except LifecycleError ObservedEnvironmentState :=
  match kind with
  | .stop => .ok .stopping
  | .reset => if current.observedState = .failed then .ok .validating else .ok .provisioning
  | .restart => .ok .provisioning
  | .retry | .recover => do
      let phase ← require current.failedPhase .commandInvalid
      retryResumeState phase
  | .cancel | .delete => .ok .deleting
  | .expire => .ok .expiring
  | .cleanup => .ok .deleting
  | .freeze => .ok .updating
  | .create | .start => .ok current.observedState

variable (origin target : ObservedEnvironmentState)

/- A transition check that staying in place passes. -/
def ensureMove : Except LifecycleError Unit :=
  if target = origin then .ok () else liftContract (ensureTransition origin target)

/- The transitions that `ensureMove` accepts. -/
def moveAllowed : Prop :=
  target = origin ∨ transitionAllowed origin target = true

@[simp] theorem ensureMove_eq_ok {origin target : ObservedEnvironmentState} {u : Unit} :
    ensureMove origin target = .ok u ↔ moveAllowed origin target := by
  unfold ensureMove moveAllowed
  by_cases hEq : target = origin
  · simp [hEq]
  · simp [hEq, ensureTransition]

def acceptedObservedState : Except LifecycleError ObservedEnvironmentState := do
  let next ← acceptedTarget current kind
  ensureMove current.observedState next
  return next

variable {current : EnvironmentInstance} {kind : EnvironmentOperationKind}
  {next : ObservedEnvironmentState}

theorem acceptedObservedState_eq_ok :
    acceptedObservedState current kind = .ok next ↔ acceptedTarget current kind = .ok next ∧
      moveAllowed current.observedState next := by
  simp only [acceptedObservedState, bind_eq_ok, ensureMove_eq_ok]
  constructor
  · rintro ⟨target, hTarget, u, hMove, ⟨⟩⟩
    exact ⟨hTarget, hMove⟩
  · rintro ⟨hTarget, hMove⟩
    exact ⟨next, hTarget, (), hMove, rfl⟩

-- Lease Authorization

variable (current)

/- The authorization is for the aggregate's lease, scope and capacity, and is active at `now`. -/
def leaseMatches (authorization : EnvironmentLeaseAuthorization) (now : UtcTimestamp) : Prop :=
  some authorization.leaseId = current.leaseId ∧ authorization.environmentId = current.id ∧
  authorization.courseId = current.courseId ∧ authorization.ownerActorId = current.ownerId ∧
  some authorization.capacityBinding = current.capacityBinding ∧ authorization.activeFrom ≤ now ∧
  now < authorization.expiresAt
deriving Decidable

variable (authorization : Option EnvironmentLeaseAuthorization) (now : UtcTimestamp)

def validateLeaseAuthorization : Except LifecycleError Unit := do
  let authorization ← require authorization (.contract .leaseAuthorizationRequired)
  ensure (leaseMatches current authorization now) (.contract .leaseAuthorizationInvalid)

variable (kind)

/- A Work environment needs its authorization for the commands that create runtime state, and no
  other command may carry one. -/
def ensureLeaseAuthorization : Except LifecycleError Unit :=
  if current.environmentClass = .work ∧ kind.needsEligibility = true then
    validateLeaseAuthorization current authorization now
  else ensure (authorization = none) .commandInvalid

def leaseAuthorized : Prop :=
  if current.environmentClass = .work ∧ kind.needsEligibility = true then
    ∃ value, authorization = some value ∧ leaseMatches current value now
  else authorization = none

variable {kind}

variable {current}

theorem ensureLeaseAuthorization_eq_ok {authorization : Option EnvironmentLeaseAuthorization}
    {now : UtcTimestamp} {u : Unit} :
    ensureLeaseAuthorization current kind authorization now = .ok u ↔
      leaseAuthorized current kind authorization now := by
  unfold ensureLeaseAuthorization leaseAuthorized
  split
  · simp only [validateLeaseAuthorization, steps_eq_ok]
  · exact ensure_eq_ok

-- Accepting A Command

variable (command : EnvironmentLifecycleCommand)

/- The checks on the command alone. -/
def commandWellFormed : Prop :=
  1 ≤ command.maxAttempts ∧ command.maxAttempts ≤ 100 ∧ command.acceptedAt < command.deadlineAt ∧
  validToken command.traceId = true ∧ (command.kind = .reset ↔ command.resetTarget ≠ none)
deriving Decidable

/- The commands accepted once deletion is desired. -/
def allowedWhenDeleted : EnvironmentOperationKind → Bool
| .delete | .cleanup | .retry | .recover => true
| _ => false

/- The commands that leave the endpoints reachable. -/
def keepsAccess : EnvironmentOperationKind → Bool
| .create | .start => true
| _ => false

variable (current) (kind)

/- The phase recorded by a retry or a recover. -/
def resumePhase : Except LifecycleError (Option ObservedEnvironmentState) :=
  if kind.resumes then do
    let phase ← require current.failedPhase .commandInvalid
    return some phase
  else return none

def nextGeneration : Except LifecycleError Nat :=
  if incrementsGeneration kind then
    require (checkedAdd maxU64 current.generation 1) .generationOverflow
  else return current.generation

/- The endpoints once the command is accepted. -/
def plannedEndpoints : List EnvironmentEndpoint :=
  if invalidatesEndpoints kind then
    current.endpoints.map (fun endpoint =>
      { endpoint with health := if kind.destructive then .removed else .unhealthy })
  else current.endpoints

variable {kind} (operationId : OperationId)

def plannedOperation (revision : Revision) (retryFromPhase : Option ObservedEnvironmentState)
    (leaseAuthorization : Option EnvironmentLeaseAuthorization) : EnvironmentOperation where
  id := operationId
  kind := command.kind
  state := if command.kind = .cancel then .cancelling else .accepted
  acceptedRevision := revision
  attempt := 1
  providerStep := 1
  maxAttempts := command.maxAttempts
  nextAttemptAt := command.acceptedAt
  actorId := command.actorId
  traceId := command.traceId
  acceptedAt := command.acceptedAt
  deadlineAt := command.deadlineAt
  cleanupStartedAt := none
  diagnosticCode := none
  preserveMutableDisk := command.preserveMutableDisk
  accessRevocationRevision := command.accessRevocationRevision
  retryFromPhase := retryFromPhase
  resetTarget := command.resetTarget
  leaseAuthorization := leaseAuthorization

variable (leaseAuthorization : Option EnvironmentLeaseAuthorization)

/- The aggregate an accepted command stores. -/
def plannedInstance (retryFromPhase : Option ObservedEnvironmentState) (revision : Revision)
    (observed : ObservedEnvironmentState) (generation : Nat) : EnvironmentInstance :=
  { current with
    revision, desiredState := desiredState current command.kind,
    observedState := observed, generation,
    endpoints := plannedEndpoints current command.kind, lastDiagnosticCode := none,
    failedPhase := none,
    operation := plannedOperation command operationId revision retryFromPhase leaseAuthorization }

variable (authorityNow : UtcTimestamp)

/- `plan_command_authorized`: accept a command with a lease snapshot and the database clock,
  without any Provider call. -/
def planCommandAuthorized : Except LifecycleError EnvironmentInstance := do
  liftContract current.validate
  ensure (current.id = command.environmentId ∧ current.revision = command.expectedRevision)
    .revisionConflict
  ensure (commandWellFormed command) .commandInvalid
  ensure (command.kind.needsEligibility = true → authorityNow < current.eligibilityExpiresAt)
    .eligibilityExpired
  ensure (current.operation.state.active = true → command.kind.destructive = true) .operationActive
  ensure (current.desiredState = .deleted → allowedWhenDeleted command.kind = true) .commandInvalid
  liftContract (ensureOperationAllowed current.observedState command.kind)
  ensure (current.endpoints ≠ [] → keepsAccess command.kind = false →
    command.accessRevocationRevision ≠ none)
    (.contract .grantRevocationRequired)
  let retryFromPhase ← resumePhase current command.kind
  ensureLeaseAuthorization current command.kind leaseAuthorization authorityNow
  let revision ← require current.revision.next .revisionOverflow
  let observed ← acceptedObservedState current command.kind
  let generation ← nextGeneration current command.kind
  let planned := plannedInstance current command operationId
    leaseAuthorization retryFromPhase revision observed
    generation
  liftContract planned.validate
  return planned

structure CommandAccepted (retryFromPhase : Option ObservedEnvironmentState) (revision : Revision)
    (observed : ObservedEnvironmentState) (generation : Nat) : Prop where
  valid : current.Valid
  environmentId : current.id = command.environmentId
  expectedRevision : current.revision = command.expectedRevision
  wellFormed : commandWellFormed command
  eligible : command.kind.needsEligibility = true → authorityNow < current.eligibilityExpiresAt
  supersedes : current.operation.state.active = true → command.kind.destructive = true
  notResurrected : current.desiredState = .deleted → allowedWhenDeleted command.kind = true
  allowed : operationAllowed current.observedState command.kind = true
  revoked : current.endpoints ≠ [] → keepsAccess command.kind = false →
    command.accessRevocationRevision ≠ none
  phase : resumePhase current command.kind = .ok retryFromPhase
  lease : leaseAuthorized current command.kind leaseAuthorization authorityNow
  nextRevision : revision.get = current.revision.get + 1
  target : acceptedTarget current command.kind = .ok observed
  move : moveAllowed current.observedState observed
  generation : nextGeneration current command.kind = .ok generation

variable {current}

variable {operationId : OperationId}

theorem planCommandAuthorized_eq_ok {planned : EnvironmentInstance}
    {command : EnvironmentLifecycleCommand}
    {leaseAuthorization : Option EnvironmentLeaseAuthorization} {authorityNow : UtcTimestamp} :
    planCommandAuthorized current command operationId
      leaseAuthorization authorityNow = .ok planned ↔ ∃ retryFromPhase revision observed generation,
        CommandAccepted current command leaseAuthorization
          authorityNow retryFromPhase revision observed generation ∧
        planned = plannedInstance current command operationId
          leaseAuthorization retryFromPhase revision observed generation ∧ planned.Valid := by
  simp only [planCommandAuthorized, steps_eq_ok, liftContract_eq_ok, validate_eq_ok,
    ensureOperationAllowed, ensureLeaseAuthorization_eq_ok, acceptedObservedState_eq_ok,
    Revision.next_eq_some]
  constructor
  · rintro ⟨hValid, hScope, hWell, hEligible, hActive,
      hDeleted, hAllowed, hRevoked, phase, hPhase, hLease,
      revision, hRevision, observed, ⟨hTarget, hMove⟩, generation, hGeneration, hPlanned, ⟨⟩⟩
    exact ⟨phase, revision, observed, generation, ⟨hValid, hScope.1, hScope.2, hWell, hEligible,
      hActive, hDeleted, hAllowed, hRevoked, hPhase,
      hLease, hRevision, hTarget, hMove, hGeneration⟩,
      rfl, hPlanned⟩
  · rintro ⟨phase, revision, observed, generation, hAccepted, hEq, hPlanned⟩
    subst hEq
    exact ⟨hAccepted.valid, ⟨hAccepted.environmentId, hAccepted.expectedRevision⟩,
      hAccepted.wellFormed, hAccepted.eligible, hAccepted.supersedes, hAccepted.notResurrected,
      hAccepted.allowed, hAccepted.revoked, phase, hAccepted.phase, hAccepted.lease, revision,
      hAccepted.nextRevision, observed, ⟨hAccepted.target, hAccepted.move⟩, generation,
      hAccepted.generation, hPlanned, rfl⟩

variable (current) (operationId)

def ensureCurrentOperation : Except LifecycleError Unit :=
  ensure (current.operation.id = operationId ∧ current.operation.state.active = true)
    .operationMismatch

def validateDiagnosticCode (code : String) : Except LifecycleError Unit :=
  ensure (DiagnosticCode.parses code = true) .diagnosticInvalid

def markEndpoints (health : EndpointHealth) (endpoints : List EnvironmentEndpoint) :
    List EnvironmentEndpoint :=
  endpoints.map (fun endpoint => { endpoint with health })

-- Provider Observations

/- The observations each operation may report. -/
def transitionMatchesOperation (kind : EnvironmentOperationKind)
    (observed next : ObservedEnvironmentState) : Bool :=
  match kind, observed, next with
  | .create, .requested, .validating
  | .retry, .requested, .validating
  | .recover, .requested, .validating => true
  | .create, .validating, .building
  | .retry, .validating, .building
  | .recover, .validating, .building
  | .reset, .validating, .building => true
  | .create, .building, .provisioning
  | .retry, .building, .provisioning
  | .recover, .building, .provisioning
  | .reset, .building, .provisioning => true
  | .create, .provisioning, next
  | .retry, .provisioning, next
  | .recover, .provisioning, next
  | .start, .provisioning, next
  | .restart, .provisioning, next
  | .reset, .provisioning, next =>
    next == .provisioning || next == .ready ||
      next == .stopped
  | .start, .stopped, .provisioning
  | .start, .stopped, .ready => true
  | .stop, .stopping, .stopped => true
  | .freeze, .updating, .ready
  | .retry, .updating, .ready
  | .recover, .updating, .ready => true
  | .expire, .expiring, .stopped
  | .expire, .expiring, .deleting => true
  | .expire, .stopped, .deleting => true
  | .retry, .stopping, .stopped
  | .retry, .stopping, .deleting
  | .recover, .stopping, .stopped
  | .recover, .stopping, .deleting => true
  | .retry, .expiring, .stopped
  | .retry, .expiring, .deleting
  | .recover, .expiring, .stopped
  | .recover, .expiring, .deleting => true
  | _, .deleting, .deleted => true
  | _, _, _ => false

/- A Provider does not report `Failed`, and nothing to a failed environment. -/
theorem ne_failed_of_transitionMatches {observed : ObservedEnvironmentState}
    (hMatch : transitionMatchesOperation kind observed next = true) :
    observed ≠ .failed ∧ next ≠ .failed := by
  constructor
  · rintro rfl
    cases kind <;> cases next <;> cases hMatch
  · rintro rfl
    cases kind <;> cases observed <;> cases hMatch

def isTarget (desired : DesiredEnvironmentState) (next : ObservedEnvironmentState) : Bool :=
  match desired with
  | .running => next == .ready
  | .stopped => next == .stopped
  | .deleted => next == .deleted

/- The observed states in which an environment may rest. -/
def isSteadyState : ObservedEnvironmentState → Bool
| .ready | .stopped | .deleted => true
| _ => false

variable (observation : AppliedProviderObservation)

/- The workload of an expiring environment is stopped. -/
def isExpireCleanupCheckpoint : Bool :=
  current.operation.kind == .expire && current.observedState == .expiring &&
    observation.nextState == .stopped &&
    !observation.operationComplete

def observationAllowed : Prop :=
  transitionMatchesOperation current.operation.kind
    current.observedState observation.nextState = true ∧
  (isSteadyState observation.nextState = true → isTarget current.desiredState
    observation.nextState = true ∨ isExpireCleanupCheckpoint current observation = true) ∧
  observation.operationComplete = isTarget current.desiredState observation.nextState
deriving Decidable

def validateProviderObservation : Except LifecycleError Unit :=
  ensure (observationAllowed current observation) .providerObservationInvalid

/- A timeout cleanup that completes keeps the failure that started it. -/
def preservingCleanupFailure : Bool :=
  observation.operationComplete && observation.nextState == .deleted &&
    current.operation.cleanupStartedAt.isSome &&
    current.operation.diagnosticCode.isSome

def observedOperationState : OperationState :=
  if preservingCleanupFailure current observation then .failed
  else if observation.operationComplete && current.operation.kind == .cancel then .cancelled
  else if observation.operationComplete then .succeeded
  else .running

def observedProviderStep : Except LifecycleError Nat :=
  if observation.operationComplete then return current.operation.providerStep
  else require (checkedAdd maxU32 current.operation.providerStep 1) .providerStepOverflow

variable (revision : Revision) (providerStep : Nat)

/- The aggregate that an observation stores. -/
def observedInstance : EnvironmentInstance :=
  { current with
    revision, observedState := observation.nextState, endpoints := observation.endpoints
    cleanupEvidence := observation.cleanupEvidence
    lastDiagnosticCode :=
      if preservingCleanupFailure current observation then current.lastDiagnosticCode else none
    observedGeneration :=
      if observation.operationComplete then current.generation else current.observedGeneration
    operation :=
      { current.operation with
        state := observedOperationState current observation, providerStep
        diagnosticCode :=
          if preservingCleanupFailure current observation
          then current.operation.diagnosticCode
          else none } }

def applyProviderObservation : Except LifecycleError EnvironmentInstance := do
  liftContract current.validate
  ensureCurrentOperation current operationId
  validateProviderObservation current observation
  ensureMove current.observedState observation.nextState
  let revision ← require current.revision.next .revisionOverflow
  let providerStep ← observedProviderStep current observation
  let updated := observedInstance current observation revision providerStep
  updated.validate.mapError (fun _ => .providerObservationInvalid)
  return updated

structure ObservationApplied : Prop where
  valid : current.Valid
  operationId : current.operation.id = operationId
  active : current.operation.state.active = true
  allowed : observationAllowed current observation
  move : moveAllowed current.observedState observation.nextState
  nextRevision : revision.get = current.revision.get + 1
  providerStep : observedProviderStep current observation = .ok providerStep

variable {operationId}

variable {current}

variable {updated : EnvironmentInstance}

theorem applyProviderObservation_eq_ok {observation : AppliedProviderObservation} :
    applyProviderObservation current operationId observation = .ok updated ↔
      ∃ revision providerStep, ObservationApplied current operationId observation
        revision providerStep ∧
        updated = observedInstance current observation revision providerStep ∧ updated.Valid := by
  simp only [applyProviderObservation, steps_eq_ok, liftContract_eq_ok, validate_eq_ok,
    ensureCurrentOperation, validateProviderObservation, ensureMove_eq_ok, Revision.next_eq_some]
  constructor
  · rintro ⟨hValid, hCurrent, hAllowed, hMove, revision,
      hRevision, providerStep, hStep, hUpdated, ⟨⟩⟩
    exact ⟨revision, providerStep, ⟨hValid, hCurrent.1, hCurrent.2, hAllowed, hMove,
      hRevision, hStep⟩,
      rfl, hUpdated⟩
  · rintro ⟨revision, providerStep, hApplied, hEq, hUpdated⟩
    subst hEq
    exact ⟨hApplied.valid, ⟨hApplied.operationId, hApplied.active⟩,
      hApplied.allowed, hApplied.move, revision, hApplied.nextRevision, providerStep,
      hApplied.providerStep, hUpdated, rfl⟩

-- Timeout Cleanup

variable (current)

def cleanupGeneration : Except LifecycleError Nat :=
  if current.desiredState = .deleted then return current.generation
  else require (checkedAdd maxU64 current.generation 1) .generationOverflow

variable (cleanupStartedAt cleanupDeadlineAt : UtcTimestamp)

def cleanupInstance (revision : Revision) (generation providerStep : Nat) : EnvironmentInstance :=
  { current with
    revision, generation, desiredState := .deleted
    observedState := .deleting, endpoints := markEndpoints .removed current.endpoints
    lastDiagnosticCode := some "LW_ENVIRONMENT_PROVIDER_TIMEOUT"
    operation :=
      { current.operation with
        state := .cancelling, attempt := 1, providerStep,
        nextAttemptAt := cleanupStartedAt, deadlineAt := cleanupDeadlineAt,
        cleanupStartedAt := some cleanupStartedAt,
        diagnosticCode := some "LW_ENVIRONMENT_PROVIDER_TIMEOUT" } }

def beginTimeoutCleanup : Except LifecycleError EnvironmentInstance := do
  ensureCurrentOperation current current.operation.id
  ensure (current.operation.acceptedAt ≤ cleanupStartedAt ∧ cleanupStartedAt < cleanupDeadlineAt)
    .retryTimeInvalid
  ensure (current.endpoints ≠ [] → current.operation.accessRevocationRevision ≠ none)
    (.contract .grantRevocationRequired)
  ensureMove current.observedState .deleting
  let revision ← require current.revision.next .revisionOverflow
  let generation ← cleanupGeneration current
  let providerStep ← require (checkedAdd maxU32 current.operation.providerStep 1)
      .providerStepOverflow
  let updated := cleanupInstance current cleanupStartedAt
    cleanupDeadlineAt revision generation providerStep
  liftContract updated.validate
  return updated

/- Everything a timeout cleanup has checked. -/
structure CleanupBegun (revision : Revision) (generation providerStep : Nat) : Prop where
  active : current.operation.state.active = true
  started : current.operation.acceptedAt ≤ cleanupStartedAt
  deadline : cleanupStartedAt < cleanupDeadlineAt
  revoked : current.endpoints ≠ [] → current.operation.accessRevocationRevision ≠ none
  move : moveAllowed current.observedState .deleting
  nextRevision : revision.get = current.revision.get + 1
  generation : cleanupGeneration current = .ok generation
  stepBound : current.operation.providerStep + 1 ≤ maxU32
  step : providerStep = current.operation.providerStep + 1

variable {current}

theorem beginTimeoutCleanup_eq_ok {cleanupStartedAt cleanupDeadlineAt : UtcTimestamp} :
    beginTimeoutCleanup current cleanupStartedAt cleanupDeadlineAt = .ok updated ↔
      ∃ revision generation providerStep, CleanupBegun current cleanupStartedAt
        cleanupDeadlineAt revision generation providerStep ∧
        updated = cleanupInstance current cleanupStartedAt cleanupDeadlineAt revision generation
          providerStep ∧ updated.Valid := by
  simp only [beginTimeoutCleanup, steps_eq_ok, liftContract_eq_ok, validate_eq_ok,
    ensureCurrentOperation, ensureMove_eq_ok, Revision.next_eq_some, checkedAdd_eq_some, true_and]
  constructor
  · rintro ⟨hActive, hTimes, hRevoked, hMove, revision,
      hRevision, generation, hGeneration, providerStep, ⟨hBound, hStep⟩, hUpdated, ⟨⟩⟩
    exact ⟨revision, generation, providerStep, ⟨hActive, hTimes.1, hTimes.2, hRevoked, hMove,
      hRevision, hGeneration, hBound, hStep⟩,
      rfl, hUpdated⟩
  · rintro ⟨revision, generation, providerStep, hBegun, hEq, hUpdated⟩
    subst hEq
    exact ⟨hBegun.active, ⟨hBegun.started, hBegun.deadline⟩, hBegun.revoked,
      hBegun.move, revision, hBegun.nextRevision, generation, hBegun.generation, providerStep,
      ⟨hBegun.stepBound, hBegun.step⟩, hUpdated, rfl⟩

/- The clean-up forgets the phase that failed. -/
theorem beginTimeoutCleanup_failedPhase {cleanupStartedAt cleanupDeadlineAt : UtcTimestamp}
    (hCleanup : beginTimeoutCleanup current cleanupStartedAt cleanupDeadlineAt = .ok updated) :
    updated.failedPhase = none := by
  obtain ⟨_, _, _, _, hEq, hValid⟩ := beginTimeoutCleanup_eq_ok.mp hCleanup
  refine hValid.failedPhase_eq_none ?_
  rw [hEq]
  nofun

-- Retries

variable (current)

/- The aggregate that a scheduled retry stores. -/
def retriedInstance (diagnosticCode : String) (nextAttemptAt : UtcTimestamp) (revision : Revision) :
    EnvironmentInstance :=
  { current with
    revision, lastDiagnosticCode := some diagnosticCode
    operation :=
      { current.operation with
        attempt := current.operation.attempt + 1, nextAttemptAt,
        state := .accepted, diagnosticCode := some diagnosticCode } }

def applyRetry (operationId : OperationId) (diagnosticCode : String)
    (nextAttemptAt : UtcTimestamp) :
    Except LifecycleError EnvironmentInstance := do
  ensureCurrentOperation current operationId
  validateDiagnosticCode diagnosticCode
  ensure (current.operation.attempt < current.operation.maxAttempts) .retryExhausted
  ensure (current.operation.nextAttemptAt < nextAttemptAt ∧
    nextAttemptAt ≤ current.operation.deadlineAt)
    .retryTimeInvalid
  let revision ← require current.revision.next .revisionOverflow
  let updated := retriedInstance current diagnosticCode nextAttemptAt revision
  liftContract updated.validate
  return updated

structure RetryScheduled (operationId : OperationId) (diagnosticCode : String)
    (nextAttemptAt : UtcTimestamp) (revision : Revision) : Prop where
  operationId : current.operation.id = operationId
  active : current.operation.state.active = true
  code : DiagnosticCode.parses diagnosticCode = true
  attempts : current.operation.attempt < current.operation.maxAttempts
  later : current.operation.nextAttemptAt < nextAttemptAt
  deadline : nextAttemptAt ≤ current.operation.deadlineAt
  nextRevision : revision.get = current.revision.get + 1

variable {current}

variable {diagnosticCode : String}

theorem applyRetry_eq_ok {nextAttemptAt : UtcTimestamp} :
    applyRetry current operationId diagnosticCode nextAttemptAt = .ok updated ↔ ∃ revision,
      RetryScheduled current operationId diagnosticCode nextAttemptAt revision ∧
      updated = retriedInstance current diagnosticCode nextAttemptAt revision ∧ updated.Valid := by
  simp only [applyRetry, steps_eq_ok, liftContract_eq_ok, validate_eq_ok, ensureCurrentOperation,
    validateDiagnosticCode, Revision.next_eq_some]
  constructor
  · rintro ⟨hCurrent, hCode, hAttempts, hTimes, revision, hRevision, hUpdated, ⟨⟩⟩
    exact ⟨revision, ⟨hCurrent.1, hCurrent.2, hCode, hAttempts, hTimes.1, hTimes.2, hRevision⟩,
      rfl, hUpdated⟩
  · rintro ⟨revision, hRetry, hEq, hUpdated⟩
    subst hEq
    exact ⟨⟨hRetry.operationId, hRetry.active⟩, hRetry.code,
      hRetry.attempts, ⟨hRetry.later, hRetry.deadline⟩,
      revision, hRetry.nextRevision, hUpdated, rfl⟩

-- Failures

variable (current)

/- The aggregate that a Provider failure stores. -/
def failedInstance (diagnosticCode : String) (revision : Revision) : EnvironmentInstance :=
  { current with
    revision, observedState := .failed, failedPhase := some current.observedState
    endpoints := markEndpoints .unhealthy current.endpoints
    lastDiagnosticCode := some diagnosticCode
    operation :=
      { current.operation with state := .failed, diagnosticCode := some diagnosticCode } }

def applyProviderFailure (operationId : OperationId) (diagnosticCode : String) :
    Except LifecycleError EnvironmentInstance := do
  ensureCurrentOperation current operationId
  validateDiagnosticCode diagnosticCode
  ensureMove current.observedState .failed
  let revision ← require current.revision.next .revisionOverflow
  let updated := failedInstance current diagnosticCode revision
  liftContract updated.validate
  return updated

structure FailureRecorded (operationId : OperationId) (diagnosticCode : String)
    (revision : Revision) : Prop where
  operationId : current.operation.id = operationId
  active : current.operation.state.active = true
  code : DiagnosticCode.parses diagnosticCode = true
  move : moveAllowed current.observedState .failed
  nextRevision : revision.get = current.revision.get + 1

variable {current}

theorem applyProviderFailure_eq_ok :
    applyProviderFailure current operationId diagnosticCode = .ok updated ↔ ∃ revision,
      FailureRecorded current operationId diagnosticCode revision ∧
      updated = failedInstance current diagnosticCode revision ∧ updated.Valid := by
  simp only [applyProviderFailure, steps_eq_ok, liftContract_eq_ok, validate_eq_ok,
    ensureCurrentOperation, validateDiagnosticCode, ensureMove_eq_ok, Revision.next_eq_some]
  constructor
  · rintro ⟨hCurrent, hCode, hMove, revision, hRevision, hUpdated, ⟨⟩⟩
    exact ⟨revision, ⟨hCurrent.1, hCurrent.2, hCode, hMove, hRevision⟩, rfl, hUpdated⟩
  · rintro ⟨revision, hFailure, hEq, hUpdated⟩
    subst hEq
    exact ⟨⟨hFailure.operationId, hFailure.active⟩, hFailure.code, hFailure.move, revision,
      hFailure.nextRevision, hUpdated, rfl⟩

end LabWeaver
