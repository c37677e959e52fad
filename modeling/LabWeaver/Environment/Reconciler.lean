import LabWeaver.Environment.Lifecycle

/-
  This file models the reconciler: the selection of the next Provider action, the call of the
  bound Provider, and what one pass of the worker writes back.
-/

namespace LabWeaver

open Outcome

abbrev ProviderObservation := AppliedProviderObservation

-- Actions And Failures

/- One bounded Provider side effect. -/
inductive ReconcileAction where
| validate
| build
| provision
| observe
| start
| stop
| restart
| reset
| configure
| cleanup
deriving DecidableEq

inductive ProviderFailureCode where
| unavailable
| transient
| rejected
| observationInvalid
| cleanupFailed
deriving DecidableEq

def ProviderFailureCode.diagnosticCode : ProviderFailureCode → String
| .unavailable => "LW_ENVIRONMENT_PROVIDER_UNAVAILABLE"
| .transient => "LW_ENVIRONMENT_PROVIDER_TRANSIENT"
| .rejected => "LW_ENVIRONMENT_PROVIDER_REJECTED"
| .observationInvalid => "LW_ENVIRONMENT_PROVIDER_OBSERVATION_INVALID"
| .cleanupFailed => "LW_ENVIRONMENT_PROVIDER_CLEANUP_FAILED"

/- A payload-free Provider failure. -/
structure ProviderFailure where
  code : ProviderFailureCode
  retryable : Bool
deriving DecidableEq

inductive ReconcileError where
| invalidProviderRegistry
| providerUnavailable
| invalidTimeout
| providerTimeout
| operationTerminal
| noAction
| provider (failure : ProviderFailure)
deriving DecidableEq

namespace ReconcileError

def diagnosticCode : ReconcileError → String
| .invalidProviderRegistry => "LW_ENVIRONMENT_PROVIDER_REGISTRY_INVALID"
| .providerUnavailable => "LW_ENVIRONMENT_PROVIDER_UNAVAILABLE"
| .invalidTimeout => "LW_ENVIRONMENT_PROVIDER_TIMEOUT_INVALID"
| .providerTimeout => "LW_ENVIRONMENT_PROVIDER_TIMEOUT"
| .operationTerminal => "LW_ENVIRONMENT_OPERATION_TERMINAL"
| .noAction => "LW_ENVIRONMENT_RECONCILE_ACTION_INVALID"
| .provider failure => failure.code.diagnosticCode

def retryable : ReconcileError → Bool
| .providerUnavailable | .providerTimeout => true
| .provider failure => failure.retryable
| .invalidProviderRegistry | .invalidTimeout
| .operationTerminal | .noAction => false

end ReconcileError

-- Selecting The Next Action

variable (env : EnvironmentInstance)

def actionFor : Except ReconcileError ReconcileAction :=
  match env.operation.kind, env.observedState with
  | .create, .requested
  | .create, .validating
  | .retry, .requested
  | .retry, .validating
  | .recover, .requested
  | .recover, .validating
  | .reset, .validating => .ok .validate
  | .create, .building
  | .retry, .building
  | .recover, .building
  | .reset, .building => .ok .build
  | .retry, .provisioning
  | .recover, .provisioning =>
    if env.operation.retryFromPhase = some .stopped ∧ env.desiredState = .running then .ok .start
    else .ok .provision
  | .create, .provisioning => .ok .provision
  | .start, .stopped => .ok .start
  | .stop, .stopping
  | .retry, .stopping
  | .recover, .stopping => .ok .stop
  | .expire, .expiring
  | .retry, .expiring
  | .recover, .expiring => .ok .stop
  | .restart, .provisioning => .ok .restart
  | .reset, .provisioning => .ok .reset
  | .retry, .updating
  | .recover, .updating => .ok .configure
  | .expire, .stopped => .ok .cleanup
  | _, .deleting => .ok .cleanup
  | _, .provisioning
  | _, .updating => .ok .observe
  | _, _ => .error .noAction

def nextAction (now : UtcTimestamp) : Except ReconcileError ReconcileAction := do
  ensure (env.operation.state.active = true) .operationTerminal
  if env.operation.deadlineAt < now ∧ env.observedState = .deleting then .ok .cleanup
  else actionFor env

/- The time plays no part in the choice: an expired deadline only repeats the choice made in
  `Deleting`. -/
theorem nextAction_eq (now : UtcTimestamp) (hActive : env.operation.state.active = true) :
    nextAction env now = actionFor env := by
  unfold nextAction
  rw [ensure_bind_of hActive]
  split
  · rename_i hLate
    unfold actionFor
    rw [hLate.2]
    cases env.operation.kind <;> rfl
  · rfl

theorem nextAction_eq_ok {env : EnvironmentInstance} {now : UtcTimestamp}
    {action : ReconcileAction} :
    nextAction env now = .ok action ↔ env.operation.state.active = true ∧
      actionFor env = .ok action := by
  by_cases hActive : env.operation.state.active = true
  · rw [nextAction_eq env now hActive]
    simp [hActive]
  · unfold nextAction
    rw [ensure_bind_of_not hActive]
    simp [hActive]

/- What comes back from the registry and the Provider: no Provider under the binding, no answer in
  time, or an answer. -/
inductive ProviderAnswer where
| unregistered
| timedOut
| answered (result : Except ProviderFailure ProviderObservation)

def executeOnce (now : UtcTimestamp) (answer : ProviderAnswer) :
    Except ReconcileError ProviderObservation := do
  let _ ← nextAction env now
  match answer with
  | .unregistered => .error .providerUnavailable
  | .timedOut => .error .providerTimeout
  | .answered result => result.mapError .provider

-- The Worker

inductive ReconcileWorkerError where
| invalidConfiguration
| clockOverflow
| lifecycle (error : LifecycleError)

/- The durations of a worker, in milliseconds, with the bounds that its constructor checks. -/
structure ReconcileWorker where
  (providerTimeout leaseDuration retryDelay : Nat)
  providerTimeout_pos : 0 < providerTimeout
  providerTimeout_le : providerTimeout ≤ fiveMinutes
  leaseDuration_pos : 0 < leaseDuration
  leaseDuration_le : leaseDuration ≤ fiveMinutes
  retryDelay_pos : 0 < retryDelay
  retryDelay_le : retryDelay ≤ fiveMinutes
  leaseDuration_covers : providerTimeout + 1000 ≤ leaseDuration

namespace ReconcileWorker

def liftLifecycle (x : Except LifecycleError EnvironmentInstance) :
    Except ReconcileWorkerError EnvironmentInstance :=
  x.mapError .lifecycle

variable (worker : ReconcileWorker)

/- The products stay in the range of a duration: the factors are at most five minutes and a
  `u32`. -/
def cleanupDeadline (now : UtcTimestamp) (maxAttempts : Nat) :
    Except ReconcileWorkerError UtcTimestamp :=
  require (addDuration now (worker.providerTimeout * maxAttempts +
    worker.retryDelay * (maxAttempts - 1) + 1000))
    .clockOverflow

variable (env : EnvironmentInstance) (now : UtcTimestamp)

/- Hold a converging operation back until the next poll. -/
def deferNonTerminalObservation (retryDelay : Nat) :
    Except ReconcileWorkerError EnvironmentInstance :=
  if env.operation.state.active then do
    let nextAttemptAt ← require (addDuration now retryDelay) .clockOverflow
    let updated := env.withNextAttempt (min nextAttemptAt env.operation.deadlineAt)
    updated.validate.mapError (fun _ => .lifecycle .providerObservationInvalid)
    return updated
  else return env

def recordFailure (diagnosticCode : String) : Except ReconcileWorkerError EnvironmentInstance :=
  liftLifecycle (applyProviderFailure env env.operation.id diagnosticCode)

def recordObservation (observation : ProviderObservation) :
    Except ReconcileWorkerError EnvironmentInstance :=
  match applyProviderObservation env env.operation.id observation with
  | .ok updated => deferNonTerminalObservation updated now worker.retryDelay
  | .error .providerObservationInvalid =>
    recordFailure env "LW_ENVIRONMENT_PROVIDER_OBSERVATION_INVALID"
  | .error error => .error (.lifecycle error)

def recordError (error : ReconcileError) : Except ReconcileWorkerError EnvironmentInstance :=
  if error.retryable = true ∧ env.operation.attempt < env.operation.maxAttempts then do
    let retryAt ← require (addDuration now worker.retryDelay) .clockOverflow
    if retryAt ≤ env.operation.deadlineAt then
      liftLifecycle (applyRetry env env.operation.id error.diagnosticCode retryAt)
    else recordFailure env error.diagnosticCode
  else recordFailure env error.diagnosticCode

/- What `run_once` saves for a claimed aggregate, from the time the worker was started with and the
  answer of the Provider. -/
def reconcile (answer : ProviderAnswer) : Except ReconcileWorkerError EnvironmentInstance :=
  if env.operation.deadlineAt < now ∧ env.operation.cleanupStartedAt = none then do
    let deadline ← worker.cleanupDeadline now env.operation.maxAttempts
    liftLifecycle (beginTimeoutCleanup env now deadline)
  else
    match executeOnce env now answer with
    | .ok observation => worker.recordObservation env now observation
    | .error error => worker.recordError env now error

end ReconcileWorker

-- What A Pass Writes

/- The ways in which one pass of a worker replaces the aggregate it claimed. -/
inductive ReconcileStep (env : EnvironmentInstance) : EnvironmentInstance → Prop where
| cleanup {updated : EnvironmentInstance} {now deadline : UtcTimestamp} (hCleanup :
      beginTimeoutCleanup env now deadline = .ok updated) :
    ReconcileStep env updated
| observation {updated : EnvironmentInstance} {observation : ProviderObservation}
    (nextAttemptAt : UtcTimestamp)
    (hApplied : applyProviderObservation env env.operation.id observation = .ok updated)
    (hValid : (updated.withNextAttempt nextAttemptAt).Valid) :
    ReconcileStep env (updated.withNextAttempt nextAttemptAt)
| retry {updated : EnvironmentInstance} {diagnosticCode : String} {retryAt : UtcTimestamp}
    (hRetry : applyRetry env env.operation.id diagnosticCode retryAt = .ok updated) :
    ReconcileStep env updated
| failure {updated : EnvironmentInstance} {diagnosticCode : String} (hFailure :
      applyProviderFailure env env.operation.id diagnosticCode = .ok updated) :
    ReconcileStep env updated

namespace ReconcileWorker

variable {env : EnvironmentInstance} {now : UtcTimestamp}

/- Deferring an observation changes at most the time of the next attempt. -/
theorem deferNonTerminalObservation_eq_ok {deferred : EnvironmentInstance} {retryDelay : Nat}
    (hValid : env.Valid)
    (hDeferred : deferNonTerminalObservation env now retryDelay = .ok deferred) :
    ∃ nextAttemptAt, deferred = env.withNextAttempt nextAttemptAt ∧ deferred.Valid := by
  unfold deferNonTerminalObservation at hDeferred
  split at hDeferred
  · simp only [steps_eq_ok, EnvironmentInstance.validate_eq_ok] at hDeferred
    obtain ⟨_, _, hUpdated, ⟨⟩⟩ := hDeferred
    exact ⟨_, rfl, hUpdated⟩
  · cases hDeferred
    exact ⟨env.operation.nextAttemptAt, rfl, hValid⟩

variable {updated : EnvironmentInstance}

private theorem recordFailure_step {diagnosticCode : String}
    (hRecord : recordFailure env diagnosticCode = .ok updated) : ReconcileStep env updated :=
  .failure (mapError_eq_ok.mp hRecord)

variable {worker : ReconcileWorker}

private theorem recordObservation_step {observation : ProviderObservation}
    (hRecord : worker.recordObservation env now observation = .ok updated) :
    ReconcileStep env updated := by
  unfold recordObservation at hRecord
  split at hRecord
  · rename_i applied hApplied
    obtain ⟨_, _, _, _, hAppliedValid⟩ := applyProviderObservation_eq_ok.mp hApplied
    obtain ⟨_, hEq, hValid⟩ := deferNonTerminalObservation_eq_ok hAppliedValid hRecord
    subst hEq
    exact .observation _ hApplied hValid
  · exact recordFailure_step hRecord
  · cases hRecord

private theorem recordError_step {error : ReconcileError}
    (hRecord : worker.recordError env now error = .ok updated) : ReconcileStep env updated := by
  unfold recordError at hRecord
  split at hRecord
  · simp only [steps_eq_ok] at hRecord
    obtain ⟨retryAt, _, hRest⟩ := hRecord
    split at hRest
    · exact .retry (mapError_eq_ok.mp hRest)
    · exact recordFailure_step hRest
  · exact recordFailure_step hRecord

/- Every pass of a worker is one of the four steps. -/
theorem reconcile_step {answer : ProviderAnswer}
    (hReconcile : worker.reconcile env now answer = .ok updated) : ReconcileStep env updated := by
  unfold reconcile at hReconcile
  split at hReconcile
  · simp only [bind_eq_ok] at hReconcile
    obtain ⟨deadline, _, hCleanup⟩ := hReconcile
    exact .cleanup (mapError_eq_ok.mp hCleanup)
  · split at hReconcile
    · exact recordObservation_step hReconcile
    · exact recordError_step hReconcile

end ReconcileWorker

end LabWeaver
