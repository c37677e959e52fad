import LabWeaver.Environment.Phases
import LabWeaver.Environment.Provider

/-
  This file compares three tables: the choice of the next action, the arms of the Providers, and
  the observations that the lifecycle applies. It says exactly in which reachable states they
  agree.

  Main declaration: `provider_lifecycle_agreement`.
-/

namespace LabWeaver

open Outcome RunningCall
open EnvironmentInstance

-- Acceptance

variable (env : EnvironmentInstance)

def Accepted (observation : ProviderObservation) : Prop :=
  ∃ updated, applyProviderObservation env env.operation.id observation = .ok updated

/- A Provider call agrees with the lifecycle: the action is not rejected, and an observation is
  applied. -/
def Agrees (result : Except ProviderFailure ProviderObservation) : Prop :=
  result ≠ .error rejectedAction ∧ ∀ observation,
    result = .ok observation → Accepted env observation

variable {env : EnvironmentInstance} {observation : ProviderObservation}

@[simp] theorem agrees_ok : Agrees env (.ok observation) ↔ Accepted env observation := by
  simp [Agrees]

@[simp] theorem agrees_rejected : ¬Agrees env (.error rejectedAction) := by
  simp [Agrees]

/- A call that fails for another reason disagrees in nothing. -/
theorem agrees_refused {failure : ProviderFailure} (hFailure : failure ≠ rejectedAction) :
    Agrees env (.error failure) := by
  simp [Agrees, hFailure]

/- What the Providers guarantee about an observation, whatever the lifecycle thinks of it. -/
structure WellFormed (env : EnvironmentInstance) (observation : ProviderObservation) : Prop where
  notFailed : observation.nextState ≠ .failed
  evidence : observation.nextState = .deleted → observation.cleanupEvidence ≠ none
  complete : observation.nextState = .ready → observation.operationComplete = true
  endpoints : observation.nextState = .ready → observation.endpoints ≠ [] ∧
    ∀ endpoint ∈ observation.endpoints, endpoint.health = .healthy ∧
      endpoint.revision.get = env.revision.get + 1

/- Applying a well-formed observation keeps an aggregate valid. -/
theorem observedInstance_valid {revision : Revision} {providerStep : Nat} (hValid : env.Valid)
    (hState : env.observedState ≠ .failed) (hFormed : WellFormed env observation)
    (hRevision : revision.get = env.revision.get + 1) (hStep : providerStep ≠ 0) :
    (observedInstance env observation revision providerStep).Valid := by
  have hNoPhase := hValid.failedPhase_eq_none hState
  rcases hValid.scalars with ⟨h1, h2, h3, h4, h5, h6, h7, h8, _, h10⟩
  refine ⟨⟨h1, h2, h3, h4, h5, h6, ?_, h8, hStep, h10⟩,
    ⟨?_, ?_⟩, hValid.unleased, hValid.leased, ?_, hValid.retryPhase, hValid.resetTarget,
    hValid.resetTargetFits, hValid.authorization, hValid.restart, hValid.revocation, ?_, ?_⟩
  · simp only [observedInstance]
    split
    · exact Nat.le_refl _
    · exact h7
  · intro code hCode
    simp only [observedInstance] at hCode
    split at hCode
    · exact hValid.diagnostics.1 code hCode
    · cases hCode
  · intro code hCode
    simp only [observedInstance] at hCode
    split at hCode
    · exact hValid.diagnostics.2 code hCode
    · cases hCode
  · simp [observedInstance, hNoPhase, hFormed.notFailed]
  · intro hReady
    have hEndpoints := hFormed.endpoints hReady
    refine ⟨?_, hEndpoints.1, ?_⟩
    · simp [observedInstance, hFormed.complete hReady]
    · intro endpoint hMember
      have hEndpoint := hEndpoints.2 endpoint hMember
      refine ⟨hEndpoint.1, Revision.ext_get ?_⟩
      rw [hEndpoint.2]
      exact hRevision.symm
  · exact hFormed.evidence

/- A stored revision can be counted on. -/
theorem Storable.nextRevision (hStorable : Storable env) :
    ∃ revision : Revision, env.revision.next = some revision ∧
      revision.get = env.revision.get + 1 := by
  have hFits := hStorable.revision
  have hRange : maxI64 + 1 ≤ maxU64 := by decide
  have hBound : env.revision.get + 1 ≤ maxU64 := by omega
  let revision : Revision := ⟨env.revision.get + 1, Nat.succ_pos _, hBound⟩
  exact ⟨revision, Revision.next_eq_some.mpr rfl, rfl⟩

variable (env)

/- The provider step can be counted on after the observation. -/
def stepCounts (observation : ProviderObservation) : Prop :=
  observation.operationComplete = false → env.operation.providerStep < maxU32

/- A stored environment in a phase of its operation, which is active. -/
structure InProgress : Prop extends Storable env where
  active : env.operation.state.active = true
  phase : activePhase env.operation.kind env.observedState env.desiredState = true

variable {env}

theorem InProgress.notFailed (hProgress : InProgress env) : env.observedState ≠ .failed := by
  intro hFailed
  have hPhase := hProgress.phase
  rw [hFailed] at hPhase
  cases hPhase

/- The lifecycle applies a well-formed observation exactly when its tables allow it and the step
  does not overflow. -/
theorem accepted_iff (hProgress : InProgress env) (hFormed : WellFormed env observation) :
    Accepted env observation ↔ observationAllowed env observation ∧ moveAllowed env.observedState
      observation.nextState ∧ stepCounts env observation := by
  rcases hProgress.valid.scalars with ⟨_, _, _, _, _, _, _, _, hStep, _⟩
  constructor
  · intro hAccepted
    rcases hAccepted with ⟨updated, hApplied⟩
    rcases applyProviderObservation_eq_ok.mp hApplied with ⟨revision, providerStep, hObserved, _, _⟩
    refine ⟨hObserved.allowed, hObserved.move, ?_⟩
    intro hDone
    have hNext := hObserved.providerStep
    unfold observedProviderStep at hNext
    rw [hDone, if_neg (by decide), require_eq_ok, checkedAdd_eq_some] at hNext
    omega
  · intro hAllowed
    rcases hAllowed with ⟨hTable, hMove, hCounts⟩
    rcases hProgress.nextRevision with ⟨revision, _, hGet⟩
    have hCounted : ∃ providerStep, observedProviderStep env observation =
        .ok providerStep ∧ providerStep ≠ 0 := by
      unfold observedProviderStep
      by_cases hDone : observation.operationComplete = true
      · refine ⟨_, if_pos hDone, hStep⟩
      · rw [if_neg hDone]
        refine ⟨env.operation.providerStep + 1, ?_, by simp⟩
        have hBound := hCounts (by simpa using hDone)
        rw [require_eq_ok, checkedAdd_eq_some]
        exact ⟨hBound, rfl⟩
    rcases hCounted with ⟨providerStep, hNext, hNonzero⟩
    refine ⟨_, applyProviderObservation_eq_ok.mpr ⟨revision, providerStep,
      ⟨hProgress.valid, rfl, hProgress.active, hTable, hMove, hGet, hNext⟩, rfl, ?_⟩⟩
    exact observedInstance_valid hProgress.valid hProgress.notFailed hFormed hGet hNonzero

-- The Observations Of The Providers

section

variable {next : ObservedEnvironmentState} (env) (next)

/- The lifecycle moves on to a phase that is not steady. -/
def acceptsPhase : Prop :=
  transitionMatchesOperation env.operation.kind env.observedState next = true ∧
    moveAllowed env.observedState next ∧ env.operation.providerStep < maxU32

/- The lifecycle completes the operation in a state. -/
def acceptsTarget : Prop :=
  transitionMatchesOperation env.operation.kind env.observedState next = true ∧
    moveAllowed env.observedState next ∧ isTarget env.desiredState next = true

variable {next}

variable {env}

theorem noEndpoints_wellFormed {operationComplete : Bool} (hFailed : next ≠ .failed)
    (hReady : next ≠ .ready) (hDeleted : next ≠ .deleted) :
    WellFormed env (noEndpoints next operationComplete) :=
  ⟨hFailed, fun h => absurd h hDeleted, fun h => absurd h hReady, fun h => absurd h hReady⟩

theorem accepted_phase (hProgress : InProgress env) (hFailed : next ≠ .failed)
    (hSteady : isSteadyState next = false) :
    Accepted env (noEndpoints next false) ↔ acceptsPhase env next := by
  have hFormed : WellFormed env (noEndpoints next false) := by
    apply noEndpoints_wellFormed hFailed
    · intro hEq
      rw [hEq] at hSteady
      cases hSteady
    · intro hEq
      rw [hEq] at hSteady
      cases hSteady
  -- a phase is never the target of an operation
  have hTarget : isTarget env.desiredState next = false := by
    cases env.desiredState <;> cases next <;>
      first
      | rfl
      | cases hSteady
  rw [accepted_iff hProgress hFormed]
  simp [observationAllowed, noEndpoints, stepCounts, acceptsPhase, hSteady, hTarget]

theorem readyObservation_ready (hStorable : Storable env) (mask : BitVec 128)
    (protocol : EndpointProtocol) (observedAt : UtcTimestamp) :
    ∃ observation, readyObservation env mask protocol true observedAt = .ok observation ∧
      WellFormed env observation ∧ observation.nextState = .ready ∧
      observation.operationComplete = true := by
  rcases hStorable.nextRevision with ⟨revision, hNext, hGet⟩
  let observation : ProviderObservation :=
    { nextState := .ready, endpoints := [readyEndpoint env mask protocol revision observedAt],
      cleanupEvidence := none, operationComplete := true }
  refine ⟨observation, ?_, ?_, rfl, rfl⟩
  · simp only [readyObservation, hNext]
    rfl
  · refine ⟨by simp [observation], by simp [observation], by simp [observation], ?_⟩
    simp [observation, readyEndpoint, hGet]

theorem accepted_complete {observation : ProviderObservation} (hProgress : InProgress env)
    (hFormed : WellFormed env observation) (hDone : observation.operationComplete = true) :
    Accepted env observation ↔ acceptsTarget env observation.nextState := by
  rw [accepted_iff hProgress hFormed]
  unfold observationAllowed stepCounts acceptsTarget
  constructor
  · intro hAll
    rcases hAll with ⟨⟨hMatch, _, hTarget⟩, hMove, _⟩
    rw [hDone] at hTarget
    exact ⟨hMatch, hMove, hTarget.symm⟩
  · intro hAll
    rcases hAll with ⟨hMatch, hMove, hTarget⟩
    refine ⟨⟨hMatch, fun _ => .inl hTarget, ?_⟩, hMove, ?_⟩
    · rw [hDone, hTarget]
    · intro hNot
      cases hDone.symm.trans hNot

end

-- The States Of Agreement

variable (env)

/- A start that failed in `Stopped` is resumed in `Provisioning`, and the action chosen there is a
  start. -/
def resumesStart : Prop :=
  env.operation.kind.resumes = true ∧ env.operation.retryFromPhase = some .stopped ∧
    env.desiredState = .running
deriving Decidable

/- The states in which the tables agree, given whether the backend reports a ready workload. -/
def agreesOn (ready : Bool) : Prop :=
  match env.observedState with
  | .requested | .validating | .building => env.operation.providerStep < maxU32
  | .provisioning =>
    ¬resumesStart env ∧ (ready = true → env.desiredState = .running) ∧ (ready = false →
      env.operation.providerStep < maxU32)
  | .stopped => env.operation.kind = .start ∧ (ready = false → env.operation.providerStep < maxU32)
  | .updating => env.operation.kind = .freeze ∧ ready = true
  | .expiring => False
  | .deleting => env.desiredState = .deleted
  | .stopping | .ready | .deleted | .failed => True

instance {env ready} : Decidable (agreesOn env ready) := by
  unfold agreesOn
  split <;> infer_instance

/- The states in which the KubeVirt Provider asks the observation store before it reports. -/
def consultsStore (ready : Bool) : Prop :=
  match env.observedState with
  | .provisioning => ¬resumesStart env ∧ ready = true
  | .stopped => env.operation.kind = .start ∧ ready = true
  | .updating => env.operation.kind = .freeze ∧ ready = true
  | .stopping | .expiring | .deleting => True
  | .requested | .validating | .building | .ready
  | .deleted | .failed => False

variable {env}

def RunningCall.ofAction : ReconcileAction → Option RunningCall
| .provision | .reset => some .apply
| .observe => some .observe
| .start => some .start
| .restart => some .restart
| .validate | .build | .stop | .configure | .cleanup => none

variable {action : ReconcileAction} {ready recorded : Bool}

section

variable {mask : BitVec 128}
  {protocol : EndpointProtocol} {observedAt : UtcTimestamp} {refusal : ProviderFailure}

/- What a running call comes to: a ready workload that the store does not record is refused. -/
def answered (env : EnvironmentInstance) (mask : BitVec 128) (protocol : EndpointProtocol)
    (observedAt : UtcTimestamp) (refusal : ProviderFailure) (ready recorded : Bool) :
    Except ProviderFailure ProviderObservation :=
  if ready = true ∧ recorded = false then .error refusal
  else readyObservation env mask protocol ready observedAt

theorem answered_agrees (hProgress : InProgress env) (hRefusal : refusal ≠ rejectedAction) :
    Agrees env (answered env mask protocol observedAt refusal ready recorded) ↔ (ready = true →
      recorded = false ∨ acceptsTarget env .ready) ∧
      (ready = false → acceptsPhase env .provisioning) := by
  cases ready with
  | false =>
    have hPending : Accepted env (noEndpoints .provisioning false) ↔
        acceptsPhase env .provisioning :=
      accepted_phase hProgress (by decide) rfl
    simpa [answered, readyObservation] using hPending
  | true =>
    rcases readyObservation_ready hProgress.toStorable mask protocol observedAt with
      ⟨observation, hReady, hFormed, hNext, hDone⟩
    have hTarget := accepted_complete hProgress hFormed hDone
    rw [hNext] at hTarget
    cases recorded with
    | false => simp [answered, agrees_refused hRefusal]
    | true => simpa [answered, hReady] using hTarget

/- The running call that the action makes comes to `answered`, and the stop call succeeds unless the
  store refuses. -/
structure Calls (env : EnvironmentInstance) (action : ReconcileAction) (ready recorded : Bool)
    (running : RunningCall → Except ProviderFailure ProviderObservation)
    (stop : Except ProviderFailure Unit) : Prop where
  running : ∀ call, ofAction action = some call → ∃ mask protocol observedAt refusal,
    refusal ≠ rejectedAction ∧
    running call = answered env mask protocol observedAt refusal ready recorded
  stop : action = .stop →
    if recorded then stop = .ok () else ∃ refusal, refusal ≠ rejectedAction ∧ stop = .error refusal

variable (running : RunningCall → Except ProviderFailure ProviderObservation)
  (stop : Except ProviderFailure Unit)

private def phaseAfter : ObservedEnvironmentState → ObservedEnvironmentState
| .requested => .validating
| .validating => .building
| _ => .provisioning

section

variable (hAction : actionFor env = .ok action)

include hAction

private theorem dispatch_resumesStart (hState : env.observedState = .provisioning)
    (hStart : resumesStart env) :
    dispatch action env.observedState running stop = .error rejectedAction := by
  unfold actionFor at hAction
  rcases hStart with ⟨hResumes, hFrom, hDesired⟩
  rw [hState] at hAction ⊢
  cases hKind : env.operation.kind <;>
    simp_all [EnvironmentOperationKind.resumes]
  all_goals subst hAction
  all_goals rfl

variable (hPhase : activePhase env.operation.kind env.observedState env.desiredState = true)

include hPhase

/- In the phases before provisioning both Providers report the phase that the lifecycle expects
  next. -/
private theorem dispatch_phase
    (hState : env.observedState = .requested ∨ env.observedState = .validating ∨
      env.observedState = .building) :
    ∃ next, dispatch action env.observedState running stop = .ok (noEndpoints next false) ∧
      next ≠ .failed ∧ isSteadyState next = false ∧
      transitionMatchesOperation env.operation.kind env.observedState next = true ∧
      moveAllowed env.observedState next := by
  unfold actionFor at hAction
  refine ⟨phaseAfter env.observedState, ?_⟩
  rcases hState with hState | hState | hState <;>
    rw [hState] at hPhase hAction ⊢ <;>
    cases hKind : env.operation.kind <;>
    simp_all [activePhase, phaseAfter, isSteadyState, transitionMatchesOperation, moveAllowed,
      transitionAllowed, EnvironmentOperationKind.resumes]
  all_goals subst hAction
  all_goals rfl

/- Provisioning ends in a backend call, resumed starts apart. -/
private theorem dispatch_provisioning (hState : env.observedState = .provisioning)
    (hStart : ¬resumesStart env) :
    ∃ call, ofAction action = some call ∧
      dispatch action env.observedState running stop = running call ∧
      transitionMatchesOperation env.operation.kind env.observedState .ready = true ∧
      transitionMatchesOperation env.operation.kind env.observedState .provisioning = true := by
  unfold actionFor at hAction
  unfold resumesStart at hStart
  rw [hState] at hPhase hAction ⊢
  cases hKind : env.operation.kind <;>
    simp_all [activePhase, transitionMatchesOperation, EnvironmentOperationKind.resumes]
  case retry | recover =>
    cases (if_neg (fun h => hStart h.1 h.2)).symm.trans hAction
    exact ⟨.apply, rfl, rfl⟩
  all_goals subst hAction
  all_goals exact ⟨_, rfl, rfl⟩

/- The actions chosen in the states after provisioning, and the reports taken there. -/
private theorem actionFor_stopped (hState : env.observedState = .stopped) :
    (env.operation.kind = .start ∧ action = .start ∧ acceptsTarget env .ready ∧
      (acceptsPhase env .provisioning ↔ env.operation.providerStep < maxU32)) ∨
      (env.operation.kind = .expire ∧ action = .cleanup) := by
  unfold actionFor at hAction
  rw [hState] at hPhase hAction
  cases hKind : env.operation.kind <;>
    simp_all [activePhase, acceptsTarget, acceptsPhase, transitionMatchesOperation, moveAllowed,
      transitionAllowed, isTarget]

private theorem actionFor_updating (hState : env.observedState = .updating) :
    (env.operation.kind = .freeze ∧ action = .observe ∧ acceptsTarget env .ready ∧
      ¬acceptsPhase env .provisioning) ∨ (env.operation.kind ≠ .freeze ∧ action = .configure) := by
  unfold actionFor at hAction
  rw [hState] at hPhase hAction
  cases hKind : env.operation.kind <;>
    simp_all [activePhase, acceptsTarget, acceptsPhase, transitionMatchesOperation, moveAllowed,
      transitionAllowed, isTarget, EnvironmentOperationKind.resumes]

private theorem actionFor_stopping
    (hState : env.observedState = .stopping ∨ env.observedState = .expiring) :
    action = .stop ∧ (acceptsTarget env .stopped ↔ env.observedState = .stopping) := by
  unfold actionFor at hAction
  rcases hState with hState | hState <;>
    rw [hState] at hPhase hAction <;>
    cases hKind : env.operation.kind <;>
    simp_all [activePhase, acceptsTarget, transitionMatchesOperation, moveAllowed,
      transitionAllowed, isTarget, EnvironmentOperationKind.resumes]

end

variable {running stop}

/- A stop is applied when the environment is to rest there. -/
private theorem stop_agrees (hProgress : InProgress env)
    (hCalls : Calls env .stop ready recorded running stop) :
    Agrees env (stop >>= fun _ => .ok (noEndpoints .stopped true)) ↔
      recorded = false ∨ acceptsTarget env .stopped := by
  have hFormed : WellFormed env (noEndpoints .stopped true) :=
    noEndpoints_wellFormed (by decide) (by decide) (by decide)
  have hStopped : Accepted env (noEndpoints .stopped true) ↔ acceptsTarget env .stopped :=
    accepted_complete hProgress hFormed rfl
  have hAnswer := hCalls.stop rfl
  cases recorded with
  | true =>
    rw [if_pos rfl] at hAnswer
    rw [hAnswer]
    change Agrees env (.ok _) ↔ _
    simpa using hStopped
  | false =>
    rw [if_neg (by decide)] at hAnswer
    rcases hAnswer with ⟨refusal, hRefusal, hError⟩
    rw [hError]
    change Agrees env (.error refusal) ↔ _
    simpa using agrees_refused hRefusal

/- The shared arms agree with the lifecycle exactly in the states of `agreesOn`, and where the store
  refuses. -/
theorem dispatch_agrees (hProgress : InProgress env) (hAction : actionFor env = .ok action)
    (hDeleting : env.observedState ≠ .deleting)
    (hCalls : Calls env action ready recorded running stop) :
    Agrees env (dispatch action env.observedState running stop) ↔ agreesOn env ready ∨
      recorded = false ∧ consultsStore env ready := by
  have hPhase := hProgress.phase
  have hRunning : ∀ call, ofAction action = some call → (Agrees env (running call) ↔
      (ready = true → recorded = false ∨ acceptsTarget env .ready) ∧
      (ready = false → acceptsPhase env .provisioning)) := by
    intro call hCall
    rcases hCalls.running call hCall with ⟨mask, protocol, observedAt, refusal, hRefusal, hEq⟩
    rw [hEq]
    exact answered_agrees hProgress hRefusal
  cases hState : env.observedState with
  | deleting => exact absurd hState hDeleting
  | ready | deleted | failed =>
    rw [hState] at hPhase
    cases hPhase
  | requested | validating | building =>
    rcases dispatch_phase running stop hAction hPhase (by simp [hState]) with
      ⟨next, hReport, hNext, hSteady, hMatch, hMove⟩
    have hAccepts : acceptsPhase env next ↔ env.operation.providerStep < maxU32 := by
      simp [acceptsPhase, hMatch, hMove]
    rw [← hState, hReport, agrees_ok, accepted_phase hProgress hNext hSteady, hAccepts]
    simp [agreesOn, consultsStore, hState]
  | provisioning =>
    by_cases hStart : resumesStart env
    · rw [← hState, dispatch_resumesStart running stop hAction hState hStart]
      simp [agreesOn, consultsStore, hState, hStart]
    · rcases dispatch_provisioning running stop hAction hPhase hState hStart with
        ⟨call, hCall, hReport, hReady, hPending⟩
      have hTarget : acceptsTarget env .ready ↔ env.desiredState = .running := by
        rw [acceptsTarget, hReady, hState]
        cases env.desiredState <;>
          simp [isTarget, moveAllowed, transitionAllowed]
      have hWaits : acceptsPhase env .provisioning ↔ env.operation.providerStep < maxU32 := by
        rw [acceptsPhase, hPending, hState]
        simp [moveAllowed]
      rw [← hState, hReport, hRunning call hCall, hTarget, hWaits]
      simp only [agreesOn, consultsStore, hState]
      cases ready <;> cases recorded <;> simp [hStart]
  | stopped =>
    rcases actionFor_stopped hAction hPhase hState with ⟨hKind, hEq, hTarget, hWaits⟩ | ⟨hKind, hEq⟩
    · subst hEq
      change Agrees env (running .start) ↔ _
      rw [hRunning .start rfl, hWaits]
      simp only [agreesOn, consultsStore, hState]
      cases ready <;> cases recorded <;>
        simp [hKind, hTarget]
    · subst hEq
      change Agrees env (.error rejectedAction) ↔ _
      simp [agreesOn, consultsStore, hState, hKind]
  | stopping | expiring =>
    -- In `Expiring` the stop completes although deletion is desired.
    rcases actionFor_stopping hAction hPhase (by simp [hState]) with ⟨rfl, hTarget⟩
    change Agrees env (stop >>= fun _ => .ok (noEndpoints .stopped true)) ↔ _
    rw [stop_agrees hProgress hCalls]
    simp [agreesOn, consultsStore, hState, hTarget]
  | updating =>
    rcases actionFor_updating hAction hPhase hState with
      ⟨hKind, hEq, hTarget, hWaits⟩ | ⟨hKind, hEq⟩
    · subst hEq
      change Agrees env (running .observe) ↔ _
      rw [hRunning .observe rfl]
      simp only [agreesOn, consultsStore, hState]
      cases ready <;> cases recorded <;>
        simp [hKind, hTarget, hWaits]
    · subst hEq
      change Agrees env (.error rejectedAction) ↔ _
      simp [agreesOn, consultsStore, hState, hKind]

end

private theorem actionFor_deleting (hAction : actionFor env = .ok action)
    (hState : env.observedState = .deleting) : action = .cleanup := by
  unfold actionFor at hAction
  rw [hState] at hAction
  cases hKind : env.operation.kind <;> simp_all

/- In `Deleting` both Providers report the cleanup, which completes the operation only where
  deletion is desired. -/
theorem deleted_agrees {evidence : ArtifactRef} (hProgress : InProgress env)
    (hState : env.observedState = .deleting) :
    Agrees env (.ok (deletedObservation evidence)) ↔ env.desiredState = .deleted := by
  have hFormed : WellFormed env (deletedObservation evidence) := ⟨by simp [deletedObservation],
    by simp [deletedObservation], by simp [deletedObservation], by simp [deletedObservation]⟩
  have hMatch : transitionMatchesOperation env.operation.kind .deleting .deleted = true := by
    cases env.operation.kind <;> rfl
  have hAccepted : Accepted env (deletedObservation evidence) ↔ acceptsTarget env .deleted :=
    accepted_complete hProgress hFormed rfl
  rw [agrees_ok, hAccepted, acceptsTarget, hState, hMatch]
  cases env.desiredState <;>
    simp [moveAllowed, transitionAllowed, isTarget]

-- Container Provider

/- The release resolves and plans, and the backend answers the call; `ready` is what it reports of a
  running workload. -/
structure ContainerProvider.Answers {δ ρ π : Type} (provider : ContainerProvider δ ρ π)
    (env : EnvironmentInstance) (action : ReconcileAction) (ready : Bool) : Prop where
  cleanup : action = .cleanup ∧ env.observedState = .deleting → ∃ plan evidence,
    provider.cleanupPlan env = .ok plan ∧
    provider.backend.deleteNamespace (provider.fence env action) plan = .ok evidence ∧
    validArtifactRef evidence = true
  planned : ¬(action = .cleanup ∧ env.observedState = .deleting) → ∃ resolved plan,
    provider.resolve env.releaseId env.releaseVersion = .ok resolved ∧
    provider.plan env resolved action = .ok plan ∧
    (∀ call, ofAction action = some call → ∃ observedAt, provider.callRunning env
      (provider.fence env action) plan call =
      .ok { ready, observedAt }) ∧
    (action = .stop → ∃ observed, provider.backend.scale (provider.fence env action) plan 0 =
      .ok observed)

theorem ContainerProvider.execute_agrees {δ ρ π : Type} {provider : ContainerProvider δ ρ π}
    {ready : Bool} (hProgress : InProgress env)
    (hAction : actionFor env = .ok action) (hAnswers : provider.Answers env action ready) :
    Agrees env (provider.execute action env) ↔ agreesOn env ready := by
  by_cases hDeleting : env.observedState = .deleting
  · have hCleanup := actionFor_deleting hAction hDeleting
    rcases hAnswers.cleanup ⟨hCleanup, hDeleting⟩ with ⟨plan, evidence, hPlan, hDeleted, hEvidence⟩
    have hExecute : provider.execute action env = .ok (deletedObservation evidence) := by
      simp only [execute]
      rw [if_pos ⟨hCleanup, hDeleting⟩, bind_of_ok (mapError_eq_ok.mpr hPlan),
        bind_of_ok hDeleted, ensure_bind_of hEvidence]
    rw [hExecute, deleted_agrees hProgress hDeleting]
    simp [agreesOn, hDeleting]
  · have hPlanned : ¬(action = .cleanup ∧ env.observedState = .deleting) := fun h => hDeleting h.2
    rcases hAnswers.planned hPlanned with ⟨resolved, plan, hResolved, hPlan, hRunning, hStop⟩
    simp only [execute]
    rw [if_neg hPlanned, bind_of_ok (mapError_eq_ok.mpr hResolved),
      bind_of_ok (mapError_eq_ok.mpr hPlan)]
    have hCalls : Calls env action ready true (fun call => do
          let observed ← provider.callRunning env (provider.fence env action) plan call
          readyObservation env 1 .http observed.ready observed.observedAt)
        (do
          let _ ← provider.backend.scale (provider.fence env action) plan 0
          .ok ()) := by
      refine ⟨?_, ?_⟩
      · intro call hCall
        rcases hRunning call hCall with ⟨observedAt, hCalled⟩
        refine ⟨1, .http, observedAt, invalidObservation, by decide, ?_⟩
        simp only [bind_of_ok hCalled, answered]
        simp
      · intro hEq
        rcases hStop hEq with ⟨observed, hScaled⟩
        rw [if_pos rfl, bind_of_ok hScaled]
    rw [dispatch_agrees hProgress hAction hDeleting hCalls]
    simp

-- KubeVirt Provider

/- As for containers, with a stop answer that proves the stop; `recorded`: the observation store
  takes what it is asked to record. -/
structure KubeVirtProvider.Answers {δ ρ π κ : Type} [DecidableEq δ]
    (provider : KubeVirtProvider δ ρ π κ) (env : EnvironmentInstance) (action : ReconcileAction)
    (ready recorded : Bool) : Prop where
  cleanup : action = .cleanup ∧ env.observedState = .deleting → ∃ plan evidence,
    provider.cleanupPlan env = .ok plan ∧
    provider.backend.deleteNamespace (provider.fence env action) plan = .ok evidence ∧
    validArtifactRef evidence = true ∧ (recorded = true ↔ provider.observations.recordDeleted
      (provider.fence env action) plan evidence =
      .ok ())
  planned : ¬(action = .cleanup ∧ env.observedState = .deleting) → ∃ resolved plan,
    provider.resolve env.releaseId env.releaseVersion = .ok resolved ∧
    provider.plan env resolved action = .ok plan ∧
    (∀ call, ofAction action = some call → ∃ observed, provider.callRunning
        (provider.fence env action) plan call =
      .ok observed ∧ provider.runningObservationReady env observed = ready ∧
      (recorded = true ↔ provider.observations.recordRunning
        (provider.fence env action) plan observed =
        .ok ())) ∧
    (action = .stop → ∃ observed, provider.backend.stop (provider.fence env action) plan =
      .ok observed ∧ validStoppedObservation env.generation observed = true ∧
      (recorded = true ↔ provider.observations.recordStopped
        (provider.fence env action) plan observed =
        .ok ()))

/- A refusal of the store is no rejection of the action. -/
theorem observationStoreFailure_ne (error : KubeVirtObservationStoreError) :
    observationStoreFailure error ≠ rejectedAction := by
  cases error <;> decide

private theorem recorded_cases {recorded : Bool}
    {outcome : Except KubeVirtObservationStoreError Unit}
    (hRecorded : recorded = true ↔ outcome = .ok ()) :
    (recorded = true ∧ outcome = .ok ()) ∨ ∃ error, recorded = false ∧ outcome = .error error := by
  cases outcome with
  | ok u => exact .inl ⟨hRecorded.mpr rfl, rfl⟩
  | error e =>
    refine .inr ⟨e, ?_, rfl⟩
    cases recorded with
    | false => rfl
    | true => cases hRecorded.mp rfl

section

variable {δ ρ π κ : Type} [DecidableEq δ] {provider : KubeVirtProvider δ ρ π κ}

private theorem acceptRunningObservation_eq {fence : BackendFence δ} {plan : π}
    {observed : KubeVirtRunningObservation δ}
    (hReady : provider.runningObservationReady env observed = ready)
    (hRecorded : recorded = true ↔ provider.observations.recordRunning fence plan
      observed = .ok ()) :
    ∃ refusal, refusal ≠ rejectedAction ∧ provider.acceptRunningObservation fence plan env
      observed = answered env 2 .ssh observed.observedAt refusal ready recorded := by
  unfold KubeVirtProvider.acceptRunningObservation
  rw [hReady]
  rcases recorded_cases hRecorded with ⟨hYes, hOk⟩ | ⟨error, hNo, hError⟩
  · refine ⟨invalidObservation, by decide, ?_⟩
    rw [hOk, hYes]
    cases ready <;> rfl
  · refine ⟨observationStoreFailure error, observationStoreFailure_ne error, ?_⟩
    rw [hError, hNo]
    cases ready <;> rfl

theorem KubeVirtProvider.execute_agrees (hProgress : InProgress env)
    (hAction : actionFor env = .ok action) (hAnswers : provider.Answers env action ready recorded) :
    Agrees env (provider.execute action env) ↔ agreesOn env ready ∨
      recorded = false ∧ consultsStore env ready := by
  by_cases hDeleting : env.observedState = .deleting
  · have hCleanup := actionFor_deleting hAction hDeleting
    rcases hAnswers.cleanup ⟨hCleanup, hDeleting⟩ with ⟨plan, evidence, hPlan, hDeleted, hEvidence,
        hRecorded⟩
    simp only [execute]
    rw [if_pos ⟨hCleanup, hDeleting⟩, bind_of_ok (mapError_eq_ok.mpr hPlan),
      bind_of_ok hDeleted, ensure_bind_of hEvidence]
    rcases recorded_cases hRecorded with ⟨hYes, hOk⟩ | ⟨error, hNo, hError⟩
    · rw [bind_of_ok (mapError_eq_ok.mpr hOk), deleted_agrees hProgress hDeleting]
      simp [agreesOn, hDeleting, hYes]
    · rw [hError]
      have hRefused : Agrees env (.error (observationStoreFailure error)) :=
        agrees_refused (observationStoreFailure_ne error)
      have hConsults : consultsStore env ready := by
        simp [consultsStore, hDeleting]
      exact iff_of_true hRefused (.inr ⟨hNo, hConsults⟩)
  · have hPlanned : ¬(action = .cleanup ∧ env.observedState = .deleting) := fun h => hDeleting h.2
    rcases hAnswers.planned hPlanned with ⟨resolved, plan, hResolved, hPlan, hRunning, hStop⟩
    simp only [execute]
    rw [if_neg hPlanned, bind_of_ok (mapError_eq_ok.mpr hResolved),
      bind_of_ok (mapError_eq_ok.mpr hPlan)]
    have hCalls : Calls env action ready recorded (fun call => do
          let observed ← provider.callRunning (provider.fence env action) plan call
          provider.acceptRunningObservation (provider.fence env action) plan env observed)
        (provider.callStop (provider.fence env action) plan env) := by
      refine ⟨?_, ?_⟩
      · intro call hCall
        rcases hRunning call hCall with ⟨observed, hCalled, hReady, hRecorded⟩
        rcases acceptRunningObservation_eq hReady hRecorded with ⟨refusal, hRefusal, hEq⟩
        refine ⟨2, .ssh, observed.observedAt, refusal, hRefusal, ?_⟩
        rw [bind_of_ok hCalled, hEq]
      · intro hEq
        rcases hStop hEq with ⟨observed, hStopped, hValid, hRecorded⟩
        unfold callStop
        rw [bind_of_ok hStopped, ensure_bind_of hValid]
        rcases recorded_cases hRecorded with ⟨hYes, hOk⟩ | ⟨error, hNo, hError⟩
        · rw [hYes, if_pos rfl]
          exact mapError_eq_ok.mpr hOk
        · rw [hNo, if_neg (by decide), hError]
          exact ⟨_, observationStoreFailure_ne error, rfl⟩
    exact dispatch_agrees hProgress hAction hDeleting hCalls

end

-- Sample Providers

namespace Sample

def containerProvider : ContainerProvider FenceDocument Unit Unit where
  binding := "container"
  digest := id
  resolve := fun _ _ => .ok ()
  plan := fun _ _ _ => .ok ()
  namespacePlan := fun _ => ()
  backend :=
    { apply := fun _ _ => .ok ⟨true, 0⟩
      observe := fun _ _ => .ok ⟨true, 0⟩
      scale := fun _ _ _ => .ok ⟨true, 0⟩
      restart := fun _ _ _ => .ok ⟨true, 0⟩
      deleteNamespace := fun _ _ => .error LabWeaver.cleanupFailed }

theorem containerProvider_answers (hAction : action ≠ .cleanup) :
    containerProvider.Answers env action true := by
  refine ⟨fun h => absurd h.1 hAction, fun _ => ?_⟩
  refine ⟨(), (), rfl, rfl, ?_, fun _ => ⟨⟨true, 0⟩, rfl⟩⟩
  intro call _
  cases call <;> exact ⟨0, rfl⟩

def runningMachine (generation : Nat) : KubeVirtRunningObservation (Option FenceDocument) where
  observedEnvironmentGeneration := generation
  vmResourceGeneration := 1
  observedVmResourceGeneration := 1
  vmUid := 1
  vmiUid := 2
  rootDiskUid := 3
  guestIp := .v4 0x0A000001
  serviceClusterIp := .v4 0x0A000002
  sshHostKeySha256 := some
    { protocolVersion := 1, environmentId, operationId := ⟨1⟩, providerStep := 1,
      generation := 1, attempt := 1, action := .provision }
  sshReady := true
  observedAt := 0

def kubeVirtProvider : KubeVirtProvider (Option FenceDocument) Unit Unit Unit where
  binding := "kubevirt"
  digest := some
  emptyDigest := none
  resolve := fun _ _ => .ok ()
  plan := fun _ _ _ => .ok ()
  namespacePlan := fun _ => ()
  backend :=
    { apply := fun fence _ =>
      .ok (runningMachine fence.generation)
      observe := fun fence _ => .ok (runningMachine fence.generation)
      start := fun fence _ => .ok (runningMachine fence.generation)
      stop := fun fence _ => .ok ⟨fence.generation, 1, 3, true, 0⟩
      restart := fun fence _ => .ok (runningMachine fence.generation)
      deleteNamespace := fun _ _ => .error LabWeaver.cleanupFailed }
  observations :=
    { recordRunning := fun _ _ _ => .ok ()
      recordStopped := fun _ _ _ => .ok ()
      recordDeleted := fun _ _ _ => .ok () }

theorem kubeVirtProvider_answers (hAction : action ≠ .cleanup) :
    kubeVirtProvider.Answers env action true true := by
  refine ⟨fun h => absurd h.1 hAction, fun _ => ?_⟩
  refine ⟨(), (), rfl, rfl, ?_, ?_⟩
  · intro call _
    have hReady : kubeVirtProvider.runningObservationReady env
        (runningMachine env.generation) = true := by
      simp [KubeVirtProvider.runningObservationReady, validRunningObservation, runningMachine,
        kubeVirtProvider, privateRouteIp]
    cases call <;>
      exact ⟨runningMachine env.generation, rfl, hReady, by simp [kubeVirtProvider]⟩
  · intro _
    refine ⟨⟨env.generation, 1, 3, true, 0⟩, rfl, ?_, ?_⟩
    · simp [validStoppedObservation]
    · simp [kubeVirtProvider]

def createMachine : ServiceAction :=
  .command "key-create" (command .create Revision.one 0) (some
    { spec with runtimeKind := .virtualMachine, providerBinding := "kubevirt" })
    none (some courseId) ⟨1⟩

/- The operation is carried to provisioning. -/
def toProvisioning : List ServiceAction :=
  pass 1000 ⟨1⟩ (progress .validating) ++ pass 3000 ⟨1⟩ (progress .building) ++
    pass 5000 ⟨1⟩ (progress .provisioning)

end Sample

-- Agreement In Every Run

/- For every reachable environment with an action, and every Provider whose release plans and whose
  backend answers, the call agrees with the lifecycle exactly in the states of `agreesOn`. An
  answer that the observation store refuses is not reported. -/
theorem provider_lifecycle_agreement {δ : Type} [DecidableEq δ] {hash : RequestDocument → δ}
    {s : ServiceState δ} (hReachable : (environmentService hash).Reachable s)
    {environmentId : EnvironmentId} {env : EnvironmentInstance}
    (hEnv : s.tables.instances environmentId = some env) {now : UtcTimestamp}
    {action : ReconcileAction} (hAction : nextAction env now = .ok action) :
    (∀ (ε ρ π : Type) (provider : ContainerProvider ε ρ π) (ready : Bool),
      provider.Answers env action ready →
      (Agrees env (provider.execute action env) ↔ agreesOn env ready)) ∧
    (∀ (ε ρ π κ : Type) [DecidableEq ε] (provider : KubeVirtProvider ε ρ π κ)
      (ready recorded : Bool), provider.Answers env action ready recorded →
      (Agrees env (provider.execute action env) ↔ agreesOn env ready ∨
        recorded = false ∧ consultsStore env ready)) := by
  rcases environmentService_phases hReachable hEnv with ⟨hPhase, hStorable⟩
  rcases nextAction_eq_ok.mp hAction with ⟨hActive, hFor⟩
  have hProgress : InProgress env := ⟨hStorable, hActive, hPhase.active hActive⟩
  refine ⟨?_, ?_⟩
  · intro ε ρ π provider ready hAnswers
    exact ContainerProvider.execute_agrees hProgress hFor hAnswers
  · intro ε ρ π κ _ provider ready recorded hAnswers
    exact KubeVirtProvider.execute_agrees hProgress hFor hAnswers

open Sample

/- A container and a virtual machine that are ready to be provisioned. -/
theorem provider_lifecycle_agreement_sample : (∃ s env, (environmentService id).Reachable s ∧
      s.tables.instances environmentId = some env ∧ nextAction env 6000 = .ok .provision ∧
      containerProvider.Answers env .provision true ∧
      Agrees env (containerProvider.execute .provision env)) ∧
    (∃ s env, (environmentService id).Reachable s ∧
      s.tables.instances environmentId = some env ∧ nextAction env 6000 = .ok .provision ∧
      kubeVirtProvider.Answers env .provision true true ∧
      Agrees env (kubeVirtProvider.execute .provision env)) := by
  have hFound : ∀ create, ((environmentService id).exec start
      (create :: toProvisioning)).any (fun s : ServiceState RequestDocument =>
        decide (∃ env, s.tables.instances environmentId = some env ∧
          nextAction env 6000 = .ok .provision ∧ agreesOn env true)) = true →
      ∃ s, (environmentService id).Reachable s ∧ ∃ env,
        s.tables.instances environmentId = some env ∧
        nextAction env 6000 = .ok .provision ∧ agreesOn env true :=
    fun create hTest => Machine.exists_reachable _ start_initial hTest
  refine ⟨?_, ?_⟩
  · rcases hFound create (by decide) with ⟨s, hRun, env, hEnv, hAction, hAgreesOn⟩
    have hAnswers : containerProvider.Answers env .provision true :=
      containerProvider_answers (by decide)
    have hAgreement := (provider_lifecycle_agreement hRun hEnv hAction).1
    exact ⟨s, env, hRun, hEnv, hAction, hAnswers, (hAgreement _ _ _ _ _ hAnswers).mpr hAgreesOn⟩
  · rcases hFound createMachine (by decide) with ⟨s, hRun, env, hEnv, hAction, hAgreesOn⟩
    have hAnswers : kubeVirtProvider.Answers env .provision true true :=
      kubeVirtProvider_answers (by decide)
    have hAgreement := (provider_lifecycle_agreement hRun hEnv hAction).2
    exact ⟨s, env, hRun, hEnv, hAction, hAnswers,
      (hAgreement _ _ _ _ _ _ _ hAnswers).mpr (.inl hAgreesOn)⟩

/- An environment whose creation failed expires. The Provider stops the workload and reports
  completion, and the lifecycle refuses the observation. -/
theorem expiring_environment_disagrees : ∃ s env, (environmentService id).Reachable s ∧
    s.tables.instances environmentId = some env ∧ nextAction env 6000 = .ok .stop ∧
    containerProvider.Answers env .stop true ∧
    ¬Agrees env (containerProvider.execute .stop env) := by
  have hFound : ∃ s, (environmentService id).Reachable s ∧ ∃ env,
      s.tables.instances environmentId = some env ∧ nextAction env 6000 = .ok .stop ∧
      ∃ observation, containerProvider.execute .stop env = .ok observation ∧
        (applyProviderObservation env env.operation.id observation).isOk = false :=
    Machine.exists_reachable (create :: pass 1000 ⟨1⟩ rejected ++
      [request "key-expire" .expire (revision 2) 2000 ⟨2⟩])
      start_initial (by decide)
  rcases hFound with ⟨s, hRun, env, hEnv, hAction, observation, hExecute, hRefused⟩
  refine ⟨s, env, hRun, hEnv, hAction, containerProvider_answers (by decide), ?_⟩
  intro hAgrees
  rcases hAgrees.2 observation hExecute with ⟨updated, hApplied⟩
  rw [hApplied] at hRefused
  cases hRefused

end LabWeaver
