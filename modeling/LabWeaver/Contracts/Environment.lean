import LabWeaver.Contracts.Foundation

/-
  This file models the Environment aggregate: its states, operations and endpoints, its
  validation, and the transition and command tables of the lifecycle.
-/

namespace LabWeaver

open Outcome

-- States

inductive EnvironmentClass where
| experiment
| work
deriving DecidableEq

inductive RuntimeKind where
| container
| virtualMachine
deriving DecidableEq

/- Requested steady state. -/
inductive DesiredEnvironmentState where
| running
| stopped
| deleted
deriving DecidableEq

inductive ObservedEnvironmentState where
| requested
| validating
| building
| provisioning
| ready
| stopping
| stopped
| updating
| expiring
| deleting
| deleted
| failed
deriving DecidableEq

inductive EnvironmentOperationKind where
| create
| start
| stop
| restart
| reset
| retry
| cancel
| recover
| expire
| delete
| cleanup
| freeze
deriving DecidableEq

namespace EnvironmentOperationKind

/- The cleanup commands, which may supersede an operation. -/
def destructive : EnvironmentOperationKind → Bool
| .cancel | .expire | .delete | .cleanup => true
| _ => false

/- The commands that resume an operation that failed. -/
def resumes : EnvironmentOperationKind → Bool
| .retry | .recover => true
| _ => false

/- The commands that need an unexpired eligibility, and for a Work environment an Active lease. -/
def needsEligibility : EnvironmentOperationKind → Bool
| .start | .retry | .recover | .reset => true
| _ => false

end EnvironmentOperationKind

inductive OperationState where
| accepted
| running
| cancelling
| succeeded
| failed
| cancelled
deriving DecidableEq

def OperationState.active : OperationState → Bool
| .accepted | .running | .cancelling => true
| .succeeded | .failed | .cancelled => false

inductive EndpointProtocol where
| http
| https
| ssh
deriving DecidableEq

inductive EndpointHealth where
| pending
| healthy
| unhealthy
| removed
deriving DecidableEq

-- Records

/- Sanitized Environment-owned endpoint metadata. -/
structure EnvironmentEndpoint where
  id : EndpointId
  protocol : EndpointProtocol
  revision : Revision
  health : EndpointHealth
  observedAt : UtcTimestamp
deriving DecidableEq

inductive EnvironmentResetTarget where
| experimentBaseline (releaseId : ReleaseId) (releaseVersion : Nat)
| workSnapshot (snapshot : ArtifactRef) (authorizationRevision : Revision)
| workConfiguration (configurationRevision : Revision) (authorizationRevision : Revision)
deriving DecidableEq

/- Resource-authoritative snapshot of an Active lease. -/
structure EnvironmentLeaseAuthorization where
  leaseId : LeaseId
  leaseRevision : Revision
  environmentId : EnvironmentId
  courseId : CourseId
  ownerActorId : ActorId
  capacityBinding : String
  (activeFrom expiresAt : UtcTimestamp)
deriving DecidableEq

/- The fields that create the first aggregate. -/
structure EnvironmentCreateSpec where
  courseId : CourseId
  ownerActorId : ActorId
  displayLabel : String
  environmentClass : EnvironmentClass
  runtimeKind : RuntimeKind
  releaseId : ReleaseId
  releaseVersion : Nat
  providerBinding : String
  leaseId : Option LeaseId
  capacityBinding : Option String
  eligibilityExpiresAt : UtcTimestamp
deriving DecidableEq

structure EnvironmentLifecycleCommand where
  environmentId : EnvironmentId
  kind : EnvironmentOperationKind
  expectedRevision : Revision
  actorId : ActorId
  traceId : String
  (acceptedAt deadlineAt : UtcTimestamp)
  accessRevocationRevision : Option Revision
  preserveMutableDisk : Bool
  maxAttempts : Nat
  resetTarget : Option EnvironmentResetTarget
deriving DecidableEq

structure EnvironmentOperation where
  id : OperationId
  kind : EnvironmentOperationKind
  state : OperationState
  acceptedRevision : Revision
  (attempt providerStep maxAttempts : Nat)
  nextAttemptAt : UtcTimestamp
  actorId : ActorId
  traceId : String
  (acceptedAt deadlineAt : UtcTimestamp)
  cleanupStartedAt : Option UtcTimestamp
  diagnosticCode : Option String
  preserveMutableDisk : Bool
  accessRevocationRevision : Option Revision
  retryFromPhase : Option ObservedEnvironmentState
  resetTarget : Option EnvironmentResetTarget
  leaseAuthorization : Option EnvironmentLeaseAuthorization
deriving DecidableEq

/- The authoritative environment aggregate. -/
structure EnvironmentInstance where
  id : EnvironmentId
  displayLabel : String
  courseId : CourseId
  ownerId : ActorId
  environmentClass : EnvironmentClass
  runtimeKind : RuntimeKind
  releaseId : ReleaseId
  releaseVersion : Nat
  leaseId : Option LeaseId
  capacityBinding : Option String
  providerBinding : String
  desiredState : DesiredEnvironmentState
  observedState : ObservedEnvironmentState
  revision : Revision
  (generation observedGeneration : Nat)
  operation : EnvironmentOperation
  eligibilityExpiresAt : UtcTimestamp
  endpoints : List EnvironmentEndpoint
  lastDiagnosticCode : Option String
  failedPhase : Option ObservedEnvironmentState
  cleanupEvidence : Option ArtifactRef
deriving DecidableEq

inductive EnvironmentError where
| invalidAggregate
| readyWithoutHealthyEndpoint
| cleanupEvidenceRequired
| grantRevocationRequired
| leaseRequired
| failedPhaseRequired
| resetTargetRequired
| resetTargetInvalid
| leaseAuthorizationRequired
| leaseAuthorizationInvalid
| invalidResourceHandoff
| invalidTransition (origin target : ObservedEnvironmentState)
| operationNotAllowed (state : ObservedEnvironmentState) (operation : EnvironmentOperationKind)
| invalidDiagnosticCode
deriving DecidableEq

-- Validation

namespace EnvironmentInstance

variable (i : EnvironmentInstance)

/- The scalar checks of `validate`, all reported as an inconsistent aggregate. -/
def scalarsConsistent : Prop :=
  trimIsEmpty i.displayLabel = false ∧ i.displayLabel.length ≤ 120 ∧
  anyControl i.displayLabel = false ∧ i.releaseVersion ≠ 0 ∧ trimIsEmpty i.providerBinding = false ∧
  i.generation ≠ 0 ∧ i.observedGeneration ≤ i.generation ∧ i.operation.attempt ≠ 0 ∧
  i.operation.providerStep ≠ 0 ∧ i.operation.attempt ≤ i.operation.maxAttempts ∧
  i.operation.acceptedAt < i.operation.deadlineAt ∧
  i.operation.acceptedAt ≤ i.operation.nextAttemptAt ∧
  i.operation.nextAttemptAt ≤ i.operation.deadlineAt ∧
  (∀ startedAt ∈ i.operation.cleanupStartedAt, i.desiredState = .deleted ∧
    i.operation.acceptedAt ≤ startedAt ∧ startedAt ≤ i.operation.deadlineAt) ∧
  validToken i.operation.traceId = true
deriving Decidable

def diagnosticsParse : Prop :=
  (∀ code ∈ i.lastDiagnosticCode, DiagnosticCode.parses code = true) ∧
  (∀ code ∈ i.operation.diagnosticCode, DiagnosticCode.parses code = true)
deriving Decidable

def experimentUnleased : Prop :=
  i.environmentClass = .experiment → i.leaseId = none ∧ i.capacityBinding = none
deriving Decidable

def workLeased : Prop :=
  i.environmentClass = .work → i.leaseId ≠ none ∧ i.capacityBinding.any validToken = true
deriving Decidable

def resetTargetValid (target : EnvironmentResetTarget) : Prop :=
  match i.environmentClass, target with
  | .experiment, .experimentBaseline releaseId releaseVersion =>
    releaseId = i.releaseId ∧ releaseVersion = i.releaseVersion
  | .work, .workSnapshot snapshot _ =>
    trimIsEmpty snapshot.storeBinding = false ∧ trimIsEmpty snapshot.objectVersion = false ∧
      0 < snapshot.sizeBytes ∧ trimIsEmpty snapshot.mediaType = false
  | .work, .workConfiguration _ _ => True
  | _, _ => False

/- The stored lease authorization is for this aggregate. -/
def authorizationScoped (authorization : EnvironmentLeaseAuthorization) : Prop :=
  i.environmentClass = .work ∧ some authorization.leaseId = i.leaseId ∧
  authorization.environmentId = i.id ∧ authorization.courseId = i.courseId ∧
  authorization.ownerActorId = i.ownerId ∧ some authorization.capacityBinding = i.capacityBinding ∧
  authorization.activeFrom < authorization.expiresAt
deriving Decidable

def restartPreserves : Prop := i.operation.kind = .restart → i.operation.preserveMutableDisk = true
deriving Decidable

/- A reset discards the disk, and a reset, a stop and every cleanup command records the Access
  revocation. -/
def revocationRecorded : Prop :=
  match i.operation.kind with
  | .reset => i.operation.preserveMutableDisk = false ∧ i.operation.accessRevocationRevision ≠ none
  | .stop | .cancel | .expire | .delete | .cleanup => i.operation.accessRevocationRevision ≠ none
  | _ => True

/- Ready means a current generation and healthy endpoints. -/
def readyHealthy : Prop :=
  i.observedState = .ready → i.observedGeneration = i.generation ∧ i.endpoints ≠ [] ∧
    ∀ endpoint ∈ i.endpoints, endpoint.health = .healthy ∧ endpoint.revision = i.revision
deriving Decidable

instance (i : EnvironmentInstance) {target} : Decidable (i.resetTargetValid target) := by
  unfold resetTargetValid
  split <;> infer_instance

instance (i : EnvironmentInstance) : Decidable i.revocationRecorded := by
  unfold revocationRecorded
  split <;> infer_instance

/- `EnvironmentInstance::validate`: the aggregate checks, in the order and with the errors of the
  source. -/
def validate : Except EnvironmentError Unit := do
  ensure i.scalarsConsistent .invalidAggregate
  ensure i.diagnosticsParse .invalidDiagnosticCode
  ensure i.experimentUnleased .invalidAggregate
  ensure i.workLeased .leaseRequired
  ensure (i.observedState = .failed ↔ i.failedPhase ≠ none) .failedPhaseRequired
  ensure (i.operation.kind.resumes = true ↔ i.operation.retryFromPhase ≠ none) .failedPhaseRequired
  ensure (i.operation.kind = .reset ↔ i.operation.resetTarget ≠ none) .resetTargetRequired
  ensure (∀ target ∈ i.operation.resetTarget, i.resetTargetValid target) .resetTargetInvalid
  ensure (∀ authorization ∈ i.operation.leaseAuthorization, i.authorizationScoped authorization)
    .leaseAuthorizationInvalid
  ensure i.restartPreserves .invalidAggregate
  ensure i.revocationRecorded .grantRevocationRequired
  ensure i.readyHealthy .readyWithoutHealthyEndpoint
  ensure (i.observedState = .deleted → i.cleanupEvidence ≠ none) .cleanupEvidenceRequired

/- The facts that a validated aggregate carries. -/
structure Valid : Prop where
  scalars : i.scalarsConsistent
  diagnostics : i.diagnosticsParse
  unleased : i.experimentUnleased
  leased : i.workLeased
  failedPhase : i.observedState = .failed ↔ i.failedPhase ≠ none
  retryPhase : i.operation.kind.resumes = true ↔ i.operation.retryFromPhase ≠ none
  resetTarget : i.operation.kind = .reset ↔ i.operation.resetTarget ≠ none
  resetTargetFits : ∀ target ∈ i.operation.resetTarget, i.resetTargetValid target
  authorization : ∀ authorization ∈ i.operation.leaseAuthorization,
    i.authorizationScoped authorization
  restart : i.restartPreserves
  revocation : i.revocationRecorded
  ready : i.readyHealthy
  evidence : i.observedState = .deleted → i.cleanupEvidence ≠ none

variable {i : EnvironmentInstance}

/- Validation accepts exactly the valid aggregates. -/
theorem validate_eq_ok {u : Unit} : i.validate = .ok u ↔ i.Valid := by
  simp only [validate, ensure_bind_eq_ok, ensure_eq_ok]
  constructor <;>
  · rintro ⟨h1, h2, h3, h4, h5, h6, h7, h8, h9, h10, h11, h12, h13⟩
    exact ⟨h1, h2, h3, h4, h5, h6, h7, h8, h9, h10, h11, h12, h13⟩

theorem Valid.generation_ne_zero (hValid : i.Valid) : i.generation ≠ 0 := by
  rcases hValid.scalars with ⟨_, _, _, _, _, hGeneration, _⟩
  exact hGeneration

theorem Valid.observedGeneration_le (hValid : i.Valid) : i.observedGeneration ≤ i.generation := by
  rcases hValid.scalars with ⟨_, _, _, _, _, _, hObserved, _⟩
  exact hObserved

theorem Valid.traceId (hValid : i.Valid) : trimIsEmpty i.operation.traceId = false := by
  rcases hValid.scalars with ⟨_, _, _, _, _, _, _, _, _, _, _, _, _, _, hTrace⟩
  exact trimIsEmpty_of_validToken hTrace

theorem Valid.failedPhase_eq_none (hValid : i.Valid) (hState : i.observedState ≠ .failed) :
    i.failedPhase = none := by
  by_contra hSome
  exact hState (hValid.failedPhase.mpr hSome)

/- Set the time of the next attempt of an aggregate. -/
def withNextAttempt (i : EnvironmentInstance)
    (nextAttemptAt : UtcTimestamp) : EnvironmentInstance :=
  { i with operation := { i.operation with nextAttemptAt } }

-- Transition And Command Tables

variable (origin target : ObservedEnvironmentState)

/- The observed transitions of the frozen lifecycle. -/
def transitionAllowed : Bool :=
  match origin, target with
  | .requested, .validating
  | .requested, .failed
  | .requested, .deleting => true
  | .validating, .building
  | .validating, .failed
  | .validating, .deleting => true
  | .building, .provisioning
  | .building, .failed
  | .building, .deleting => true
  | .provisioning, .ready
  | .provisioning, .stopped
  | .provisioning, .failed
  | .provisioning, .deleting => true
  | .ready, .provisioning
  | .ready, .stopping
  | .ready, .updating
  | .ready, .expiring
  | .ready, .deleting
  | .ready, .failed => true
  | .stopping, .stopped
  | .stopping, .failed
  | .stopping, .deleting => true
  | .expiring, .stopped
  | .expiring, .failed
  | .expiring, .deleting => true
  | .stopped, .provisioning
  | .stopped, .ready
  | .stopped, .expiring
  | .stopped, .deleting
  | .stopped, .failed => true
  | .updating, .ready
  | .updating, .failed
  | .updating, .deleting => true
  | .failed, .validating
  | .failed, .building
  | .failed, .provisioning
  | .failed, .stopping
  | .failed, .updating
  | .failed, .expiring
  | .failed, .deleting => true
  | .deleting, .deleted
  | .deleting, .failed => true
  | _, _ => false

def ensureTransition : Except EnvironmentError Unit :=
  ensure (transitionAllowed origin target = true) (.invalidTransition origin target)

variable (state : ObservedEnvironmentState) (operation : EnvironmentOperationKind)

/- The commands allowed from each observed state. -/
def operationAllowed : Bool :=
  match operation with
  | .create => state == .requested
  | .start => state == .stopped
  | .stop | .freeze => state == .ready
  | .restart | .reset => state == .ready || state == .stopped || state == .failed
  | .retry | .recover => state == .failed
  | .cancel => !(state == .deleted || state == .deleting)
  | .expire => state == .ready || state == .stopped || state == .failed
  | .delete => state != .deleted
  | .cleanup => state == .expiring || state == .deleting || state == .failed

def ensureOperationAllowed : Except EnvironmentError Unit :=
  ensure (operationAllowed state operation = true) (.operationNotAllowed state operation)

end EnvironmentInstance

end LabWeaver
