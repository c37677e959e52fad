import LabWeaver.Contracts.Foundation

/-
  This file models the Resource contracts and the lifecycle guards of requests and leases. Every
  transition moves the revision on by one and keeps the identity of the aggregate.
-/

namespace LabWeaver

open Outcome

inductive ResourceError where
| invalidRequest
| invalidTarget
| invalidResources
| invalidApproval
| invalidClaim
| invalidLease
deriving DecidableEq

-- Workload Resources

/- The bytes of names: lower case, digits and some others. -/
def lowerText (extra : List Char) (value : String) : Bool :=
  value.toList.all (fun c => c.isLower || c.isDigit || extra.contains c)

/- A label: no hyphen at either end. -/
def labelText (value : String) : Prop :=
  boundedText 63 value ∧ lowerText ['-'] value = true ∧ value.toList.head? ≠ some '-' ∧
  value.toList.getLast? ≠ some '-'
deriving Decidable

structure GpuRequest where
  gpuClass : String
  count : Nat
deriving DecidableEq

namespace GpuRequest

def wellFormed (gpu : GpuRequest) : Prop := labelText gpu.gpuClass ∧ gpu.count ≠ 0
deriving Decidable

end GpuRequest

structure WorkloadResources where
  (cpuMillicores memoryBytes storageBytes : Nat)
  gpu : Option GpuRequest
deriving DecidableEq

namespace WorkloadResources

variable (resources : WorkloadResources)

def wellFormed : Prop :=
  resources.cpuMillicores ≠ 0 ∧ resources.memoryBytes ≠ 0 ∧ resources.storageBytes ≠ 0 ∧
  ∀ gpu ∈ resources.gpu, gpu.wellFormed
deriving Decidable

def validate : Except ResourceError Unit :=
  ensure resources.wellFormed .invalidResources

def fitsColumns : Prop :=
  resources.cpuMillicores ≤ maxI32 ∧ resources.memoryBytes ≤ maxI64 ∧
  resources.storageBytes ≤ maxI64 ∧ ∀ gpu ∈ resources.gpu, gpu.count ≤ maxI32
deriving Decidable

end WorkloadResources

-- Requests

inductive ResourceRequestState where
| reviewing
| allocating
| active
| expiring
| expired
| rejected
| cancelled
deriving DecidableEq

/- The Work environment that a request is for. -/
structure ResourceTarget where
  environmentId : EnvironmentId
  releaseId : ReleaseId
  releaseVersion : Nat
deriving DecidableEq

structure ResourceRequest where
  id : ResourceRequestId
  generation : Nat
  requestKey : String
  requesterId : ActorId
  courseId : CourseId
  projectId : Option ProjectId
  target : ResourceTarget
  requestedResources : WorkloadResources
  requestedDurationSeconds : Nat
  state : ResourceRequestState
  revision : Revision
  (createdAt updatedAt : UtcTimestamp)
  diagnosticCode : Option String
deriving DecidableEq

namespace ResourceRequest

variable (request : ResourceRequest)

/- The checks on the request itself. -/
def wellFormed : Prop :=
  request.generation ≠ 0 ∧ boundedText 96 request.requestKey ∧
  lowerText ['-', '_'] request.requestKey = true ∧ request.requestedDurationSeconds ≠ 0 ∧
  request.createdAt ≤ request.updatedAt
deriving Decidable

def validate : Except ResourceError Unit := do
  ensure request.wellFormed .invalidRequest
  ensure (request.target.releaseVersion ≠ 0) .invalidTarget
  request.requestedResources.validate

/- The facts that a validated request carries. -/
structure Valid : Prop where
  wellFormed : request.wellFormed
  target : request.target.releaseVersion ≠ 0
  resources : request.requestedResources.wellFormed

theorem validate_eq_ok {request : ResourceRequest} {u : Unit} :
    request.validate = .ok u ↔ request.Valid := by
  simp only [validate, WorkloadResources.validate, ensure_bind_eq_ok, ensure_eq_ok]
  constructor <;>
  · rintro ⟨hForm, hTarget, hResources⟩
    exact ⟨hForm, hTarget, hResources⟩

end ResourceRequest

-- Approvals And Claims

structure ResourceApproval where
  id : ResourceApprovalId
  requestId : ResourceRequestId
  requestRevision : Revision
  approverId : ActorId
  providerBinding : String
  approvedResources : WorkloadResources
  approvedDurationSeconds : Nat
  reason : String
  (validUntil createdAt : UtcTimestamp)
deriving DecidableEq

namespace ResourceApproval

variable (approval : ResourceApproval)

def wellFormed : Prop :=
  boundedText 120 approval.providerBinding ∧ trimIsEmpty approval.reason = false ∧
  approval.reason.length ≤ 500 ∧ approval.approvedDurationSeconds ≠ 0 ∧
  approval.createdAt < approval.validUntil
deriving Decidable

def validate : Except ResourceError Unit := do
  ensure approval.wellFormed .invalidApproval
  approval.approvedResources.validate

end ResourceApproval

inductive CapacityClaimState where
| reserved
| provisioning
| ready
| handedOff
| releasing
| released
| blocked
deriving DecidableEq

structure CapacityClaim where
  id : CapacityClaimId
  requestId : ResourceRequestId
  approvalId : ResourceApprovalId
  providerBinding : String
  (workloadResources quotaResources : WorkloadResources)
  state : CapacityClaimState
  revision : Revision
deriving DecidableEq

def CapacityClaim.validate (claim : CapacityClaim) : Except ResourceError Unit := do
  ensure (boundedText 120 claim.providerBinding) .invalidClaim
  claim.workloadResources.validate
  claim.quotaResources.validate

-- Leases

inductive ResourceLeaseState where
| allocating
| active
| expiring
| expired
| revoked
deriving DecidableEq

def ResourceLeaseState.terminal : ResourceLeaseState → Bool
| .expired | .revoked => true
| .allocating | .active | .expiring => false

structure ResourceLease where
  id : LeaseId
  requestId : ResourceRequestId
  claimId : CapacityClaimId
  state : ResourceLeaseState
  revision : Revision
  (activeFrom expiresAt : Option UtcTimestamp)
  revokeReasonCode : Option String
  (createdAt updatedAt : UtcTimestamp)
deriving DecidableEq

namespace ResourceLease

variable (lease : ResourceLease)

/- The ends of the window are present together, in order. -/
def wellFormed : Prop :=
  lease.activeFrom.isSome = lease.expiresAt.isSome ∧
  ∀ start ∈ lease.activeFrom, ∀ stop ∈ lease.expiresAt, start < stop
deriving Decidable

def validate : Except ResourceError Unit :=
  ensure lease.wellFormed .invalidLease

end ResourceLease

-- Policies And Errors

inductive ResourceLifecycleError where
| contract (error : ResourceError)
| stateConflict
| approvalExpired
| capacityExhausted
| policyInvalid
| revisionOverflow
deriving DecidableEq

structure ApprovalPolicy where
  (minDurationSeconds maxDurationSeconds gpuCapacity : Nat)

def ApprovalPolicy.validate (policy : ApprovalPolicy) : Except ResourceLifecycleError Unit :=
  ensure (policy.minDurationSeconds ≠ 0 ∧ policy.minDurationSeconds ≤ policy.maxDurationSeconds)
    .policyInvalid

namespace ResourceLifecycle

-- Requests

variable (request : ResourceRequest)

def movedRequest (state : ResourceRequestState) (revision : Revision)
    (now : UtcTimestamp) : ResourceRequest :=
  { request with state, revision, updatedAt := now, diagnosticCode := none }

def acceptApproval (approval : ResourceApproval) (policy : ApprovalPolicy) (now : UtcTimestamp) :
    Except ResourceLifecycleError ResourceRequest := do
  request.validate.mapError .contract
  approval.validate.mapError .contract
  policy.validate
  ensure (request.state = .reviewing ∧ approval.requestId = request.id ∧
    approval.requestRevision = request.revision)
    .stateConflict
  ensure (now < approval.validUntil) .approvalExpired
  ensure (policy.minDurationSeconds ≤ approval.approvedDurationSeconds ∧
    approval.approvedDurationSeconds ≤ policy.maxDurationSeconds)
    .policyInvalid
  ensure (∀ gpu ∈ approval.approvedResources.gpu, gpu.count ≤ policy.gpuCapacity) .capacityExhausted
  let revision ← require request.revision.next .revisionOverflow
  .ok (movedRequest request .allocating revision now)

variable (expectedRevision : Revision)

/- `transition`: one fenced move of a request. -/
def transition (source target : ResourceRequestState) (now : UtcTimestamp) :
    Except ResourceLifecycleError ResourceRequest := do
  request.validate.mapError .contract
  ensure (request.revision = expectedRevision ∧ request.state = source ∧ request.updatedAt ≤ now)
    .stateConflict
  let revision ← require request.revision.next .revisionOverflow
  .ok (movedRequest request target revision now)

variable (now : UtcTimestamp)

def activate : Except ResourceLifecycleError ResourceRequest :=
  transition request expectedRevision .allocating .active now

def beginExpiry : Except ResourceLifecycleError ResourceRequest := do
  ensure (request.state = .active ∨ request.state = .allocating) .stateConflict
  transition request expectedRevision request.state .expiring now

def completeExpiry : Except ResourceLifecycleError ResourceRequest :=
  transition request expectedRevision .expiring .expired now

def rejectOrCancel (terminal : ResourceRequestState) (now : UtcTimestamp) :
    Except ResourceLifecycleError ResourceRequest := do
  ensure ((terminal = .rejected ∨ terminal = .cancelled) ∧ request.state = .reviewing)
    .stateConflict
  transition request expectedRevision .reviewing terminal now

def retry : Except ResourceLifecycleError ResourceRequest := do
  ensure (request.state = .rejected) .stateConflict
  transition request expectedRevision .rejected .reviewing now

-- Leases

variable (lease : ResourceLease) (expectedRevision : Revision)

def activateLease (activeFrom expiresAt : UtcTimestamp) :
    Except ResourceLifecycleError ResourceLease := do
  lease.validate.mapError .contract
  ensure (lease.state = .allocating ∧ lease.revision = expectedRevision ∧ activeFrom < expiresAt)
    .stateConflict
  let revision ← require lease.revision.next .revisionOverflow
  let next :=
    { lease with
      state := .active, revision, activeFrom := some activeFrom,
      expiresAt := some expiresAt, updatedAt := activeFrom }
  next.validate.mapError .contract
  .ok next

/- `transition_lease`: one move of a lease. -/
def transitionLease (state : ResourceLeaseState) (now : UtcTimestamp)
    (expiresAt : Option UtcTimestamp) (reason : Option String) :
    Except ResourceLifecycleError ResourceLease := do
  ensure (lease.updatedAt ≤ now) .stateConflict
  let revision ← require lease.revision.next .revisionOverflow
  let next :=
    { lease with state, revision, expiresAt, revokeReasonCode := reason, updatedAt := now }
  next.validate.mapError .contract
  .ok next

def renewLease (expiresAt now : UtcTimestamp) : Except ResourceLifecycleError ResourceLease := do
  lease.validate.mapError .contract
  ensure (lease.state = .active ∧ lease.revision = expectedRevision ∧
    lease.expiresAt.any (fun held => held < expiresAt) = true ∧ now < expiresAt)
    .stateConflict
  transitionLease lease .active now (some expiresAt) none

def beginLeaseExpiry (now : UtcTimestamp) (reason : Option String) :
    Except ResourceLifecycleError ResourceLease := do
  lease.validate.mapError .contract
  ensure ((lease.state = .allocating ∨ lease.state = .active) ∧ lease.revision = expectedRevision)
    .stateConflict
  transitionLease lease .expiring now lease.expiresAt reason

def completeLeaseExpiry (now : UtcTimestamp) : Except ResourceLifecycleError ResourceLease := do
  lease.validate.mapError .contract
  ensure (lease.state = .expiring ∧ lease.revision = expectedRevision) .stateConflict
  transitionLease lease (if lease.revokeReasonCode.isSome then .revoked
    else .expired)
    now lease.expiresAt lease.revokeReasonCode

def revokeLease (now : UtcTimestamp) (reason : String) :
    Except ResourceLifecycleError ResourceLease := do
  lease.validate.mapError .contract
  ensure (lease.state.terminal = false ∧ lease.revision = expectedRevision ∧
    trimIsEmpty reason = false)
    .stateConflict
  transitionLease lease .expiring now lease.expiresAt (some reason)

end ResourceLifecycle

-- What A Transition Keeps

/- A transition of a request changes its state and the time of the change, and moves the revision
  on by one. -/
def RequestMoves (request next : ResourceRequest) : Prop :=
  ∃ state revision now,
    next = ResourceLifecycle.movedRequest request state revision now ∧
    revision.get = request.revision.get + 1

/- A transition of a request to a known state, at a known time. -/
def RequestMovesTo (request : ResourceRequest) (state : ResourceRequestState)
    (now : UtcTimestamp) (next : ResourceRequest) : Prop :=
  ∃ revision,
    next = ResourceLifecycle.movedRequest request state revision now ∧
    revision.get = request.revision.get + 1

variable {request next : ResourceRequest} {now : UtcTimestamp}

section

variable {state : ResourceRequestState}

theorem RequestMoves.id_eq (hMoves : RequestMoves request next) : next.id = request.id := by
  rcases hMoves with ⟨state, revision, now, hEq, _⟩
  rw [hEq]
  rfl

theorem RequestMoves.revision_eq (hMoves : RequestMoves request next) :
    next.revision.get = request.revision.get + 1 := by
  rcases hMoves with ⟨state, revision, now, hEq, hNext⟩
  rwa [hEq]

theorem RequestMovesTo.moves (hMoves : RequestMovesTo request state now next) :
    RequestMoves request next :=
  ⟨state, hMoves.choose, now, hMoves.choose_spec⟩

end

/- What the moves of a lease have in common. -/
def ResourceLifecycle.LeaseMoved (lease next : ResourceLease) (state : ResourceLeaseState)
    (now : UtcTimestamp) : Prop :=
  next.id = lease.id ∧
  next.requestId = lease.requestId ∧
  next.claimId = lease.claimId ∧
  next.state = state ∧
  next.updatedAt = now

namespace ResourceLifecycle

variable {expectedRevision : Revision}

theorem acceptApproval_moves {approval : ResourceApproval} {policy : ApprovalPolicy}
    (hAccept : acceptApproval request approval policy now = .ok next) :
    request.state = .reviewing ∧ request.revision = approval.requestRevision ∧
      RequestMovesTo request .allocating now next := by
  simp only [acceptApproval, ApprovalPolicy.validate, steps_eq_ok, Revision.next_eq_some] at hAccept
  rcases hAccept with ⟨_, _, _, _, _, ⟨hState, _, hFence⟩, _, _, _, revision, hRevision, rfl⟩
  exact ⟨hState, hFence.symm, revision, rfl, hRevision⟩

theorem transition_moves {source target : ResourceRequestState}
    (hMove : transition request expectedRevision source target now = .ok next) :
    request.state = source ∧ RequestMovesTo request target now next := by
  simp only [transition, steps_eq_ok, Revision.next_eq_some] at hMove
  rcases hMove with ⟨_, _, ⟨_, hState, _⟩, revision, hRevision, rfl⟩
  exact ⟨hState, revision, rfl, hRevision⟩

theorem beginExpiry_moves (hMove : beginExpiry request expectedRevision now = .ok next) :
    (request.state = .active ∨ request.state = .allocating) ∧
      RequestMovesTo request .expiring now next := by
  simp only [beginExpiry, steps_eq_ok] at hMove
  exact ⟨hMove.1, (transition_moves hMove.2).2⟩

variable {lease nextLease : ResourceLease} {state : ResourceLeaseState} {reason : Option String}

theorem transitionLease_moves {expiresAt : Option UtcTimestamp}
    (hMove : transitionLease lease state now expiresAt reason = .ok nextLease) :
    LeaseMoved lease nextLease state now ∧ nextLease.revokeReasonCode = reason := by
  simp only [transitionLease, steps_eq_ok] at hMove
  rcases hMove with ⟨_, revision, _, _, _, rfl⟩
  exact ⟨⟨rfl, rfl, rfl, rfl, rfl⟩, rfl⟩

theorem activateLease_moves {activeFrom expiresAt : UtcTimestamp}
    (hMove : activateLease lease expectedRevision activeFrom expiresAt = .ok nextLease) :
    lease.state = .allocating ∧ LeaseMoved lease nextLease .active activeFrom := by
  simp only [activateLease, steps_eq_ok] at hMove
  rcases hMove with ⟨_, _, ⟨hState, _⟩, revision, _, _, _, rfl⟩
  exact ⟨hState, rfl, rfl, rfl, rfl, rfl⟩

theorem beginLeaseExpiry_moves
    (hMove : beginLeaseExpiry lease expectedRevision now reason = .ok nextLease) :
    LeaseMoved lease nextLease .expiring now ∧ nextLease.revokeReasonCode = reason := by
  simp only [beginLeaseExpiry, steps_eq_ok] at hMove
  rcases hMove with ⟨_, _, _, hMove⟩
  exact transitionLease_moves hMove

/- The state in which the expiry of a lease ends. -/
def ended (lease : ResourceLease) : ResourceLeaseState :=
  if lease.revokeReasonCode.isSome then .revoked else .expired

theorem completeLeaseExpiry_moves
    (hMove : completeLeaseExpiry lease expectedRevision now = .ok nextLease) :
    lease.state = .expiring ∧ LeaseMoved lease nextLease (ended lease) now ∧
      nextLease.revokeReasonCode = lease.revokeReasonCode := by
  simp only [completeLeaseExpiry, steps_eq_ok] at hMove
  rcases hMove with ⟨_, _, ⟨hState, _⟩, hMove⟩
  exact ⟨hState, transitionLease_moves hMove⟩

end ResourceLifecycle

end LabWeaver
