import LabWeaver.Base.Retry
import LabWeaver.Contracts.AccessGrant
import LabWeaver.Resource.Changes

/-
  This file models the handlers that create and approve a request, and says which of their calls
  can be repeated.
-/

namespace LabWeaver

open Outcome PgResourceStore ResourceRequest

-- Callers

/- The errors of the API. A handler that adds a duration to a time past the last representable one
  panics instead. -/
inductive ResourceApiError where
| callerDenied
| identityInvalid
| scopeDenied
| revisionConflict
| invalid
| store (error : ResourceStoreError)
| panicked
deriving DecidableEq

abbrev ResourceApiResult := Except ResourceApiError

structure ResourceCallerPrincipal where
  sanUri : String
  actorId : ActorId
  roles : List PlatformRole

def accessCallerSan : String := "spiffe://labweaver/access-service"

namespace ResourceCallerPrincipal

variable (principal : ResourceCallerPrincipal)

def authorize : ResourceApiResult Unit := ensure (principal.sanUri = accessCallerSan) .callerDenied

def isAdmin : ResourceApiResult Bool := do
  principal.authorize
  ensure (principal.roles ≠ []) .callerDenied
  .ok (principal.roles.contains .platformAdmin)

def requireAdmin : ResourceApiResult Unit := do
  let admin ← principal.isAdmin
  ensure (admin = true) .scopeDenied

end ResourceCallerPrincipal

/- `required_header` on the idempotency key. -/
def requiredKey (idempotencyKey : Option String) : ResourceApiResult String :=
  require idempotencyKey .identityInvalid

structure CreateResourceRequest where
  courseId : CourseId
  projectId : ProjectId
  requestKey : String
  environmentId : EnvironmentId
  releaseId : ReleaseId
  releaseVersion : Nat
  resources : WorkloadResources
  durationSeconds : Nat

structure ApproveResourceRequest where
  expectedRevision : Revision
  providerBinding : String
  resources : WorkloadResources
  durationSeconds : Nat
  reason : String

/- The answer, up to the address of the status page. -/
structure ResourceOperationAccepted where
  requestId : ResourceRequestId
  leaseId : Option LeaseId
  revision : Revision

-- Handlers

variable {δ : Type}

section

variable [DecidableEq δ] (hash : ResourceDocument → δ)

/- The request that a creation stores. -/
def createdRequest (actorId : ActorId) (input : CreateResourceRequest)
    (requestId : ResourceRequestId) (now : UtcTimestamp) : ResourceRequest where
  id := requestId
  generation := 1
  requestKey := input.requestKey
  requesterId := actorId
  courseId := input.courseId
  projectId := some input.projectId
  target :=
    { environmentId := input.environmentId, releaseId := input.releaseId,
      releaseVersion := input.releaseVersion }
  requestedResources := input.resources
  requestedDurationSeconds := input.durationSeconds
  state := .reviewing
  revision := Revision.one
  createdAt := now
  updatedAt := now
  diagnosticCode := none

/- `create_request`: the request gets a new identifier. -/
def createRequest (tables : ResourceTables δ) (now : UtcTimestamp)
    (principal : ResourceCallerPrincipal) (idempotencyKey : Option String) (traceId : String)
    (input : CreateResourceRequest) (requestId : ResourceRequestId) :
    ResourceApiResult (ResourceOperationAccepted × ResourceTables δ) := do
  principal.authorize
  let key ← requiredKey idempotencyKey
  let request := createdRequest principal.actorId input requestId now
  let (stored, tables) ← (create hash tables key request traceId).mapError .store
  .ok
    ({ requestId := stored.id, leaseId := none, revision := stored.revision }, tables)

/- The identifiers that an approval makes up. -/
structure ApprovalIds where
  approvalId : ResourceApprovalId
  claimId : CapacityClaimId
  leaseId : LeaseId

/- The approval that a handler writes. -/
def writtenApproval (approverId : ActorId) (requestId : ResourceRequestId)
    (input : ApproveResourceRequest) (approvalId : ResourceApprovalId)
    (now validUntil : UtcTimestamp) : ResourceApproval where
  id := approvalId
  requestId := requestId
  requestRevision := input.expectedRevision
  approverId := approverId
  providerBinding := input.providerBinding
  approvedResources := input.resources
  approvedDurationSeconds := input.durationSeconds
  reason := input.reason
  validUntil := validUntil
  createdAt := now

/- The allocation that a handler asks for. -/
def writtenAllocation (requestId : ResourceRequestId) (input : ApproveResourceRequest)
    (ids : ApprovalIds) : PendingAllocation where
  claim :=
    { id := ids.claimId, requestId, approvalId := ids.approvalId,
      providerBinding := input.providerBinding, workloadResources := input.resources,
      quotaResources := input.resources, state := .reserved, revision := Revision.one }
  leaseId := ids.leaseId

def approvalPolicy : ApprovalPolicy where
  minDurationSeconds := 60
  maxDurationSeconds := 86400
  gpuCapacity := 0

/- The request is read from the tables `seen`; other transactions may commit before the approval is
  stored in `tables`. -/
def approveRequest (seen tables : ResourceTables δ) (clock now : UtcTimestamp)
    (principal : ResourceCallerPrincipal) (idempotencyKey : Option String) (traceId : String)
    (requestId : ResourceRequestId) (input : ApproveResourceRequest) (ids : ApprovalIds) :
    ResourceApiResult (ResourceOperationAccepted × ResourceTables δ) := do
  principal.authorize
  principal.requireAdmin
  let key ← requiredKey idempotencyKey
  let request ← (loadRequest seen requestId).mapError .store
  ensure (request.revision = input.expectedRevision) .revisionConflict
  ensure (input.durationSeconds ≤ maxI64) .invalid
  let validUntil ← require (addDuration now (input.durationSeconds * 1000)) .panicked
  let allocation := writtenAllocation requestId input ids
  let (next, tables) ← (approve hash tables clock key requestId
      (writtenApproval principal.actorId requestId input ids.approvalId now validUntil)
      allocation approvalPolicy traceId).mapError .store
  .ok
    ({ requestId := next.id, leaseId := some allocation.leaseId, revision := next.revision },
      tables)

end

-- Repeating A Creation

structure CreateRequestCall where
  principal : ResourceCallerPrincipal
  idempotencyKey : Option String
  input : CreateResourceRequest

/- What one call takes from elsewhere. -/
structure CreateRequestContext where
  now : UtcTimestamp
  traceId : String
  requestId : ResourceRequestId

def CreateRequestContext.request (context : CreateRequestContext)
    (call : CreateRequestCall) : ResourceRequest :=
  createdRequest call.principal.actorId call.input context.requestId context.now

variable {hash : ResourceDocument → δ} {seen s s' : ResourceState δ}
  {accepted : ResourceOperationAccepted}

section

variable [DecidableEq δ]

def createRequestEndpoint (hash : ResourceDocument → δ) :
    Endpoint (ResourceState δ) CreateRequestContext CreateRequestCall ResourceOperationAccepted
      ResourceApiError where
  call := fun _ s context call => do
    let (accepted, tables) ← createRequest hash s.tables context.now call.principal
        call.idempotencyKey context.traceId call.input
        context.requestId
    .ok (accepted, { s with tables })

/- A repetition is answered from the ledger only if it draws the same identifier again and reads the
  same time. -/
def createRequestRepeats (_ : CreateRequestCall) (first : CreateRequestContext)
    (_ : ResourceOperationAccepted) (second : CreateRequestContext)
    (_ _ : ResourceState δ) : Prop :=
  second.requestId = first.requestId ∧ second.now = first.now ∧
  validateTrace second.traceId = .ok ()

variable {context : CreateRequestContext} {call : CreateRequestCall}

/- What a creation that succeeds has called. -/
theorem createRequestEndpoint_eq_ok : (createRequestEndpoint hash).call seen s context call =
      .ok (accepted, s') ↔
    ∃ key stored tables, call.principal.sanUri = accessCallerSan ∧ call.idempotencyKey = some key ∧
      create hash s.tables key (context.request call) context.traceId =
        .ok (stored, tables) ∧ accepted =
        { requestId := stored.id, leaseId := none, revision := stored.revision } ∧
      s' = { s with tables } := by
  simp only [createRequestEndpoint, createRequest, ResourceCallerPrincipal.authorize, requiredKey,
    steps_eq_ok, Prod.exists]
  constructor
  · rintro ⟨_, _, ⟨hSan, key, hKey, stored, tables, hCreate, ⟨⟩⟩, ⟨⟩⟩
    exact ⟨key, stored, _, hSan, hKey, hCreate, rfl, rfl⟩
  · rintro ⟨key, stored, tables, hSan, hKey, hCreate, hEq, hState⟩
    exact ⟨_, _, ⟨hSan, key, hKey, stored, tables, hCreate, rfl⟩, by rw [hEq, hState]⟩

theorem createRequestEndpoint_stepwise : (createRequestEndpoint hash).Stepwise
    (resourceService hash) := by
  intro seen s context call accepted s' hCall
  rcases createRequestEndpoint_eq_ok.mp hCall with ⟨key, stored, tables, _, _, hCreate, _, hState⟩
  refine ⟨.create key (context.request call) context.traceId, ?_⟩
  simp only [resourceService, ResourceState.step, hCreate]
  rw [hState]
  rfl

section

variable {tables tables' : ResourceTables δ} {idempotencyKey traceId : String}
  {request stored first : ResourceRequest}

theorem create_stores (hCreate : create hash tables idempotencyKey
        request traceId = .ok (stored, tables')) (hCommitted : tables' ≠ tables) :
    request.Valid ∧ stored = request ∧ tables'.ledger ("create_resource_request", idempotencyKey) =
      some { requestHash := hash (.create request), result := some (.request request) } := by
  simp only [create, parseIdempotencyKey, validateTrace, steps_eq_ok, validate_eq_ok] at hCreate
  rcases hCreate with ⟨hValid, _, _, _, hReplay⟩
  rcases replayOr_eq_ok hReplay with ⟨_, _, _, hSame⟩ | ⟨_, hFresh⟩
  · exact absurd hSame hCommitted
  · simp only [bind_eq_ok] at hFresh
    rcases hFresh with ⟨t₁, _, t₂, _, ⟨⟩⟩
    refine ⟨hValid, rfl, ?_⟩
    simp only [completeLedger, Ledger.complete, Function.update_self]

/- Under a completed key, a creation succeeds only with the request that was stored. -/
theorem create_of_completed {storedHash : δ} (hEntry : tables.ledger
          ("create_resource_request", idempotencyKey) =
        some { requestHash := storedHash, result := some (.request first) })
    (hFirst : first.Valid) :
    create hash tables idempotencyKey request traceId = .ok (stored, tables') ↔
      request.Valid ∧ request.state = .reviewing ∧ IdempotencyKey.parses idempotencyKey = true ∧
      validateTrace traceId = .ok () ∧ storedHash = hash (.create request) ∧ stored = first ∧
      tables' = tables := by
  simp only [create, parseIdempotencyKey, steps_eq_ok,
    validate_eq_ok, replayOr, Ledger.reserve_of_completed hEntry]
  by_cases hHash : storedHash = hash (.create request)
  · simp only [hHash, if_true, ResourceResult.decodeRequest, steps_eq_ok,
      validate_eq_ok, hFirst, true_and, Prod.mk.injEq]
    constructor
    · rintro ⟨hValid, hState, hParses, _, hTrace, value, hValue, hStored, hTables⟩
      exact ⟨hValid, hState, hParses, hTrace, hStored.symm.trans hValue.symm, hTables.symm⟩
    · rintro ⟨hValid, hState, hParses, hTrace, hStored, hTables⟩
      exact ⟨hValid, hState, hParses, (), hTrace, first, rfl, hStored.symm, hTables.symm⟩
  · simp [hHash]

end

/- A repeated creation conflicts with the first one, unless it is the same call down to the new
  identifier. -/
theorem createRequest_retrySafeWhen (hInjective : Function.Injective hash) :
    (createRequestEndpoint hash).RetrySafeWhen (resourceService hash) createRequestRepeats := by
  intro call first accepted seen s hRepeated second
  rcases hRepeated.exists_first createRequestEndpoint_stepwise with
    ⟨seen₀, s₀, s₁, hCall, hCommitted, hReach₁, _, hLeads⟩
  rcases createRequestEndpoint_eq_ok.mp hCall with
    ⟨key, stored, tables₁, hSan, hKey, hCreate, hAccepted, hState⟩
  have hTables : tables₁ ≠ s₀.tables := by
    intro hSame
    apply hCommitted
    rw [hState, hSame]
  rcases create_stores hCreate hTables with ⟨hValid, hStored, hEntry₁⟩
  -- the entry of the first call is still there
  have hEntry : s.tables.ledger ("create_resource_request", key) = some
      { requestHash :=
        hash (.create (first.request call))
        result := some (.request (first.request call)) } := by
    apply (resourceService_grows hReach₁ hLeads).ledger
    · rwa [hState]
    · simp
  constructor
  · intro hSecond
    rcases createRequestEndpoint_eq_ok.mp hSecond with ⟨key', _, _, _, hKey', hCreate', _, _⟩
    cases hKey.symm.trans hKey'
    rcases (create_of_completed hEntry hValid).mp hCreate' with ⟨_, _, _, hTrace, hHash, _, _⟩
    have hDocument := hInjective hHash
    have hRequest : first.request call = second.request call := by
      simpa using hDocument
    have hId := congrArg ResourceRequest.id hRequest
    have hNow := congrArg ResourceRequest.createdAt hRequest
    exact ⟨hId.symm, hNow.symm, hTrace⟩
  · rintro ⟨hId, hNow, hTrace⟩
    have hSame : second.request call = first.request call := by
      unfold CreateRequestContext.request
      rw [hId, hNow]
    apply createRequestEndpoint_eq_ok.mpr
    refine ⟨key, first.request call, s.tables, hSan, hKey, ?_, ?_, rfl⟩
    · rw [create_of_completed hEntry hValid, hSame]
      simp only [create, parseIdempotencyKey, steps_eq_ok] at hCreate
      rcases hCreate with ⟨_, _, _, hParses, _⟩
      exact ⟨hValid, rfl, hParses, hTrace, rfl, rfl, rfl⟩
    · rw [hAccepted, hStored]

end

-- Repeating An Approval

structure ApproveRequestCall where
  principal : ResourceCallerPrincipal
  idempotencyKey : Option String
  requestId : ResourceRequestId
  input : ApproveResourceRequest

/- What one call takes from elsewhere. -/
structure ApproveRequestContext where
  now : UtcTimestamp
  traceId : String
  ids : ApprovalIds

section

variable [DecidableEq δ]

def approveRequestEndpoint (hash : ResourceDocument → δ) :
    Endpoint (ResourceState δ) ApproveRequestContext ApproveRequestCall ResourceOperationAccepted
      ResourceApiError where
  call := fun seen s context call => do
    let (accepted, tables) ← approveRequest hash seen.tables s.tables s.clock
        context.now call.principal call.idempotencyKey
        context.traceId call.requestId call.input
        context.ids
    .ok (accepted, { s with tables })

variable {context : ApproveRequestContext} {call : ApproveRequestCall}

theorem approveRequestEndpoint_eq_ok
    (hCall : (approveRequestEndpoint hash).call seen s context call = .ok (accepted, s')) :
    ∃ request key validUntil stored tables, findRequest seen.tables call.requestId = some request ∧
      request.revision = call.input.expectedRevision ∧
      approve hash s.tables s.clock key call.requestId
        (writtenApproval call.principal.actorId call.requestId call.input
          context.ids.approvalId context.now validUntil)
        (writtenAllocation call.requestId call.input context.ids) approvalPolicy context.traceId =
        .ok (stored, tables) ∧ s' = { s with tables } := by
  simp only [approveRequestEndpoint, approveRequest, loadRequest, requiredKey, steps_eq_ok,
    Prod.exists] at hCall
  rcases hCall with ⟨_, _, ⟨_, _, _, _, key, _, request, ⟨found, hFind, _, _, ⟨⟩⟩, hRevision, _,
      validUntil, _, stored, tables, hApprove, ⟨⟩⟩,
      ⟨⟩⟩
  exact ⟨request, key, validUntil, stored, _, hFind, hRevision, hApprove, rfl⟩

theorem approveRequestEndpoint_stepwise : (approveRequestEndpoint hash).Stepwise
    (resourceService hash) := by
  intro seen s context call accepted s' hCall
  rcases approveRequestEndpoint_eq_ok hCall with ⟨request, key, validUntil, stored, tables, _, _,
      hApprove, hState⟩
  refine ⟨.approve key call.requestId (writtenApproval call.principal.actorId call.requestId
    call.input context.ids.approvalId context.now
    validUntil)
    (writtenAllocation call.requestId call.input context.ids)
    approvalPolicy context.traceId, ?_⟩
  simp only [resourceService, ResourceState.step, hApprove]
  rw [hState]
  rfl

theorem approve_moves {tables tables' : ResourceTables δ} {clock : UtcTimestamp}
    {idempotencyKey traceId : String} {requestId : ResourceRequestId} {approval : ResourceApproval}
    {allocation : PendingAllocation} {policy : ApprovalPolicy}
    {stored : ResourceRequest} (hApprove : approve hash tables clock
      idempotencyKey requestId approval allocation policy traceId = .ok (stored, tables'))
    (hCommitted : tables' ≠ tables) :
    findRequest tables' requestId = some stored ∧ stored.revision.get =
      approval.requestRevision.get + 1 := by
  simp only [approve, loadRequest, bind_eq_ok, require_eq_ok] at hApprove
  rcases hApprove with ⟨_, _, _, _, found, ⟨row, hFind, _, _, ⟨⟩⟩, hReplay⟩
  rcases replayOr_eq_ok hReplay with ⟨_, _, _, hSame⟩ | ⟨_, hFresh⟩
  · exact absurd hSame hCommitted
  · simp only [insertAllocation, bind_eq_ok, mapError_eq_ok] at hFresh
    rcases hFresh with ⟨next, hAccept, lease, _, _, ⟨_, _, _, _, ⟨⟩⟩, _, hUpdate, _, hEvent,
      ⟨⟩⟩
    rcases updateRequestEvent_eq hUpdate hEvent with ⟨_, rfl⟩
    rcases ResourceLifecycle.acceptApproval_moves hAccept with ⟨_, hRevision, hMoves⟩
    constructor
    · have hId : stored.id = requestId := hMoves.moves.id_eq.trans (Rows.key_of_lookup hFind)
      change Rows.lookup _ (Rows.replace _ tables.requests stored) _ = _
      unfold findRequest at hFind
      rw [Rows.lookup_replace, if_pos hId, hFind]
      rfl
    · rw [hMoves.moves.revision_eq, hRevision]

/- No approval can be repeated: the request has moved on from the expected revision, which is looked
  at before the ledger. -/
theorem approveRequest_retrySafeWhen : (approveRequestEndpoint hash).RetrySafeWhen
    (resourceService hash) (fun _ _ _ _ _ _ => False) := by
  intro call first accepted seen s hRepeated second
  rcases hRepeated.exists_first approveRequestEndpoint_stepwise with
    ⟨seen₀, s₀, s₁, hCall, hCommitted, hReach₁, hSeen, _⟩
  rcases approveRequestEndpoint_eq_ok hCall with ⟨request, key, validUntil, stored, tables₁, _, _,
      hApprove, hState⟩
  have hTables : tables₁ ≠ s₀.tables := by
    intro hSame
    apply hCommitted
    rw [hState, hSame]
  rcases approve_moves hApprove hTables with ⟨hStored, hRevision⟩
  have hFind₁ : findRequest s₁.tables call.requestId = some stored := by
    rwa [hState]
  rcases (resourceService_grows hReach₁ hSeen).requests call.requestId stored hFind₁ with
    ⟨later, hLater, hLe⟩
  refine ⟨?_, False.elim⟩
  intro hSecond
  rcases approveRequestEndpoint_eq_ok hSecond with ⟨found, _, _, _, _, hFind, hExpected, _, _⟩
  cases hLater.symm.trans hFind
  rw [hExpected, hRevision] at hLe
  simp only [writtenApproval] at hLe
  omega

end

end LabWeaver
