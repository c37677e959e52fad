import LabWeaver.Base.Ledger
import LabWeaver.Base.Rows
import LabWeaver.Resource.Lifecycle

/-
  This file models the Resource repository: the rows of requests, approvals, claims and leases,
  and the transactions on them. The log of request transitions is left out: it is written under
  the same key as an event, and never read.

  Key definitions: `ResourceTables`, `PgResourceStore.create`.
-/

namespace LabWeaver

open Outcome

-- Rows

/- The columns of a claim that are read back. -/
structure CapacityClaimRow where
  claim : CapacityClaim
  leaseSyncedRevision : Nat
  updatedAt : UtcTimestamp

/- The steps whose failed attempts are recorded. -/
inductive CapacityStep where
| provisionQuota
| handoffEnvironment
| expireEnvironment
| releaseCapacity
deriving DecidableEq

/- The steps after which a cleanup is held back. -/
def CapacityStep.cleanup : CapacityStep → Bool
| .expireEnvironment | .releaseCapacity => true
| .provisionQuota | .handoffEnvironment => false

structure CapacityAttempt where
  claimId : CapacityClaimId
  attempt : Nat
  step : CapacityStep
  failed : Bool
  nextAttemptAt : UtcTimestamp

inductive ResourceSubject where
| requestSubmitted
| requestApproved
| requestRejected
| requestCancelled
| requestStateChanged
| leaseActivated
| leaseRenewed
| leaseRevoked
| leaseExpiring
| leaseExpired

/- An event in the Outbox, with its payload. -/
structure ResourceEvent where
  subject : ResourceSubject
  aggregateId : BitVec 128
  aggregateSequence : Nat
  occurredAt : UtcTimestamp
  traceId : String
  request : ResourceRequest
  lease : Option ResourceLease

/- The results that the ledger keeps. -/
inductive ResourceResult where
| request (request : ResourceRequest)
| lease (lease : ResourceLease)

open ResourceResult

/- The documents whose hashes identify a request. -/
inductive ResourceDocument where
| create (request : ResourceRequest)
| approve (approval : ResourceApproval) (claim : CapacityClaim) (leaseId : LeaseId)
| terminal (requestId : ResourceRequestId) (expectedRevision : Revision)
    (terminal : ResourceRequestState)
| retry (requestId : ResourceRequestId) (expectedRevision : Revision)
| renew (leaseId : LeaseId) (expectedRevision : Revision) (expiresAt : UtcTimestamp)
| revoke (leaseId : LeaseId) (expectedRevision : Revision) (reason : String)
deriving DecidableEq

structure ResourceTables (δ : Type) where
  requests : List ResourceRequest
  approvals : List ResourceApproval
  claims : List CapacityClaimRow
  leases : List ResourceLease
  attempts : List CapacityAttempt
  ledger : Ledger (String × String) δ ResourceResult
  outbox : List ResourceEvent

inductive ResourceStoreError where
| notFound
| invalidCreateState
| idempotencyKey
| idempotencyConflict
| idempotencyInProgress
| revisionConflict
| allocationMismatch
| leaseNotFound
| capacityClaimNotFound
| capacityClaimStateConflict
| capacityReadbackInvalid
| diagnosticInvalid
| revisionOverflow
| trace
| numeric
| contract (error : ResourceError)
| lifecycle (error : ResourceLifecycleError)
| persistence
| database
| serialization
deriving DecidableEq

abbrev ResourceStoreResult := Except ResourceStoreError

-- Reading And Writing Rows

def validateTrace (traceId : String) : ResourceStoreResult Unit :=
  ensure (boundedText 128 traceId ∧ anyControl traceId = false) .trace

def parseIdempotencyKey (idempotencyKey : String) : ResourceStoreResult Unit :=
  ensure (IdempotencyKey.parses idempotencyKey = true) .idempotencyKey

/- The states in which a request holds its key. -/
def ResourceRequestState.live : ResourceRequestState → Bool
| .reviewing | .allocating | .active | .expiring => true
| .expired | .rejected | .cancelled => false

/- The unique key of the live requests of an actor. -/
def ResourceRequest.liveKey (request : ResourceRequest) :
    ActorId × CourseId × Option ProjectId × String :=
  (request.requesterId, request.courseId, request.projectId, request.requestKey)

def liveKeyFree (rows : List ResourceRequest) (request : ResourceRequest) : Prop :=
  request.state.live = true → ∀ row ∈ rows, row.id ≠ request.id → row.state.live = true →
    row.liveKey ≠ request.liveKey
deriving Decidable

variable {δ : Type}

section

variable (tables : ResourceTables δ) (requestId : ResourceRequestId)

def findRequest : Option ResourceRequest :=
  Rows.lookup ResourceRequest.id tables.requests requestId

variable (leaseId : LeaseId)

def findLease : Option ResourceLease :=
  Rows.lookup ResourceLease.id tables.leases leaseId

variable (claimId : CapacityClaimId)

def findClaim : Option CapacityClaimRow :=
  Rows.lookup (fun row : CapacityClaimRow => row.claim.id) tables.claims claimId

/- `load_locked`: the stored request, validated again. -/
def loadRequest : ResourceStoreResult ResourceRequest := do
  let request ← require (findRequest tables requestId) .notFound
  request.validate.mapError .contract
  .ok request

def loadLease : ResourceStoreResult ResourceLease := do
  let lease ← require (findLease tables leaseId) .leaseNotFound
  lease.validate.mapError .contract
  .ok lease

def loadClaim : ResourceStoreResult CapacityClaimRow := do
  let row ← require (findClaim tables claimId) .capacityClaimNotFound
  row.claim.validate.mapError .contract
  .ok row

/- The key starts with a letter or a digit. -/
def requestKeyColumn (requestKey : String) : Prop :=
  requestKey.toList.head?.any (fun c => c.isLower || c.isDigit) = true
deriving Decidable

variable (request : ResourceRequest)

/- `insert_request`, with the keys of the table. -/
def insertRequest : ResourceStoreResult (ResourceTables δ) := do
  ensure (request.generation ≤ maxI64 ∧ request.target.releaseVersion ≤ maxI64 ∧
    request.requestedResources.fitsColumns ∧ request.requestedDurationSeconds ≤ maxI64 ∧
    request.revision.get ≤ maxI64)
    .numeric
  ensure (requestKeyColumn request.requestKey ∧ (∀ row ∈ tables.requests, row.id ≠ request.id ∧
    row.target.environmentId ≠ request.target.environmentId) ∧ liveKeyFree tables.requests request)
    .database
  .ok { tables with requests := request :: tables.requests }

/- `update_request`, fenced by the revision it read. -/
def updateRequest (current next : ResourceRequest) : ResourceStoreResult (ResourceTables δ) := do
  ensure (current.revision.get ≤ maxI64 ∧
    next.revision.get ≤ maxI64)
    .numeric
  ensure (liveKeyFree tables.requests next) .database
  ensure ((findRequest tables current.id).map (·.revision) = some current.revision)
    .revisionConflict
  .ok
    { tables with requests := Rows.replace ResourceRequest.id tables.requests next }

/- `update_lease`, fenced by the revision it read. -/
def updateLease (current next : ResourceLease) : ResourceStoreResult (ResourceTables δ) := do
  ensure (current.revision.get ≤ maxI64 ∧
    next.revision.get ≤ maxI64)
    .numeric
  ensure (next.state = .active → next.activeFrom.isSome = true) .database
  ensure ((findLease tables current.id).map (·.revision) = some current.revision) .revisionConflict
  .ok { tables with leases := Rows.replace ResourceLease.id tables.leases next }

/- `update_claim`, fenced by the revision it read. -/
def updateClaim (clock : UtcTimestamp) (current next : CapacityClaim) :
    ResourceStoreResult (ResourceTables δ) := do
  ensure (current.revision.get ≤ maxI64 ∧
    next.revision.get ≤ maxI64)
    .numeric
  ensure ((findClaim tables current.id).map (·.claim.revision) = some current.revision)
    .revisionConflict
  .ok
    { tables with
      claims := tables.claims.map (fun row =>
        if row.claim.id = current.id then { row with claim := next, updatedAt := clock } else row) }

/- `enqueue`: one event for an aggregate and a sequence. -/
def enqueueResourceEvent (event : ResourceEvent) : ResourceStoreResult (ResourceTables δ) := do
  ensure (event.aggregateSequence ≤ maxI64 ∧ ∀ old ∈ tables.outbox,
    old.aggregateId = event.aggregateId → old.aggregateSequence ≠ event.aggregateSequence)
    .persistence
  .ok { tables with outbox := event :: tables.outbox }

def enqueueRequestEvent (subject : ResourceSubject) (traceId : String) :
    ResourceStoreResult (ResourceTables δ) :=
  enqueueResourceEvent tables
    { subject, aggregateId := request.id.uuid, aggregateSequence := request.revision.get,
      occurredAt := request.updatedAt, traceId, request, lease := none }

def enqueueLeaseEvent (lease : ResourceLease) (request : ResourceRequest)
    (subject : ResourceSubject) (traceId : String) : ResourceStoreResult (ResourceTables δ) :=
  enqueueResourceEvent tables
    { subject, aggregateId := lease.id.uuid, aggregateSequence := lease.revision.get,
      occurredAt := lease.updatedAt, traceId, request, lease := some lease }

end

-- Idempotent Transactions

def ResourceResult.decodeRequest : ResourceResult → ResourceStoreResult ResourceRequest
| .request stored => do
    stored.validate.mapError .contract
    .ok stored
| .lease _ => .error .serialization

def ResourceResult.decodeLease : ResourceResult → ResourceStoreResult ResourceLease
| .lease stored => do
    stored.validate.mapError .contract
    .ok stored
| .request _ => .error .serialization

section

variable [DecidableEq δ]

/- Answer from the ledger, or carry out a transaction whose key is free. -/
def replayOr {α : Type} (tables : ResourceTables δ) (key : String × String) (requestHash : δ)
    (decode : ResourceResult → ResourceStoreResult α)
    (fresh : ResourceStoreResult (α × ResourceTables δ)) :
    ResourceStoreResult (α × ResourceTables δ) :=
  match tables.ledger.reserve key requestHash with
  | .replay result => do
      let value ← decode result
      .ok (value, tables)
  | .conflict => .error .idempotencyConflict
  | .inProgress => .error .idempotencyInProgress
  | .reserved => fresh

def completeLedger (tables : ResourceTables δ) (key : String × String) (requestHash : δ)
    (result : ResourceResult) : ResourceTables δ :=
  { tables with ledger := tables.ledger.complete key requestHash result }

namespace PgResourceStore

variable (hash : ResourceDocument → δ) (tables : ResourceTables δ)

/- `create`: a new request under review. -/
def create (idempotencyKey : String) (request : ResourceRequest) (traceId : String) :
    ResourceStoreResult (ResourceRequest × ResourceTables δ) := do
  request.validate.mapError .contract
  ensure (request.state = .reviewing) .invalidCreateState
  parseIdempotencyKey idempotencyKey
  validateTrace traceId
  let key := ("create_resource_request", idempotencyKey)
  let requestHash := hash (.create request)
  replayOr tables key requestHash decodeRequest do
    let tables ← insertRequest tables request
    let tables ← enqueueRequestEvent tables request .requestSubmitted traceId
    .ok (request, completeLedger tables key requestHash (.request request))

structure PendingAllocation where
  claim : CapacityClaim
  leaseId : LeaseId

/- `PendingAllocation::validate`: the lease to insert. -/
def PendingAllocation.lease (allocation : PendingAllocation) (request : ResourceRequest)
    (approval : ResourceApproval) (now : UtcTimestamp) :
    ResourceStoreResult ResourceLease := do
  allocation.claim.validate.mapError .contract
  ensure (allocation.claim.requestId = request.id ∧ allocation.claim.approvalId = approval.id ∧
    allocation.claim.providerBinding = approval.providerBinding ∧
    allocation.claim.workloadResources = approval.approvedResources ∧
    allocation.claim.state = .reserved)
    .allocationMismatch
  let lease : ResourceLease :=
    { id := allocation.leaseId, requestId := request.id, claimId := allocation.claim.id,
      state := .allocating, revision := Revision.one, activeFrom := none, expiresAt := none,
      revokeReasonCode := none, createdAt := now, updatedAt := now }
  lease.validate.mapError .contract
  .ok lease

variable (clock : UtcTimestamp)

/- The rows of an allocation, with the keys of the tables. -/
def insertAllocation (approval : ResourceApproval) (claim : CapacityClaim) (lease : ResourceLease) :
    ResourceStoreResult (ResourceTables δ) := do
  ensure (approval.requestRevision.get ≤ maxI64 ∧ approval.approvedResources.fitsColumns ∧
    approval.approvedDurationSeconds ≤ maxI64 ∧ claim.revision.get ≤ maxI64 ∧
    claim.workloadResources.fitsColumns ∧ claim.quotaResources.fitsColumns ∧
    lease.revision.get ≤ maxI64)
    .numeric
  ensure ((∀ row ∈ tables.approvals, row.id ≠ approval.id) ∧ (∀ row ∈ tables.claims,
    row.claim.id ≠ claim.id ∧ row.claim.requestId ≠ claim.requestId ∧
      row.claim.approvalId ≠ claim.approvalId) ∧
    (∀ row ∈ tables.leases, row.id ≠ lease.id ∧ row.requestId ≠ lease.requestId ∧
      row.claimId ≠ lease.claimId))
    .database
  .ok
    { tables with
      approvals := approval :: tables.approvals
      claims := { claim, leaseSyncedRevision := 0, updatedAt := clock } :: tables.claims
      leases := lease :: tables.leases }

variable (idempotencyKey : String) (requestId : ResourceRequestId)

/- `approve`: the request starts to be allocated. -/
def approve (approval : ResourceApproval) (allocation : PendingAllocation) (policy : ApprovalPolicy)
    (traceId : String) : ResourceStoreResult (ResourceRequest × ResourceTables δ) := do
  parseIdempotencyKey idempotencyKey
  validateTrace traceId
  let request ← loadRequest tables requestId
  let key := ("approve_resource_request", idempotencyKey)
  let requestHash := hash (.approve approval allocation.claim allocation.leaseId)
  replayOr tables key requestHash decodeRequest do
    let next ← (ResourceLifecycle.acceptApproval request approval policy clock).mapError .lifecycle
    let lease ← allocation.lease request approval clock
    let tables ← insertAllocation tables clock approval allocation.claim lease
    let tables ← updateRequest tables request next
    let tables ← enqueueRequestEvent tables next .requestApproved traceId
    .ok (next, completeLedger tables key requestHash (.request next))

variable (expectedRevision : Revision)

def rejectOrCancel (terminal : ResourceRequestState) (traceId : String) :
    ResourceStoreResult (ResourceRequest × ResourceTables δ) := do
  parseIdempotencyKey idempotencyKey
  validateTrace traceId
  ensure (terminal = .rejected ∨ terminal = .cancelled) .invalidCreateState
  let request ← loadRequest tables requestId
  let key := ("terminal_resource_request", idempotencyKey)
  let requestHash := hash (.terminal requestId expectedRevision terminal)
  replayOr tables key requestHash decodeRequest do
    let next ← (ResourceLifecycle.rejectOrCancel request expectedRevision terminal
        clock).mapError .lifecycle
    let tables ← updateRequest tables request next
    let tables ← enqueueRequestEvent tables next (if terminal = .rejected then .requestRejected
          else .requestCancelled)
        traceId
    .ok (next, completeLedger tables key requestHash (.request next))

/- `retry`: a rejected request goes back to review. -/
def retry (traceId : String) : ResourceStoreResult (ResourceRequest × ResourceTables δ) := do
  parseIdempotencyKey idempotencyKey
  validateTrace traceId
  let request ← loadRequest tables requestId
  let key := ("retry_resource_request", idempotencyKey)
  let requestHash := hash (.retry requestId expectedRevision)
  replayOr tables key requestHash decodeRequest do
    let next ← (ResourceLifecycle.retry request expectedRevision clock).mapError .lifecycle
    let tables ← updateRequest tables request next
    let tables ← enqueueRequestEvent tables next .requestStateChanged traceId
    .ok (next, completeLedger tables key requestHash (.request next))

variable (leaseId : LeaseId)

def renewLease (expectedRevision : Revision) (expiresAt : UtcTimestamp) (traceId : String) :
    ResourceStoreResult (ResourceLease × ResourceTables δ) := do
  parseIdempotencyKey idempotencyKey
  validateTrace traceId
  let lease ← loadLease tables leaseId
  let key := ("renew_resource_lease", idempotencyKey)
  let requestHash := hash (.renew leaseId expectedRevision expiresAt)
  replayOr tables key requestHash decodeLease do
    let next ← (ResourceLifecycle.renewLease lease expectedRevision
        expiresAt clock).mapError .lifecycle
    let request ← loadRequest tables lease.requestId
    let tables ← updateLease tables lease next
    let tables ← enqueueLeaseEvent tables next request .leaseRenewed traceId
    .ok (next, completeLedger tables key requestHash (.lease next))

def moveLeaseAndRequest (lease nextLease : ResourceLease)
    (request nextRequest : ResourceRequest) (subject : ResourceSubject) (traceId : String) :
    ResourceStoreResult (ResourceTables δ) := do
  let tables ← updateLease tables lease nextLease
  let tables ← updateRequest tables request nextRequest
  let tables ← enqueueLeaseEvent tables nextLease nextRequest subject traceId
  enqueueRequestEvent tables nextRequest .requestStateChanged traceId

def revokeLease (expectedRevision : Revision) (reason : String) (traceId : String) :
    ResourceStoreResult (ResourceLease × ResourceTables δ) := do
  parseIdempotencyKey idempotencyKey
  validateTrace traceId
  let lease ← loadLease tables leaseId
  let key := ("revoke_resource_lease", idempotencyKey)
  let requestHash := hash (.revoke leaseId expectedRevision reason)
  replayOr tables key requestHash decodeLease do
    let next ← (ResourceLifecycle.revokeLease lease
        expectedRevision clock reason).mapError .lifecycle
    let request ← loadRequest tables lease.requestId
    let nextRequest ← (ResourceLifecycle.beginExpiry request
        request.revision clock).mapError .lifecycle
    let tables ← moveLeaseAndRequest tables lease next request nextRequest .leaseRevoked traceId
    .ok (next, completeLedger tables key requestHash (.lease next))

end PgResourceStore

end

-- Transactions Of The Reconciler

def CapacityClaimState.moves : CapacityClaimState → CapacityClaimState → Bool
| .reserved, .provisioning => true
| .provisioning, .reserved | .provisioning, .ready
| .provisioning, .blocked => true
| .ready, .handedOff | .ready, .blocked => true
| .blocked, .releasing | .handedOff, .releasing => true
| .releasing, .released | .releasing, .blocked => true
| _, _ => false

def transitionClaim (claim : CapacityClaim) (state : CapacityClaimState) :
    ResourceStoreResult CapacityClaim := do
  ensure (claim.state.moves state = true) .capacityClaimStateConflict
  let revision ← require claim.revision.next .revisionOverflow
  .ok { claim with state, revision }

namespace PgResourceStore

section

variable (tables : ResourceTables δ)

def activateLease (leaseId : LeaseId) (expectedRevision : Revision)
    (activeFrom expiresAt : UtcTimestamp) (traceId : String) :
    ResourceStoreResult (ResourceLease × ResourceTables δ) := do
  validateTrace traceId
  let lease ← loadLease tables leaseId
  let request ← loadRequest tables lease.requestId
  let next ← (ResourceLifecycle.activateLease lease expectedRevision
      activeFrom expiresAt).mapError .lifecycle
  let nextRequest ← (ResourceLifecycle.activate request request.revision
      activeFrom).mapError .lifecycle
  let tables ← moveLeaseAndRequest tables lease next request nextRequest .leaseActivated traceId
  .ok (next, tables)

variable (clock : UtcTimestamp) (leaseId : LeaseId) (expectedRevision : Revision)

def beginLeaseExpiry (reason : Option String) (traceId : String) :
    ResourceStoreResult (ResourceLease × ResourceTables δ) := do
  validateTrace traceId
  let lease ← loadLease tables leaseId
  let request ← loadRequest tables lease.requestId
  let next ← (ResourceLifecycle.beginLeaseExpiry lease
      expectedRevision clock reason).mapError .lifecycle
  let nextRequest ← (ResourceLifecycle.beginExpiry request request.revision
      clock).mapError .lifecycle
  let tables ← moveLeaseAndRequest tables lease next request nextRequest .leaseExpiring traceId
  .ok (next, tables)

def completeLeaseExpiry (traceId : String) :
    ResourceStoreResult (ResourceLease × ResourceTables δ) := do
  validateTrace traceId
  let lease ← loadLease tables leaseId
  let request ← loadRequest tables lease.requestId
  let next ← (ResourceLifecycle.completeLeaseExpiry lease
      expectedRevision clock).mapError .lifecycle
  let nextRequest ← (ResourceLifecycle.completeExpiry request
      request.revision clock).mapError .lifecycle
  let tables ← moveLeaseAndRequest tables lease next request nextRequest .leaseExpired traceId
  .ok (next, tables)

variable (claimId : CapacityClaimId)

def leaseOfClaim : Option ResourceLease := Rows.lookup ResourceLease.claimId tables.leases claimId

def oneMinute : Nat := 60 * 1000

variable (candidate : CapacityClaimId)

/- The candidate that the query picks: a reserved shell, or one whose provisioning was left alone
  for a minute. -/
def claimNextCapacityShell : ResourceStoreResult (ResourceTables δ) := do
  let row ← loadClaim tables candidate
  let lease ← require (leaseOfClaim tables candidate) .database
  lease.validate.mapError .contract
  ensure (row.claim.state = .reserved ∨ row.claim.state = .provisioning ∧
    row.updatedAt ≤ clock - oneMinute)
    .database
  ensure (lease.state = .allocating) .capacityClaimStateConflict
  if row.claim.state = .provisioning then
    let recovered ← transitionClaim row.claim .reserved
    let tables ← updateClaim tables clock row.claim recovered
    let next ← transitionClaim recovered .provisioning
    updateClaim tables clock recovered next
  else
    let next ← transitionClaim row.claim .provisioning
    updateClaim tables clock row.claim next

variable (expectedRevision : Revision)

def moveClaim (sources : List CapacityClaimState) (target : CapacityClaimState) :
    ResourceStoreResult (ResourceTables δ) := do
  let row ← loadClaim tables claimId
  ensure (row.claim.revision = expectedRevision ∧ row.claim.state ∈ sources)
    .capacityClaimStateConflict
  let next ← transitionClaim row.claim target
  updateClaim tables clock row.claim next

/- `mark_capacity_shell_ready`: the Provider read back a namespace and the identifiers of its
  objects. -/
def markCapacityShellReady (namespaceName namespaceUid quotaUid : String) :
    ResourceStoreResult (ResourceTables δ) := do
  ensure (labelText namespaceName ∧ namespaceUid.isEmpty = false ∧ quotaUid.isEmpty = false)
    .capacityReadbackInvalid
  moveClaim tables clock claimId expectedRevision [.provisioning] .ready

def markCapacityHandedOff : ResourceStoreResult (ResourceTables δ) :=
  moveClaim tables clock claimId expectedRevision [.ready] .handedOff

def markCapacityReleasing : ResourceStoreResult (ResourceTables δ) :=
  moveClaim tables clock claimId expectedRevision [.blocked, .handedOff] .releasing

def validDiagnostic (code : String) : Prop :=
  code.utf8ByteSize ≤ 128 ∧ code.toList.take 3 = ['L', 'W', '_'] ∧
  code.toList.all (fun c => c.isUpper || c.isDigit || c == '_') = true
deriving Decidable

variable (diagnosticCode : String)

def markCapacityShellBlocked : ResourceStoreResult (ResourceTables δ) := do
  ensure (validDiagnostic diagnosticCode) .diagnosticInvalid
  moveClaim tables clock claimId expectedRevision [.provisioning] .blocked

variable (step : CapacityStep)

def nextAttempt : Nat :=
  (tables.attempts.filter (fun row => row.claimId = claimId ∧ row.step = step)).length + 1

/- Record an attempt; the third one is given up. -/
def recordAttempt (failed : Bool) (nextAttemptAt : UtcTimestamp) : ResourceTables δ :=
  { tables with
    attempts :=
      { claimId, attempt := nextAttempt tables claimId step, step,
        failed, nextAttemptAt } ::
        tables.attempts }

def retryOrBlockCapacityShell : ResourceStoreResult (ResourceTables δ) := do
  ensure (validDiagnostic diagnosticCode) .diagnosticInvalid
  let attempt := nextAttempt tables claimId .provisionQuota
  let recorded := recordAttempt tables claimId .provisionQuota false clock
  moveClaim recorded clock claimId expectedRevision [.provisioning]
    (if 3 ≤ attempt then .blocked else .reserved)

def retryOrBlockCapacityHandoff : ResourceStoreResult (ResourceTables δ) := do
  ensure (validDiagnostic diagnosticCode) .diagnosticInvalid
  let row ← loadClaim tables claimId
  ensure (row.claim.revision = expectedRevision ∧ row.claim.state = .ready)
    .capacityClaimStateConflict
  let attempt := nextAttempt tables claimId .handoffEnvironment
  let recorded := recordAttempt tables claimId .handoffEnvironment (3 ≤ attempt) clock
  if 3 ≤ attempt then
    let next ← transitionClaim row.claim .blocked
    updateClaim recorded clock row.claim next
  else .ok recorded

def markLeaseSynced (leaseRevision : Revision) : ResourceStoreResult (ResourceTables δ) := do
  ensure (leaseRevision.get ≤ maxI64) .numeric
  ensure ((findClaim tables claimId).any (fun row => row.claim.state = .handedOff ∧
        row.leaseSyncedRevision < leaseRevision.get) =
    true ∧ (leaseOfClaim tables claimId).any (fun lease => lease.state = .active ∧
      lease.revision = leaseRevision) =
      true)
    .revisionConflict
  .ok
    { tables with
      claims := tables.claims.map (fun row =>
        if row.claim.id = claimId then
          { row with leaseSyncedRevision := leaseRevision.get, updatedAt := clock }
        else row) }

/- The rows that `next_lease_cleanup` selects. -/
def cleanupDue (claim : CapacityClaim) (lease : ResourceLease) : Prop :=
  claim.state ∈ [.blocked, .handedOff, .releasing] ∧
  (lease.state = .expiring ∨ lease.state = .active ∧
    lease.expiresAt.any (fun stop => stop ≤ clock) = true) ∧
  ∀ row ∈ tables.attempts, row.claimId = claim.id → row.step.cleanup = true →
    row.failed = false ∧ row.nextAttemptAt ≤ clock
deriving Decidable

/- `next_lease_cleanup` on the candidate that the query picks. An Active lease that is over starts
  to expire. -/
def nextLeaseCleanup : ResourceStoreResult (ResourceTables δ) := do
  let row ← loadClaim tables candidate
  let lease ← require (leaseOfClaim tables candidate) .database
  lease.validate.mapError .contract
  let request ← loadRequest tables row.claim.requestId
  ensure (cleanupDue tables clock row.claim lease) .database
  if lease.state = .active then
    let next ← (ResourceLifecycle.beginLeaseExpiry lease
        lease.revision clock none).mapError .lifecycle
    let nextRequest ← (ResourceLifecycle.beginExpiry request
        request.revision clock).mapError .lifecycle
    moveLeaseAndRequest tables lease next request nextRequest .leaseExpiring
      ("resource-lease-expire-" ++ uuidText lease.id.uuid)
  else .ok tables

def completeCapacityRelease (expectedClaimRevision : Revision) (leaseId : LeaseId)
    (expectedLeaseRevision : Revision) (traceId : String) :
    ResourceStoreResult (ResourceLease × ResourceTables δ) := do
  validateTrace traceId
  let row ← loadClaim tables claimId
  let lease ← loadLease tables leaseId
  let request ← loadRequest tables lease.requestId
  ensure (row.claim.revision = expectedClaimRevision ∧ row.claim.state = .releasing ∧
    lease.revision = expectedLeaseRevision ∧ lease.state = .expiring ∧ lease.claimId = row.claim.id)
    .capacityClaimStateConflict
  let nextClaim ← transitionClaim row.claim .released
  let nextLease ← (ResourceLifecycle.completeLeaseExpiry lease
      lease.revision clock).mapError .lifecycle
  let nextRequest ← (ResourceLifecycle.completeExpiry request
      request.revision clock).mapError .lifecycle
  let tables ← updateClaim tables clock row.claim nextClaim
  let tables ← moveLeaseAndRequest tables lease nextLease request nextRequest .leaseExpired traceId
  .ok (nextLease, tables)

def recordReconciliationFailure (diagnosticCode : String) :
    ResourceStoreResult (ResourceTables δ) := do
  ensure (step.cleanup = true ∧ validDiagnostic diagnosticCode) .diagnosticInvalid
  let row ← require (findClaim tables claimId) .capacityClaimNotFound
  ensure (row.claim.state = .handedOff ∨ row.claim.state = .releasing) .capacityClaimStateConflict
  let attempt := nextAttempt tables claimId step
  let delay : Nat := min attempt 12 * 5000
  let recorded := recordAttempt tables claimId step (3 ≤ attempt) (clock + delay)
  .ok
    { recorded with
      claims := tables.claims.map (fun row =>
        if row.claim.id = claimId then { row with updatedAt := clock } else row) }

end

end PgResourceStore

end LabWeaver
