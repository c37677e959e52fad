import LabWeaver.Base.Machine
import LabWeaver.Resource.Capacity

/-
  This file assembles the Resource service as a state machine of its transactions, with its
  capacity worker beside it: the worker reads a claim, calls the cluster or the Environment
  service, and commits a transaction on the claim, while requests to the service commit in
  between. The answers of the others are inputs, and which due claim a query returns is left open.

  Key definitions: `resourceService`, `WorkerPlace`.
-/

namespace LabWeaver

open Outcome PgResourceStore KubernetesQuotaShellPlan

-- The State Machine

structure ResourceState (δ : Type) where
  clock : UtcTimestamp
  tables : ResourceTables δ

/- The transactions of the service, with their arguments. -/
inductive ResourceAction where
| tick (now : UtcTimestamp)
| create (idempotencyKey : String) (request : ResourceRequest) (traceId : String)
| approve (idempotencyKey : String) (requestId : ResourceRequestId) (approval : ResourceApproval)
    (allocation : PgResourceStore.PendingAllocation) (policy : ApprovalPolicy) (traceId : String)
| rejectOrCancel (idempotencyKey : String) (requestId : ResourceRequestId)
    (expectedRevision : Revision) (terminal : ResourceRequestState) (traceId : String)
| retry (idempotencyKey : String) (requestId : ResourceRequestId) (expectedRevision : Revision)
    (traceId : String)
| renewLease (idempotencyKey : String) (leaseId : LeaseId) (expectedRevision : Revision)
    (expiresAt : UtcTimestamp) (traceId : String)
| revokeLease (idempotencyKey : String) (leaseId : LeaseId) (expectedRevision : Revision)
    (reason : String) (traceId : String)
| activateLease (leaseId : LeaseId) (expectedRevision : Revision)
    (activeFrom expiresAt : UtcTimestamp) (traceId : String)
| beginLeaseExpiry (leaseId : LeaseId) (expectedRevision : Revision) (reason : Option String)
    (traceId : String)
| completeLeaseExpiry (leaseId : LeaseId) (expectedRevision : Revision) (traceId : String)
| claimNextCapacityShell (candidate : CapacityClaimId)
| markCapacityShellReady (claimId : CapacityClaimId) (expectedRevision : Revision)
    (namespaceName namespaceUid quotaUid : String)
| markCapacityHandedOff (claimId : CapacityClaimId) (expectedRevision : Revision)
| markCapacityReleasing (claimId : CapacityClaimId) (expectedRevision : Revision)
| markCapacityShellBlocked (claimId : CapacityClaimId) (expectedRevision : Revision)
    (diagnosticCode : String)
| retryOrBlockCapacityShell (claimId : CapacityClaimId) (expectedRevision : Revision)
    (diagnosticCode : String)
| retryOrBlockCapacityHandoff (claimId : CapacityClaimId) (expectedRevision : Revision)
    (diagnosticCode : String)
| markLeaseSynced (claimId : CapacityClaimId) (leaseRevision : Revision)
| nextLeaseCleanup (candidate : CapacityClaimId)
| completeCapacityRelease (claimId : CapacityClaimId) (expectedClaimRevision : Revision)
    (leaseId : LeaseId) (expectedLeaseRevision : Revision) (traceId : String)
| recordReconciliationFailure (claimId : CapacityClaimId) (step : CapacityStep)
    (diagnosticCode : String)

namespace ResourceState

variable {δ : Type}

def commit (s : ResourceState δ) (result : ResourceStoreResult (ResourceTables δ)) :
    Option (ResourceState δ) :=
  match result with
  | .ok tables => some { s with tables }
  | .error _ => none

def commitSnd {α : Type} (s : ResourceState δ)
    (result : ResourceStoreResult (α × ResourceTables δ)) :
    Option (ResourceState δ) :=
  s.commit (result.map (·.2))

variable [DecidableEq δ]

/- One transaction of the service. -/
def step (hash : ResourceDocument → δ) (s : ResourceState δ) :
    ResourceAction → Option (ResourceState δ)
| .tick now => if s.clock ≤ now then some { s with clock := now } else none
| .create key request trace => s.commitSnd (create hash s.tables key request trace)
| .approve key requestId approval allocation policy trace =>
  s.commitSnd (approve hash s.tables s.clock key requestId approval allocation policy trace)
| .rejectOrCancel key requestId revision terminal trace =>
  s.commitSnd (rejectOrCancel hash s.tables s.clock key requestId revision terminal trace)
| .retry key requestId revision trace =>
  s.commitSnd (retry hash s.tables s.clock key requestId revision trace)
| .renewLease key leaseId revision expiresAt trace =>
  s.commitSnd (renewLease hash s.tables s.clock key leaseId revision expiresAt trace)
| .revokeLease key leaseId revision reason trace =>
  s.commitSnd (revokeLease hash s.tables s.clock key leaseId revision reason trace)
| .activateLease leaseId revision activeFrom expiresAt trace =>
  s.commitSnd (activateLease s.tables leaseId revision activeFrom expiresAt trace)
| .beginLeaseExpiry leaseId revision reason trace =>
  s.commitSnd (beginLeaseExpiry s.tables s.clock leaseId revision reason trace)
| .completeLeaseExpiry leaseId revision trace =>
  s.commitSnd (completeLeaseExpiry s.tables s.clock leaseId revision trace)
| .claimNextCapacityShell candidate => s.commit (claimNextCapacityShell s.tables s.clock candidate)
| .markCapacityShellReady claimId revision name uid quota =>
  s.commit (markCapacityShellReady s.tables s.clock claimId revision name uid quota)
| .markCapacityHandedOff claimId revision =>
  s.commit (markCapacityHandedOff s.tables s.clock claimId revision)
| .markCapacityReleasing claimId revision =>
  s.commit (markCapacityReleasing s.tables s.clock claimId revision)
| .markCapacityShellBlocked claimId revision code =>
  s.commit (markCapacityShellBlocked s.tables s.clock claimId revision code)
| .retryOrBlockCapacityShell claimId revision code =>
  s.commit (retryOrBlockCapacityShell s.tables s.clock claimId revision code)
| .retryOrBlockCapacityHandoff claimId revision code =>
  s.commit (retryOrBlockCapacityHandoff s.tables s.clock claimId revision code)
| .markLeaseSynced claimId revision => s.commit (markLeaseSynced s.tables s.clock claimId revision)
| .nextLeaseCleanup candidate => s.commit (nextLeaseCleanup s.tables s.clock candidate)
| .completeCapacityRelease claimId claimRevision leaseId leaseRevision trace =>
  s.commitSnd (completeCapacityRelease s.tables s.clock claimId
    claimRevision leaseId leaseRevision trace)
| .recordReconciliationFailure claimId step code =>
  s.commit (recordReconciliationFailure s.tables s.clock claimId step code)

/- The service starts with empty tables. -/
def initial (s : ResourceState δ) : Prop :=
  s.tables.requests = [] ∧ s.tables.approvals = [] ∧ s.tables.claims = [] ∧ s.tables.leases = [] ∧
  s.tables.attempts = [] ∧ (∀ key, s.tables.ledger key = none) ∧ s.tables.outbox = []

end ResourceState

def resourceService {δ : Type} [DecidableEq δ] (hash : ResourceDocument → δ) :
    Machine (ResourceState δ) ResourceAction where
  init := ResourceState.initial
  step := ResourceState.step hash

-- Queries

structure ProvisioningCapacityClaim where
  claim : CapacityClaim
  request : ResourceRequest
  lease : ResourceLease
deriving DecidableEq

variable {δ : Type}

section

variable (tables : ResourceTables δ) (claimId : CapacityClaimId)

/- The joined rows of a claim, validated again. -/
def readCapacityClaim : ResourceStoreResult ProvisioningCapacityClaim := do
  let row ← loadClaim tables claimId
  let request ← loadRequest tables row.claim.requestId
  let lease ← require (leaseOfClaim tables claimId) .database
  lease.validate.mapError .contract
  .ok { claim := row.claim, request, lease }

variable (clock : UtcTimestamp)

/- The rows that `claim_next_capacity_shell` selects. -/
def shellDue (claimId : CapacityClaimId) : Prop :=
  ∃ row ∈ findClaim tables claimId, row.claim.state = .reserved ∨ row.claim.state = .provisioning ∧
    row.updatedAt ≤ clock - oneMinute
deriving Decidable

/- The rows that `next_ready_capacity_handoff` selects. -/
def readyDue : Prop :=
  ∃ row ∈ findClaim tables claimId, row.claim.state = .ready
deriving Decidable

/- The rows that `next_unsynced_active_lease` selects. -/
def unsyncedDue : Prop :=
  ∃ row ∈ findClaim tables claimId, ∃ lease ∈ leaseOfClaim tables claimId,
    row.claim.state = .handedOff ∧ lease.state = .active ∧
      row.leaseSyncedRevision < lease.revision.get
deriving Decidable

/- The rows that `next_lease_cleanup` selects. -/
def claimCleanupDue (claimId : CapacityClaimId) : Prop :=
  ∃ row ∈ findClaim tables claimId, ∃ lease ∈ leaseOfClaim tables claimId,
    cleanupDue tables clock row.claim lease
deriving Decidable

end

-- The Places Of The Worker

/- Where the loop stands between two transactions, with the rows that it has read. -/
inductive WorkerPlace where
| idle
| reserving (item : ProvisioningCapacityClaim)
| readyHandoff
| activating (item : ProvisioningCapacityClaim)
| opening (item : ProvisioningCapacityClaim) (now : UtcTimestamp)
| refreshing (claimId : CapacityClaimId)
| handingOff (item : ProvisioningCapacityClaim)
| leaseSync
| syncing (item : ProvisioningCapacityClaim)
| leaseCleanup
| cleaning (item : ProvisioningCapacityClaim)
| stopped (error : ResourceStoreError)
| panicked
deriving DecidableEq

/- The part of the cleanup status that is looked at. -/
structure CleanupStatus where
  (cleanupComplete failed : Bool)
  diagnosticCode : Option String
deriving DecidableEq

abbrev ProviderResult := Except CapacityProviderError

/- What the cluster and the Environment service answer. -/
inductive CleanupAnswer where
| requested (result : ProviderResult Unit)
| released (result : ProviderResult Unit)
| observed (status : ProviderResult CleanupStatus) (verified : ProviderResult Unit)
deriving DecidableEq

/- The next thing that the loop does. -/
inductive WorkerEvent where
| claimShell (candidate : Option CapacityClaimId)
| reserve (answer : ProviderResult (String × String))
| readReady (candidate : Option CapacityClaimId)
| readTime
| activate
| refresh
| handoff (answer : ProviderResult Unit)
| readUnsynced (candidate : Option CapacityClaimId)
| sync (answer : ProviderResult Unit)
| claimCleanup (candidate : Option CapacityClaimId)
| cleanup (answer : CleanupAnswer)
deriving DecidableEq

-- One Turn Of The Loop

abbrev CapacityProviders := String → Option KubernetesCapacityProviderConfiguration

/- The tables to commit, and where the loop goes on. -/
abbrev WorkerTurn (δ : Type) := ResourceTables δ × WorkerPlace

section

def goOn (result : ResourceStoreResult (ResourceTables δ)) (next : WorkerPlace) :
    ResourceStoreResult (WorkerTurn δ) := do
  let tables ← result
  .ok (tables, next)

variable (tables : ResourceTables δ)

/- `claim_next_capacity_shell`, with the rows it returns. -/
def claimShell (clock : UtcTimestamp) (candidate : CapacityClaimId) :
    ResourceStoreResult (WorkerTurn δ) := do
  let read ← readCapacityClaim tables candidate
  let tables ← claimNextCapacityShell tables clock candidate
  let row ← loadClaim tables candidate
  .ok (tables, .reserving { read with claim := row.claim })

def providerUnavailable : String := "LW_RESOURCE_CAPACITY_PROVIDER_UNAVAILABLE"

variable (providers : CapacityProviders) (tables : ResourceTables δ) (clock : UtcTimestamp)
  (item : ProvisioningCapacityClaim)

/- `reconcile_once`, after a shell was claimed. -/
def provisionShell (answer : ProviderResult (String × String)) :
    ResourceStoreResult (WorkerTurn δ) :=
  let claimId := item.claim.id
  let revision := item.claim.revision
  match providers item.claim.providerBinding with
  | none => goOn (markCapacityShellBlocked tables clock claimId revision providerUnavailable) .idle
  | some configuration =>
    match fromClaim configuration item.request item.claim with
    | .error .unavailable =>
      goOn (retryOrBlockCapacityShell tables clock claimId revision
        CapacityProviderError.unavailable.diagnostic)
        .idle
    | .error error =>
      goOn (markCapacityShellBlocked tables clock claimId revision error.diagnostic) .idle
    | .ok plan =>
      match answer with
      | .ok (namespaceUid, quotaUid) =>
        goOn (markCapacityShellReady tables clock claimId revision plan.namespaceName namespaceUid
          quotaUid)
          .readyHandoff
      | .error error =>
        goOn (markCapacityShellBlocked tables clock claimId revision error.diagnostic) .readyHandoff

variable (candidate : CapacityClaimId)

/- `next_ready_capacity_handoff`. -/
def readReady : ResourceStoreResult (WorkerTurn δ) := do
  let item ← readCapacityClaim tables candidate
  if item.lease.state = .active then .ok (tables, .refreshing item.claim.id)
  else .ok (tables, .activating item)

def windowDuration (request : ResourceRequest) : Nat := request.requestedDurationSeconds * 1000

/- The window of the lease lasts for the duration in the request. The addition panics past the last
  representable time. -/
def openWindow (now : UtcTimestamp) : ResourceStoreResult (WorkerTurn δ) := do
  ensure (item.request.requestedDurationSeconds ≤ maxI64) .capacityReadbackInvalid
  match addDuration now (windowDuration item.request) with
  | none => .ok (tables, .panicked)
  | some expiresAt =>
    let (_, tables) ← activateLease tables item.lease.id item.lease.revision now expiresAt
        ("resource-lease-activate-" ++ uuidText item.claim.id.uuid)
    .ok (tables, .refreshing item.claim.id)

/- `refresh_ready_claim`. -/
def refreshClaim (claimId : CapacityClaimId) : ResourceStoreResult (WorkerTurn δ) :=
  if readyDue tables claimId then do
    let item ← readCapacityClaim tables claimId
    .ok (tables, .handingOff item)
  else .ok (tables, .leaseSync)

variable (answer : ProviderResult Unit)

/- The handoff is refused unless the lease is Active. -/
def handOff : ResourceStoreResult (WorkerTurn δ) :=
  let result : ProviderResult Unit :=
    if item.lease.state = .active then answer else .error .handoffFence
  match result with
  | .ok () => goOn (markCapacityHandedOff tables clock item.claim.id item.claim.revision) .leaseSync
  | .error error =>
    goOn (retryOrBlockCapacityHandoff tables clock
      item.claim.id item.claim.revision error.diagnostic)
      .leaseSync

/- `next_unsynced_active_lease`. -/
def readUnsynced : ResourceStoreResult (WorkerTurn δ) := do
  let item ← readCapacityClaim tables candidate
  .ok (tables, .syncing item)

/- `reconcile_lease_sync`, after the lease was read. -/
def syncLease : ResourceStoreResult (WorkerTurn δ) :=
  match answer with
  | .ok () => goOn (markLeaseSynced tables clock item.claim.id item.lease.revision) .leaseCleanup
  | .error _ => .ok (tables, .leaseCleanup)

/- `next_lease_cleanup`, with the rows it returns. -/
def claimCleanup : ResourceStoreResult (WorkerTurn δ) := do
  let read ← readCapacityClaim tables candidate
  let tables ← nextLeaseCleanup tables clock candidate
  let lease ← require (leaseOfClaim tables candidate) .database
  .ok (tables, .cleaning { read with lease })

def environmentCleanupFailed : String := "LW_RESOURCE_ENVIRONMENT_CLEANUP_FAILED"

/- `reconcile_releasing_capacity`. -/
def releaseCapacity (status : ProviderResult CleanupStatus) (verified : ProviderResult Unit) :
    ResourceStoreResult (WorkerTurn δ) :=
  let record := fun step code => goOn (recordReconciliationFailure tables clock
    item.claim.id step code)
    .idle
  match status with
  | .error error => record .expireEnvironment error.diagnostic
  | .ok status =>
    if status.cleanupComplete = false then
      if status.failed then
        record .expireEnvironment (status.diagnosticCode.getD environmentCleanupFailed)
      else .ok (tables, .idle)
    else
      match providers item.claim.providerBinding with
      | none => record .releaseCapacity providerUnavailable
      | some configuration =>
        match fromClaim configuration item.request item.claim with
        | .error _ => .error .capacityReadbackInvalid
        | .ok _ =>
          match verified with
          | .error error => record .releaseCapacity error.diagnostic
          | .ok () => do
              let (_, tables) ← completeCapacityRelease tables clock
                  item.claim.id item.claim.revision
                  item.lease.id item.lease.revision
                  ("resource-capacity-release-" ++ uuidText item.claim.id.uuid)
              .ok (tables, .idle)

/- `reconcile_lease_cleanup`, after the rows were claimed. -/
def cleanUp (answer : CleanupAnswer) : Option (ResourceStoreResult (WorkerTurn δ)) :=
  match item.claim.state, answer with
  | .handedOff, .requested (.error error) =>
    some (goOn (recordReconciliationFailure tables clock item.claim.id .expireEnvironment
      error.diagnostic)
      .idle)
  | .handedOff, .requested (.ok ()) =>
    some (goOn (markCapacityReleasing tables clock item.claim.id item.claim.revision) .idle)
  | .handedOff, _ => none
  | .blocked, .released result =>
    match providers item.claim.providerBinding with
    | none => some (.ok (tables, .idle))
    | some configuration =>
      match fromClaim configuration item.request item.claim with
      | .error _ => some (.error .capacityReadbackInvalid)
      | .ok _ =>
        match result with
        | .error _ => some (.ok (tables, .idle))
        | .ok () =>
          some (goOn (markCapacityReleasing tables clock item.claim.id item.claim.revision) .idle)
  | .blocked, _ => none
  | _, .observed status verified =>
    some (releaseCapacity providers tables clock item status verified)
  | _, _ => none

/- One step of the loop. A query returns a due row or, where it does not skip locked rows, nothing
  if no row is due. -/
def workerStep : WorkerPlace → WorkerEvent → Option (ResourceStoreResult (WorkerTurn δ))
| .idle, .claimShell none => some (.ok (tables, .readyHandoff))
| .idle, .claimShell (some candidate) =>
  if shellDue tables clock candidate then some (claimShell tables clock candidate) else none
| .reserving item, .reserve answer => some (provisionShell providers tables clock item answer)
| .readyHandoff, .readReady none =>
  if ∀ row ∈ tables.claims, ¬readyDue tables row.claim.id then some (.ok (tables, .leaseSync))
  else none
| .readyHandoff, .readReady (some candidate) =>
  if readyDue tables candidate then some (readReady tables candidate) else none
| .activating item, .readTime => some (.ok (tables, .opening item clock))
| .opening item now, .activate => some (openWindow tables item now)
| .refreshing claimId, .refresh => some (refreshClaim tables claimId)
| .handingOff item, .handoff answer => some (handOff tables clock item answer)
| .leaseSync, .readUnsynced none =>
  if ∀ row ∈ tables.claims, ¬unsyncedDue tables row.claim.id then some (.ok (tables, .leaseCleanup))
  else none
| .leaseSync, .readUnsynced (some candidate) =>
  if unsyncedDue tables candidate then some (readUnsynced tables candidate) else none
| .syncing item, .sync answer => some (syncLease tables clock item answer)
| .leaseCleanup, .claimCleanup none => some (.ok (tables, .idle))
| .leaseCleanup, .claimCleanup (some candidate) =>
  if claimCleanupDue tables clock candidate then some (claimCleanup tables clock candidate)
  else none
| .cleaning item, .cleanup answer => cleanUp providers tables clock item answer
| _, _ => none

end

-- The Service And Its Worker

structure CapacityWorld (δ : Type) where
  resource : ResourceState δ
  worker : WorkerPlace

inductive CapacityAction where
| api (action : ResourceAction)
| work (event : WorkerEvent)
| restart

/- The transactions that requests to the service run. -/
def ResourceAction.api : ResourceAction → Bool
| .tick .. | .create .. | .approve .. | .rejectOrCancel ..
| .retry .. | .renewLease .. | .revokeLease .. => true
| _ => false

namespace CapacityWorld

/- An error of a transaction ends the loop. -/
def settle (s : CapacityWorld δ) (result : ResourceStoreResult (WorkerTurn δ)) : CapacityWorld δ :=
  match result with
  | .ok (tables, next) => { resource := { s.resource with tables }, worker := next }
  | .error error => { s with worker := .stopped error }

variable [DecidableEq δ]

/- A request, a step of the worker, or a new worker. -/
def step (hash : ResourceDocument → δ) (providers : CapacityProviders) (s : CapacityWorld δ) :
    CapacityAction → Option (CapacityWorld δ)
| .api action =>
  if action.api then (s.resource.step hash action).map (fun resource => { s with resource })
  else none
| .work event =>
  (workerStep providers s.resource.tables s.resource.clock s.worker event).map s.settle
| .restart => some { s with worker := .idle }

/- Empty tables, and the loop at its start. -/
def initial (s : CapacityWorld δ) : Prop := s.resource.initial ∧ s.worker = .idle

end CapacityWorld

/- The Resource service with its capacity worker. -/
def capacityWorld {δ : Type} [DecidableEq δ] (hash : ResourceDocument → δ)
    (providers : CapacityProviders) : Machine (CapacityWorld δ) CapacityAction where
  init := CapacityWorld.initial
  step := CapacityWorld.step hash providers

-- A Claim In Work

namespace WorkerSample

/- A request for ten minutes. -/
def request : ResourceRequest :=
  { ShellSample.request with state := .reviewing, revision := Revision.one, updatedAt := 1000 }

/- It is approved for five. -/
def approval : ResourceApproval where
  id := ShellSample.claim.approvalId
  requestId := request.id
  requestRevision := Revision.one
  approverId := ⟨31⟩
  providerBinding := ShellSample.claim.providerBinding
  approvedResources := ShellSample.resources
  approvedDurationSeconds := 300
  reason := "reviewed"
  validUntil := 90000
  createdAt := 1000

def allocation : PendingAllocation where
  claim := { ShellSample.claim with state := .reserved, revision := Revision.one }
  leaseId := ⟨32⟩

def policy : ApprovalPolicy where
  minDurationSeconds := 60
  maxDurationSeconds := 3600
  gpuCapacity := 0

def providers : CapacityProviders := fun binding =>
  if binding = ShellSample.configuration.binding then some ShellSample.configuration else none

/- The service before its first request. -/
def start : CapacityWorld ResourceDocument where
  resource :=
    { clock := 2000
      tables :=
        { requests := [], approvals := [], claims := [], leases := [], attempts := []
          ledger := fun _ => none
          outbox := [] } }
  worker := .idle

theorem start_initial : (capacityWorld id providers).init start :=
  ⟨⟨rfl, rfl, rfl, rfl, rfl, fun _ => rfl, rfl⟩, rfl⟩

def approved : List CapacityAction :=
  [.api (.create "create-0001" request "trace-1"), .api
    (.approve "approve-0001" request.id approval allocation policy "trace-2")]

/- The worker provisions the claim and reads it again. -/
def provisioned : List CapacityAction :=
  [.work (.claimShell (some allocation.claim.id)),
    .work (.reserve (.ok ("uid-namespace", "uid-quota"))),
    .work (.readReady (some allocation.claim.id))]

/- The window of the lease is opened. -/
def opened : List CapacityAction := [.work .readTime, .work .activate]

def handedOff : List CapacityAction :=
  [.work .refresh, .work (.handoff (.ok ())), .work (.readUnsynced (some allocation.claim.id))]

def revoke (revision : Revision) : CapacityAction :=
  .api (.revokeLease "revoke-0001" allocation.leaseId revision "not needed" "trace-3")

def renew : CapacityAction :=
  .api (.renewLease "renew-00001" allocation.leaseId (ShellSample.revision 2) 900000 "trace-4")

end WorkerSample

end LabWeaver
