import LabWeaver.Resource.Worker

/-
  This file says once what a transaction of the Resource service does to the rows of requests,
  claims and leases. Completed ledger entries stay, no request is lost, and no revision of a
  request goes back.
-/

namespace LabWeaver

open Outcome PgResourceStore ResourceLifecycle Ledger Rows

-- Rows That Move

def ClaimMoved (claim next : CapacityClaim) (state : CapacityClaimState) : Prop :=
  ∃ revision,
    next = { claim with state, revision }

variable {state state' : CapacityClaimState}

section

variable {claim next last : CapacityClaim}

theorem ClaimMoved.id_eq (hMoved : ClaimMoved claim next state) : next.id = claim.id := by
  rcases hMoved with ⟨revision, rfl⟩
  rfl

theorem ClaimMoved.trans (hFirst : ClaimMoved claim next state)
    (hSecond : ClaimMoved next last state') : ClaimMoved claim last state' := by
  rcases hFirst with ⟨_, rfl⟩
  rcases hSecond with ⟨revision, rfl⟩
  exact ⟨revision, rfl⟩

theorem transitionClaim_moves (hMove : transitionClaim claim state = .ok next) :
    ClaimMoved claim next state := by
  simp only [transitionClaim, bind_eq_ok] at hMove
  rcases hMove with ⟨_, _, revision, _, ⟨⟩⟩
  exact ⟨revision, rfl⟩

end

/- The claim as it is stored after a move. -/
def reclaimed (clock : UtcTimestamp) (claim : CapacityClaim)
    (row : CapacityClaimRow) : CapacityClaimRow :=
  if row.claim.id = claim.id then { row with claim, updatedAt := clock } else row

variable {δ : Type}

structure ResourceTables.Holds (later : ResourceTables δ) (requests : List ResourceRequest)
    (claims : List CapacityClaimRow) (leases : List ResourceLease) : Prop where
  requests : later.requests = requests
  claims : later.claims = claims
  leases : later.leases = leases

/- The rows after a lease and its request have moved. -/
abbrev ResourceTables.Replaced (tables : ResourceTables δ) (lease : ResourceLease)
    (request : ResourceRequest) (later : ResourceTables δ) : Prop :=
  later.Holds (replace ResourceRequest.id tables.requests request) tables.claims
    (replace ResourceLease.id tables.leases lease)

/- The rows after a claim has moved. -/
abbrev ResourceTables.Reclaimed (tables : ResourceTables δ) (clock : UtcTimestamp)
    (claim : CapacityClaim) (later : ResourceTables δ) : Prop :=
  later.Holds tables.requests (tables.claims.map (reclaimed clock claim)) tables.leases

variable {clock : UtcTimestamp} {row : CapacityClaimRow}

namespace PgResourceStore

variable (tables : ResourceTables δ)

def ClaimTo (clock : UtcTimestamp) (row : CapacityClaimRow) (state : CapacityClaimState)
    (later : ResourceTables δ) : Prop :=
  ∃ next, ClaimMoved row.claim next state ∧ tables.Reclaimed clock next later

/- A write that leaves every claim and lease as it is. -/
structure Touched (tables later : ResourceTables δ) : Prop where
  requests : later.requests = tables.requests
  leases : later.leases = tables.leases
  claims : ∃ touch : CapacityClaimRow → CapacityClaimRow, later.claims = tables.claims.map touch ∧
    ∀ stored, (touch stored).claim = stored.claim

def PairTo (lease : ResourceLease) (leaseState : ResourceLeaseState) (request : ResourceRequest)
    (requestState : ResourceRequestState) (now : UtcTimestamp) (later : ResourceTables δ) : Prop :=
  ∃ nextLease nextRequest, ResourceLifecycle.LeaseMoved lease nextLease leaseState now ∧
    (∃ revision, nextRequest = ResourceLifecycle.movedRequest request requestState revision now) ∧
    tables.Replaced nextLease nextRequest later

structure PairMoved (lease next : ResourceLease) (leaseState : ResourceLeaseState)
    (request : ResourceRequest) (requestState : ResourceRequestState) (now : UtcTimestamp)
    (later : ResourceTables δ) : Prop where
  lease_mem : lease ∈ tables.leases
  stored : findRequest tables request.id = some request
  target : request.id = lease.requestId ∨ ∃ row ∈ tables.claims, row.claim.id = lease.claimId ∧
    request.id = row.claim.requestId
  moved : LeaseMoved lease next leaseState now
  replaced : ∃ nextRequest, RequestMovesTo request requestState now nextRequest ∧
    tables.Replaced next nextRequest later

variable {tables later last : ResourceTables δ} {next : CapacityClaim}

/- The later of two moves of a claim is the one stored. -/
theorem ClaimTo.trans (hNext : ClaimMoved row.claim next state)
    (hLater : tables.Reclaimed clock next later)
    (hLast : ClaimTo later clock { row with claim := next, updatedAt := clock } state' last) :
    ClaimTo tables clock row state' last := by
  rcases hLast with ⟨claim, hClaim, hLast⟩
  refine ⟨claim, hNext.trans hClaim, ?_⟩
  refine ⟨hLast.requests.trans hLater.requests, ?_, hLast.leases.trans hLater.leases⟩
  rw [hLast.claims, hLater.claims, List.map_map]
  congr 1
  funext stored
  have hId : claim.id = next.id := hClaim.id_eq
  simp only [Function.comp, reclaimed, hId]
  by_cases hStored : stored.claim.id = next.id <;> simp [hStored]

/- The attempts are not among the rows that are moved. -/
theorem ClaimTo.of_recorded {attempts : List CapacityAttempt}
    (hTo : ClaimTo { tables with attempts } clock row state later) :
    ClaimTo tables clock row state later := by
  rcases hTo with ⟨next, hNext, hLater⟩
  exact ⟨next, hNext, hLater.requests, hLater.claims, hLater.leases⟩

theorem PairMoved.pairTo {lease next : ResourceLease} {leaseState : ResourceLeaseState}
    {request : ResourceRequest} {requestState : ResourceRequestState} {now : UtcTimestamp}
    (hMoved : PairMoved tables lease next leaseState request requestState now later) :
    PairTo tables lease leaseState request requestState now later := by
  rcases hMoved.replaced with ⟨nextRequest, ⟨revision, hNext, _⟩, hReplaced⟩
  exact ⟨next, nextRequest, hMoved.moved, ⟨revision, hNext⟩, hReplaced⟩

end PgResourceStore

-- The Changes

/- The lease that a request renews, unless it is answered from the ledger. -/
def ResourceAction.renews (action : ResourceAction) (tables : ResourceTables δ) : Option LeaseId :=
  match action with
  | .renewLease key leaseId _ _ _ =>
    if (tables.ledger ("renew_resource_lease", key)).isNone then some leaseId else none
  | _ => none

/- The lease that a request revokes, unless it is answered from the ledger. -/
def ResourceAction.revokes (action : ResourceAction) (tables : ResourceTables δ) : Option LeaseId :=
  match action with
  | .revokeLease key leaseId _ _ _ =>
    if (tables.ledger ("revoke_resource_lease", key)).isNone then some leaseId else none
  | _ => none

def ResourceAction.reason : ResourceAction → Option String
| .revokeLease _ _ _ reason _ => some reason
| .beginLeaseExpiry _ _ reason _ => reason
| _ => none

def ResourceRequestState.unallocated : ResourceRequestState → Bool
| .reviewing | .rejected | .cancelled => true
| _ => false

inductive ResourceChange (action : ResourceAction) (clock : UtcTimestamp)
    (tables later : ResourceTables δ) : Prop where
| kept (hRows : later.Holds tables.requests tables.claims tables.leases)
| touched (hApi : action.api = false) (hTouched : Touched tables later)
| requested {request : ResourceRequest} (hState : request.state = .reviewing)
    (hFresh : ∀ row ∈ tables.requests, row.id ≠ request.id)
    (hRows : later.Holds (request :: tables.requests) tables.claims tables.leases)
| reviewed {request next : ResourceRequest} {state : ResourceRequestState}
    (hRequest : findRequest tables request.id = some request)
    (hState : request.state = .reviewing ∨ request.state = .rejected)
    (hTarget : state.unallocated = true) (hNext : RequestMovesTo request state clock next)
    (hRows : later.Holds (replace ResourceRequest.id tables.requests next) tables.claims
      tables.leases)
| allocated {request next : ResourceRequest} {row : CapacityClaimRow} {lease : ResourceLease}
    (hAction : action.revokes tables = none)
    (hRequest : findRequest tables request.id = some request)
    (hState : request.state = .reviewing) (hNext : RequestMovesTo request .allocating clock next)
    (hRow : row.claim.state = .reserved ∧ row.claim.requestId = request.id)
    (hLease : lease.claimId = row.claim.id ∧ lease.requestId = request.id ∧
      lease.state = .allocating ∧ lease.updatedAt = clock)
    (hFreshClaim : ∀ old ∈ tables.claims, old.claim.id ≠ row.claim.id)
    (hFreshLease : ∀ old ∈ tables.leases, old.id ≠ lease.id ∧ old.requestId ≠ lease.requestId ∧
      old.claimId ≠ lease.claimId)
    (hRows : later.Holds (replace ResourceRequest.id tables.requests next)
      (row :: tables.claims) (lease :: tables.leases))
| renewed {lease next : ResourceLease} (hLease : findLease tables lease.id = some lease)
    (hActive : lease.state = .active) (hNext : LeaseMoved lease next .active clock)
    (hBy : action.renews tables = some lease.id)
    (hRows : later.Holds tables.requests tables.claims
      (replace ResourceLease.id tables.leases next))
| claimed {row : CapacityClaimRow} {state : CapacityClaimState} (hApi : action.api = false)
    (hRow : findClaim tables row.claim.id = some row) (hState : state ≠ .released)
    (hTo : ClaimTo tables clock row state later)
| activated {lease next : ResourceLease} {request : ResourceRequest} {now : UtcTimestamp}
    (hApi : action.api = false) (hLease : lease.state = .allocating)
    (hMoved : PairMoved tables lease next .active request .active now later)
| expiring {lease next : ResourceLease} {request : ResourceRequest}
    (hState : request.state = .active ∨ request.state = .allocating)
    (hReason : next.revokeReasonCode = action.reason)
    (hMoved : PairMoved tables lease next .expiring request .expiring clock later)
    (hBy : action.api = true → action.revokes tables = some lease.id ∧ request.id = lease.requestId)
| ended {lease next : ResourceLease} {request : ResourceRequest} {middle : ResourceTables δ}
    (hApi : action.api = false) (hLease : lease.state = .expiring)
    (hReason : next.revokeReasonCode = lease.revokeReasonCode)
    (hMoved : PairMoved tables lease next (ended lease) request .expired clock middle)
    (hLater : later = middle ∨ ∃ row ∈ middle.claims, lease.claimId = row.claim.id ∧
      ClaimTo middle clock row .released later)

/- The change that a transaction makes, with the entries of the ledger that it keeps. -/
structure Transacts (action : ResourceAction) (clock : UtcTimestamp)
    (tables later : ResourceTables δ) : Prop where
  change : ResourceChange action clock tables later
  ledger : Extends later.ledger tables.ledger

variable {tables later : ResourceTables δ} {action : ResourceAction}

/- A transaction of the reconciler has no key to complete. -/
theorem ResourceChange.transacts (hChange : ResourceChange action clock tables later)
    (hLedger : later.ledger = tables.ledger) : Transacts action clock tables later := by
  refine ⟨hChange, ?_⟩
  rw [hLedger]
  exact extends_refl _

-- Single Reads And Writes

variable {request next : ResourceRequest} {lease nextLease : ResourceLease}

theorem loadRequest_found {requestId : ResourceRequestId}
    (hLoad : loadRequest tables requestId = .ok request) :
    request.id = requestId ∧ findRequest tables request.id = some request := by
  simp only [loadRequest, steps_eq_ok] at hLoad
  rcases hLoad with ⟨_, hFound, _, _, ⟨⟩⟩
  have hKey : request.id = requestId := key_of_lookup hFound
  exact ⟨hKey, hKey ▸ hFound⟩

theorem loadLease_found {leaseId : LeaseId} (hLoad : loadLease tables leaseId = .ok lease) :
    lease.id = leaseId ∧ findLease tables lease.id = some lease := by
  simp only [loadLease, steps_eq_ok] at hLoad
  rcases hLoad with ⟨_, hFound, _, _, ⟨⟩⟩
  have hKey : lease.id = leaseId := key_of_lookup hFound
  exact ⟨hKey, hKey ▸ hFound⟩

theorem loadClaim_found {claimId : CapacityClaimId} {row : CapacityClaimRow}
    (hLoad : loadClaim tables claimId = .ok row) :
    row.claim.id = claimId ∧ findClaim tables row.claim.id = some row := by
  simp only [loadClaim, steps_eq_ok] at hLoad
  rcases hLoad with ⟨_, hFound, _, _, rfl⟩
  have hKey : _ = claimId := key_of_lookup hFound
  exact ⟨hKey, hKey ▸ hFound⟩

theorem enqueueResourceEvent_eq {event : ResourceEvent}
    (hEvent : enqueueResourceEvent tables event = .ok later) :
    ∃ outbox, later = { tables with outbox } := by
  simp only [enqueueResourceEvent, bind_eq_ok] at hEvent
  rcases hEvent with ⟨_, _, ⟨⟩⟩
  exact ⟨_, rfl⟩

theorem updateLease_eq (hUpdate : updateLease tables lease nextLease = .ok later) :
    later = { tables with leases := replace ResourceLease.id tables.leases nextLease } := by
  simp only [updateLease, bind_eq_ok] at hUpdate
  rcases hUpdate with ⟨_, _, _, _, _, _, ⟨⟩⟩
  rfl

theorem updateRequestEvent_eq {middle : ResourceTables δ} {event : ResourceEvent}
    (hUpdate : updateRequest tables request next = .ok middle)
    (hEvent : enqueueResourceEvent middle event = .ok later) :
    ∃ outbox, later =
      { tables with requests := replace ResourceRequest.id tables.requests next, outbox } := by
  simp only [updateRequest, bind_eq_ok] at hUpdate
  rcases hUpdate with ⟨_, _, _, _, _, _, ⟨⟩⟩
  exact enqueueResourceEvent_eq hEvent

/- A stored lease and its request move together, and the ledger stays. -/
theorem moveLeaseAndRequest_moved {leaseState : ResourceLeaseState}
    {requestState : ResourceRequestState} {now : UtcTimestamp} {subject : ResourceSubject}
    {traceId : String} (hLease : lease ∈ tables.leases)
    (hRequest : findRequest tables request.id = some request)
    (hTarget : request.id = lease.requestId ∨ ∃ row ∈ tables.claims,
      row.claim.id = lease.claimId ∧ request.id = row.claim.requestId)
    (hNextLease : LeaseMoved lease nextLease leaseState now)
    (hNext : RequestMovesTo request requestState now next)
    (hMove : moveLeaseAndRequest tables lease nextLease request next subject traceId = .ok later) :
    PairMoved tables lease nextLease leaseState request requestState now later ∧
      later.ledger = tables.ledger := by
  simp only [moveLeaseAndRequest, bind_eq_ok] at hMove
  rcases hMove with ⟨_, hFirst, _, hSecond, _, hThird, hFourth⟩
  rcases updateRequestEvent_eq hSecond hThird with ⟨_, rfl⟩
  rcases enqueueResourceEvent_eq hFourth with ⟨_, rfl⟩
  rw [updateLease_eq hFirst]
  exact ⟨⟨hLease, hRequest, hTarget, hNextLease, next, hNext, rfl, rfl, rfl⟩, rfl⟩

/- A stored claim moves, and the ledger stays. -/
def ClaimStep (tables : ResourceTables δ) (clock : UtcTimestamp) (row : CapacityClaimRow)
    (state : CapacityClaimState) (later : ResourceTables δ) : Prop :=
  ClaimTo tables clock row state later ∧ later.ledger = tables.ledger

variable {state : CapacityClaimState} {nextClaim : CapacityClaim}

theorem updateClaim_reclaims {claim : CapacityClaim} (hId : nextClaim.id = claim.id)
    (hUpdate : updateClaim tables clock claim nextClaim = .ok later) :
    tables.Reclaimed clock nextClaim later ∧ later.ledger = tables.ledger := by
  simp only [updateClaim, bind_eq_ok] at hUpdate
  rcases hUpdate with ⟨_, _, _, _, ⟨⟩⟩
  refine ⟨⟨rfl, ?_, rfl⟩, rfl⟩
  rw [← hId]
  rfl

theorem updateClaim_moved (hNext : transitionClaim row.claim state = .ok nextClaim)
    (hUpdate : updateClaim tables clock row.claim nextClaim = .ok later) :
    ClaimStep tables clock row state later := by
  have hMoved := transitionClaim_moves hNext
  rcases updateClaim_reclaims hMoved.id_eq hUpdate with ⟨hLater, hLedger⟩
  exact ⟨⟨nextClaim, hMoved, hLater⟩, hLedger⟩

theorem moveClaim_moved {claimId : CapacityClaimId} {expectedRevision : Revision}
    {sources : List CapacityClaimState}
    (hMove : moveClaim tables clock claimId expectedRevision sources state = .ok later) :
    ∃ row, findClaim tables row.claim.id = some row ∧ ClaimStep tables clock row state later := by
  simp only [moveClaim, bind_eq_ok] at hMove
  rcases hMove with ⟨row, hLoad, _, _, nextClaim, hNext, hUpdate⟩
  exact ⟨row, (loadClaim_found hLoad).2, updateClaim_moved hNext hUpdate⟩

-- Idempotent Transactions

variable {hash : ResourceDocument → δ} {leaseId : LeaseId} {expectedRevision : Revision}

section

variable [DecidableEq δ] {idempotencyKey traceId : String} {requestId : ResourceRequestId}
  {stored : ResourceRequest}

section

variable {α : Type} {key : String × String} {requestHash : δ}
  {fresh : ResourceStoreResult (α × ResourceTables δ)}
  {decode : ResourceResult → ResourceStoreResult α}

/- An idempotent transaction answers from the ledger and changes nothing, or its key was free. -/
theorem replayOr_eq_ok {value : α}
    (hReplay : replayOr tables key requestHash decode fresh = .ok (value, later)) :
    (∃ result, tables.ledger key = some { requestHash, result := some result } ∧
      decode result = .ok value ∧ later = tables) ∨
    tables.ledger key = none ∧ fresh = .ok (value, later) := by
  unfold replayOr at hReplay
  split at hReplay
  · rename_i result hDecision
    simp only [bind_eq_ok] at hReplay
    rcases hReplay with ⟨decoded, hDecode, ⟨⟩⟩
    have hEntry := reserve_eq_replay.mp hDecision
    exact .inl ⟨result, hEntry, hDecode, rfl⟩
  · cases hReplay
  · cases hReplay
  · rename_i hDecision
    have hFree := reserve_eq_reserved.mp hDecision
    exact .inr ⟨hFree, hReplay⟩

/- A replay changes nothing. -/
theorem replayOr_transacts {value : α}
    (hFresh : tables.ledger key = none → fresh = .ok (value, later) →
      Transacts action clock tables later)
    (hReplay : replayOr tables key requestHash decode fresh = .ok (value, later)) :
    Transacts action clock tables later := by
  rcases replayOr_eq_ok hReplay with ⟨_, _, _, rfl⟩ | ⟨hFree, hDone⟩
  · exact ResourceChange.transacts (.kept ⟨rfl, rfl, rfl⟩) rfl
  · exact hFresh hFree hDone

end

theorem create_transacts
    (hCreate : create hash tables idempotencyKey request traceId = .ok (stored, later)) :
    Transacts action clock tables later := by
  simp only [create, steps_eq_ok] at hCreate
  rcases hCreate with ⟨_, _, hState, _, _, _, _, hReplay⟩
  refine replayOr_transacts ?_ hReplay
  intro hFree hFresh
  simp only [insertRequest, steps_eq_ok] at hFresh
  rcases hFresh with ⟨_, ⟨_, ⟨_, hNew, _⟩, ⟨⟩⟩, _, hEvent, ⟨⟩⟩
  rcases enqueueResourceEvent_eq hEvent with ⟨_, rfl⟩
  exact ⟨.requested hState (fun row hRow => (hNew row hRow).1) ⟨rfl, rfl, rfl⟩,
    extends_complete hFree⟩

theorem approve_transacts {approval : ResourceApproval} {allocation : PendingAllocation}
    {policy : ApprovalPolicy} (hAction : action.revokes tables = none)
    (hApprove : approve hash tables clock idempotencyKey requestId approval allocation policy
      traceId = .ok (stored, later)) :
    Transacts action clock tables later := by
  simp only [approve, bind_eq_ok] at hApprove
  rcases hApprove with ⟨_, _, _, _, request, hLoad, hReplay⟩
  refine replayOr_transacts ?_ hReplay
  intro hFree hFresh
  simp only [insertAllocation, PendingAllocation.lease, steps_eq_ok] at hFresh
  rcases hFresh with ⟨next, hAccept, lease, ⟨_, _, ⟨hRequestId, _, _, _, hReserved⟩, _, _, ⟨⟩⟩,
    _, ⟨_, ⟨_, hNewClaim, hNewLease⟩, ⟨⟩⟩, _, hUpdate, _, hEvent, ⟨⟩⟩
  rcases updateRequestEvent_eq hUpdate hEvent with ⟨_, rfl⟩
  rcases acceptApproval_moves hAccept with ⟨hState, _, hNext⟩
  exact ⟨.allocated hAction (loadRequest_found hLoad).2 hState hNext ⟨hReserved, hRequestId⟩
    ⟨rfl, rfl, rfl, rfl⟩ (fun old hOld => (hNewClaim old hOld).1) hNewLease ⟨rfl, rfl, rfl⟩,
    extends_complete hFree⟩

theorem rejectOrCancel_transacts {terminal : ResourceRequestState}
    (hReject : PgResourceStore.rejectOrCancel hash tables clock idempotencyKey requestId
      expectedRevision terminal traceId = .ok (stored, later)) :
    Transacts action clock tables later := by
  simp only [PgResourceStore.rejectOrCancel, bind_eq_ok, ensure_eq_ok, exists_const] at hReject
  rcases hReject with ⟨_, _, _, _, hTerminal, request, hLoad, hReplay⟩
  refine replayOr_transacts ?_ hReplay
  intro hFree hFresh
  simp only [ResourceLifecycle.rejectOrCancel, bind_eq_ok, mapError_eq_ok] at hFresh
  rcases hFresh with ⟨next, ⟨_, _, hMove⟩, _, hUpdate, _, hEvent, ⟨⟩⟩
  rcases updateRequestEvent_eq hUpdate hEvent with ⟨_, rfl⟩
  rcases transition_moves hMove with ⟨hState, hNext⟩
  have hTarget : terminal.unallocated = true := by
    rcases hTerminal with rfl | rfl <;> rfl
  exact ⟨.reviewed (loadRequest_found hLoad).2 (.inl hState) hTarget hNext ⟨rfl, rfl, rfl⟩,
    extends_complete hFree⟩

theorem retry_transacts (hRetry : PgResourceStore.retry hash tables clock idempotencyKey requestId
      expectedRevision traceId = .ok (stored, later)) :
    Transacts action clock tables later := by
  simp only [PgResourceStore.retry, bind_eq_ok] at hRetry
  rcases hRetry with ⟨_, _, _, _, request, hLoad, hReplay⟩
  refine replayOr_transacts ?_ hReplay
  intro hFree hFresh
  simp only [ResourceLifecycle.retry, bind_eq_ok, mapError_eq_ok] at hFresh
  rcases hFresh with ⟨next, ⟨_, _, hMove⟩, _, hUpdate, _, hEvent, ⟨⟩⟩
  rcases updateRequestEvent_eq hUpdate hEvent with ⟨_, rfl⟩
  rcases transition_moves hMove with ⟨hState, hNext⟩
  exact ⟨.reviewed (loadRequest_found hLoad).2 (.inr hState) rfl hNext ⟨rfl, rfl, rfl⟩,
    extends_complete hFree⟩

theorem renewLease_transacts {expiresAt : UtcTimestamp}
    (hRenew : PgResourceStore.renewLease hash tables clock idempotencyKey leaseId
      expectedRevision expiresAt traceId = .ok (lease, later)) :
    Transacts (.renewLease idempotencyKey leaseId expectedRevision expiresAt traceId) clock tables
      later := by
  simp only [PgResourceStore.renewLease, bind_eq_ok] at hRenew
  rcases hRenew with ⟨_, _, _, _, current, hLoad, hReplay⟩
  refine replayOr_transacts ?_ hReplay
  intro hFree hFresh
  simp only [ResourceLifecycle.renewLease, steps_eq_ok] at hFresh
  rcases hFresh with ⟨next, ⟨_, _, ⟨hActive, _⟩, hMove⟩, _, _, _, hUpdate, _, hEvent, ⟨⟩⟩
  rcases enqueueResourceEvent_eq hEvent with ⟨_, rfl⟩
  rcases loadLease_found hLoad with ⟨hId, hFound⟩
  rw [updateLease_eq hUpdate]
  exact ⟨.renewed hFound hActive (transitionLease_moves hMove).1
    (by simp [ResourceAction.renews, hFree, hId])
    ⟨rfl, rfl, rfl⟩,
    extends_complete hFree⟩

theorem revokeLease_transacts {reason : String}
    (hRevoke : PgResourceStore.revokeLease hash tables clock idempotencyKey leaseId
      expectedRevision reason traceId = .ok (lease, later)) :
    Transacts (.revokeLease idempotencyKey leaseId expectedRevision reason traceId) clock tables
      later := by
  simp only [PgResourceStore.revokeLease, bind_eq_ok] at hRevoke
  rcases hRevoke with ⟨_, _, _, _, current, hLoad, hReplay⟩
  refine replayOr_transacts ?_ hReplay
  intro hFree hFresh
  simp only [ResourceLifecycle.revokeLease, bind_eq_ok, mapError_eq_ok] at hFresh
  rcases hFresh with ⟨next, ⟨_, _, _, _, hMove⟩, request, hRequest, nextRequest, hExpiry, _, hWrite,
    ⟨⟩⟩
  rcases loadLease_found hLoad with ⟨hId, hFound⟩
  rcases transitionLease_moves hMove with ⟨hNext, hReason⟩
  rcases beginExpiry_moves hExpiry with ⟨hState, hNextRequest⟩
  rcases loadRequest_found hRequest with ⟨hTarget, hRequest⟩
  rcases moveLeaseAndRequest_moved (mem_of_lookup hFound) hRequest (.inl hTarget) hNext
    hNextRequest hWrite with ⟨hMoved, hLedger⟩
  have hBy : (ResourceAction.revokeLease idempotencyKey leaseId expectedRevision reason
      traceId).revokes tables = some current.id := by
    simp [ResourceAction.revokes, hFree, hId]
  rw [← hLedger] at hFree
  refine ⟨.expiring hState hReason ⟨hMoved.lease_mem, hMoved.stored, hMoved.target, hMoved.moved,
    ?_⟩ fun _ => ⟨hBy, hTarget⟩, ?_⟩
  · rcases hMoved.replaced with ⟨moved, hMoves, hRows⟩
    exact ⟨moved, hMoves, hRows.requests, hRows.claims, hRows.leases⟩
  · rw [← hLedger]
    exact extends_complete hFree

end

-- Transactions Of The Reconciler

section

variable {traceId diagnosticCode : String} {claimId : CapacityClaimId} (hApi : action.api = false)

include hApi

theorem ClaimStep.transacts
    (hRow : findClaim tables row.claim.id = some row) (hState : state ≠ .released)
    (hStep : ClaimStep tables clock row state later) : Transacts action clock tables later :=
  ResourceChange.transacts (.claimed hApi hRow hState hStep.1) hStep.2

theorem activateLease_transacts {activeFrom expiresAt : UtcTimestamp}
    (hActivate : PgResourceStore.activateLease tables leaseId expectedRevision activeFrom expiresAt
      traceId = .ok (lease, later)) :
    Transacts action clock tables later := by
  simp only [PgResourceStore.activateLease, steps_eq_ok] at hActivate
  rcases hActivate with ⟨_, _, current, hLoad, request, hRequest, next, hNext, nextRequest, hMove,
    _, hWrite, ⟨⟩⟩
  rcases activateLease_moves hNext with ⟨hLease, hNextLease⟩
  rcases loadRequest_found hRequest with ⟨hTarget, hRequest⟩
  rcases moveLeaseAndRequest_moved (mem_of_lookup (loadLease_found hLoad).2) hRequest
    (.inl hTarget) hNextLease (transition_moves hMove).2 hWrite with ⟨hMoved, hLedger⟩
  exact ResourceChange.transacts (.activated hApi hLease hMoved) hLedger

omit hApi in
theorem beginLeaseExpiry_transacts {reason : Option String}
    (hBegin : PgResourceStore.beginLeaseExpiry tables clock leaseId expectedRevision reason
      traceId = .ok (lease, later)) :
    Transacts (.beginLeaseExpiry leaseId expectedRevision reason traceId) clock tables later := by
  simp only [PgResourceStore.beginLeaseExpiry, steps_eq_ok] at hBegin
  rcases hBegin with ⟨_, _, current, hLoad, request, hRequest, next, hNext, nextRequest, hMove,
    _, hWrite, ⟨⟩⟩
  rcases beginLeaseExpiry_moves hNext with ⟨hNextLease, hReason⟩
  rcases beginExpiry_moves hMove with ⟨hState, hNextRequest⟩
  rcases loadRequest_found hRequest with ⟨hTarget, hRequest⟩
  rcases moveLeaseAndRequest_moved (mem_of_lookup (loadLease_found hLoad).2) hRequest
    (.inl hTarget) hNextLease hNextRequest hWrite with ⟨hMoved, hLedger⟩
  exact ResourceChange.transacts (.expiring hState hReason hMoved fun hApi => by cases hApi) hLedger

theorem completeLeaseExpiry_transacts
    (hComplete : PgResourceStore.completeLeaseExpiry tables clock leaseId expectedRevision
      traceId = .ok (lease, later)) :
    Transacts action clock tables later := by
  simp only [PgResourceStore.completeLeaseExpiry, steps_eq_ok] at hComplete
  rcases hComplete with ⟨_, _, current, hLoad, request, hRequest, next, hNext, nextRequest, hMove,
    _, hWrite, ⟨⟩⟩
  rcases completeLeaseExpiry_moves hNext with ⟨hLease, hNextLease, hReason⟩
  rcases loadRequest_found hRequest with ⟨hTarget, hRequest⟩
  rcases moveLeaseAndRequest_moved (mem_of_lookup (loadLease_found hLoad).2) hRequest
    (.inl hTarget) hNextLease (transition_moves hMove).2 hWrite with ⟨hMoved, hLedger⟩
  exact ResourceChange.transacts (.ended hApi hLease hReason hMoved (.inl rfl)) hLedger

theorem claimNextCapacityShell_transacts
    (hClaim : claimNextCapacityShell tables clock claimId = .ok later) :
    Transacts action clock tables later := by
  simp only [claimNextCapacityShell, bind_eq_ok] at hClaim
  rcases hClaim with ⟨row, hLoad, _, _, _, _, _, _, _, _, hMove⟩
  have hRow := (loadClaim_found hLoad).2
  split at hMove
  · simp only [bind_eq_ok] at hMove
    rcases hMove with ⟨recovered, hRecovered, middle, hRecover, next, hNext, hUpdate⟩
    have hFirst := transitionClaim_moves hRecovered
    rcases updateClaim_reclaims hFirst.id_eq hRecover with ⟨hMiddle, hLedger⟩
    have hSecond : ClaimStep middle clock { row with claim := recovered, updatedAt := clock }
        .provisioning later := updateClaim_moved hNext hUpdate
    exact ClaimStep.transacts hApi hRow (by decide)
      ⟨.trans hFirst hMiddle hSecond.1, hSecond.2.trans hLedger⟩
  · simp only [bind_eq_ok] at hMove
    rcases hMove with ⟨next, hNext, hUpdate⟩
    exact (updateClaim_moved hNext hUpdate).transacts hApi hRow (by decide)

theorem moveClaim_transacts {sources : List CapacityClaimState} (hState : state ≠ .released)
    (hMove : moveClaim tables clock claimId expectedRevision sources state = .ok later) :
    Transacts action clock tables later := by
  rcases moveClaim_moved hMove with ⟨row, hRow, hStep⟩
  exact hStep.transacts hApi hRow hState

theorem retryOrBlockCapacityShell_transacts
    (hRetry : retryOrBlockCapacityShell tables clock claimId expectedRevision diagnosticCode =
      .ok later) :
    Transacts action clock tables later := by
  simp only [retryOrBlockCapacityShell, bind_eq_ok] at hRetry
  rcases hRetry with ⟨_, _, hMove⟩
  rcases moveClaim_moved hMove with ⟨row, hRow, hTo, hLedger⟩
  refine ClaimStep.transacts hApi hRow ?_ ⟨hTo.of_recorded, hLedger⟩
  split <;> decide

theorem retryOrBlockCapacityHandoff_transacts
    (hRetry : retryOrBlockCapacityHandoff tables clock claimId expectedRevision diagnosticCode =
      .ok later) :
    Transacts action clock tables later := by
  simp only [retryOrBlockCapacityHandoff, bind_eq_ok] at hRetry
  rcases hRetry with ⟨_, _, row, hLoad, _, _, hRest⟩
  split at hRest
  · simp only [bind_eq_ok] at hRest
    rcases hRest with ⟨next, hNext, hUpdate⟩
    rcases updateClaim_moved hNext hUpdate with ⟨hTo, hLedger⟩
    exact ClaimStep.transacts hApi (loadClaim_found hLoad).2 (by decide) ⟨hTo.of_recorded, hLedger⟩
  · cases hRest
    exact ResourceChange.transacts (.kept ⟨rfl, rfl, rfl⟩) rfl

theorem markLeaseSynced_transacts
    (hSynced : markLeaseSynced tables clock claimId expectedRevision = .ok later) :
    Transacts action clock tables later := by
  simp only [markLeaseSynced, bind_eq_ok] at hSynced
  rcases hSynced with ⟨_, _, _, _, ⟨⟩⟩
  refine ResourceChange.transacts (.touched hApi ⟨rfl, rfl, _, rfl, ?_⟩) rfl
  intro stored
  split <;> rfl

omit hApi in
theorem nextLeaseCleanup_transacts (hCleanup : nextLeaseCleanup tables clock claimId = .ok later) :
    Transacts (.nextLeaseCleanup claimId) clock tables later := by
  simp only [nextLeaseCleanup, bind_eq_ok, require_eq_ok] at hCleanup
  rcases hCleanup with ⟨row, hLoad, lease, hHeld, _, _, request, hRequest, _, _, hRest⟩
  split at hRest
  · simp only [bind_eq_ok, mapError_eq_ok] at hRest
    rcases hRest with ⟨next, hNext, nextRequest, hMove, hWrite⟩
    rcases beginLeaseExpiry_moves hNext with ⟨hNextLease, hReason⟩
    rcases beginExpiry_moves hMove with ⟨hState, hNextRequest⟩
    rcases loadRequest_found hRequest with ⟨hTarget, hRequest⟩
    rcases loadClaim_found hLoad with ⟨hId, hRow⟩
    have hClaim : row.claim.id = lease.claimId := hId.trans (key_of_lookup hHeld).symm
    rcases moveLeaseAndRequest_moved (mem_of_lookup hHeld) hRequest
      (.inr ⟨row, mem_of_lookup hRow, hClaim, hTarget⟩) hNextLease hNextRequest hWrite with
      ⟨hMoved, hLedger⟩
    exact ResourceChange.transacts
      (.expiring hState hReason hMoved fun hApi => by cases hApi) hLedger
  · cases hRest
    exact ResourceChange.transacts (.kept ⟨rfl, rfl, rfl⟩) rfl

theorem completeCapacityRelease_transacts {leaseRevision : Revision}
    (hRelease : completeCapacityRelease tables clock claimId expectedRevision leaseId leaseRevision
      traceId = .ok (lease, later)) :
    Transacts action clock tables later := by
  simp only [completeCapacityRelease, steps_eq_ok] at hRelease
  rcases hRelease with ⟨_, _, row, hLoadClaim, current, hLoad, request, hRequest,
    ⟨_, _, _, _, hClaim⟩, nextClaim, hNextClaim, next, hNext, nextRequest, hMove, written, hUpdate,
    _, hWrite, ⟨⟩⟩
  rcases completeLeaseExpiry_moves hNext with ⟨hLease, hNextLease, hReason⟩
  rcases loadRequest_found hRequest with ⟨hTarget, hRequest⟩
  have hNextRow := transitionClaim_moves hNextClaim
  rcases updateClaim_reclaims hNextRow.id_eq hUpdate with ⟨hClaims, hKept⟩
  have hHeld : current ∈ written.leases :=
    hClaims.leases ▸ mem_of_lookup (loadLease_found hLoad).2
  have hStored : findRequest written request.id = some request := by
    unfold findRequest
    rwa [hClaims.requests]
  rcases moveLeaseAndRequest_moved hHeld hStored (.inl hTarget) hNextLease
    (transition_moves hMove).2 hWrite with ⟨hMoved, hLedger⟩
  -- the claim is written first, but in another table
  rcases hMoved.replaced with ⟨moved, hMoves, hRows⟩
  have hPair : PairMoved tables current lease (ended current) request .expired clock
      { later with claims := tables.claims } :=
    ⟨hClaims.leases ▸ hHeld, hRequest, .inl hTarget, hNextLease, moved, hMoves,
      hClaims.requests ▸ hRows.requests, rfl, hClaims.leases ▸ hRows.leases⟩
  have hRow := (loadClaim_found hLoadClaim).2
  exact ResourceChange.transacts (.ended hApi hLease hReason hPair (.inr ⟨row,
    mem_of_lookup hRow, hClaim, nextClaim, hNextRow, rfl, hRows.claims.trans hClaims.claims,
    rfl⟩)) (hLedger.trans hKept)

theorem recordReconciliationFailure_transacts {step : CapacityStep}
    (hRecord : recordReconciliationFailure tables clock claimId step diagnosticCode = .ok later) :
    Transacts action clock tables later := by
  simp only [recordReconciliationFailure, bind_eq_ok] at hRecord
  rcases hRecord with ⟨_, _, row, _, _, _, ⟨⟩⟩
  refine ResourceChange.transacts (.touched hApi ⟨rfl, rfl, _, rfl, ?_⟩) rfl
  intro stored
  split <;> rfl

end

-- Steps Of The Service

namespace ResourceState

variable {s s' : ResourceState δ}

theorem commit_transacts {result : ResourceStoreResult (ResourceTables δ)}
    (hResult : ∀ tables, result = .ok tables → Transacts action s.clock s.tables tables)
    (hCommit : s.commit result = some s') :
    s.clock ≤ s'.clock ∧ Transacts action s.clock s.tables s'.tables := by
  cases result with
  | error error => cases hCommit
  | ok tables =>
    cases hCommit
    exact ⟨Int.le_refl _, hResult tables rfl⟩

theorem commitSnd_transacts {α : Type} {result : ResourceStoreResult (α × ResourceTables δ)}
    (hResult : ∀ value tables, result = .ok (value, tables) →
      Transacts action s.clock s.tables tables) (hCommit : s.commitSnd result = some s') :
    s.clock ≤ s'.clock ∧ Transacts action s.clock s.tables s'.tables := by
  cases result with
  | error error => cases hCommit
  | ok pair =>
    cases hCommit
    exact ⟨Int.le_refl _, hResult pair.1 pair.2 rfl⟩

variable [DecidableEq δ]

/- Every transaction makes one of the changes. -/
theorem step_transacts (hStep : s.step hash action = some s') :
    s.clock ≤ s'.clock ∧ Transacts action s.clock s.tables s'.tables := by
  cases action with
  | tick now =>
    simp only [step] at hStep
    split at hStep
    · rename_i hLater
      cases hStep
      exact ⟨hLater, ResourceChange.transacts (.kept ⟨rfl, rfl, rfl⟩) rfl⟩
    · cases hStep
  | create => exact commitSnd_transacts (fun _ _ => create_transacts) hStep
  | approve => exact commitSnd_transacts (fun _ _ => approve_transacts rfl) hStep
  | rejectOrCancel => exact commitSnd_transacts (fun _ _ => rejectOrCancel_transacts) hStep
  | retry => exact commitSnd_transacts (fun _ _ => retry_transacts) hStep
  | renewLease => exact commitSnd_transacts (fun _ _ => renewLease_transacts) hStep
  | revokeLease => exact commitSnd_transacts (fun _ _ => revokeLease_transacts) hStep
  | activateLease => exact commitSnd_transacts (fun _ _ => activateLease_transacts rfl) hStep
  | beginLeaseExpiry => exact commitSnd_transacts (fun _ _ => beginLeaseExpiry_transacts) hStep
  | completeLeaseExpiry =>
    exact commitSnd_transacts (fun _ _ => completeLeaseExpiry_transacts rfl) hStep
  | claimNextCapacityShell =>
    exact commit_transacts (fun _ => claimNextCapacityShell_transacts rfl) hStep
  | markCapacityShellReady | markCapacityShellBlocked =>
    refine commit_transacts (fun _ hMark => ?_) hStep
    rcases bind_eq_ok.mp hMark with ⟨_, _, hMove⟩
    exact moveClaim_transacts rfl (by decide) hMove
  | markCapacityHandedOff | markCapacityReleasing =>
    exact commit_transacts (fun _ => moveClaim_transacts rfl (by decide)) hStep
  | retryOrBlockCapacityShell =>
    exact commit_transacts (fun _ => retryOrBlockCapacityShell_transacts rfl) hStep
  | retryOrBlockCapacityHandoff =>
    exact commit_transacts (fun _ => retryOrBlockCapacityHandoff_transacts rfl) hStep
  | markLeaseSynced => exact commit_transacts (fun _ => markLeaseSynced_transacts rfl) hStep
  | nextLeaseCleanup => exact commit_transacts (fun _ => nextLeaseCleanup_transacts) hStep
  | completeCapacityRelease =>
    exact commitSnd_transacts (fun _ _ => completeCapacityRelease_transacts rfl) hStep
  | recordReconciliationFailure =>
    exact commit_transacts (fun _ => recordReconciliationFailure_transacts rfl) hStep

end ResourceState

-- What Every Run Keeps

/- No request is lost, and no revision of one goes back. -/
def RequestsGrow (later earlier : ResourceTables δ) : Prop :=
  ∀ requestId request, findRequest earlier requestId = some request → ∃ updated,
    findRequest later requestId = some updated ∧ request.revision.get ≤ updated.revision.get

/- What a whole transaction keeps. -/
structure ResourceTables.Grows (later earlier : ResourceTables δ) : Prop where
  ledger : Extends later.ledger earlier.ledger
  requests : RequestsGrow later earlier

theorem RequestsGrow.of_eq (hRequests : later.requests = tables.requests) :
    RequestsGrow later tables := by
  intro requestId request hRequest
  refine ⟨request, ?_, Nat.le_refl _⟩
  unfold findRequest at hRequest ⊢
  rwa [hRequests]

theorem RequestsGrow.of_moves (hStored : findRequest tables request.id = some request)
    (hMoves : RequestMoves request next)
    (hRequests : later.requests = replace ResourceRequest.id tables.requests next) :
    RequestsGrow later tables := by
  intro requestId row hRow
  unfold findRequest at hStored hRow ⊢
  rw [hRequests, lookup_replace]
  by_cases hSame : next.id = requestId
  · rw [← hMoves.id_eq, hSame, hRow] at hStored
    cases hStored
    rw [if_pos hSame, hRow]
    refine ⟨next, rfl, ?_⟩
    rw [hMoves.revision_eq]
    omega
  · rw [if_neg hSame]
    exact ⟨row, hRow, Nat.le_refl _⟩

theorem PgResourceStore.PairMoved.requestsGrow {leaseState : ResourceLeaseState}
    {requestState : ResourceRequestState} {now : UtcTimestamp}
    (hMoved : PairMoved tables lease nextLease leaseState request requestState now later) :
    RequestsGrow later tables := by
  rcases hMoved.replaced with ⟨next, hNext, hRows⟩
  exact .of_moves hMoved.stored hNext.moves hRows.requests

theorem ResourceChange.requestsGrow (hChange : ResourceChange action clock tables later) :
    RequestsGrow later tables := by
  cases hChange with
  | kept hRows => exact .of_eq hRows.requests
  | touched _ hTouched => exact .of_eq hTouched.requests
  | @requested request _ hFresh hRows =>
    intro requestId row hRow
    have hNe : request.id ≠ requestId := by
      rw [← key_of_lookup hRow]
      exact (hFresh row (mem_of_lookup hRow)).symm
    refine ⟨row, ?_, Nat.le_refl _⟩
    unfold findRequest
    rwa [hRows.requests, lookup_insert, if_neg hNe]
  | reviewed hRequest _ _ hNext hRows | allocated _ hRequest _ hNext _ _ _ _ hRows =>
    exact .of_moves hRequest hNext.moves hRows.requests
  | renewed _ _ _ _ hRows => exact .of_eq hRows.requests
  | claimed _ _ _ hTo =>
    rcases hTo with ⟨_, _, hLater⟩
    exact .of_eq hLater.requests
  | activated _ _ hMoved | expiring _ _ hMoved => exact hMoved.requestsGrow
  | ended _ _ _ hMoved hLater =>
    rcases hLater with rfl | ⟨_, _, _, _, _, hLater⟩
    · exact hMoved.requestsGrow
    · have hGrow := hMoved.requestsGrow
      unfold RequestsGrow findRequest at hGrow ⊢
      rwa [hLater.requests]

theorem ResourceTables.Grows.trans {last : ResourceTables δ} (hLater : last.Grows later)
    (hEarlier : later.Grows tables) : last.Grows tables := by
  refine ⟨extends_trans hLater.ledger hEarlier.ledger, ?_⟩
  intro requestId request hRequest
  rcases hEarlier.requests requestId request hRequest with ⟨middle, hMiddle, hFirst⟩
  rcases hLater.requests requestId middle hMiddle with ⟨updated, hUpdated, hSecond⟩
  exact ⟨updated, hUpdated, Nat.le_trans hFirst hSecond⟩

/- However a run goes on, completed keys keep their results and no request goes back to an earlier
  revision. -/
theorem resourceService_grows [DecidableEq δ] {hash : ResourceDocument → δ}
    {s s' : ResourceState δ} (hReach : (resourceService hash).Reachable s)
    (hLeads : (resourceService hash).Leads s s') : s'.tables.Grows s.tables := by
  apply Machine.Leads.relation (R := fun earlier later : ResourceState δ =>
    later.tables.Grows earlier.tables)
    ?_ ?_ ?_ hReach hLeads
  · intro s
    exact ⟨extends_refl _, .of_eq rfl⟩
  · intro first second third hEarlier hLater
    exact hLater.trans hEarlier
  · intro s action s' _ hStep
    have hTransacts := (ResourceState.step_transacts hStep).2
    exact ⟨hTransacts.ledger, hTransacts.change.requestsGrow⟩

end LabWeaver
