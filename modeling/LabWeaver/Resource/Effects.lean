import LabWeaver.Resource.Changes

/-
  This file specifies the transactions of the capacity worker: from rows that fit, a transaction
  ends with the rows updated as said, or fails with an error that is not a conflict. The window
  opened on a handoff lasts as long as was requested, not as was approved.

  Main declaration: `handoff_window_iff`.
-/

namespace LabWeaver

open Outcome

-- Conflicts

def ResourceLifecycleError.Conflict (error : ResourceLifecycleError) : Prop :=
  error = .stateConflict

/- The errors that the states of the rows give rise to. -/
def ResourceStoreError.Conflict : ResourceStoreError → Prop
| .capacityClaimStateConflict | .revisionConflict => True
| .lifecycle error => error.Conflict
| _ => False

/- Abbreviations for the specifications below. -/
abbrev Settles {α : Type} (post : α → Prop) (result : ResourceStoreResult α) : Prop :=
  Meets ResourceStoreError.Conflict post result

abbrev Proceeds {α : Type} (post : α → Prop) (result : Except ResourceLifecycleError α) : Prop :=
  Meets ResourceLifecycleError.Conflict post result

-- Lifecycles

variable {request : ResourceRequest} {lease : ResourceLease}

namespace ResourceLifecycle

variable {now : UtcTimestamp} {source target : ResourceRequestState}

theorem transition_meets (hState : request.state = source) (hTime : request.updatedAt ≤ now) :
    Proceeds (fun next => ∃ revision, next = movedRequest request target revision now)
      (transition request request.revision source target now) := by
  unfold transition
  refine .bind (.check fun _ hBad => by cases hBad) fun _ _ => ?_
  refine .bind (.ensure_of ⟨rfl, hState, hTime⟩) fun _ _ => ?_
  refine .bind (.require fun hBad => by cases hBad) fun revision _ => ?_
  exact .ok ⟨revision, rfl⟩

variable {reason : Option String} {expiresAt : Option UtcTimestamp} {state : ResourceLeaseState}

theorem transitionLease_meets (hTime : lease.updatedAt ≤ now) : Proceeds (fun next => ∃ revision,
      next =
        { lease with state, revision, expiresAt, revokeReasonCode := reason, updatedAt := now })
      (transitionLease lease state now expiresAt reason) := by
  unfold transitionLease
  refine .bind (.ensure_of hTime) fun _ _ => ?_
  refine .bind (.require fun hBad => by cases hBad) fun revision _ => ?_
  refine .bind (.check fun _ hBad => by cases hBad) fun _ _ => ?_
  exact .ok ⟨revision, rfl⟩

theorem activateLease_meets {activeFrom expiresAt : UtcTimestamp}
    (hState : lease.state = .allocating) (hWindow : activeFrom < expiresAt) :
    Proceeds (fun next => ∃ revision, next =
        { lease with
          state := .active, revision, activeFrom := some activeFrom,
          expiresAt := some expiresAt, updatedAt := activeFrom })
      (activateLease lease lease.revision activeFrom expiresAt) := by
  unfold activateLease
  refine .bind (.check fun _ hBad => by cases hBad) fun _ _ => ?_
  refine .bind (.ensure_of ⟨hState, rfl, hWindow⟩) fun _ _ => ?_
  refine .bind (.require fun hBad => by cases hBad) fun revision _ => ?_
  refine .bind (.check fun _ hBad => by cases hBad) fun _ _ => ?_
  exact .ok ⟨revision, rfl⟩

theorem beginLeaseExpiry_meets (hState : lease.state = .allocating ∨ lease.state = .active)
    (hTime : lease.updatedAt ≤ now) :
    Proceeds (fun next => LeaseMoved lease next .expiring now)
      (beginLeaseExpiry lease lease.revision now reason) := by
  unfold beginLeaseExpiry
  refine .bind (.check fun _ hBad => by cases hBad) fun _ _ => ?_
  refine .bind (.ensure_of ⟨hState, rfl⟩) fun _ _ => ?_
  refine (transitionLease_meets hTime).mono ?_
  rintro next ⟨revision, rfl⟩
  exact ⟨rfl, rfl, rfl, rfl, rfl⟩

theorem completeLeaseExpiry_meets (hState : lease.state = .expiring)
    (hTime : lease.updatedAt ≤ now) :
    Proceeds (fun next => ∃ state, state.terminal = true ∧ LeaseMoved lease next state now)
      (completeLeaseExpiry lease lease.revision now) := by
  unfold completeLeaseExpiry
  refine .bind (.check fun _ hBad => by cases hBad) fun _ _ => ?_
  refine .bind (.ensure_of ⟨hState, rfl⟩) fun _ _ => ?_
  refine (transitionLease_meets hTime).mono ?_
  rintro next ⟨revision, rfl⟩
  refine ⟨_, ?_, rfl, rfl, rfl, rfl, rfl⟩
  split <;> rfl

end ResourceLifecycle

-- Single Writes

variable {δ : Type} {tables : ResourceTables δ} {clock : UtcTimestamp}

section

theorem updateLease_meets {lease next : ResourceLease}
    (hFound : findLease tables lease.id = some lease) :
    Settles (fun later => later =
      { tables with leases := Rows.replace ResourceLease.id tables.leases next })
      (updateLease tables lease next) := by
  unfold updateLease
  refine .bind (.ensure id) fun _ _ => ?_
  refine .bind (.ensure id) fun _ _ => ?_
  refine .bind (.ensure_of ?_) fun _ _ => .ok rfl
  rw [hFound]
  rfl

theorem updateRequest_meets {next : ResourceRequest}
    (hFound : findRequest tables request.id = some request) :
    Settles (fun later => later =
      { tables with requests := Rows.replace ResourceRequest.id tables.requests next })
      (updateRequest tables request next) := by
  unfold updateRequest
  refine .bind (.ensure id) fun _ _ => ?_
  refine .bind (.ensure id) fun _ _ => ?_
  refine .bind (.ensure_of ?_) fun _ _ => .ok rfl
  rw [hFound]
  rfl

variable {next : CapacityClaim}

theorem updateClaim_meets {row : CapacityClaimRow} (hFound : findClaim tables next.id = some row)
    (hId : next.id = row.claim.id) :
    Settles (tables.Reclaimed clock next) (updateClaim tables clock row.claim next) := by
  unfold updateClaim
  refine .bind (.ensure id) fun _ _ => ?_
  refine .bind (.ensure_of ?_) fun _ _ => ?_
  · rw [← hId, hFound]
    rfl
  refine .ok ⟨rfl, ?_, rfl⟩
  rw [← hId]
  rfl

theorem enqueueResourceEvent_meets {event : ResourceEvent} : Settles (fun later =>
      ∃ outbox, later = { tables with outbox }) (enqueueResourceEvent tables event) := by
  unfold enqueueResourceEvent
  exact .bind (.ensure id) fun _ _ => .ok ⟨_, rfl⟩

theorem moveLeaseAndRequest_meets {lease nextLease : ResourceLease}
    {nextRequest : ResourceRequest} {subject : ResourceSubject} {traceId : String}
    (hLease : findLease tables lease.id = some lease)
    (hRequest : findRequest tables request.id = some request) :
    Settles (tables.Replaced nextLease nextRequest)
      (PgResourceStore.moveLeaseAndRequest tables lease nextLease request nextRequest subject
        traceId) := by
  unfold PgResourceStore.moveLeaseAndRequest
  refine .bind (updateLease_meets hLease) ?_
  rintro _ rfl
  refine .bind (updateRequest_meets hRequest) ?_
  rintro _ rfl
  refine .bind enqueueResourceEvent_meets ?_
  rintro _ ⟨_, rfl⟩
  refine enqueueResourceEvent_meets.mono ?_
  rintro _ ⟨_, rfl⟩
  exact ⟨rfl, rfl, rfl⟩

end

-- Reading Rows

section

variable {claimId : CapacityClaimId}

theorem loadClaim_meets : Settles (fun row => findClaim tables claimId = some row)
    (loadClaim tables claimId) := by
  unfold loadClaim
  refine .bind (.require id) fun row hRow => ?_
  refine .bind (.check fun _ => id) fun _ _ => ?_
  exact .ok hRow

theorem loadLease_meets {leaseId : LeaseId} : Settles
    (fun lease => findLease tables leaseId = some lease) (loadLease tables leaseId) := by
  unfold loadLease
  refine .bind (.require id) fun lease hLease => ?_
  refine .bind (.check fun _ => id) fun _ _ => ?_
  exact .ok hLease

theorem loadRequest_meets {requestId : ResourceRequestId} : Settles (fun request =>
      findRequest tables requestId = some request ∧ request.Valid)
    (loadRequest tables requestId) := by
  unfold loadRequest
  refine .bind (.require id) fun request hRequest => ?_
  refine .bind (.check fun _ => id) fun _ hValid => ?_
  exact .ok ⟨hRequest, ResourceRequest.validate_eq_ok.mp hValid⟩

/- The rows that a query returns, as they are stored. -/
structure ProvisioningCapacityClaim.Stored (tables : ResourceTables δ) (claimId : CapacityClaimId)
    (item : ProvisioningCapacityClaim) : Prop where
  claim : ∃ row, findClaim tables claimId = some row ∧ row.claim = item.claim
  request : findRequest tables item.claim.requestId = some item.request
  lease : PgResourceStore.leaseOfClaim tables claimId = some item.lease
  valid : item.request.Valid

theorem readCapacityClaim_meets : Settles (ProvisioningCapacityClaim.Stored tables claimId)
    (readCapacityClaim tables claimId) := by
  unfold readCapacityClaim
  refine .bind loadClaim_meets fun row hRow => ?_
  refine .bind loadRequest_meets fun request hRequest => ?_
  refine .bind (.require id) fun lease hLease => ?_
  refine .bind (.check fun _ => id) fun _ _ => ?_
  exact .ok ⟨⟨row, hRow, rfl⟩, hRequest.1, hLease, hRequest.2⟩

end

-- Moves Of A Claim

variable {claim : CapacityClaim} {source state : CapacityClaimState}

theorem transitionClaim_meets (hState : claim.state = source) (hMoves : source.moves state = true) :
    Settles (fun next => ClaimMoved claim next state) (transitionClaim claim state) := by
  subst hState
  unfold transitionClaim
  refine .bind (.ensure_of hMoves) fun _ _ => ?_
  refine .bind (.require id) fun revision _ => ?_
  exact .ok ⟨revision, rfl⟩

namespace PgResourceStore

variable {row : CapacityClaimRow} {later : ResourceTables δ}

theorem activateLease_meets {activeFrom expiresAt : UtcTimestamp} {traceId : String}
    (hLease : findLease tables lease.id = some lease)
    (hRequest : findRequest tables lease.requestId = some request)
    (hAllocating : lease.state = .allocating) (hState : request.state = .allocating)
    (hTime : request.updatedAt ≤ activeFrom) (hWindow : activeFrom < expiresAt) :
    Settles (fun result => PairTo tables lease .active request .active activeFrom result.2)
      (activateLease tables lease.id lease.revision activeFrom expiresAt traceId) := by
  unfold activateLease
  refine .bind (.ensure id) fun _ _ => ?_
  refine .read hLease loadLease_meets ?_
  refine .bind loadRequest_meets fun found hFind => ?_
  rw [hRequest] at hFind
  cases hFind.1
  have hKey : request.id = lease.requestId := Rows.key_of_lookup hRequest
  rw [← hKey] at hRequest
  refine .bind (.mapError (ResourceLifecycle.activateLease_meets hAllocating hWindow)) ?_
  rintro next ⟨revision, hNext⟩
  refine .bind (.mapError (ResourceLifecycle.transition_meets hState hTime)) ?_
  intro nextRequest hNextRequest
  refine .bind (moveLeaseAndRequest_meets hLease hRequest) ?_
  intro later hLater
  refine .ok ⟨next, nextRequest, ?_, hNextRequest, hLater⟩
  subst hNext
  exact ⟨rfl, rfl, rfl, rfl, rfl⟩

variable (hFound : findClaim tables row.claim.id = some row)

include hFound

theorem transitionThenUpdate_meets (hState : row.claim.state = source)
    (hMoves : source.moves state = true) :
    Settles (ClaimTo tables clock row state) (transitionClaim row.claim state >>=
      updateClaim tables clock row.claim) := by
  refine .bind (transitionClaim_meets hState hMoves) ?_
  intro next hNext
  have hId := hNext.id_eq
  have hRow : findClaim tables next.id = some row := by
    rwa [hId]
  refine (updateClaim_meets hRow hId).mono ?_
  intro later hLater
  exact ⟨next, hNext, hLater⟩

theorem moveClaim_meets {sources : List CapacityClaimState}
    (hState : row.claim.state = source) (hSource : source ∈ sources)
    (hMoves : source.moves state = true) :
    Settles (ClaimTo tables clock row state) (moveClaim tables clock row.claim.id
      row.claim.revision sources state) := by
  unfold moveClaim
  refine .read hFound loadClaim_meets ?_
  refine .bind (.ensure_of ⟨rfl, hState ▸ hSource⟩) fun _ _ => ?_
  exact transitionThenUpdate_meets hFound hState hMoves

/- The claim is found as it was stored. -/
theorem findClaim_of_reclaimed (hId : next.id = row.claim.id)
    (hLater : tables.Reclaimed clock next later) :
    findClaim later next.id = some { row with claim := next, updatedAt := clock } := by
  have hKeeps : ∀ stored : CapacityClaimRow, (reclaimed clock next stored).claim.id =
      stored.claim.id := by
    intro stored
    unfold reclaimed
    split
    · rename_i hSame
      exact hSame.symm
    · rfl
  unfold findClaim
  rw [hLater.claims, Rows.lookup_map hKeeps, hId]
  unfold findClaim at hFound
  rw [hFound]
  simp [reclaimed, hId]

theorem claimNextCapacityShell_meets (hLease : leaseOfClaim tables row.claim.id = some lease)
    (hAllocating : lease.state = .allocating) :
    Settles (ClaimTo tables clock row .provisioning) (claimNextCapacityShell tables clock
      row.claim.id) := by
  unfold claimNextCapacityShell
  refine .read hFound loadClaim_meets ?_
  refine .read hLease (.require id) ?_
  refine .bind (.check fun _ => id) fun _ _ => ?_
  refine .bind (.ensure id) fun _ hDue => ?_
  refine .bind (.ensure_of hAllocating) fun _ _ => ?_
  split
  · rename_i hProvisioning
    refine .bind (transitionClaim_meets hProvisioning rfl) ?_
    intro next hNext
    have hRow : findClaim tables next.id = some row := by
      rwa [hNext.id_eq]
    refine .bind (updateClaim_meets hRow hNext.id_eq) ?_
    intro later hLater
    have hStored := findClaim_of_reclaimed hFound hNext.id_eq hLater
    have hReserved : next.state = .reserved := by
      rcases hNext with ⟨_, rfl⟩
      rfl
    have hSecond : Settles (ClaimTo later clock { row with claim := next, updatedAt := clock }
      .provisioning)
      (transitionClaim next .provisioning >>= updateClaim later clock next) :=
      transitionThenUpdate_meets hStored hReserved rfl
    exact hSecond.mono fun last hLast => .trans hNext hLater hLast
  · rename_i hOther
    rcases hDue with hReserved | ⟨hProvisioning, _⟩
    · exact transitionThenUpdate_meets hFound hReserved rfl
    · exact absurd hProvisioning hOther

variable {diagnosticCode : String}

theorem markCapacityReleasing_meets
    (hState : row.claim.state = .blocked ∨ row.claim.state = .handedOff) :
    Settles (ClaimTo tables clock row .releasing) (markCapacityReleasing tables clock row.claim.id
      row.claim.revision) := by
  rcases hState with hBlocked | hHanded
  · exact moveClaim_meets hFound hBlocked (by decide) rfl
  · exact moveClaim_meets hFound hHanded (by decide) rfl

theorem retryOrBlockCapacityShell_meets (hState : row.claim.state = .provisioning) :
    Settles (fun later => ClaimTo tables clock row .reserved later ∨
      ClaimTo tables clock row .blocked later)
      (retryOrBlockCapacityShell tables clock row.claim.id row.claim.revision diagnosticCode) := by
  unfold retryOrBlockCapacityShell
  refine .bind (.ensure id) fun _ _ => ?_
  have hRecorded : findClaim (recordAttempt tables row.claim.id .provisionQuota false clock)
      row.claim.id = some row := hFound
  dsimp only
  split
  · refine (moveClaim_meets hRecorded hState (by decide) rfl).mono ?_
    intro later hLater
    exact .inr hLater.of_recorded
  · refine (moveClaim_meets hRecorded hState (by decide) rfl).mono ?_
    intro later hLater
    exact .inl hLater.of_recorded

theorem retryOrBlockCapacityHandoff_meets (hState : row.claim.state = .ready) :
    Settles (fun later => (∃ attempts, later = { tables with attempts }) ∨
      ClaimTo tables clock row .blocked later)
      (retryOrBlockCapacityHandoff tables clock row.claim.id
        row.claim.revision diagnosticCode) := by
  unfold retryOrBlockCapacityHandoff
  refine .bind (.ensure id) fun _ _ => ?_
  refine .read hFound loadClaim_meets ?_
  refine .bind (.ensure_of ⟨rfl, hState⟩) fun _ _ => ?_
  dsimp only
  split
  · refine Meets.mono (transitionThenUpdate_meets hFound hState rfl) ?_
    intro later hLater
    exact .inr hLater.of_recorded
  · exact .ok (.inl ⟨_, rfl⟩)

theorem markLeaseSynced_meets (hLease : leaseOfClaim tables row.claim.id = some lease)
    (hState : row.claim.state = .handedOff)
    (hActive : lease.state = .active) (hBehind : row.leaseSyncedRevision < lease.revision.get) :
    Settles (Touched tables) (markLeaseSynced tables clock row.claim.id lease.revision) := by
  unfold markLeaseSynced
  refine .bind (.ensure id) fun _ _ => ?_
  refine .bind (.ensure_of ?_) fun _ _ => ?_
  · rw [hFound, hLease]
    simp [hState, hActive, hBehind]
  refine .ok ⟨rfl, rfl, _, rfl, ?_⟩
  intro stored
  split <;> rfl

theorem recordReconciliationFailure_meets {step : CapacityStep}
    (hState : row.claim.state = .handedOff ∨ row.claim.state = .releasing) :
    Settles (Touched tables) (recordReconciliationFailure tables clock row.claim.id
      step diagnosticCode) := by
  unfold recordReconciliationFailure
  refine .bind (.ensure id) fun _ _ => ?_
  refine .read hFound (.require id) ?_
  refine .bind (.ensure_of hState) fun _ _ => ?_
  refine .ok ⟨rfl, rfl, _, rfl, ?_⟩
  intro stored
  split <;> rfl

theorem nextLeaseCleanup_meets (hHeld : leaseOfClaim tables row.claim.id = some lease)
    (hLease : findLease tables lease.id = some lease)
    (hRequest : findRequest tables row.claim.requestId = some request)
    (hState : lease.state = .active → request.state = .active)
    (hLeaseTime : lease.updatedAt ≤ clock) (hRequestTime : request.updatedAt ≤ clock) :
    Settles (fun later => lease.state = .expiring ∧ later = tables ∨
      PairTo tables lease .expiring request .expiring clock later)
      (nextLeaseCleanup tables clock row.claim.id) := by
  unfold nextLeaseCleanup
  refine .read hFound loadClaim_meets ?_
  refine .read hHeld (.require id) ?_
  refine .bind (.check fun _ => id) fun _ _ => ?_
  refine .bind loadRequest_meets fun found hFind => ?_
  rw [hRequest] at hFind
  cases hFind.1
  refine .bind (.ensure id) fun _ hDue => ?_
  split
  · rename_i hActive
    have hKey : request.id = row.claim.requestId := Rows.key_of_lookup hRequest
    rw [← hKey] at hRequest
    refine .bind (.mapError (ResourceLifecycle.beginLeaseExpiry_meets (.inr hActive) hLeaseTime)) ?_
    intro nextLease hNextLease
    refine .bind (.mapError (.bind (.ensure_of (.inl (hState hActive))) fun _ _ =>
      ResourceLifecycle.transition_meets rfl hRequestTime)) ?_
    intro nextRequest hNextRequest
    refine (moveLeaseAndRequest_meets hLease hRequest).mono ?_
    intro later hLater
    exact .inr ⟨_, _, hNextLease, hNextRequest, hLater⟩
  · rename_i hOther
    rcases hDue with ⟨_, hExpiring | ⟨hActive, _⟩, _⟩
    · exact .ok (.inl ⟨hExpiring, rfl⟩)
    · exact absurd hActive hOther

theorem completeCapacityRelease_meets {traceId : String}
    (hLease : findLease tables lease.id = some lease)
    (hRequest : findRequest tables lease.requestId = some request)
    (hClaim : lease.claimId = row.claim.id) (hReleasing : row.claim.state = .releasing)
    (hExpiring : lease.state = .expiring) (hState : request.state = .expiring)
    (hLeaseTime : lease.updatedAt ≤ clock) (hRequestTime : request.updatedAt ≤ clock) :
    Settles (fun result => ∃ middle leaseState, ClaimTo tables clock row .released middle ∧
      leaseState.terminal = true ∧ PairTo middle lease leaseState request .expired clock result.2)
      (completeCapacityRelease tables clock row.claim.id row.claim.revision lease.id lease.revision
        traceId) := by
  unfold completeCapacityRelease
  refine .bind (.ensure id) fun _ _ => ?_
  refine .read hFound loadClaim_meets ?_
  refine .read hLease loadLease_meets ?_
  refine .bind loadRequest_meets fun found hFind => ?_
  rw [hRequest] at hFind
  cases hFind.1
  have hKey : request.id = lease.requestId := Rows.key_of_lookup hRequest
  rw [← hKey] at hRequest
  refine .bind (.ensure_of ⟨rfl, hReleasing, rfl, hExpiring, hClaim⟩) fun _ _ => ?_
  refine .bind (transitionClaim_meets hReleasing rfl) ?_
  intro nextClaim hNextClaim
  refine .bind (.mapError (ResourceLifecycle.completeLeaseExpiry_meets hExpiring hLeaseTime)) ?_
  rintro nextLease ⟨leaseState, hTerminal, hNextLease⟩
  refine .bind (.mapError (ResourceLifecycle.transition_meets hState hRequestTime)) ?_
  intro nextRequest hNextRequest
  have hRow : findClaim tables nextClaim.id = some row := by
    rwa [hNextClaim.id_eq]
  refine .bind (updateClaim_meets hRow hNextClaim.id_eq) ?_
  intro middle hMiddle
  have hMiddleLease : findLease middle lease.id = some lease := by
    unfold findLease
    rwa [hMiddle.leases]
  have hMiddleRequest : findRequest middle request.id = some request := by
    unfold findRequest
    rwa [hMiddle.requests]
  refine .bind (moveLeaseAndRequest_meets hMiddleLease hMiddleRequest) ?_
  intro later hLater
  exact .ok ⟨middle, leaseState, ⟨nextClaim, hNextClaim, hMiddle⟩,
    hTerminal, ⟨_, _, hNextLease, hNextRequest, hLater⟩⟩

end PgResourceStore

-- The Window Of A Lease

open PgResourceStore

section

variable {δ : Type} {tables : ResourceTables δ}

theorem activateLease_window {leaseId : LeaseId} {expectedRevision : Revision}
    {activeFrom expiresAt : UtcTimestamp} {traceId : String} {next : ResourceLease}
    {later : ResourceTables δ} (hActivate : activateLease tables leaseId expectedRevision
      activeFrom expiresAt traceId = .ok (next, later)) :
    next ∈ later.leases ∧ next.id = leaseId ∧ next.activeFrom = some activeFrom ∧
      next.expiresAt = some expiresAt := by
  simp only [activateLease, steps_eq_ok] at hActivate
  rcases hActivate with ⟨_, _, lease, hLoad, request, hLoadRequest, moved, hMove,
      nextRequest, _, written, hWrite, ⟨⟩⟩
  rcases loadLease_found hLoad with ⟨hId, hFound⟩
  have hRequest := (loadRequest_found hLoadRequest).2
  have hWritten := (moveLeaseAndRequest_meets hFound hRequest).result hWrite
  simp only [ResourceLifecycle.activateLease, steps_eq_ok] at hMove
  rcases hMove with ⟨_, _, _, revision, _, _, _, rfl⟩
  refine ⟨?_, hId, rfl, rfl⟩
  rw [hWritten.leases]
  exact Rows.mem_replace_self (Rows.mem_of_lookup hFound) rfl

theorem openWindow_window {item : ProvisioningCapacityClaim} {now : UtcTimestamp}
    {turn : WorkerTurn δ} (hOpen : openWindow tables item now = .ok turn)
    (hPlace : turn.2 ≠ .panicked) :
    ∃ lease ∈ turn.1.leases, lease.id = item.lease.id ∧ lease.activeFrom = some now ∧
      lease.expiresAt = some (now + windowDuration item.request) := by
  simp only [openWindow, check_bind_eq_ok] at hOpen
  rcases hOpen with ⟨_, hOpen⟩
  split at hOpen
  · cases hOpen
    exact absurd rfl hPlace
  · rename_i expiresAt hSum
    rw [bind_eq_ok] at hOpen
    rcases hOpen with ⟨⟨lease, later⟩, hActivate, ⟨⟩⟩
    rcases activateLease_window hActivate with ⟨hMember, hId, hStart, hStop⟩
    rw [(addDuration_eq_some.mp hSum).2] at hStop
    exact ⟨lease, hMember, hId, hStart, hStop⟩

end

section

variable {δ : Type} [DecidableEq δ] {hash : ResourceDocument → δ} {providers : CapacityProviders}

/- The window lasts as long as was approved exactly if that is as long as was requested. -/
theorem handoff_window_iff {s s' : CapacityWorld δ} {item : ProvisioningCapacityClaim}
    {now : UtcTimestamp} (hPlace : s.worker = .opening item now)
    (hStep : (capacityWorld hash providers).step s (.work .activate) = some s')
    (hOpened : s'.worker = .refreshing item.claim.id) (approval : ResourceApproval) :
    ∃ lease ∈ s'.resource.tables.leases, lease.id = item.lease.id ∧ ∃ activeFrom expiresAt,
      lease.activeFrom = some activeFrom ∧ lease.expiresAt = some expiresAt ∧
      (expiresAt - activeFrom = (approval.approvedDurationSeconds * 1000 : Nat) ↔
        approval.approvedDurationSeconds = item.request.requestedDurationSeconds) := by
  simp only [capacityWorld, CapacityWorld.step, workerStep,
    hPlace, Option.map_some, Option.some.injEq] at hStep
  subst hStep
  cases hOpen : openWindow s.resource.tables item now with
  | error error =>
    rw [hOpen] at hOpened
    cases hOpened
  | ok turn =>
    rw [hOpen] at hOpened
    have hNext : turn.2 = .refreshing item.claim.id := hOpened
    have hRunning : turn.2 ≠ .panicked := by
      rw [hNext]
      simp
    rcases openWindow_window hOpen hRunning with ⟨lease, hLease, hId, hStart, hStop⟩
    refine ⟨lease, hLease, hId, now, _, hStart, hStop, ?_⟩
    rw [Int.add_comm, Int.add_sub_cancel, windowDuration, Int.natCast_inj]
    omega

end

open WorkerSample

/- A request that is approved for what it asks. -/
theorem handoff_window_sample : ∃ s s' : CapacityWorld ResourceDocument, ∃ item now,
    (capacityWorld id providers).Reachable s ∧
    (capacityWorld id providers).step s (.work .activate) = some s' ∧ s.worker = .opening item now ∧
    ∃ lease ∈ s'.resource.tables.leases, lease.id = item.lease.id ∧ ∃ activeFrom expiresAt,
      lease.activeFrom = some activeFrom ∧ lease.expiresAt = some expiresAt ∧
      expiresAt - activeFrom = (600 * 1000 : Nat) := by
  have hFound : ∃ s, (capacityWorld id providers).Reachable s ∧ (match s.worker with
        | .opening item now =>
          decide (item.request.requestedDurationSeconds = 600) &&
          ((capacityWorld id providers).step s (.work .activate)).any (fun s' =>
            decide (s'.worker = .refreshing item.claim.id))
        | _ => false) = true :=
    Machine.exists_reachable (approved ++ provisioned ++
      [.work .readTime]) start_initial (by decide)
  rcases hFound with ⟨s, hReach, hTest⟩
  split at hTest
  · rename_i item now hPlace
    rw [Bool.and_eq_true] at hTest
    rcases hTest with ⟨hDuration, hTest⟩
    rcases (Option.any_eq_true _ _).mp hTest with ⟨s', hStep, hOpened⟩
    rcases handoff_window_iff hPlace hStep (of_decide_eq_true hOpened)
        { approval with approvedDurationSeconds := 600 } with
      ⟨lease, hLease, hId, start, stop, hStart, hStop, hIff⟩
    exact ⟨s, s', item, now, hReach, hStep, hPlace, lease, hLease, hId, start, stop, hStart, hStop,
      hIff.mpr (of_decide_eq_true hDuration).symm⟩
  · cases hTest

/- A request for ten minutes is approved for five, and the worker opens a window of ten. -/
theorem handoff_window_requested : ∃ s : CapacityWorld ResourceDocument,
    (capacityWorld id providers).Reachable s ∧
    ∃ row ∈ s.resource.tables.claims, ∃ approval ∈ s.resource.tables.approvals,
      ∃ lease ∈ s.resource.tables.leases, lease.claimId = row.claim.id ∧
        approval.id = row.claim.approvalId ∧ approval.approvedDurationSeconds = 300 ∧
        lease.activeFrom = some 2000 ∧ lease.expiresAt = some (2000 + 600 * 1000) := by
  exact Machine.exists_reachable (approved ++ provisioned ++ opened) start_initial (by decide)

end LabWeaver
