import LabWeaver.Resource.Effects

/-
  This file states how the rows of a claim, its lease and its request are linked, and what the
  capacity worker may assume of them between its transactions. Requests to the service keep this,
  except for a revocation of a lease whose claim is not handed off.
-/

namespace LabWeaver

open Outcome PgResourceStore Rows List

-- States That Go Together

def CapacityClaimState.admits : CapacityClaimState → ResourceLeaseState → Bool
| .reserved, .allocating | .provisioning, .allocating => true
| .ready, .allocating | .ready, .active => true
| .reserved, _ | .provisioning, _ | .ready, _ => false
| _, _ => true

/- The claim still holds its capacity for itself. -/
def CapacityClaimState.shell : CapacityClaimState → Bool
| .reserved | .provisioning | .ready => true
| _ => false

theorem CapacityClaimState.admits_of_not_shell {state : CapacityClaimState}
    (hShell : state.shell = false) (lease : ResourceLeaseState) : state.admits lease = true := by
  cases state <;> first | rfl | cases hShell

def ResourceLeaseState.fits : ResourceLeaseState → ResourceRequestState → Bool
| .allocating, .allocating | .active, .active
| .expiring, .expiring | .expired, .expired
| .revoked, .expired => true
| _, _ => false

/- The lease of a request that is Allocating or Active is in the same state. -/
theorem ResourceLeaseState.fits_live {lease : ResourceLeaseState} {request : ResourceRequestState}
    (hFits : lease.fits request = true) (hState : request = .active ∨ request = .allocating) :
    lease = .allocating ∨ lease = .active := by
  rcases hState with rfl | rfl <;>
    cases lease <;>
    first
    | exact .inl rfl
    | exact .inr rfl
    | cases hFits

variable {δ : Type} {tables later : ResourceTables δ}

section

variable (tables)

structure Allocated (row : CapacityClaimRow) (lease : ResourceLease) (request : ResourceRequest) :
    Prop where
  claim_mem : row ∈ tables.claims
  lease_mem : lease ∈ tables.leases
  request_mem : request ∈ tables.requests
  claimId : lease.claimId = row.claim.id
  requestId : lease.requestId = row.claim.requestId
  target : request.id = row.claim.requestId

variable (clock : UtcTimestamp)

/- The states and the times of the three rows. -/
structure Fitting (claim : CapacityClaim) (lease : ResourceLease) (request : ResourceRequest) :
    Prop where
  admits : claim.state.admits lease.state = true
  fits : lease.state.fits request.state = true
  lease_le : lease.updatedAt ≤ clock
  request_le : request.updatedAt ≤ clock

theorem Fitting.request_state {clock : UtcTimestamp} {claim : CapacityClaim} {lease : ResourceLease}
    {request : ResourceRequest} {state : ResourceRequestState}
    (hFit : Fitting clock claim lease request) (hState : lease.state.fits state = true) :
    request.state = state := by
  have hFits := hFit.fits
  cases hLease : lease.state <;> rw [hLease] at hFits hState <;> cases hRequest : request.state <;>
    rw [hRequest] at hFits <;> cases hFits <;> cases state <;> first | rfl | cases hState

/- Every claim and every lease is of an allocation, and the rows of every allocation go
  together. -/
structure ResourceTables.Linked (fit : CapacityClaim → ResourceLease → ResourceRequest → Prop) :
    Prop where
  requestIds : Unique ResourceRequest.id tables.requests
  claimIds : Unique (fun row : CapacityClaimRow => row.claim.id) tables.claims
  leaseIds : Unique ResourceLease.id tables.leases
  leaseClaims : Unique ResourceLease.claimId tables.leases
  leaseRequests : Unique ResourceLease.requestId tables.leases
  claimed : ∀ row ∈ tables.claims, ∃ lease request, Allocated tables row lease request
  leased : ∀ lease ∈ tables.leases, ∃ row request, Allocated tables row lease request
  fitting : ∀ row lease request, Allocated tables row lease request → fit row.claim lease request

abbrev ResourceTables.Coherent : Prop :=
  tables.Linked (Fitting clock)

variable {tables}

variable {clock now : UtcTimestamp}
  {row row' : CapacityClaimRow} {lease lease' nextLease : ResourceLease}
  {request request' next : ResourceRequest}
  {fit fit' : CapacityClaim → ResourceLease → ResourceRequest → Prop}

/- The rows of every allocation go together if those of some allocation of every claim do. -/
theorem ResourceTables.Linked.of_claimed
    (hRequestIds : Unique ResourceRequest.id tables.requests)
    (hClaimIds : Unique (fun row : CapacityClaimRow => row.claim.id) tables.claims)
    (hLeaseIds : Unique ResourceLease.id tables.leases)
    (hLeaseClaims : Unique ResourceLease.claimId tables.leases)
    (hLeaseRequests : Unique ResourceLease.requestId tables.leases)
    (hClaimed : ∀ row ∈ tables.claims, ∃ lease request, Allocated tables row lease request ∧
      fit row.claim lease request)
    (hLeased : ∀ lease ∈ tables.leases, ∃ row request, Allocated tables row lease request) :
    tables.Linked fit := by
  refine ⟨hRequestIds, hClaimIds, hLeaseIds, hLeaseClaims, hLeaseRequests, ?_, hLeased, ?_⟩
  · intro row hRow
    rcases hClaimed row hRow with ⟨lease, request, hAllocated, _⟩
    exact ⟨lease, request, hAllocated⟩
  · intro row lease request hThese
    rcases hClaimed row hThese.claim_mem with ⟨_, _, hAllocated, hFit⟩
    have hLease := hLeaseClaims _ hThese.lease_mem _ hAllocated.lease_mem
      (hThese.claimId.trans hAllocated.claimId.symm)
    have hRequest := hRequestIds _ hThese.request_mem _ hAllocated.request_mem
      (hThese.target.trans hAllocated.target.symm)
    subst hLease hRequest
    exact hFit

section

variable (hLinked : tables.Linked fit)

include hLinked

namespace Allocated

variable (hFirst : Allocated tables row lease request)
  (hSecond : Allocated tables row' lease' request')

include hFirst hSecond

/- The lease determines the claim. -/
theorem row_eq (hLease : lease = lease') : row = row' := by
  apply hLinked.claimIds _ hFirst.claim_mem _ hSecond.claim_mem
  show row.claim.id = row'.claim.id
  rw [← hFirst.claimId, ← hSecond.claimId, hLease]

theorem request_eq (hLease : lease = lease') : request = request' := by
  apply hLinked.requestIds _ hFirst.request_mem _ hSecond.request_mem
  rw [hFirst.target, hSecond.target, ← hFirst.requestId, ← hSecond.requestId, hLease]

/- The claim determines the lease. -/
theorem lease_eq (hRow : row = row') : lease = lease' := by
  apply hLinked.leaseClaims _ hFirst.lease_mem _ hSecond.lease_mem
  rw [hFirst.claimId, hSecond.claimId, hRow]

theorem lease_eq_of_request (hRequest : request.id = request'.id) : lease = lease' := by
  apply hLinked.leaseRequests _ hFirst.lease_mem _ hSecond.lease_mem
  rw [hFirst.requestId, hSecond.requestId, ← hFirst.target, ← hSecond.target, hRequest]

end Allocated

namespace ResourceTables.Linked

theorem findClaim_eq (hRow : row ∈ tables.claims) : findClaim tables row.claim.id = some row :=
  (lookup_eq_some_iff hLinked.claimIds).mpr ⟨hRow, rfl⟩

theorem findLease_eq (hLease : lease ∈ tables.leases) : findLease tables lease.id = some lease :=
  (lookup_eq_some_iff hLinked.leaseIds).mpr ⟨hLease, rfl⟩

theorem leaseOfClaim_eq (hAllocated : Allocated tables row lease request) :
    leaseOfClaim tables row.claim.id = some lease :=
  (lookup_eq_some_iff hLinked.leaseClaims).mpr ⟨hAllocated.lease_mem, hAllocated.claimId⟩

theorem findRequest_eq (hAllocated : Allocated tables row lease request) :
    findRequest tables row.claim.requestId = some request :=
  (lookup_eq_some_iff hLinked.requestIds).mpr ⟨hAllocated.request_mem, hAllocated.target⟩

/- What a query returns belongs together. -/
theorem allocated_of_stored {claimId : CapacityClaimId} {item : ProvisioningCapacityClaim}
    (hStored : item.Stored tables claimId) :
    ∃ row, findClaim tables claimId = some row ∧ row.claim = item.claim ∧ row.claim.id = claimId ∧
      Allocated tables row item.lease item.request := by
  rcases hStored.claim with ⟨row, hRow, hClaim⟩
  have hKey := key_of_lookup hRow
  have hId : row.claim.id = claimId := hKey
  have hMember := mem_of_lookup hRow
  rcases hLinked.claimed row hMember with ⟨lease, request, hAllocated⟩
  have hLease := hLinked.leaseOfClaim_eq hAllocated
  rw [hId, hStored.lease] at hLease
  have hRequest := hLinked.findRequest_eq hAllocated
  rw [hClaim, hStored.request] at hRequest
  cases hLease
  cases hRequest
  exact ⟨row, hRow, hClaim, hId, hAllocated⟩

theorem allocated_of_request (hLease : lease ∈ tables.leases) (hRequest : request ∈ tables.requests)
    (hId : request.id = lease.requestId) : ∃ row, Allocated tables row lease request := by
  rcases hLinked.leased lease hLease with ⟨row, held, hAllocated⟩
  have hSame : held = request := by
    apply hLinked.requestIds _ hAllocated.request_mem _ hRequest
    rw [hAllocated.target, ← hAllocated.requestId, hId]
  exact ⟨row, hSame ▸ hAllocated⟩

/- An update of the rows that keeps their links keeps the tables linked if it keeps the rows of
  every allocation fitting. -/
theorem update {updateRequest : ResourceRequest → ResourceRequest}
    {updateClaim : CapacityClaimRow → CapacityClaimRow}
    {updateLease : ResourceLease → ResourceLease}
    (hRows : later.Holds (tables.requests.map updateRequest) (tables.claims.map updateClaim)
      (tables.leases.map updateLease))
    (hRequest : ∀ request ∈ tables.requests, (updateRequest request).id = request.id)
    (hClaim : ∀ row ∈ tables.claims, (updateClaim row).claim.id = row.claim.id ∧
      (updateClaim row).claim.requestId = row.claim.requestId)
    (hLease : ∀ lease ∈ tables.leases, (updateLease lease).id = lease.id ∧
      (updateLease lease).requestId = lease.requestId ∧ (updateLease lease).claimId = lease.claimId)
    (hFitting : ∀ row lease request, Allocated tables row lease request →
      fit row.claim lease request →
      fit' (updateClaim row).claim (updateLease lease) (updateRequest request)) :
    later.Linked fit' := by
  rcases hRows with ⟨hRequests, hClaims, hLeases⟩
  -- an allocation stays one when its rows are updated
  have hForth : ∀ {row lease request}, Allocated tables row lease request →
      Allocated later (updateClaim row) (updateLease lease) (updateRequest request) := by
    intro row lease request hOld
    have hRow := hClaim row hOld.claim_mem
    have hHeld := hLease lease hOld.lease_mem
    have hFor := hRequest request hOld.request_mem
    refine ⟨hClaims ▸ mem_map_of_mem hOld.claim_mem,
      hLeases ▸ mem_map_of_mem hOld.lease_mem,
      hRequests ▸ mem_map_of_mem hOld.request_mem, ?_, ?_, ?_⟩
    · rw [hHeld.2.2, hRow.1, hOld.claimId]
    · rw [hHeld.2.1, hRow.2, hOld.requestId]
    · rw [hFor, hRow.2, hOld.target]
  refine .of_claimed (hRequests ▸ hLinked.requestIds.map hRequest)
    (hClaims ▸ hLinked.claimIds.map fun row hRow => (hClaim row hRow).1)
    (hLeases ▸ hLinked.leaseIds.map fun lease hHeld => (hLease lease hHeld).1)
    (hLeases ▸ hLinked.leaseClaims.map fun lease hHeld => (hLease lease hHeld).2.2)
    (hLeases ▸ hLinked.leaseRequests.map fun lease hHeld => (hLease lease hHeld).2.1) ?_ ?_
  · intro row hRow
    rcases mem_map.mp (hClaims ▸ hRow) with ⟨row₀, hRow₀, rfl⟩
    rcases hLinked.claimed row₀ hRow₀ with ⟨lease, request, hOld⟩
    exact ⟨_, _, hForth hOld, hFitting _ _ _ hOld (hLinked.fitting _ _ _ hOld)⟩
  · intro lease hHeld
    rcases mem_map.mp (hLeases ▸ hHeld) with ⟨lease₀, hHeld₀, rfl⟩
    rcases hLinked.leased lease₀ hHeld₀ with ⟨row, request, hOld⟩
    exact ⟨_, _, hForth hOld⟩

/- The claims and leases are the same, and the rows still go together. -/
theorem mono
    (hFitting : ∀ claim lease request, fit claim lease request → fit' claim lease request) :
    tables.Linked fit' :=
  { hLinked with
    fitting := fun _ _ _ hAllocated => hFitting _ _ _ (hLinked.fitting _ _ _ hAllocated) }

/- A write that leaves every claim as it is. -/
theorem touched (hTouched : Touched tables later) : later.Linked fit := by
  rcases hTouched.claims with ⟨touch, hClaims, hKeeps⟩
  refine hLinked.update ⟨hTouched.requests.trans (map_id _).symm, hClaims,
    hTouched.leases.trans (map_id _).symm⟩ (fun _ _ => rfl) ?_ (fun _ _ => ⟨rfl, rfl, rfl⟩) ?_
  · intro row _
    rw [hKeeps]
    exact ⟨rfl, rfl⟩
  · intro row lease request _ hFit
    rwa [hKeeps]

theorem kept (hRows : later.Holds tables.requests tables.claims tables.leases) : later.Linked fit :=
  hLinked.touched ⟨hRows.requests, hRows.leases, id, hRows.claims.trans (map_id _).symm,
    fun _ => rfl⟩

/- A claim moves to a state that its lease and its request go with. -/
theorem claimed_to {state : CapacityClaimState} (hRow : row ∈ tables.claims)
    (hFitting : ∀ revision lease request, Allocated tables row lease request →
      fit row.claim lease request → fit { row.claim with state, revision } lease request)
    (hTo : ClaimTo tables clock row state later) : later.Linked fit := by
  rcases hTo with ⟨next, ⟨revision, rfl⟩, hLater⟩
  -- the row under the identifier is the one that moves
  have hSame : ∀ other ∈ tables.claims, other.claim.id = row.claim.id → other = row :=
    fun other hOther hId => hLinked.claimIds other hOther row hRow hId
  refine hLinked.update ⟨hLater.requests.trans (map_id _).symm, hLater.claims,
    hLater.leases.trans (map_id _).symm⟩ (fun _ _ => rfl) ?_ (fun _ _ => ⟨rfl, rfl, rfl⟩) ?_
  · intro other hOther
    unfold reclaimed
    split
    · rename_i hId
      rw [hSame other hOther hId]
      exact ⟨rfl, rfl⟩
    · exact ⟨rfl, rfl⟩
  · intro other lease request hAllocated hFit
    unfold reclaimed
    split
    · rename_i hId
      have hOther := hSame other hAllocated.claim_mem hId
      subst hOther
      exact hFitting revision lease request hAllocated hFit
    · exact hFit

/- A lease and its request move to states that go together with the claim. -/
theorem replaced {leaseState : ResourceLeaseState} (hAllocated : Allocated tables row lease request)
    (hMoved : ResourceLifecycle.LeaseMoved lease nextLease leaseState now)
    (hNext : next.id = request.id) (hFit : fit row.claim nextLease next)
    (hRows : tables.Replaced nextLease next later) : later.Linked fit := by
  rcases hMoved with ⟨hId, hRequestId, hClaimId, _, _⟩
  have hSameLease : ∀ other ∈ tables.leases, other.id = nextLease.id → other = lease := by
    intro other hOther hOtherId
    exact hLinked.leaseIds other hOther lease hAllocated.lease_mem (hOtherId.trans hId)
  refine hLinked.update ⟨hRows.requests, hRows.claims.trans (map_id _).symm, hRows.leases⟩
    ?_ (fun _ _ => ⟨rfl, rfl⟩) ?_ ?_
  · intro other _
    split
    · rename_i hOther
      exact hOther.symm
    · rfl
  · intro other hOther
    split
    · rename_i hOtherId
      rw [hSameLease other hOther hOtherId]
      exact ⟨hId, hRequestId, hClaimId⟩
    · exact ⟨rfl, rfl, rfl⟩
  · intro otherRow otherLease otherRequest hOther hOld
    -- the two rows move together or not at all
    by_cases hLease : otherLease.id = nextLease.id
    · have hSame := hSameLease otherLease hOther.lease_mem hLease
      have hSameRow := hOther.row_eq hLinked hAllocated hSame
      have hSameRequest := hOther.request_eq hLinked hAllocated hSame
      subst hSameRow hSameRequest
      rwa [if_pos hLease, if_pos hNext.symm]
    · have hNe : otherRequest.id ≠ next.id := by
        intro hSame
        apply hLease
        rw [hOther.lease_eq_of_request hLinked hAllocated (hSame.trans hNext), hId]
      rwa [if_neg hLease, if_neg hNe]

theorem renewed (hLease : lease ∈ tables.leases)
    (hMoved : ResourceLifecycle.LeaseMoved lease nextLease .active now)
    (hFitting : ∀ claim request, fit claim lease request → fit claim nextLease request)
    (hRows : later.Holds tables.requests tables.claims
      (replace ResourceLease.id tables.leases nextLease)) : later.Linked fit := by
  rcases hLinked.leased lease hLease with ⟨row, request, hAllocated⟩
  have hRequests := replace_self hLinked.requestIds hAllocated.request_mem
  exact hLinked.replaced hAllocated hMoved rfl (hFitting _ _ (hLinked.fitting _ _ _ hAllocated))
    ⟨hRows.requests.trans hRequests.symm, hRows.claims, hRows.leases⟩

theorem requested (hFresh : ∀ row ∈ tables.requests, row.id ≠ request.id)
    (hRows : later.Holds (request :: tables.requests) tables.claims tables.leases) :
    later.Linked fit := by
  rcases hRows with ⟨hRequests, hClaims, hLeases⟩
  have hForth : ∀ {row lease request}, Allocated tables row lease request →
      Allocated later row lease request := fun hOld =>
    ⟨hClaims ▸ hOld.claim_mem, hLeases ▸ hOld.lease_mem,
      hRequests ▸ mem_cons_of_mem _ hOld.request_mem,
      hOld.claimId, hOld.requestId, hOld.target⟩
  refine .of_claimed (hRequests ▸ hLinked.requestIds.insert hFresh) (hClaims ▸ hLinked.claimIds)
    (hLeases ▸ hLinked.leaseIds) (hLeases ▸ hLinked.leaseClaims)
    (hLeases ▸ hLinked.leaseRequests) ?_ ?_
  · intro row hRow
    rcases hLinked.claimed row (hClaims ▸ hRow) with ⟨lease, old, hOld⟩
    exact ⟨lease, old, hForth hOld, hLinked.fitting _ _ _ hOld⟩
  · intro lease hLease
    rcases hLinked.leased lease (hLeases ▸ hLease) with ⟨row, old, hOld⟩
    exact ⟨row, old, hForth hOld⟩

variable (hFits : ∀ {claim lease request}, fit claim lease request →
  lease.state.fits request.state = true)

include hFits

theorem ne_of_unallocated {other : ResourceRequest}
    (hAllocated : Allocated tables row lease request) (hOther : other ∈ tables.requests)
    (hState : other.state = .reviewing ∨ other.state = .rejected) : request.id ≠ other.id := by
  intro hSame
  have hEq := hLinked.requestIds _ hAllocated.request_mem _ hOther hSame
  subst hEq
  have hPaired := hFits (hLinked.fitting _ _ _ hAllocated)
  rcases hState with hState | hState <;>
  · rw [hState] at hPaired
    cases hLease : lease.state <;> rw [hLease] at hPaired <;>
      cases hPaired

theorem reviewed (hRequest : request ∈ tables.requests)
    (hState : request.state = .reviewing ∨ request.state = .rejected) (hNext : next.id = request.id)
    (hRows : later.Holds (replace ResourceRequest.id tables.requests next) tables.claims
      tables.leases) : later.Linked fit := by
  refine hLinked.update ⟨hRows.requests, hRows.claims.trans (map_id _).symm,
    hRows.leases.trans (map_id _).symm⟩ ?_ (fun _ _ => ⟨rfl, rfl⟩) (fun _ _ => ⟨rfl, rfl, rfl⟩)
    ?_
  · intro other _
    split
    · rename_i hOther
      exact hOther.symm
    · rfl
  · intro row lease other hAllocated hFit
    have hNe := hLinked.ne_of_unallocated hFits hAllocated hRequest hState
    rw [← hNext] at hNe
    rwa [if_neg hNe]

theorem allocated (hRequest : request ∈ tables.requests) (hState : request.state = .reviewing)
    (hNext : next.id = request.id) (hRow : row.claim.requestId = request.id)
    (hLease : lease.claimId = row.claim.id ∧ lease.requestId = request.id)
    (hFreshClaim : ∀ old ∈ tables.claims, old.claim.id ≠ row.claim.id)
    (hFreshLease : ∀ old ∈ tables.leases, old.id ≠ lease.id ∧ old.requestId ≠ lease.requestId ∧
      old.claimId ≠ lease.claimId) (hFit : fit row.claim lease next)
    (hRows : later.Holds (replace ResourceRequest.id tables.requests next)
      (row :: tables.claims) (lease :: tables.leases)) : later.Linked fit := by
  rcases hRows with ⟨hRequests, hClaims, hLeases⟩
  -- the rows of other claims are not touched
  have hForth : ∀ {row' lease' request'}, Allocated tables row' lease' request' →
      Allocated later row' lease' request' := by
    intro row' lease' request' hOld
    have hNe := hLinked.ne_of_unallocated hFits hOld hRequest (.inl hState)
    rw [← hNext] at hNe
    exact ⟨hClaims ▸ mem_cons_of_mem _ hOld.claim_mem,
      hLeases ▸ mem_cons_of_mem _ hOld.lease_mem,
      hRequests ▸ mem_replace_of_ne hOld.request_mem hNe, hOld.claimId, hOld.requestId,
      hOld.target⟩
  have hNew : Allocated later row lease next :=
    ⟨hClaims ▸ mem_cons_self, hLeases ▸ mem_cons_self,
      hRequests ▸ mem_replace_self hRequest hNext.symm, hLease.1, hLease.2.trans hRow.symm,
      hNext.trans hRow.symm⟩
  refine .of_claimed (hRequests ▸ hLinked.requestIds.replace)
    (hClaims ▸ hLinked.claimIds.insert hFreshClaim)
    (hLeases ▸ hLinked.leaseIds.insert fun old hOld => (hFreshLease old hOld).1)
    (hLeases ▸ hLinked.leaseClaims.insert fun old hOld => (hFreshLease old hOld).2.2)
    (hLeases ▸ hLinked.leaseRequests.insert fun old hOld => (hFreshLease old hOld).2.1) ?_ ?_
  · intro row' hMember
    rcases mem_cons.mp (hClaims ▸ hMember) with rfl | hOld
    · exact ⟨_, _, hNew, hFit⟩
    · rcases hLinked.claimed row' hOld with ⟨_, _, hOld⟩
      exact ⟨_, _, hForth hOld, hLinked.fitting _ _ _ hOld⟩
  · intro lease' hMember
    rcases mem_cons.mp (hLeases ▸ hMember) with rfl | hOld
    · exact ⟨_, _, hNew⟩
    · rcases hLinked.leased lease' hOld with ⟨_, _, hOld⟩
      exact ⟨_, _, hForth hOld⟩

end ResourceTables.Linked

end

/- The action revokes no lease of a claim that is not handed off. -/
def ResourceAction.LeavesShells (action : ResourceAction) (tables : ResourceTables δ) : Prop :=
  ∀ lease ∈ tables.leases, action.revokes tables = some lease.id → ∀ row ∈ tables.claims,
    row.claim.id = lease.claimId → row.claim.state.shell = false

namespace ResourceTables.Coherent

variable (hCoherent : tables.Coherent clock)

include hCoherent

/- Time passes. -/
theorem mono (hLater : clock ≤ now) : tables.Coherent now := by
  apply Linked.mono hCoherent
  intro claim lease request hFit
  exact ⟨hFit.admits, hFit.fits, Int.le_trans hFit.lease_le hLater,
    Int.le_trans hFit.request_le hLater⟩

/- A claim moves to a state that its lease goes with. -/
theorem claimTo {state : CapacityClaimState} (hRow : row ∈ tables.claims)
    (hAdmits : ∀ lease request, Allocated tables row lease request →
      state.admits lease.state = true) (hTo : ClaimTo tables clock row state later) :
    later.Coherent clock := by
  refine hCoherent.claimed_to hRow ?_ hTo
  intro revision lease request hAllocated hFit
  exact ⟨hAdmits lease request hAllocated, hFit.fits, hFit.lease_le, hFit.request_le⟩

theorem pairTo {leaseState : ResourceLeaseState} {requestState : ResourceRequestState}
    (hAllocated : Allocated tables row lease request)
    (hAdmits : row.claim.state.admits leaseState = true)
    (hFits : leaseState.fits requestState = true) (hNow : now ≤ clock)
    (hTo : PairTo tables lease leaseState request requestState now later) :
    later.Coherent clock := by
  rcases hTo with ⟨nextLease, _, hMoved, ⟨revision, rfl⟩, hLater⟩
  have hNext : (ResourceLifecycle.movedRequest request requestState revision now).id =
      request.id := rfl
  refine hCoherent.replaced hAllocated hMoved hNext ?_ hLater
  rcases hMoved with ⟨_, _, _, rfl, rfl⟩
  exact ⟨hAdmits, hFits, hNow, hNow⟩

/- A request to the service keeps the rows coherent, unless it revokes the lease of a claim that is
  not handed off. -/
theorem api {action : ResourceAction} (hApi : action.api = true)
    (hFree : action.LeavesShells tables)
    (hChange : ResourceChange action clock tables later) : later.Coherent clock := by
  cases hChange with
  | kept hRows => exact hCoherent.kept hRows
  | requested _ hFresh hRows => exact hCoherent.requested hFresh hRows
  | reviewed hRequest hState _ hNext hRows =>
    exact hCoherent.reviewed Fitting.fits (mem_of_lookup hRequest) hState hNext.moves.id_eq hRows
  | allocated _ hRequest hState hNext hRow hLease hFreshClaim hFreshLease hRows =>
    refine hCoherent.allocated Fitting.fits (mem_of_lookup hRequest) hState hNext.moves.id_eq
      hRow.2 ⟨hLease.1, hLease.2.1⟩ hFreshClaim hFreshLease ?_ hRows
    rcases hNext with ⟨revision, rfl, _⟩
    rcases hLease with ⟨_, _, hLease, hTime⟩
    refine ⟨?_, ?_, Int.le_of_eq hTime, Int.le_refl _⟩
    · rw [hRow.1, hLease]
      rfl
    · rw [hLease]
      rfl
  | @renewed lease next hLease hActive hNext _ hRows =>
    refine hCoherent.renewed (mem_of_lookup hLease) hNext ?_ hRows
    rcases hNext with ⟨_, _, _, hState, hTime⟩
    intro claim request hFit
    have hSame : next.state = lease.state := hState.trans hActive.symm
    exact ⟨hSame ▸ hFit.admits, hSame ▸ hFit.fits, Int.le_of_eq hTime, hFit.request_le⟩
  | @expiring lease _ request _ _ hMoved hBy =>
    rcases hBy hApi with ⟨hBy, hId⟩
    rcases hCoherent.allocated_of_request hMoved.lease_mem (mem_of_lookup hMoved.stored) hId
      with ⟨row, hAllocated⟩
    have hShell := hFree lease hMoved.lease_mem hBy row hAllocated.claim_mem hAllocated.claimId.symm
    exact hCoherent.pairTo hAllocated (CapacityClaimState.admits_of_not_shell hShell _) rfl
      (Int.le_refl _) hMoved.pairTo
  | touched hWorker | claimed hWorker | activated hWorker | ended hWorker =>
    cases hApi.symm.trans hWorker

end ResourceTables.Coherent

end

-- What The Worker Holds

variable (tables) (item : ProvisioningCapacityClaim)

/- The claim and the lease are as the worker read them. -/
structure ProvisioningCapacityClaim.Current : Prop where
  claim : ∃ row ∈ tables.claims, row.claim = item.claim
  lease : item.lease ∈ tables.leases
  claimId : item.lease.claimId = item.claim.id

/- The worker is about to open the window of a lease. -/
structure ProvisioningCapacityClaim.Opening : Prop where
  current : item.Current tables
  ready : item.claim.state = .ready
  allocating : item.lease.state = .allocating
  duration : item.request.requestedDurationSeconds ≠ 0

/- The worker has told the new window of a lease. -/
structure ProvisioningCapacityClaim.Synced : Prop where
  claim : ∃ row ∈ tables.claims, row.claim = item.claim ∧
    row.leaseSyncedRevision < item.lease.revision.get
  handedOff : item.claim.state = .handedOff
  lease : item.lease ∈ tables.leases
  claimId : item.lease.claimId = item.claim.id
  active : item.lease.state = .active

/- The worker is cleaning up after a lease. -/
structure ProvisioningCapacityClaim.Ending : Prop where
  current : item.Current tables
  state : item.claim.state = .blocked ∨ item.claim.state = .handedOff ∨
    item.claim.state = .releasing
  expiring : item.lease.state = .expiring

def WorkerPlace.Fits (clock : UtcTimestamp) : WorkerPlace → Prop
| .reserving item =>
  (∃ row ∈ tables.claims, row.claim = item.claim) ∧ item.claim.state = .provisioning
| .activating item => item.Opening tables
| .opening item now =>
  item.Opening tables ∧ now ≤ clock ∧ ∀ request ∈ tables.requests,
    request.id = item.lease.requestId → request.updatedAt ≤ now
| .handingOff item => (∃ row ∈ tables.claims, row.claim = item.claim) ∧ item.claim.state = .ready
| .syncing item => item.Synced tables
| .cleaning item => item.Ending tables
| .stopped error => ¬error.Conflict
| .idle | .readyHandoff | .refreshing _ | .leaseSync
| .leaseCleanup | .panicked => True

variable {tables}

def WorkerPlace.syncs : WorkerPlace → Option LeaseId
| .syncing item => some item.lease.id
| _ => none

-- Requests Beside The Worker

section

variable {clock : UtcTimestamp} {action : ResourceAction}
  {lease : ResourceLease} {item : ProvisioningCapacityClaim}

/- A request to the service that names the lease does not move it. -/
def ResourceAction.Spares (action : ResourceAction) (tables : ResourceTables δ)
    (lease : ResourceLease) : Prop :=
  (action.renews tables = some lease.id → lease.state ≠ .active) ∧
  (action.revokes tables = some lease.id → ¬(lease.state = .allocating ∨ lease.state = .active))

section

variable (hApi : action.api = true) (hChange : ResourceChange action clock tables later)

include hApi hChange

/- No request to the service changes a claim. -/
theorem ResourceChange.claim_mem {row : CapacityClaimRow} (hRow : row ∈ tables.claims) :
    row ∈ later.claims := by
  cases hChange with
  | kept hRows | requested _ _ hRows | reviewed _ _ _ _ hRows | renewed _ _ _ _ hRows =>
    rwa [hRows.claims]
  | allocated _ _ _ _ _ _ _ _ hRows =>
    rw [hRows.claims]
    exact mem_cons_of_mem _ hRow
  | expiring _ _ hMoved =>
    rcases hMoved.replaced with ⟨_, _, hRows⟩
    rwa [hRows.claims]
  | touched hWorker | claimed hWorker | activated hWorker | ended hWorker =>
    cases hApi.symm.trans hWorker

variable (hCoherent : tables.Coherent clock) (hSpared : action.Spares tables lease)
  (hLease : lease ∈ tables.leases)

include hCoherent hSpared hLease

/- The leases that are spared stay. -/
theorem ResourceChange.lease_mem : lease ∈ later.leases := by
  cases hChange with
  | kept hRows | requested _ _ hRows | reviewed _ _ _ _ hRows =>
    rwa [hRows.leases]
  | allocated _ _ _ _ _ _ _ _ hRows =>
    rw [hRows.leases]
    exact mem_cons_of_mem _ hLease
  | @renewed held _ hHeld hActive hNext hBy hRows =>
    rw [hRows.leases]
    apply mem_replace_of_ne hLease
    intro hSame
    have hEq := hCoherent.leaseIds lease hLease held (mem_of_lookup hHeld) (hSame.trans hNext.1)
    subst hEq
    exact hSpared.1 hBy hActive
  | @expiring held _ request hState _ hMoved hBy =>
    rcases hMoved.replaced with ⟨_, _, hRows⟩
    rcases hBy hApi with ⟨hBy, hId⟩
    rw [hRows.leases]
    apply mem_replace_of_ne hLease
    intro hSame
    have hEq := hCoherent.leaseIds lease hLease held hMoved.lease_mem (hSame.trans hMoved.moved.1)
    subst hEq
    rcases hCoherent.allocated_of_request hLease (mem_of_lookup hMoved.stored) hId with
      ⟨row, hAllocated⟩
    have hFits := (hCoherent.fitting _ _ _ hAllocated).fits
    exact hSpared.2 hBy (ResourceLeaseState.fits_live hFits hState)
  | touched hWorker | claimed hWorker | activated hWorker | ended hWorker =>
    cases hApi.symm.trans hWorker

/- The request of a lease that is spared stays. -/
theorem ResourceChange.request_mem {request : ResourceRequest} (hRequest : request ∈ later.requests)
    (hId : request.id = lease.requestId) : request ∈ tables.requests := by
  rcases hCoherent.leased lease hLease with ⟨row, held, hAllocated⟩
  have hTarget : request.id = held.id := by
    rw [hId, hAllocated.requestId, hAllocated.target]
  -- a request under review is not the one of the lease
  have hReview : ∀ {current next : ResourceRequest}, findRequest tables current.id = some current →
      current.state = .reviewing ∨ current.state = .rejected → next.id = current.id →
      request ∈ replace ResourceRequest.id tables.requests next →
      request ∈ tables.requests := by
    intro current next hCurrent hState hNext hMember
    rcases mem_replace hMember with rfl | hOld
    · have hNe := hCoherent.ne_of_unallocated Fitting.fits hAllocated (mem_of_lookup hCurrent)
        hState
      exact absurd (hTarget.symm.trans hNext) hNe
    · exact hOld.1
  cases hChange with
  | kept hRows | renewed _ _ _ _ hRows => exact hRows.requests ▸ hRequest
  | requested _ hFresh hRows =>
    rcases mem_cons.mp (hRows.requests ▸ hRequest) with rfl | hOld
    · exact absurd hTarget.symm (hFresh held hAllocated.request_mem)
    · exact hOld
  | reviewed hCurrent hState _ hNext hRows =>
    exact hReview hCurrent hState hNext.moves.id_eq (hRows.requests ▸ hRequest)
  | allocated _ hCurrent hState hNext _ _ _ _ hRows =>
    exact hReview hCurrent (.inl hState) hNext.moves.id_eq (hRows.requests ▸ hRequest)
  | @expiring other _ current hState _ hMoved hBy =>
    rcases hMoved.replaced with ⟨next, hNext, hRows⟩
    rcases mem_replace (hRows.requests ▸ hRequest) with rfl | hOld
    · -- the request of the revoked lease is another one
      rcases hBy hApi with ⟨hNamed, hKey⟩
      have hSame := hCoherent.leaseRequests other hMoved.lease_mem lease hLease
        (hKey.symm.trans (hNext.moves.id_eq.symm.trans hId))
      subst hSame
      have hEq := hCoherent.requestIds _ hAllocated.request_mem _ (mem_of_lookup hMoved.stored)
        (hTarget.symm.trans hNext.moves.id_eq)
      subst hEq
      have hFits := (hCoherent.fitting _ _ _ hAllocated).fits
      exact absurd (ResourceLeaseState.fits_live hFits hState) (hSpared.2 hNamed)
    · exact hOld.1
  | touched hWorker | claimed hWorker | activated hWorker | ended hWorker =>
    cases hApi.symm.trans hWorker

end

theorem ProvisioningCapacityClaim.Opening.spares
    (hFree : action.LeavesShells tables)
    (hOpening : item.Opening tables) : action.Spares tables item.lease := by
  refine ⟨?_, ?_⟩
  · rw [hOpening.allocating]
    simp
  · intro hBy
    rcases hOpening.current.claim with ⟨row, hRow, hClaim⟩
    have hId : row.claim.id = item.lease.claimId := by
      rw [hClaim, hOpening.current.claimId]
    have hShell := hFree item.lease hOpening.current.lease hBy row hRow hId
    rw [hClaim, hOpening.ready] at hShell
    cases hShell

theorem ProvisioningCapacityClaim.Current.api (hApi : action.api = true)
    (hCoherent : tables.Coherent clock) (hChange : ResourceChange action clock tables later)
    (hSpared : action.Spares tables item.lease) (hCurrent : item.Current tables) :
    item.Current later := by
  rcases hCurrent.claim with ⟨row, hRow, hClaim⟩
  exact ⟨⟨row, hChange.claim_mem hApi hRow, hClaim⟩,
    hChange.lease_mem hApi hCoherent hSpared hCurrent.lease, hCurrent.claimId⟩

/- A request leaves alone what the worker holds, unless it revokes the lease of a claim that is not
  handed off or names the lease that is being synchronised. -/
theorem WorkerPlace.Fits.api {place : WorkerPlace} (hApi : action.api = true)
    (hCoherent : tables.Coherent clock) (hChange : ResourceChange action clock tables later)
    (hFree : action.LeavesShells tables)
    (hSync : ∀ leaseId, place.syncs = some leaseId → action.renews tables ≠ some leaseId ∧
      action.revokes tables ≠ some leaseId)
    (hFits : place.Fits tables clock) : place.Fits later clock := by
  cases place with
  | reserving item | handingOff item =>
    rcases hFits with ⟨⟨row, hRow, hClaim⟩, hState⟩
    exact ⟨⟨row, hChange.claim_mem hApi hRow, hClaim⟩, hState⟩
  | activating item =>
    exact ⟨hFits.current.api hApi hCoherent hChange (hFits.spares hFree),
      hFits.ready, hFits.allocating, hFits.duration⟩
  | opening item now =>
    rcases hFits with ⟨hOpening, hNow, hRequests⟩
    have hSpared := hOpening.spares hFree
    have hCurrent := hOpening.current.api hApi hCoherent hChange hSpared
    refine ⟨⟨hCurrent, hOpening.ready, hOpening.allocating, hOpening.duration⟩, hNow, ?_⟩
    intro request hRequest hId
    have hOld := hChange.request_mem hApi hCoherent hSpared hOpening.current.lease hRequest hId
    exact hRequests request hOld hId
  | syncing item =>
    have hNamed := hSync item.lease.id rfl
    have hSpared : action.Spares tables item.lease :=
      ⟨fun hBy => absurd hBy hNamed.1, fun hBy => absurd hBy hNamed.2⟩
    rcases hFits.claim with ⟨row, hRow, hClaim⟩
    exact ⟨⟨row, hChange.claim_mem hApi hRow, hClaim⟩, hFits.handedOff,
      hChange.lease_mem hApi hCoherent hSpared hFits.lease, hFits.claimId, hFits.active⟩
  | cleaning item =>
    have hSpared : action.Spares tables item.lease := by
      simp [ResourceAction.Spares, hFits.expiring]
    exact ⟨hFits.current.api hApi hCoherent hChange hSpared, hFits.state, hFits.expiring⟩
  | idle | readyHandoff | refreshing _ | leaseSync
  | leaseCleanup | panicked => trivial
  | stopped error => exact hFits

end

end LabWeaver
