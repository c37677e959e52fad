import LabWeaver.Resource.Coherence

/-
  This file follows the capacity worker through its loop. A revocation of a lease whose claim is
  not handed off, and a renewal or revocation between the reading of a lease and the record of its
  synchronisation, end the loop. Without these two the rows fit together in every state of a run,
  and no conflict ends the loop.

  Main declarations: `claim_lease_coherence`, `worker_stopped_by_conflict`.
-/

namespace LabWeaver

open Outcome PgResourceStore CapacityWorld Rows

-- Turns Of The Loop

variable {δ : Type}

section

variable {tables : ResourceTables δ} {clock : UtcTimestamp}
  {item : ProvisioningCapacityClaim} {candidate : CapacityClaimId}

/- The rows fit, and what the worker holds fits them. -/
def GoodTurn (clock : UtcTimestamp) (turn : WorkerTurn δ) : Prop :=
  turn.1.Coherent clock ∧ turn.2.Fits turn.1 clock

theorem goOn_settles {result : ResourceStoreResult (ResourceTables δ)} {next : WorkerPlace}
    {post : ResourceTables δ → Prop} (hResult : Settles post result)
    (hNext : ∀ later, post later → GoodTurn clock (later, next)) :
    Settles (GoodTurn clock) (goOn result next) :=
  .bind hResult fun later hLater => .ok (hNext later hLater)

variable {request : ResourceRequest}

theorem Fitting.allocating {claim : CapacityClaim} {lease : ResourceLease}
    (hFit : Fitting clock claim lease request)
    (hState : claim.state = .reserved ∨ claim.state = .provisioning) :
    lease.state = .allocating := by
  have hAdmits := hFit.admits
  rcases hState with hState | hState <;>
  · rw [hState] at hAdmits
    cases hLease : lease.state <;>
      rw [hLease] at hAdmits <;>
      first
      | rfl
      | cases hAdmits

section

variable (hCoherent : tables.Coherent clock)

include hCoherent

theorem claimShell_settles (hDue : shellDue tables clock candidate) :
    Settles (GoodTurn clock) (claimShell tables clock candidate) := by
  unfold claimShell
  refine .bind readCapacityClaim_meets ?_
  intro read hStored
  rcases hCoherent.allocated_of_stored hStored with ⟨row, hRow, hClaim, rfl, hAllocated⟩
  have hState : row.claim.state = .reserved ∨ row.claim.state = .provisioning := by
    rcases hDue with ⟨found, hFound, hDue⟩
    rw [Option.mem_def, hRow] at hFound
    cases hFound
    rcases hDue with hReserved | ⟨hProvisioning, _⟩
    · exact .inl hReserved
    · exact .inr hProvisioning
  have hFit := hCoherent.fitting _ _ _ hAllocated
  have hAllocating := hFit.allocating hState
  refine .bind (claimNextCapacityShell_meets hRow
    (hCoherent.leaseOfClaim_eq hAllocated) hAllocating) ?_
  intro later hTo
  have hLater : later.Coherent clock := by
    apply hCoherent.claimTo hAllocated.claim_mem ?_ hTo
    intro lease request hOther
    rw [hOther.lease_eq hCoherent hAllocated rfl, hAllocating]
    rfl
  refine .bind loadClaim_meets ?_
  intro stored hFound
  refine .ok ⟨hLater, ⟨stored, mem_of_lookup hFound, rfl⟩, ?_⟩
  rcases hTo with ⟨next, hNext, hTo⟩
  have hHeld := findClaim_of_reclaimed hRow hNext.id_eq hTo
  rw [hNext.id_eq, hFound] at hHeld
  cases hHeld
  rcases hNext with ⟨revision, rfl⟩
  rfl

variable {later : ResourceTables δ} {row : CapacityClaimRow}

/- A provisioned claim moves where its lease may go. -/
theorem settles_provisioned {state : CapacityClaimState} {next : WorkerPlace}
    (hRow : row ∈ tables.claims) (hState : row.claim.state = .provisioning)
    (hAdmits : state.admits .allocating = true) (hNext : next.Fits later clock)
    (hTo : ClaimTo tables clock row state later) : GoodTurn clock (later, next) := by
  refine ⟨hCoherent.claimTo hRow ?_ hTo, hNext⟩
  intro lease request hAllocated
  have hFit := hCoherent.fitting _ _ _ hAllocated
  rwa [hFit.allocating (.inr hState)]

variable {providers : CapacityProviders}

theorem provisionShell_settles {answer : ProviderResult (String × String)}
    (hRow : ∃ row ∈ tables.claims, row.claim = item.claim)
    (hState : item.claim.state = .provisioning) :
    Settles (GoodTurn clock) (provisionShell providers tables clock item answer) := by
  rcases hRow with ⟨row, hRow, hClaim⟩
  have hFound := hCoherent.findClaim_eq hRow
  rw [← hClaim] at hState
  unfold provisionShell
  rw [← hClaim]
  have hBlocked : ∀ (code : String) (next : WorkerPlace),
      (∀ later : ResourceTables δ, next.Fits later clock) →
      Settles (GoodTurn clock) (goOn (markCapacityShellBlocked tables clock
        row.claim.id row.claim.revision code)
        next) := by
    intro code next hNext
    unfold markCapacityShellBlocked
    refine goOn_settles (.bind (.ensure id) fun _ _ =>
      moveClaim_meets hFound hState (by decide) rfl) ?_
    intro later hTo
    exact settles_provisioned hCoherent hRow hState rfl (hNext later) hTo
  dsimp only
  split
  · exact hBlocked _ .idle fun _ => trivial
  · split
    · refine goOn_settles (retryOrBlockCapacityShell_meets hFound hState) ?_
      rintro later (hTo | hTo) <;>
      · exact settles_provisioned hCoherent hRow hState rfl trivial hTo
    · exact hBlocked _ .idle fun _ => trivial
    · split
      · refine goOn_settles (.bind (.ensure id) fun _ _ =>
          moveClaim_meets hFound hState (by decide) rfl) ?_
        intro later hTo
        exact settles_provisioned hCoherent hRow hState rfl trivial hTo
      · exact hBlocked _ .readyHandoff fun _ => trivial

/- What was just read is current. -/
theorem current_of_stored (hStored : item.Stored tables candidate) : item.Current tables := by
  rcases hCoherent.allocated_of_stored hStored with ⟨row, _, hClaim, _, hAllocated⟩
  refine ⟨⟨row, hAllocated.claim_mem, hClaim⟩, hAllocated.lease_mem, ?_⟩
  rw [hAllocated.claimId, hClaim]

/- The claim that a query selects is in the state it asks. -/
omit hCoherent in
theorem state_of_stored {p : CapacityClaimRow → Prop} (hStored : item.Stored tables candidate)
    (hDue : ∃ row ∈ findClaim tables candidate, p row) :
    ∃ row, findClaim tables candidate = some row ∧ row.claim = item.claim ∧ p row := by
  rcases hStored.claim with ⟨row, hRow, hClaim⟩
  rcases hDue with ⟨found, hFound, hHolds⟩
  rw [Option.mem_def, hRow] at hFound
  cases hFound
  exact ⟨row, hRow, hClaim, hHolds⟩

theorem readReady_settles (hDue : readyDue tables candidate) :
    Settles (GoodTurn clock) (readReady tables candidate) := by
  unfold readReady
  refine .bind readCapacityClaim_meets ?_
  intro item hStored
  rcases state_of_stored hStored hDue with ⟨_, _, hSame, hReady⟩
  rw [hSame] at hReady
  split
  · exact .ok ⟨hCoherent, trivial⟩
  · rename_i hOther
    refine .ok ⟨hCoherent, ⟨current_of_stored hCoherent hStored, hReady, ?_, ?_⟩⟩
    · rcases hCoherent.allocated_of_stored hStored with ⟨row, _, hClaim, _, hAllocated⟩
      have hAdmits := (hCoherent.fitting _ _ _ hAllocated).admits
      rw [hClaim, hReady] at hAdmits
      cases hLease : item.lease.state <;>
        rw [hLease] at hAdmits <;>
        first
        | rfl
        | exact absurd hLease hOther
        | cases hAdmits
    · exact hStored.valid.wellFormed.2.2.2.1

/- The time is read after the rows. -/
theorem readTime_settles (hOpening : item.Opening tables) :
    GoodTurn clock ((tables, .opening item clock) : WorkerTurn δ) := by
  refine ⟨hCoherent, hOpening, Int.le_refl _, ?_⟩
  intro request hRequest hId
  rcases hCoherent.allocated_of_request hOpening.current.lease hRequest hId with ⟨row, hAllocated⟩
  exact (hCoherent.fitting _ _ _ hAllocated).request_le

/- The claim that the worker holds, with its lease. -/
theorem allocated_of_current (hCurrent : item.Current tables) :
    ∃ row request, row.claim = item.claim ∧ Allocated tables row item.lease request := by
  rcases hCurrent.claim with ⟨row, hRow, hClaim⟩
  rcases hCoherent.leased item.lease hCurrent.lease with ⟨held, request, hAllocated⟩
  have hSame : held = row := by
    apply hCoherent.claimIds _ hAllocated.claim_mem _ hRow
    show held.claim.id = row.claim.id
    rw [← hAllocated.claimId, hCurrent.claimId, hClaim]
  subst hSame
  exact ⟨held, request, hClaim, hAllocated⟩

theorem openWindow_settles {now : UtcTimestamp} (hOpening : item.Opening tables)
    (hNow : now ≤ clock) (hTimes : ∀ request ∈ tables.requests, request.id = item.lease.requestId →
      request.updatedAt ≤ now) : Settles (GoodTurn clock) (openWindow tables item now) := by
  rcases allocated_of_current hCoherent hOpening.current with ⟨row, request, hClaim, hAllocated⟩
  have hState : request.state = .allocating :=
    (hCoherent.fitting _ _ _ hAllocated).request_state (by rw [hOpening.allocating]; rfl)
  have hTarget : request.id = item.lease.requestId := by
    rw [hAllocated.target, hAllocated.requestId]
  have hRequest : findRequest tables item.lease.requestId = some request := by
    rw [hAllocated.requestId]
    exact hCoherent.findRequest_eq hAllocated
  have hTime := hTimes request hAllocated.request_mem hTarget
  unfold openWindow
  refine .bind (.ensure id) fun _ _ => ?_
  split
  · exact .ok ⟨hCoherent, trivial⟩
  · rename_i expiresAt hSum
    have hWindow : now < expiresAt := by
      rw [(addDuration_eq_some.mp hSum).2]
      have hPositive : 0 < windowDuration item.request := by
        have hDuration := hOpening.duration
        unfold windowDuration
        omega
      exact Int.lt_add_of_pos_right now (Int.ofNat_lt.mpr hPositive)
    refine .bind (activateLease_meets (hCoherent.findLease_eq hAllocated.lease_mem) hRequest
      hOpening.allocating hState hTime hWindow) ?_
    intro result hTo
    refine .ok ⟨hCoherent.pairTo hAllocated ?_ rfl hNow hTo, trivial⟩
    rw [hClaim, hOpening.ready]
    rfl

theorem refreshClaim_settles : Settles (GoodTurn clock) (refreshClaim tables candidate) := by
  unfold refreshClaim
  split
  · rename_i hDue
    refine .bind readCapacityClaim_meets ?_
    intro item hStored
    rcases state_of_stored hStored hDue with ⟨row, hRow, hClaim, hReady⟩
    rw [hClaim] at hReady
    exact .ok ⟨hCoherent, ⟨row, mem_of_lookup hRow, hClaim⟩, hReady⟩
  · exact .ok ⟨hCoherent, trivial⟩

variable {answer : ProviderResult Unit}

theorem handOff_settles (hRow : ∃ row ∈ tables.claims, row.claim = item.claim)
    (hState : item.claim.state = .ready) :
    Settles (GoodTurn clock) (handOff tables clock item answer) := by
  rcases hRow with ⟨row, hRow, hClaim⟩
  have hFound := hCoherent.findClaim_eq hRow
  rw [← hClaim] at hState
  unfold handOff
  rw [← hClaim]
  dsimp only
  split
  · refine goOn_settles (moveClaim_meets hFound hState (by decide) rfl) ?_
    intro later hTo
    exact ⟨hCoherent.claimTo hRow (fun _ _ _ => rfl) hTo, trivial⟩
  · refine goOn_settles (retryOrBlockCapacityHandoff_meets hFound hState) ?_
    rintro later (⟨attempts, rfl⟩ | hTo)
    · exact ⟨hCoherent.kept ⟨rfl, rfl, rfl⟩, trivial⟩
    · exact ⟨hCoherent.claimTo hRow (fun _ _ _ => rfl) hTo, trivial⟩

theorem readUnsynced_settles (hDue : unsyncedDue tables candidate) :
    Settles (GoodTurn clock) (readUnsynced tables candidate) := by
  unfold readUnsynced
  refine .bind readCapacityClaim_meets ?_
  intro item hStored
  rcases state_of_stored hStored hDue with ⟨row, hRow, hClaim, lease, hLease, hState, hActive,
      hBehind⟩
  rw [Option.mem_def, hStored.lease] at hLease
  cases hLease
  rw [hClaim] at hState
  have hCurrent := current_of_stored hCoherent hStored
  exact .ok ⟨hCoherent, ⟨row, mem_of_lookup hRow, hClaim, hBehind⟩, hState,
    hCurrent.lease, hCurrent.claimId, hActive⟩

theorem syncLease_settles (hSynced : item.Synced tables) :
    Settles (GoodTurn clock) (syncLease tables clock item answer) := by
  unfold syncLease
  split
  · rcases hSynced.claim with ⟨row, hRow, hClaim, hBehind⟩
    have hLease : leaseOfClaim tables row.claim.id = some item.lease := by
      apply (lookup_eq_some_iff hCoherent.leaseClaims).mpr
      exact ⟨hSynced.lease, by rw [hSynced.claimId, hClaim]⟩
    have hState : row.claim.state = .handedOff := by
      rw [hClaim]
      exact hSynced.handedOff
    rw [← hClaim]
    refine goOn_settles (markLeaseSynced_meets (hCoherent.findClaim_eq hRow)
      hLease hState hSynced.active hBehind) ?_
    intro later hTouched
    exact ⟨hCoherent.touched hTouched, trivial⟩
  · exact .ok ⟨hCoherent, trivial⟩

theorem claimCleanup_settles (hDue : claimCleanupDue tables clock candidate) :
    Settles (GoodTurn clock) (claimCleanup tables clock candidate) := by
  unfold claimCleanup
  refine .bind readCapacityClaim_meets ?_
  intro read hStored
  rcases state_of_stored hStored hDue with ⟨row, hRow, hClaim, lease, hLease, hState, _, _⟩
  rw [Option.mem_def, hStored.lease] at hLease
  cases hLease
  rcases hCoherent.allocated_of_stored hStored with ⟨found, hFound, _, hId, hAllocated⟩
  cases hRow.symm.trans hFound
  subst hId
  have hFit := hCoherent.fitting _ _ _ hAllocated
  have hShell : row.claim.state.shell = false := by
    simp only [List.mem_cons, List.not_mem_nil, or_false] at hState
    rcases hState with hState | hState | hState <;>
    · rw [hState]
      rfl
  have hActive : read.lease.state = .active → read.request.state = .active := by
    intro hLeaseState
    exact hFit.request_state (by rw [hLeaseState]; rfl)
  refine .bind (nextLeaseCleanup_meets hRow (hCoherent.leaseOfClaim_eq hAllocated)
    (hCoherent.findLease_eq hAllocated.lease_mem)
    (hCoherent.findRequest_eq hAllocated) hActive
    hFit.lease_le hFit.request_le) ?_
  intro later hLater
  have hEnding : later.Coherent clock ∧ row ∈ later.claims ∧ ∀ lease,
      leaseOfClaim later row.claim.id = some lease → lease.state = .expiring := by
    rcases hLater with ⟨hExpiring, rfl⟩ | hTo
    · refine ⟨hCoherent, hAllocated.claim_mem, ?_⟩
      intro lease hLease
      cases (hCoherent.leaseOfClaim_eq hAllocated).symm.trans hLease
      exact hExpiring
    · have hAdmits := CapacityClaimState.admits_of_not_shell hShell .expiring
      have hNew := hCoherent.pairTo hAllocated hAdmits rfl (Int.le_refl _) hTo
      rcases hTo with ⟨nextLease, _, ⟨hId, _, hClaimId, hNext, _⟩, _, hTo⟩
      refine ⟨hNew, ?_, ?_⟩
      · rw [hTo.claims]
        exact hAllocated.claim_mem
      · intro lease hLease
        have hMember : nextLease ∈ later.leases := by
          rw [hTo.leases]
          exact mem_replace_self hAllocated.lease_mem hId.symm
        have hSame : lease = nextLease := by
          apply hNew.leaseClaims _ (mem_of_lookup hLease) _ hMember
          rw [key_of_lookup hLease, hClaimId, hAllocated.claimId]
        rwa [hSame]
  rcases hEnding with ⟨hNew, hRowLater, hExpiring⟩
  refine .bind (.require id) ?_
  intro lease hLease
  refine .ok ⟨hNew, ⟨⟨row, hRowLater, hClaim⟩,
    mem_of_lookup hLease, ?_⟩, ?_, hExpiring lease hLease⟩
  · show lease.claimId = read.claim.id
    rw [key_of_lookup hLease, hClaim]
  · rw [hClaim] at hState
    simpa using hState

theorem released_coherent {lease : ResourceLease}
    {middle : ResourceTables δ} {state : ResourceLeaseState}
    (hAllocated : Allocated tables row lease request)
    (hTo : ClaimTo tables clock row .released middle) (hTerminal : state.terminal = true)
    (hPair : PairTo middle lease state request .expired clock later) : later.Coherent clock := by
  have hMiddle : middle.Coherent clock := hCoherent.claimTo hAllocated.claim_mem
    (fun _ _ _ => rfl) hTo
  rcases hTo with ⟨next, ⟨revision, rfl⟩, hTo⟩
  have hMoved : Allocated middle (reclaimed clock
        { row.claim with state := .released, revision } row)
      lease request := by
    refine ⟨?_, ?_, ?_, ?_, ?_, ?_⟩
    · rw [hTo.claims]
      exact List.mem_map_of_mem hAllocated.claim_mem
    · rw [hTo.leases]
      exact hAllocated.lease_mem
    · rw [hTo.requests]
      exact hAllocated.request_mem
    · simpa [reclaimed] using hAllocated.claimId
    · simpa [reclaimed] using hAllocated.requestId
    · simpa [reclaimed] using hAllocated.target
  refine hMiddle.pairTo hMoved ?_ ?_ (Int.le_refl _) hPair
  · simp [reclaimed, CapacityClaimState.admits]
  · cases state <;> first | rfl | cases hTerminal

theorem releaseCapacity_settles {status : ProviderResult CleanupStatus}
    {verified : ProviderResult Unit} (hEnding : item.Ending tables)
    (hState : item.claim.state = .releasing) :
    Settles (GoodTurn clock) (releaseCapacity providers tables clock item status verified) := by
  rcases allocated_of_current hCoherent hEnding.current with ⟨row, request, hClaim, hAllocated⟩
  have hFound := hCoherent.findClaim_eq hAllocated.claim_mem
  have hFit := hCoherent.fitting _ _ _ hAllocated
  rw [← hClaim] at hState
  have hRecord : ∀ step code, Settles (GoodTurn clock) (goOn
      (recordReconciliationFailure tables clock row.claim.id step code)
      .idle) := by
    intro step code
    refine goOn_settles (recordReconciliationFailure_meets hFound (.inr hState)) ?_
    intro later hTouched
    exact ⟨hCoherent.touched hTouched, trivial⟩
  have hRequestState : request.state = .expiring :=
    hFit.request_state (by rw [hEnding.expiring]; rfl)
  have hRequest : findRequest tables item.lease.requestId = some request := by
    rw [hAllocated.requestId]
    exact hCoherent.findRequest_eq hAllocated
  have hRelease : ∀ traceId, Settles (fun result => result.2.Coherent clock)
      (completeCapacityRelease tables clock row.claim.id row.claim.revision item.lease.id
        item.lease.revision traceId) := by
    intro traceId
    refine Meets.mono (completeCapacityRelease_meets hFound
      (hCoherent.findLease_eq hAllocated.lease_mem)
      hRequest hAllocated.claimId hState hEnding.expiring
      hRequestState hFit.lease_le hFit.request_le) ?_
    rintro result ⟨middle, state, hTo, hTerminal, hPair⟩
    exact released_coherent hCoherent hAllocated hTo hTerminal hPair
  unfold releaseCapacity
  rw [← hClaim]
  dsimp only
  split
  · exact hRecord _ _
  · split
    · split
      · exact hRecord _ _
      · exact .ok ⟨hCoherent, trivial⟩
    · split
      · exact hRecord _ _
      · split
        · exact .error id
        · split
          · exact hRecord _ _
          · refine .bind (hRelease _) ?_
            intro result hLater
            exact .ok ⟨hLater, trivial⟩

variable {result : ResourceStoreResult (WorkerTurn δ)}

theorem cleanUp_settles {answer : CleanupAnswer} (hEnding : item.Ending tables)
    (hClean : cleanUp providers tables clock item answer = some result) :
    Settles (GoodTurn clock) result := by
  rcases allocated_of_current hCoherent hEnding.current with ⟨row, request, hClaim, hAllocated⟩
  have hRow := hAllocated.claim_mem
  have hFound := hCoherent.findClaim_eq hRow
  have hReleasing : item.claim.state = .blocked ∨ item.claim.state = .handedOff →
      Settles (GoodTurn clock) (goOn (markCapacityReleasing tables clock item.claim.id
        item.claim.revision)
        .idle) := by
    intro hState
    rw [← hClaim] at hState ⊢
    refine goOn_settles (markCapacityReleasing_meets hFound hState) ?_
    intro later hTo
    exact ⟨hCoherent.claimTo hRow (fun _ _ _ => rfl) hTo, trivial⟩
  unfold cleanUp at hClean
  split at hClean
  · rename_i hState
    cases hClean
    rw [← hClaim] at hState ⊢
    refine goOn_settles (recordReconciliationFailure_meets hFound (.inl hState)) ?_
    intro later hTouched
    exact ⟨hCoherent.touched hTouched, trivial⟩
  · rename_i hState
    cases hClean
    exact hReleasing (.inr hState)
  · cases hClean
  · rename_i hState
    split at hClean
    · cases hClean
      exact .ok ⟨hCoherent, trivial⟩
    · split at hClean
      · cases hClean
        exact .error id
      · split at hClean
        · cases hClean
          exact .ok ⟨hCoherent, trivial⟩
        · cases hClean
          exact hReleasing (.inl hState)
  · cases hClean
  · rename_i hHandedOff hBlocked
    cases hClean
    have hState : item.claim.state = .releasing := by
      rcases hEnding.state with hState | hState | hState
      · exact absurd hState hBlocked
      · exact absurd hState hHandedOff
      · exact hState
    exact releaseCapacity_settles hCoherent hEnding hState
  · cases hClean

theorem workerStep_settles {place : WorkerPlace} {event : WorkerEvent}
    (hFits : place.Fits tables clock)
    (hStep : workerStep providers tables clock place event = some result) :
    Settles (GoodTurn clock) result := by
  unfold workerStep at hStep
  split at hStep
  · cases hStep
    exact .ok ⟨hCoherent, trivial⟩
  · split at hStep
    · rename_i hDue
      cases hStep
      exact claimShell_settles hCoherent hDue
    · cases hStep
  · cases hStep
    exact provisionShell_settles hCoherent hFits.1 hFits.2
  · split at hStep
    · cases hStep
      exact .ok ⟨hCoherent, trivial⟩
    · cases hStep
  · split at hStep
    · rename_i hDue
      cases hStep
      exact readReady_settles hCoherent hDue
    · cases hStep
  · cases hStep
    exact .ok (readTime_settles hCoherent hFits)
  · cases hStep
    exact openWindow_settles hCoherent hFits.1 hFits.2.1 hFits.2.2
  · cases hStep
    exact refreshClaim_settles hCoherent
  · cases hStep
    exact handOff_settles hCoherent hFits.1 hFits.2
  · split at hStep
    · cases hStep
      exact .ok ⟨hCoherent, trivial⟩
    · cases hStep
  · split at hStep
    · rename_i hDue
      cases hStep
      exact readUnsynced_settles hCoherent hDue
    · cases hStep
  · cases hStep
    exact syncLease_settles hCoherent hFits
  · cases hStep
    exact .ok ⟨hCoherent, trivial⟩
  · split at hStep
    · rename_i hDue
      cases hStep
      exact claimCleanup_settles hCoherent hDue
    · cases hStep
  · exact cleanUp_settles hCoherent hFits hStep
  · cases hStep

end

end

-- Runs

namespace CapacityWorld

variable (s : CapacityWorld δ)

/- A lease is revoked only if its claim is handed off or blocked, and the lease that is being
  synchronised is neither renewed nor revoked. A request that is answered from the ledger does
  neither. -/
def Undisturbed : CapacityAction → Prop
| .api action =>
  action.LeavesShells s.resource.tables ∧ ∀ leaseId ∈ s.worker.syncs,
    action.renews s.resource.tables ≠ some leaseId ∧ action.revokes s.resource.tables ≠ some leaseId
| _ => True

instance (s : CapacityWorld δ) {action} : Decidable (s.Undisturbed action) := by
  unfold Undisturbed ResourceAction.LeavesShells
  split <;> infer_instance

/- The rows fit, and what the worker holds fits them. -/
def Good : Prop :=
  GoodTurn s.resource.clock ((s.resource.tables, s.worker) : WorkerTurn δ)

end CapacityWorld

theorem WorkerPlace.Fits.mono {δ : Type} {tables : ResourceTables δ} {clock now : UtcTimestamp}
    {place : WorkerPlace} (hLater : clock ≤ now) (hFits : place.Fits tables clock) :
    place.Fits tables now := by
  cases place with
  | opening item start => exact ⟨hFits.1, Int.le_trans hFits.2.1 hLater, hFits.2.2⟩
  | _ => exact hFits

namespace CapacityWorld

variable [DecidableEq δ] {hash : ResourceDocument → δ} {providers : CapacityProviders}
  {s : CapacityWorld δ}

theorem api_good {resource : ResourceState δ} {action : ResourceAction} (hGood : s.Good)
    (hAlone : s.Undisturbed (.api action)) (hApi : action.api = true)
    (hStep : s.resource.step hash action = some resource) :
    Good { s with resource } := by
  rcases ResourceState.step_transacts hStep with ⟨hLater, hTransacts⟩
  rcases hAlone with ⟨hFree, hSync⟩
  have hRows := hGood.1.api hApi hFree hTransacts.change
  have hFits := hGood.2.api hApi hGood.1 hTransacts.change hFree hSync
  exact ⟨hRows.mono hLater, hFits.mono hLater⟩

theorem step_good {s' : CapacityWorld δ} {action : CapacityAction} (hGood : s.Good)
    (hAlone : s.Undisturbed action)
    (hStep : (capacityWorld hash providers).step s action = some s') :
    s'.Good := by
  cases action with
  | api action =>
    simp only [capacityWorld, step] at hStep
    split at hStep
    · rename_i hApi
      rcases Option.map_eq_some_iff.mp hStep with ⟨resource, hResource, rfl⟩
      exact api_good hGood hAlone hApi hResource
    · cases hStep
  | work event =>
    simp only [capacityWorld, step] at hStep
    rcases Option.map_eq_some_iff.mp hStep with ⟨result, hResult, rfl⟩
    cases workerStep_settles hGood.1 hGood.2 hResult with
    | ok hTurn => exact hTurn
    | error hConflict => exact ⟨hGood.1, hConflict⟩
  | restart =>
    cases hStep
    exact ⟨hGood.1, trivial⟩

theorem initial_good (hInit : (capacityWorld hash providers).init s) : s.Good := by
  rcases hInit with ⟨⟨hRequests, _, hClaims, hLeases, _⟩, hWorker⟩
  refine ⟨?_, ?_⟩
  · constructor <;>
      simp [hRequests, hClaims, hLeases, Rows.Unique]
    intro row lease request hAllocated
    have hMember := hAllocated.claim_mem
    rw [hClaims] at hMember
    cases hMember
  · rw [hWorker]
    trivial

end CapacityWorld

/- In every run whose requests leave the worker alone, the lease of a claim is in a state that goes
  with it, and no conflict ends the loop. -/
theorem claim_lease_coherence {δ : Type} [DecidableEq δ] {hash : ResourceDocument → δ}
    {providers : CapacityProviders} {s : CapacityWorld δ}
    (hRun : (capacityWorld hash providers).Run Undisturbed s) :
    (∀ row ∈ s.resource.tables.claims, ∃ lease, leaseOfClaim s.resource.tables row.claim.id =
      some lease ∧ row.claim.state.admits lease.state = true) ∧
    ∀ error, s.worker = .stopped error → ¬error.Conflict := by
  have hGood : s.Good := by
    apply hRun.invariant
    · intro s hInit
      exact initial_good hInit
    · intro s action s' hGood hAlone hStep
      exact step_good hGood hAlone hStep
  rcases hGood with ⟨hCoherent, hFits⟩
  constructor
  · intro row hRow
    rcases hCoherent.claimed row hRow with ⟨lease, request, hAllocated⟩
    exact ⟨lease, hCoherent.leaseOfClaim_eq hAllocated, (hCoherent.fitting _ _ _ hAllocated).admits⟩
  · intro error hStopped
    change s.worker.Fits s.resource.tables s.resource.clock at hFits
    rwa [hStopped] at hFits

open WorkerSample

/- A claim is provisioned and handed off; its lease is synchronised, renewed and revoked. -/
theorem claim_lease_coherence_sample : ∃ s : CapacityWorld ResourceDocument,
    (capacityWorld id providers).Run Undisturbed s ∧ s.resource.tables.claims ≠ [] ∧
    (∃ lease ∈ s.resource.tables.leases, lease.state = .expiring) ∧
    (∀ row ∈ s.resource.tables.claims, ∃ lease, leaseOfClaim s.resource.tables row.claim.id =
      some lease ∧ row.claim.state.admits lease.state = true) ∧
    ∀ error, s.worker = .stopped error → ¬error.Conflict := by
  have hFound : ∃ s, (capacityWorld id providers).Run Undisturbed s ∧
      s.resource.tables.claims ≠ [] ∧ ∃ lease ∈ s.resource.tables.leases, lease.state = .expiring :=
    Machine.exists_run (approved ++ provisioned ++ opened ++ handedOff ++
      [.work (.sync (.ok ())), renew, revoke (ShellSample.revision 3)]) start_initial (by decide)
  rcases hFound with ⟨s, hRun, hClaims, hExpiring⟩
  exact ⟨s, hRun, hClaims, hExpiring, claim_lease_coherence hRun⟩

/- The lease of a reserved claim is revoked, and the worker stops when it claims the shell. The
  lease of a ready claim is revoked, and it stops when it opens the window. A lease is renewed
  while it is synchronised, and the worker stops when it records that. -/
theorem worker_stopped_by_conflict : (∃ s : CapacityWorld ResourceDocument,
      (capacityWorld id providers).Reachable s ∧ s.worker = .stopped .capacityClaimStateConflict ∧
      ∃ row ∈ s.resource.tables.claims, ∃ lease ∈ s.resource.tables.leases,
        lease.claimId = row.claim.id ∧ row.claim.state = .reserved ∧ lease.state = .expiring) ∧
    (∃ s : CapacityWorld ResourceDocument, (capacityWorld id providers).Reachable s ∧
      s.worker = .stopped (.lifecycle .stateConflict) ∧
      ∃ row ∈ s.resource.tables.claims, ∃ lease ∈ s.resource.tables.leases,
        lease.claimId = row.claim.id ∧ row.claim.state = .ready ∧ lease.state = .expiring) ∧
    ∃ s : CapacityWorld ResourceDocument, (capacityWorld id providers).Reachable s ∧
      s.worker = .stopped .revisionConflict := by
  refine ⟨?_, ?_, ?_⟩
  · exact Machine.exists_reachable (approved ++ revoke Revision.one :: provisioned.take 1)
      start_initial (by decide)
  · exact Machine.exists_reachable (approved ++ provisioned ++
      revoke Revision.one :: opened) start_initial (by decide)
  · exact Machine.exists_reachable (approved ++ provisioned ++
      opened ++ handedOff ++ [renew, .work (.sync (.ok ()))])
      start_initial (by decide)

end LabWeaver
