import LabWeaver.Access.GrantLifecycle

/-
  This file says which rows of a grant its own loaders accept. No denial is ever committed: the
  grant must name the time of its end, and the snapshot must not. Every other mutation writes an
  accepted row, if the grant lasts beyond the millisecond of its creation and the name of the
  gateway is valid.

  Main declaration: `grant_rows_accepted`.
-/

namespace LabWeaver

open Outcome OffsetDateTime List GrantStore StoredGrant

-- Accepted Rows

variable (row : StoredGrant)

/- The grant and its snapshot can be loaded at any time. -/
def StoredGrant.Accepted : Prop :=
  (loadGrant row none).isOk = true ∧ ∀ now, (loadGrantSnapshot row row.actorId now).isOk = true

/- What the loaders ask of a row, in terms of the row. -/
structure StoredGrant.Kept : Prop where
  valid : row.document.Valid
  stream : row.lastStreamSequence ≠ 0
  reason : ∀ reason ∈ row.reasonCode, trimIsEmpty reason = false
  revoked : row.state = .revoked ↔ row.revokedAt ≠ none

variable {row : StoredGrant}

/- A load for the owner, or for nobody in particular. -/
theorem loadGrant_eq_ok {actor : Option ActorId} {grant : LoadedGrant}
    (hActor : ∀ expected ∈ actor, expected = row.actorId) :
    loadGrant row actor = .ok grant ↔ row.document.Valid ∧ grant = row.document := by
  unfold loadGrant
  rw [ensure_bind_of hActor, check_bind_eq_ok, mapError_eq_ok, LoadedGrant.validate_eq_ok]
  simp [eq_comm]

theorem loadGrantSnapshot_isOk {now : OffsetDateTime} :
    (loadGrantSnapshot row row.actorId now).isOk = true ↔ row.document.Valid ∧
      (row.document.snapshot row.lastStreamSequence now.utcTimestamp).WellFormed ∧
      (row.document.snapshot row.lastStreamSequence now.utcTimestamp).TerminalFacts := by
  have hActor : ∀ expected ∈ some row.actorId, expected = row.actorId := by
    rintro _ ⟨⟩
    rfl
  rw [isOk_iff, ← AccessGrantSnapshot.validate_eq_ok]
  simp only [loadGrantSnapshot, steps_eq_ok, loadGrant_eq_ok hActor]
  constructor
  · rintro ⟨_, _, ⟨hValid, rfl⟩, _, hSnapshot, _⟩
    exact ⟨hValid, hSnapshot⟩
  · rintro ⟨hValid, hSnapshot⟩
    exact ⟨_, _, ⟨hValid, rfl⟩, (), hSnapshot, rfl⟩

/- The reason that a snapshot gives is not blank. -/
theorem decision_reason_iff : trimIsEmpty (row.reasonCode.getD row.state.text) = false ↔
    ∀ reason ∈ row.reasonCode, trimIsEmpty reason = false := by
  cases row.reasonCode with
  | none =>
    have hText : trimIsEmpty row.state.text = false := by
      cases row.state with
      | requested | active | denied | expired | revoked => decide
    simp [hText]
  | some reason => simp

theorem StoredGrant.Kept.snapshot_facts {evaluatedAt : UtcTimestamp} (hKept : row.Kept) :
    (row.document.snapshot row.lastStreamSequence evaluatedAt).WellFormed ∧
      (row.document.snapshot row.lastStreamSequence evaluatedAt).TerminalFacts := by
  have hValid := hKept.valid
  have hTerminal : row.document.TerminalFacts := hValid.terminal
  refine ⟨⟨hValid.period, ?_, hKept.stream, decision_reason_iff.mpr hKept.reason, ?_⟩,
    ?_, ?_, ?_, ?_⟩
  · intro hNeeds hNil
    exact hValid.endpoints hNeeds (map_eq_nil_iff.mp hNil)
  · intro endpoint hEndpoint
    rcases mem_map.mp hEndpoint with ⟨found, hFound, rfl⟩
    exact (hValid.fits found hFound).expiresAt
  · show row.state.terminal = true ↔ row.state.decision = .terminal
    cases row.state with
    | requested | active | denied | expired | revoked => decide
  · show row.state = .revoked ↔ row.revokedAt.map utcTimestamp ≠ none
    rw [hKept.revoked, Ne, Ne, Option.map_eq_none_iff]
  · rintro hEnded
    show given row.reasonCode
    have hEnded : row.document.state = .denied ∨ row.document.state = .revoked := hEnded
    unfold LoadedGrant.TerminalFacts at hTerminal
    rcases hEnded with hState | hState <;>
    · rw [hState] at hTerminal
      exact hTerminal.2
  · intro hExpired
    have hExpired : row.document.state = .expired := hExpired
    unfold LoadedGrant.TerminalFacts at hTerminal
    rwa [hExpired] at hTerminal

theorem StoredGrant.accepted_iff : row.Accepted ↔ row.Kept := by
  constructor
  · rintro ⟨_, hSnapshots⟩
    rcases loadGrantSnapshot_isOk.mp (hSnapshots 0) with
      ⟨hValid, ⟨_, _, hStream, hReason, _⟩, _, hRevoked, _⟩
    refine ⟨hValid, hStream, decision_reason_iff.mp hReason, ?_⟩
    have hRevoked : row.state = .revoked ↔ row.revokedAt.map utcTimestamp ≠
        none := hRevoked
    rw [hRevoked, Ne, Option.map_eq_none_iff]
  · intro hKept
    refine ⟨?_, ?_⟩
    · rw [isOk_iff]
      exact ⟨row.document, (loadGrant_eq_ok (by simp)).mpr ⟨hKept.valid, rfl⟩⟩
    · intro now
      rw [loadGrantSnapshot_isOk]
      exact ⟨hKept.valid, hKept.snapshot_facts⟩

/- Only a revoked grant has an end. -/
theorem StoredGrant.Kept.revokedAt_eq_none (hKept : row.Kept) (hState : row.state ≠ .revoked) :
    row.revokedAt = none := by
  by_contra hEnd
  exact hState (hKept.revoked.mpr hEnd)

/- The two validations of a denied grant contradict. -/
theorem StoredGrant.Kept.not_denied (hKept : row.Kept) : row.state ≠ .denied := by
  intro hDenied
  have hTerminal : row.document.TerminalFacts := hKept.valid.terminal
  have hState : row.document.state = .denied := hDenied
  unfold LoadedGrant.TerminalFacts at hTerminal
  rw [hState] at hTerminal
  apply hTerminal.1
  show row.revokedAt.map utcTimestamp = none
  rw [hKept.revokedAt_eq_none (by simp [hDenied])]
  rfl

theorem utcTimestamp_stored (time : OffsetDateTime) :
    time.stored.utcTimestamp = time.utcTimestamp := by
  have hDiv : ∀ n : Int, n / 1000 * 1000 / 1000000 = n / 1000000 := by
    omega
  exact hDiv time

theorem utcTimestamp_ofTimestamp (timestamp : UtcTimestamp) :
    (ofTimestamp timestamp).utcTimestamp = timestamp :=
  Int.mul_ediv_cancel timestamp (by decide)

variable {timestamp : UtcTimestamp}

-- New Grants

section

variable {deployment : GrantDeployment} {memberships : List CourseMembership} {stream : Nat}
  {now : OffsetDateTime} {revision : Revision}

/- A new grant is accepted if it lasts a millisecond. -/
theorem createdRow_kept_iff {call : CreateMutation} {membership : CourseMembership}
    (hStream : stream ≠ 0) :
    (createdRow deployment stream now call membership).Kept ↔ now.utcTimestamp <
      (createdExpiry deployment now call membership).utcTimestamp := by
  constructor
  · intro hKept
    have hPeriod : now.stored.utcTimestamp < (createdExpiry deployment now call
        membership).stored.utcTimestamp :=
      hKept.valid.period
    rwa [utcTimestamp_stored, utcTimestamp_stored] at hPeriod
  · intro hLonger
    rw [← utcTimestamp_stored, ← utcTimestamp_stored (createdExpiry deployment now call membership)]
      at hLonger
    refine ⟨⟨hLonger, nofun, nofun, nodup_nil, nodup_nil, rfl⟩, hStream, nofun, ?_⟩
    constructor
    · rintro ⟨⟩
    · intro hEnd
      exact absurd rfl hEnd

-- Activated Grants

variable {call : ActivateMutation} {endpoint : EnvironmentEndpoint}

theorem mem_activatedEndpoints (deployment : GrantDeployment) (row : StoredGrant)
    (hIds : call.endpointGrantIds.length = call.eligibility.endpoints.length)
    (hEndpoint : endpoint ∈ call.eligibility.endpoints) :
    ∃ id, newEndpointGrant deployment row.grantId (activatedExpiry call row) id endpoint ∈
      activatedEndpoints deployment call row := by
  rcases getElem_of_mem hEndpoint with ⟨i, hLess, hGet⟩
  have hId : i < call.endpointGrantIds.length := by
    omega
  refine ⟨call.endpointGrantIds[i], ?_⟩
  unfold activatedEndpoints
  rw [← hGet]
  rw [mem_iff_getElem]
  refine ⟨i, ?_, getElem_zipWith⟩
  rw [length_zipWith]
  omega

theorem newEndpointGrant_reachable_iff {grantId : AccessGrantId} {expiresAt : OffsetDateTime}
    {id : EndpointGrantId} :
    (newEndpointGrant deployment grantId expiresAt id endpoint).load.Reachable ↔
      (endpoint.protocol = .ssh → validDnsName deployment.publicSshGatewayHostname = true) := by
  unfold EndpointGrant.Reachable StoredEndpointGrant.load newEndpointGrant
  cases endpoint.protocol with
  | ssh => simp [deployment.portFixed, deployment.fingerprintValid, validAlias_sshAlias]
  | http | https => simp

/- The expiry of an activated grant, in milliseconds. -/
theorem activated_period (hPeriod : row.notBefore.utcTimestamp < row.expiresAt.utcTimestamp)
    (hStarted : row.notBefore ≤ now) (hLater : now < activatedExpiry call row) :
    row.notBefore.utcTimestamp < (activatedExpiry call row).utcTimestamp := by
  unfold activatedExpiry at hLater ⊢
  rcases Int.le_total row.expiresAt (ofTimestamp
      call.eligibility.eligibilityExpiresAt) with hLe | hLe
  · rwa [Int.min_eq_left hLe]
  · rw [Int.min_eq_right hLe] at hLater ⊢
    rw [utcTimestamp_ofTimestamp]
    exact Int.ediv_lt_of_lt_mul (by decide) (Int.lt_of_le_of_lt hStarted hLater)

/- An activated grant is accepted if its endpoints can be reached. -/
theorem activatedRow_kept_iff (hKept : row.Kept) (hStream : stream ≠ 0)
    (hStarted : row.notBefore ≤ now)
    (hEligible : call.eligibility.ValidFor row.eligibilityRequest call.resolvedAt)
    (hIds : call.endpointGrantIds.length = call.eligibility.endpoints.length)
    (hState : row.state = .requested) (hLater : now < activatedExpiry call row)
    (hUnique : uniqueEndpoints (activatedEndpoints deployment call row)) :
    (activatedRow deployment stream call revision row).Kept ↔
      ((∃ endpoint ∈ call.eligibility.endpoints, endpoint.protocol = .ssh) → validDnsName
        deployment.publicSshGatewayHostname = true) := by
  constructor
  · rintro hNew ⟨endpoint, hEndpoint, hSsh⟩
    rcases mem_activatedEndpoints deployment row hIds hEndpoint with ⟨id, hMember⟩
    have hFits := hNew.valid.fits _ (mem_map_of_mem hMember)
    exact newEndpointGrant_reachable_iff.mp hFits.reachable hSsh
  · intro hName
    have hRevokedAt := hKept.revokedAt_eq_none (by simp [hState])
    refine ⟨⟨?_, ?_, ?_, ?_, ?_, ?_⟩, hStream, hKept.reason, ?_⟩
    · exact activated_period hKept.valid.period hStarted hLater
    · intro _ hNil
      have hEmpty : activatedEndpoints deployment call row = [] := map_eq_nil_iff.mp hNil
      rcases hEligible with ⟨hSome, _, _, _, _, _, _, hAnswers, _⟩
      rcases exists_mem_of_ne_nil _ hSome with ⟨endpointId, hMember⟩
      rcases mem_map.mp (hAnswers endpointId hMember) with ⟨endpoint, hEndpoint, _⟩
      rcases mem_activatedEndpoints deployment row hIds hEndpoint with ⟨id, hGrant⟩
      rw [hEmpty] at hGrant
      cases hGrant
    · intro endpoint hEndpoint
      rcases mem_map.mp hEndpoint with ⟨found, hFound, rfl⟩
      change found ∈ activatedEndpoints deployment call row at hFound
      rcases mem_iff_getElem.mp hFound with ⟨i, hLess, hGet⟩
      simp only [activatedEndpoints, getElem_zipWith] at hGet
      subst hGet
      refine ⟨rfl, Int.le_refl _, rfl, ?_⟩
      rw [newEndpointGrant_reachable_iff]
      intro hSsh
      exact hName ⟨_, getElem_mem _, hSsh⟩
    · show ((activatedEndpoints deployment call row).map StoredEndpointGrant.load).map
          EndpointGrant.endpointId |>.Nodup
      rw [map_map]
      exact hUnique.2
    · show ((activatedEndpoints deployment call row).map
        StoredEndpointGrant.load).map EndpointGrant.id |>.Nodup
      rw [map_map]
      exact hUnique.1
    · show row.revokedAt.map utcTimestamp = none
      rw [hRevokedAt]
      rfl
    · constructor
      · rintro ⟨⟩
      · intro hEnd
        exact absurd hRevokedAt hEnd

-- Renewed And Ended Grants

/- A renewed grant is accepted. -/
theorem renewedRow_kept (hKept : row.Kept)
    (hStarted : row.notBefore ≤ now) (hLater : now < ofTimestamp timestamp) :
    (renewedRow (ofTimestamp timestamp) revision row).Kept := by
  have hValid := hKept.valid
  have hEndpoints : (renewedRow (ofTimestamp timestamp)
        revision row).document.endpointGrants =
      row.document.endpointGrants.map (fun endpoint =>
        { endpoint with expiresAt := (ofTimestamp timestamp).utcTimestamp }) := by
    simp only [document, renewedRow, map_map]
    rfl
  refine ⟨⟨?_, ?_, ?_, ?_, ?_, hValid.terminal⟩, hKept.stream, hKept.reason, hKept.revoked⟩
  · show row.notBefore.utcTimestamp < (ofTimestamp timestamp).utcTimestamp
    rw [utcTimestamp_ofTimestamp]
    exact Int.ediv_lt_of_lt_mul (by decide) (Int.lt_of_le_of_lt hStarted hLater)
  · intro hNeeds hNil
    rw [hEndpoints, map_eq_nil_iff] at hNil
    exact hValid.endpoints hNeeds hNil
  · intro endpoint hEndpoint
    rw [hEndpoints] at hEndpoint
    rcases mem_map.mp hEndpoint with ⟨old, hOld, rfl⟩
    have hFits := hValid.fits old hOld
    exact ⟨hFits.grantId, Int.le_refl _, hFits.healthy, hFits.reachable⟩
  · rw [hEndpoints, map_map]
    exact hValid.endpointIds
  · rw [hEndpoints, map_map]
    exact hValid.endpointGrantIds

/- A grant that ends keeps its period and its endpoints. -/
theorem document_valid_of_ended {row' : StoredGrant} (hValid : row.document.Valid)
    (hId : row'.grantId = row.grantId) (hNotBefore : row'.notBefore = row.notBefore)
    (hExpiry : row'.expiresAt = row.expiresAt)
    (hEndpoints : row'.endpointGrants = row.endpointGrants)
    (hNeeds : row'.state.needsEndpoints = true → row.state.needsEndpoints = true)
    (hTerminal : row'.document.TerminalFacts) : row'.document.Valid := by
  have hSame : row'.document.endpointGrants = row.document.endpointGrants := by
    unfold document
    rw [hEndpoints]
  have hExpires : row'.document.expiresAt = row.document.expiresAt := by
    unfold document
    rw [hExpiry]
  have hIssued : row'.document.issuedAt = row.document.issuedAt := by
    unfold document
    rw [hNotBefore]
  refine ⟨?_, ?_, ?_, ?_, ?_, hTerminal⟩
  · rw [hIssued, hExpires]
    exact hValid.period
  · intro hNeedsNew
    rw [hSame]
    exact hValid.endpoints (hNeeds hNeedsNew)
  · intro endpoint hEndpoint
    rw [hSame] at hEndpoint
    have hFits := hValid.fits endpoint hEndpoint
    refine ⟨?_, ?_, hFits.healthy, hFits.reachable⟩
    · exact hFits.grantId.trans hId.symm
    · rw [hExpires]
      exact hFits.expiresAt
  · rw [hSame]
    exact hValid.endpointIds
  · rw [hSame]
    exact hValid.endpointGrantIds

/- A revoked grant is accepted. -/
theorem revokedRow_kept {reason : String} (hKept : row.Kept) (hStream : stream ≠ 0)
    (hReason : trimIsEmpty reason = false) : (revokedRow stream now reason revision row).Kept := by
  refine ⟨?_, hStream, ?_, ?_⟩
  · refine document_valid_of_ended hKept.valid rfl rfl rfl rfl nofun ?_
    refine ⟨nofun, reason, rfl, ?_⟩
    rintro rfl
    cases hReason
  · rintro _ ⟨⟩
    exact hReason
  · constructor
    · intro _
      exact nofun
    · intro _
      rfl

/- A grant that is swept after its expiry is accepted. -/
theorem expiredRow_kept (hKept : row.Kept) (hStream : stream ≠ 0) (hState : row.state = .active) :
    (expiredRow stream revision row).Kept := by
  have hRevokedAt := hKept.revokedAt_eq_none (by simp [hState])
  refine ⟨?_, hStream, ?_, ?_⟩
  · refine document_valid_of_ended hKept.valid rfl rfl rfl rfl ?_ rfl
    intro _
    rw [hState]
    rfl
  · rintro _ ⟨⟩
    decide
  · constructor
    · rintro ⟨⟩
    · intro hEnd
      exact absurd hRevokedAt hEnd

end

-- Runs

namespace GrantStore

variable {deployment : GrantDeployment} {memberships : List CourseMembership} {s s' : GrantStore}
  {action : GrantAction} (deployment) (memberships) (now : OffsetDateTime)

/- No denial, also not by a late activation, no grant that ends in the millisecond of its creation,
  and no SSH endpoint under a name that the contract refuses. -/
def StorableMutation : Option StoredGrant → GrantMutation → Prop
| none, .create call =>
  ∀ membership ∈ creatorMembership memberships call, now.utcTimestamp <
    (createdExpiry deployment now call membership).utcTimestamp
| some row, .activate call =>
  now < activatedExpiry call row ∧
  ((∃ endpoint ∈ call.eligibility.endpoints, endpoint.protocol = .ssh) → validDnsName
    deployment.publicSshGatewayHostname = true)
| _, .deny => False
| _, _ => True

instance decidableStorableMutation :
    ∀ grant mutation, Decidable (StorableMutation deployment memberships now grant mutation)
  | none, .create _ => inferInstanceAs (Decidable (∀ membership ∈ _, _))
  | some _, .activate _ => inferInstanceAs (Decidable (_ ∧ _))
  | none, .deny | some _, .deny => isFalse id
  | none, .activate _ | none, .renew _ | none, .revoke _
  | none, .revokeEnvironment _ | none, .expire
  | some _, .create _ | some _, .renew _ | some _, .revoke _
  | some _, .revokeEnvironment _ | some _, .expire => isTrue trivial

def Storable (s : GrantStore) (action : GrantAction) : Prop :=
  StorableMutation deployment memberships action.now s.grant action.mutation

variable {memberships}

variable {deployment}

instance {deployment memberships} (s : GrantStore) (action : GrantAction) :
    Decidable (s.Storable deployment memberships action) :=
  decidableStorableMutation deployment memberships action.now s.grant action.mutation

/- The row of a store is accepted and has begun. -/
def Kept (s : GrantStore) : Prop := ∀ row ∈ s.grant, row.Kept ∧ row.notBefore ≤ s.clock

/- The row that a mutation writes over an accepted one is accepted exactly if the mutation is
  storable. -/
theorem written_kept_iff (hKept : s.Kept) (hWrites : s.writes deployment memberships action row) :
    row.Kept ↔ s.Storable deployment memberships action := by
  rcases hWrites with ⟨hClock, hNumber, hWritten⟩
  have hStream : action.stream ≠ 0 := by
    omega
  have hMutated := (mutateGrant_cases hWritten).1
  unfold Storable
  unfold Kept at hKept
  generalize s.grant = grant at hMutated hKept ⊢
  generalize action.mutation = mutation at hMutated ⊢
  have hOld : ∀ old, some old = grant → old.Kept ∧ old.notBefore ≤ action.now := by
    intro old hEq
    rcases hKept old hEq.symm with ⟨hRow, hBegun⟩
    exact ⟨hRow, Int.le_trans hBegun hClock⟩
  cases hMutated with
  | @created call membership hMembership _ _ =>
    rw [createdRow_kept_iff hStream]
    constructor
    · rintro hLonger found hFound
      have hSame : some membership = some found := hMembership.symm.trans hFound
      cases hSame
      exact hLonger
    · intro hAll
      exact hAll membership hMembership
  | @activated call revision old hEligible hIds hState hLater hUnique =>
    rcases hOld old rfl with ⟨hRow, hBegun⟩
    rw [activatedRow_kept_iff hRow hStream hBegun hEligible hIds hState hLater hUnique]
    constructor
    · intro hName
      exact ⟨hLater, hName⟩
    · intro hBoth
      exact hBoth.2
  | @activatedLate call revision old _ hLate =>
    constructor
    · intro hDenied
      exact absurd rfl hDenied.not_denied
    · rintro ⟨hLater, _⟩
      exact absurd hLate (Int.not_le.mpr hLater)
  | @denied revision old _ =>
    constructor
    · intro hDenied
      exact absurd rfl hDenied.not_denied
    · intro hFalse
      exact hFalse.elim
  | @renewed call revision old hRenewable _ _ =>
    rcases hOld old rfl with ⟨hRow, hBegun⟩
    exact iff_of_true (renewedRow_kept hRow hBegun hRenewable.1) trivial
  | @revoked call revision old hReason _ | @revokedByEnvironment reason revision old hReason _ =>
    exact iff_of_true (revokedRow_kept (hOld old rfl).1 hStream hReason) trivial
  | @expired revision old hState _ =>
    exact iff_of_true (expiredRow_kept (hOld old rfl).1 hStream hState) trivial

theorem notBefore_le_of_writes (hKept : s.Kept)
    (hWrites : s.writes deployment memberships action row) : row.notBefore ≤ action.now := by
  rcases hWrites with ⟨hClock, _, hWritten⟩
  have hMutated := (mutateGrant_cases hWritten).1
  cases hGrant : s.grant with
  | none =>
    rw [hGrant] at hMutated
    generalize action.mutation = mutation at hMutated
    cases hMutated with
    | created => exact stored_le _
  | some old =>
    rw [hGrant] at hMutated
    -- no mutation but the creation sets the beginning
    have hSame : row.notBefore = old.notBefore := by
      generalize action.mutation = mutation at hMutated
      cases hMutated <;> rfl
    rw [hSame]
    exact Int.le_trans (hKept old hGrant).2 hClock

/- One storable step keeps the row accepted. -/
theorem kept_step (hKept : s.Kept) (hOk : s.Storable deployment memberships action)
    (hStep : s.step deployment memberships action = some s') : s'.Kept := by
  rcases (step_eq_some _ _).mp hStep with ⟨row, hWrites, _, rfl⟩
  have hRow := (written_kept_iff hKept hWrites).mpr hOk
  rintro _ ⟨⟩
  exact ⟨hRow, notBefore_le_of_writes hKept hWrites⟩

/- The row of every run of storable steps is accepted. -/
theorem kept_of_run
    (hRun : (grantMachine deployment memberships).Run (Storable deployment memberships) s) :
    s.Kept := by
  refine hRun.invariant ?_ ?_
  · rintro start ⟨hNone, _⟩ row hRow
    cases hNone.symm.trans hRow
  · intro before action after hBefore hOk hStep
    exact kept_step hBefore hOk hStep

end GrantStore

/- In every run of storable mutations, the next row is accepted by both loaders exactly if its
  mutation is storable, and then it is committed. -/
theorem grant_rows_accepted {deployment : GrantDeployment} {memberships : List CourseMembership}
    {s : GrantStore} (hRun : (grantMachine deployment memberships).Run
      (Storable deployment memberships) s)
    {action : GrantAction} {row : StoredGrant}
    (hWrites : s.writes deployment memberships action row) :
    (row.Accepted ↔ s.Storable deployment memberships action) ∧
    (row.Accepted → s.step deployment memberships action = some (s.committed action row)) := by
  have hKept := kept_of_run hRun
  refine ⟨?_, fun hAccepted => (step_eq_some _ _).mpr ⟨row, hWrites, fun _ => hAccepted.1, rfl⟩⟩
  rw [accepted_iff]
  exact written_kept_iff hKept hWrites

open GrantSample

theorem grant_rows_accepted_sample : ∃ s row, (grantMachine deployment memberships.rows).Run
      (Storable deployment memberships.rows) s ∧
    s.writes deployment memberships.rows revoke row ∧ row.state = .revoked ∧ row.Accepted := by
  have hFound : ∃ s, (grantMachine deployment memberships.rows).Run
      (Storable deployment memberships.rows) s ∧
      (s.clock ≤ revoke.now ∧ s.sequence < revoke.stream) ∧
      ∃ row, mutateGrant deployment memberships.rows
        revoke.stream revoke.now s.grant revoke.mutation =
        .ok row ∧ row.state = .revoked :=
    Machine.exists_run [create none, activate] (s := start) ⟨rfl, rfl⟩ (by decide)
  rcases hFound with ⟨s, hRun, ⟨hClock, hNumber⟩, row, hRow, hRevoked⟩
  have hWrites : s.writes deployment memberships.rows revoke row := ⟨hClock, hNumber, hRow⟩
  have hStorable : s.Storable deployment memberships.rows revoke := by
    unfold Storable revoke
    cases s.grant with
    | none | some _ => trivial
  have hAccepted := (grant_rows_accepted hRun hWrites).1.mpr hStorable
  exact ⟨s, row, hRun, hWrites, hRevoked, hAccepted⟩

/- The eligibility of a new grant is denied: the denied row is written, is accepted by neither
  loader, and is not committed. -/
theorem denial_not_accepted : ∃ s row, (grantMachine deployment memberships.rows).Reachable s ∧
    s.writes deployment memberships.rows deny row ∧
    row.state = .denied ∧ (loadGrant row none).isOk = false ∧
    (loadGrantSnapshot row row.actorId deny.now).isOk = false ∧
    s.step deployment memberships.rows deny = none := by
  have hFound : ∃ s, (grantMachine deployment memberships.rows).Reachable s ∧
      (s.clock ≤ deny.now ∧ s.sequence < deny.stream) ∧
      ∃ row, mutateGrant deployment memberships.rows
        deny.stream deny.now s.grant deny.mutation = .ok row ∧
      row.state = .denied ∧ (loadGrant row none).isOk = false ∧
      (loadGrantSnapshot row row.actorId deny.now).isOk = false ∧
      s.step deployment memberships.rows deny = none :=
    Machine.exists_reachable [create none] (s := start) ⟨rfl, rfl⟩ (by decide)
  rcases hFound with ⟨s, hRun, ⟨hClock, hNumber⟩, row, hRow, hFacts⟩
  exact ⟨s, row, hRun, ⟨hClock, hNumber, hRow⟩, hFacts⟩

end LabWeaver
