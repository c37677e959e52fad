import LabWeaver.Access.Effects

/-
  This file proves that no gateway session outlives its grant or its key. A session is created
  under shared locks on both, and whoever ends one of them holds it for writing before looking for
  sessions. So either side waits for the other, and the later one sees what the earlier one has
  done.

  Main declaration: `gateway_sessions_safe`.
-/

namespace LabWeaver

open ReadCommitted Store Transaction

-- Safe Stores

variable (store : AccessStore)

def GrantActive (id : AccessGrantId) : Prop :=
  ∃ grant : AccessGrantRow, store.row ⟨.grants, id⟩ = some grant ∧ grant.state = .active

def KeyValid (id : SshPublicKeyId) : Prop :=
  ∃ key : SshPublicKeyRow, store.row ⟨.sshKeys, id⟩ = some key ∧ key.revokedAt = none

def GatewaySafe : Prop :=
  ∀ id (session : GatewaySessionRow), store.row ⟨.gatewaySessions, id⟩ = some session →
    session.state = .active → GrantActive store session.grantId ∧ KeyValid store session.keyId

-- Sessions Under Locks

variable (committed : AccessStore) (tx : AccessTransaction) (grantId : AccessGrantId)
  (keyId : SshPublicKeyId)

/- The grant and the key are locked and in good order. -/
structure Anchored : Prop where
  grantLocked : tx.locks.Protects ⟨.grants, grantId⟩
  keyLocked : tx.locks.Protects ⟨.sshKeys, keyId⟩
  grantKept : tx.writes.row ⟨.grants, grantId⟩ = none
  keyKept : tx.writes.row ⟨.sshKeys, keyId⟩ = none
  grantActive : GrantActive committed grantId
  keyValid : KeyValid committed keyId

variable (session : GatewaySessionRow)

/- A session that a grant or a key keeps alive. -/
def activeUnderGrant : Prop :=
  session.grantId = grantId ∧ session.state = .active

def activeUnderKey : Prop :=
  session.keyId = keyId ∧ session.state = .active

/- The session of the transaction is already inserted. -/
def AccessLocals.inserted : AccessLocals → Bool
| .consumeAuthorization _ | .finished _ => true
| _ => false

/- What holds of a transaction at its place. -/
structure GatewayLocal : Prop extends Held tx where
  grants : ∀ {id} {grant : AccessGrantRow}, tx.writes.row ⟨.grants, id⟩ = some grant →
    grant.state ≠ .active →
    id ∈ tx.locals.pendingGateway ∨ Swept committed tx .gatewaySessions (activeUnderGrant id)
  keys : ∀ {id} {key : SshPublicKeyRow}, tx.writes.row ⟨.sshKeys, id⟩ = some key →
    id ∈ tx.locals.pendingKey ∨ Swept committed tx .gatewaySessions (activeUnderKey id)
  sessions : ∀ {id} {session : GatewaySessionRow},
    tx.writes.row ⟨.gatewaySessions, id⟩ = some session → session.state = .active →
    Anchored committed tx session.grantId session.keyId ∧ tx.locals.inserted = true
  candidate : ∀ {call authorization candidate}, tx.locals =
    .insertGatewaySession call authorization candidate →
    Anchored committed tx candidate.endpointGrant.grantId authorization.keyId
  grantScan : ∀ {snapshot id rest environmentId}, tx.snapshot = some snapshot → tx.locals =
    .terminateGatewaySessions id rest environmentId →
    Seen committed tx snapshot .gatewaySessions (activeUnderGrant id)
  keyScan : ∀ {snapshot id}, tx.snapshot = some snapshot → tx.locals = .terminateKeySessions id →
    Seen committed tx snapshot .gatewaySessions (activeUnderKey id)

-- Commits Of Others

section

variable {committed : AccessStore} {tx committer : AccessTransaction} {grantId : AccessGrantId}
  {keyId : SshPublicKeyId} (hCompatible : committer.locks.Compatible tx.locks)

include hCompatible

theorem Anchored.stable (hAnchored : Anchored committed tx grantId keyId) :
    Anchored (committer.writes.overlay committed) tx grantId keyId := by
  refine ⟨hAnchored.grantLocked, hAnchored.keyLocked,
    hAnchored.grantKept, hAnchored.keyKept, ?_, ?_⟩
  · unfold GrantActive
    rw [overlay_row_of_protects hCompatible hAnchored.grantLocked]
    exact hAnchored.grantActive
  · unfold KeyValid
    rw [overlay_row_of_protects hCompatible hAnchored.keyLocked]
    exact hAnchored.keyValid

/- Nobody adds a session under a grant that is being ended. -/
theorem GatewayLocal.opensNone_of_grant (hLocal : GatewayLocal committed committer)
    (hWrites : tx.locks.Writes ⟨.grants, grantId⟩) :
    OpensNone committed committer .gatewaySessions (activeUnderGrant grantId) := by
  rintro id session hRow ⟨hGrant, hActive⟩
  have hLocked := (hLocal.sessions hRow hActive).1.grantLocked
  rw [hGrant] at hLocked
  exact absurd hWrites (hCompatible.not_writes hLocked)

/- Nobody adds a session under a key that is being revoked. -/
theorem GatewayLocal.opensNone_of_key (hLocal : GatewayLocal committed committer)
    (hWrites : tx.locks.Writes ⟨.sshKeys, keyId⟩) :
    OpensNone committed committer .gatewaySessions (activeUnderKey keyId) := by
  rintro id session hRow ⟨hKey, hActive⟩
  have hLocked := (hLocal.sessions hRow hActive).1.keyLocked
  rw [hKey] at hLocked
  exact absurd hWrites (hCompatible.not_writes hLocked)

theorem GatewayLocal.stable (hCommitter : GatewayLocal committed committer)
    (hLocal : GatewayLocal committed tx) :
    GatewayLocal (committer.writes.overlay committed) tx := by
  refine ⟨hLocal.toHeld, ?_, ?_, ?_, ?_, ?_, ?_⟩
  · intro id grant hRow hState
    rcases hLocal.grants hRow hState with hPending | hSwept
    · exact .inl hPending
    · right
      have hWrites := tx.covered ⟨.grants, id⟩ (by simp [hRow])
      exact hSwept.stable (hCommitter.opensNone_of_grant hCompatible hWrites)
  · intro id key hRow
    rcases hLocal.keys hRow with hPending | hSwept
    · exact .inl hPending
    · right
      have hWrites := tx.covered ⟨.sshKeys, id⟩ (by simp [hRow])
      exact hSwept.stable (hCommitter.opensNone_of_key hCompatible hWrites)
  · intro id session hRow hActive
    rcases hLocal.sessions hRow hActive with ⟨hAnchored, hInserted⟩
    exact ⟨hAnchored.stable hCompatible, hInserted⟩
  · intro call authorization candidate hLocals
    exact (hLocal.candidate hLocals).stable hCompatible
  · intro snapshot id rest environmentId hSnapshot hLocals
    have hWrites : tx.locks.Writes ⟨.grants, id⟩ := by
      apply hLocal.ending
      rw [hLocals]
      exact List.mem_cons_self
    exact (hLocal.grantScan hSnapshot hLocals).stable
      (hCommitter.opensNone_of_grant hCompatible hWrites)
  · intro snapshot id hSnapshot hLocals
    have hWrites : tx.locks.Writes ⟨.sshKeys, id⟩ := by
      apply hLocal.key
      rw [hLocals]
      exact List.mem_cons_self
    exact (hLocal.keyScan hSnapshot hLocals).stable
      (hCommitter.opensNone_of_key hCompatible hWrites)

end

-- Statements Of The Transaction

section

variable {l' : AccessLocals} {statement : AccessStep} {committed snapshot written : AccessStore}
  {tx : AccessTransaction} (hCommand : accessCommand tx.locals = .execute statement)
    (hRun : tx.Runs statement committed snapshot l' written)

include hCommand hRun in
theorem Anchored.finished {grantId : AccessGrantId} {keyId : SshPublicKeyId}
    (hAnchored : Anchored committed tx grantId keyId)
    (hGrants : tx.locals.writes ≠ some .grants) (hKeys : tx.locals.writes ≠ some .sshKeys) :
    Anchored committed (tx.after hRun) grantId keyId := by
  refine ⟨hAnchored.grantLocked.append_right _, hAnchored.keyLocked.append_right _, ?_, ?_,
    hAnchored.grantActive, hAnchored.keyValid⟩
  · exact unwritten_of_other_table hCommand hAnchored.grantKept hGrants
  · exact unwritten_of_other_table hCommand hAnchored.keyKept hKeys

include hCommand hRun in
/- A statement activates no session that exists. -/
theorem not_active_of_written {id : GatewaySessionId} {session old : GatewaySessionRow}
    (hWritten : written.row ⟨.gatewaySessions, id⟩ = some session)
    (hOld : committed.row ⟨.gatewaySessions, id⟩ = some old) : session.state ≠ .active := by
  have hChange := gateway_changes hCommand hRun hWritten
  generalize tx.locals = l at hChange
  cases hChange with
  | terminated hState =>
    rw [hState]
    decide
  | inserted hNew _ =>
    -- the identifier of a new session is not in use
    cases (hRun.not_committed hWritten hNew).symm.trans hOld

variable {isOpen : GatewaySessionRow → Prop}

include hCommand hRun in
theorem swept_after (hOpen : ∀ session, isOpen session → session.state = .active)
    (hSwept : Swept committed tx .gatewaySessions isOpen) :
    Swept committed (tx.after hRun) .gatewaySessions isOpen := by
  refine hSwept.finished ?_ _
  intro id session old hWritten hOld hSession
  exact not_active_of_written hCommand hRun hWritten hOld (hOpen session hSession)

theorem swept_of_not_active {id : AccessGrantId} (hSafe : GatewaySafe committed)
    (hGrant : ¬GrantActive committed id) (tx : AccessTransaction) :
    Swept committed tx .gatewaySessions (activeUnderGrant id) := by
  rintro sessionId session hRow ⟨hSelected, hActive⟩
  have hActiveGrant := (hSafe sessionId session hRow hActive).1
  rw [hSelected] at hActiveGrant
  exact absurd hActiveGrant hGrant

include hCommand hRun in
/- A grant that the statement itself writes. -/
theorem GatewayLocal.grant_written {id : AccessGrantId} {grant : AccessGrantRow}
    (hSafe : GatewaySafe committed) (hLocal : GatewayLocal committed tx)
    (hRow : written.row ⟨.grants, id⟩ = some grant) (hState : grant.state ≠ .active) :
    id ∈ l'.pendingGateway ∨ Swept committed (tx.after hRun)
      .gatewaySessions (activeUnderGrant id) := by
  generalize hLocals : tx.locals = l at hCommand
  cases grant_changes hCommand hRun hRow with
  | created hNew _ =>
    right
    apply swept_of_not_active hSafe
    rintro ⟨old, hOld, _⟩
    rw [hRun.not_committed hRow hNew] at hOld
    cases hOld
  | renewed _ _ hActive | activated _ _ _ hActive => exact absurd hActive hState
  | @denied _ _ old hOld hRequested _ =>
    right
    rcases hRun.own_or_committed hRow hOld with hOwn | hOld
    · have hNotActive : old.state ≠ .active := by
        rw [hRequested]
        decide
      rcases hLocal.grants hOwn hNotActive with hPending | hSwept
      · rw [hLocals] at hPending
        cases hPending
      · rw [← hLocals] at hCommand
        exact swept_after hCommand hRun (fun _ hOpen => hOpen.2) hSwept
    · apply swept_of_not_active hSafe
      rintro ⟨grant', hGrant', hActive⟩
      cases hOld.symm.trans hGrant'
      cases hRequested.symm.trans hActive
  | ended _ _ _ _ hPending _ => exact .inl hPending

/- Whoever terminates sessions has not inserted one. -/
theorem GatewayLocal.closed (hLocal : GatewayLocal committed tx)
    (hInserted : tx.locals.inserted = false)
    (hOpen : ∀ session, isOpen session → session.state = .active) :
    Closed tx .gatewaySessions isOpen := by
  intro id session hRow hSession
  cases hInserted.symm.trans ((hLocal.sessions hRow (hOpen session hSession)).2)

theorem terminate_closes (hOpen : ∀ session, isOpen session → session.state = .active) :
    ∀ session session', GatewaySessionRow.terminate session = some session' → ¬isOpen session' := by
  intro session session' hTerminate hSession
  cases ((GatewaySessionRow.terminate_eq_some hTerminate).1).symm.trans (hOpen session' hSession)

theorem anchored_of_candidate {call : GatewayCall} {authorization : SshAuthorizationRow}
    {candidate : EndpointCandidate} {locks : Locks AccessKey} (hHeld : ∀ k, tx.writes.row k = none)
    (hMember : candidate ∈ findEndpointGrants call authorization (tx.view committed snapshot locks))
    (hLocked : ∀ lock ∈ candidateLocks authorization candidate, lock ∈ locks)
    (hCovered : ∀ k, written.row k ≠ none → locks.Writes k) (hNone : ∀ k, written.row k = none) :
    Anchored committed (tx.finished l' written locks hCovered) candidate.endpointGrant.grantId
      authorization.keyId := by
  have hGrantLock : (⟨.grants, candidate.endpointGrant.grantId⟩, .share) ∈ locks := by
    apply hLocked
    simp [candidateLocks]
  have hKeyLock : (⟨.sshKeys, authorization.keyId⟩, .share) ∈ locks := by
    apply hLocked
    simp [candidateLocks]
  have hKept : ∀ k, (tx.finished l' written locks hCovered).writes.row k = none := by
    intro k
    simp only [finished]
    rw [overlay_row_of_none (hNone k)]
    exact hHeld k
  have hRows : GrantActive (tx.view committed snapshot locks) candidate.endpointGrant.grantId ∧
      KeyValid (tx.view committed snapshot locks) authorization.keyId := by
    rcases mem_rows.mp hMember with ⟨id, endpointGrant, _, hFound⟩
    split at hFound
    · rename_i grant key hGrant hKey
      split at hFound
      · cases hFound
      · simp only at hFound
        rcases Option.ite_none_right_eq_some.mp hFound with ⟨hConnectable, ⟨⟩⟩
        rcases hConnectable with ⟨_, _, _, _, hActive, _, _, _, _, hValid, _⟩
        exact ⟨⟨grant, hGrant, hActive⟩, ⟨key, hKey, hValid⟩⟩
    · cases hFound
  refine ⟨?_, ?_, hKept _, hKept _, ?_, ?_⟩
  · exact ⟨.share, List.mem_append_left _ hGrantLock, rfl⟩
  · exact ⟨.share, List.mem_append_left _ hKeyLock, rfl⟩
  · rcases hRows.1 with ⟨grant, hGrant, hActive⟩
    rw [view_row_of_locked hGrantLock, overlay_row_of_none (hHeld _)] at hGrant
    exact ⟨grant, hGrant, hActive⟩
  · rcases hRows.2 with ⟨key, hKey, hValid⟩
    rw [view_row_of_locked hKeyLock, overlay_row_of_none (hHeld _)] at hKey
    exact ⟨key, hKey, hValid⟩

include hCommand hRun in
theorem GatewayLocal.finished (hSafe : GatewaySafe committed) (hLocal : GatewayLocal committed tx)
    (hSnapshot : tx.snapshot = some snapshot) :
    GatewayLocal committed (tx.after hRun) := by
  have hNext := successor_of_run hCommand hRun
  refine ⟨hLocal.toHeld.finished hCommand hRun, ?_, ?_, ?_, ?_, ?_, ?_⟩
  · intro id grant hRow hState
    rcases overlay_cases hRow with hWritten | ⟨_, hRow⟩
    · exact hLocal.grant_written hCommand hRun hSafe hWritten hState
    · rcases hLocal.grants hRow hState with hPending | hSwept
      · rcases pendingGateway_next hNext hPending with hStill | ⟨rest, environmentId, hLocals⟩
        · exact .inl hStill
        · right
          have hSeen := hLocal.grantScan hSnapshot hLocals
          have hClosed : Closed tx .gatewaySessions (activeUnderGrant id) :=
            hLocal.closed (by rw [hLocals]; rfl) (fun _ hOpen => hOpen.2)
          rw [hLocals] at hCommand
          exact swept_of_update (Command.execute.inj hCommand).symm (fun _ _ => decide_eq_true)
            (terminate_closes fun _ hOpen => hOpen.2) hSeen hClosed hRun
      · exact .inr (swept_after hCommand hRun (fun _ hOpen => hOpen.2) hSwept)
  · intro id key hRow
    rcases overlay_cases hRow with hWritten | ⟨_, hRow⟩
    · exact .inl (key_changes hCommand hRun hWritten)
    · rcases hLocal.keys hRow with hPending | hSwept
      · right
        have hLocals := pendingKey_eq hPending
        have hSeen := hLocal.keyScan hSnapshot hLocals
        have hClosed : Closed tx .gatewaySessions (activeUnderKey id) :=
          hLocal.closed (by rw [hLocals]; rfl) (fun _ hOpen => hOpen.2)
        rw [hLocals] at hCommand
        exact swept_of_update (Command.execute.inj hCommand).symm (fun _ _ => decide_eq_true)
          (terminate_closes fun _ hOpen => hOpen.2) hSeen hClosed hRun
      · exact .inr (swept_after hCommand hRun (fun _ hOpen => hOpen.2) hSwept)
  · intro id session hRow hActive
    rcases overlay_cases hRow with hWritten | ⟨_, hRow⟩
    · have hChange := gateway_changes hCommand hRun hWritten
      generalize hLocals : tx.locals = l at hChange
      cases hChange with
      | terminated hState =>
        rw [hState] at hActive
        cases hActive
      | inserted _ hSession =>
        rw [hSession]
        refine ⟨?_, rfl⟩
        have hAnchored := hLocal.candidate hLocals
        refine hAnchored.finished hCommand hRun ?_ ?_ <;>
          simp [hLocals, AccessLocals.writes]
    · rcases hLocal.sessions hRow hActive with ⟨hAnchored, hInserted⟩
      cases hLocals : tx.locals with
      | consumeAuthorization call =>
        rw [hLocals] at hNext
        cases hNext
        refine ⟨?_, rfl⟩
        refine hAnchored.finished hCommand hRun ?_ ?_ <;>
          simp [hLocals, AccessLocals.writes]
      | finished revision =>
        rw [hLocals] at hNext
        cases hNext
      | _ =>
        rw [hLocals] at hInserted
        cases hInserted
  · intro call authorization candidate hLocals
    change l' = _ at hLocals
    subst hLocals
    have hBefore := clean_next hNext rfl
    have hFrom := insertGatewaySession_of_next hCommand hRun
    refine anchored_of_candidate (hLocal.clean hBefore.1) hFrom.2.1 hFrom.2.2 _ ?_
    intro k
    apply row_of_other_table hCommand hRun
    rw [hBefore.2]
    exact (Option.some_ne_none _).symm
  · rintro snapshot' id rest environmentId ⟨⟩
  · rintro snapshot' id ⟨⟩

end

-- Snapshots

section

variable {committed : AccessStore} {tx : AccessTransaction}

theorem Anchored.started {grantId : AccessGrantId} {keyId : SshPublicKeyId}
    (hAnchored : Anchored committed tx grantId keyId) :
    Anchored committed (tx.started committed) grantId keyId :=
  ⟨hAnchored.grantLocked, hAnchored.keyLocked, hAnchored.grantKept, hAnchored.keyKept,
    hAnchored.grantActive, hAnchored.keyValid⟩

theorem GatewayLocal.started (hLocal : GatewayLocal committed tx) :
    GatewayLocal committed (tx.started committed) := by
  refine ⟨hLocal.toHeld.started, hLocal.grants, hLocal.keys, ?_, ?_, ?_, ?_⟩
  · intro id session hRow hActive
    rcases hLocal.sessions hRow hActive with ⟨hAnchored, hInserted⟩
    exact ⟨hAnchored.started, hInserted⟩
  · intro call authorization candidate hLocals
    exact (hLocal.candidate hLocals).started
  · intro snapshot id rest environmentId hSnapshot hLocals
    cases hSnapshot
    change tx.locals = _ at hLocals
    exact seen_of_start (hLocal.closed (by rw [hLocals]; rfl) (fun _ hOpen => hOpen.2))
  · intro snapshot id hSnapshot hLocals
    cases hSnapshot
    change tx.locals = _ at hLocals
    exact seen_of_start (hLocal.closed (by rw [hLocals]; rfl) (fun _ hOpen => hOpen.2))

theorem GatewayLocal.begin {l : AccessLocals} (hEntry : accessEntry l = true) :
    GatewayLocal committed (.fresh l) := by
  refine ⟨Held.begin hEntry, ?_, ?_, ?_, ?_, ?_, ?_⟩
  · rintro id grant ⟨⟩
  · rintro id key ⟨⟩
  · rintro id session ⟨⟩
  · intro call authorization candidate hLocals
    change l = _ at hLocals
    subst hLocals
    cases hEntry
  · rintro snapshot id rest environmentId ⟨⟩
  · rintro snapshot id ⟨⟩

end

-- Commits

theorem GatewayLocal.publish {committed : AccessStore} {tx : AccessTransaction}
    (hSafe : GatewaySafe committed) (hLocal : GatewayLocal committed tx)
    (hCommand : accessCommand tx.locals = .commit) : GatewaySafe (tx.writes.overlay committed) := by
  rcases command_eq_commit hCommand with ⟨revision, hLocals⟩
  intro id session hRow hActive
  rcases overlay_cases hRow with hOwn | ⟨hOwn, hRow⟩
  · have hAnchored := (hLocal.sessions hOwn hActive).1
    constructor
    · unfold GrantActive
      rw [overlay_row_of_none hAnchored.grantKept]
      exact hAnchored.grantActive
    · unfold KeyValid
      rw [overlay_row_of_none hAnchored.keyKept]
      exact hAnchored.keyValid
  · have hBefore := hSafe id session hRow hActive
    constructor
    · cases hGrant : tx.writes.row ⟨.grants, session.grantId⟩ with
      | none =>
        unfold GrantActive
        rw [overlay_row_of_none hGrant]
        exact hBefore.1
      | some grant =>
        refine ⟨grant, overlay_row_of_some hGrant, ?_⟩
        by_contra hState
        rcases hLocal.grants hGrant hState with hPending | hSwept
        · rw [hLocals] at hPending
          cases hPending
        · rcases hSwept id session hRow ⟨rfl, hActive⟩ with ⟨_, hSome, _⟩
          cases hOwn.symm.trans hSome
    · cases hKey : tx.writes.row ⟨.sshKeys, session.keyId⟩ with
      | none =>
        unfold KeyValid
        rw [overlay_row_of_none hKey]
        exact hBefore.2
      | some key =>
        rcases hLocal.keys hKey with hPending | hSwept
        · rw [hLocals] at hPending
          cases hPending
        · rcases hSwept id session hRow ⟨rfl, hActive⟩ with ⟨_, hSome, _⟩
          cases hOwn.symm.trans hSome

-- Runs

theorem gateway_maintains (ok : AccessSystem → ReadCommitted.Action AccessLocals → Prop) :
    accessProtocol.Maintains ok GatewaySafe GatewayLocal (fun _ _ => True) where
  begin := fun _ _ => GatewayLocal.begin
  start := by
    intro s i tx statement hSound _ hRunning _ _
    exact (hSound.each hRunning).started
  finish := by
    intro committed tx statement snapshot l written hSafe hLocal hCommand hSnapshot hRun
    exact hLocal.finished hCommand hRun hSafe hSnapshot
  publish := GatewayLocal.publish
  stable := by
    intro committed tx other _ hCommitter hLocal _ hCompatible _
    exact .stable hCompatible hCommitter hLocal

/- No gateway session outlives its grant or its key, however the statements of any number of
  transactions are interleaved. -/
theorem gateway_sessions_safe {s : AccessSystem}
    (hReach : (accessDatabase GatewaySafe).Reachable s) :
    GatewaySafe s.committed :=
  ((gateway_maintains _).run (fun _ hSafe => hSafe) hReach).store

open AccessSample

/- A revocation that waits for a session to be created sees it and terminates it. -/
theorem gateway_sessions_safe_sample : ∃ s, (accessDatabase GatewaySafe).Reachable s ∧
    grantState s = some .revoked ∧ gatewayState s = some .terminating ∧
    GatewaySafe s.committed := by
  have hInitial : GatewaySafe store := by
    rintro id session ⟨⟩
  have hFound : ∃ s, (accessDatabase GatewaySafe).Reachable s ∧
      grantState s = some .revoked ∧ gatewayState s = some .terminating :=
    Machine.exists_reachable (.begin (.createGatewaySession gatewayCall) ::
      statements 0 2 ++ .begin (.revokeAccessGrant revokeCall) ::
      statements 1 1 ++ .start 1 :: statements 0 2 ++
      .commit 0 :: .finish 1 :: statements 1 2 ++ [.commit 1])
      (s := start) ⟨hInitial, rfl⟩ (by decide)
  rcases hFound with ⟨s, hReach, hGrant, hSession⟩
  exact ⟨s, hReach, hGrant, hSession, gateway_sessions_safe hReach⟩

end LabWeaver
