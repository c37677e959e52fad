import LabWeaver.Access.Effects

/-
  This file is about console sessions and the end of their grants. A capability is consumed under
  a grant that is read without a lock, so a session can be opened under a grant that has ended in
  the meantime. This is the only way: a console session does not outlive its grant if nobody ends
  the sessions of a grant while one is being opened.

  Main declarations: `console_sessions_safe`, `console_outlives_grant`.
-/

namespace LabWeaver

open ReadCommitted Store Transaction

-- Safe Stores

def AccessGrantState.ended : AccessGrantState → Bool
| .revoked | .expired => true
| .requested | .active | .denied => false

def NotEnded (store : AccessStore) (id : AccessGrantId) : Prop :=
  ∀ grant : AccessGrantRow, store.row ⟨.grants, id⟩ = some grant → grant.state.ended = false

/- No console session that is opening or active belongs to a grant that is revoked or expired. -/
def ConsoleSafe (store : AccessStore) : Prop :=
  ∀ id (session : ConsoleSessionRow), store.row ⟨.consoleSessions, id⟩ = some session →
    session.state.live = true → NotEnded store session.accessGrantId

def liveUnderGrant (grantId : AccessGrantId) (session : ConsoleSessionRow) : Prop :=
  session.accessGrantId = grantId ∧ session.state.live = true

-- Opening And Sweeping

variable (tx : AccessTransaction) (grantId : AccessGrantId)

/- The transaction has read a capability of the grant in order to open a console session, or has
  opened it. -/
def Opening : Prop :=
  (∃ call snapshot found, tx.locals = .selectCapability call ∧ tx.snapshot = some snapshot ∧
    found ∈ findCapability call snapshot ∧ found.2.1.accessGrantId = grantId) ∨
  (∃ call id capability, tx.locals = .insertConsoleSession call id capability ∧
    capability.accessGrantId = grantId) ∨
  ∃ id, ∃ session : ConsoleSessionRow, tx.writes.row ⟨.consoleSessions, id⟩ = some session ∧
    session.state = .opening ∧ session.accessGrantId = grantId

/- The transaction ends the grant and has already looked for its console sessions. -/
def Sweeping : Prop :=
  (tx.snapshot ≠ none ∧ ∃ rest environmentId, tx.locals = .terminateConsoleSessions grantId rest
    environmentId) ∨
  (grantId ∉ tx.locals.pendingConsole ∧ ∃ grant : AccessGrantRow,
    tx.writes.row ⟨.grants, grantId⟩ = some grant ∧ grant.state.ended = true)

variable (s : AccessSystem)

/- A capability is only read while nobody sweeps the sessions of its grant, and these are only
  looked for while nobody opens one. -/
def ConsolesApart : ReadCommitted.Action AccessLocals → Prop
| .start i =>
  ∀ tx, s.running i = some tx → (∀ call, tx.locals = .selectCapability call → ∀ found ∈
    findCapability call (tx.writes.overlay s.committed),
    ∀ j other, j ≠ i → s.running j = some other → ¬Sweeping other found.2.1.accessGrantId) ∧
    ∀ grantId rest environmentId, tx.locals = .terminateConsoleSessions grantId rest environmentId →
      ∀ j other, j ≠ i → s.running j = some other → ¬Opening other grantId
| _ => True

/- Nobody opens a session while the other one sweeps. -/
def Apart (tx other : AccessTransaction) : Prop :=
  ∀ grantId, ¬(Opening tx grantId ∧ Sweeping other grantId) ∧
    ¬(Opening other grantId ∧ Sweeping tx grantId)

/- The console session of the transaction is written. -/
def AccessLocals.opened : AccessLocals → Bool
| .markCapability _ _ | .finished _ => true
| _ => false

/- What holds of a transaction at its place. -/
structure ConsoleLocal (committed : AccessStore)
    (tx : AccessTransaction) : Prop extends Held tx where
  capabilities : ∀ {id} {capability : ConsoleCapabilityRow},
    tx.writes.row ⟨.capabilities, id⟩ = some capability →
    ∃ old : ConsoleCapabilityRow, committed.row ⟨.capabilities, id⟩ = some old ∧
      capability.accessGrantId = old.accessGrantId
  reading : ∀ {call snapshot found}, tx.locals = .selectCapability call →
    tx.snapshot = some snapshot → found ∈ findCapability call snapshot →
    (found.2.2.1.state = .active → NotEnded committed found.2.1.accessGrantId) ∧
    ∃ capability : ConsoleCapabilityRow, committed.row ⟨.capabilities, found.1⟩ = some capability ∧
      capability.accessGrantId = found.2.1.accessGrantId
  candidate : ∀ {call id capability}, tx.locals = .insertConsoleSession call id capability →
    NotEnded committed capability.accessGrantId ∧ tx.locks.Protects ⟨.capabilities, id⟩ ∧
    committed.row ⟨.capabilities, id⟩ = some capability
  sessions : ∀ {id} {session : ConsoleSessionRow},
    tx.writes.row ⟨.consoleSessions, id⟩ = some session → session.state.live = true →
    tx.locals.opened = true ∧ tx.writes.row ⟨.grants, session.accessGrantId⟩ = none ∧
    NotEnded committed session.accessGrantId ∧
    (session.state = .opening ∨ ∃ old : ConsoleSessionRow,
      committed.row ⟨.consoleSessions, id⟩ = some old ∧ liveUnderGrant session.accessGrantId old)
  grants : ∀ {id} {grant : AccessGrantRow}, tx.writes.row ⟨.grants, id⟩ = some grant →
    grant.state.ended = true →
    id ∈ tx.locals.pendingConsole ∨ Swept committed tx .consoleSessions (liveUnderGrant id)
  scan : ∀ {snapshot id rest environmentId}, tx.snapshot = some snapshot → tx.locals =
    .terminateConsoleSessions id rest environmentId →
    Seen committed tx snapshot .consoleSessions (liveUnderGrant id)

-- Commits Of Others

section

variable {committed : AccessStore} {tx committer : AccessTransaction} {revision : Option Revision}
  {id : AccessGrantId}

theorem NotEnded.stable (hNotEnded : NotEnded committed id)
    (hLocals : committer.locals = .finished revision) (hApart : Apart committer tx)
    (hOpening : Opening tx id) : NotEnded (committer.writes.overlay committed) id := by
  intro grant hRow
  rcases overlay_cases hRow with hWritten | ⟨_, hRow⟩
  · by_contra hState
    have hEnded := eq_true_of_ne_false hState
    -- a finished transaction that ends a grant has swept it
    have hSwept : id ∉ committer.locals.pendingConsole := by
      rw [hLocals]
      exact List.not_mem_nil
    exact (hApart id).2 ⟨hOpening, .inr ⟨hSwept, grant, hWritten, hEnded⟩⟩
  · exact hNotEnded grant hRow

/- Nobody opens a session under a grant that is swept. -/
theorem ConsoleLocal.opensNone (hCommitter : ConsoleLocal committed committer)
    (hApart : Apart committer tx) (hSweeping : Sweeping tx id) :
    OpensNone committed committer .consoleSessions (liveUnderGrant id) := by
  rintro sessionId session hRow ⟨hGrant, hLive⟩
  rcases (hCommitter.sessions hRow hLive).2.2.2 with hOpening | hOld
  · have hOpens : Opening committer id := .inr (.inr ⟨sessionId, session, hRow, hOpening, hGrant⟩)
    exact absurd ⟨hOpens, hSweeping⟩ (hApart id).1
  · rwa [hGrant] at hOld

theorem ConsoleLocal.connected_stable {id : ConsoleSessionId} {grantId : AccessGrantId}
    {old : ConsoleSessionRow} (hCommitter : ConsoleLocal committed committer)
    (hLocals : committer.locals = .finished revision)
    (hCompatible : committer.locks.Compatible tx.locks)
    (hWrites : tx.locks.Writes ⟨.consoleSessions, id⟩)
    (hOld : committed.row ⟨.consoleSessions, id⟩ = some old) (hLive : liveUnderGrant grantId old)
    (hNotEnded : NotEnded committed grantId) :
    NotEnded (committer.writes.overlay committed) grantId := by
  intro grant hRow
  rcases overlay_cases hRow with hWritten | ⟨_, hRow⟩
  · by_contra hState
    have hEnded := eq_true_of_ne_false hState
    rcases hCommitter.grants hWritten hEnded with hPending | hSwept
    · rw [hLocals] at hPending
      cases hPending
    · -- both would have written the session
      rcases hSwept id old hOld hLive with ⟨_, hBoth, _⟩
      have hUntouched := untouched hCompatible.symm hWrites.protects
      cases hUntouched.symm.trans hBoth
  · exact hNotEnded grant hRow

theorem ConsoleLocal.stable (hCommitter : ConsoleLocal committed committer)
    (hLocal : ConsoleLocal committed tx) (hApart : Apart committer tx)
    (hCompatible : committer.locks.Compatible tx.locks)
    (hLocals : committer.locals = .finished revision) :
    ConsoleLocal (committer.writes.overlay committed) tx := by
  refine ⟨hLocal.toHeld, ?_, ?_, ?_, ?_, ?_, ?_⟩
  · intro id capability hRow
    have hWrites := tx.covered ⟨.capabilities, id⟩ (by simp [hRow])
    rw [overlay_row_of_protects hCompatible hWrites.protects]
    exact hLocal.capabilities hRow
  · intro call snapshot found hPlace hSnapshot hFound
    rcases hLocal.reading hPlace hSnapshot hFound with ⟨hNotEnded, capability, hCapability, hGrant⟩
    constructor
    · intro hActive
      refine (hNotEnded hActive).stable hLocals hApart ?_
      exact .inl ⟨call, snapshot, found, hPlace, hSnapshot, hFound, rfl⟩
    · cases hWritten : committer.writes.row ⟨.capabilities, found.1⟩ with
      | none =>
        rw [overlay_row_of_none hWritten]
        exact ⟨capability, hCapability, hGrant⟩
      | some capability' =>
        rw [overlay_row_of_some hWritten]
        rcases hCommitter.capabilities hWritten with ⟨old, hOld, hSame⟩
        cases hCapability.symm.trans hOld
        exact ⟨capability', rfl, hSame.trans hGrant⟩
  · intro call id capability hPlace
    rcases hLocal.candidate hPlace with ⟨hNotEnded, hProtects, hCapability⟩
    refine ⟨hNotEnded.stable hLocals hApart ?_, hProtects, ?_⟩
    · exact .inr (.inl ⟨call, id, capability, hPlace, rfl⟩)
    · rwa [overlay_row_of_protects hCompatible hProtects]
  · intro id session hRow hLive
    rcases hLocal.sessions hRow hLive with ⟨hOpened, hKept, hNotEnded, hOrigin⟩
    have hWrites := tx.covered ⟨.consoleSessions, id⟩ (by simp [hRow])
    rcases hOrigin with hOpening | ⟨old, hOld, hOldLive⟩
    · refine ⟨hOpened, hKept, ?_, .inl hOpening⟩
      refine hNotEnded.stable hLocals hApart ?_
      exact .inr (.inr ⟨id, session, hRow, hOpening, rfl⟩)
    · refine ⟨hOpened, hKept, ?_, .inr ⟨old, ?_, hOldLive⟩⟩
      · exact hCommitter.connected_stable hLocals hCompatible hWrites hOld hOldLive hNotEnded
      · rwa [overlay_row_of_protects hCompatible hWrites.protects]
  · intro id grant hRow hEnded
    by_cases hPending : id ∈ tx.locals.pendingConsole
    · exact .inl hPending
    · right
      have hSwept := (hLocal.grants hRow hEnded).resolve_left hPending
      apply hSwept.stable
      exact hCommitter.opensNone hApart (.inr ⟨hPending, grant, hRow, hEnded⟩)
  · intro snapshot id rest environmentId hSnapshot hPlace
    apply (hLocal.scan hSnapshot hPlace).stable
    refine hCommitter.opensNone hApart (.inl ⟨?_, rest, environmentId, hPlace⟩)
    rw [hSnapshot]
    exact Option.some_ne_none snapshot

end

-- Statements Of The Transaction

section

variable {l' : AccessLocals} {statement : AccessStep} {committed snapshot written : AccessStore}
  {tx : AccessTransaction} (hCommand : accessCommand tx.locals = .execute statement)
  (hRun : tx.Runs statement committed snapshot l' written) {call : ConsumeCall}
  {capability : ConsoleCapabilityRow} {id : ConsoleCapabilityId} {grant : AccessGrantRow}

theorem mem_findCapability {store : AccessStore} {session : BffSessionRow}
    (hFound : (id, capability, grant, session) ∈ findCapability call store) :
    store.row ⟨.capabilities, id⟩ = some capability ∧
    store.row ⟨.grants, capability.accessGrantId⟩ = some grant := by
  rcases mem_rows.mp hFound with ⟨id', capability', hRow, hJoin⟩
  split at hJoin
  · split at hJoin
    · rename_i hGrant _
      cases hJoin
      exact ⟨hRow, hGrant⟩
    · cases hJoin
  · cases hJoin

/- Only capabilities are locked while they are selected. -/
theorem selectCapability_scan {lock : AccessKey × LockMode}
    (hLock : lock ∈ (selectCapability call).scan snapshot) :
    ∃ found ∈ findCapability call snapshot, lock = (⟨.capabilities, found.1⟩, .update) := by
  rcases List.mem_map.mp hLock with ⟨found, hFound, hSame⟩
  exact ⟨found, hFound, hSame.symm⟩

/- The capability that is about to be consumed was found in the snapshot with the same grant, which
  was active. -/
theorem ConsoleLocal.candidate_found (hLocal : ConsoleLocal committed tx)
    (hSnapshot : tx.snapshot = some snapshot)
    (hCommand : accessCommand tx.locals = .execute statement)
    (hRun : tx.Runs statement committed snapshot (.insertConsoleSession call id capability)
      written) :
    tx.locals = .selectCapability call ∧ (⟨.capabilities, id⟩, .update) ∈ statement.scan snapshot ∧
    committed.row ⟨.capabilities, id⟩ = some capability ∧
    ∃ found ∈ findCapability call snapshot, found.2.1.accessGrantId = capability.accessGrantId ∧
      found.2.2.1.state = .active := by
  rcases insertConsoleSession_of_next hCommand hRun with
    ⟨hPlace, hLock, grant, session, hMember, hChecks⟩
  have hClean := hLocal.clean (by rw [hPlace]; rfl)
  rcases mem_findCapability hMember with ⟨hCapability, hGrant⟩
  -- the capability is locked, so it is the committed one
  rw [view_row_of_locked hLock, overlay_row_of_none (hClean _)] at hCapability
  refine ⟨hPlace, hLock, hCapability, ?_⟩
  rw [hPlace] at hCommand
  cases hCommand
  rcases selectCapability_scan hLock with ⟨⟨id', capability', grant', session'⟩, hFound, ⟨⟩⟩
  rcases (hLocal.reading hPlace hSnapshot hFound).2 with ⟨current, hCurrent, hSameGrant⟩
  cases hCapability.symm.trans hCurrent
  refine ⟨_, hFound, hSameGrant.symm, ?_⟩
  -- its grant is not locked, so it is that of the snapshot
  have hNotLocked : (⟨.grants, capability.accessGrantId⟩ : AccessKey) ∉
      ((selectCapability call).scan snapshot).map Prod.fst := by
    intro hKey
    rcases List.mem_map.mp hKey with ⟨lock, hLock', hFirst⟩
    rcases selectCapability_scan hLock' with ⟨other, _, hOther⟩
    rw [hOther] at hFirst
    cases hFirst
  rw [view_row_of_not_locked hNotLocked] at hGrant
  have hGrant' := (mem_findCapability hFound).2
  simp only at hSameGrant
  rw [← hSameGrant, hGrant] at hGrant'
  cases hGrant'
  exact hChecks.active

variable {session : ConsoleSessionRow} {id : AccessGrantId}

/- Whoever terminates sessions has not opened one. -/
theorem ConsoleLocal.closed (hLocal : ConsoleLocal committed tx)
    (hOpened : tx.locals.opened = false) : Closed tx .consoleSessions (liveUnderGrant id) := by
  rintro sessionId session hRow ⟨_, hLive⟩
  cases hOpened.symm.trans ((hLocal.sessions hRow hLive).1)

theorem terminate_not_live : ∀ session session',
    ConsoleSessionRow.terminate session = some session' → ¬liveUnderGrant id session' := by
  rintro session session' hTerminate ⟨_, hLive⟩
  rw [(ConsoleSessionRow.terminate_eq_some hTerminate).1] at hLive
  cases hLive

theorem grant_ended_pending {l l' : AccessLocals} {statement : AccessStep}
    {view written : AccessStore} {locks : Locks AccessKey}
    (hCommand : accessCommand l = .execute statement)
    (hRun : statement.run view locks = some (l', written))
    (hRow : written.row ⟨.grants, id⟩ = some grant) (hEnded : grant.state.ended = true) :
    id ∈ l'.pendingConsole := by
  cases grant_changes hCommand hRun hRow with
  | ended _ _ _ _ _ hConsole => exact hConsole
  | created _ hState | renewed _ _ hState | activated _ _ _ hState | denied _ _ hState _ _ =>
    rw [hState] at hEnded
    cases hEnded

include hCommand hRun in
/- The session that is inserted is of the capability that was checked. -/
theorem ConsoleLocal.opening_written {id : ConsoleSessionId} (hLocal : ConsoleLocal committed tx)
    (hWritten : written.row ⟨.consoleSessions, id⟩ = some session)
    (hState : session.state = .opening) :
    ∃ call capabilityId capability, session.accessGrantId = capability.accessGrantId ∧
      tx.locals = .insertConsoleSession call capabilityId capability := by
  have hClean := hLocal.clean
  have hCandidate := @hLocal.candidate
  generalize tx.locals = l at hCommand hClean hCandidate
  cases console_changes hCommand hRun hWritten with
  | @opened call capabilityId capability stored _ hStored hRow =>
    have hLock : (⟨.capabilities, capabilityId⟩, .keyShare) ∈ statement.scan snapshot := by
      cases hCommand
      simp [insertConsoleSession, Statement.insert]
    rw [view_row_of_locked hLock, overlay_row_of_none (hClean rfl _),
      (hCandidate rfl).2.2] at hStored
    cases hStored
    subst hRow
    exact ⟨call, capabilityId, capability, rfl, rfl⟩
  | connected _ _ hOther _ | terminated hOther =>
    cases hOther.symm.trans hState

include hCommand hRun in
/- A live session that the statement itself writes. -/
theorem ConsoleLocal.session_written {id : ConsoleSessionId} (hSafe : ConsoleSafe committed)
    (hLocal : ConsoleLocal committed tx)
    (hWritten : written.row ⟨.consoleSessions, id⟩ = some session)
    (hLive : session.state.live = true) :
    l'.opened = true ∧ tx.locals.clean = true ∧ NotEnded committed session.accessGrantId ∧
    (session.state = .opening ∨ ∃ old : ConsoleSessionRow,
      committed.row ⟨.consoleSessions, id⟩ = some old ∧
      liveUnderGrant session.accessGrantId old) := by
  have hNext := successor_of_run hCommand hRun
  have hWrites := hRun.writes hWritten
  have hClean := hLocal.clean
  have hChange := console_changes hCommand hRun hWritten
  generalize hLocals : tx.locals = l at hNext hClean hChange
  cases hChange with
  | opened _ _ hRow =>
    have hState : session.state = .opening := by
      rw [hRow]
      rfl
    rcases hLocal.opening_written hCommand hRun hWritten hState with ⟨_, _, _, hGrant, hPlace⟩
    rw [hGrant]
    cases hNext
    exact ⟨rfl, rfl, (hLocal.candidate hPlace).1, .inl hState⟩
  | @connected sessionId _ old hOld hOpening hState hGrant =>
    cases hNext
    rw [view_row_of_writes hWrites, overlay_row_of_none (hClean rfl _)] at hOld
    have hOldLive : old.state.live = true := by
      rw [hOpening]
      rfl
    refine ⟨rfl, rfl, ?_, .inr ⟨old, hOld, ?_⟩⟩
    · rw [hGrant]
      exact hSafe id old hOld hOldLive
    · exact ⟨hGrant.symm, hOldLive⟩
  | terminated hState =>
    rw [hState] at hLive
    cases hLive

include hCommand hRun in
theorem ConsoleLocal.finished (hSafe : ConsoleSafe committed) (hLocal : ConsoleLocal committed tx)
    (hSnapshot : tx.snapshot = some snapshot) :
    ConsoleLocal committed (tx.after hRun) := by
  have hNext := successor_of_run hCommand hRun
  refine ⟨hLocal.toHeld.finished hCommand hRun, ?_, ?_, ?_, ?_, ?_, ?_⟩
  · intro id capability hRow
    rcases overlay_cases hRow with hWritten | ⟨_, hRow⟩
    · rcases capability_changes hCommand hRun hWritten with ⟨old, hOld, hSame⟩
      rcases hRun.own_or_committed hWritten hOld with hOwn | hCommitted
      · rcases hLocal.capabilities hOwn with ⟨first, hFirst, hSameFirst⟩
        exact ⟨first, hFirst, hSame.trans hSameFirst⟩
      · exact ⟨old, hCommitted, hSame⟩
    · exact hLocal.capabilities hRow
  · rintro call snapshot' found _ ⟨⟩
  · intro call id capability hPlace
    change l' = _ at hPlace
    subst hPlace
    rcases hLocal.candidate_found hSnapshot hCommand hRun with
      ⟨hPlace, hLock, hCapability, found, hFound, hSame, hActive⟩
    have hReading := hLocal.reading hPlace hSnapshot hFound
    refine ⟨?_, ?_, hCapability⟩
    · rw [← hSame]
      exact hReading.1 hActive
    · exact ⟨.update, List.mem_append_left _ hLock, rfl⟩
  · intro id session hRow hLive
    rcases overlay_cases hRow with hWritten | ⟨_, hRow⟩
    · rcases hLocal.session_written hCommand hRun hSafe hWritten hLive with
        ⟨hOpened, hClean, hNotEnded, hOrigin⟩
      refine ⟨hOpened, ?_, hNotEnded, hOrigin⟩
      apply unwritten_of_other_table hCommand (hLocal.clean hClean _)
      rw [table_of_row hCommand hRun hWritten]
      decide
    · rcases hLocal.sessions hRow hLive with ⟨hOpened, hKept, hNotEnded, hOrigin⟩
      cases hLocals : tx.locals with
      | markCapability call capabilityId =>
        rw [hLocals] at hNext
        cases hNext
        refine ⟨rfl, ?_, hNotEnded, hOrigin⟩
        apply unwritten_of_other_table hCommand hKept
        simp [hLocals, AccessLocals.writes]
      | finished revision =>
        rw [hLocals] at hNext
        cases hNext
      | _ =>
        rw [hLocals] at hOpened
        cases hOpened
  · intro id grant hRow hEnded
    rcases overlay_cases hRow with hWritten | ⟨_, hRow⟩
    · exact .inl (grant_ended_pending hCommand hRun hWritten hEnded)
    · have hDirty : tx.locals.clean = false := by
        by_contra hClean
        cases hRow.symm.trans (hLocal.clean (eq_true_of_ne_false hClean) ⟨.grants, id⟩)
      rcases hLocal.grants hRow hEnded with hPending | hSwept
      · rcases pendingConsole_next hNext hPending with hStill | ⟨rest, environmentId, hPlace⟩
        · exact .inl hStill
        · right
          have hSeen := hLocal.scan hSnapshot hPlace
          have hClosed : Closed tx .consoleSessions (liveUnderGrant id) :=
            hLocal.closed (by rw [hPlace]; rfl)
          rw [hPlace] at hCommand
          exact swept_of_update (Command.execute.inj hCommand).symm (fun _ _ => decide_eq_true)
            terminate_not_live hSeen hClosed hRun
      · right
        refine hSwept.finished ?_ _
        rintro sessionId session _ hNew _ ⟨_, hLive⟩
        -- a statement that ends a grant opens no session
        have hChange := console_changes hCommand hRun hNew
        generalize tx.locals = l at hChange hDirty
        cases hChange with
        | opened | connected => cases hDirty
        | terminated hState =>
          rw [hState] at hLive
          cases hLive
  · rintro snapshot' id rest environmentId ⟨⟩

-- Opening And Sweeping Along A Statement

include hCommand hRun in
theorem ConsoleLocal.opening_before (hLocal : ConsoleLocal committed tx)
    (hSnapshot : tx.snapshot = some snapshot)
    (hOpening : Opening (tx.after hRun) id) : Opening tx id := by
  rcases hOpening with ⟨call, snapshot', found, _, hNone, _, _⟩ |
    ⟨call, capabilityId, capability, hPlace, hGrant⟩ |
    ⟨sessionId, session, hRow, hState, hGrant⟩
  · cases hNone
  · change l' = _ at hPlace
    subst hPlace
    rcases hLocal.candidate_found hSnapshot hCommand hRun with
      ⟨hPlace, _, _, found, hFound, hSame, _⟩
    exact .inl ⟨call, snapshot, found, hPlace, hSnapshot, hFound, hSame.trans hGrant⟩
  · rcases overlay_cases hRow with hWritten | ⟨_, hRow⟩
    · rcases hLocal.opening_written hCommand hRun hWritten hState with
        ⟨call, capabilityId, capability, hSame, hPlace⟩
      exact .inr (.inl ⟨call, capabilityId, capability, hPlace, hSame.symm.trans hGrant⟩)
    · exact .inr (.inr ⟨sessionId, session, hRow, hState, hGrant⟩)

include hCommand hRun in
/- Who has swept a grant was sweeping it before. -/
theorem sweeping_before (hSnapshot : tx.snapshot = some snapshot)
    (hSweeping : Sweeping (tx.after hRun) id) : Sweeping tx id := by
  rcases hSweeping with ⟨hNone, _⟩ | ⟨hDone, grant, hRow, hEnded⟩
  · exact absurd rfl hNone
  · change id ∉ l'.pendingConsole at hDone
    rcases overlay_cases hRow with hWritten | ⟨_, hRow⟩
    · exact absurd (grant_ended_pending hCommand hRun hWritten hEnded) hDone
    · by_cases hPending : id ∈ tx.locals.pendingConsole
      · have hNext := successor_of_run hCommand hRun
        rcases pendingConsole_next hNext hPending with hStill | ⟨rest, environmentId, hPlace⟩
        · exact absurd hStill hDone
        · left
          refine ⟨?_, rest, environmentId, hPlace⟩
          rw [hSnapshot]
          exact Option.some_ne_none snapshot
      · exact .inr ⟨hPending, grant, hRow, hEnded⟩

end

-- Snapshots

section

variable {committed : AccessStore} {tx other : AccessTransaction}

theorem ConsoleLocal.begin {l : AccessLocals} (hEntry : accessEntry l = true) :
    ConsoleLocal committed (.fresh l) := by
  refine ⟨Held.begin hEntry, ?_, ?_, ?_, ?_, ?_, ?_⟩
  · rintro id capability ⟨⟩
  · rintro call snapshot found _ ⟨⟩
  · intro call id capability hPlace
    change l = _ at hPlace
    subst hPlace
    cases hEntry
  · rintro id session ⟨⟩
  · rintro id grant ⟨⟩
  · rintro snapshot id rest environmentId ⟨⟩

theorem ConsoleLocal.started (hLocal : ConsoleLocal committed tx) :
    ConsoleLocal committed (tx.started committed) := by
  refine ⟨hLocal.toHeld.started, hLocal.capabilities, ?_,
    hLocal.candidate, hLocal.sessions, hLocal.grants, ?_⟩
  · rintro call snapshot ⟨id, capability, grant, session⟩ hPlace hSnapshot hFound
    cases hSnapshot
    change tx.locals = _ at hPlace
    have hClean := hLocal.clean (by rw [hPlace]; rfl)
    rcases mem_findCapability hFound with ⟨hCapability, hGrant⟩
    rw [overlay_row_of_none (hClean _)] at hCapability hGrant
    refine ⟨?_, capability, hCapability, rfl⟩
    intro hActive grant' hGrant'
    simp only at hActive hGrant'
    cases hGrant.symm.trans hGrant'
    rw [hActive]
    rfl
  · intro snapshot id rest environmentId hSnapshot hPlace
    cases hSnapshot
    change tx.locals = _ at hPlace
    exact seen_of_start (hLocal.closed (by rw [hPlace]; rfl))

theorem Apart.symm (hApart : Apart tx other) : Apart other tx :=
  fun grantId => ⟨(hApart grantId).2, (hApart grantId).1⟩

theorem apart_begin {l : AccessLocals} (hEntry : accessEntry l = true) :
    Apart (.fresh l) other := by
  intro grantId
  constructor
  · rintro ⟨hOpening, _⟩
    rcases hOpening with ⟨_, _, _, _, hSnapshot, _⟩ |
      ⟨call, id, capability, hPlace, _⟩ | ⟨_, _, hRow, _⟩
    · cases hSnapshot
    · change l = _ at hPlace
      subst hPlace
      cases hEntry
    · cases hRow
  · rintro ⟨_, hSweeping⟩
    rcases hSweeping with ⟨hSnapshot, _⟩ | ⟨_, _, hRow, _⟩
    · exact hSnapshot rfl
    · cases hRow

/- The side condition keeps the two apart. -/
theorem Apart.started {s : AccessSystem} {i j : Nat} (hApart : Apart tx other)
    (hOk : ConsolesApart s (.start i)) (hRunning : s.running i = some tx) (hNe : i ≠ j)
    (hOther : s.running j = some other) : Apart (tx.started s.committed) other := by
  have hSide := hOk tx hRunning
  intro grantId
  constructor
  · rintro ⟨hOpening, hSweeping⟩
    rcases hOpening with ⟨call, snapshot, found, hPlace, hSnapshot, hFound,
        hGrant⟩ | hInsert | hWritten
    · cases hSnapshot
      rw [← hGrant] at hSweeping
      exact hSide.1 call hPlace found hFound j other (Ne.symm hNe) hOther hSweeping
    · exact (hApart grantId).1 ⟨.inr (.inl hInsert), hSweeping⟩
    · exact (hApart grantId).1 ⟨.inr (.inr hWritten), hSweeping⟩
  · rintro ⟨hOpening, hSweeping⟩
    rcases hSweeping with ⟨_, rest, environmentId, hPlace⟩ | hSwept
    · exact hSide.2 grantId rest environmentId hPlace j other (Ne.symm hNe) hOther hOpening
    · exact (hApart grantId).2 ⟨hOpening, .inr hSwept⟩

end

theorem ConsoleLocal.publish {committed : AccessStore} {tx : AccessTransaction}
    (hSafe : ConsoleSafe committed) (hLocal : ConsoleLocal committed tx)
    (hCommand : accessCommand tx.locals = .commit) : ConsoleSafe (tx.writes.overlay committed) := by
  rcases command_eq_commit hCommand with ⟨revision, hLocals⟩
  intro id session hRow hLive
  rcases overlay_cases hRow with hOwn | ⟨hOwn, hRow⟩
  · rcases hLocal.sessions hOwn hLive with ⟨_, hKept, hNotEnded, _⟩
    unfold NotEnded
    rwa [overlay_row_of_none hKept]
  · intro grant hGrant
    rcases overlay_cases hGrant with hWritten | ⟨_, hGrant⟩
    · by_contra hState
      have hEnded := eq_true_of_ne_false hState
      rcases hLocal.grants hWritten hEnded with hPending | hSwept
      · rw [hLocals] at hPending
        cases hPending
      · rcases hSwept id session hRow ⟨rfl, hLive⟩ with ⟨_, hSome, _⟩
        cases hOwn.symm.trans hSome
    · exact hSafe id session hRow hLive grant hGrant

-- Runs

theorem console_maintains : accessProtocol.Maintains ConsolesApart ConsoleSafe
    ConsoleLocal Apart where
  symm := Apart.symm
  begin := fun _ _ => ConsoleLocal.begin
  beginPair := apart_begin
  start := by
    intro s i tx statement hSound _ hRunning _ _
    exact (hSound.each hRunning).started
  startPair := by
    intro s i j tx other statement hSound hOk hRunning _ _ hNe hOther
    exact (hSound.pair hNe hRunning hOther).started hOk hRunning hNe hOther
  finish := by
    intro committed tx statement snapshot l written hSafe hLocal hCommand hSnapshot hRun
    exact hLocal.finished hCommand hRun hSafe hSnapshot
  finishPair := by
    intro committed tx other statement snapshot l written
      hLocal _ hApart hCommand hSnapshot hRun grantId
    constructor
    · rintro ⟨hOpening, hSweeping⟩
      have hBefore := hLocal.opening_before hCommand hRun hSnapshot hOpening
      exact (hApart grantId).1 ⟨hBefore, hSweeping⟩
    · rintro ⟨hOpening, hSweeping⟩
      have hBefore := sweeping_before hCommand hRun hSnapshot hSweeping
      exact (hApart grantId).2 ⟨hOpening, hBefore⟩
  publish := ConsoleLocal.publish
  stable := by
    intro committed tx other _ hCommitter hLocal hApart hCompatible hCommand
    rcases command_eq_commit hCommand with ⟨revision, hLocals⟩
    exact hCommitter.stable hLocal hApart hCompatible hLocals

/- No console session outlives its grant in the runs in which the two sides stay apart. -/
theorem console_sessions_safe {s : AccessSystem}
    (hRun : (accessDatabase ConsoleSafe).Run ConsolesApart s) : ConsoleSafe s.committed :=
  (console_maintains.run (fun _ hSafe => hSafe) hRun).store

/- Nobody else runs when a statement starts. -/
def startsAlone : ReadCommitted.Action AccessLocals → Bool
| .start i => (List.range s.transactions.length).all (fun j => j = i || (s.running j).isNone)
| _ => true

theorem apart_of_startsAlone (action : ReadCommitted.Action AccessLocals)
    (hAlone : startsAlone s action = true) : ConsolesApart s action := by
  cases action with
  | start i =>
    have hOthers : ∀ j other, j ≠ i → s.running j ≠ some other := by
      intro j other hNe hOther
      rcases System.running_eq_some.mp hOther with ⟨hGet, _⟩
      rcases List.getElem?_eq_some_iff.mp hGet with ⟨hBound, _⟩
      have hIdle := List.all_eq_true.mp hAlone j (List.mem_range.mpr hBound)
      rw [hOther] at hIdle
      simp [hNe] at hIdle
    intro tx _
    refine ⟨?_, ?_⟩ <;>
    · intro _ _ _ _ j other hNe hOther
      exact absurd hOther (hOthers j other hNe)
  | _ => trivial

open AccessSample

theorem console_sample_safe : ConsoleSafe store := by
  rintro id session ⟨⟩

/- A revocation after the console session has been opened terminates it. -/
theorem console_sessions_safe_sample : ∃ s, (accessDatabase ConsoleSafe).Run ConsolesApart s ∧
    grantState s = some .revoked ∧ consoleState s = some .terminating ∧
    ConsoleSafe s.committed := by
  have hFound : ∃ s, (accessDatabase ConsoleSafe).Run ConsolesApart s ∧
      grantState s = some .revoked ∧ consoleState s = some .terminating :=
    Machine.exists_run_of_guarded (.begin (.consumeCapability consumeCall) ::
      statements 0 5 ++ .commit 0 ::
      .begin (.revokeAccessGrant revokeCall) :: statements 1 4 ++
      [.commit 1]) (s := start) ⟨console_sample_safe, rfl⟩ apart_of_startsAlone
      (by decide)
  rcases hFound with ⟨s, hRun, hGrant, hConsole⟩
  exact ⟨s, hRun, hGrant, hConsole, console_sessions_safe hRun⟩

/- A revocation that commits between the reading of the capability and the INSERT of the session
  leaves a session under a revoked grant. -/
theorem console_outlives_grant : ∃ s, (accessDatabase ConsoleSafe).Reachable s ∧
    grantState s = some .revoked ∧ consoleState s = some .opening ∧ ¬ConsoleSafe s.committed := by
  have hFound : ∃ s, (accessDatabase ConsoleSafe).Reachable s ∧
      grantState s = some .revoked ∧ consoleState s = some .opening ∧
      (s.committed.row ⟨.consoleSessions, consoleSessionId⟩).any
        (fun (session : ConsoleSessionRow) => session.accessGrantId = grantId) :=
    Machine.exists_reachable (.begin (.consumeCapability consumeCall) ::
      statements 0 3 ++ .begin (.revokeAccessGrant revokeCall) ::
      statements 1 4 ++ .commit 1 :: statements 0 2 ++ [.commit 0])
      (s := start) ⟨console_sample_safe, rfl⟩ (by decide)
  rcases hFound with ⟨s, hReach, hGrant, hConsole, hBound⟩
  refine ⟨s, hReach, hGrant, hConsole, ?_⟩
  intro hSafe
  rcases Option.map_eq_some_iff.mp hGrant with ⟨grant, hGrantRow, hRevoked⟩
  rcases Option.map_eq_some_iff.mp hConsole with ⟨session, hSessionRow, hOpening⟩
  rw [hSessionRow] at hBound
  have hSame := of_decide_eq_true hBound
  have hNotEnded := hSafe _ session hSessionRow (by rw [hOpening]; rfl) grant
    (by rw [hSame]; exact hGrantRow)
  rw [hRevoked] at hNotEnded
  cases hNotEnded

end LabWeaver
