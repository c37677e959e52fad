import LabWeaver.Access.GatewayRun

/-
  This file puts the rows of all gateway sessions into one table and follows them through every
  statement that writes them, at times that do not go back. A transaction that finds its updated
  row invalid fails.

  Main declaration: `gateway_rows_sound`.
-/

namespace LabWeaver.Gateway

open Option

-- The Table

structure GatewayRow where
  id : GatewaySessionId
  grantId : AccessGrantId
  keyId : SshPublicKeyId
  session : GatewaySession

structure GatewayTable where
  clock : OffsetDateTime
  rows : List GatewayRow

/- The statements; `session` is what the gateway says about its session. -/
inductive TableAction where
| create (now : OffsetDateTime) (row : GatewayRow)
| heartbeat (now : OffsetDateTime) (id : GatewaySessionId) (session : GatewaySession)
| close (now : OffsetDateTime) (id : GatewaySessionId) (session : GatewaySession)
    (reasonCode : String)
| terminateForGrant (now : OffsetDateTime) (grantId : AccessGrantId)
| terminateForKey (now : OffsetDateTime) (keyId : SshPublicKeyId)
| markOverdue (now : OffsetDateTime)

def TableAction.now : TableAction → OffsetDateTime
| .create now _ | .heartbeat now _ _ | .close now _ _ _ | .terminateForGrant now _
| .terminateForKey now _ | .markOverdue now => now

/- The row as `create_gateway_session` inserts it. -/
def openedAt (now : OffsetDateTime) (session : GatewaySession) : GatewaySession :=
  { session with
    revision := .one, state := .active, openedAt := now.stored, lastHeartbeatAt := now.stored,
    terminationRequestedAt := none, terminateBy := none, closedAt := none, closeReasonCode := none }

section

variable (validTargetHost : String → Bool)

/- The rows that a statement looks at, and what it makes of them. -/
def TableAction.selects : TableAction → GatewayRow → Bool
| .create _ _, _ => false
| .heartbeat _ id _, row | .close _ id _ _, row => row.id == id
| .terminateForGrant _ grantId, row => row.grantId == grantId
| .terminateForKey _ keyId, row => row.keyId == keyId
| .markOverdue _, _ => true

def TableAction.change : TableAction → GatewaySession → Option GatewaySession
| .create _ _ => some
| .heartbeat now _ session => heartbeatGatewaySession now session
| .close now _ session reasonCode => closeGatewaySession validTargetHost now reasonCode session
| .terminateForGrant now _ | .terminateForKey now _ => terminate validTargetHost now
| .markOverdue now => Gateway.markOverdue validTargetHost now

def TableAction.update (action : TableAction) (row : GatewayRow) : Option GatewaySession :=
  if action.selects row then action.change validTargetHost row.session else some row.session

/- One row that cannot be updated makes the transaction fail. -/
def updateAll (update : GatewayRow → Option GatewaySession) :
    List GatewayRow → Option (List GatewayRow)
| [] => some []
| row :: rows => do
  let session ← update row
  let rest ← updateAll update rows
  some ({ row with session } :: rest)

/- The row that a statement adds. -/
def TableAction.insert : TableAction → List GatewayRow → Option (List GatewayRow)
| .create now row, rows =>
  let session := openedAt now row.session
  if (∀ other ∈ rows, other.id ≠ row.id) ∧ session.validate validTargetHost = true then
    some ({ row with session } :: rows)
  else none
| _, rows => some rows

def gatewayTable : Machine GatewayTable TableAction where
  init := fun s => s.rows = []
  step := fun s action =>
    if s.clock ≤ action.now then do
      let updated ← updateAll (action.update validTargetHost) s.rows
      let rows ← action.insert validTargetHost updated
      some { clock := action.now, rows }
    else none

end

-- Sound Rows

/- A row at a time: it is valid, it was opened before, and until it is closed its deadline is sixty
  seconds after the request. -/
structure SessionSound (validTargetHost : String → Bool) (clock : OffsetDateTime)
    (session : GatewaySession) : Prop where
  valid : session.validate validTargetHost = true
  opened : session.openedAt ≤ clock.stored
  deadline : session.state ≠ .closed → ∀ requested,
    session.terminationRequestedAt = some requested →
      session.terminateBy = some (requested.addSeconds 60)

variable {validTargetHost : String → Bool} {clock now : OffsetDateTime}
  {session session' : GatewaySession} {row : GatewayRow} {action : TableAction}

theorem stored_mono (hTime : clock ≤ now) : clock.stored ≤ now.stored :=
  Int.mul_le_mul_of_nonneg_right (Int.ediv_le_ediv (by decide) hTime) (by decide)

theorem addSeconds_stored (now : Int) :
    (OffsetDateTime.addSeconds now 60).stored = (OffsetDateTime.stored now).addSeconds 60 := by
  have hWhole : (now + 60 * 1000000000) / 1000 * 1000 = now / 1000 * 1000 + 60 * 1000000000 := by
    omega
  exact hWhole

/- One statement keeps a row sound. -/
theorem SessionSound.change (hSound : SessionSound validTargetHost action.now session)
    (hChange : action.change validTargetHost session = some session') :
    SessionSound validTargetHost action.now session' := by
  cases action with
  | create now new =>
    cases hChange
    exact hSound
  | heartbeat now id told =>
    simp only [TableAction.change, heartbeatGatewaySession, ite_none_right_eq_some,
      map_eq_some_iff] at hChange
    rcases hChange with ⟨_, revision, _, rfl⟩
    refine ⟨?_, hSound.opened, hSound.deadline⟩
    have hValid := hSound.valid
    have hLater : session.openedAt.utcTimestamp ≤ now.stored.utcTimestamp :=
      Int.ediv_le_ediv (by decide) hSound.opened
    simp only [GatewaySession.validate, GatewaySession.validState, Bool.and_eq_true,
      decide_eq_true_eq] at hValid ⊢
    exact ⟨⟨hValid.1.1, hLater⟩, hValid.2⟩
  | close now id told reasonCode =>
    simp only [TableAction.change, closeGatewaySession, ite_none_right_eq_some] at hChange
    rcases revise_eq_some hChange.2 with ⟨hValid, revision, _, rfl⟩
    exact ⟨hValid, hSound.opened, fun hOpen => absurd rfl hOpen⟩
  | terminateForGrant now _ | terminateForKey now _ =>
    simp only [TableAction.change, terminate] at hChange
    split at hChange
    · rcases revise_eq_some hChange with ⟨hValid, revision, _, rfl⟩
      refine ⟨hValid, hSound.opened, ?_⟩
      rintro _ requested hRequested
      cases hRequested
      exact congrArg some (addSeconds_stored now)
    · cases hChange
      exact hSound
  | markOverdue now =>
    simp only [TableAction.change, Gateway.markOverdue] at hChange
    split at hChange
    · rename_i hDue
      rcases revise_eq_some hChange with ⟨hValid, revision, _, rfl⟩
      exact ⟨hValid, hSound.opened, fun _ => hSound.deadline (not_closed_of_overdue hDue)⟩
    · cases hChange
      exact hSound

theorem SessionSound.update (hSound : SessionSound validTargetHost clock row.session)
    (hTime : clock ≤ action.now) (hUpdate : action.update validTargetHost row = some session') :
    SessionSound validTargetHost action.now session' := by
  have hNow : SessionSound validTargetHost action.now row.session :=
    ⟨hSound.valid, Int.le_trans hSound.opened (stored_mono hTime), hSound.deadline⟩
  unfold TableAction.update at hUpdate
  split at hUpdate
  · exact hNow.change hUpdate
  · cases hUpdate
    exact hNow

theorem update_of_closed (hClosed : row.session.state = .closed)
    (hUpdate : action.update validTargetHost row = some session') : session' = row.session := by
  unfold TableAction.update at hUpdate
  split at hUpdate
  · cases action <;>
      simp_all [TableAction.change, heartbeatGatewaySession, closeGatewaySession, terminate,
        markOverdue, overdue]
  · cases hUpdate
    rfl

-- Sound Tables

structure TableSound (validTargetHost : String → Bool) (s : GatewayTable) : Prop where
  rows : ∀ row ∈ s.rows, SessionSound validTargetHost s.clock row.session
  distinct : (s.rows.map GatewayRow.id).Nodup

theorem updateAll_sound {rows rows' : List GatewayRow} (hTime : clock ≤ action.now)
    (hRows : ∀ row ∈ rows, SessionSound validTargetHost clock row.session)
    (hUpdate : updateAll (action.update validTargetHost) rows = some rows') :
    rows'.map GatewayRow.id = rows.map GatewayRow.id ∧
    (∀ row ∈ rows', SessionSound validTargetHost action.now row.session) ∧
    ∀ row ∈ rows, row.session.state = .closed → row ∈ rows' := by
  induction rows generalizing rows' with
  | nil =>
    cases hUpdate
    simp
  | cons row rows ih =>
    simp only [updateAll, bind_eq_bind, bind_eq_some_iff] at hUpdate
    rcases hUpdate with ⟨session, hSession, rest, hRest, ⟨⟩⟩
    rw [List.forall_mem_cons] at hRows
    rcases ih hRows.2 hRest with ⟨hIds, hSound, hClosed⟩
    refine ⟨by simp [hIds], List.forall_mem_cons.mpr ⟨hRows.1.update hTime hSession, hSound⟩,
      List.forall_mem_cons.mpr ⟨?_, ?_⟩⟩
    · intro hState
      cases update_of_closed hState hSession
      exact List.mem_cons_self
    · intro other hOther hState
      exact List.mem_cons_of_mem _ (hClosed other hOther hState)

variable {s s' : GatewayTable}

theorem TableSound.step (hSound : TableSound validTargetHost s)
    (hStep : (gatewayTable validTargetHost).step s action = some s') :
    TableSound validTargetHost s' ∧
      ∀ row ∈ s.rows, row.session.state = .closed → row ∈ s'.rows := by
  simp only [gatewayTable, ite_none_right_eq_some, bind_eq_bind, bind_eq_some_iff] at hStep
  rcases hStep with ⟨hTime, updated, hUpdate, rows, hInsert, ⟨⟩⟩
  rcases updateAll_sound hTime hSound.rows hUpdate with ⟨hIds, hRows, hClosed⟩
  have hDistinct : (updated.map GatewayRow.id).Nodup := hIds ▸ hSound.distinct
  cases action with
  | create now new =>
    simp only [TableAction.insert, ite_none_right_eq_some] at hInsert
    rcases hInsert with ⟨⟨hFresh, hValid⟩, ⟨⟩⟩
    refine ⟨⟨List.forall_mem_cons.mpr ⟨⟨hValid, Int.le_refl _, ?_⟩, hRows⟩, ?_⟩, ?_⟩
    · rintro _ requested ⟨⟩
    · refine List.nodup_cons.mpr ⟨?_, hDistinct⟩
      intro hMember
      rcases List.mem_map.mp hMember with ⟨other, hOther, hSame⟩
      exact hFresh other hOther hSame
    · intro row hRow hState
      exact List.mem_cons_of_mem _ (hClosed row hRow hState)
  | _ =>
    cases hInsert
    exact ⟨⟨hRows, hDistinct⟩, hClosed⟩

theorem TableSound.reachable (hReach : (gatewayTable validTargetHost).Reachable s) :
    TableSound validTargetHost s := by
  refine Machine.Run.invariant ?_ (fun _ _ _ hSound _ hStep => (hSound.step hStep).1) hReach
  intro s hEmpty
  have hNone : s.rows = [] := hEmpty
  exact ⟨by simp [hNone], by simp [hNone]⟩

/- Every stored session is valid, a closed one stays, and a termination is due sixty seconds after
  its request. -/
theorem gateway_rows_sound (hReach : (gatewayTable validTargetHost).Reachable s) :
    (∀ row ∈ s.rows, row.session.validate validTargetHost = true) ∧
    (∀ row ∈ s.rows, row.session.state = .closed → ∀ s', (gatewayTable validTargetHost).Leads s s' →
        row ∈ s'.rows ∧ ∀ row' ∈ s'.rows, row'.id = row.id → row' = row) ∧
    ∀ row ∈ s.rows, row.session.state ≠ .closed → ∀ requested,
      row.session.terminationRequestedAt = some requested →
        row.session.terminateBy = some (requested.addSeconds 60) := by
  have hSound := TableSound.reachable hReach
  refine ⟨fun row hRow => (hSound.rows row hRow).valid, ?_,
    fun row hRow => (hSound.rows row hRow).deadline⟩
  intro row hRow hClosed s' hLeads
  have hKept : TableSound validTargetHost s' ∧ row ∈ s'.rows := by
    refine Machine.Leads.invariant (I := fun s => TableSound validTargetHost s ∧ row ∈ s.rows) ?_
      ⟨hSound, hRow⟩ hLeads
    rintro s action s' ⟨hSound, hRow⟩ hStep
    rcases hSound.step hStep with ⟨hSound', hStays⟩
    exact ⟨hSound', hStays row hRow hClosed⟩
  refine ⟨hKept.2, fun row' hRow' hSame => ?_⟩
  exact List.inj_on_of_nodup_map hKept.1.distinct hRow' hKept.2 hSame

/- A session whose grant is revoked is closed a second later. -/
def closingActions : List TableAction :=
  [.create 0 ⟨⟨1⟩, ⟨2⟩, ⟨3⟩, sampleSession⟩, .terminateForGrant 1000000000 ⟨2⟩,
    .close 2000000000 ⟨1⟩
      { sampleSession with revision := ⟨2, Nat.two_pos, Nat.le_of_ble_eq_true rfl⟩ }
      "client_closed"]

theorem gateway_rows_sound_closed : ∃ s, (gatewayTable anyHost).Reachable s ∧
    ∃ row ∈ s.rows, row.session.state = .closed ∧ row.session.validate anyHost = true := by
  have hFound : ∃ s, (gatewayTable anyHost).Reachable s ∧
      ∃ row ∈ s.rows, row.session.state = .closed :=
    Machine.exists_reachable closingActions (s := GatewayTable.mk 0 []) rfl (by decide)
  rcases hFound with ⟨s, hReach, row, hRow, hClosed⟩
  exact ⟨s, hReach, row, hRow, hClosed, (gateway_rows_sound hReach).1 row hRow⟩

end LabWeaver.Gateway
