import LabWeaver.Access.Database

/-
  This file models one run of the SSH gateway's forced command against the row of its session. The
  gateway knows only the revision it was last told, and Access moves the revision on its own when
  it terminates the session or finds it overdue.

  Main declarations: `terminated_session_closed`, `terminated_session_not_closed`.
-/

namespace LabWeaver.Gateway

open Option

-- Sessions

/- `GatewaySession`, the fields that a run reads or writes. -/
structure GatewaySession where
  (targetAlias targetHost gatewayIdentity connectionId : String)
  revision : Revision
  state : GatewaySessionState
  (openedAt lastHeartbeatAt : OffsetDateTime)
  (terminationRequestedAt terminateBy closedAt : Option OffsetDateTime)
  closeReasonCode : Option String

open GatewaySession

def terminationSeconds : Nat := 60

def wholeSeconds (requested deadline : OffsetDateTime) : Int :=
  (deadline.utcTimestamp - requested.utcTimestamp).tdiv 1000

section

-- the parser of identifiers in host names is not ours
variable (validTargetHost : String → Bool)

/- The part of `GatewaySession::validate` that depends on the state. -/
def GatewaySession.validState (session : GatewaySession) : Bool :=
  match session.state with
  | .active => session.terminationRequestedAt.isNone && session.terminateBy.isNone &&
      session.closedAt.isNone
  | .terminating =>
    match session.terminationRequestedAt, session.terminateBy with
    | some requested, some deadline =>
      decide (0 ≤ wholeSeconds requested deadline ∧ wholeSeconds requested deadline ≤ 60)
    | _, _ => false
  | .terminationOverdue => session.terminationRequestedAt.isSome && session.terminateBy.isSome &&
      session.closedAt.isNone && session.closeReasonCode == some "termination_overdue"
  | .closed => session.closedAt.isSome && session.closeReasonCode.any (fun code => code != "")

def GatewaySession.validate (session : GatewaySession) : Bool :=
  !trimIsEmpty session.gatewayIdentity && !trimIsEmpty session.connectionId &&
    validAlias session.targetAlias && validTargetHost session.targetHost &&
    decide (session.openedAt.utcTimestamp ≤ session.lastHeartbeatAt.utcTimestamp) &&
    session.validState

-- The Statements Of Access

/- An update of the row that moves its revision, and the read of the row after it. -/
def revise (change : GatewaySession → GatewaySession) (row : GatewaySession) :
    Option GatewaySession := do
  let revision ← row.revision.increment
  let revised := { change row with revision }
  if revised.validate validTargetHost then some revised else none

variable (now : OffsetDateTime) (row : GatewaySession)

/- `terminate_sessions_for_grant` and `terminate_sessions_for_key`. -/
def terminate : Option GatewaySession :=
  if row.state = .active then
    revise validTargetHost (fun row =>
      { row with
        state := .terminating, terminationRequestedAt := some now.stored,
        terminateBy := some (now.addSeconds terminationSeconds).stored }) row
  else some row

def overdue : Bool :=
  row.state == .terminating && row.terminateBy.any (fun deadline => decide (deadline < now.stored))

def markOverdue : Option GatewaySession :=
  if overdue now row then
    revise validTargetHost (fun row =>
      { row with state := .terminationOverdue, closeReasonCode := some "termination_overdue" }) row
  else some row

/- The row is the one that the gateway was told about. -/
def GatewaySession.matchesRow (session row : GatewaySession) : Bool :=
  row.gatewayIdentity == session.gatewayIdentity && row.connectionId == session.connectionId &&
    row.revision == session.revision

/- The update of `heartbeat_gateway_session`; nothing is answered `LW_REVISION_CONFLICT`. -/
def heartbeatGatewaySession (session row : GatewaySession) : Option GatewaySession :=
  if session.matchesRow row && (row.state == .active || row.state == .terminating) then
    row.revision.increment.map (fun revision =>
      { row with lastHeartbeatAt := now.stored, revision })
  else none

def closeGatewaySession (reasonCode : String)
    (session row : GatewaySession) : Option GatewaySession :=
  if !trimIsEmpty reasonCode && session.matchesRow row && row.state != .closed then
    revise validTargetHost (fun row =>
      { row with
        state := .closed, closedAt := some now.stored, closeReasonCode := some reasonCode }) row
  else none

-- The Forced Command

inductive ChildEnd where
| exited (clean : Bool)
-- killed because the session is not active
| stopped
deriving DecidableEq

def ChildEnd.reasonCode : ChildEnd → String
| .exited true => "client_closed"
| .exited false | .stopped => "target_failed"

inductive GatewayPhase where
| running
-- a heartbeat is on its way
| beating
-- the heartbeat's update is done, its answer not read yet
| updated
| closing (childEnd : ChildEnd)
| finished (childEnd : ChildEnd) (accepted : Bool)
deriving DecidableEq

structure ForceCommand where
  grantState : AccessGrantState
  grantExpiresAt : OffsetDateTime
  keyRevoked : Bool
  (row session : GatewaySession)
  phase : GatewayPhase

inductive GatewayAction where
| tick
| heartbeat (now : OffsetDateTime)
| load
| childExit (clean : Bool)
| close (now : OffsetDateTime)
| revokeGrant (now : OffsetDateTime)
| revokeKey (now : OffsetDateTime)
| expireGrant (now : OffsetDateTime)
| sweep (now : OffsetDateTime)

namespace ForceCommand

variable (s : ForceCommand)

/- The gateway reads the answer to its heartbeat. -/
def answered : ForceCommand :=
  if s.row.validate validTargetHost then
    { s with
      session := s.row
      phase := if s.row.state = .active then .running else .closing .stopped }
  else { s with phase := .closing .stopped }

def step : GatewayAction → Option ForceCommand
| .tick => if s.phase = .running then some { s with phase := .beating } else none
| .heartbeat now =>
  if s.phase = .beating then
    match heartbeatGatewaySession now s.session s.row with
    | some row => some { s with row, phase := .updated }
    | none => some { s with phase := .closing .stopped }
  else none
| .load => if s.phase = .updated then some (s.answered validTargetHost) else none
| .childExit clean =>
  if s.phase = .running then some { s with phase := .closing (.exited clean) } else none
| .close now =>
  match s.phase with
  | .closing childEnd =>
    match closeGatewaySession validTargetHost now childEnd.reasonCode s.session s.row with
    | some row => some { s with row, phase := .finished childEnd true }
    | none => some { s with phase := .finished childEnd false }
  | _ => none
| .revokeGrant now =>
  if s.grantState.live then
    (terminate validTargetHost now s.row).map (fun row => { s with row, grantState := .revoked })
  else none
| .revokeKey now =>
  if s.keyRevoked = false then
    (terminate validTargetHost now s.row).map (fun row => { s with row, keyRevoked := true })
  else none
| .expireGrant now =>
  if s.grantState = .active ∧ s.grantExpiresAt ≤ now then
    (terminate validTargetHost now s.row).map (fun row => { s with row, grantState := .expired })
  else none
| .sweep now => (markOverdue validTargetHost now s.row).map (fun row => { s with row })

/- The child runs under the session that Access has just created. -/
structure Initial : Prop where
  created : s.row.validate validTargetHost = true
  active : s.row.state = .active
  revision : s.row.revision = .one
  told : s.session = s.row
  running : s.phase = .running

end ForceCommand

def forceCommand : Machine ForceCommand GatewayAction where
  init := ForceCommand.Initial validTargetHost
  step := ForceCommand.step validTargetHost

variable (s : ForceCommand)

/- A gateway that stopped its child can close the session, and has closed it once it has sent its
  request. -/
structure ForceCommand.Closes : Prop where
  accepted : s.phase = .closing .stopped → ∀ now, ∃ s',
    s.step validTargetHost (.close now) = some s' ∧ s'.phase = .finished .stopped true
  closed : ∀ accepted, s.phase = .finished .stopped accepted →
    accepted = true ∧ s.row.state = .closed

-- What The Gateway Is Told

/- One more revision can be stored after the next one. -/
def GatewaySession.hasRoom : Bool := decide (row.revision.get + 1 < maxI64)

/- The gateway reads the row again, or has no more to ask of Access. -/
def ForceCommand.toldLater : Bool :=
  match s.phase with
  | .updated => s.row.hasRoom
  | .closing (.exited _) | .finished _ _ => true
  | .running | .beating | .closing .stopped => false

/- Access changes the session only where the gateway is told later, and its clock is not behind the
  start of the session. -/
def ForceCommand.learns : GatewayAction → Bool
| .heartbeat now => decide (s.row.openedAt ≤ now.stored) && s.row.hasRoom
| .revokeGrant _ | .revokeKey _ | .expireGrant _ => s.row.state != .active || s.toldLater
| .sweep now => !overdue now s.row || s.toldLater
| _ => true

/- The row can be revised, and is that of the gateway. -/
structure Open (row session : GatewaySession) : Prop where
  valid : row.validate validTargetHost = true
  state : row.state ≠ .closed
  room : row.revision.get < maxI64
  gateway : row.gatewayIdentity = session.gatewayIdentity
  connection : row.connectionId = session.connectionId

/- What holds while all steps are learned. -/
def Told (session : GatewaySession) : GatewayPhase → Prop
| .running | .beating =>
  Open validTargetHost row session ∧ row.revision = session.revision ∧ row.state = .active
| .updated => Open validTargetHost row session
| .closing .stopped => Open validTargetHost row session ∧ row.revision = session.revision
| .finished .stopped accepted => accepted = true ∧ row.state = .closed
| .closing (.exited _) | .finished (.exited _) _ => True

end

section

variable {validTargetHost : String → Bool} {s s' : ForceCommand} {row row' : GatewaySession}
  {now : OffsetDateTime}

theorem increment_eq_some {revision next : Revision} (hNext : revision.increment = some next) :
    next.get = revision.get + 1 := by
  unfold Revision.increment at hNext
  split at hNext
  · exact Revision.next_eq_some.mp hNext
  · cases hNext

theorem exists_increment {revision : Revision} (hRoom : revision.get < maxI64) :
    ∃ next, revision.increment = some next := by
  have hBound : revision.get + 1 ≤ maxU64 := by
    unfold maxI64 at hRoom
    unfold maxU64
    omega
  refine ⟨⟨revision.get + 1, by omega, hBound⟩, ?_⟩
  rw [Revision.increment, if_pos hRoom]
  exact Revision.next_eq_some.mpr rfl

theorem revise_eq_some {change : GatewaySession → GatewaySession}
    (hRevise : revise validTargetHost change row = some row') :
    row'.validate validTargetHost = true ∧ ∃ revision, row.revision.increment = some revision ∧
      row' = { change row with revision } := by
  simp only [revise, bind_eq_bind, bind_eq_some_iff] at hRevise
  rcases hRevise with ⟨revision, hNext, hRevised⟩
  rcases ite_none_right_eq_some.mp hRevised with ⟨hValid, ⟨⟩⟩
  exact ⟨hValid, revision, hNext, rfl⟩

/- A change of the row by Access that the gateway did not ask for. -/
structure Changed (validTargetHost : String → Bool) (row row' : GatewaySession) : Prop where
  valid : row'.validate validTargetHost = true
  state : row'.state ≠ .closed
  revision : row'.revision.get = row.revision.get + 1
  gateway : row'.gatewayIdentity = row.gatewayIdentity
  connection : row'.connectionId = row.connectionId

theorem terminate_cases (hTerminate : terminate validTargetHost now row = some row') :
    row' = row ∨ row.state = .active ∧ Changed validTargetHost row row' := by
  unfold terminate at hTerminate
  split at hTerminate
  · rename_i hActive
    rcases revise_eq_some hTerminate with ⟨hValid, revision, hNext, rfl⟩
    exact .inr ⟨hActive, hValid, by simp, increment_eq_some hNext, rfl, rfl⟩
  · cases hTerminate
    exact .inl rfl

theorem markOverdue_cases (hMark : markOverdue validTargetHost now row = some row') :
    row' = row ∨ overdue now row = true ∧ Changed validTargetHost row row' := by
  unfold markOverdue at hMark
  split at hMark
  · rename_i hDue
    rcases revise_eq_some hMark with ⟨hValid, revision, hNext, rfl⟩
    exact .inr ⟨hDue, hValid, by simp, increment_eq_some hNext, rfl, rfl⟩
  · cases hMark
    exact .inl rfl

/- A closed session is not changed. -/
theorem not_closed_of_overdue (hDue : overdue now row = true) : row.state ≠ .closed := by
  intro hClosed
  simp [overdue, hClosed] at hDue

theorem Told.changed (hTold : Told validTargetHost s.row s.session s.phase)
    (hLater : s.toldLater = true) (hOpen : s.row.state ≠ .closed)
    (hChanged : Changed validTargetHost s.row row) :
    Told validTargetHost row s.session s.phase := by
  unfold ForceCommand.toldLater at hLater
  cases hPhase : s.phase with
  | running | beating =>
    rw [hPhase] at hLater
    cases hLater
  | updated =>
    rw [hPhase] at hTold hLater
    refine ⟨hChanged.valid, hChanged.state, ?_, ?_, ?_⟩
    · rw [hChanged.revision]
      exact of_decide_eq_true hLater
    · rw [hChanged.gateway]
      exact hTold.gateway
    · rw [hChanged.connection]
      exact hTold.connection
  | closing childEnd =>
    cases childEnd with
    | exited clean => trivial
    | stopped =>
      rw [hPhase] at hLater
      cases hLater
  | finished childEnd accepted =>
    cases childEnd with
    | exited clean => trivial
    | stopped =>
      rw [hPhase] at hTold
      exact absurd hTold.2 hOpen

theorem Told.terminated (hTold : Told validTargetHost s.row s.session s.phase)
    (hLearns : (s.row.state != .active || s.toldLater) = true)
    (hTerminate : terminate validTargetHost now s.row = some row) :
    Told validTargetHost row s.session s.phase := by
  rcases terminate_cases hTerminate with rfl | ⟨hActive, hChanged⟩
  · exact hTold
  · have hLater : s.toldLater = true := by simpa [hActive] using hLearns
    refine hTold.changed hLater ?_ hChanged
    rw [hActive]
    decide

variable {session : GatewaySession}

theorem matchesRow_of_told (hOpen : Open validTargetHost row session)
    (hRevision : row.revision = session.revision) : session.matchesRow row = true := by
  simp [matchesRow, hOpen.gateway, hOpen.connection, hRevision]

theorem Told.heartbeat (hTold : Told validTargetHost row session .beating)
    (hClock : row.openedAt ≤ now.stored) (hRoom : row.revision.get + 1 < maxI64) :
    ∃ row', heartbeatGatewaySession now session row = some row' ∧
      Open validTargetHost row' session := by
  rcases hTold with ⟨hOpen, hRevision, hActive⟩
  rcases exists_increment hOpen.room with ⟨revision, hNext⟩
  refine ⟨{ row with lastHeartbeatAt := now.stored, revision }, ?_, ?_, hOpen.state,
    ?_, hOpen.gateway, hOpen.connection⟩
  · simp [heartbeatGatewaySession, matchesRow_of_told hOpen hRevision, hActive, hNext]
  · have hValid := hOpen.valid
    have hLater : row.openedAt.utcTimestamp ≤ now.stored.utcTimestamp :=
      Int.ediv_le_ediv (by decide) hClock
    simp only [validate, validState, Bool.and_eq_true, decide_eq_true_eq] at hValid ⊢
    exact ⟨⟨hValid.1.1, hLater⟩, hValid.2⟩
  · have hLast := increment_eq_some hNext
    exact hLast ▸ hRoom

/- The close request of a gateway that knows the revision is accepted. -/
theorem Told.close (now : OffsetDateTime)
    (hTold : Told validTargetHost row session (.closing .stopped)) :
    ∃ row', closeGatewaySession validTargetHost now ChildEnd.stopped.reasonCode session row =
      some row' ∧ row'.state = .closed := by
  rcases hTold with ⟨hOpen, hRevision⟩
  rcases exists_increment hOpen.room with ⟨revision, hNext⟩
  have hReason : (!trimIsEmpty ChildEnd.stopped.reasonCode && session.matchesRow row &&
      row.state != .closed) = true := by
    have hState := hOpen.state
    simp only [matchesRow_of_told hOpen hRevision, Bool.and_true, bne_iff_ne, Bool.and_eq_true]
    exact ⟨by decide, hState⟩
  have hValid := hOpen.valid
  simp only [validate, Bool.and_eq_true] at hValid
  refine ⟨{ row with
    state := .closed, closedAt := some now.stored,
    closeReasonCode := some ChildEnd.stopped.reasonCode, revision }, ?_, rfl⟩
  rw [closeGatewaySession, if_pos hReason, revise, hNext]
  simp only [bind_eq_bind, bind_some]
  rw [if_pos]
  simp only [validate, validState, Bool.and_eq_true]
  exact ⟨hValid.1, rfl, by decide⟩

theorem Told.step {action : GatewayAction} (hTold : Told validTargetHost s.row s.session s.phase)
    (hLearns : s.learns action = true) (hStep : s.step validTargetHost action = some s') :
    Told validTargetHost s'.row s'.session s'.phase := by
  cases action with
  | tick =>
    simp only [ForceCommand.step, ite_none_right_eq_some, Option.some.injEq] at hStep
    rcases hStep with ⟨hPhase, rfl⟩
    rwa [hPhase] at hTold
  | heartbeat now =>
    simp only [ForceCommand.step, ite_none_right_eq_some] at hStep
    rcases hStep with ⟨hPhase, hStep⟩
    simp only [ForceCommand.learns, hasRoom, Bool.and_eq_true, decide_eq_true_eq] at hLearns
    rw [hPhase] at hTold
    rcases hTold.heartbeat hLearns.1 hLearns.2 with ⟨row, hRow, hOpen⟩
    rw [hRow] at hStep
    cases hStep
    exact hOpen
  | load =>
    simp only [ForceCommand.step, ite_none_right_eq_some, Option.some.injEq] at hStep
    rcases hStep with ⟨hPhase, rfl⟩
    rw [hPhase] at hTold
    rw [ForceCommand.answered, if_pos hTold.valid]
    have hOpen : Open validTargetHost s.row s.row :=
      ⟨hTold.valid, hTold.state, hTold.room, rfl, rfl⟩
    by_cases hActive : s.row.state = .active
    · simp only [if_pos hActive]
      exact ⟨hOpen, rfl, hActive⟩
    · simp only [if_neg hActive]
      exact ⟨hOpen, rfl⟩
  | childExit clean =>
    simp only [ForceCommand.step, ite_none_right_eq_some, Option.some.injEq] at hStep
    rcases hStep with ⟨hPhase, rfl⟩
    trivial
  | close now =>
    simp only [ForceCommand.step] at hStep
    cases hPhase : s.phase with
    | closing childEnd =>
      rw [hPhase] at hStep hTold
      cases childEnd with
      | exited clean =>
        simp only at hStep
        split at hStep <;>
        · cases hStep
          trivial
      | stopped =>
        rcases hTold.close now with ⟨row, hRow, hClosed⟩
        simp only [hRow] at hStep
        cases hStep
        exact ⟨rfl, hClosed⟩
    | running | beating | updated | finished childEnd accepted =>
      rw [hPhase] at hStep
      cases hStep
  | revokeGrant now | revokeKey now | expireGrant now =>
    simp only [ForceCommand.step, ite_none_right_eq_some, map_eq_some_iff] at hStep
    rcases hStep with ⟨_, row, hRow, rfl⟩
    exact hTold.terminated hLearns hRow
  | sweep now =>
    simp only [ForceCommand.step, map_eq_some_iff] at hStep
    rcases hStep with ⟨row, hRow, rfl⟩
    rcases markOverdue_cases hRow with rfl | ⟨hDue, hChanged⟩
    · exact hTold
    · have hLater : s.toldLater = true := by
        simpa [ForceCommand.learns, hDue] using hLearns
      exact hTold.changed hLater (not_closed_of_overdue hDue) hChanged

theorem told_of_run
    (hRun : (forceCommand validTargetHost).Run (fun s action => s.learns action = true) s) :
    Told validTargetHost s.row s.session s.phase := by
  refine Machine.Run.invariant
    (I := fun s => Told validTargetHost s.row s.session s.phase) ?_ ?_ hRun
  · intro s hInitial
    have hState : s.row.state ≠ .closed := by
      rw [hInitial.active]
      decide
    have hRoom : s.row.revision.get < maxI64 := by
      rw [hInitial.revision]
      decide
    rw [hInitial.running, hInitial.told]
    exact ⟨⟨hInitial.created, hState, hRoom, rfl, rfl⟩, rfl, hInitial.active⟩
  · intro s action s' hTold hLearns hStep
    exact hTold.step hLearns hStep

theorem terminated_session_closed (validTargetHost : String → Bool) (s : ForceCommand)
    (hRun : (forceCommand validTargetHost).Run (fun s action => s.learns action = true) s) :
    s.Closes validTargetHost := by
  have hTold := told_of_run hRun
  constructor
  · intro hPhase now
    rw [hPhase] at hTold
    rcases hTold.close now with ⟨row, hRow, _⟩
    refine ⟨{ s with row, phase := .finished .stopped true }, ?_, rfl⟩
    simp only [ForceCommand.step, hPhase, hRow]
  · intro accepted hPhase
    rwa [hPhase] at hTold

end

-- A Session That Is Terminated

def sampleSession : GatewaySession where
  targetAlias := "lw-aaaaaaaaaaaaaaaaaaaa"
  targetHost := "host"
  gatewayIdentity := "g"
  connectionId := "c"
  revision := .one
  state := .active
  openedAt := 0
  lastHeartbeatAt := 0
  terminationRequestedAt := none
  terminateBy := none
  closedAt := none
  closeReasonCode := none

def sampleForceCommand : ForceCommand where
  grantState := .active
  grantExpiresAt := 3600000000000
  keyRevoked := false
  row := sampleSession
  session := sampleSession
  phase := .running

def anyHost (_ : String) : Bool := true

theorem sampleForceCommand_initial : sampleForceCommand.Initial anyHost :=
  ⟨by decide, rfl, rfl, rfl, rfl⟩

/- The grant is revoked between a heartbeat's update and its answer. -/
def toldActions : List GatewayAction :=
  [.tick, .heartbeat 15000000000, .revokeGrant 15000000000, .load, .close 15000000000]

theorem terminated_session_closed_told :
    ∃ s, (forceCommand anyHost).Run (fun s action => s.learns action = true) s ∧
      s.grantState = .revoked ∧ s.phase = .finished .stopped true ∧ s.Closes anyHost := by
  have hFound : ∃ s, (forceCommand anyHost).Run (fun s action => s.learns action = true) s ∧
      s.grantState = .revoked ∧ s.phase = .finished .stopped true :=
    Machine.exists_run toldActions sampleForceCommand_initial (by decide)
  rcases hFound with ⟨s, hRun, hRevoked, hEnd⟩
  exact ⟨s, hRun, hRevoked, hEnd, terminated_session_closed anyHost s hRun⟩

/- The grant is revoked between two heartbeats, and the sweep finds the session. -/
def untoldActions : List GatewayAction :=
  [.revokeGrant 1000000000, .tick, .heartbeat 15000000000, .close 15000000000, .sweep 120000000000]

theorem terminated_session_not_closed :
    ∃ s, (forceCommand anyHost).Reachable s ∧ s.phase = .finished .stopped false ∧
      s.row.state = .terminationOverdue ∧ ¬s.Closes anyHost := by
  have hFound : ∃ s, (forceCommand anyHost).Reachable s ∧ s.phase = .finished .stopped false ∧
      s.row.state = .terminationOverdue :=
    Machine.exists_reachable untoldActions sampleForceCommand_initial (by decide)
  rcases hFound with ⟨s, hRun, hEnd, hOverdue⟩
  refine ⟨s, hRun, hEnd, hOverdue, ?_⟩
  intro hCloses
  cases (hCloses.closed false hEnd).1

end LabWeaver.Gateway
