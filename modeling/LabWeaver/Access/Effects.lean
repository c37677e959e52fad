import LabWeaver.Access.Transactions

/-
  This file says what each statement of the Access service can do to grants, keys and sessions.
-/

namespace LabWeaver

open ReadCommitted Statement List Option

-- The Table Of A Statement

def AccessLocals.writes : AccessLocals → Option AccessTable
| .consumeCapability _ | .countConsoleSessions _
| .selectCapability _ | .revokeAccessGrant _
| .checkRevoker _ _ | .expireGrants _
| .selectMaximumRevision _ | .createGatewaySession _
| .selectEndpointGrant _ _ | .activateGrant _
| .selectRequestedGrant _ | .denyGrant _
| .finished _ => none
| .insertConsoleSession _ _ _ | .activateConsoleSession _
| .terminateConsoleSessions _ _ _ => some .consoleSessions
| .markCapability _ _ => some .capabilities
| .revokeGrant _ | .expireGrant _
| .revokeEnvironmentGrants _ | .renewAccessGrant _
| .createAccessGrant _ | .updateActivatedGrant _ _
| .updateDeniedGrant _ => some .grants
| .terminateGatewaySessions _ _ _ | .terminateKeySessions _
| .insertGatewaySession _ _ _ => some .gatewaySessions
| .renewEndpointGrants _ _ | .insertEndpointGrant _ _ _ _ => some .endpointGrants
| .deleteSshKey _ => some .sshKeys
| .consumeAuthorization _ => some .authorizations
| .insertActivationJob _ _ | .leaseActivationJob _ _
| .completeActivationJob _ | .failActivationJob _ => some .activationJobs

section

variable {l l' : AccessLocals} {statement : AccessStep} {view written : AccessStore}
  {locks : Locks AccessKey} (hCommand : accessCommand l = .execute statement)
  (hRun : statement.run view locks = some (l', written)) {t : AccessTable}

include hCommand hRun in
theorem written_table {id : t.Id} (hRow : written.row ⟨t, id⟩ ≠ none) : l.writes = some t := by
  cases l <;> cases hCommand <;>
    first
    | exact absurd (by rw [(query_run hRun).2]; rfl) hRow
    | exact congrArg some (insert_table hRun hRow).symm
    | exact congrArg some (updateTable_table hRun hRow).symm

include hCommand hRun in
/- A table that is not the statement's own is left alone. -/
theorem row_of_other_table {id : t.Id} (hTable : l.writes ≠ some t) :
    written.row ⟨t, id⟩ = none := by
  by_contra hRow
  exact hTable (written_table hCommand hRun hRow)

theorem unwritten_of_other_table {tx : AccessTransaction} {committed snapshot : AccessStore}
    {hRun : tx.Runs statement committed snapshot l' written} {id : t.Id}
    (hCommand : accessCommand tx.locals = .execute statement) (hKept : tx.writes.row ⟨t, id⟩ = none)
    (hTable : tx.locals.writes ≠ some t) : (tx.after hRun).writes.row ⟨t, id⟩ = none :=
  (Store.overlay_row_of_none (row_of_other_table hCommand hRun hTable)).trans hKept

include hCommand hRun in
theorem table_of_row {id : t.Id} {row : t.Row} (hRow : written.row ⟨t, id⟩ = some row) :
    l.writes = some t := by
  apply written_table hCommand hRun
  rw [hRow]
  exact some_ne_none row

-- Where A Statement Leads

/- The places that follow each other in a transaction. -/
inductive Successor : AccessLocals → AccessLocals → Prop where
| capacityLocked {call} : Successor (.consumeCapability call) (.countConsoleSessions call)
| sessionsCounted {call} : Successor (.countConsoleSessions call) (.selectCapability call)
| capabilityFound {call id capability} : Successor (.selectCapability call)
      (.insertConsoleSession call id capability)
| consoleInserted {call id capability} : Successor (.insertConsoleSession call id capability)
      (.markCapability call id)
| capabilityMarked {call id} : Successor (.markCapability call id) (.finished none)
| consoleActivated {id} : Successor (.activateConsoleSession id) (.finished none)
| ownerRevokes {call} : Successor (.revokeAccessGrant call) (.revokeGrant call)
| otherRevokes {call courseId} : Successor (.revokeAccessGrant call) (.checkRevoker call courseId)
| teacherRevokes {call courseId} : Successor (.checkRevoker call courseId) (.revokeGrant call)
| grantRevoked {call} : Successor (.revokeGrant call)
      (.terminateGatewaySessions call.grantId [] none)
| expiredFound {call} : Successor (.expireGrants call) (.expireGrant call.grantId)
| grantExpired {grantId} : Successor (.expireGrant grantId)
      (.terminateGatewaySessions grantId [] none)
| environmentRevoked {environmentId grantId rest} :
    Successor (.revokeEnvironmentGrants environmentId) (.terminateGatewaySessions grantId rest
      (some environmentId))
| nothingRevoked {environmentId} : Successor (.revokeEnvironmentGrants environmentId)
      (.selectMaximumRevision environmentId)
| gatewayTerminated {grantId rest environmentId} : Successor
      (.terminateGatewaySessions grantId rest environmentId)
      (.terminateConsoleSessions grantId rest environmentId)
| consolesTerminated {grantId next rest environmentId} : Successor
      (.terminateConsoleSessions grantId (next :: rest) environmentId)
      (.terminateGatewaySessions next rest environmentId)
| environmentTerminated {grantId environmentId} : Successor (.terminateConsoleSessions grantId []
        (some environmentId))
      (.selectMaximumRevision environmentId)
| grantTerminated {grantId} : Successor (.terminateConsoleSessions grantId [] none)
      (.finished none)
| maximumSelected {environmentId revision} : Successor (.selectMaximumRevision environmentId)
      (.finished (some revision))
| grantRenewed {call} : Successor (.renewAccessGrant call)
      (.renewEndpointGrants call.grantId call.expiresAt)
| endpointsRenewed {grantId expiresAt} : Successor (.renewEndpointGrants grantId expiresAt)
      (.finished none)
| keyDeleted {call} : Successor (.deleteSshKey call) (.terminateKeySessions call.keyId)
| keyTerminated {keyId} : Successor (.terminateKeySessions keyId) (.finished none)
| authorizationFound {call authorization} : Successor (.createGatewaySession call)
      (.selectEndpointGrant call authorization)
| candidateFound {call authorization candidate} :
    Successor (.selectEndpointGrant call authorization)
      (.insertGatewaySession call authorization candidate)
| gatewayInserted {call authorization candidate} : Successor
      (.insertGatewaySession call authorization candidate)
      (.consumeAuthorization call)
| authorizationConsumed {call} : Successor (.consumeAuthorization call) (.finished none)
| grantCreated {call} : Successor (.createAccessGrant call)
      (.insertActivationJob call.grantId call.now)
| jobInserted {grantId now} : Successor (.insertActivationJob grantId now) (.finished none)
| jobLeased {lease leaseSeconds} : Successor (.leaseActivationJob lease leaseSeconds)
      (.finished none)
| leaseLocked {call} : Successor (.activateGrant call) (.selectRequestedGrant call)
| notRequested {call} : Successor (.selectRequestedGrant call) (.completeActivationJob call.lease)
| tooLate {call} : Successor (.selectRequestedGrant call) (.updateDeniedGrant call.lease)
| firstEndpoint {call expiresAt first rest} : Successor (.selectRequestedGrant call)
      (.insertEndpointGrant call expiresAt first rest)
| noEndpoint {call expiresAt} : Successor (.selectRequestedGrant call)
      (.updateActivatedGrant call expiresAt)
| nextEndpoint {call expiresAt first next rest} : Successor
      (.insertEndpointGrant call expiresAt first (next :: rest))
      (.insertEndpointGrant call expiresAt next rest)
| lastEndpoint {call expiresAt first} : Successor (.insertEndpointGrant call expiresAt first [])
      (.updateActivatedGrant call expiresAt)
| grantActivated {call expiresAt} : Successor (.updateActivatedGrant call expiresAt)
      (.completeActivationJob call.lease)
| jobCompleted {lease} : Successor (.completeActivationJob lease) (.finished none)
| denialLocked {lease} : Successor (.denyGrant lease) (.updateDeniedGrant lease)
| grantDenied {lease} : Successor (.updateDeniedGrant lease) (.failActivationJob lease)
| jobFailed {lease} : Successor (.failActivationJob lease) (.finished none)

theorem whenOne_eq_some {ι : Type} {next : AccessLocals} {ids : List ι}
    (hOne : whenOne next ids = some l') : l' = next ∧ ids.length = 1 := by
  unfold whenOne at hOne
  split at hOne
  · rename_i hLength
    cases hOne
    exact ⟨rfl, hLength⟩
  · cases hOne

variable {condition : t.Id → t.Row → Bool} {change : t.Row → Option t.Row}

/- An update of any number of rows leads to one place. -/
private theorem successor_of_updates {next : List t.Id → AccessLocals}
    (hRun : (updateTable t condition change
      (fun ids => some (next ids)) : AccessStep).run view locks = some (l', written))
    (hNext : ∀ ids, Successor l (next ids)) : Successor l l' := by
  rcases updateTable_run hRun with ⟨ids, ⟨⟩, _⟩
  exact hNext ids

include hCommand hRun in
/- Every statement leads to a successor of its place. -/
theorem successor_of_run : Successor l l' := by
  cases l with
  | finished revision => cases hCommand
  | markCapability | activateConsoleSession | revokeGrant | renewAccessGrant | deleteSshKey
  | leaseActivationJob | updateActivatedGrant | completeActivationJob | updateDeniedGrant
  | failActivationJob =>
    cases hCommand
    rcases updateTable_run hRun with ⟨_, hOne, _⟩
    rw [(whenOne_eq_some hOne).1]
    constructor
  | expireGrant | terminateGatewaySessions | renewEndpointGrants | terminateKeySessions
  | consumeAuthorization =>
    cases hCommand
    exact successor_of_updates hRun (fun _ => by constructor)
  | insertConsoleSession | insertGatewaySession | createAccessGrant | insertActivationJob =>
    cases hCommand
    rw [(insert_run hRun).1]
    constructor
  | consumeCapability | selectMaximumRevision =>
    cases hCommand
    cases (query_run hRun).1
    constructor
  | countConsoleSessions | expireGrants | activateGrant | denyGrant =>
    cases hCommand
    have hNext := (query_run hRun).1
    split at hNext
    · cases hNext
      constructor
    · cases hNext
  | selectCapability | checkRevoker | selectEndpointGrant =>
    cases hCommand
    have hNext := (query_run hRun).1
    split at hNext
    · cases hNext
    · split at hNext
      · cases hNext
        constructor
      · cases hNext
  | revokeAccessGrant call =>
    cases hCommand
    have hNext := (query_run hRun).1
    split at hNext
    · cases hNext
    · split at hNext
      · cases hNext
        exact .ownerRevokes
      · cases hNext
        exact .otherRevokes
  | revokeEnvironmentGrants environmentId =>
    cases hCommand
    refine successor_of_updates hRun ?_
    intro ids
    cases ids with
    | nil => exact .nothingRevoked
    | cons grantId rest => exact .environmentRevoked
  | terminateConsoleSessions grantId rest environmentId =>
    cases hCommand
    refine successor_of_updates hRun ?_
    intro _
    cases rest with
    | cons next rest => exact .consolesTerminated
    | nil => cases environmentId <;> constructor
  | createGatewaySession call =>
    cases hCommand
    have hNext := (query_run hRun).1
    rcases map_eq_some_iff.mp hNext with ⟨_, _, rfl⟩
    exact .authorizationFound
  | selectRequestedGrant call =>
    cases hCommand
    have hNext := (query_run hRun).1
    split at hNext
    · cases hNext
      exact .notRequested
    · rename_i grant _
      by_cases hLate : min grant.expiresAt (OffsetDateTime.ofTimestamp
        call.eligibilityExpiresAt) ≤ call.now
      · simp only [if_pos hLate] at hNext
        cases hNext
        exact .tooLate
      · simp only [if_neg hLate] at hNext
        cases hNext
        cases call.endpoints with
        | nil => exact .noEndpoint
        | cons first rest => exact .firstEndpoint
  | insertEndpointGrant call expiresAt first rest =>
    cases hCommand
    rw [(insert_run hRun).1]
    cases rest <;> constructor

theorem command_eq_commit (hCommand : accessCommand l = .commit) :
    ∃ revision, l = .finished revision := by
  cases l with
  | finished revision => exact ⟨revision, rfl⟩
  | _ => cases hCommand

-- Sessions That Are Still To Be Terminated

def AccessLocals.pendingGateway : AccessLocals → List AccessGrantId
| .terminateGatewaySessions grantId rest _ => grantId :: rest
| .terminateConsoleSessions _ rest _ => rest
| _ => []

def AccessLocals.pendingConsole : AccessLocals → List AccessGrantId
| .terminateGatewaySessions grantId rest _ => grantId :: rest
| .terminateConsoleSessions grantId rest _ => grantId :: rest
| _ => []

def AccessLocals.pendingKey : AccessLocals → List SshPublicKeyId
| .terminateKeySessions keyId => [keyId]
| _ => []

theorem pending_terminateNext (grants : List AccessGrantId) (environmentId : Option EnvironmentId) :
    (terminateNext grants environmentId).pendingGateway = grants ∧
    (terminateNext grants environmentId).pendingConsole = grants := by
  cases grants with
  | cons grantId rest => exact ⟨rfl, rfl⟩
  | nil => cases environmentId <;> exact ⟨rfl, rfl⟩

variable {grantId : AccessGrantId}

/- A grant stays on the list until the statement that terminates its gateway sessions. -/
theorem pendingGateway_next (hNext : Successor l l') (hPending : grantId ∈ l.pendingGateway) :
    grantId ∈ l'.pendingGateway ∨ ∃ rest environmentId, l = .terminateGatewaySessions grantId rest
      environmentId := by
  cases hNext with
  | @gatewayTerminated first rest environmentId =>
    rcases mem_cons.mp hPending with hFirst | hRest
    · right
      exact ⟨rest, environmentId, by rw [hFirst]⟩
    · left
      exact hRest
  | consolesTerminated =>
    left
    exact hPending
  | _ => cases hPending

theorem pendingConsole_next (hNext : Successor l l') (hPending : grantId ∈ l.pendingConsole) :
    grantId ∈ l'.pendingConsole ∨ ∃ rest environmentId, l = .terminateConsoleSessions grantId rest
      environmentId := by
  cases hNext with
  | gatewayTerminated =>
    left
    exact hPending
  | @consolesTerminated first next rest environmentId =>
    rcases mem_cons.mp hPending with hFirst | hRest
    · right
      exact ⟨next :: rest, environmentId, by rw [hFirst]⟩
    · left
      exact hRest
  | @environmentTerminated first environmentId =>
    right
    rw [mem_singleton.mp hPending]
    exact ⟨[], some environmentId, rfl⟩
  | @grantTerminated first =>
    right
    rw [mem_singleton.mp hPending]
    exact ⟨[], none, rfl⟩
  | _ => cases hPending

-- Grants

variable {state : AccessGrantState}

theorem AccessGrantRow.moveTo_eq_some {grant grant' : AccessGrantRow}
    (hMove : grant.moveTo state = some grant') :
    grant'.state = state ∧ grant'.environmentId = grant.environmentId ∧ grant'.environmentRevision =
      grant.environmentRevision := by
  rcases map_eq_some_iff.mp hMove with ⟨_, _, rfl⟩
  exact ⟨rfl, rfl, rfl⟩

open AccessGrantRow

/- The ways in which a statement writes a grant. -/
inductive GrantChange (view : AccessStore) (id : AccessGrantId) (row : AccessGrantRow) :
    AccessLocals → AccessLocals → Prop where
| created {call : InsertGrantCall} {l' : AccessLocals} (hNew : view.row ⟨.grants, id⟩ = none)
    (hState : row.state = .requested) :
    GrantChange view id row (.createAccessGrant call) l'
| renewed {call : RenewCall} {l' : AccessLocals} {old : AccessGrantRow}
    (hOld : view.row ⟨.grants, id⟩ = some old) (hActive : old.state = .active)
    (hState : row.state = .active) (hEnvironment : row.environmentId = old.environmentId)
    (hRevision : row.environmentRevision = old.environmentRevision) :
    GrantChange view id row (.renewAccessGrant call) l'
| activated {call : ActivationCall} {expiresAt : OffsetDateTime} {l' : AccessLocals}
    {old : AccessGrantRow} (hId : id = call.lease.grantId)
    (hOld : view.row ⟨.grants, id⟩ = some old) (hRequested : old.state = .requested)
    (hState : row.state = .active) (hEnvironment : row.environmentId = old.environmentId)
    (hRevision : row.environmentRevision = old.environmentRevision) :
    GrantChange view id row (.updateActivatedGrant call expiresAt) l'
| denied {lease : ActivationLease} {l' : AccessLocals} {old : AccessGrantRow}
    (hOld : view.row ⟨.grants, id⟩ = some old) (hRequested : old.state = .requested)
    (hState : row.state = .denied) (hEnvironment : row.environmentId = old.environmentId)
    (hRevision : row.environmentRevision = old.environmentRevision) :
    GrantChange view id row (.updateDeniedGrant lease) l'
| ended {l l' : AccessLocals} {old : AccessGrantRow} (hOld : view.row ⟨.grants, id⟩ = some old)
    (hState : row.state = .revoked ∨ row.state = .expired)
    (hEnvironment : row.environmentId = old.environmentId)
    (hRevision : row.environmentRevision = old.environmentRevision)
    (hGateway : id ∈ l'.pendingGateway) (hConsole : id ∈ l'.pendingConsole) :
    GrantChange view id row l l'

variable {id : AccessGrantId} {row : AccessGrantRow}

/- A grant keeps its environment and the revision of it. -/
theorem GrantChange.scope (hChange : GrantChange view id row l l') : view.row ⟨.grants, id⟩ = none ∨
    ∃ old : AccessGrantRow, view.row ⟨.grants, id⟩ = some old ∧
      row.environmentId = old.environmentId ∧
      row.environmentRevision = old.environmentRevision := by
  cases hChange with
  | created hNew _ => exact .inl hNew
  | renewed hOld _ _ hEnvironment hRevision | activated _ hOld _ _ hEnvironment hRevision
  | denied hOld _ _ hEnvironment hRevision | ended hOld _ hEnvironment hRevision _ _ =>
    exact .inr ⟨_, hOld, hEnvironment, hRevision⟩

private theorem grant_ended {condition : AccessGrantId → AccessGrantRow → Bool}
    {ids grants : List AccessGrantId}
    {environmentId : Option EnvironmentId} (hState : state = .revoked ∨ state = .expired)
    (hUpdated : Table.Updated AccessTable.grants condition (moveTo state) view locks ids written)
    (hRow : written.row ⟨.grants, id⟩ = some row) (hPending : id ∈ ids → id ∈ grants) :
    GrantChange view id row l (terminateNext grants environmentId) := by
  rcases hUpdated.written.mp hRow with ⟨hId, old, hOld, hChange⟩
  have hMoved := moveTo_eq_some hChange
  refine .ended hOld ?_ hMoved.2.1 hMoved.2.2 ?_ ?_
  · rwa [hMoved.1]
  · rw [(pending_terminateNext _ _).1]
    exact hPending hId
  · rw [(pending_terminateNext _ _).2]
    exact hPending hId

include hCommand hRun in
theorem grant_changes (hRow : written.row ⟨.grants, id⟩ = some row) :
    GrantChange view id row l l' := by
  have hTable := table_of_row hCommand hRun hRow
  cases l with
  | revokeGrant call =>
    cases hCommand
    rcases updateTable_run hRun with ⟨ids, hNext, hUpdated⟩
    rw [(whenOne_eq_some hNext).1]
    refine grant_ended (.inl rfl) hUpdated hRow ?_
    intro _
    rcases hUpdated.changed hRow with ⟨_, _, _, hCondition, _⟩
    rw [(of_decide_eq_true hCondition).1]
    exact mem_cons_self
  | expireGrant grantId =>
    cases hCommand
    rcases updateTable_run hRun with ⟨ids, ⟨⟩, hUpdated⟩
    refine grant_ended (.inr rfl) hUpdated hRow ?_
    intro _
    rcases hUpdated.changed hRow with ⟨_, _, _, hCondition, _⟩
    rw [of_decide_eq_true hCondition]
    exact mem_cons_self
  | revokeEnvironmentGrants environmentId =>
    cases hCommand
    rcases updateTable_run hRun with ⟨ids, ⟨⟩, hUpdated⟩
    exact grant_ended (.inl rfl) hUpdated hRow (fun hId => hId)
  | renewAccessGrant call =>
    cases hCommand
    rcases updateTable_row hRun hRow with ⟨old, hOld, hCondition, hChange⟩
    have hActive := (of_decide_eq_true hCondition).2.2.2.1
    rcases map_eq_some_iff.mp hChange with ⟨_, _, rfl⟩
    exact .renewed hOld hActive hActive rfl rfl
  | createAccessGrant call =>
    cases hCommand
    rcases insert_run hRun with ⟨_, hNew, _, grant, hValue, hWrites⟩
    rw [hWrites] at hRow
    rcases Store.single_row_eq_some.mp hRow with ⟨rfl, rfl⟩
    split at hValue
    · cases hValue
      exact .created hNew rfl
    · cases hValue
  | updateActivatedGrant call expiresAt =>
    cases hCommand
    rcases updateTable_row hRun hRow with ⟨old, hOld, hCondition, hChange⟩
    have hRequested := of_decide_eq_true hCondition
    rcases map_eq_some_iff.mp hChange with ⟨moved, hMove, hActivated⟩
    have hMoved := moveTo_eq_some hMove
    cases hActivated
    exact .activated hRequested.1 hOld hRequested.2 hMoved.1 hMoved.2.1 hMoved.2.2
  | updateDeniedGrant lease =>
    cases hCommand
    rcases updateTable_row hRun hRow with ⟨old, hOld, hCondition, hChange⟩
    have hRequested := of_decide_eq_true hCondition
    have hMoved := moveTo_eq_some hChange
    exact .denied hOld hRequested.2 hMoved.1 hMoved.2.1 hMoved.2.2
  | _ => cases hTable

include hCommand hRun in
/- Keys are only written to be revoked. -/
theorem key_changes {id : SshPublicKeyId} {row : SshPublicKeyRow}
    (hRow : written.row ⟨.sshKeys, id⟩ = some row) : id ∈ l'.pendingKey := by
  have hTable := table_of_row hCommand hRun hRow
  cases l with
  | deleteSshKey call =>
    cases hCommand
    rcases updateTable_run hRun with ⟨ids, hNext, hUpdated⟩
    rcases hUpdated.changed hRow with ⟨_, _, _, hCondition, _⟩
    rw [(whenOne_eq_some hNext).1, (of_decide_eq_true hCondition).1]
    exact mem_cons_self
  | _ => cases hTable

theorem pendingKey_eq {id : SshPublicKeyId} (hPending : id ∈ l.pendingKey) :
    l = .terminateKeySessions id := by
  cases l with
  | terminateKeySessions keyId => rw [mem_singleton.mp hPending]
  | _ => cases hPending

-- Gateway Sessions

theorem GatewaySessionRow.terminate_eq_some {session session' : GatewaySessionRow}
    (hTerminate : session.terminate = some session') :
    session'.state = .terminating ∧ session'.grantId = session.grantId ∧
    session'.keyId = session.keyId := by
  rcases map_eq_some_iff.mp hTerminate with ⟨_, _, rfl⟩
  exact ⟨rfl, rfl, rfl⟩

/- The ways in which a statement writes a gateway session. -/
inductive GatewayChange (view : AccessStore) (id : GatewaySessionId) (row : GatewaySessionRow) :
    AccessLocals → AccessLocals → Prop where
| inserted {call : GatewayCall} {authorization : SshAuthorizationRow}
    {candidate : EndpointCandidate} (hNew : view.row ⟨.gatewaySessions, id⟩ = none)
    (hRow : row = gatewaySessionRow call authorization candidate) :
    GatewayChange view id row (.insertGatewaySession call authorization candidate)
      (.consumeAuthorization call)
| terminated {l l' : AccessLocals} (hState : row.state = .terminating) :
    GatewayChange view id row l l'

include hCommand hRun in
theorem gateway_changes {id : GatewaySessionId} {row : GatewaySessionRow}
    (hRow : written.row ⟨.gatewaySessions, id⟩ = some row) : GatewayChange view id row l l' := by
  have hTable := table_of_row hCommand hRun hRow
  cases l with
  | insertGatewaySession call authorization candidate =>
    cases hCommand
    rcases insert_run hRun with ⟨hNext, hNew, _, session, hValue, hWrites⟩
    rw [hWrites] at hRow
    rcases Store.single_row_eq_some.mp hRow with ⟨hId, hSession⟩
    rw [hNext]
    cases hValue
    rw [← hId] at hNew
    exact .inserted hNew hSession
  | terminateGatewaySessions grantId rest environmentId | terminateKeySessions keyId =>
    cases hCommand
    rcases updateTable_row hRun hRow with ⟨_, _, _, hChange⟩
    exact .terminated (GatewaySessionRow.terminate_eq_some hChange).1
  | _ => cases hTable

-- Console Sessions

theorem ConsoleSessionRow.terminate_eq_some {session session' : ConsoleSessionRow}
    (hTerminate : session.terminate = some session') :
    session'.state = .terminating ∧ session'.accessGrantId = session.accessGrantId := by
  rcases map_eq_some_iff.mp hTerminate with ⟨_, _, rfl⟩
  exact ⟨rfl, rfl⟩

/- The ways in which a statement writes a console session. -/
inductive ConsoleChange (view : AccessStore) (id : ConsoleSessionId) (row : ConsoleSessionRow) :
    AccessLocals → AccessLocals → Prop where
| opened {call : ConsumeCall} {capabilityId : ConsoleCapabilityId}
    {capability stored : ConsoleCapabilityRow} (hNew : view.row ⟨.consoleSessions, id⟩ = none)
    (hStored : view.row ⟨.capabilities, capabilityId⟩ = some stored)
    (hRow : row = openedSession call capabilityId stored) :
    ConsoleChange view id row (.insertConsoleSession call capabilityId capability)
      (.markCapability call capabilityId)
| connected {sessionId : ConsoleSessionId} {l' : AccessLocals} {old : ConsoleSessionRow}
    (hOld : view.row ⟨.consoleSessions, id⟩ = some old) (hOpening : old.state = .opening)
    (hState : row.state = .active) (hGrant : row.accessGrantId = old.accessGrantId) :
    ConsoleChange view id row (.activateConsoleSession sessionId) l'
| terminated {l l' : AccessLocals} (hState : row.state = .terminating) :
    ConsoleChange view id row l l'

include hCommand hRun in
theorem console_changes {id : ConsoleSessionId} {row : ConsoleSessionRow}
    (hRow : written.row ⟨.consoleSessions, id⟩ = some row) : ConsoleChange view id row l l' := by
  have hTable := table_of_row hCommand hRun hRow
  cases l with
  | insertConsoleSession call capabilityId capability =>
    cases hCommand
    rcases insert_run hRun with ⟨hNext, hNew, _, session, hValue, hWrites⟩
    rw [hWrites] at hRow
    rcases Store.single_row_eq_some.mp hRow with ⟨hId, hSession⟩
    rcases map_eq_some_iff.mp hValue with ⟨stored, hStored, hOpened⟩
    rw [hNext]
    rw [← hId] at hNew
    exact .opened hNew hStored (hSession.trans hOpened.symm)
  | activateConsoleSession sessionId =>
    cases hCommand
    rcases updateTable_row hRun hRow with ⟨old, hOld, hCondition, hChange⟩
    rcases map_eq_some_iff.mp hChange with ⟨_, _, rfl⟩
    exact .connected hOld (of_decide_eq_true hCondition).2 rfl rfl
  | terminateConsoleSessions grantId rest environmentId =>
    cases hCommand
    rcases updateTable_row hRun hRow with ⟨_, _, _, hChange⟩
    exact .terminated (ConsoleSessionRow.terminate_eq_some hChange).1
  | _ => cases hTable

include hCommand hRun in
theorem capability_changes {id : ConsoleCapabilityId} {row : ConsoleCapabilityRow}
    (hRow : written.row ⟨.capabilities, id⟩ = some row) :
    ∃ old : ConsoleCapabilityRow, view.row ⟨.capabilities, id⟩ = some old ∧
      row.accessGrantId = old.accessGrantId := by
  have hTable := table_of_row hCommand hRun hRow
  cases l with
  | markCapability call capabilityId =>
    cases hCommand
    rcases updateTable_row hRun hRow with ⟨old, hOld, _, ⟨⟩⟩
    exact ⟨old, hOld, rfl⟩
  | _ => cases hTable

/- The transaction has written nothing yet. -/
def AccessLocals.clean : AccessLocals → Bool
| .markCapability _ _ | .terminateGatewaySessions _ _ _
| .terminateConsoleSessions _ _ _ | .selectMaximumRevision _
| .renewEndpointGrants _ _ | .terminateKeySessions _
| .consumeAuthorization _ | .insertActivationJob _ _
| .insertEndpointGrant _ _ _ _ | .updateActivatedGrant _ _
| .completeActivationJob _ | .updateDeniedGrant _
| .failActivationJob _ | .finished _ => false
| _ => true

/- Only queries of such a place lead to another one. -/
theorem clean_next (hNext : Successor l l') (hClean : l'.clean = true) :
    l.clean = true ∧ l.writes = none := by
  cases hNext <;>
    first
    | exact ⟨rfl, rfl⟩
    | cases hClean

-- Where Sessions Are Created

theorem insertGatewaySession_of_next {call : GatewayCall} {authorization : SshAuthorizationRow}
    {candidate : EndpointCandidate} (hCommand : accessCommand l = .execute statement)
    (hRun : statement.run view locks = some (.insertGatewaySession call authorization candidate,
      written)) :
    l = .selectEndpointGrant call authorization ∧
    candidate ∈ findEndpointGrants call authorization view ∧
    ∀ lock ∈ candidateLocks authorization candidate, lock ∈ locks := by
  cases successor_of_run hCommand hRun with
  | candidateFound =>
    cases hCommand
    have hNext := (query_run hRun).1
    split at hNext
    · cases hNext
    · rename_i found hFound
      split at hNext
      · cases hNext
        have hMember := mem_of_find?_eq_some hFound
        have hLocked := List.find?_some hFound
        exact ⟨rfl, hMember, of_decide_eq_true hLocked⟩
      · cases hNext

/- A console session is opened for a capability that is locked and whose grant was active in the
  view. -/
theorem insertConsoleSession_of_next {call : ConsumeCall} {id : ConsoleCapabilityId}
    {capability : ConsoleCapabilityRow} (hCommand : accessCommand l = .execute statement)
    (hRun : statement.run view locks = some (.insertConsoleSession call id capability, written)) :
    l = .selectCapability call ∧ (⟨.capabilities, id⟩, .update) ∈ locks ∧
    ∃ grant session, (id, capability, grant, session) ∈ findCapability call view ∧
      consumable call capability grant session := by
  cases successor_of_run hCommand hRun with
  | capabilityFound =>
    cases hCommand
    have hNext := (query_run hRun).1
    split at hNext
    · cases hNext
    · rename_i id' capability' grant session hFound
      rcases ite_none_right_eq_some.mp hNext with ⟨hChecks, ⟨⟩⟩
      have hMember := mem_of_find?_eq_some hFound
      have hLocked := List.find?_some hFound
      exact ⟨rfl, of_decide_eq_true hLocked, grant, session, hMember, hChecks.1⟩

-- What A Transaction Holds

def AccessLocals.ending : AccessLocals → List AccessGrantId
| .expireGrant grantId => [grantId]
| .terminateGatewaySessions grantId rest _ => grantId :: rest
| .terminateConsoleSessions grantId rest _ => grantId :: rest
| _ => []

/- An UPDATE that has to reach one row writes it. -/
theorem written_of_whenOne {t : AccessTable} {key : AccessTable.Id t}
    {condition : AccessTable.Id t → AccessTable.Row t → Bool}
    {change : AccessTable.Row t → Option (AccessTable.Row t)} {next : AccessLocals}
    (hRun : (updateTable t condition change (whenOne next)).run view locks =
      some (l', written)) (hKey : ∀ id row, condition id row = true → id = key) :
    written.row ⟨t, key⟩ ≠ none := by
  rcases updateTable_run hRun with ⟨ids, hNext, hUpdated⟩
  rcases length_eq_one_iff.mp (whenOne_eq_some hNext).2 with ⟨only, rfl⟩
  rcases (hUpdated.returned.mp mem_cons_self).2 with ⟨row, _, hCondition⟩
  rw [← hKey only row hCondition]
  rcases hUpdated.total mem_cons_self with ⟨_, hRow⟩
  simp [hRow]

include hCommand hRun in
theorem ending_of_next (hEnding : id ∈ l'.ending) :
    id ∈ l.ending ∨ written.row ⟨.grants, id⟩ ≠ none ∨
    ∃ call : ExpireCall, l = .expireGrants call ∧ id = call.grantId ∧
      expireDue call view = true := by
  cases successor_of_run hCommand hRun with
  | @expiredFound call =>
    cases hCommand
    right
    right
    have hNext := (query_run hRun).1
    split at hNext
    · rename_i hDue
      exact ⟨call, rfl, mem_singleton.mp hEnding, hDue⟩
    · cases hNext
  | grantExpired | gatewayTerminated =>
    left
    exact hEnding
  | consolesTerminated =>
    left
    exact mem_cons_of_mem _ hEnding
  | @grantRevoked call =>
    cases hCommand
    right
    left
    rw [mem_singleton.mp hEnding]
    exact written_of_whenOne hRun fun _ _ hCondition => (of_decide_eq_true hCondition).1
  | @environmentRevoked environmentId first rest =>
    cases hCommand
    right
    left
    rcases updateTable_run hRun with ⟨ids, hNext, hUpdated⟩
    have hIds : ids = first :: rest := by
      cases ids with
      | nil => cases hNext
      | cons _ _ =>
        cases hNext
        rfl
    have hMember : id ∈ ids := by
      rwa [hIds]
    rcases hUpdated.total hMember with ⟨_, hRow⟩
    simp [hRow]
  | _ => cases hEnding

include hCommand hRun in
/- A key's sessions are terminated after it was written. -/
theorem pendingKey_of_next {id : SshPublicKeyId} (hPending : id ∈ l'.pendingKey) :
    written.row ⟨.sshKeys, id⟩ ≠ none := by
  cases successor_of_run hCommand hRun with
  | @keyDeleted call =>
    cases hCommand
    rw [mem_singleton.mp hPending]
    exact written_of_whenOne hRun fun _ _ hCondition => (of_decide_eq_true hCondition).1
  | _ => cases hPending

end

/- Nothing is written before the first write, and the grants and keys that are being ended are
  locked for writing. -/
structure Held (tx : AccessTransaction) : Prop where
  clean : tx.locals.clean = true → ∀ k, tx.writes.row k = none
  ending : ∀ {id}, id ∈ tx.locals.ending → tx.locks.Writes ⟨.grants, id⟩
  key : ∀ {id}, id ∈ tx.locals.pendingKey → tx.locks.Writes ⟨.sshKeys, id⟩

namespace Held

variable {l l' : AccessLocals} {statement : AccessStep} {committed snapshot written : AccessStore}
  {tx : AccessTransaction}

theorem begin (hEntry : accessEntry l = true) : Held (.fresh l) := by
  refine ⟨fun _ _ => rfl, ?_, ?_⟩
  · intro id hEnding
    cases l <;>
      first
      | exact absurd hEntry Bool.false_ne_true
      | cases hEnding
  · intro id hPending
    cases l <;>
      first
      | exact absurd hEntry Bool.false_ne_true
      | cases hPending

theorem started (hHeld : Held tx) : Held (tx.started committed) :=
  ⟨hHeld.clean, hHeld.ending, hHeld.key⟩

/- The row that `expire_grants` finds is locked. -/
theorem expireDue_locked {call : ExpireCall} (hDue : expireDue call (tx.view committed snapshot
          ((selectExpired call).scan snapshot)) = true) :
    Locks.Writes ((selectExpired call).scan snapshot) ⟨.grants, call.grantId⟩ := by
  have hScan : (selectExpired call).scan snapshot =
      if expireDue call snapshot then [(⟨.grants, call.grantId⟩, .update)] else [] := rfl
  rw [hScan] at hDue ⊢
  by_cases hSnapshot : expireDue call snapshot = true
  · rw [if_pos hSnapshot]
    exact ⟨.update, mem_cons_self, rfl⟩
  · rw [if_neg hSnapshot] at hDue
    unfold expireDue at hDue hSnapshot
    rw [Transaction.view_row_of_not_locked not_mem_nil] at hDue
    exact absurd hDue hSnapshot

theorem finished (hHeld : Held tx) (hCommand : accessCommand tx.locals = .execute statement)
    (hRun : tx.Runs statement committed snapshot l' written) : Held (tx.after hRun) := by
  refine ⟨?_, ?_, ?_⟩
  · intro hClean k
    have hBefore := clean_next (successor_of_run hCommand hRun) hClean
    have hNone : written.row k = none := by
      apply row_of_other_table hCommand hRun
      rw [hBefore.2]
      exact some_ne_none _ |>.symm
    simp only [Transaction.finished]
    rw [Store.overlay_row_of_none hNone]
    exact hHeld.clean hBefore.1 k
  · intro id hEnding
    rcases ending_of_next hCommand hRun hEnding with hBefore | hWritten | ⟨call, hLocals, hId, hDue⟩
    · exact (hHeld.ending hBefore).append_right _
    · exact (statement.covered hRun hWritten).append_left _
    · rw [hLocals] at hCommand
      cases hCommand
      subst hId
      exact (expireDue_locked hDue).append_left _
  · intro id hPending
    have hWritten := pendingKey_of_next hCommand hRun hPending
    exact (statement.covered hRun hWritten).append_left _

end Held

end LabWeaver
