import LabWeaver.Environment.Store

/-
  This file says for each transaction of the Environment repository what it has checked when it
  commits and which tables it leaves.
-/

namespace LabWeaver

open Outcome

-- Creation

variable {δ : Type} {hash : RequestDocument → δ} {tables tables' : EnvironmentTables δ}
  {idempotencyKey : String} {accepted : EnvironmentOperationAccepted}

section

variable [DecidableEq δ] {env : EnvironmentInstance}

def insertedTables (hash : RequestDocument → δ) (tables : EnvironmentTables δ)
    (idempotencyKey : String) (env : EnvironmentInstance) : EnvironmentTables δ where
  instances := Function.update tables.instances env.id (some env)
  operations := operationRow env :: tables.operations
  ledger := tables.ledger.complete ("create", idempotencyKey) (hash (.create (createDocument env)))
    (acceptedResponse env)
  outbox := environmentEvent env .operationAccepted env.operation.acceptedAt :: tables.outbox

structure EnvironmentInserted (tables : EnvironmentTables δ)
    (env : EnvironmentInstance) : Prop where
  absent : tables.instances env.id = none
  generation : env.generation ≤ maxI64
  observedGeneration : env.observedGeneration ≤ maxI64
  revision : env.revision.get ≤ maxI64
  operation : OperationInserted tables env
  event : EventEnqueued tables env

omit [DecidableEq δ] in
theorem insertEnvironment_eq_ok :
    insertEnvironment hash tables idempotencyKey env = .ok (accepted, tables') ↔
      EnvironmentInserted tables env ∧ accepted = acceptedResponse env ∧ tables' =
        insertedTables hash tables idempotencyKey env := by
  simp only [insertEnvironment, enqueueEnvironmentEvent, steps_eq_ok, asI64_eq_ok,
    insertOperation_eq_ok, enqueueEnvironmentEventAt_eq_ok]
  constructor
  · rintro ⟨hGeneration, hObserved, hRevision, hAbsent, _, ⟨hOperation, rfl⟩, _, ⟨hEvent, rfl⟩,
      ⟨⟩⟩
    exact ⟨⟨hAbsent, hGeneration, hObserved, hRevision, ⟨hOperation.acceptedRevision,
      hOperation.generation, hOperation.attempt, hOperation.fresh⟩,
      ⟨hEvent.trace, hEvent.sequence, hEvent.fresh⟩⟩,
      rfl, rfl⟩
  · rintro ⟨⟨hAbsent, hGeneration, hObserved, hRevision, hOperation, hEvent⟩, rfl, rfl⟩
    exact ⟨hGeneration, hObserved, hRevision, hAbsent, _, ⟨⟨hOperation.acceptedRevision,
      hOperation.generation, hOperation.attempt, hOperation.fresh⟩, rfl⟩, _,
      ⟨⟨hEvent.trace, hEvent.sequence, hEvent.fresh⟩, rfl⟩, rfl⟩

/- A creation either replays the stored answer and changes nothing, or inserts a fresh aggregate
  under a free key. -/
theorem createInTransaction_eq_ok :
    createInTransaction hash tables idempotencyKey env = .ok (accepted, tables') ↔
      IdempotencyKey.parses idempotencyKey = true ∧ env.Valid ∧ freshAggregate env ∧
      (tables.ledger ("create", idempotencyKey) = some
        { requestHash := hash (.create (createDocument env)), result := some accepted } ∧
        tables' = tables ∨
      tables.ledger ("create", idempotencyKey) = none ∧ EnvironmentInserted tables env ∧
        accepted = acceptedResponse env ∧
        tables' = insertedTables hash tables idempotencyKey env) := by
  simp only [createInTransaction, steps_eq_ok, storeContract_eq_ok,
    EnvironmentInstance.validate_eq_ok]
  rw [← insertEnvironment_eq_ok, ← Ledger.reserve_eq_replay, ← Ledger.reserve_eq_reserved]
  cases tables.ledger.reserve _ _ <;> simp [eq_comm (a := tables)]

end

-- Commands

variable (tables)

def supersededLease (current : EnvironmentInstance) (kind : EnvironmentOperationKind) :
    Option UtcTimestamp :=
  if kind.destructive = true ∧ current.operation.state.active = true then
    (findOperation tables.operations current.operation.id).bind
      (fun row => row.lease.map (·.expiresAt))
  else none

def supersededRows (current : EnvironmentInstance) (kind : EnvironmentOperationKind) :
    List OperationRow :=
  if kind.destructive = true ∧ current.operation.state.active = true then
    mapOperation current.operation.id (fun row => { row with state := .cancelled })
      tables.operations
  else tables.operations

/- The active operation that a cleanup command cancels is in the table. -/
def Supersedable (current : EnvironmentInstance) (kind : EnvironmentOperationKind) : Prop :=
  kind.destructive = true ∧ current.operation.state.active = true →
    ∃ row, findOperation tables.operations current.operation.id = some row ∧ row.state.active = true

variable {tables}

theorem supersedeOperation_eq_ok {current : EnvironmentInstance} {kind : EnvironmentOperationKind}
    {lease : Option UtcTimestamp} :
    supersedeOperation tables current kind = .ok (lease, tables') ↔
      Supersedable tables current kind ∧ lease = supersededLease tables current kind ∧ tables' =
        { tables with operations := supersededRows tables current kind } := by
  unfold supersedeOperation Supersedable supersededLease supersededRows
  split
  · rename_i hBoth
    simp only [steps_eq_ok, Option.filter_eq_some_iff]
    constructor
    · rintro ⟨row, ⟨hFind, hActive⟩, ⟨⟩⟩
      rw [hFind]
      exact ⟨fun _ => ⟨row, rfl, hActive⟩, rfl, rfl⟩
    · rintro ⟨hRow, rfl, rfl⟩
      rcases hRow hBoth with ⟨row, hFind, hActive⟩
      rw [hFind]
      exact ⟨row, ⟨rfl, hActive⟩, rfl⟩
  · rename_i hNot
    constructor
    · rintro ⟨⟩
      exact ⟨fun hBoth => absurd hBoth hNot, rfl, rfl⟩
    · rintro ⟨_, rfl, rfl⟩
      rfl

/- The next attempt of an operation behind a fence. -/
def fencedAttempt (planned : EnvironmentInstance) (lease : Option UtcTimestamp) : UtcTimestamp :=
  max planned.operation.nextAttemptAt (lease.getD planned.operation.nextAttemptAt)

theorem fenceAttempt_eq_ok {planned fenced : EnvironmentInstance} {lease : Option UtcTimestamp}
    (hPlanned : planned.Valid) : fenceAttempt planned lease = .ok fenced ↔
      fenced = planned.withNextAttempt (fencedAttempt planned lease) ∧ fenced.Valid := by
  have hKept : .ok planned = (.ok fenced : StoreResult _) ↔
      fenced = planned.withNextAttempt planned.operation.nextAttemptAt ∧ fenced.Valid := by
    constructor
    · rintro ⟨⟩
      exact ⟨rfl, hPlanned⟩
    · rintro ⟨rfl, _⟩
      rfl
  unfold fenceAttempt fencedAttempt
  cases lease with
  | none =>
    rwa [Option.getD_none, max_self]
  | some expiresAt =>
    simp only [Option.getD_some]
    split
    · rename_i hLater
      rw [max_eq_right (le_of_lt hLater)]
      simp only [steps_eq_ok, storeContract_eq_ok, EnvironmentInstance.validate_eq_ok]
      constructor
      · rintro ⟨hValid, ⟨⟩⟩
        exact ⟨rfl, hValid⟩
      · rintro ⟨rfl, hValid⟩
        exact ⟨hValid, rfl⟩
    · rename_i hNotLater
      rwa [max_eq_left (not_lt.mp hNotLater)]

section

variable {clock : UtcTimestamp} {command : EnvironmentLifecycleCommand}
  {leaseAuthorization : Option EnvironmentLeaseAuthorization} {courseId : Option CourseId}
  {operationId : OperationId}

def commandTables (hash : RequestDocument → δ) (tables : EnvironmentTables δ)
    (idempotencyKey : String) (command : EnvironmentLifecycleCommand)
    (current fenced : EnvironmentInstance) : EnvironmentTables δ where
  instances := Function.update tables.instances current.id (some fenced)
  operations := operationRow fenced :: supersededRows tables current command.kind
  ledger := tables.ledger.complete (operationName command.kind, idempotencyKey)
    (hash (.command command)) (acceptedResponse fenced)
  outbox := environmentEvent fenced .operationAccepted fenced.operation.acceptedAt :: tables.outbox

/- `current` was stored, `planned` is its plan, and `fenced` is the plan held back behind the lease
  of the superseded operation. -/
structure CommandApplied (tables : EnvironmentTables δ) (clock : UtcTimestamp)
    (command : EnvironmentLifecycleCommand)
    (leaseAuthorization : Option EnvironmentLeaseAuthorization) (operationId : OperationId)
    (current planned fenced : EnvironmentInstance) :
    Prop where
  stored : tables.instances command.environmentId = some current
  valid : current.Valid
  plan : planCommandAuthorized current command operationId leaseAuthorization clock = .ok planned
  fence : fenced = planned.withNextAttempt (fencedAttempt planned
    (supersededLease tables current command.kind))
  superseded : Supersedable tables current command.kind
  written : InstanceWritten tables current fenced
  attempt : fenced.operation.attempt - 1 ≤ maxI32
  fresh : ∀ row ∈ supersededRows tables current command.kind, row.operationId ≠ fenced.operation.id
  event : EventEnqueued tables fenced

theorem applyCommand_eq_ok :
    applyCommand hash tables clock idempotencyKey command leaseAuthorization courseId operationId =
      .ok (accepted, tables') ↔ ∃ current planned fenced, CommandApplied tables clock command
        leaseAuthorization operationId current planned fenced ∧
        (∀ course ∈ courseId, course = current.courseId) ∧ accepted = acceptedResponse fenced ∧
        tables' = commandTables hash tables idempotencyKey command current fenced := by
  simp only [applyCommand, enqueueEnvironmentEvent, steps_eq_ok, loadLocked_eq_ok,
    storeLifecycle_eq_ok, updateInstance_eq_ok, insertOperation_eq_ok,
    enqueueEnvironmentEventAt_eq_ok, supersedeOperation_eq_ok, Prod.exists]
  constructor
  · rintro ⟨current, ⟨hStored, hValid⟩, hCourse, _, _, ⟨hActive, rfl, rfl⟩, planned, hPlan, fenced,
      hFence, _, ⟨hWritten, rfl⟩, _, ⟨hInserted, rfl⟩, _, ⟨hEvent, rfl⟩, hReturn⟩
    obtain ⟨_, _, _, _, _, _, hPlanned⟩ := planCommandAuthorized_eq_ok.mp hPlan
    obtain ⟨hFenced, _⟩ := (fenceAttempt_eq_ok hPlanned).mp hFence
    cases hReturn
    exact ⟨current, planned, fenced, ⟨hStored, hValid, hPlan, hFenced, hActive,
      ⟨hWritten.valid, hWritten.expectedRevision, hWritten.generation, hWritten.observedGeneration,
        hWritten.revision, hWritten.fence⟩,
      hInserted.attempt, hInserted.fresh, ⟨hEvent.trace, hEvent.sequence, hEvent.fresh⟩⟩,
      hCourse, rfl, rfl⟩
  · rintro ⟨current, planned, fenced, hApplied, hCourse, rfl, rfl⟩
    have hWritten := hApplied.written
    obtain ⟨_, _, _, _, _, hEq, hPlanned⟩ := planCommandAuthorized_eq_ok.mp hApplied.plan
    -- the operation is accepted at the revision that is written
    have hRevision : fenced.operation.acceptedRevision.get ≤ maxI64 := by
      have hFits := hWritten.revision
      rw [hApplied.fence, hEq] at hFits ⊢
      exact hFits
    exact ⟨current, ⟨hApplied.stored, hApplied.valid⟩, hCourse, _, _,
      ⟨hApplied.superseded, rfl, rfl⟩, planned, hApplied.plan, fenced,
      (fenceAttempt_eq_ok hPlanned).mpr ⟨hApplied.fence, hWritten.valid⟩, _,
      ⟨⟨hWritten.valid, hWritten.expectedRevision, hWritten.generation,
        hWritten.observedGeneration, hWritten.revision, hWritten.fence⟩, rfl⟩, _,
      ⟨⟨hRevision, hWritten.generation, hApplied.attempt, hApplied.fresh⟩, rfl⟩, _,
      ⟨⟨hApplied.event.trace, hApplied.event.sequence, hApplied.event.fresh⟩, rfl⟩, rfl⟩

variable [DecidableEq δ] {create : Option EnvironmentCreateSpec}

/- A command is answered from the ledger, or its key was free and it is applied. -/
theorem acceptCommandInTransaction_eq_ok (hKind : command.kind ≠ .create) :
    acceptCommandInTransaction hash tables clock idempotencyKey command create leaseAuthorization
      courseId operationId = .ok (accepted, tables') ↔ create = none ∧
      IdempotencyKey.parses idempotencyKey = true ∧
      (tables.ledger (operationName command.kind, idempotencyKey) = some
        { requestHash := hash (.command command), result := some accepted } ∧ tables' = tables ∨
      tables.ledger (operationName command.kind, idempotencyKey) = none ∧
        ∃ current planned fenced, CommandApplied tables clock command leaseAuthorization operationId
          current planned fenced ∧ (∀ course ∈ courseId, course = current.courseId) ∧
          accepted = acceptedResponse fenced ∧
          tables' = commandTables hash tables idempotencyKey command current fenced) := by
  simp only [acceptCommandInTransaction, if_neg hKind, steps_eq_ok]
  rw [← applyCommand_eq_ok, ← Ledger.reserve_eq_replay, ← Ledger.reserve_eq_reserved]
  cases tables.ledger.reserve _ _ <;> simp [eq_comm (a := tables)]

end

-- Workers

section

variable {startedAt clock : UtcTimestamp} {leaseDuration : Nat} {lease : LeasedEnvironment}

def leasedRow (lease : LeasedEnvironment) (expiresAt : UtcTimestamp)
    (row : OperationRow) : OperationRow :=
  { row with lease := some { owner := lease.workerId, token := lease.leaseToken, expiresAt } }

def claimedRow (lease : LeasedEnvironment) (expiresAt : UtcTimestamp)
    (row : OperationRow) : OperationRow :=
  { leasedRow lease expiresAt row with state := .running }

structure ClaimGranted (tables : EnvironmentTables δ) (startedAt : UtcTimestamp)
    (leaseDuration : Nat) (candidate : OperationId) (row : OperationRow)
    (lease : LeasedEnvironment) : Prop where
  worker : workerValid lease.workerId leaseDuration
  found : findOperation tables.operations candidate = some row
  due : claimable row startedAt
  stored : tables.instances row.environmentId = some lease.env
  valid : lease.env.Valid

theorem claimDue_eq_ok {workerId : String} {leaseToken : BitVec 128} {candidate : OperationId}
    (hClaim : claimDue tables startedAt clock workerId leaseDuration
      leaseToken candidate = .ok (some (lease, tables'))) :
    ∃ row, ClaimGranted tables startedAt leaseDuration candidate row lease ∧ tables' =
      { tables with
        operations := mapOperation candidate (claimedRow lease (clock + leaseDuration))
          tables.operations } := by
  simp only [claimDue, steps_eq_ok] at hClaim
  obtain ⟨hWorker, hCandidate⟩ := hClaim
  split at hCandidate
  · cases hCandidate
  · rename_i row hRow
    simp only [bind_eq_ok, loadLocked_eq_ok] at hCandidate
    obtain ⟨env, ⟨hStored, hValid⟩, hReturn⟩ := hCandidate
    obtain ⟨hFind, hDue⟩ := Option.filter_eq_some_iff.mp hRow
    cases hReturn
    exact ⟨row, ⟨hWorker, hFind, of_decide_eq_true hDue, hStored, hValid⟩, rfl⟩

variable (tables)

/- What a heartbeat has checked. -/
structure LeaseRenewed (startedAt : UtcTimestamp) (leaseDuration : Nat) (lease : LeasedEnvironment)
    (row : OperationRow) : Prop where
  worker : workerValid lease.workerId leaseDuration
  found : findOperation tables.operations lease.env.operation.id = some row
  current : leaseCurrent row lease startedAt
  running : row.state = .running

def savedRow (updated : EnvironmentInstance) (row : OperationRow) : OperationRow :=
  { row with
    state := updated.operation.state, nextAttemptAt := updated.operation.nextAttemptAt,
    lease := none }

def savedTables (clock : UtcTimestamp) (stored updated : EnvironmentInstance) :
    EnvironmentTables δ :=
  { tables with
    instances := Function.update tables.instances stored.id (some updated),
    operations := mapOperation stored.operation.id (savedRow updated) tables.operations,
    outbox := environmentEvent updated .stateChanged clock :: tables.outbox }

structure ReconciledSaved (startedAt : UtcTimestamp) (lease : LeasedEnvironment)
    (stored updated : EnvironmentInstance) (row : OperationRow) : Prop where
  loaded : tables.instances lease.env.id = some stored
  valid : stored.Valid
  revision : stored.revision = lease.env.revision
  operation : stored.operation.id = lease.env.operation.id
  sameOperation : updated.operation.id = stored.operation.id
  found : findOperation tables.operations stored.operation.id = some row
  current : leaseCurrent row lease startedAt
  written : InstanceWritten tables stored updated
  attempt : updated.operation.attempt - 1 ≤ maxI32
  event : EventEnqueued tables updated

variable {tables}

theorem saveReconciled_eq_ok {updated : EnvironmentInstance}
    (hSave : saveReconciled tables startedAt clock lease updated = .ok tables') :
    ∃ stored row, ReconciledSaved tables startedAt lease stored updated row ∧
      tables' = savedTables tables clock stored updated := by
  simp only [saveReconciled, steps_eq_ok, loadLocked_eq_ok, asI64_eq_ok, updateInstance_eq_ok,
    enqueueEnvironmentEventAt_eq_ok] at hSave
  obtain ⟨stored, ⟨hStored, hValid⟩, ⟨hRevision, hOperation, hSame⟩, row, hFound, hCurrent,
    t1, ⟨hWritten, hT1⟩, hAttempt, _, hEvent, hT2⟩ := hSave
  subst hT1
  subst hT2
  refine ⟨stored, row, ⟨hStored, hValid, hRevision, hOperation, hSame, ?_,
    hCurrent, hWritten, hAttempt, ⟨hEvent.trace, hEvent.sequence, hEvent.fresh⟩⟩, ?_⟩
  · rwa [hOperation]
  · unfold savedTables
    rw [hOperation]
    rfl

end

-- Lease Refresh

section

variable {environmentId : EnvironmentId} {authorization : EnvironmentLeaseAuthorization} (tables)

def refreshedTables (current updated : EnvironmentInstance) : EnvironmentTables δ :=
  { tables with
    instances := Function.update tables.instances current.id (some updated),
    outbox := environmentEvent updated .stateChanged updated.operation.acceptedAt :: tables.outbox }

structure LeaseRefreshed (environmentId : EnvironmentId)
    (authorization : EnvironmentLeaseAuthorization) (current : EnvironmentInstance)
    (revision : Revision) : Prop where
  stored : tables.instances environmentId = some current
  valid : current.Valid
  changed : ¬leaseUnchanged current authorization
  extendsHeld : extendsLease current authorization
  nextRevision : revision.get = current.revision.get + 1
  written : InstanceWritten tables current (refreshedInstance current authorization revision)
  event : EventEnqueued tables (refreshedInstance current authorization revision)

variable {tables}

/- A refresh either finds the authorization already stored and changes nothing, or extends the
  lease. -/
theorem refreshWorkLease_eq_ok {result : EnvironmentInstance} :
    refreshWorkLease tables environmentId authorization = .ok (result, tables') ↔
      (tables.instances environmentId = some result ∧ result.Valid ∧
        leaseUnchanged result authorization ∧ tables' = tables) ∨
      ∃ current revision, LeaseRefreshed tables environmentId authorization current revision ∧
        result = refreshedInstance current authorization revision ∧
        tables' = refreshedTables tables current result := by
  simp only [refreshWorkLease, bind_eq_ok, loadLocked_eq_ok]
  constructor
  · rintro ⟨current, ⟨hStored, hValid⟩, hRest⟩
    split at hRest
    · rename_i hUnchanged
      cases hRest
      exact .inl ⟨hStored, hValid, hUnchanged, rfl⟩
    · rename_i hChanged
      simp only [enqueueEnvironmentEvent, steps_eq_ok, Revision.next_eq_some, updateInstance_eq_ok,
        enqueueEnvironmentEventAt_eq_ok]
        at hRest
      obtain ⟨hExtends, revision, hRevision, t1,
        ⟨hWritten, hT1⟩, t2, ⟨hEvent, hT2⟩, hReturn⟩ := hRest
      subst hT1
      subst hT2
      cases hReturn
      exact .inr ⟨current, revision, ⟨hStored, hValid, hChanged, hExtends, hRevision, hWritten,
        ⟨hEvent.trace, hEvent.sequence, hEvent.fresh⟩⟩,
        rfl, rfl⟩
  · rintro (⟨hStored, hValid, hUnchanged, hEq⟩ | ⟨current, revision, hRefresh, hResult, hEq⟩)
    · subst hEq
      refine ⟨result, ⟨hStored, hValid⟩, ?_⟩
      rw [if_pos hUnchanged]
    · subst hResult
      subst hEq
      refine ⟨current, ⟨hRefresh.stored, hRefresh.valid⟩, ?_⟩
      rw [if_neg hRefresh.changed]
      simp only [enqueueEnvironmentEvent, steps_eq_ok, Revision.next_eq_some, updateInstance_eq_ok,
        enqueueEnvironmentEventAt_eq_ok]
      exact ⟨hRefresh.extendsHeld, revision, hRefresh.nextRevision, _, ⟨hRefresh.written, rfl⟩, _,
        ⟨⟨hRefresh.event.trace, hRefresh.event.sequence, hRefresh.event.fresh⟩, rfl⟩, rfl⟩

end

end LabWeaver
