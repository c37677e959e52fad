import LabWeaver.Base.Ledger
import LabWeaver.Environment.Lifecycle

/-
  This file models the Environment repository: its rows, and the transactions that create an
  environment, accept a command, claim and renew the lease of an operation, save a reconciled
  aggregate and refresh the lease of a Work environment. A transaction either returns the tables
  it commits or fails.

  Key definitions: `EnvironmentTables`, `acceptCommandInTransaction`.
-/

namespace LabWeaver

open Outcome

-- Rows

/- The provider-call lease of an operation row. The owner, the token and the expiry are present
  together. -/
structure OperationLease where
  owner : String
  token : BitVec 128
  expiresAt : UtcTimestamp
deriving DecidableEq

/- The columns of an operation row that are read back. -/
structure OperationRow where
  operationId : OperationId
  environmentId : EnvironmentId
  state : OperationState
  nextAttemptAt : UtcTimestamp
  lease : Option OperationLease
deriving DecidableEq

inductive EnvironmentSubject where
| operationAccepted
| stateChanged

/- An event in the Outbox with its payload. -/
structure EnvironmentEvent where
  subject : EnvironmentSubject
  aggregateId : EnvironmentId
  aggregateSequence : Nat
  occurredAt : UtcTimestamp
  courseId : CourseId
  traceId : String
  generation : Nat
  state : ObservedEnvironmentState
  operationId : OperationId
  diagnosticCode : Option String

/- The answer to an accepted command. Its status URL is written from the two identifiers. -/
structure EnvironmentOperationAccepted where
  operationId : OperationId
  revision : Revision
  environmentId : EnvironmentId

/- The fields of an aggregate that identify its creation. -/
structure CreateDocument where
  courseId : CourseId
  ownerId : ActorId
  environmentClass : EnvironmentClass
  runtimeKind : RuntimeKind
  releaseId : ReleaseId
  releaseVersion : Nat
  leaseId : Option LeaseId
  capacityBinding : Option String
  actorId : ActorId
  providerBinding : String
  eligibilityExpiresAt : UtcTimestamp
  traceId : String
  (acceptedAt deadlineAt : UtcTimestamp)
  maxAttempts : Nat
  leaseAuthorization : Option EnvironmentLeaseAuthorization
deriving DecidableEq

/- The canonical documents hashed for the ledger. A command is hashed with all of its fields. -/
inductive RequestDocument where
| create (document : CreateDocument)
| command (command : EnvironmentLifecycleCommand)
deriving DecidableEq

structure EnvironmentTables (δ : Type) where
  instances : EnvironmentId → Option EnvironmentInstance
  operations : List OperationRow
  ledger : Ledger (String × String) δ EnvironmentOperationAccepted
  outbox : List EnvironmentEvent

inductive EnvironmentStoreError where
| environmentNotFound
| operationNotFound
| environmentAlreadyExists
| invalidCreateAggregate
| createSpecRequired
| createSpecUnexpected
| inboundMetadataInvalid
| leaseAuthorizationRequired
| leaseAuthorizationInvalid
| invalidIdempotencyKey
| idempotencyConflict
| idempotencyInProgress
| revisionConflict
| invalidLease
| leaseLost
| numericOverflow (field : String)
| contract (error : EnvironmentError)
| event
| lifecycle (error : LifecycleError)
| database
| persistence (error : PersistenceError)
deriving DecidableEq

abbrev StoreResult := Except EnvironmentStoreError

/- The `?` on a contract check of a transaction. -/
def storeContract {α : Type} (x : Except EnvironmentError α) : StoreResult α := x.mapError .contract

@[simp] theorem storeContract_eq_ok {α : Type} {x : Except EnvironmentError α} {a : α} :
    storeContract x = .ok a ↔ x = .ok a :=
  mapError_eq_ok

/- The `?` on a lifecycle call of a transaction. -/
def storeLifecycle {α : Type} (x : Except LifecycleError α) : StoreResult α := x.mapError .lifecycle

@[simp] theorem storeLifecycle_eq_ok {α : Type} {x : Except LifecycleError α} {a : α} :
    storeLifecycle x = .ok a ↔ x = .ok a :=
  mapError_eq_ok

/- `as_i64`: the value fits a `BIGINT` column. -/
def asI64 (value : Nat) (field : String) : StoreResult Unit :=
  ensure (value ≤ maxI64) (.numericOverflow field)

@[simp] theorem asI64_eq_ok {value : Nat} {field : String} {u : Unit} :
    asI64 value field = .ok u ↔ value ≤ maxI64 :=
  ensure_eq_ok

-- Reading And Writing Rows

variable {δ : Type}

section

/- `load_locked`: the stored aggregate, validated again. -/
def loadLocked (tables : EnvironmentTables δ) (environmentId : EnvironmentId) :
    StoreResult EnvironmentInstance := do
  let stored ← require (tables.instances environmentId) .environmentNotFound
  storeContract stored.validate
  return stored

variable {tables : EnvironmentTables δ} {env : EnvironmentInstance}

theorem loadLocked_eq_ok {environmentId : EnvironmentId} :
    loadLocked tables environmentId = .ok env ↔ tables.instances environmentId = some env ∧
      env.Valid := by
  simp only [loadLocked, steps_eq_ok, storeContract_eq_ok, EnvironmentInstance.validate_eq_ok]
  constructor
  · rintro ⟨stored, hStored, hValid, ⟨⟩⟩
    exact ⟨hStored, hValid⟩
  · rintro ⟨hStored, hValid⟩
    exact ⟨env, hStored, hValid, rfl⟩

variable (tables) (current updated : EnvironmentInstance)

/- `update_instance`, fenced by the revision it read. -/
def updateInstance : StoreResult (EnvironmentTables δ) := do
  storeContract updated.validate
  asI64 current.revision.get "expected revision"
  asI64 updated.generation "generation"
  asI64 updated.observedGeneration "observed generation"
  asI64 updated.revision.get "revision"
  ensure ((tables.instances current.id).map (·.revision) = some current.revision) .revisionConflict
  .ok { tables with instances := Function.update tables.instances current.id (some updated) }

/- What a write of an aggregate has checked. -/
structure InstanceWritten : Prop where
  valid : updated.Valid
  expectedRevision : current.revision.get ≤ maxI64
  generation : updated.generation ≤ maxI64
  observedGeneration : updated.observedGeneration ≤ maxI64
  revision : updated.revision.get ≤ maxI64
  fence : (tables.instances current.id).map (·.revision) = some current.revision

variable {tables}

variable {tables' : EnvironmentTables δ}

theorem updateInstance_eq_ok {current updated : EnvironmentInstance} :
    updateInstance tables current updated = .ok tables' ↔ InstanceWritten tables current updated ∧
      tables' =
        { tables with
          instances := Function.update tables.instances current.id (some updated) } := by
  simp only [updateInstance, steps_eq_ok, storeContract_eq_ok, asI64_eq_ok,
    EnvironmentInstance.validate_eq_ok]
  constructor
  · rintro ⟨h1, h2, h3, h4, h5, h6, rfl⟩
    exact ⟨⟨h1, h2, h3, h4, h5, h6⟩, rfl⟩
  · rintro ⟨⟨h1, h2, h3, h4, h5, h6⟩, hEq⟩
    subst hEq
    exact ⟨h1, h2, h3, h4, h5, h6, rfl⟩

variable (env)

def operationRow : OperationRow where
  operationId := env.operation.id
  environmentId := env.id
  state := env.operation.state
  nextAttemptAt := env.operation.nextAttemptAt
  lease := none

variable (tables)

/- `insert_operation`; the identifier is the primary key. -/
def insertOperation : StoreResult (EnvironmentTables δ) := do
  asI64 env.operation.acceptedRevision.get "accepted revision"
  asI64 env.generation "target generation"
  ensure (env.operation.attempt - 1 ≤ maxI32) (.numericOverflow "retry count")
  ensure (∀ row ∈ tables.operations, row.operationId ≠ env.operation.id) .database
  .ok { tables with operations := operationRow env :: tables.operations }

structure OperationInserted : Prop where
  acceptedRevision : env.operation.acceptedRevision.get ≤ maxI64
  generation : env.generation ≤ maxI64
  attempt : env.operation.attempt - 1 ≤ maxI32
  fresh : ∀ row ∈ tables.operations, row.operationId ≠ env.operation.id

variable {env}

variable {tables}

theorem insertOperation_eq_ok :
    insertOperation tables env = .ok tables' ↔ OperationInserted tables env ∧ tables' =
      { tables with operations := operationRow env :: tables.operations } := by
  simp only [insertOperation, steps_eq_ok, asI64_eq_ok]
  constructor
  · rintro ⟨h1, h2, h3, h4, rfl⟩
    exact ⟨⟨h1, h2, h3, h4⟩, rfl⟩
  · rintro ⟨⟨h1, h2, h3, h4⟩, hEq⟩
    subst hEq
    exact ⟨h1, h2, h3, h4, rfl⟩

variable (env) (subject : EnvironmentSubject) (occurredAt : UtcTimestamp)

def environmentEvent : EnvironmentEvent where
  subject := subject
  aggregateId := env.id
  aggregateSequence := env.revision.get
  occurredAt := occurredAt
  courseId := env.courseId
  traceId := env.operation.traceId
  generation := env.generation
  state := env.observedState
  operationId := env.operation.id
  diagnosticCode := env.lastDiagnosticCode

variable (tables)

/- The envelope carries a trace, and the Outbox holds one event for each aggregate and sequence
  number. -/
def enqueueEnvironmentEventAt : StoreResult (EnvironmentTables δ) := do
  ensure (trimIsEmpty env.operation.traceId = false) .event
  ensure (env.revision.get ≤ maxI64) .database
  ensure (∀ event ∈ tables.outbox, event.aggregateId = env.id →
    event.aggregateSequence ≠ env.revision.get)
    .database
  .ok { tables with outbox := environmentEvent env subject occurredAt :: tables.outbox }

/- What the insertion of an event has checked. -/
structure EventEnqueued : Prop where
  trace : trimIsEmpty env.operation.traceId = false
  sequence : env.revision.get ≤ maxI64
  fresh : ∀ event ∈ tables.outbox, event.aggregateId = env.id →
    event.aggregateSequence ≠ env.revision.get

variable {env}

variable {tables}

theorem enqueueEnvironmentEventAt_eq_ok {subject : EnvironmentSubject} {occurredAt : UtcTimestamp} :
    enqueueEnvironmentEventAt tables env subject occurredAt = .ok tables' ↔
      EventEnqueued tables env ∧ tables' =
        { tables with outbox := environmentEvent env subject occurredAt :: tables.outbox } := by
  simp only [enqueueEnvironmentEventAt, steps_eq_ok]
  constructor
  · rintro ⟨h1, h2, h3, rfl⟩
    exact ⟨⟨h1, h2, h3⟩, rfl⟩
  · rintro ⟨⟨h1, h2, h3⟩, hEq⟩
    subst hEq
    exact ⟨h1, h2, h3, rfl⟩

def enqueueEnvironmentEvent (tables : EnvironmentTables δ) (env : EnvironmentInstance)
    (subject : EnvironmentSubject) : StoreResult (EnvironmentTables δ) :=
  enqueueEnvironmentEventAt tables env subject env.operation.acceptedAt

def acceptedResponse (env : EnvironmentInstance) : EnvironmentOperationAccepted where
  operationId := env.operation.id
  revision := env.revision
  environmentId := env.id

def mapOperation (operationId : OperationId) (f : OperationRow → OperationRow)
    (rows : List OperationRow) : List OperationRow :=
  rows.map (fun row => if row.operationId = operationId then f row else row)

def findOperation (rows : List OperationRow) (operationId : OperationId) : Option OperationRow :=
  rows.find? (fun row => row.operationId = operationId)

end

-- Creating An Environment

section

variable [DecidableEq δ] (hash : RequestDocument → δ) (env : EnvironmentInstance)

/- The document that identifies a creation. -/
def createDocument : CreateDocument where
  courseId := env.courseId
  ownerId := env.ownerId
  environmentClass := env.environmentClass
  runtimeKind := env.runtimeKind
  releaseId := env.releaseId
  releaseVersion := env.releaseVersion
  leaseId := env.leaseId
  capacityBinding := env.capacityBinding
  actorId := env.operation.actorId
  providerBinding := env.providerBinding
  eligibilityExpiresAt := env.eligibilityExpiresAt
  traceId := env.operation.traceId
  acceptedAt := env.operation.acceptedAt
  deadlineAt := env.operation.deadlineAt
  maxAttempts := env.operation.maxAttempts
  leaseAuthorization := env.operation.leaseAuthorization

def freshAggregate : Prop :=
  env.operation.kind = .create ∧ env.operation.state = .accepted ∧ env.desiredState = .running ∧
  env.observedState = .requested ∧ env.revision.get = 1 ∧ env.generation = 1 ∧
  env.observedGeneration = 0 ∧ env.operation.acceptedRevision = env.revision ∧
  env.operation.attempt = 1 ∧ env.operation.providerStep = 1 ∧
  env.operation.nextAttemptAt = env.operation.acceptedAt ∧ env.operation.cleanupStartedAt = none ∧
  env.operation.diagnosticCode = none ∧ env.operation.accessRevocationRevision = none ∧
  env.operation.retryFromPhase = none ∧ env.operation.resetTarget = none ∧
  env.operation.preserveMutableDisk = false ∧
  (env.environmentClass = .work → env.operation.leaseAuthorization ≠ none) ∧ env.endpoints = [] ∧
  env.lastDiagnosticCode = none ∧ env.failedPhase = none ∧ env.cleanupEvidence = none
deriving Decidable

theorem freshAggregate.firstRevision {env : EnvironmentInstance} (hFresh : freshAggregate env) :
    env.revision.get = 1 := by
  grind [freshAggregate]

theorem freshAggregate.leased {env : EnvironmentInstance} (hFresh : freshAggregate env) :
    env.environmentClass = .work → env.operation.leaseAuthorization ≠ none := by
  grind [freshAggregate]

variable (tables : EnvironmentTables δ) (idempotencyKey : String)

/- The writes of a creation whose key was reserved. -/
def insertEnvironment (env : EnvironmentInstance) :
    StoreResult (EnvironmentOperationAccepted × EnvironmentTables δ) := do
  asI64 env.generation "generation"
  asI64 env.observedGeneration "observed generation"
  asI64 env.revision.get "revision"
  ensure (tables.instances env.id = none) .environmentAlreadyExists
  let tables ← insertOperation
      { tables with instances := Function.update tables.instances env.id (some env) }
      env
  let tables ← enqueueEnvironmentEvent tables env .operationAccepted
  let accepted := acceptedResponse env
  .ok (accepted,
    { tables with
      ledger := tables.ledger.complete ("create", idempotencyKey)
        (hash (.create (createDocument env)))
        accepted })

def createInTransaction (env : EnvironmentInstance) :
    StoreResult (EnvironmentOperationAccepted × EnvironmentTables δ) := do
  ensure (IdempotencyKey.parses idempotencyKey = true) .invalidIdempotencyKey
  storeContract env.validate
  ensure (freshAggregate env) .invalidCreateAggregate
  match tables.ledger.reserve ("create", idempotencyKey) (hash (.create (createDocument env))) with
  | .replay accepted => .ok (accepted, tables)
  | .conflict => .error .idempotencyConflict
  | .inProgress => .error .idempotencyInProgress
  | .reserved => insertEnvironment hash tables idempotencyKey env

variable (command : EnvironmentLifecycleCommand) (spec : EnvironmentCreateSpec)

def createAcceptable (authorityNow : UtcTimestamp) (courseId : CourseId) : Prop :=
  command.kind = .create ∧ command.expectedRevision.get = 1 ∧ courseId = spec.courseId ∧
  spec.releaseVersion ≠ 0 ∧ trimIsEmpty spec.providerBinding = false ∧
  authorityNow < spec.eligibilityExpiresAt ∧ 1 ≤ command.maxAttempts ∧ command.maxAttempts ≤ 100 ∧
  command.acceptedAt < command.deadlineAt ∧ authorityNow < command.deadlineAt ∧
  command.acceptedAt ≤ authorityNow ∧ command.accessRevocationRevision = none ∧
  command.preserveMutableDisk = false ∧ command.resetTarget = none
deriving Decidable

def createLeaseMatches
    (authorization : EnvironmentLeaseAuthorization) (authorityNow : UtcTimestamp) : Prop :=
  some authorization.leaseId = spec.leaseId ∧ authorization.environmentId = command.environmentId ∧
  authorization.courseId = spec.courseId ∧ authorization.ownerActorId = spec.ownerActorId ∧
  some authorization.capacityBinding = spec.capacityBinding ∧
  authorization.activeFrom ≤ authorityNow ∧ authorityNow < authorization.expiresAt
deriving Decidable

variable (leaseAuthorization : Option EnvironmentLeaseAuthorization) (authorityNow : UtcTimestamp)

def createEligibility : StoreResult UtcTimestamp :=
  match spec.environmentClass with
  | .experiment => do
      ensure (spec.leaseId = none ∧ spec.capacityBinding = none ∧ leaseAuthorization = none)
        .invalidCreateAggregate
      return spec.eligibilityExpiresAt
  | .work => do
      let authorization ← require leaseAuthorization .leaseAuthorizationRequired
      ensure (createLeaseMatches command spec authorization authorityNow) .leaseAuthorizationInvalid
      .ok (min spec.eligibilityExpiresAt authorization.expiresAt)

def createdInstance
    (eligibilityExpiresAt : UtcTimestamp) (operationId : OperationId) : EnvironmentInstance where
  id := command.environmentId
  displayLabel := spec.displayLabel
  courseId := spec.courseId
  ownerId := spec.ownerActorId
  environmentClass := spec.environmentClass
  runtimeKind := spec.runtimeKind
  releaseId := spec.releaseId
  releaseVersion := spec.releaseVersion
  leaseId := spec.leaseId
  capacityBinding := spec.capacityBinding
  providerBinding := spec.providerBinding
  desiredState := .running
  observedState := .requested
  revision := command.expectedRevision
  generation := 1
  observedGeneration := 0
  operation :=
    { id := operationId, kind := .create, state := .accepted,
      acceptedRevision := command.expectedRevision, attempt := 1, providerStep := 1,
      maxAttempts := command.maxAttempts, nextAttemptAt := command.acceptedAt,
      actorId := command.actorId, traceId := command.traceId, acceptedAt := command.acceptedAt,
      deadlineAt := command.deadlineAt, cleanupStartedAt := none, diagnosticCode := none,
      preserveMutableDisk := false, accessRevocationRevision := none, retryFromPhase := none,
      resetTarget := none, leaseAuthorization }
  eligibilityExpiresAt := eligibilityExpiresAt
  endpoints := []
  lastDiagnosticCode := none
  failedPhase := none
  cleanupEvidence := none

def buildCreateInstance (courseId : CourseId) (operationId : OperationId) :
    StoreResult EnvironmentInstance := do
  ensure (createAcceptable command spec authorityNow courseId) .invalidCreateAggregate
  let eligibilityExpiresAt ← createEligibility command spec leaseAuthorization authorityNow
  let created := createdInstance command spec leaseAuthorization eligibilityExpiresAt operationId
  storeContract created.validate
  return created

end

-- Accepting A Command

section

variable [DecidableEq δ] (hash : RequestDocument → δ)

/- The ledger name of a command. -/
def operationName : EnvironmentOperationKind → String
| .create => "create"
| .start => "start"
| .stop => "stop"
| .restart => "restart"
| .reset => "reset"
| .retry => "retry"
| .cancel => "cancel"
| .recover => "recover"
| .expire => "expire"
| .delete => "delete"
| .cleanup => "cleanup"
| .freeze => "freeze"

variable (tables : EnvironmentTables δ)

/- A cleanup command cancels the active operation, and reads the lease of the Provider call that may
  still be running. -/
def supersedeOperation (current : EnvironmentInstance) (kind : EnvironmentOperationKind) :
    StoreResult (Option UtcTimestamp × EnvironmentTables δ) :=
  if kind.destructive = true ∧ current.operation.state.active = true then do
    let row ← require ((findOperation tables.operations
          current.operation.id).filter (·.state.active))
        .operationNotFound
    .ok (row.lease.map (·.expiresAt),
      { tables with
        operations := mapOperation current.operation.id
          (fun row => { row with state := .cancelled })
          tables.operations })
  else .ok (none, tables)

/- Hold the new operation back until the old lease ends. -/
def fenceAttempt (planned : EnvironmentInstance) (supersededLease : Option UtcTimestamp) :
    StoreResult EnvironmentInstance :=
  match supersededLease with
  | none => .ok planned
  | some expiresAt =>
    if planned.operation.nextAttemptAt < expiresAt then do
      let fenced := planned.withNextAttempt expiresAt
      storeContract fenced.validate
      return fenced
    else .ok planned

variable (clock : UtcTimestamp) (idempotencyKey : String) (command : EnvironmentLifecycleCommand)

/- The writes of a command whose key was reserved. -/
def applyCommand (leaseAuthorization : Option EnvironmentLeaseAuthorization)
    (courseId : Option CourseId) (operationId : OperationId) :
    StoreResult (EnvironmentOperationAccepted × EnvironmentTables δ) := do
  let current ← loadLocked tables command.environmentId
  ensure (∀ course ∈ courseId, course = current.courseId) .inboundMetadataInvalid
  let (supersededLease, tables) ← supersedeOperation tables current command.kind
  let planned ← storeLifecycle (planCommandAuthorized current command operationId
      leaseAuthorization clock)
  let planned ← fenceAttempt planned supersededLease
  let tables ← updateInstance tables current planned
  let tables ← insertOperation tables planned
  let tables ← enqueueEnvironmentEvent tables planned .operationAccepted
  let accepted := acceptedResponse planned
  .ok (accepted,
    { tables with
      ledger := tables.ledger.complete (operationName command.kind, idempotencyKey)
        (hash (.command command)) accepted })

variable (create : Option EnvironmentCreateSpec)

/- The identifier of a new operation is fresh; a collision is refused by the primary key. -/
def acceptCommandInTransaction (leaseAuthorization : Option EnvironmentLeaseAuthorization)
    (courseId : Option CourseId) (operationId : OperationId) :
    StoreResult (EnvironmentOperationAccepted × EnvironmentTables δ) :=
  if command.kind = .create then do
    let spec ← require create .createSpecRequired
    let courseId ← require courseId .inboundMetadataInvalid
    let env ← buildCreateInstance command spec leaseAuthorization clock courseId operationId
    createInTransaction hash tables idempotencyKey env
  else do
    ensure (create = none) .createSpecUnexpected
    ensure (IdempotencyKey.parses idempotencyKey = true) .invalidIdempotencyKey
    match tables.ledger.reserve (operationName command.kind, idempotencyKey)
      (hash (.command command)) with
    | .replay accepted => .ok (accepted, tables)
    | .conflict => .error .idempotencyConflict
    | .inProgress => .error .idempotencyInProgress
    | .reserved =>
      applyCommand hash tables clock idempotencyKey command leaseAuthorization courseId operationId

/- `accept_api_command`: a public command carries no lease authorization. -/
def acceptApiCommand (courseId : CourseId) (operationId : OperationId) :
    StoreResult (EnvironmentOperationAccepted × EnvironmentTables δ) :=
  acceptCommandInTransaction hash tables clock idempotencyKey command create none (some courseId)
    operationId

end

-- Leases Of The Workers

/- An operation and aggregate reserved by a worker. -/
structure LeasedEnvironment where
  env : EnvironmentInstance
  workerId : String
  leaseToken : BitVec 128
deriving DecidableEq

/- The checks of `validate_worker`. -/
def workerValid (workerId : String) (leaseDuration : Nat) : Prop :=
  validToken workerId = true ∧ 0 < leaseDuration ∧ leaseDuration ≤ fiveMinutes
deriving Decidable

variable (row : OperationRow)

/- The row is due at `now` and no lease on it is current. -/
def claimable (now : UtcTimestamp) : Prop :=
  row.state.active = true ∧ row.nextAttemptAt ≤ now ∧ ∀ lease ∈ row.lease, lease.expiresAt ≤ now
deriving Decidable

variable (tables : EnvironmentTables δ) (startedAt clock : UtcTimestamp)

/- The transaction began at `startedAt`, its `now()`, and writes the lease at `clock`. Rows that
  others hold are skipped, so that any due row may be the `candidate`. -/
def claimDue (workerId : String) (leaseDuration : Nat) (leaseToken : BitVec 128)
    (candidate : OperationId) : StoreResult (Option (LeasedEnvironment × EnvironmentTables δ)) := do
  ensure (workerValid workerId leaseDuration) .invalidLease
  match (findOperation tables.operations candidate).filter (fun row => claimable row startedAt) with
  | none => .ok none
  | some row => do
      let env ← loadLocked tables row.environmentId
      .ok (some
        ({ env, workerId, leaseToken },
          { tables with
            operations := mapOperation candidate (fun row =>
              { row with
                state := .running
                lease := some
                  { owner := workerId, token := leaseToken,
                    expiresAt := clock + leaseDuration } })
              tables.operations }))

def leaseCurrent (lease : LeasedEnvironment) (now : UtcTimestamp) : Prop :=
  ∃ held ∈ row.lease, held.owner = lease.workerId ∧ held.token = lease.leaseToken ∧
    now < held.expiresAt

instance (row : OperationRow) (lease : LeasedEnvironment) {now} :
    Decidable (leaseCurrent row lease now) :=
  match h : row.lease with
  | none =>
    .isFalse (by
      rintro ⟨held, hHeld, _⟩
      rw [h] at hHeld
      cases hHeld)
  | some held =>
    decidable_of_iff (held.owner = lease.workerId ∧ held.token = lease.leaseToken ∧
      now < held.expiresAt)
      (by simp [leaseCurrent, h])

variable (lease : LeasedEnvironment)

/- `heartbeat`: renew the lease of a running operation. -/
def heartbeat (leaseDuration : Nat) : StoreResult (EnvironmentTables δ) := do
  ensure (workerValid lease.workerId leaseDuration) .invalidLease
  let row ← require (findOperation tables.operations lease.env.operation.id) .leaseLost
  ensure (leaseCurrent row lease startedAt ∧ row.state = .running) .leaseLost
  .ok
    { tables with
      operations := mapOperation lease.env.operation.id (fun row =>
        { row with
          lease := some
            { owner := lease.workerId, token := lease.leaseToken,
              expiresAt := clock + leaseDuration } })
        tables.operations }

def saveReconciled (updated : EnvironmentInstance) : StoreResult (EnvironmentTables δ) := do
  let stored ← loadLocked tables lease.env.id
  ensure (stored.revision = lease.env.revision ∧ stored.operation.id = lease.env.operation.id ∧
    updated.operation.id = stored.operation.id)
    .revisionConflict
  let row ← require (findOperation tables.operations lease.env.operation.id) .leaseLost
  ensure (leaseCurrent row lease startedAt) .leaseLost
  let tables ← updateInstance tables stored updated
  ensure (updated.operation.attempt - 1 ≤ maxI32) (.numericOverflow "retry count")
  asI64 updated.generation "target generation"
  let tables : EnvironmentTables δ :=
    { tables with
      operations := mapOperation lease.env.operation.id (fun row =>
        { row with
          state := updated.operation.state, nextAttemptAt := updated.operation.nextAttemptAt,
          lease := none })
        tables.operations }
  enqueueEnvironmentEventAt tables updated .stateChanged clock

-- Refreshing A Work Lease

section

variable (current : EnvironmentInstance) (authorization : EnvironmentLeaseAuthorization)

/- The authorization is the one the aggregate holds. -/
def leaseUnchanged : Prop :=
  (current.operation.leaseAuthorization.any (fun value => value.leaseId == authorization.leaseId &&
    value.leaseRevision == authorization.leaseRevision &&
    value.expiresAt == authorization.expiresAt)) = true
deriving Decidable

/- The lease revision an extension has to exceed. -/
def heldLeaseRevision : Revision :=
  (current.operation.leaseAuthorization.map (·.leaseRevision)).getD Revision.one

def extendsLease : Prop :=
  current.environmentClass = .work ∧ current.leaseId = some authorization.leaseId ∧
  current.courseId = authorization.courseId ∧ current.ownerId = authorization.ownerActorId ∧
  current.capacityBinding = some authorization.capacityBinding ∧
  (heldLeaseRevision current).get < authorization.leaseRevision.get ∧
  current.eligibilityExpiresAt < authorization.expiresAt
deriving Decidable

/- The aggregate that a refresh stores. -/
def refreshedInstance (revision : Revision) : EnvironmentInstance :=
  { current with
    revision, eligibilityExpiresAt := authorization.expiresAt
    operation := { current.operation with leaseAuthorization := some authorization } }

def refreshWorkLease (environmentId : EnvironmentId)
    (authorization : EnvironmentLeaseAuthorization) :
    StoreResult (EnvironmentInstance × EnvironmentTables δ) := do
  let current ← loadLocked tables environmentId
  if leaseUnchanged current authorization then .ok (current, tables)
  else
    ensure (extendsLease current authorization) .leaseAuthorizationInvalid
    let revision ← require current.revision.next (.numericOverflow "lease refresh revision")
    let updated := refreshedInstance current authorization revision
    let tables ← updateInstance tables current updated
    let tables ← enqueueEnvironmentEvent tables updated .stateChanged
    .ok (updated, tables)

end

end LabWeaver
