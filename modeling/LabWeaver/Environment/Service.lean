import LabWeaver.Base.Machine
import LabWeaver.Environment.Reconciler
import LabWeaver.Environment.Transactions

/-
  This file assembles the Environment service: the tables, the clock and the workers take turns,
  one transaction at a time. Every stored aggregate evolves only by the lifecycle functions, which
  is packaged as the invariant rule of the safety results.
-/

namespace LabWeaver

open Outcome EnvironmentTables Function

-- States And Actions

/- The database with its clock, and the leases that workers hold in memory. -/
structure ServiceState (δ : Type) where
  clock : UtcTimestamp
  tables : EnvironmentTables δ
  leases : List LeasedEnvironment

open ServiceState

/- The transactions of the service. A `command` stands for every way in which a command arrives. A
  worker is named by the place of its lease. In `reconcile` it saves what its pass came to; in
  `crash` it loses its lease without a word to the database. -/
inductive ServiceAction where
| tick (now : UtcTimestamp)
| create (idempotencyKey : String) (env : EnvironmentInstance)
| command (idempotencyKey : String) (command : EnvironmentLifecycleCommand)
    (create : Option EnvironmentCreateSpec)
    (leaseAuthorization : Option EnvironmentLeaseAuthorization) (courseId : Option CourseId)
    (operationId : OperationId)
| claim (startedAt : UtcTimestamp) (workerId : String) (leaseDuration : Nat)
    (leaseToken : BitVec 128) (candidate : OperationId)
| heartbeat (startedAt : UtcTimestamp) (holder : Nat) (leaseDuration : Nat)
| reconcile (startedAt : UtcTimestamp) (holder : Nat) (worker : ReconcileWorker)
    (now : UtcTimestamp) (answer : ProviderAnswer)
| crash (holder : Nat)
| refresh (environmentId : EnvironmentId) (authorization : EnvironmentLeaseAuthorization)

/- The transactions that answer a request from outside. -/
def ServiceAction.isRequest : ServiceAction → Bool
| .create _ _ | .command _ _ _ _ _ _ | .refresh _ _ => true
| _ => false

/- The request is for the aggregate: it is given, or built at the clock from its specification. -/
def ServiceAction.Creates (clock : UtcTimestamp) (env : EnvironmentInstance) : ServiceAction → Prop
| .create _ given => given = env
| .command _ request given leaseAuthorization courseId operationId =>
  ∃ spec course, given = some spec ∧ courseId = some course ∧ buildCreateInstance request spec
    leaseAuthorization clock course operationId = .ok env
| _ => False

variable {δ : Type}

namespace ServiceState

variable [DecidableEq δ]

/- One transaction of the service. A transaction that fails is rolled back and is no step. -/
def step (hash : RequestDocument → δ) (s : ServiceState δ) : ServiceAction → Option (ServiceState δ)
| .tick now => if s.clock ≤ now then some { s with clock := now } else none
| .create idempotencyKey env =>
  match createInTransaction hash s.tables idempotencyKey env with
  | .ok (_, tables) => some { s with tables }
  | .error _ => none
| .command idempotencyKey command create leaseAuthorization courseId operationId =>
  match acceptCommandInTransaction hash s.tables s.clock
    idempotencyKey command create leaseAuthorization
    courseId operationId with
  | .ok (_, tables) => some { s with tables }
  | .error _ => none
| .claim startedAt workerId leaseDuration leaseToken candidate =>
  if startedAt ≤ s.clock then
    match claimDue s.tables startedAt s.clock workerId leaseDuration leaseToken candidate with
    | .ok (some (lease, tables)) => some { s with tables, leases := lease :: s.leases }
    | _ => none
  else none
| .heartbeat startedAt holder leaseDuration =>
  match s.leases[holder]? with
  | none => none
  | some lease =>
    if startedAt ≤ s.clock then
      match LabWeaver.heartbeat s.tables startedAt s.clock lease leaseDuration with
      | .ok tables => some { s with tables }
      | .error _ => none
    else none
| .reconcile startedAt holder worker now answer =>
  match s.leases[holder]? with
  | none => none
  | some lease =>
    if startedAt ≤ s.clock then
      match worker.reconcile lease.env now answer with
      | .ok updated =>
        match saveReconciled s.tables startedAt s.clock lease updated with
        | .ok tables => some { s with tables, leases := s.leases.eraseIdx holder }
        | .error _ => none
      | .error _ => none
    else none
| .crash holder => some { s with leases := s.leases.eraseIdx holder }
| .refresh environmentId authorization =>
  match refreshWorkLease s.tables environmentId authorization with
  | .ok (_, tables) => some { s with tables }
  | .error _ => none

/- A service starts with empty tables and no workers. -/
structure initial (s : ServiceState δ) : Prop where
  instances : ∀ environmentId, s.tables.instances environmentId = none
  operations : s.tables.operations = []
  ledger : ∀ key, s.tables.ledger key = none
  outbox : s.tables.outbox = []
  leases : s.leases = []

end ServiceState

def ServiceState.empty : ServiceState δ where
  clock := 0
  tables :=
    { instances := fun _ => none
      operations := []
      ledger := fun _ => none
      outbox := [] }
  leases := []

theorem ServiceState.empty_initial : (empty : ServiceState δ).initial :=
  ⟨fun _ => rfl, rfl, fun _ => rfl, rfl, rfl⟩

def environmentService [DecidableEq δ] (hash : RequestDocument → δ) :
    Machine (ServiceState δ) ServiceAction where
  init := initial
  step := step hash

-- How An Aggregate Evolves

/- The numbers of a stored aggregate fit its columns. -/
structure Storable (env : EnvironmentInstance) : Prop where
  valid : env.Valid
  revision : env.revision.get ≤ maxI64
  generation : env.generation ≤ maxI64

/- The ways in which a stored aggregate is replaced. The commands are those that `okCommand`
  admits. -/
inductive InstanceStep (okCommand : EnvironmentInstance → EnvironmentLifecycleCommand → Prop)
    (env : EnvironmentInstance) :
    EnvironmentInstance → Prop where
| command {command : EnvironmentLifecycleCommand} {operationId : OperationId}
    {leaseAuthorization : Option EnvironmentLeaseAuthorization} {now nextAttemptAt : UtcTimestamp}
    {planned : EnvironmentInstance} (hOk : okCommand env command) (hKind : command.kind ≠ .create)
    (hPlan : planCommandAuthorized env command operationId leaseAuthorization now = .ok planned) :
    InstanceStep okCommand env (planned.withNextAttempt nextAttemptAt)
| reconcile {updated : EnvironmentInstance} (hReconcile : ReconcileStep env updated) :
    InstanceStep okCommand env updated
| refresh {authorization : EnvironmentLeaseAuthorization} {revision : Revision}
    (hExtends : extendsLease env authorization)
    (hRevision : revision.get = env.revision.get + 1) :
    InstanceStep okCommand env (refreshedInstance env authorization revision)

/- What one transaction does to the row of one environment. -/
inductive InstanceEffect (okCommand : EnvironmentInstance → EnvironmentLifecycleCommand → Prop)
    (environmentId : EnvironmentId) :
    Option EnvironmentInstance → Option EnvironmentInstance → Prop where
| unchanged (row : Option EnvironmentInstance) : InstanceEffect okCommand environmentId row row
| created {env : EnvironmentInstance} (hId : env.id = environmentId) (hFresh : freshAggregate env)
    (hStorable : Storable env) :
    InstanceEffect okCommand environmentId none (some env)
| stepped {env updated : EnvironmentInstance} (hStep : InstanceStep okCommand env updated)
    (hStorable : Storable updated) :
    InstanceEffect okCommand environmentId (some env) (some updated)

/- The fields of an environment that its creation fixes. -/
def EnvironmentInstance.identity (env : EnvironmentInstance) : EnvironmentId × CourseId × ActorId ×
    EnvironmentClass × RuntimeKind × ReleaseId × Nat × String × Option LeaseId × Option String :=
  (env.id, env.courseId, env.ownerId, env.environmentClass, env.runtimeKind, env.releaseId,
    env.releaseVersion, env.providerBinding, env.leaseId, env.capacityBinding)

variable {env updated : EnvironmentInstance}

namespace ReconcileStep

/- What a pass of a worker finds and leaves. -/
structure Kept (env updated : EnvironmentInstance) : Prop where
  active : env.operation.state.active = true
  identity : updated.identity = env.identity
  nextRevision : updated.revision.get = env.revision.get + 1
  operation : updated.operation.id = env.operation.id ∧ updated.operation.kind = env.operation.kind
  lease : updated.operation.leaseAuthorization = env.operation.leaseAuthorization ∧
    updated.eligibilityExpiresAt = env.eligibilityExpiresAt
  desired : updated.desiredState = env.desiredState ∨ updated.desiredState = .deleted

theorem kept (hStep : ReconcileStep env updated) : Kept env updated := by
  cases hStep with
  | cleanup hCleanup =>
    obtain ⟨_, _, _, hBegun, rfl, _⟩ := beginTimeoutCleanup_eq_ok.mp hCleanup
    exact ⟨hBegun.active, rfl, hBegun.nextRevision, ⟨rfl, rfl⟩, ⟨rfl, rfl⟩, .inr rfl⟩
  | observation _ hApplied _ =>
    obtain ⟨_, _, hObserved, rfl, _⟩ := applyProviderObservation_eq_ok.mp hApplied
    exact ⟨hObserved.active, rfl, hObserved.nextRevision, ⟨rfl, rfl⟩, ⟨rfl, rfl⟩, .inl rfl⟩
  | retry hRetry =>
    obtain ⟨_, hScheduled, rfl, _⟩ := applyRetry_eq_ok.mp hRetry
    exact ⟨hScheduled.active, rfl, hScheduled.nextRevision, ⟨rfl, rfl⟩, ⟨rfl, rfl⟩, .inl rfl⟩
  | failure hFailure =>
    obtain ⟨_, hRecorded, rfl, _⟩ := applyProviderFailure_eq_ok.mp hFailure
    exact ⟨hRecorded.active, rfl, hRecorded.nextRevision, ⟨rfl, rfl⟩, ⟨rfl, rfl⟩, .inl rfl⟩

end ReconcileStep

variable {okCommand : EnvironmentInstance → EnvironmentLifecycleCommand → Prop}

namespace InstanceStep

theorem identity_eq (hStep : InstanceStep okCommand env updated) :
    updated.identity = env.identity := by
  cases hStep with
  | command _ _ hPlan =>
    obtain ⟨_, _, _, _, _, rfl, _⟩ := planCommandAuthorized_eq_ok.mp hPlan
    rfl
  | reconcile hReconcile => exact hReconcile.kept.identity
  | refresh _ _ => rfl

theorem id_eq (hStep : InstanceStep okCommand env updated) : updated.id = env.id :=
  congrArg Prod.fst hStep.identity_eq

theorem nextRevision (hStep : InstanceStep okCommand env updated) :
    updated.revision.get = env.revision.get + 1 := by
  cases hStep with
  | command _ _ hPlan =>
    obtain ⟨_, _, _, _, hAccepted, hEq, _⟩ := planCommandAuthorized_eq_ok.mp hPlan
    rw [hEq]
    exact hAccepted.nextRevision
  | reconcile hReconcile => exact hReconcile.kept.nextRevision
  | refresh _ hRevision => exact hRevision

end InstanceStep

variable {leaseAuthorization : Option EnvironmentLeaseAuthorization} {idempotencyKey : String}
  {operationId : OperationId}

theorem commandTables_revision {hash : RequestDocument → δ}
    {tables : EnvironmentTables δ} {clock : UtcTimestamp} {command : EnvironmentLifecycleCommand}
    {current planned fenced : EnvironmentInstance} (hKind : command.kind ≠ .create)
    (hApplied : CommandApplied tables clock command leaseAuthorization operationId current planned
      fenced) :
    (commandTables hash tables idempotencyKey command
      current fenced).instances command.environmentId = some fenced ∧
    fenced.revision.get = command.expectedRevision.get + 1 := by
  rcases planCommandAuthorized_eq_ok.mp hApplied.plan with ⟨_, _, _, _, hAccepted, _, _⟩
  have hMoved : InstanceStep (fun _ _ => True) current fenced := by
    rw [hApplied.fence]
    exact .command trivial hKind hApplied.plan
  constructor
  · rw [← hAccepted.environmentId]
    simp only [commandTables, update_self]
  · rw [hMoved.nextRevision, hAccepted.expectedRevision]

-- Coherence

/- The lease of a worker shows an aggregate that was stored: as long as the revision has not moved,
  it is the stored one. -/
def leaseCoherent (instances : EnvironmentId → Option EnvironmentInstance)
    (lease : LeasedEnvironment) : Prop :=
  ∃ stored, instances lease.env.id = some stored ∧ lease.env.revision.get ≤ stored.revision.get ∧
    (lease.env.revision = stored.revision → lease.env = stored)

/- Rows are stored under their own identifier. -/
structure ServiceState.Coherent (s : ServiceState δ) : Prop where
  key : ∀ environmentId env, s.tables.instances environmentId = some env → env.id = environmentId
  lease : ∀ lease ∈ s.leases, leaseCoherent s.tables.instances lease

variable (okCommand)

/- Every command meets `okCommand` in the aggregate it is addressed to, unless it is answered from
  the ledger. -/
def commandsMeet (s : ServiceState δ) (action : ServiceAction) : Prop :=
  match action with
  | .command idempotencyKey command _ _ _ _ =>
    s.tables.ledger (operationName command.kind, idempotencyKey) = none →
      ∀ env, s.tables.instances command.environmentId = some env → okCommand env command
  | _ => True

variable {okCommand}

theorem commandsMeet_true (s : ServiceState δ) (action : ServiceAction) :
    commandsMeet (fun _ _ => True) s action := by
  cases action <;> simp [commandsMeet]

-- What A Transaction Does

/- What one transaction can do. One that finds its answer in the ledger, or a lease that is already
  stored, changes nothing. -/
inductive ServiceStep (hash : RequestDocument → δ) (s : ServiceState δ) :
    ServiceAction → ServiceState δ → Prop where
| ticked {now : UtcTimestamp} (hLater : s.clock ≤ now) :
    ServiceStep hash s (.tick now) { s with clock := now }
| replayed {action : ServiceAction} (hRequest : action.isRequest = true) :
    ServiceStep hash s action s
| created {action : ServiceAction} {idempotencyKey : String} {env : EnvironmentInstance}
    (hCreates : action.Creates s.clock env) (hValid : env.Valid) (hFresh : freshAggregate env)
    (hFree : s.tables.ledger ("create", idempotencyKey) = none)
    (hInserted : EnvironmentInserted s.tables env) :
    ServiceStep hash s action { s with tables := insertedTables hash s.tables idempotencyKey env }
| commanded {idempotencyKey : String} {command : EnvironmentLifecycleCommand}
    {create : Option EnvironmentCreateSpec}
    {leaseAuthorization : Option EnvironmentLeaseAuthorization} {courseId : Option CourseId}
    {operationId : OperationId} {current planned fenced : EnvironmentInstance}
    (hKind : command.kind ≠ .create) (hApplied : CommandApplied s.tables s.clock command
      leaseAuthorization operationId current planned
      fenced)
    (hFree : s.tables.ledger (operationName command.kind, idempotencyKey) = none) :
    ServiceStep hash s (.command idempotencyKey command create
      leaseAuthorization courseId operationId)
      { s with tables := commandTables hash s.tables idempotencyKey command current fenced }
| claimed {startedAt : UtcTimestamp} {workerId : String} {leaseDuration : Nat}
    {leaseToken : BitVec 128} {candidate : OperationId} {row : OperationRow}
    {lease : LeasedEnvironment} (hStarted : startedAt ≤ s.clock)
    (hGranted : ClaimGranted s.tables startedAt leaseDuration candidate row lease) :
    ServiceStep hash s (.claim startedAt workerId leaseDuration leaseToken candidate)
      { s with
        tables :=
          { s.tables with
            operations := mapOperation candidate (claimedRow lease (s.clock + leaseDuration))
              s.tables.operations }
        leases := lease :: s.leases }
| renewed {startedAt : UtcTimestamp} {holder : Nat} {leaseDuration : Nat}
    {lease : LeasedEnvironment} {row : OperationRow} (hStarted : startedAt ≤ s.clock)
    (hHeld : s.leases[holder]? = some lease)
    (hRenewed : LeaseRenewed s.tables startedAt leaseDuration lease row) :
    ServiceStep hash s (.heartbeat startedAt holder leaseDuration)
      { s with
        tables :=
          { s.tables with
            operations := mapOperation lease.env.operation.id (leasedRow lease
              (s.clock + leaseDuration))
              s.tables.operations } }
| saved {startedAt now : UtcTimestamp} {holder : Nat} {worker : ReconcileWorker}
    {answer : ProviderAnswer} {lease : LeasedEnvironment} {stored updated : EnvironmentInstance}
    {row : OperationRow} (hStarted : startedAt ≤ s.clock) (hHeld : s.leases[holder]? = some lease)
    (hReconcile : worker.reconcile lease.env now answer = .ok updated)
    (hSaved : ReconciledSaved s.tables startedAt lease stored updated row) :
    ServiceStep hash s (.reconcile startedAt holder worker now answer)
      { s with
        tables := savedTables s.tables s.clock stored updated,
        leases := s.leases.eraseIdx holder }
| crashed (holder : Nat) : ServiceStep hash s (.crash holder)
      { s with leases := s.leases.eraseIdx holder }
| refreshed {environmentId : EnvironmentId} {authorization : EnvironmentLeaseAuthorization}
    {current : EnvironmentInstance} {revision : Revision}
    (hRefreshed : LeaseRefreshed s.tables environmentId authorization current revision) :
    ServiceStep hash s (.refresh environmentId authorization)
      { s with
        tables := refreshedTables s.tables current (refreshedInstance current authorization
          revision) }

/- What the transaction does to an aggregate that is stored. -/
inductive RowStep (s : ServiceState δ) (env : EnvironmentInstance) :
    ServiceAction → EnvironmentInstance → Prop where
| commanded {idempotencyKey : String} {command : EnvironmentLifecycleCommand}
    {create : Option EnvironmentCreateSpec}
    {leaseAuthorization : Option EnvironmentLeaseAuthorization} {courseId : Option CourseId}
    {operationId : OperationId} {planned fenced : EnvironmentInstance}
    (hKind : command.kind ≠ .create) (hApplied : CommandApplied s.tables s.clock command
      leaseAuthorization operationId env planned fenced)
    (hFree : s.tables.ledger (operationName command.kind, idempotencyKey) = none) :
    RowStep s env (.command idempotencyKey command create leaseAuthorization courseId operationId)
      fenced
| saved {startedAt now : UtcTimestamp} {holder : Nat} {worker : ReconcileWorker}
    {answer : ProviderAnswer} {lease : LeasedEnvironment} {updated : EnvironmentInstance}
    (hHeld : s.leases[holder]? = some lease) (hEnv : lease.env = env)
    (hReconcile : worker.reconcile env now answer = .ok updated) :
    RowStep s env (.reconcile startedAt holder worker now answer) updated
| refreshed {environmentId : EnvironmentId} {authorization : EnvironmentLeaseAuthorization}
    {revision : Revision}
    (hRefreshed : LeaseRefreshed s.tables environmentId authorization env revision) :
    RowStep s env (.refresh environmentId authorization)
      (refreshedInstance env authorization revision)

/- What the transaction does to the row of one environment. -/
inductive RowEffect (s : ServiceState δ) (environmentId : EnvironmentId) (action : ServiceAction) :
    Option EnvironmentInstance → Option EnvironmentInstance → Prop where
| unchanged (row : Option EnvironmentInstance) : RowEffect s environmentId action row row
| created {env : EnvironmentInstance} (hId : env.id = environmentId)
    (hCreates : action.Creates s.clock env) (hFresh : freshAggregate env)
    (hStorable : Storable env) :
    RowEffect s environmentId action none (some env)
| stepped {env updated : EnvironmentInstance} (hStep : RowStep s env action updated)
    (hStorable : Storable updated) :
    RowEffect s environmentId action (some env) (some updated)

variable {action : ServiceAction}

theorem RowStep.instanceStep {s : ServiceState δ} (hOk : commandsMeet okCommand s action)
    (hStep : RowStep s env action updated) : InstanceStep okCommand env updated := by
  cases hStep with
  | commanded hKind hApplied hFree =>
    rw [hApplied.fence]
    exact .command (hOk hFree _ hApplied.stored) hKind hApplied.plan
  | saved _ _ hReconcile => exact .reconcile (ReconcileWorker.reconcile_step hReconcile)
  | refreshed hRefreshed => exact .refresh hRefreshed.extendsHeld hRefreshed.nextRevision

namespace ServiceState

section

variable [DecidableEq δ] {hash : RequestDocument → δ} {s s' : ServiceState δ}
  {accepted : EnvironmentOperationAccepted} {tables' : EnvironmentTables δ}

private theorem create_cases {env : EnvironmentInstance} (hRequest : action.isRequest = true)
    (hCreates : action.Creates s.clock env)
    (hCreate : createInTransaction hash s.tables idempotencyKey env = .ok (accepted, tables')) :
    ServiceStep hash s action { s with tables := tables' } := by
  rcases createInTransaction_eq_ok.mp hCreate with
    ⟨_, hValid, hFresh, ⟨_, hEq⟩ | ⟨hFree, hInserted, _, hEq⟩⟩
  · subst hEq
    exact .replayed hRequest
  · subst hEq
    exact .created hCreates hValid hFresh hFree hInserted

/- The transactions of the service are the listed ones. -/
theorem step_cases (hStep : s.step hash action = some s') : ServiceStep hash s action s' := by
  cases action with
  | tick now =>
    simp only [step] at hStep
    split at hStep
    · rename_i hLater
      cases hStep
      exact .ticked hLater
    · cases hStep
  | create idempotencyKey env =>
    simp only [step] at hStep
    split at hStep
    · rename_i hCreate
      cases hStep
      exact create_cases rfl rfl hCreate
    · cases hStep
  | command idempotencyKey command create leaseAuthorization courseId operationId =>
    simp only [step] at hStep
    split at hStep
    · rename_i hAccept
      cases hStep
      by_cases hKind : command.kind = .create
      · simp only [acceptCommandInTransaction, if_pos hKind, steps_eq_ok] at hAccept
        rcases hAccept with ⟨spec, hSpec, course, hCourse, env, hBuild, hCreate⟩
        exact create_cases rfl ⟨spec, course, hSpec, hCourse, hBuild⟩ hCreate
      · rcases (acceptCommandInTransaction_eq_ok hKind).mp hAccept with ⟨_, _, ⟨_, rfl⟩ |
          ⟨hFree, current, planned, fenced, hApplied, _, _, rfl⟩⟩
        · exact .replayed rfl
        · exact .commanded hKind hApplied hFree
    · cases hStep
  | claim startedAt workerId leaseDuration leaseToken candidate =>
    simp only [step] at hStep
    split at hStep
    · rename_i hStarted
      split at hStep
      · rename_i hClaim
        cases hStep
        rcases claimDue_eq_ok hClaim with ⟨row, hGranted, rfl⟩
        exact .claimed hStarted hGranted
      · cases hStep
    · cases hStep
  | heartbeat startedAt holder leaseDuration =>
    simp only [step] at hStep
    split at hStep
    · cases hStep
    · rename_i lease hHeld
      split at hStep
      · rename_i hStarted
        split at hStep
        · rename_i hBeat
          cases hStep
          simp only [heartbeat, steps_eq_ok] at hBeat
          rcases hBeat with ⟨hWorker, row, hFound, ⟨hCurrent, hRunning⟩, rfl⟩
          exact .renewed hStarted hHeld ⟨hWorker, hFound, hCurrent, hRunning⟩
        · cases hStep
      · cases hStep
  | reconcile startedAt holder worker now answer =>
    simp only [step] at hStep
    split at hStep
    · cases hStep
    · rename_i lease hHeld
      rcases Option.ite_none_right_eq_some.mp hStep with ⟨hStarted, hStep⟩
      split at hStep
      · rename_i updated hReconcile
        split at hStep
        · rename_i hSave
          cases hStep
          rcases saveReconciled_eq_ok hSave with ⟨stored, row, hSaved, rfl⟩
          exact .saved hStarted hHeld hReconcile hSaved
        · cases hStep
      · cases hStep
  | crash holder =>
    simp only [step] at hStep
    cases hStep
    exact .crashed holder
  | refresh environmentId authorization =>
    simp only [step] at hStep
    split at hStep
    · rename_i hRefresh
      cases hStep
      rcases refreshWorkLease_eq_ok.mp hRefresh with ⟨_, _, _, hEq⟩ |
        ⟨current, revision, hRefreshed, hResult, hEq⟩
      · subst hEq
        exact .replayed rfl
      · subst hResult
        subst hEq
        exact .refreshed hRefreshed
    · cases hStep

end

end ServiceState

-- The Effect On Aggregates

variable (okCommand)

/- The rows of two tables differ by one effect each. -/
def InstancesEffect (tables tables' : EnvironmentTables δ) : Prop :=
  ∀ environmentId, InstanceEffect okCommand environmentId (tables.instances environmentId)
    (tables'.instances environmentId)

variable {okCommand}

namespace ServiceState

variable {hash : RequestDocument → δ} {s s' : ServiceState δ}

/- A worker that is allowed to save has computed from the aggregate that is stored. -/
theorem Coherent.saved_eq {startedAt : UtcTimestamp} {lease : LeasedEnvironment}
    {stored updated : EnvironmentInstance} {row : OperationRow} (hCoherent : s.Coherent)
    (hLease : lease ∈ s.leases)
    (hSaved : ReconciledSaved s.tables startedAt lease stored updated row) :
    lease.env = stored := by
  rcases hCoherent.lease lease hLease with ⟨found, hFound, _, hSame⟩
  have hStored : found = stored := by
    rw [hSaved.loaded] at hFound
    exact (Option.some.inj hFound).symm
  rw [← hStored]
  apply hSame
  rw [hStored]
  exact hSaved.revision.symm

/- What a transaction does to each row. -/
theorem step_rows (hCoherent : s.Coherent) (hStep : ServiceStep hash s action s')
    (environmentId : EnvironmentId) : RowEffect s environmentId action
      (s.tables.instances environmentId) (s'.tables.instances environmentId) := by
  -- writing one row is the effect on that row alone
  have hUpdate : ∀ {key updated},
      RowEffect s key action (s.tables.instances key) (some updated) →
      RowEffect s environmentId action (s.tables.instances environmentId)
        (update s.tables.instances key (some updated) environmentId) := by
    intro key updated hEffect
    by_cases hSame : environmentId = key
    · subst hSame
      rwa [update_self]
    · rw [update_of_ne hSame]
      exact .unchanged _
  cases hStep with
  | ticked _ | replayed _ | claimed _ _ | renewed _ _ _
  | crashed _ => exact .unchanged _
  | created hCreates hValid hFresh _ hInserted =>
    refine hUpdate ?_
    rw [hInserted.absent]
    exact .created rfl hCreates hFresh ⟨hValid, hInserted.revision, hInserted.generation⟩
  | commanded hKind hApplied hFree =>
    refine hUpdate ?_
    rw [hCoherent.key _ _ hApplied.stored, hApplied.stored]
    exact .stepped (.commanded hKind hApplied hFree)
      ⟨hApplied.written.valid, hApplied.written.revision, hApplied.written.generation⟩
  | saved _ hHeld hReconcile hSaved =>
    have hEnv := hCoherent.saved_eq (List.mem_of_getElem? hHeld) hSaved
    refine hUpdate ?_
    rw [hCoherent.key _ _ hSaved.loaded, hSaved.loaded]
    exact .stepped (.saved hHeld hEnv (hEnv ▸ hReconcile))
      ⟨hSaved.written.valid, hSaved.written.revision, hSaved.written.generation⟩
  | refreshed hRefreshed =>
    refine hUpdate ?_
    rw [hCoherent.key _ _ hRefreshed.stored, hRefreshed.stored]
    exact .stepped (.refreshed hRefreshed)
      ⟨hRefreshed.written.valid, hRefreshed.written.revision, hRefreshed.written.generation⟩

/- Every transaction of the service leaves each stored aggregate alone, creates it, or moves it by
  one lifecycle step. -/
theorem step_effect (hCoherent : s.Coherent) (hOk : commandsMeet okCommand s action)
    (hStep : ServiceStep hash s action s') : InstancesEffect okCommand s.tables s'.tables := by
  intro environmentId
  have hRows := step_rows hCoherent hStep environmentId
  generalize s.tables.instances environmentId = row,
    s'.tables.instances environmentId = row' at hRows
  cases hRows with
  | unchanged => exact .unchanged _
  | created hId _ hFresh hStorable => exact .created hId hFresh hStorable
  | stepped hMove hStorable => exact .stepped (hMove.instanceStep hOk) hStorable

/- A new lease shows a stored aggregate. -/
theorem step_leases (hCoherent : s.Coherent) (hStep : ServiceStep hash s action s') :
    ∀ lease ∈ s'.leases, lease ∈ s.leases ∨ s'.tables.instances lease.env.id = some lease.env := by
  intro lease hMember
  cases hStep with
  | ticked _ | replayed _ | created _ _ _ _ _
  | commanded _ _ | renewed _ _ _ | refreshed _ => exact .inl hMember
  | claimed _ hGranted =>
    rcases List.mem_cons.mp hMember with hEq | hOld
    · subst hEq
      right
      rw [hCoherent.key _ _ hGranted.stored]
      exact hGranted.stored
    · exact .inl hOld
  | saved _ _ _ _ | crashed _ => exact .inl (List.mem_of_mem_eraseIdx hMember)

end ServiceState

-- Events

/- A transaction that writes an aggregate announces it. -/
theorem ServiceStep.announces {hash : RequestDocument → δ} {s s' : ServiceState δ}
    (hStep : ServiceStep hash s action s') : s'.tables.outbox = s.tables.outbox ∨
      ∃ key env subject occurredAt, s'.tables.instances key = some env ∧
        s'.tables.outbox = environmentEvent env subject occurredAt :: s.tables.outbox := by
  cases hStep with
  | ticked _ | replayed _ | claimed _ _ | renewed _ _ _ | crashed _ => exact .inl rfl
  | created _ _ _ _ _ | commanded _ _ _ | saved _ _ _ _ | refreshed _ =>
    exact .inr ⟨_, _, _, _, update_self _ _ _, rfl⟩

-- The Invariant Rule

section

variable [DecidableEq δ] {hash : RequestDocument → δ} {s s' : ServiceState δ}
  {row' : Option EnvironmentInstance} {environmentId : EnvironmentId}

theorem InstanceEffect.key {row : Option EnvironmentInstance}
    (hEffect : InstanceEffect okCommand environmentId row row')
    (hKey : ∀ env, row = some env → env.id = environmentId) (env : EnvironmentInstance)
    (hEnv : row' = some env) : env.id = environmentId := by
  cases hEffect with
  | unchanged => exact hKey env hEnv
  | created hId _ _ =>
    cases hEnv
    exact hId
  | stepped hStep _ =>
    cases hEnv
    rw [hStep.id_eq]
    exact hKey _ rfl

/- An effect moves a stored aggregate on or leaves it. -/
theorem InstanceEffect.stored {env : EnvironmentInstance}
    (hEffect : InstanceEffect okCommand environmentId (some env) row') :
    ∃ next, row' = some next ∧ (next = env ∨ InstanceStep okCommand env next) := by
  cases hEffect with
  | unchanged => exact ⟨env, rfl, .inl rfl⟩
  | stepped hStep _ => exact ⟨_, rfl, .inr hStep⟩

/- A lease that showed a stored aggregate still does. -/
omit [DecidableEq δ] in
theorem leaseCoherent_step {instances instances' : EnvironmentId → Option EnvironmentInstance}
    (hEffect : ∀ environmentId, InstanceEffect okCommand environmentId (instances environmentId)
      (instances' environmentId)) {lease : LeasedEnvironment}
    (hLease : leaseCoherent instances lease) : leaseCoherent instances' lease := by
  obtain ⟨stored, hStored, hLe, hSame⟩ := hLease
  have hRow := hEffect lease.env.id
  rw [hStored] at hRow
  rcases hRow.stored with ⟨next, hNew, hKept | hStep⟩
  · rw [hKept] at hNew
    exact ⟨stored, hNew, hLe, hSame⟩
  · have hNext := hStep.nextRevision
    refine ⟨next, hNew, by omega, ?_⟩
    intro hEq
    rw [hEq] at hLe
    omega

/- Coherence is kept by every transaction. -/
theorem ServiceState.step_coherent (hCoherent : s.Coherent) (hStep : s.step hash action = some s') :
    s'.Coherent := by
  have hCases := step_cases hStep
  have hEffect : InstancesEffect (fun _ _ => True) s.tables s'.tables :=
    step_effect hCoherent (commandsMeet_true s action) hCases
  refine ⟨?_, ?_⟩
  · intro environmentId
    exact (hEffect environmentId).key (hCoherent.key environmentId)
  · intro lease hMember
    rcases step_leases hCoherent hCases lease hMember with hOld | hNew
    · exact leaseCoherent_step hEffect (hCoherent.lease lease hOld)
    · exact ⟨lease.env, hNew, Nat.le_refl _, fun _ => rfl⟩

theorem environmentService_coherent {ok : ServiceState δ → ServiceAction → Prop}
    (hRun : (environmentService hash).Run ok s) : s.Coherent := by
  refine Machine.Run.invariant ?_ ?_ hRun
  · intro start hInit
    refine ⟨?_, ?_⟩
    · intro environmentId env hEnv
      rw [hInit.instances] at hEnv
      cases hEnv
    · intro lease hMember
      rw [hInit.leases] at hMember
      cases hMember
  · intro before action after hCoherent _ hStep
    exact step_coherent hCoherent hStep

/- A property of fresh aggregates that every lifecycle step keeps holds of every stored
  aggregate. -/
theorem environmentService_instances {P : EnvironmentInstance → Prop}
    (hFresh : ∀ env, freshAggregate env → Storable env → P env)
    (hStep : ∀ env updated, P env → InstanceStep okCommand env updated → Storable updated →
      P updated) (hRun : (environmentService hash).Run (commandsMeet okCommand) s) :
    ∀ environmentId env, s.tables.instances environmentId = some env → P env := by
  induction hRun with
  | start hInit =>
    intro environmentId env hEnv
    rw [hInit.instances] at hEnv
    cases hEnv
  | next hBefore hOk hNext ih =>
    intro environmentId env hEnv
    have hEffect := step_effect (environmentService_coherent hBefore) hOk
      (step_cases hNext) environmentId
    rw [hEnv] at hEffect
    generalize hRow : (_ : ServiceState δ).tables.instances environmentId = row at hEffect
    cases hEffect with
    | unchanged => exact ih environmentId env hRow
    | created _ hNew hStorable => exact hFresh env hNew hStorable
    | stepped hMove hStorable => exact hStep _ _ (ih environmentId _ hRow) hMove hStorable

/- No event is ahead of its aggregate. -/
theorem environmentService_outbox (hReach : (environmentService hash).Reachable s) :
    ∀ event ∈ s.tables.outbox, ∃ env, s.tables.instances event.aggregateId = some env ∧
      event.aggregateSequence ≤ env.revision.get := by
  induction hReach with
  | start hInit =>
    rw [hInit.outbox]
    exact nofun
  | @next before after _ hBefore _ hNext ih =>
    intro event hEvent
    have hCoherent := environmentService_coherent hBefore
    have hCases := step_cases hNext
    have hOld : event ∈ before.tables.outbox → ∃ env, after.tables.instances event.aggregateId =
        some env ∧ event.aggregateSequence ≤ env.revision.get := by
      intro hOld
      rcases ih event hOld with ⟨env, hEnv, hBehind⟩
      have hEffect := step_effect hCoherent (commandsMeet_true _ _) hCases event.aggregateId
      rw [hEnv] at hEffect
      rcases hEffect.stored with ⟨next, hStored, rfl | hStep⟩
      · exact ⟨next, hStored, hBehind⟩
      · have hRevision := hStep.nextRevision
        exact ⟨next, hStored, by omega⟩
    rcases hCases.announces with hOutbox | ⟨key, env, subject, occurredAt, hStored, hOutbox⟩
    · rw [hOutbox] at hEvent
      exact hOld hEvent
    · rw [hOutbox] at hEvent
      rcases List.mem_cons.mp hEvent with rfl | hEvent
      · have hKey := (step_coherent hCoherent hNext).key key env hStored
        rw [← hKey] at hStored
        exact ⟨env, hStored, Nat.le_refl _⟩
      · exact hOld hEvent

variable {env : EnvironmentInstance}

/- A stored aggregate stays or is replaced by a step from it. -/
theorem ServiceState.step_stored (hCoherent : s.Coherent) (hStep : s.step hash action = some s')
    (hEnv : s.tables.instances environmentId = some env) :
    ∃ next, s'.tables.instances environmentId = some next ∧
      (next = env ∨ RowStep s env action next) := by
  have hRow := step_rows hCoherent (step_cases hStep) environmentId
  rw [hEnv] at hRow
  generalize s'.tables.instances environmentId = row' at hRow
  cases hRow with
  | unchanged => exact ⟨env, rfl, .inl rfl⟩
  | stepped hMove _ => exact ⟨_, rfl, .inr hMove⟩

end

-- A Sample Environment

/- One Experiment environment, its commands and its worker. The requests are hashed by
  themselves. -/
namespace Sample

def environmentId : EnvironmentId := ⟨1⟩

def courseId : CourseId := ⟨2⟩

def actorId : ActorId := ⟨3⟩

def releaseId : ReleaseId := ⟨4⟩

def revision (n : Nat) : Revision := (Revision.new n).getD Revision.one

def spec : EnvironmentCreateSpec where
  courseId := courseId
  ownerActorId := actorId
  displayLabel := "lab"
  environmentClass := .experiment
  runtimeKind := .container
  releaseId := releaseId
  releaseVersion := 1
  providerBinding := "container"
  leaseId := none
  capacityBinding := none
  eligibilityExpiresAt := 1000000

def command (kind : EnvironmentOperationKind) (expectedRevision : Revision)
    (acceptedAt : UtcTimestamp) : EnvironmentLifecycleCommand where
  environmentId := environmentId
  kind := kind
  expectedRevision := expectedRevision
  actorId := actorId
  traceId := "trace"
  acceptedAt := acceptedAt
  deadlineAt := acceptedAt + 100000
  accessRevocationRevision := if kind = .create then none else some Revision.one
  preserveMutableDisk := false
  maxAttempts := 3
  resetTarget := none

/- The environment is created as operation `1`. -/
def create : ServiceAction :=
  .command "key-create" (command .create Revision.one 0) (some spec) none (some courseId) ⟨1⟩

def request (key : String) (kind : EnvironmentOperationKind) (expectedRevision : Revision)
    (acceptedAt : UtcTimestamp) (operationId : OperationId) : ServiceAction :=
  .command key (command kind expectedRevision acceptedAt) none none (some courseId) operationId

def worker : ReconcileWorker where
  providerTimeout := 1000
  leaseDuration := 5000
  retryDelay := 1000
  providerTimeout_pos := by decide
  providerTimeout_le := by decide
  leaseDuration_pos := by decide
  leaseDuration_le := by decide
  retryDelay_pos := by decide
  retryDelay_le := by decide
  leaseDuration_covers := by decide

/- One pass of a worker over an operation at time `now`: claim, heartbeat, and saving what the
  Provider answered. -/
def pass (now : UtcTimestamp) (operationId : OperationId)
    (answer : ProviderAnswer) : List ServiceAction :=
  [.tick now, .claim now "worker" 5000 7 operationId, .heartbeat now 0 5000,
    .reconcile now 0 worker now answer]

def rejected : ProviderAnswer := .answered (.error { code := .rejected, retryable := false })

/- The Provider reports a phase that is not the last. -/
def progress (nextState : ObservedEnvironmentState) : ProviderAnswer :=
  .answered (.ok
    { nextState, endpoints := [], cleanupEvidence := none,
      operationComplete := false })

def start : ServiceState RequestDocument := .empty

theorem start_initial : (environmentService id).init start := ServiceState.empty_initial

end Sample

end LabWeaver
