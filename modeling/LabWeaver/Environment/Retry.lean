import LabWeaver.Base.Retry
import LabWeaver.Environment.Api
import LabWeaver.Environment.Service

/-
  This file says which calls of the public Environment API can be repeated. The hash of a creation
  covers the time and the trace of the call, and a command is refused for its revision before the
  ledger is read.
-/

namespace LabWeaver

open Outcome Ledger EnvironmentInstance RequestHeaders

-- What Every Run Keeps

variable {δ : Type} {hash : RequestDocument → δ}

section

/- Completed keys keep their results, no environment is lost, and no revision goes back. -/
structure EnvironmentTables.Grows (later earlier : EnvironmentTables δ) : Prop where
  ledger : Extends later.ledger earlier.ledger
  instances : ∀ environmentId env, earlier.instances environmentId = some env → ∃ updated,
    later.instances environmentId = some updated ∧ env.revision.get ≤ updated.revision.get

open EnvironmentTables

variable {tables tables' tables'' : EnvironmentTables δ}

theorem EnvironmentTables.Grows.refl (tables : EnvironmentTables δ) : Grows tables tables := by
  refine ⟨extends_refl _, ?_⟩
  intro environmentId env hEnv
  exact ⟨env, hEnv, Nat.le_refl _⟩

theorem EnvironmentTables.Grows.trans (hLater : Grows tables'' tables')
    (hEarlier : Grows tables' tables) : Grows tables'' tables := by
  refine ⟨extends_trans hLater.ledger hEarlier.ledger, ?_⟩
  intro environmentId env hEnv
  rcases hEarlier.instances environmentId env hEnv with ⟨middle, hMiddle, hFirst⟩
  rcases hLater.instances environmentId middle hMiddle with ⟨updated, hUpdated, hSecond⟩
  exact ⟨updated, hUpdated, Nat.le_trans hFirst hSecond⟩

variable {s s' : ServiceState δ} {action : ServiceAction}

/- A transaction completes at most one free key. -/
theorem ServiceState.step_ledger (hStep : ServiceStep hash s action s') :
    Extends s'.tables.ledger s.tables.ledger := by
  cases hStep with
  | ticked _ | replayed _ | claimed _ _ | renewed _ _ _
  | saved _ _ _ _ | crashed _ | refreshed _ => exact extends_refl _
  | created _ _ _ hFree _ | commanded _ _ hFree => exact extends_complete hFree

variable [DecidableEq δ]

theorem ServiceState.step_grows (hReach : (environmentService hash).Reachable s)
    (hStep : (environmentService hash).step s action = some s') : Grows s'.tables s.tables := by
  refine ⟨step_ledger (step_cases hStep), ?_⟩
  intro environmentId env hEnv
  rcases step_stored (environmentService_coherent hReach) hStep hEnv with ⟨next, hNext, rfl | hMove⟩
  · exact ⟨next, hNext, Nat.le_refl _⟩
  · have hRevision := (hMove.instanceStep (commandsMeet_true _ _)).nextRevision
    exact ⟨next, hNext, by omega⟩

/- However a run goes on, completed keys keep their results and no environment goes back to an
  earlier revision. -/
theorem environmentService_grows (hReach : (environmentService hash).Reachable s)
    (hLeads : (environmentService hash).Leads s s') : Grows s'.tables s.tables := by
  apply Machine.Leads.relation (R := fun earlier later : ServiceState δ =>
    Grows later.tables earlier.tables)
    ?_ ?_ ?_ hReach hLeads
  · intro s
    exact .refl _
  · intro first second third hEarlier hLater
    exact hLater.trans hEarlier
  · intro s action s' hReach' hStep
    exact ServiceState.step_grows hReach' hStep

/- No update is lost: once an environment has moved on from what a worker was given, the worker can
  never save. -/
theorem superseded_worker_never_saves (hReach : (environmentService hash).Reachable s)
    {lease : LeasedEnvironment} (hLease : lease ∈ s.leases) {env : EnvironmentInstance}
    (hEnv : s.tables.instances lease.env.id = some env) (hMoved : env.revision ≠ lease.env.revision)
    (hLeads : (environmentService hash).Leads s s') (startedAt clock : UtcTimestamp)
    (updated : EnvironmentInstance) (tables : EnvironmentTables δ) :
    saveReconciled s'.tables startedAt clock lease updated ≠ .ok tables := by
  intro hSave
  rcases (environmentService_coherent hReach).lease lease hLease with ⟨stored, hStored, hLe, _⟩
  cases hEnv.symm.trans hStored
  rcases (environmentService_grows hReach hLeads).instances _ _ hEnv with ⟨later, hLater, hGrown⟩
  rcases saveReconciled_eq_ok hSave with ⟨found, _, hSaved, _⟩
  cases hLater.symm.trans hSaved.loaded
  rw [hSaved.revision] at hGrown
  exact hMoved (Revision.ext_get (Nat.le_antisymm hGrown hLe))

end

open Sample in
/- The lease of the first worker has expired when the second takes over. -/
theorem superseded_worker_never_saves_second : ∃ s, (environmentService id).Reachable s ∧
    ∃ lease ∈ s.leases, ∀ startedAt clock updated tables,
      saveReconciled s.tables startedAt clock lease updated ≠ .ok tables := by
  have hFound : ∃ s, (environmentService id).Reachable s ∧ ∃ lease ∈ s.leases, ∃ env,
      s.tables.instances lease.env.id = some env ∧ env.revision ≠ lease.env.revision :=
    Machine.exists_reachable ([create, .claim 0 "first" 5000 6 ⟨1⟩] ++
      pass 9000 ⟨1⟩ (progress .validating)) start_initial (by decide)
  rcases hFound with ⟨s, hReach, lease, hLease, env, hEnv, hMoved⟩
  exact ⟨s, hReach, lease, hLease, superseded_worker_never_saves hReach hLease hEnv hMoved .refl⟩

-- Repeating A Lifecycle Command

/- What the client sends. The tag in `If-Match` is not part of it: a client may repeat its command
  with the tag it reads now. -/
structure LifecycleCall where
  route : LifecycleRoute
  caller : Bool
  headers : RequestHeaders
  environmentId : EnvironmentId

/- What one call takes from elsewhere. -/
structure LifecycleContext where
  api : EnvironmentApi
  ifMatch : Option (Option Revision)
  traceId : String
  operationId : OperationId

variable {seen s s' : ServiceState δ} {accepted : EnvironmentOperationAccepted}

section

variable [DecidableEq δ]

def lifecycleEndpoint (hash : RequestDocument → δ) :
    Endpoint (ServiceState δ) LifecycleContext LifecycleCall
      EnvironmentOperationAccepted EnvironmentApiError where
  call := fun seen s context call => do
    let (accepted, tables) ← lifecycleHandler hash context.api call.route
        seen.tables s.tables s.clock call.caller
        { call.headers with ifMatch := context.ifMatch }
        context.traceId call.environmentId
        context.operationId
    .ok (accepted, { s with tables })

variable {context : LifecycleContext} {call : LifecycleCall}

theorem LifecycleRoute.kind_ne_create (route : LifecycleRoute) : route.kind ≠ .create := by
  cases route <;> decide

theorem lifecycleEndpoint_eq_ok
    (hCall : (lifecycleEndpoint hash).call seen s context call = .ok (accepted, s')) :
    ∃ env key command tables, seen.tables.instances call.environmentId = some env ∧
      call.headers.idempotencyKey = some key ∧ command.environmentId = call.environmentId ∧
      command.kind = call.route.kind ∧ command.expectedRevision = env.revision ∧
      acceptApiCommand hash s.tables s.clock key command none env.courseId context.operationId =
        .ok (accepted, tables) ∧ s' = { s with tables } := by
  simp only [lifecycleEndpoint, lifecycleHandler, acceptLifecycle, loadOwned,
    requireIdempotencyKey, steps_eq_ok, loadLocked_eq_ok, Prod.exists] at hCall
  rcases hCall with ⟨_, _, ⟨_, _, _, _, _, env, ⟨_, ⟨hEnv, _⟩, _, ⟨⟩⟩,
      expected, _, hExpected, revocation, _, deadlineAt, _,
      key, ⟨_, hKey, _, ⟨⟩⟩, hAccept⟩, ⟨⟩⟩
  exact ⟨env, key, _, _, hEnv, hKey, rfl, rfl, hExpected, hAccept, rfl⟩

theorem lifecycleEndpoint_stepwise : (lifecycleEndpoint hash).Stepwise
    (environmentService hash) := by
  intro seen s context call accepted s' hCall
  rcases lifecycleEndpoint_eq_ok hCall with ⟨env, key, command, tables, _, _, _, _, _, hAccept,
      hState⟩
  refine ⟨.command key command none none (some env.courseId) context.operationId, ?_⟩
  unfold acceptApiCommand at hAccept
  simp only [environmentService, ServiceState.step, hAccept]
  rw [hState]

/- The environment has moved on: the tag of the first call is refused for its revision, and under a
  newer tag the key conflicts. -/
theorem lifecycle_retrySafeWhen (hInjective : Function.Injective hash) :
    (lifecycleEndpoint hash).RetrySafeWhen (environmentService hash)
      (fun _ _ _ _ _ _ => False) := by
  intro call first accepted seen s hRepeated second
  rcases hRepeated.exists_first lifecycleEndpoint_stepwise with
    ⟨seen₀, s₀, s₁, hCall, hCommitted, hReach₁, hSeen, hLeads⟩
  rcases lifecycleEndpoint_eq_ok hCall with ⟨_, key, command, tables₁, _, hKey, hId, hRoute, _,
      hAccept, hState⟩
  have hKind : command.kind ≠ .create := by
    rw [hRoute]
    exact call.route.kind_ne_create
  -- the first call was applied: it committed something
  rcases (acceptCommandInTransaction_eq_ok hKind).mp hAccept with ⟨_, _, ⟨_, hSame⟩ |
      ⟨_, current, planned, fenced, hApplied, _, _, hTables⟩⟩
  · rw [hSame] at hState
    exact absurd hState hCommitted
  rcases commandTables_revision hKind hApplied with ⟨hFenced, hRevision⟩
  -- the environment that the second call reads
  have hFenced₁ : s₁.tables.instances call.environmentId = some fenced := by
    rwa [hState, hTables, ← hId]
  rcases (environmentService_grows hReach₁ hSeen).instances _ _ hFenced₁ with ⟨later, hLater, hLe⟩
  -- the entry that the second call finds
  have hEntry : s.tables.ledger (operationName command.kind, key) =
      some { requestHash := hash (.command command)
             result := some (acceptedResponse fenced) } := by
    apply (environmentService_grows hReach₁ hLeads).ledger
    · rw [hState, hTables]
      simp only [commandTables, Ledger.complete, Function.update_self]
    · exact Option.some_ne_none _
  refine ⟨?_, False.elim⟩
  intro hSecond
  rcases lifecycleEndpoint_eq_ok hSecond with ⟨env, key', command', _, hEnv, hKey', _, hRoute',
      hExpected, hAccept', _⟩
  cases hKey.symm.trans hKey'
  cases hLater.symm.trans hEnv
  have hKind' : command'.kind = command.kind := by
    rw [hRoute', hRoute]
  have hNe : command'.kind ≠ .create := by
    rwa [hKind']
  rcases (acceptCommandInTransaction_eq_ok hNe).mp hAccept' with ⟨_, _, ⟨hStored, _⟩ | ⟨hFree, _⟩⟩
  · rw [hKind', hEntry] at hStored
    injection hStored with hFound
    have hHash := congrArg LedgerEntry.requestHash hFound
    have hDocument := hInjective hHash
    injection hDocument with hSame
    rw [← hSame] at hExpected
    rw [← hExpected, hRevision] at hLe
    omega
  · rw [hKind', hEntry] at hFree
    cases hFree

end

-- Repeating A Creation

structure CreateEnvironmentCall where
  caller : Bool
  headers : RequestHeaders
  body : Option CreateEnvironmentRequest

/- What one call takes from elsewhere. -/
structure CreateEnvironmentContext where
  api : EnvironmentApi
  traceId : String
  environmentId : EnvironmentId
  operationId : OperationId

/- The spec of a public creation. -/
def CreateEnvironmentRequest.spec (request : CreateEnvironmentRequest) (actorId : ActorId)
    (release : ReleaseProjection) : EnvironmentCreateSpec where
  courseId := request.courseId
  ownerActorId := actorId
  displayLabel := request.displayLabel.getD release.name
  environmentClass := release.environmentClass
  runtimeKind := release.runtimeKind
  releaseId := request.releaseId
  releaseVersion := request.releaseVersion
  providerBinding := release.providerBinding
  leaseId := none
  capacityBinding := none
  eligibilityExpiresAt := release.retainUntil

namespace CreateEnvironmentContext

variable (context : CreateEnvironmentContext)

def command (actorId : ActorId) : EnvironmentLifecycleCommand :=
  createCommand context.environmentId actorId context.traceId context.api.now
    (context.api.now + operationDeadline)

def created (request : CreateEnvironmentRequest) (actorId : ActorId) (release : ReleaseProjection) :
    EnvironmentInstance :=
  createdInstance (context.command actorId) (request.spec actorId release) none release.retainUntil
    context.operationId

end CreateEnvironmentContext

structure ReleaseUsable (api : EnvironmentApi) (request : CreateEnvironmentRequest)
    (release : ReleaseProjection) : Prop where
  resolved : api.resolve request.releaseId request.releaseVersion = .ok release
  current : release.withdrawnAt = none
  course : release.courseId = request.courseId
  experiment : release.environmentClass = .experiment

structure CreateChecked (clock : UtcTimestamp) (context : CreateEnvironmentContext)
    (call : CreateEnvironmentCall) (actorId : ActorId) (key : String)
    (request : CreateEnvironmentRequest) (release : ReleaseProjection) : Prop where
  caller : call.caller = true
  actor : call.headers.actor = some actorId
  session : call.headers.session = true
  header : call.headers.idempotencyKey = some key
  parses : IdempotencyKey.parses key = true
  body : call.body = some request
  wellFormed : request.wellFormed
  usable : ReleaseUsable context.api request release
  deadline : context.api.now + operationDeadline ≤ latestTimestamp
  acceptable : createAcceptable (context.command actorId)
    (request.spec actorId release) clock request.courseId
  valid : (context.created request actorId release).Valid

/- A repetition is answered from the ledger only if it reads the clock in the same millisecond,
  carries the same trace, and finds the release as it was, usable and not at its end. -/
def createEnvironmentRepeats {δ : Type} (call : CreateEnvironmentCall)
    (first : CreateEnvironmentContext) (_ : EnvironmentOperationAccepted)
    (second : CreateEnvironmentContext) (_ s : ServiceState δ) : Prop :=
  ∃ request release release', call.body = some request ∧ ReleaseUsable first.api request release ∧
    ReleaseUsable second.api request release' ∧ release'.runtimeKind = release.runtimeKind ∧
    release'.providerBinding = release.providerBinding ∧
    release'.retainUntil = release.retainUntil ∧
    (request.displayLabel = none → trimIsEmpty release'.name = false ∧ release'.name.length ≤ 120 ∧
      anyControl release'.name = false) ∧
    second.traceId = first.traceId ∧ second.api.now = first.api.now ∧ second.api.now ≤ s.clock ∧
    s.clock < second.api.now + operationDeadline ∧ s.clock < release.retainUntil

section

variable [DecidableEq δ]

def createEnvironmentEndpoint (hash : RequestDocument → δ) :
    Endpoint (ServiceState δ) CreateEnvironmentContext
      CreateEnvironmentCall EnvironmentOperationAccepted EnvironmentApiError where
  call := fun _ s context call => do
    let (accepted, tables) ← createEnvironment hash context.api s.tables s.clock
        call.caller call.headers context.traceId call.body
        context.environmentId context.operationId
    .ok (accepted, { s with tables })

variable {context : CreateEnvironmentContext} {call : CreateEnvironmentCall}

/- An Experiment is built without a lease. -/
theorem buildCreateInstance_experiment {command : EnvironmentLifecycleCommand}
    {spec : EnvironmentCreateSpec} {clock : UtcTimestamp} {courseId : CourseId}
    {operationId : OperationId} {env : EnvironmentInstance}
    (hClass : spec.environmentClass = .experiment) (hLease : spec.leaseId = none)
    (hCapacity : spec.capacityBinding = none) :
    buildCreateInstance command spec none clock courseId operationId = .ok env ↔
      createAcceptable command spec clock courseId ∧
      env = createdInstance command spec none spec.eligibilityExpiresAt operationId ∧
      env.Valid := by
  simp only [buildCreateInstance, createEligibility, hClass, hLease, hCapacity, steps_eq_ok,
    storeContract_eq_ok, validate_eq_ok, and_self, true_and]
  constructor
  · rintro ⟨hAcceptable, _, ⟨⟩, hValid, ⟨⟩⟩
    exact ⟨hAcceptable, rfl, hValid⟩
  · rintro ⟨hAcceptable, hEnv, hValid⟩
    rw [hEnv] at hValid
    refine ⟨hAcceptable, _, rfl, hValid, ?_⟩
    rw [hEnv]
    rfl

theorem createEnvironmentEndpoint_eq_ok : (createEnvironmentEndpoint hash).call seen s context
      call = .ok (accepted, s') ↔
    ∃ actorId key request release tables, CreateChecked s.clock context call actorId key
      request release ∧
      createInTransaction hash s.tables key (context.created request actorId release) =
        .ok (accepted, tables) ∧ s' = { s with tables } := by
  simp only [createEnvironmentEndpoint, createEnvironment, requireActor,
    requireSession, requireIdempotencyKey, resolveRelease,
    commandDeadline, acceptApiCommand, acceptCommandInTransaction, createCommand, steps_eq_ok,
    addDuration_eq_some, if_true, Prod.exists]
  constructor
  · rintro ⟨_, _, ⟨hCaller, actorId, hActor, hSession, key,
      ⟨_, hKey, hParses, ⟨⟩⟩, request, hBody, hForm,
      release, ⟨_, hResolved, hUsable, ⟨⟩⟩, deadline,
      ⟨hDeadline, hDeadlineEq⟩, _, ⟨⟩, _, ⟨⟩, env, hBuilt, hCreate⟩, ⟨⟩⟩
    subst hDeadlineEq
    rcases hUsable with ⟨hCurrent, hScope, hClass⟩
    rcases (buildCreateInstance_experiment hClass rfl
      rfl).mp hBuilt with ⟨hAcceptable, hEnv, hValid⟩
    rw [hEnv] at hValid hCreate
    exact ⟨actorId, key, request, release, _, ⟨hCaller, hActor, hSession, hKey, hParses, hBody,
      hForm, ⟨hResolved, hCurrent, hScope, hClass⟩, hDeadline, hAcceptable, hValid⟩,
      hCreate, rfl⟩
  · rintro ⟨actorId, key, request, release, tables, hChecked, hCreate, hState⟩
    have hUsable := hChecked.usable
    refine ⟨accepted, tables, ⟨hChecked.caller, actorId, hChecked.actor, hChecked.session, key,
      ⟨key, hChecked.header, hChecked.parses, rfl⟩, request,
      hChecked.body, hChecked.wellFormed, release,
      ⟨release, hUsable.resolved, ⟨hUsable.current, hUsable.course, hUsable.experiment⟩, rfl⟩,
      _, ⟨hChecked.deadline, rfl⟩, _, rfl, _, rfl, _, ?_, hCreate⟩, by rw [hState]⟩
    exact (buildCreateInstance_experiment hUsable.experiment rfl rfl).mpr
      ⟨hChecked.acceptable, rfl, hChecked.valid⟩

theorem createEnvironmentEndpoint_stepwise : (createEnvironmentEndpoint hash).Stepwise
    (environmentService hash) := by
  intro seen s context call accepted s' hCall
  rcases createEnvironmentEndpoint_eq_ok.mp hCall with
    ⟨actorId, key, request, release, tables, _, hCreate, hState⟩
  refine ⟨.create key (context.created request actorId release), ?_⟩
  simp only [environmentService, ServiceState.step, hCreate]
  rw [hState]

section

variable {tables tables' : EnvironmentTables δ} {idempotencyKey : String}
  {env : EnvironmentInstance}

/- A creation that commits stores its answer. -/
theorem createInTransaction_stores
    (hCreate : createInTransaction hash tables idempotencyKey env = .ok (accepted, tables'))
    (hCommitted : tables' ≠ tables) :
    freshAggregate env ∧ tables'.ledger ("create", idempotencyKey) = some
      { requestHash :=
        hash (.create (createDocument env))
        result := some accepted } := by
  rcases createInTransaction_eq_ok.mp hCreate with
    ⟨_, _, hFresh, ⟨_, hSame⟩ | ⟨_, _, hAccepted, hTables⟩⟩
  · exact absurd hSame hCommitted
  · refine ⟨hFresh, ?_⟩
    rw [hTables, hAccepted]
    simp only [insertedTables, Ledger.complete, Function.update_self]

/- Under a completed key, a creation succeeds only with the document that was stored. -/
theorem createInTransaction_of_completed {storedHash : δ} {stored : EnvironmentOperationAccepted}
    (hEntry : tables.ledger ("create", idempotencyKey) =
      some { requestHash := storedHash, result := some stored }) :
    createInTransaction hash tables idempotencyKey env = .ok (accepted, tables') ↔
      IdempotencyKey.parses idempotencyKey = true ∧ env.Valid ∧ freshAggregate env ∧
      storedHash = hash (.create (createDocument env)) ∧ accepted = stored ∧ tables' = tables := by
  simp only [createInTransaction, steps_eq_ok, storeContract_eq_ok,
    validate_eq_ok, reserve_of_completed hEntry]
  by_cases hHash : storedHash = hash (.create (createDocument env))
  · simp only [hHash, if_true, Except.ok.injEq, Prod.mk.injEq, true_and, eq_comm]
  · simp [hHash]

end

open CreateEnvironmentContext CreateEnvironmentRequest

/- A new name and new identifiers keep an environment valid. -/
theorem created_valid {first second : CreateEnvironmentContext} {request : CreateEnvironmentRequest}
    {actorId : ActorId} {release release' : ReleaseProjection} (hForm : request.wellFormed)
    (hName : request.displayLabel = none → trimIsEmpty release'.name = false ∧
      release'.name.length ≤ 120 ∧ anyControl release'.name = false)
    (hClass : release'.environmentClass = release.environmentClass)
    (hBinding : release'.providerBinding = release.providerBinding)
    (hTrace : second.traceId = first.traceId) (hNow : second.api.now = first.api.now)
    (hValid : (first.created request actorId release).Valid) :
    (second.created request actorId release').Valid := by
  have hLabel : trimIsEmpty (request.displayLabel.getD release'.name) = false ∧
      (request.displayLabel.getD release'.name).length ≤ 120 ∧
      anyControl (request.displayLabel.getD release'.name) = false := by
    cases hGiven : request.displayLabel with
    | none => exact hName hGiven
    | some label => exact hForm.2 label hGiven
  rcases hValid.scalars with ⟨_, _, _, hScalars⟩
  rcases hLabel with ⟨hTrim, hLength, hControl⟩
  refine ⟨⟨hTrim, hLength, hControl, ?_⟩, hValid.diagnostics, ?_, ?_, hValid.failedPhase,
    hValid.retryPhase, hValid.resetTarget, ?_, ?_, hValid.restart, hValid.revocation, hValid.ready,
    hValid.evidence⟩
  · simpa only [created, command, createdInstance, createCommand, spec, hBinding, hTrace, hNow]
      using hScalars
  · have hUnleased := hValid.unleased
    simpa only [experimentUnleased, created, createdInstance, spec, hClass] using hUnleased
  · have hLeased := hValid.leased
    simpa only [workLeased, created, createdInstance, spec, hClass]
      using hLeased
  · rintro target ⟨⟩
  · rintro authorization ⟨⟩

/- A repeated creation conflicts with the first one, unless it falls into the same millisecond and
  trace. -/
theorem createEnvironment_retrySafeWhen (hInjective : Function.Injective hash) :
    (createEnvironmentEndpoint hash).RetrySafeWhen (environmentService hash)
      createEnvironmentRepeats := by
  intro call first accepted seen s hRepeated second
  rcases hRepeated.exists_first createEnvironmentEndpoint_stepwise with
    ⟨seen₀, s₀, s₁, hCall, hCommitted, hReach₁, _, hLeads⟩
  rcases createEnvironmentEndpoint_eq_ok.mp hCall with
    ⟨actorId, key, request, release, tables₁, hChecked, hCreate, hState⟩
  have hTables : tables₁ ≠ s₀.tables := by
    intro hSame
    apply hCommitted
    rw [hState, hSame]
  rcases createInTransaction_stores hCreate hTables with ⟨hFresh, hEntry₁⟩
  -- the entry of the first call is still there
  have hEntry : s.tables.ledger ("create", key) = some
      { requestHash :=
        hash (.create (createDocument (first.created request actorId release)))
        result := some accepted } := by
    apply (environmentService_grows hReach₁ hLeads).ledger
    · rwa [hState]
    · exact Option.some_ne_none _
  constructor
  · intro hSecond
    rcases createEnvironmentEndpoint_eq_ok.mp hSecond with
      ⟨actorId', key', request', release', _, hChecked', hCreate', _⟩
    cases hChecked.actor.symm.trans hChecked'.actor
    cases hChecked.header.symm.trans hChecked'.header
    cases hChecked.body.symm.trans hChecked'.body
    rcases (createInTransaction_of_completed hEntry).mp hCreate' with ⟨_, _, _, hHash, _, _⟩
    have hDocument := hInjective hHash
    injection hDocument with hSame
    have hKind := congrArg CreateDocument.runtimeKind hSame
    have hBinding := congrArg CreateDocument.providerBinding hSame
    have hRetain := congrArg CreateDocument.eligibilityExpiresAt hSame
    have hTrace := congrArg CreateDocument.traceId hSame
    have hNow := congrArg CreateDocument.acceptedAt hSame
    rcases hChecked'.acceptable with ⟨_, _, _, _, _, hEligible, _, _, _, hDeadline, hStarted, _⟩
    refine ⟨request, release, release', hChecked.body,
      hChecked.usable, hChecked'.usable, hKind.symm, hBinding.symm, hRetain.symm, ?_, hTrace.symm,
      hNow.symm, hStarted, hDeadline, ?_⟩
    · intro hNone
      rcases hChecked'.valid.scalars with ⟨hTrim, hLength, hControl, _⟩
      have hLabel : (second.created request actorId release').displayLabel = release'.name := by
        simp only [created, createdInstance, spec, hNone, Option.getD_none]
      rw [hLabel] at hTrim hLength hControl
      exact ⟨hTrim, hLength, hControl⟩
    · rwa [show release.retainUntil = release'.retainUntil from hRetain]
  · rintro ⟨request', release'', release', hBody, hUsable,
      hUsable', hKind, hBinding, hRetain, hName, hTrace, hNow, hStarted, hDeadline, hEligible⟩
    cases hChecked.body.symm.trans hBody
    -- both readings of the first release agree
    have hRelease : release'' = release := by
      have hResolved := hUsable.resolved
      rw [hChecked.usable.resolved] at hResolved
      injection hResolved with hEq
      exact hEq.symm
    subst hRelease
    have hClass : release'.environmentClass = release''.environmentClass := by
      rw [hUsable'.experiment, hUsable.experiment]
    have hValid' : (second.created request actorId release').Valid :=
      created_valid hChecked.wellFormed hName hClass hBinding hTrace hNow hChecked.valid
    have hDocument : createDocument (first.created request actorId release'') = createDocument
        (second.created request actorId release') := by
      simp only [createDocument, created, command, createdInstance, createCommand, spec, hClass,
        hKind, hBinding, hRetain, hTrace, hNow]
    rcases hChecked.acceptable with ⟨_, _, _, hVersion, hTrim, _, hOne, hHundred, hPositive, _⟩
    apply createEnvironmentEndpoint_eq_ok.mpr
    refine ⟨actorId, key, request, release', s.tables,
      ⟨hChecked.caller, hChecked.actor, hChecked.session,
        hChecked.header, hChecked.parses, hChecked.body,
        hChecked.wellFormed, hUsable', ?_, ?_, hValid'⟩,
      ?_, rfl⟩
    · rw [hNow]
      exact hChecked.deadline
    · refine ⟨rfl, rfl, rfl, hVersion, ?_, ?_, hOne,
        hHundred, ?_, hDeadline, hStarted, rfl, rfl, rfl⟩
      · simpa only [spec, hBinding] using hTrim
      · simpa only [spec, hRetain] using hEligible
      · simpa only [command, createCommand, hNow] using hPositive
    · apply (createInTransaction_of_completed hEntry).mpr
      refine ⟨hChecked.parses, hValid', ?_, ?_, rfl, rfl⟩
      · simpa only [freshAggregate, created, command, createdInstance, createCommand, spec, hClass]
          using hFresh
      · rw [hDocument]

end

end LabWeaver
