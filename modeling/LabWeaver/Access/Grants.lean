import LabWeaver.Base.Ledger
import LabWeaver.Base.Retry
import LabWeaver.Contracts.AccessGrant

/-
  This file models the creation of an access grant, and says which of its calls can be repeated:
  the hash covers the expiry that the handler computes from the time of the call.
-/

namespace LabWeaver

open Outcome Ledger CreateAccessGrantRequest

-- Configuration And Tables

/- The deployment's limits on grants, as they are checked. -/
structure GrantPolicy where
  (defaultTtlSeconds maxTtlSeconds maxEndpointsPerGrant : Nat)
  defaultPositive : 0 < defaultTtlSeconds
  defaultBounded : defaultTtlSeconds ≤ maxTtlSeconds
  maxFixed : maxTtlSeconds = 3600
  endpointsPositive : 1 ≤ maxEndpointsPerGrant
  endpointsBounded : maxEndpointsPerGrant ≤ 100

/- The columns of `access_grants` that a creation writes. -/
structure AccessGrantRow where
  grantId : AccessGrantId
  actorId : ActorId
  courseId : CourseId
  environmentId : EnvironmentId
  (environmentRevision revision : Revision)
  state : AccessGrantState
  (notBefore expiresAt : OffsetDateTime)
  request : CreateAccessGrantRequest
  subjectKind : EnvironmentAccessSubjectKind
deriving DecidableEq

/- What `activate_one` asks about a requested grant. -/
def AccessGrantRow.eligibilityRequest (grant : AccessGrantRow) :
    EnvironmentEndpointEligibilityRequest where
  environmentId := grant.request.environmentId
  courseId := grant.request.courseId
  actorId := grant.actorId
  subjectKind := grant.subjectKind
  expectedRevision := grant.request.environmentRevision
  endpointIds := grant.request.endpointIds

/- A `grant.created` event and its place in the stream. -/
structure AccessGrantChanged where
  accessGrantId : AccessGrantId
  revision : Revision
  state : AccessGrantState
  effectiveAt : UtcTimestamp

/- The results in the ledger. Other operations store other documents under their own names. -/
inductive AccessResult where
| grant (grant : AccessGrant)
| other (document : String)

/- A key has an operation, a scope and a client's text. -/
abbrev AccessLedgerKey := String × String × String

structure AccessTables (δ : Type) where
  memberships : List CourseMembership
  grants : List AccessGrantRow
  activationJobs : List AccessGrantId
  ledger : Ledger AccessLedgerKey δ AccessResult
  outbox : List AccessGrantChanged

inductive AccessApiError where
| documentInvalid
| authRequired
| scopeDenied
| adminGrantForbidden
| ttlInvalid
| idempotencyRequired
| idempotencyInvalid
| idempotencyConflict
| grantAlreadyActive
| storeCorrupt
| storeUnavailable
deriving DecidableEq

abbrev AccessApiResult := Except AccessApiError

-- Memberships And Expiry

namespace CourseMembership

def current (membership : CourseMembership) (now : OffsetDateTime) : Prop :=
  membership.state = .active ∧ ∀ stop ∈ membership.expiresAt, now.column < stop.column
deriving Decidable

end CourseMembership

/- The order in which `active_membership` tries the roles. -/
def rolesInOrder : List PlatformRole := [.platformAdmin, .teacher, .student]

/- `active_membership`: the first current membership of the actor whose role the session carries.
  The primary key allows one row for each role. -/
def activeMembership (memberships : List CourseMembership) (courseId : CourseId) (actorId : ActorId)
    (roles : List PlatformRole) (now : OffsetDateTime) : Option CourseMembership :=
  rolesInOrder.findSome? (fun role =>
    if role ∈ roles then
      memberships.find? (fun membership => membership.courseId = courseId ∧
        membership.actorId = actorId ∧ membership.role = role ∧ membership.current now)
    else none)

theorem activeMembership_eq_some {memberships : List CourseMembership} {courseId : CourseId}
    {actorId : ActorId} {roles : List PlatformRole} {now : OffsetDateTime}
    {membership : CourseMembership}
    (hFound : activeMembership memberships courseId actorId roles now = some membership) :
    membership ∈ memberships ∧ membership.courseId = courseId ∧ membership.actorId = actorId := by
  rcases List.exists_of_findSome?_eq_some hFound with ⟨role, _, hRole⟩
  split at hRole
  · have hMember := List.mem_of_find?_eq_some hRole
    have hTest := List.find?_some hRole
    simp only [decide_eq_true_eq] at hTest
    exact ⟨hMember, hTest.1, hTest.2.1⟩
  · cases hRole

structure AuthenticatedSession where
  roles : List PlatformRole
  expiresAt : UtcTimestamp

/- The expiry of a new grant: the earliest of what was asked for, the limit, the session and the
  membership. -/
def effectiveExpiry (policy : GrantPolicy) (now : OffsetDateTime) (requested : Option UtcTimestamp)
    (session : AuthenticatedSession) (membership : CourseMembership) : OffsetDateTime :=
  let maximum := now.addSeconds policy.maxTtlSeconds
  let wanted := (requested.map OffsetDateTime.ofTimestamp).getD
    (now.addSeconds policy.defaultTtlSeconds)
  min (min wanted maximum) (min (OffsetDateTime.ofTimestamp session.expiresAt)
    (membership.expiresAt.getD maximum))

-- Creating A Grant

def actorIdempotencyScope (actorId : ActorId) : String := "actor:" ++ uuidText actorId.uuid

def createGrantKey (actorId : ActorId) (idempotencyKey : String) : AccessLedgerKey :=
  ("create_access_grant", actorIdempotencyScope actorId, idempotencyKey)

namespace CreateAccessGrantRequest

/- The checks on the body against the path. -/
def wellFormed (policy : GrantPolicy) (request : CreateAccessGrantRequest)
    (environmentId : EnvironmentId) : Prop :=
  request.environmentId = environmentId ∧ request.endpointIds ≠ [] ∧
  request.endpointIds.length ≤ policy.maxEndpointsPerGrant ∧ request.endpointIds.Nodup
deriving Decidable

end CreateAccessGrantRequest

def subjectKindOf : PlatformRole → EnvironmentAccessSubjectKind
| .student => .owner
| .teacher | .platformAdmin => .courseTeacher

/- The grant that a creation answers with. -/
def requestedGrant (grantId : AccessGrantId) (actorId : ActorId)
    (request : CreateAccessGrantRequest) (now expiry : OffsetDateTime) : AccessGrant where
  id := grantId
  actorId := actorId
  courseId := request.courseId
  environmentId := request.environmentId
  environmentRevision := request.environmentRevision
  state := .requested
  revision := Revision.one
  issuedAt := now.utcTimestamp
  expiresAt := expiry.utcTimestamp
  revokedAt := none
  reasonCode := none

def requestedRow (grantId : AccessGrantId) (actorId : ActorId) (request : CreateAccessGrantRequest)
    (role : PlatformRole) (now expiry : OffsetDateTime) : AccessGrantRow where
  grantId := grantId
  actorId := actorId
  courseId := request.courseId
  environmentId := request.environmentId
  environmentRevision := request.environmentRevision
  revision := Revision.one
  state := .requested
  notBefore := now
  expiresAt := expiry
  request := request
  subjectKind := subjectKindOf role

section

variable {δ : Type}

/- The INSERT into `access_grants`: a new identifier, no other live grant of the actor on the
  environment, and a positive duration. -/
def insertGrant (tables : AccessTables δ) (row : AccessGrantRow) :
    AccessApiResult (AccessTables δ) := do
  ensure (row.environmentRevision.get ≤ maxI64) .documentInvalid
  ensure (∀ old ∈ tables.grants, old.grantId ≠ row.grantId ∧ (old.state.live = true →
    old.actorId = row.actorId → old.environmentId ≠ row.environmentId))
    .grantAlreadyActive
  ensure (row.notBefore.column < row.expiresAt.column) .storeUnavailable
  .ok { tables with grants := row :: tables.grants }

def insertActivationJob (tables : AccessTables δ) (grantId : AccessGrantId) :
    AccessApiResult (AccessTables δ) := do
  ensure (grantId ∉ tables.activationJobs) .storeUnavailable
  .ok { tables with activationJobs := grantId :: tables.activationJobs }

def enqueueGrantEvent (tables : AccessTables δ) (grant : AccessGrant) (now : OffsetDateTime) :
    AccessApiResult (AccessTables δ) := do
  ensure (∀ event ∈ tables.outbox, event.accessGrantId = grant.id → event.revision ≠ grant.revision)
    .storeUnavailable
  .ok
    { tables with
      outbox :=
        { accessGrantId := grant.id, revision := grant.revision, state := grant.state,
          effectiveAt := now.utcTimestamp } ::
          tables.outbox }

def AccessResult.decodeGrant : AccessResult → AccessApiResult AccessGrant
| .grant stored => .ok stored
| .other _ => .error .storeCorrupt

variable [DecidableEq δ] (hash : CreateAccessGrantRequest → δ)

/- The transaction of a creation. -/
def storeGrant (tables : AccessTables δ) (key : AccessLedgerKey) (actorId : ActorId)
    (request : CreateAccessGrantRequest) (role : PlatformRole) (now expiry : OffsetDateTime)
    (grantId : AccessGrantId) : AccessApiResult (AccessGrant × AccessTables δ) :=
  match tables.ledger.reserve key (hash request) with
  | .replay result => do
      let grant ← result.decodeGrant
      .ok (grant, tables)
  | .conflict | .inProgress => .error .idempotencyConflict
  | .reserved => do
      let grant := requestedGrant grantId actorId request now expiry
      let tables ← insertGrant tables (requestedRow grantId actorId request role now expiry)
      let tables ← insertActivationJob tables grantId
      let tables ← enqueueGrantEvent tables grant now
      .ok (grant,
        { tables with ledger := tables.ledger.complete key (hash request) (.grant grant) })

structure CreateGrantCall where
  actorId : ActorId
  environmentId : EnvironmentId
  idempotencyKey : Option String
  body : Option CreateAccessGrantRequest

/- What one call takes from elsewhere. The clock is read for the memberships and once more after
  that. `mutationAuth`: the checks on the origin of a browser passed. -/
structure CreateGrantContext where
  mutationAuth : Bool
  session : Option AuthenticatedSession
  (membershipNow now : OffsetDateTime)
  grantId : AccessGrantId

/- `create_access_grant`. Memberships are read from the tables `seen` before the transaction. -/
def createAccessGrant (policy : GrantPolicy) (seen tables : AccessTables δ)
    (context : CreateGrantContext) (call : CreateGrantCall) :
    AccessApiResult (AccessGrant × AccessTables δ) := do
  let request ← require call.body .documentInvalid
  ensure (context.mutationAuth = true) .authRequired
  ensure (request.wellFormed policy call.environmentId) .documentInvalid
  let session ← require context.session .authRequired
  let membership ← require (activeMembership seen.memberships request.courseId
        call.actorId session.roles context.membershipNow)
      .scopeDenied
  ensure (membership.role ≠ .platformAdmin) .adminGrantForbidden
  let expiry := effectiveExpiry policy context.now request.expiresAt session membership
  ensure (context.now < expiry) .ttlInvalid
  let request := { request with expiresAt := some expiry.utcTimestamp }
  let key ← require call.idempotencyKey .idempotencyRequired
  ensure (IdempotencyKey.parses key = true) .idempotencyInvalid
  storeGrant hash tables (createGrantKey call.actorId key)
    call.actorId request membership.role context.now expiry
    context.grantId

end

-- The Service

/- The transactions as far as a creation can tell them apart: another creation, a change of any
  other rows, and the completion of a free key. No completed key is deleted or changed. -/
inductive AccessAction (δ : Type) where
| createGrant (seen : AccessTables δ) (context : CreateGrantContext) (call : CreateGrantCall)
| change (memberships : List CourseMembership) (grants : List AccessGrantRow)
    (activationJobs : List AccessGrantId) (outbox : List AccessGrantChanged)
| complete (key : AccessLedgerKey) (requestHash : δ) (result : AccessResult)

section

variable {δ : Type} [DecidableEq δ]

/- One transaction of the service. -/
def AccessTables.step (hash : CreateAccessGrantRequest → δ) (policy : GrantPolicy)
    (tables : AccessTables δ) :
    AccessAction δ → Option (AccessTables δ)
| .createGrant seen context call =>
  match createAccessGrant hash policy seen tables context call with
  | .ok (_, tables') => some tables'
  | .error _ => none
| .change memberships grants activationJobs outbox =>
  some
    { tables with memberships, grants, activationJobs, outbox }
| .complete key requestHash result =>
  match tables.ledger key with
  | none => some { tables with ledger := tables.ledger.complete key requestHash result }
  | some _ => none

def accessService (hash : CreateAccessGrantRequest → δ) (policy : GrantPolicy) :
    Machine (AccessTables δ) (AccessAction δ) where
  init := fun tables => ∀ key, tables.ledger key = none
  step := AccessTables.step hash policy

variable {hash : CreateAccessGrantRequest → δ} {policy : GrantPolicy}
  {tables tables' : AccessTables δ} {key : AccessLedgerKey} {actorId : ActorId}
  {request : CreateAccessGrantRequest} {role : PlatformRole} {now expiry : OffsetDateTime}
  {grantId : AccessGrantId} {grant : AccessGrant}

/- The transaction of a creation answers from the ledger, or stores its own grant under a free
  key. -/
theorem storeGrant_eq_ok (hStore : storeGrant hash tables key actorId request role now
        expiry grantId = .ok (grant, tables')) :
    (tables.ledger key = some { requestHash := hash request, result := some (.grant grant) } ∧
      tables' = tables) ∨
    tables.ledger key = none ∧ grant = requestedGrant grantId actorId request now expiry ∧
      tables'.ledger = tables.ledger.complete key (hash request) (.grant grant) := by
  unfold storeGrant at hStore
  split at hStore
  · rename_i result hReplay
    simp only [bind_eq_ok] at hStore
    rcases hStore with ⟨decoded, hDecode, ⟨⟩⟩
    have hEntry := reserve_eq_replay.mp hReplay
    cases result with
    | grant stored =>
      cases hDecode
      exact .inl ⟨hEntry, rfl⟩
    | other document => cases hDecode
  · cases hStore
  · cases hStore
  · rename_i hReserved
    simp only [insertGrant, insertActivationJob, enqueueGrantEvent, steps_eq_ok] at hStore
    rcases hStore with ⟨t₁, ⟨_, _, _, ⟨⟩⟩, t₂, ⟨_, ⟨⟩⟩, t₃, ⟨_, ⟨⟩⟩, ⟨⟩⟩
    exact .inr ⟨reserve_eq_reserved.mp hReserved, rfl, rfl⟩

/- Under a completed key, a creation succeeds only with the request that was stored. -/
theorem storeGrant_of_completed {storedHash : δ} {stored : AccessGrant}
    (hEntry : tables.ledger key =
      some { requestHash := storedHash, result := some (.grant stored) }) :
    storeGrant hash tables key actorId request role now expiry grantId = .ok (grant, tables') ↔
      storedHash = hash request ∧ grant = stored ∧ tables' = tables := by
  unfold storeGrant
  rw [reserve_of_completed hEntry]
  by_cases hHash : storedHash = hash request
  · simp only [hHash, if_true, AccessResult.decodeGrant,
      bind_eq_ok, Except.ok.injEq, Prod.mk.injEq, true_and]
    constructor
    · rintro ⟨value, hValue, hGrant, hTables⟩
      exact ⟨hGrant.symm.trans hValue.symm, hTables.symm⟩
    · rintro ⟨hGrant, hTables⟩
      exact ⟨stored, rfl, hGrant.symm, hTables.symm⟩
  · simp [hHash]

variable {seen : AccessTables δ} {context : CreateGrantContext} {call : CreateGrantCall}

structure GrantChecked (policy : GrantPolicy) (seen : AccessTables δ) (context : CreateGrantContext)
    (call : CreateGrantCall) (request : CreateAccessGrantRequest) (session : AuthenticatedSession)
    (membership : CourseMembership) (idempotencyKey : String) : Prop where
  body : call.body = some request
  mutationAuth : context.mutationAuth = true
  wellFormed : request.wellFormed policy call.environmentId
  authenticated : context.session = some session
  enrolled : activeMembership seen.memberships request.courseId
    call.actorId session.roles context.membershipNow =
    some membership
  role : membership.role ≠ .platformAdmin
  live : context.now < effectiveExpiry policy context.now request.expiresAt session membership
  header : call.idempotencyKey = some idempotencyKey
  parses : IdempotencyKey.parses idempotencyKey = true

def CreateAccessGrantRequest.withExpiry (request : CreateAccessGrantRequest)
    (expiry : OffsetDateTime) : CreateAccessGrantRequest :=
  { request with expiresAt := some expiry.utcTimestamp }

theorem createAccessGrant_eq_ok : createAccessGrant hash policy seen tables context call =
      .ok (grant, tables') ↔
    ∃ request session membership idempotencyKey, GrantChecked policy seen context call request
      session membership idempotencyKey ∧
      storeGrant hash tables (createGrantKey call.actorId idempotencyKey) call.actorId
        (request.withExpiry (effectiveExpiry policy context.now
          request.expiresAt session membership)) membership.role context.now
        (effectiveExpiry policy context.now request.expiresAt session membership) context.grantId =
        .ok (grant, tables') := by
  simp only [createAccessGrant, steps_eq_ok]
  constructor
  · rintro ⟨request, hBody, hAuth, hForm, session, hSession,
      membership, hMembership, hRole, hLive, key, hKey, hParses, hStore⟩
    exact ⟨request, session, membership, key, ⟨hBody, hAuth, hForm, hSession, hMembership, hRole,
      hLive, hKey, hParses⟩, hStore⟩
  · rintro ⟨request, session, membership, key, hChecked, hStore⟩
    exact ⟨request, hChecked.body, hChecked.mutationAuth, hChecked.wellFormed, session,
      hChecked.authenticated, membership, hChecked.enrolled, hChecked.role,
      hChecked.live, key, hChecked.header, hChecked.parses, hStore⟩

/- No transaction touches a completed key. -/
theorem AccessTables.step_extends {action : AccessAction δ}
    (hStep : (accessService hash policy).step tables action = some tables') :
    Extends tables'.ledger tables.ledger := by
  cases action with
  | createGrant seen context call =>
    simp only [accessService, step] at hStep
    split at hStep
    · rename_i grant after hCreate
      cases hStep
      rcases createAccessGrant_eq_ok.mp hCreate with ⟨_, _, _, _, _, hStore⟩
      rcases storeGrant_eq_ok hStore with ⟨_, hSame⟩ | ⟨hFree, _, hLedger⟩
      · rw [hSame]
        exact extends_refl _
      · rw [hLedger]
        exact extends_complete hFree
    · cases hStep
  | change memberships grants activationJobs outbox =>
    cases hStep
    exact extends_refl _
  | complete key requestHash result =>
    simp only [accessService, step] at hStep
    split at hStep
    · rename_i hFree
      cases hStep
      exact extends_complete hFree
    · cases hStep

/- However a run goes on, completed keys keep their results. -/
theorem accessService_extends (hReach : (accessService hash policy).Reachable tables)
    (hLeads : (accessService hash policy).Leads tables tables') :
    Extends tables'.ledger tables.ledger := by
  apply Machine.Leads.relation (R := fun earlier later : AccessTables δ =>
    Extends later.ledger earlier.ledger)
    ?_ ?_ ?_ hReach hLeads
  · intro tables
    exact extends_refl _
  · intro first second third hEarlier hLater
    exact extends_trans hLater hEarlier
  · intro tables action tables' _ hStep
    exact AccessTables.step_extends hStep

-- Repeating A Creation

def createGrantEndpoint (hash : CreateAccessGrantRequest → δ) (policy : GrantPolicy) :
    Endpoint (AccessTables δ) CreateGrantContext CreateGrantCall AccessGrant AccessApiError where
  call := fun seen tables context call => createAccessGrant hash policy seen tables context call

/- A repeated creation is answered from the ledger only if the actor may still create the grant and
  the handler arrives, to the millisecond, at the expiry of the first grant. -/
def createGrantRepeats (policy : GrantPolicy) (call : CreateGrantCall) (_ : CreateGrantContext)
    (result : AccessGrant) (second : CreateGrantContext) (seen _ : AccessTables δ) : Prop :=
  second.mutationAuth = true ∧
  ∃ request session membership, call.body = some request ∧ second.session = some session ∧
    activeMembership seen.memberships request.courseId
      call.actorId session.roles second.membershipNow =
      some membership ∧
    membership.role ≠ .platformAdmin ∧
    second.now < effectiveExpiry policy second.now request.expiresAt session membership ∧
    (effectiveExpiry policy second.now request.expiresAt session membership).utcTimestamp =
      result.expiresAt

theorem createGrantEndpoint_stepwise : (createGrantEndpoint hash policy).Stepwise
    (accessService hash policy) := by
  intro seen tables context call grant tables' hCall
  simp only [createGrantEndpoint] at hCall
  refine ⟨.createGrant seen context call, ?_⟩
  simp only [accessService, AccessTables.step, hCall]

/- A repeated creation conflicts with the first one, unless both calls arrive at the same expiry. -/
theorem createAccessGrant_retrySafeWhen (hInjective : Function.Injective hash) :
    (createGrantEndpoint hash policy).RetrySafeWhen (accessService hash policy)
      (createGrantRepeats policy) := by
  intro call first result seen tables hRepeated second
  rcases hRepeated.exists_first createGrantEndpoint_stepwise with
    ⟨seen₀, tables₀, tables₁, hCall, hCommitted, hReach₁, _, hLeads⟩
  simp only [createGrantEndpoint] at hCall ⊢
  rcases createAccessGrant_eq_ok.mp hCall with ⟨request, session, membership, key, hChecked, hStore⟩
  -- the first call stored its own grant
  rcases storeGrant_eq_ok hStore with ⟨_, hSame⟩ | ⟨_, hGrant, hLedger⟩
  · exact absurd hSame hCommitted
  have hExpiry : result.expiresAt = (effectiveExpiry policy first.now request.expiresAt
      session membership).utcTimestamp := by
    rw [hGrant]
    rfl
  have hExtends := accessService_extends hReach₁ hLeads
  have hEntry : tables.ledger (createGrantKey call.actorId key) = some
      { requestHash :=
        hash (request.withExpiry (effectiveExpiry policy first.now
          request.expiresAt session membership))
        result := some (.grant result) } := by
    apply hExtends
    · rw [hLedger]
      simp only [complete, Function.update_self]
    · exact Option.some_ne_none _
  constructor
  · intro hSecond
    rcases createAccessGrant_eq_ok.mp hSecond with
      ⟨request', session', membership', key', hChecked', hStore'⟩
    cases hChecked.body.symm.trans hChecked'.body
    cases hChecked.header.symm.trans hChecked'.header
    rcases (storeGrant_of_completed hEntry).mp hStore' with ⟨hHash, _, _⟩
    have hRequest := hInjective hHash
    have hSameExpiry := congrArg expiresAt hRequest
    simp only [withExpiry, Option.some.injEq] at hSameExpiry
    refine ⟨hChecked'.mutationAuth, request, session',
      membership', hChecked.body, hChecked'.authenticated,
      hChecked'.enrolled, hChecked'.role, hChecked'.live, ?_⟩
    rw [hExpiry, hSameExpiry]
  · rintro ⟨hAuth, request', session', membership', hBody,
      hSession, hMembership, hRole, hLive, hSameExpiry⟩
    cases hChecked.body.symm.trans hBody
    apply createAccessGrant_eq_ok.mpr
    refine ⟨request, session', membership', key,
      ⟨hChecked.body, hAuth, hChecked.wellFormed, hSession,
        hMembership, hRole, hLive, hChecked.header, hChecked.parses⟩, ?_⟩
    apply (storeGrant_of_completed hEntry).mpr
    refine ⟨?_, rfl, rfl⟩
    unfold withExpiry
    rw [hSameExpiry, hExpiry]

end

end LabWeaver
