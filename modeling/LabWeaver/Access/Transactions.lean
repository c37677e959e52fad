import LabWeaver.Access.Database

/-
  This file models the transactions of the Access service on grants and sessions, statement by
  statement with their row locks. The idempotency ledger and the outbox are left out: they can
  only make a transaction fail, and every transaction may fail at any time.

  Key definitions: `accessCommand`, `accessProtocol`.
-/

namespace LabWeaver

open ReadCommitted AccessGrantRow Revision

-- Calls

/- A call of `consume_capability`. Its `now` is read after the capability, and `clock` is the
  database's clock. -/
structure ConsumeCall where
  (locatorSha256 secretSha256 : String)
  actorId : ActorId
  requestedKind : ConsoleKind
  sessionId : ConsoleSessionId
  maxConsoleSessions : Nat
  (now clock : OffsetDateTime)
deriving DecidableEq

structure RevokeCall where
  grantId : AccessGrantId
  expected : Revision
  actorId : ActorId
  roles : List PlatformRole
  now : OffsetDateTime
deriving DecidableEq

/- One round of `expire_grants`. Which grant it finds depends on the locks that it skips. -/
structure ExpireCall where
  grantId : AccessGrantId
  now : OffsetDateTime
deriving DecidableEq

structure RenewCall where
  grantId : AccessGrantId
  actorId : ActorId
  expected : Revision
  expiresAt : OffsetDateTime
deriving DecidableEq

structure DeleteKeyCall where
  keyId : SshPublicKeyId
  actorId : ActorId
  expected : Revision
  now : OffsetDateTime
deriving DecidableEq

/- What the Environment service answers about endpoints. -/
structure EndpointEligibility where
  eligibilityExpiresAt : UtcTimestamp
  endpoints : List EnvironmentEndpoint
deriving DecidableEq

structure GatewayCall where
  authorizationId : BitVec 128
  (tokenSha256 gatewayIdentity connectionId sshAlias : String)
  sessionId : GatewaySessionId
  eligibility : EndpointEligibility
  now : OffsetDateTime
deriving DecidableEq

structure InsertGrantCall where
  grantId : AccessGrantId
  actorId : ActorId
  request : CreateAccessGrantRequest
  role : PlatformRole
  (now expiry : OffsetDateTime)
deriving DecidableEq

structure ActivationLease where
  grantId : AccessGrantId
  token : BitVec 128
  time : OffsetDateTime
deriving DecidableEq

structure NewEndpointGrant where
  id : EndpointGrantId
  sshAlias : Option String
  endpoint : EnvironmentEndpoint
deriving DecidableEq

structure ActivationCall where
  lease : ActivationLease
  eligibilityExpiresAt : UtcTimestamp
  endpoints : List NewEndpointGrant
  now : OffsetDateTime
deriving DecidableEq

/- What `create_gateway_session` finds for an alias. -/
structure EndpointCandidate where
  endpointGrantId : EndpointGrantId
  endpointGrant : EndpointGrantRow
  grant : AccessGrantRow
  membership : CourseMembership
deriving DecidableEq

-- Local States

/- The places of the transactions between two statements, each named after the statement that comes
  next. -/
inductive AccessLocals where
| consumeCapability (call : ConsumeCall)
| countConsoleSessions (call : ConsumeCall)
| selectCapability (call : ConsumeCall)
| insertConsoleSession (call : ConsumeCall) (id : ConsoleCapabilityId)
    (capability : ConsoleCapabilityRow)
| markCapability (call : ConsumeCall) (id : ConsoleCapabilityId)
| activateConsoleSession (id : ConsoleSessionId)
| revokeAccessGrant (call : RevokeCall)
| checkRevoker (call : RevokeCall) (courseId : CourseId)
| revokeGrant (call : RevokeCall)
| expireGrants (call : ExpireCall)
| expireGrant (grantId : AccessGrantId)
| revokeEnvironmentGrants (environmentId : EnvironmentId)
| terminateGatewaySessions (grantId : AccessGrantId) (rest : List AccessGrantId)
    (environmentId : Option EnvironmentId)
| terminateConsoleSessions (grantId : AccessGrantId) (rest : List AccessGrantId)
    (environmentId : Option EnvironmentId)
| selectMaximumRevision (environmentId : EnvironmentId)
| renewAccessGrant (call : RenewCall)
| renewEndpointGrants (grantId : AccessGrantId) (expiresAt : OffsetDateTime)
| deleteSshKey (call : DeleteKeyCall)
| terminateKeySessions (keyId : SshPublicKeyId)
| createGatewaySession (call : GatewayCall)
| selectEndpointGrant (call : GatewayCall) (authorization : SshAuthorizationRow)
| insertGatewaySession (call : GatewayCall) (authorization : SshAuthorizationRow)
    (candidate : EndpointCandidate)
| consumeAuthorization (call : GatewayCall)
| createAccessGrant (call : InsertGrantCall)
| insertActivationJob (grantId : AccessGrantId) (now : OffsetDateTime)
| leaseActivationJob (lease : ActivationLease) (leaseSeconds : Nat)
| activateGrant (call : ActivationCall)
| selectRequestedGrant (call : ActivationCall)
| insertEndpointGrant (call : ActivationCall) (expiresAt : OffsetDateTime)
    (first : NewEndpointGrant) (rest : List NewEndpointGrant)
| updateActivatedGrant (call : ActivationCall) (expiresAt : OffsetDateTime)
| completeActivationJob (lease : ActivationLease)
| denyGrant (lease : ActivationLease)
| updateDeniedGrant (lease : ActivationLease)
| failActivationJob (lease : ActivationLease)
| finished (revision : Option Revision)
deriving DecidableEq

def terminateNext : List AccessGrantId → Option EnvironmentId → AccessLocals
| grantId :: rest, environmentId => .terminateGatewaySessions grantId rest environmentId
| [], some environmentId => .selectMaximumRevision environmentId
| [], none => .finished none

def insertNext (call : ActivationCall) (expiresAt : OffsetDateTime) :
    List NewEndpointGrant → AccessLocals
| first :: rest => .insertEndpointGrant call expiresAt first rest
| [] => .updateActivatedGrant call expiresAt

-- Consoles

abbrev AccessStep := AccessStatement AccessLocals

/- Exactly one row was changed. -/
def whenOne {ι : Type} (next : AccessLocals) (ids : List ι) : Option AccessLocals :=
  if ids.length = 1 then some next else none

/- The number of console sessions that hold a place. -/
def countedConsoleSessions (store : AccessStore) : Nat :=
  (store.rows .consoleSessions (fun id row =>
    if row.state.counted then some id else none)).dedup.length

variable (call : ConsumeCall)

def findCapability (store : AccessStore) :
    List (ConsoleCapabilityId × ConsoleCapabilityRow × AccessGrantRow × BffSessionRow) :=
  store.rows .capabilities (fun id capability =>
    if capability.locatorSha256 = call.locatorSha256 then
      match store.row ⟨.grants, capability.accessGrantId⟩,
        store.row ⟨.bffSessions, capability.bffSessionId⟩
      with
      | some grant, some session => some (id, capability, grant, session)
      | _, _ => none
    else none)

/- The subquery on the membership of the actor. -/
def membershipActive (store : AccessStore) (capability : ConsoleCapabilityRow)
    (grant : AccessGrantRow) (session : BffSessionRow) (clock : OffsetDateTime) : Bool :=
  let role := grant.subjectKind.requiredRole
  match store.row ⟨.memberships, (capability.courseId, capability.actorId, role)⟩ with
  | none => false
  | some membership =>
    membership.state = .active && session.platformRoles.contains role &&
      membership.expiresAt.all (fun stop => clock < stop)

/- The checks of `consume_capability` on what it has read. -/
def consumable (capability : ConsoleCapabilityRow) (grant : AccessGrantRow)
    (session : BffSessionRow) : Prop :=
  capability.consumedAt = none ∧ call.now < capability.expiresAt ∧
  capability.kind = call.requestedKind ∧ capability.actorId = call.actorId ∧
  session.revokedAt = none ∧ call.now < grant.expiresAt ∧ call.now < session.expiresAt ∧
  call.now < session.idleExpiresAt ∧ grant.state = .active ∧
  capability.accessGrantRevision = grant.revision ∧
  capability.environmentRevision = grant.environmentRevision ∧
  capability.handoffSecretSha256 = call.secretSha256
deriving Decidable

theorem consumable.active {capability : ConsoleCapabilityRow} {grant : AccessGrantRow}
    {session : BffSessionRow} (hChecks : consumable call capability grant session) :
    grant.state = .active := by
  grind [consumable]

variable (id : ConsoleCapabilityId)

def openedSession (capability : ConsoleCapabilityRow) : ConsoleSessionRow where
  capabilityId := id
  kind := capability.kind
  bffSessionId := capability.bffSessionId
  accessGrantId := capability.accessGrantId
  accessGrantRevision := capability.accessGrantRevision
  actorId := capability.actorId
  courseId := capability.courseId
  environmentId := capability.environmentId
  environmentRevision := capability.environmentRevision
  leaseFence := capability.leaseFence
  revision := one
  state := .opening
  openedAt := call.now.stored
  authorizationExpiresAt := capability.authorizationExpiresAt

/- `pg_advisory_xact_lock` on the console capacity. -/
def lockConsoleCapacity : AccessStep :=
  .query (fun _ => [(⟨.advisoryLocks, "labweaver:console-session-capacity"⟩, .update)])
    (fun _ _ => some (.countConsoleSessions call))

def countConsoleSessions : AccessStep :=
  .query (fun _ => []) (fun view _ =>
    if countedConsoleSessions view < call.maxConsoleSessions then some (.selectCapability call)
    else none)

/- The SELECT with FOR UPDATE OF the capability. The grant, the session and the membership are not
  locked. -/
def selectCapability : AccessStep :=
  .query (fun snapshot => (findCapability call snapshot).map
    (fun found => (⟨.capabilities, found.1⟩, .update)))
    (fun view held =>
      match (findCapability call view).find? (fun found =>
        (⟨.capabilities, found.1⟩, .update) ∈ held)
      with
      | none => none
      | some (id, capability, grant, session) =>
        if consumable call capability grant session ∧
          membershipActive view capability grant session call.clock = true then
          some (.insertConsoleSession call id capability)
        else none)

def insertConsoleSession (capability : ConsoleCapabilityRow) : AccessStep :=
  .insert ⟨.consoleSessions, call.sessionId⟩ (fun view => Option.map (openedSession call id)
    (view.row ⟨.capabilities, id⟩))
    [⟨.capabilities, id⟩, ⟨.bffSessions, capability.bffSessionId⟩,
      ⟨.grants, capability.accessGrantId⟩]
    (.markCapability call id)

def markCapability : AccessStep :=
  .updateTable .capabilities (fun id' capability => id' = id ∧ capability.consumedAt = none)
    (fun capability => some
      { capability with consumedAt := some call.now.stored, sessionId := some call.sessionId })
    (whenOne (.finished none))

/- `bridge_inner` once the console is connected. -/
def activateConsoleSession (id : ConsoleSessionId) : AccessStep :=
  .updateTable .consoleSessions (fun id' session => id' = id ∧ session.state = .opening)
    (fun session => session.revision.increment.map (fun revision =>
      { session with state := .active, revision }))
    (whenOne (.finished none))

-- Ending And Renewing Grants

def AccessGrantRow.moveTo (state : AccessGrantState)
    (grant : AccessGrantRow) : Option AccessGrantRow :=
  grant.revision.increment.map (fun revision => { grant with state, revision })

def GatewaySessionRow.terminate (session : GatewaySessionRow) : Option GatewaySessionRow :=
  session.revision.increment.map (fun revision => { session with state := .terminating, revision })

def ConsoleSessionRow.terminate (session : ConsoleSessionRow) : Option ConsoleSessionRow :=
  session.revision.increment.map (fun revision => { session with state := .terminating, revision })

/- The owner and administrators may revoke right away. -/
def selectGrantScope (call : RevokeCall) : AccessStep :=
  .query (fun _ => []) (fun view _ =>
    match view.row ⟨.grants, call.grantId⟩ with
    | none => none
    | some grant =>
      if grant.actorId = call.actorId ∨ .platformAdmin ∈ call.roles then some (.revokeGrant call)
      else some (.checkRevoker call grant.courseId))

/- Others must be teachers of the course. -/
def checkRevoker (call : RevokeCall) (courseId : CourseId) : AccessStep :=
  .query (fun _ => []) (fun view _ =>
    match activeMembership (view.rows .memberships (fun _ membership => some membership))
      courseId call.actorId call.roles call.now
    with
    | none => none
    | some membership => if membership.role = .teacher then some (.revokeGrant call) else none)

def revokeGrant (call : RevokeCall) : AccessStep :=
  .updateTable .grants (fun id grant => id = call.grantId ∧ grant.revision = call.expected ∧
    grant.state.live = true)
    (moveTo .revoked)
    (whenOne (terminateNext [call.grantId] none))

def expireDue (call : ExpireCall) (store : AccessStore) : Bool :=
  (store.row ⟨.grants, call.grantId⟩).any (fun (grant : AccessGrantRow) => grant.state = .active ∧
    grant.expiresAt ≤ call.now.stored)

/- The SELECT with FOR UPDATE SKIP LOCKED. -/
def selectExpired (call : ExpireCall) : AccessStep :=
  .query (fun snapshot =>
    if expireDue call snapshot then [(⟨.grants, call.grantId⟩, .update)] else [])
    (fun view _ => if expireDue call view then some (.expireGrant call.grantId) else none)

def expireGrant (grantId : AccessGrantId) : AccessStep :=
  .updateTable .grants (fun id _ => id = grantId) (moveTo .expired)
    (fun _ => some (terminateNext [grantId] none))

def revokeEnvironmentGrants (environmentId : EnvironmentId) : AccessStep :=
  .updateTable .grants (fun _ grant => grant.environmentId = environmentId ∧
    grant.state.live = true)
    (moveTo .revoked)
    (fun ids => some (terminateNext ids (some environmentId)))

/- The first half of `terminate_sessions_for_grant`. -/
def terminateGatewaySessions (grantId : AccessGrantId) (rest : List AccessGrantId)
    (environmentId : Option EnvironmentId) : AccessStep :=
  .updateTable .gatewaySessions (fun _ session =>
    session.grantId = grantId ∧ session.state = .active)
    GatewaySessionRow.terminate
    (fun _ => some (.terminateConsoleSessions grantId rest environmentId))

/- The second half of `terminate_sessions_for_grant`. -/
def terminateConsoleSessions (grantId : AccessGrantId) (rest : List AccessGrantId)
    (environmentId : Option EnvironmentId) : AccessStep :=
  .updateTable .consoleSessions (fun _ session => session.accessGrantId = grantId ∧
    session.state.live = true)
    ConsoleSessionRow.terminate
    (fun _ => some (terminateNext rest environmentId))

def maximumRevision (store : AccessStore) (environmentId : EnvironmentId) : Revision :=
  (store.rows .grants (fun _ grant =>
    if grant.environmentId = environmentId then some grant.revision else none)).foldl
    (fun greatest revision => if greatest.get < revision.get then revision else greatest)
    one

def selectMaximumRevision (environmentId : EnvironmentId) : AccessStep :=
  .query (fun _ => []) (fun view _ => some (.finished (some (maximumRevision view environmentId))))

def renewAccessGrant (call : RenewCall) : AccessStep :=
  .updateTable .grants (fun id grant => id = call.grantId ∧ grant.actorId = call.actorId ∧
    grant.revision = call.expected ∧ grant.state = .active ∧ grant.expiresAt < call.expiresAt)
    (fun grant => grant.revision.increment.map (fun revision =>
      { grant with expiresAt := call.expiresAt, revision }))
    (whenOne (.renewEndpointGrants call.grantId call.expiresAt))

def renewEndpointGrants (grantId : AccessGrantId) (expiresAt : OffsetDateTime) : AccessStep :=
  .updateTable .endpointGrants (fun _ endpointGrant => endpointGrant.grantId = grantId)
    (fun endpointGrant => some { endpointGrant with expiresAt })
    (fun _ => some (.finished none))

-- Keys And Gateway Sessions

def deleteSshKey (call : DeleteKeyCall) : AccessStep :=
  .updateTable .sshKeys (fun id key => id = call.keyId ∧ key.actorId = call.actorId ∧
    key.revision = call.expected ∧ key.revokedAt = none)
    (fun key => key.revision.increment.map (fun revision =>
      { key with revokedAt := some call.now.stored, revision }))
    (whenOne (.terminateKeySessions call.keyId))

def terminateKeySessions (keyId : SshPublicKeyId) : AccessStep :=
  .updateTable .gatewaySessions (fun _ session => session.keyId = keyId ∧ session.state = .active)
    GatewaySessionRow.terminate
    (fun _ => some (.finished none))

variable (call : GatewayCall)

def findAuthorization (store : AccessStore) : Option SshAuthorizationRow :=
  match store.row ⟨.authorizations, call.authorizationId⟩ with
  | none => none
  | some authorization =>
    match store.row ⟨.sshKeys, authorization.keyId⟩ with
    | none => none
    | some key =>
      if authorization.tokenSha256 = call.tokenSha256 ∧ authorization.gatewayIdentity =
        call.gatewayIdentity ∧
        authorization.connectionId = call.connectionId ∧ authorization.consumedAt = none ∧
        call.now.stored < authorization.expiresAt ∧ key.actorId = authorization.actorId ∧
        key.revokedAt = none then
        some authorization
      else none

def selectAuthorization : AccessStep :=
  .query (fun snapshot =>
    if (findAuthorization call snapshot).isSome then
      [(⟨.authorizations, call.authorizationId⟩, .update)]
    else [])
    (fun view _ => (findAuthorization call view).map (AccessLocals.selectEndpointGrant call))

def connectable (authorization : SshAuthorizationRow)
    (candidate : EndpointCandidate) (key : SshPublicKeyRow) : Prop :=
  candidate.endpointGrant.sshAlias = some call.sshAlias ∧ candidate.endpointGrant.protocol = .ssh ∧
  candidate.endpointGrant.health = .healthy ∧ candidate.grant.actorId = authorization.actorId ∧
  candidate.grant.state = .active ∧ candidate.grant.notBefore ≤ call.now.stored ∧
  call.now.stored < candidate.grant.expiresAt ∧
  call.now.stored < candidate.endpointGrant.expiresAt ∧ key.actorId = candidate.grant.actorId ∧
  key.revokedAt = none ∧ candidate.membership.state = .active ∧
  candidate.membership.expiresAt.all (fun stop => call.now.stored < stop) = true
deriving Decidable

def requiredMembership (grant : AccessGrantRow) : AccessKey :=
  ⟨.memberships, (grant.courseId, grant.actorId, grant.subjectKind.requiredRole)⟩

def findEndpointGrants (authorization : SshAuthorizationRow)
    (store : AccessStore) : List EndpointCandidate :=
  store.rows .endpointGrants (fun id endpointGrant =>
    match store.row ⟨.grants, endpointGrant.grantId⟩, store.row ⟨.sshKeys, authorization.keyId⟩ with
    | some (grant : AccessGrantRow), some key =>
      match store.row ⟨.memberships, (grant.courseId, grant.actorId,
        grant.subjectKind.requiredRole)⟩
      with
      | none => none
      | some membership =>
        let candidate : EndpointCandidate :=
          { endpointGrantId := id, endpointGrant, grant, membership }
        if connectable call authorization candidate key
        then some candidate
        else none
    | _, _ => none)

def candidateLocks (authorization : SshAuthorizationRow)
    (candidate : EndpointCandidate) : Locks AccessKey :=
  [(⟨.grants, candidate.endpointGrant.grantId⟩, .share),
    (⟨.endpointGrants, candidate.endpointGrantId⟩, .share),
    (⟨.sshKeys, authorization.keyId⟩, .share), (requiredMembership candidate.grant, .share)]

/- The answer of the Environment service is acceptable. -/
def eligible (candidate : EndpointCandidate) : Bool :=
  match call.eligibility.endpoints with
  | [] => false
  | resolved :: _ =>
    resolved.protocol = .ssh && resolved.health = .healthy && resolved.revision =
      candidate.endpointGrant.endpointRevision &&
      call.now < OffsetDateTime.ofTimestamp call.eligibility.eligibilityExpiresAt

/- The SELECT FOR SHARE of the grant, the endpoint grant, the key and the membership, and the
  question to Environment. -/
def selectEndpointGrant (authorization : SshAuthorizationRow) : AccessStep :=
  .query (fun snapshot => (findEndpointGrants call authorization
    snapshot).flatMap (candidateLocks authorization))
    (fun view held =>
      match (findEndpointGrants call authorization view).find? (fun candidate =>
        ∀ lock ∈ candidateLocks authorization candidate, lock ∈ held)
      with
      | none => none
      | some candidate =>
        if eligible call candidate then some (.insertGatewaySession call authorization candidate)
        else none)

def gatewaySessionRow (authorization : SshAuthorizationRow)
    (candidate : EndpointCandidate) : GatewaySessionRow where
  grantId := candidate.endpointGrant.grantId
  grantRevision := candidate.grant.revision
  actorId := authorization.actorId
  endpointId := candidate.endpointGrant.endpointId
  endpointGrantId := candidate.endpointGrantId
  keyId := authorization.keyId
  gatewayIdentity := call.gatewayIdentity
  connectionId := call.connectionId
  revision := one
  state := .active
  startedAt := call.now.stored
  expiresAt :=
    let answer := OffsetDateTime.ofTimestamp call.eligibility.eligibilityExpiresAt
    min (min authorization.expiresAt candidate.grant.expiresAt)
      (min candidate.endpointGrant.expiresAt (min (candidate.membership.expiresAt.getD answer)
        answer))

def insertGatewaySession (authorization : SshAuthorizationRow)
    (candidate : EndpointCandidate) : AccessStep :=
  .insert ⟨.gatewaySessions, call.sessionId⟩ (fun _ =>
    some (gatewaySessionRow call authorization candidate))
    [⟨.grants, candidate.endpointGrant.grantId⟩, ⟨.endpointGrants, candidate.endpointGrantId⟩,
      ⟨.sshKeys, authorization.keyId⟩]
    (.consumeAuthorization call)

def consumeAuthorization : AccessStep :=
  .updateTable .authorizations (fun id authorization => id = call.authorizationId ∧
    authorization.consumedAt = none)
    (fun authorization => some
      { authorization with consumedAt := some call.now.stored, sessionId := some call.sessionId })
    (fun _ => some (.finished none))

-- Creating And Activating Grants

def insertRequestedGrant (call : InsertGrantCall) : AccessStep :=
  .insert ⟨.grants, call.grantId⟩ (fun _ =>
    if call.request.environmentRevision.get ≤ maxI64 ∧ call.now.column < call.expiry.column then
      some (requestedRow call.grantId call.actorId call.request call.role call.now.stored
        call.expiry.stored)
    else none)
    []
    (.insertActivationJob call.grantId call.now)

def insertPendingJob (grantId : AccessGrantId) (now : OffsetDateTime) : AccessStep :=
  .insert ⟨.activationJobs, grantId⟩ (fun _ => some
    { state := .pending, nextAttemptAt := now.stored, lease := none })
    [⟨.grants, grantId⟩]
    (.finished none)

namespace ActivationJobRow

variable (job : ActivationJobRow)

def due (time : OffsetDateTime) : Prop :=
  match job.state with
  | .pending | .retry => job.nextAttemptAt ≤ time
  | .leased => ∃ lease ∈ job.lease, lease.2 ≤ time
  | .completed | .failed => False

instance (job : ActivationJobRow) {time} : Decidable (job.due time) := by
  unfold due
  cases job.state <;> infer_instance

/- The job is leased under the token, which has not run out. -/
def held (lease : ActivationLease) : Prop :=
  job.state = .leased ∧ ∃ holder ∈ job.lease, holder.1 = lease.token ∧ lease.time < holder.2
deriving Decidable

end ActivationJobRow

variable (lease : ActivationLease)

/- The first statement of `activate_one`. -/
def leaseJob (leaseSeconds : Nat) : AccessStep :=
  .updateTable .activationJobs (fun id job => id = lease.grantId ∧ job.due lease.time) (fun job =>
    some
      { job with
        state := .leased, lease := some (lease.token, lease.time.addSeconds leaseSeconds) })
    (whenOne (.finished none))

def leaseHeld (store : AccessStore) : Bool :=
  (store.row ⟨.activationJobs, lease.grantId⟩).any (fun (job : ActivationJobRow) => job.held lease)

def lockActivationLease (next : AccessLocals) : AccessStep :=
  .query (fun snapshot =>
    if leaseHeld lease snapshot then [(⟨.activationJobs, lease.grantId⟩, .update)] else [])
    (fun view _ => if leaseHeld lease view then some next else none)

def requestedGrant? (grantId : AccessGrantId) (store : AccessStore) : Option AccessGrantRow :=
  Option.filter (fun (grant : AccessGrantRow) => grant.state = .requested)
    (store.row ⟨.grants, grantId⟩)

def selectRequestedGrant (call : ActivationCall) : AccessStep :=
  .query (fun snapshot =>
    if (requestedGrant? call.lease.grantId snapshot).isSome then
      [(⟨.grants, call.lease.grantId⟩, .update)]
    else [])
    (fun view _ =>
      match requestedGrant? call.lease.grantId view with
      | none => some (.completeActivationJob call.lease)
      | some grant =>
        let expiresAt := min grant.expiresAt (OffsetDateTime.ofTimestamp call.eligibilityExpiresAt)
        if expiresAt ≤ call.now then some (.updateDeniedGrant call.lease)
        else some (insertNext call expiresAt call.endpoints))

def insertEndpointGrant (call : ActivationCall) (expiresAt : OffsetDateTime)
    (first : NewEndpointGrant) (rest : List NewEndpointGrant) : AccessStep :=
  .insert ⟨.endpointGrants, first.id⟩ (fun _ => some
    { grantId := call.lease.grantId, endpointId := first.endpoint.id,
      endpointRevision := first.endpoint.revision, protocol := first.endpoint.protocol,
      health := .healthy, sshAlias := first.sshAlias, expiresAt })
    [⟨.grants, call.lease.grantId⟩]
    (insertNext call expiresAt rest)

def updateActivatedGrant (call : ActivationCall) (expiresAt : OffsetDateTime) : AccessStep :=
  .updateTable .grants (fun id grant => id = call.lease.grantId ∧ grant.state = .requested)
    (fun grant => (moveTo .active grant).map (fun moved => { moved with expiresAt }))
    (whenOne (.completeActivationJob call.lease))

/- The job under a lease goes to a final state. -/
def closeActivationJob (state : ActivationJobState) (lease : ActivationLease) : AccessStep :=
  .updateTable .activationJobs (fun id job => id = lease.grantId ∧ job.held lease)
    (fun job => some { job with state, lease := none })
    (whenOne (.finished none))

/- The first half of `deny_grant_tx`. -/
def updateDeniedGrant : AccessStep :=
  .updateTable .grants (fun id grant => id = lease.grantId ∧ grant.state = .requested)
    (moveTo .denied)
    (whenOne (.failActivationJob lease))

-- The Protocol

/- What a transaction does next. -/
def accessCommand : AccessLocals → Command AccessKey (Cell AccessTable.Row) AccessLocals
| .consumeCapability call => .execute (lockConsoleCapacity call)
| .countConsoleSessions call => .execute (countConsoleSessions call)
| .selectCapability call => .execute (selectCapability call)
| .insertConsoleSession call id capability => .execute (insertConsoleSession call id capability)
| .markCapability call id => .execute (markCapability call id)
| .activateConsoleSession id => .execute (activateConsoleSession id)
| .revokeAccessGrant call => .execute (selectGrantScope call)
| .checkRevoker call courseId => .execute (checkRevoker call courseId)
| .revokeGrant call => .execute (revokeGrant call)
| .expireGrants call => .execute (selectExpired call)
| .expireGrant grantId => .execute (expireGrant grantId)
| .revokeEnvironmentGrants environmentId => .execute (revokeEnvironmentGrants environmentId)
| .terminateGatewaySessions grantId rest environmentId =>
  .execute (terminateGatewaySessions grantId rest environmentId)
| .terminateConsoleSessions grantId rest environmentId =>
  .execute (terminateConsoleSessions grantId rest environmentId)
| .selectMaximumRevision environmentId => .execute (selectMaximumRevision environmentId)
| .renewAccessGrant call => .execute (renewAccessGrant call)
| .renewEndpointGrants grantId expiresAt => .execute (renewEndpointGrants grantId expiresAt)
| .deleteSshKey call => .execute (deleteSshKey call)
| .terminateKeySessions keyId => .execute (terminateKeySessions keyId)
| .createGatewaySession call => .execute (selectAuthorization call)
| .selectEndpointGrant call authorization => .execute (selectEndpointGrant call authorization)
| .insertGatewaySession call authorization candidate =>
  .execute (insertGatewaySession call authorization candidate)
| .consumeAuthorization call => .execute (consumeAuthorization call)
| .createAccessGrant call => .execute (insertRequestedGrant call)
| .insertActivationJob grantId now => .execute (insertPendingJob grantId now)
| .leaseActivationJob lease leaseSeconds => .execute (leaseJob lease leaseSeconds)
| .activateGrant call => .execute (lockActivationLease call.lease (.selectRequestedGrant call))
| .selectRequestedGrant call => .execute (selectRequestedGrant call)
| .insertEndpointGrant call expiresAt first rest =>
  .execute (insertEndpointGrant call expiresAt first rest)
| .updateActivatedGrant call expiresAt => .execute (updateActivatedGrant call expiresAt)
| .completeActivationJob lease => .execute (closeActivationJob .completed lease)
| .denyGrant lease => .execute (lockActivationLease lease (.updateDeniedGrant lease))
| .updateDeniedGrant lease => .execute (updateDeniedGrant lease)
| .failActivationJob lease => .execute (closeActivationJob .failed lease)
| .finished _ => .commit

/- The places where transactions begin. -/
def accessEntry : AccessLocals → Bool
| .consumeCapability _ => true
| .activateConsoleSession _ => true
| .revokeAccessGrant _ => true
| .expireGrants _ => true
| .revokeEnvironmentGrants _ => true
| .renewAccessGrant _ => true
| .deleteSshKey _ => true
| .createGatewaySession _ => true
| .createAccessGrant _ => true
| .leaseActivationJob _ _ => true
| .activateGrant _ => true
| .denyGrant _ => true
| _ => false

def accessProtocol : Protocol AccessKey (Cell AccessTable.Row) AccessLocals where
  entry := accessEntry
  command := accessCommand

abbrev AccessTransaction := Transaction AccessKey (Cell AccessTable.Row) AccessLocals

abbrev AccessSystem := System AccessKey (Cell AccessTable.Row) AccessLocals

/- The database from committed rows with a given property. -/
abbrev accessDatabase (initial : AccessStore → Prop) :
    Machine AccessSystem (ReadCommitted.Action AccessLocals) :=
  accessProtocol.machine initial

-- A Sample Database

namespace AccessSample

/- One owner with an active grant, a key and a console. -/
def grantId : AccessGrantId := ⟨1⟩
def actorId : ActorId := ⟨2⟩
def courseId : CourseId := ⟨3⟩
def environmentId : EnvironmentId := ⟨4⟩
def endpointGrantId : EndpointGrantId := ⟨5⟩
def keyId : SshPublicKeyId := ⟨6⟩
def capabilityId : ConsoleCapabilityId := ⟨8⟩
def bffSessionId : BffSessionId := ⟨9⟩
def endpointId : EndpointId := ⟨10⟩
def gatewaySessionId : GatewaySessionId := ⟨11⟩
def consoleSessionId : ConsoleSessionId := ⟨12⟩

def later : OffsetDateTime := 3600000000000

def serviceAlias : String := "lw-abcdefghijklmnopqrst"

def digest (digit : Char) : String := String.ofList (List.replicate 64 digit)

def request : CreateAccessGrantRequest where
  courseId := courseId
  environmentId := environmentId
  environmentRevision := one
  endpointIds := [endpointId]
  expiresAt := none

def grant : AccessGrantRow where
  grantId := grantId
  actorId := actorId
  courseId := courseId
  environmentId := environmentId
  environmentRevision := one
  revision := one
  state := .active
  notBefore := 0
  expiresAt := later
  request := request
  subjectKind := .owner

def endpointGrant : EndpointGrantRow where
  grantId := grantId
  endpointId := endpointId
  endpointRevision := one
  protocol := .ssh
  health := .healthy
  sshAlias := some serviceAlias
  expiresAt := later

def membership : CourseMembership where
  courseId := courseId
  actorId := actorId
  role := .student
  state := .active
  expiresAt := none

def authorization : SshAuthorizationRow where
  tokenSha256 := digest 'a'
  actorId := actorId
  keyId := keyId
  gatewayIdentity := "spiffe://gateway"
  connectionId := "connection"
  expiresAt := later
  consumedAt := none
  sessionId := none

def capability : ConsoleCapabilityRow where
  locatorSha256 := digest 'b'
  kind := .xterm
  bffSessionId := bffSessionId
  accessGrantId := grantId
  accessGrantRevision := one
  actorId := actorId
  courseId := courseId
  environmentId := environmentId
  environmentRevision := one
  leaseFence := some ⟨⟨13⟩, one, later⟩
  handoffSecretSha256 := digest 'c'
  expiresAt := 30000000000
  authorizationExpiresAt := later
  consumedAt := none
  sessionId := none

def bffSession : BffSessionRow where
  platformRoles := [.student]
  expiresAt := later
  idleExpiresAt := later
  revokedAt := none

def store : AccessStore :=
  Store.overlay (.single ⟨.grants, grantId⟩ grant) (Store.overlay
    (.single ⟨.endpointGrants, endpointGrantId⟩ endpointGrant)
    (Store.overlay (.single ⟨.sshKeys, keyId⟩
      { actorId, revision := one, revokedAt := none })
      (Store.overlay (.single ⟨.memberships, (courseId, actorId, .student)⟩ membership)
        (Store.overlay (.single ⟨.authorizations, 7⟩ authorization) (Store.overlay
          (.single ⟨.capabilities, capabilityId⟩ capability)
          (.single ⟨.bffSessions, bffSessionId⟩ bffSession))))))

def start : AccessSystem where
  committed := store
  transactions := []

def gatewayCall : GatewayCall where
  authorizationId := 7
  tokenSha256 := digest 'a'
  gatewayIdentity := "spiffe://gateway"
  connectionId := "connection"
  sshAlias := serviceAlias
  sessionId := gatewaySessionId
  eligibility :=
    { eligibilityExpiresAt := 3600000
      endpoints :=
        [{ id := endpointId, protocol := .ssh, revision := one, health := .healthy,
           observedAt := 0 }] }
  now := 1000000

def revokeCall : RevokeCall where
  grantId := grantId
  expected := one
  actorId := actorId
  roles := [.student]
  now := 1000000

def consumeCall : ConsumeCall where
  locatorSha256 := digest 'b'
  secretSha256 := digest 'c'
  actorId := actorId
  requestedKind := .xterm
  sessionId := consoleSessionId
  maxConsoleSessions := 10
  now := 1000000
  clock := 1000000

/- A transaction takes its next statements one by one. -/
def statements (i : Nat) : Nat → List (ReadCommitted.Action AccessLocals)
| 0 => []
| count + 1 => .start i :: .finish i :: statements i count

variable (s : AccessSystem)

def grantState : Option AccessGrantState :=
  Option.map state (s.committed.row ⟨.grants, grantId⟩)

def gatewayState : Option GatewaySessionState :=
  Option.map GatewaySessionRow.state (s.committed.row ⟨.gatewaySessions, gatewaySessionId⟩)

def consoleState : Option ConsoleSessionState :=
  Option.map ConsoleSessionRow.state (s.committed.row ⟨.consoleSessions, consoleSessionId⟩)

end AccessSample

end LabWeaver
