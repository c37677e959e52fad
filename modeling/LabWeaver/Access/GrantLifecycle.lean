import LabWeaver.Access.Database

/-
  This file follows one access grant through all of its mutations. A mutation writes the row and
  its endpoint grants; except for the creation it then loads what it has written, and commits only
  if the contract accepts it.
-/

namespace LabWeaver

open Outcome OffsetDateTime

-- Stored Grants

structure GrantDeployment extends GrantPolicy where
  publicSshGatewayHostname : String
  publicSshGatewayPort : Nat
  publicSshGatewayHostKeyFingerprint : String
  portFixed : publicSshGatewayPort = 2222
  fingerprintValid : validHostKeyFingerprint publicSshGatewayHostKeyFingerprint = true

/- A row of `endpoint_grants` with its contract document. -/
structure StoredEndpointGrant extends EndpointGrantRow where
  id : EndpointGrantId
  sshGatewayHostname : Option String
  sshGatewayPort : Option Nat
  sshGatewayHostKeyFingerprint : Option String

/- A row of `access_grants` with its endpoint grants. -/
structure StoredGrant extends AccessGrantRow where
  revokedAt : Option OffsetDateTime
  reasonCode : Option String
  lastStreamSequence : Nat
  endpointGrants : List StoredEndpointGrant

/- `access_grants_terminal_facts_v1` and the other CHECK of the table, which every statement must
  meet. -/
def StoredGrant.checked (row : StoredGrant) : Prop :=
  row.notBefore < row.expiresAt ∧
  match row.state with
  | .revoked => row.revokedAt ≠ none ∧ row.reasonCode ≠ none
  | .denied => row.revokedAt = none ∧ row.reasonCode ≠ none
  | .expired => row.revokedAt = none ∧ row.reasonCode = some "expired"
  | .requested | .active => row.revokedAt = none

instance (row : StoredGrant) : Decidable row.checked := by
  unfold StoredGrant.checked
  cases row.state <;> infer_instance

inductive GrantError where
| documentInvalid
| scopeDenied
| adminGrantForbidden
| ttlInvalid
| accessDenied
| revisionConflict
| activationLeaseLost
| contract
| storeCorrupt
| storeUnavailable

abbrev GrantResult := Except GrantError

/- The primary key: one membership for each role. -/
structure MembershipTable where
  rows : List CourseMembership
  unique : ∀ membership ∈ rows, ∀ other ∈ rows, membership.courseId = other.courseId →
    membership.actorId = other.actorId → membership.role = other.role → membership = other

-- Loaders

/- One element of `endpoint_grants`. -/
def StoredEndpointGrant.load (row : StoredEndpointGrant) : EndpointGrant where
  id := row.id
  accessGrantId := row.grantId
  endpointId := row.endpointId
  endpointRevision := row.endpointRevision
  protocol := row.protocol
  health := row.health
  sshAlias := row.sshAlias
  connectUrl := if row.protocol = .ssh then none else some (connectUrl row.id)
  sshGatewayHostname := row.sshGatewayHostname
  sshGatewayPort := row.sshGatewayPort
  sshGatewayHostKeyFingerprint := row.sshGatewayHostKeyFingerprint
  expiresAt := row.expiresAt.utcTimestamp

/- The document of a row, before it is validated. -/
def StoredGrant.document (row : StoredGrant) : LoadedGrant where
  id := row.grantId
  actorId := row.actorId
  courseId := row.courseId
  environmentId := row.environmentId
  environmentRevision := row.environmentRevision
  state := row.state
  revision := row.revision
  issuedAt := row.notBefore.utcTimestamp
  expiresAt := row.expiresAt.utcTimestamp
  revokedAt := row.revokedAt.map utcTimestamp
  reasonCode := row.reasonCode
  endpointGrants := row.endpointGrants.map StoredEndpointGrant.load

def loadGrant (row : StoredGrant) (actor : Option ActorId) : GrantResult LoadedGrant := do
  ensure (∀ expected ∈ actor, expected = row.actorId) .accessDenied
  row.document.validate.mapError (fun _ => .storeCorrupt)
  .ok row.document

def endpointSnapshotState (state : AccessGrantState)
    (health : EndpointHealth) : EndpointGrantSnapshotState :=
  match state with
  | .expired => .expired
  | .revoked | .denied => .revoked
  | .requested | .active => if health = .healthy then .active else .unhealthy

def AccessGrantState.decision : AccessGrantState → AuthorizationDecision
| .denied | .expired | .revoked => .terminal
| .active => .allow
| .requested => .deny

/- The public projection of a grant. -/
def LoadedGrant.snapshot (grant : LoadedGrant) (stream : Nat)
    (evaluatedAt : UtcTimestamp) : AccessGrantSnapshot where
  id := grant.id
  environmentId := grant.environmentId
  environmentRevision := grant.environmentRevision
  state := grant.state
  revision := grant.revision
  endpointGrants := grant.endpointGrants.map (fun endpoint =>
    { id := endpoint.id, endpointId := endpoint.endpointId,
      endpointRevision := endpoint.endpointRevision, protocol := endpoint.protocol,
      sshAlias := endpoint.sshAlias, state := endpointSnapshotState grant.state endpoint.health,
      expiresAt := endpoint.expiresAt })
  issuedAt := grant.issuedAt
  expiresAt := grant.expiresAt
  revokedAt := grant.revokedAt
  reasonCode := grant.reasonCode
  decision :=
    { decision := grant.state.decision, reasonCode := grant.reasonCode.getD grant.state.text,
      evaluatedAt }
  lastChangedStreamSequence := stream

def loadGrantSnapshot (row : StoredGrant) (actorId : ActorId) (now : OffsetDateTime) :
    GrantResult AccessGrantSnapshot := do
  let grant ← loadGrant row (some actorId)
  let snapshot := grant.snapshot row.lastStreamSequence now.utcTimestamp
  snapshot.validate.mapError (fun _ => .storeCorrupt)
  .ok snapshot

-- Mutations

structure CreateMutation where
  grantId : AccessGrantId
  actorId : ActorId
  environmentId : EnvironmentId
  session : AuthenticatedSession
  request : CreateAccessGrantRequest
  membershipNow : OffsetDateTime

/- An activation, with the answer about the endpoints and a new identifier for each of them. -/
structure ActivateMutation where
  eligibility : EnvironmentEndpointEligibility
  resolvedAt : UtcTimestamp
  endpointGrantIds : List EndpointGrantId

structure RenewMutation where
  actorId : ActorId
  session : AuthenticatedSession
  expected : Revision
  expiresAt : UtcTimestamp

structure RevokeMutation where
  actorId : ActorId
  roles : List PlatformRole
  expected : Revision
  reasonCode : String
  membershipNow : OffsetDateTime

inductive GrantMutation where
| create (call : CreateMutation)
| activate (call : ActivateMutation)
| deny
| renew (call : RenewMutation)
| revoke (call : RevokeMutation)
| revokeEnvironment (reason : String)
| expire

/- The diagnostics of `deny_grant_tx`. -/
def eligibilityDenied : String := "LW_ACCESS_ENDPOINT_ELIGIBILITY_DENIED"

def expiredBeforeActivation : String := "LW_ACCESS_GRANT_EXPIRED_BEFORE_ACTIVATION"

/- The reasons of an `EnvironmentAccessRevocationRequest`. -/
def environmentReasons : List String :=
  ["environment_stopped", "environment_restarted", "environment_deleted", "environment_cancelled",
    "environment_expired"]

section

variable (deployment : GrantDeployment) (memberships : List CourseMembership)

-- the number that the event of the mutation draws
variable (stream : Nat) (now : OffsetDateTime) (call : CreateMutation)
  (membership : CourseMembership)

/- The expiry that a creation computes. -/
def createdExpiry : OffsetDateTime :=
  effectiveExpiry deployment.toGrantPolicy now call.request.expiresAt call.session membership

def createdRow : StoredGrant :=
  let expiry := createdExpiry deployment now call membership
  { requestedRow call.grantId call.actorId
    { call.request with expiresAt := some expiry.utcTimestamp }
    membership.role now.stored expiry.stored with
    revokedAt := none, reasonCode := none, lastStreamSequence := stream, endpointGrants := [] }

/- The membership that `create_access_grant` goes by. -/
def creatorMembership : Option CourseMembership :=
  activeMembership memberships call.request.courseId
    call.actorId call.session.roles call.membershipNow

def createMutation : GrantResult StoredGrant := do
  ensure (call.request.wellFormed deployment.toGrantPolicy call.environmentId) .documentInvalid
  let membership ← require (creatorMembership memberships call) .scopeDenied
  ensure (membership.role ≠ .platformAdmin) .adminGrantForbidden
  ensure (now < createdExpiry deployment now call membership) .ttlInvalid
  ensure (call.request.environmentRevision.get ≤ maxI64) .documentInvalid
  .ok (createdRow deployment stream now call membership)

def newEndpointGrant (grantId : AccessGrantId) (expiresAt : OffsetDateTime) (id : EndpointGrantId)
    (endpoint : EnvironmentEndpoint) : StoredEndpointGrant where
  id := id
  grantId := grantId
  endpointId := endpoint.id
  endpointRevision := endpoint.revision
  protocol := endpoint.protocol
  health := .healthy
  sshAlias := if endpoint.protocol = .ssh then some (sshAlias id) else none
  expiresAt := expiresAt
  sshGatewayHostname :=
    if endpoint.protocol = .ssh then some deployment.publicSshGatewayHostname else none
  sshGatewayPort := if endpoint.protocol = .ssh then some deployment.publicSshGatewayPort else none
  sshGatewayHostKeyFingerprint :=
    if endpoint.protocol = .ssh then some deployment.publicSshGatewayHostKeyFingerprint else none

/- The keys of the endpoint grants of one grant. -/
def uniqueEndpoints (endpoints : List StoredEndpointGrant) : Prop :=
  (endpoints.map (fun endpoint => endpoint.id)).Nodup ∧
  (endpoints.map (fun endpoint => endpoint.endpointId)).Nodup
deriving Decidable

variable (diagnostic : String)

def deniedRow (revision : Revision) (row : StoredGrant) : StoredGrant :=
  { row with
    state := .denied, revision, reasonCode := some diagnostic,
    lastStreamSequence := stream }

def denyMutation (row : StoredGrant) : GrantResult StoredGrant := do
  ensure (row.state = .requested) .activationLeaseLost
  let revision ← require row.revision.increment .storeUnavailable
  .ok (deniedRow stream diagnostic revision row)

variable (call : ActivateMutation) (row : StoredGrant)

def activatedExpiry : OffsetDateTime :=
  min row.expiresAt (ofTimestamp call.eligibility.eligibilityExpiresAt)

def activatedEndpoints : List StoredEndpointGrant :=
  List.zipWith (newEndpointGrant deployment row.grantId (activatedExpiry call row))
    call.endpointGrantIds call.eligibility.endpoints

def activatedRow (revision : Revision) (row : StoredGrant) : StoredGrant :=
  { row with
    state := .active, revision, expiresAt := activatedExpiry call row,
    lastStreamSequence := stream, endpointGrants := activatedEndpoints deployment call row }

/- The rows of `activate_grant`. The answer has passed the checks of the resolver's client. -/
def activateMutation : GrantResult StoredGrant := do
  ensure (call.eligibility.ValidFor row.eligibilityRequest call.resolvedAt) .contract
  ensure (call.endpointGrantIds.length = call.eligibility.endpoints.length) .contract
  ensure (row.state = .requested) .activationLeaseLost
  if activatedExpiry call row ≤ now then denyMutation stream expiredBeforeActivation row
  else do
    ensure (∀ endpoint ∈ call.eligibility.endpoints, endpoint.revision.get ≤ maxI64) .contract
    ensure (uniqueEndpoints (activatedEndpoints deployment call row)) .storeUnavailable
    let revision ← require row.revision.increment .storeUnavailable
    .ok (activatedRow deployment stream call revision row)

/- The limits of `renew_access_grant` on the new expiry. -/
def renewable (call : RenewMutation) : Prop :=
  let expiry := ofTimestamp call.expiresAt
  now < expiry ∧ expiry ≤ now.addSeconds deployment.maxTtlSeconds ∧
  call.expiresAt ≤ call.session.expiresAt
deriving Decidable

def renewedRow (expiry : OffsetDateTime) (revision : Revision) (row : StoredGrant) : StoredGrant :=
  { row with
    revision, expiresAt := expiry
    endpointGrants := row.endpointGrants.map (fun endpoint =>
      { endpoint with expiresAt := expiry }) }

def renewMutation (call : RenewMutation) (row : StoredGrant) : GrantResult StoredGrant := do
  ensure (renewable deployment now call) .ttlInvalid
  let expiry := ofTimestamp call.expiresAt
  ensure (row.actorId = call.actorId ∧ row.revision = call.expected ∧ row.state = .active ∧
    row.expiresAt < expiry)
    .revisionConflict
  let revision ← require row.revision.increment .storeUnavailable
  .ok (renewedRow expiry revision row)

/- The owner, an administrator or a teacher may revoke. -/
def mayRevoke (call : RevokeMutation) (row : StoredGrant) : Prop :=
  row.actorId = call.actorId ∨ .platformAdmin ∈ call.roles ∨
  ∃ membership ∈ activeMembership memberships row.courseId call.actorId
    call.roles call.membershipNow, membership.role = .teacher
deriving Decidable

variable (reason : String) (revision : Revision)

def revokedRow (row : StoredGrant) : StoredGrant :=
  { row with
    state := .revoked, revision, revokedAt := some now.stored,
    reasonCode := some reason, lastStreamSequence := stream }

/- The statements that both revocations share. -/
def revokeLive (row : StoredGrant) : GrantResult StoredGrant := do
  ensure (row.state.live = true) .revisionConflict
  let revision ← require row.revision.increment .storeUnavailable
  .ok (revokedRow stream now reason revision row)

/- `revoke_access_grant`. -/
def revokeMutation (call : RevokeMutation) (row : StoredGrant) : GrantResult StoredGrant := do
  ensure (trimIsEmpty call.reasonCode = false) .documentInvalid
  ensure (mayRevoke memberships call row) .accessDenied
  ensure (row.revision = call.expected) .revisionConflict
  revokeLive stream now call.reasonCode row

/- `revoke_environment_grants`. -/
def revokeEnvironmentMutation (row : StoredGrant) : GrantResult StoredGrant := do
  ensure (reason ∈ environmentReasons) .documentInvalid
  revokeLive stream now reason row

def expiredRow (row : StoredGrant) : StoredGrant :=
  { row with
    state := .expired, revision, reasonCode := some "expired",
    lastStreamSequence := stream }

def expireMutation : GrantResult StoredGrant := do
  ensure (row.state = .active ∧ row.expiresAt ≤ now.stored) .revisionConflict
  let revision ← require row.revision.increment .storeUnavailable
  .ok (expiredRow stream revision row)

variable (grant : Option StoredGrant) (mutation : GrantMutation)

def mutatedRow : GrantResult StoredGrant :=
  match grant, mutation with
  | none, .create call => createMutation deployment memberships stream now call
  | some row, .activate call => activateMutation deployment stream now call row
  | some row, .deny => denyMutation stream eligibilityDenied row
  | some row, .renew call => renewMutation deployment now call row
  | some row, .revoke call => revokeMutation memberships stream now call row
  | some row, .revokeEnvironment reason => revokeEnvironmentMutation stream now reason row
  | some row, .expire => expireMutation stream now row
  | some _, .create _ => .error .storeUnavailable
  | none, _ => .error .revisionConflict

/- What the statements of a mutation write. -/
def mutateGrant : GrantResult StoredGrant := do
  let row ← mutatedRow deployment memberships stream now grant mutation
  ensure row.checked .storeUnavailable
  .ok row

end

-- The Machine

/- One grant at some time, with the last number of the event stream and the eligibility that was
  resolved for its activation. -/
structure GrantStore where
  clock : OffsetDateTime
  sequence : Nat
  grant : Option StoredGrant
  eligibility : Option UtcTimestamp

structure GrantAction where
  now : OffsetDateTime
  stream : Nat
  mutation : GrantMutation

namespace GrantMutation

/- Every mutation but the creation loads what it wrote. -/
def loads : GrantMutation → Bool
| .create _ => false
| _ => true

/- The eligibility that is on record after a mutation. -/
def resolved (eligibility : Option UtcTimestamp) : GrantMutation → Option UtcTimestamp
| .activate call => some call.eligibility.eligibilityExpiresAt
| _ => eligibility

end GrantMutation

namespace GrantStore

variable (deployment : GrantDeployment) (memberships : List CourseMembership) (s : GrantStore)
  (action : GrantAction) (row : StoredGrant)

def writes : Prop :=
  s.clock ≤ action.now ∧ s.sequence < action.stream ∧
  mutateGrant deployment memberships action.stream action.now s.grant action.mutation = .ok row

/- The state after the commit of a row. -/
def committed : GrantStore where
  clock := action.now
  sequence := action.stream
  grant := some row
  eligibility := action.mutation.resolved s.eligibility

/- One mutation. Its time and the number that it draws from the stream come after those of the
  mutations before it. -/
def step : Option GrantStore :=
  if s.clock ≤ action.now ∧ s.sequence < action.stream then
    match mutateGrant deployment memberships action.stream action.now s.grant action.mutation with
    | .error _ => none
    | .ok row =>
      if action.mutation.loads = true → (loadGrant row none).isOk = true then
        some (s.committed action row)
      else none
  else none

theorem step_eq_some {s s' : GrantStore} {action : GrantAction} :
    s.step deployment memberships action = some s' ↔ ∃ row,
      s.writes deployment memberships action row ∧
      (action.mutation.loads = true → (loadGrant row none).isOk = true) ∧
      s' = s.committed action row := by
  unfold step writes
  by_cases hTime : s.clock ≤ action.now ∧ s.sequence < action.stream
  · rw [if_pos hTime]
    cases hRow : mutateGrant deployment memberships
      action.stream action.now s.grant action.mutation with
    | error e => simp
    | ok row =>
      by_cases hLoads : action.mutation.loads = true → (loadGrant row none).isOk = true
      · simp only [if_pos hLoads, Option.some.injEq]
        constructor
        · rintro rfl
          exact ⟨row, ⟨hTime.1, hTime.2, rfl⟩, hLoads, rfl⟩
        · rintro ⟨found, ⟨_, _, ⟨⟩⟩, _, rfl⟩
          rfl
      · simp only [if_neg hLoads]
        constructor
        · rintro ⟨⟩
        · rintro ⟨found, ⟨_, _, ⟨⟩⟩, hFoundLoads, _⟩
          exact absurd hFoundLoads hLoads
  · rw [if_neg hTime]
    constructor
    · rintro ⟨⟩
    · rintro ⟨row, ⟨hClock, hStream, _⟩, _⟩
      exact absurd ⟨hClock, hStream⟩ hTime

end GrantStore

/- The life of one grant, from an empty store. -/
def grantMachine (deployment : GrantDeployment) (memberships : List CourseMembership) :
    Machine GrantStore GrantAction where
  init := fun s => s.grant = none ∧ s.eligibility = none
  step := GrantStore.step deployment memberships

-- What A Mutation Writes

section

variable (deployment : GrantDeployment) (memberships : List CourseMembership) (stream : Nat)
  (now : OffsetDateTime)

/- The ways in which a row is written. An activation that comes too late denies the grant. -/
inductive Mutated : Option StoredGrant → GrantMutation → StoredGrant → Prop where
| created {call : CreateMutation} {membership : CourseMembership} (hMembership :
      creatorMembership memberships call = some membership)
    (hAdmin : membership.role ≠ .platformAdmin)
    (hLater : now < createdExpiry deployment now call membership) :
    Mutated none (.create call) (createdRow deployment stream now call membership)
| activated {call : ActivateMutation} {revision : Revision} {row : StoredGrant} (hEligible :
      call.eligibility.ValidFor row.eligibilityRequest call.resolvedAt)
    (hIds : call.endpointGrantIds.length = call.eligibility.endpoints.length)
    (hState : row.state = .requested) (hLater : now < activatedExpiry call row)
    (hUnique : uniqueEndpoints (activatedEndpoints deployment call row)) :
    Mutated (some row) (.activate call) (activatedRow deployment stream call revision row)
| activatedLate {call : ActivateMutation} {revision : Revision} {row : StoredGrant}
    (hState : row.state = .requested) (hLate : activatedExpiry call row ≤ now) :
    Mutated (some row) (.activate call) (deniedRow stream expiredBeforeActivation revision row)
| denied {revision : Revision} {row : StoredGrant} (hState : row.state = .requested) :
    Mutated (some row) .deny (deniedRow stream eligibilityDenied revision row)
| renewed {call : RenewMutation} {revision : Revision} {row : StoredGrant}
    (hRenewable : renewable deployment now call) (hState : row.state = .active)
    (hLonger : row.expiresAt < ofTimestamp call.expiresAt) :
    Mutated (some row) (.renew call) (renewedRow (ofTimestamp call.expiresAt)
      revision row)
| revoked {call : RevokeMutation} {revision : Revision} {row : StoredGrant}
    (hReason : trimIsEmpty call.reasonCode = false) (hLive : row.state.live = true) :
    Mutated (some row) (.revoke call) (revokedRow stream now call.reasonCode revision row)
| revokedByEnvironment {reason : String} {revision : Revision} {row : StoredGrant}
    (hReason : trimIsEmpty reason = false) (hLive : row.state.live = true) :
    Mutated (some row) (.revokeEnvironment reason) (revokedRow stream now reason revision row)
| expired {revision : Revision} {row : StoredGrant} (hState : row.state = .active)
    (hOver : row.expiresAt ≤ now.stored) :
    Mutated (some row) .expire (expiredRow stream revision row)

end

section

variable {deployment : GrantDeployment} {memberships : List CourseMembership} {stream : Nat}
  {now : OffsetDateTime} {row row' : StoredGrant}

theorem denyMutation_eq_ok {diagnostic : String}
    (hOk : denyMutation stream diagnostic row = .ok row') :
    row.state = .requested ∧ ∃ revision, row' = deniedRow stream diagnostic revision row := by
  simp only [denyMutation, steps_eq_ok] at hOk
  rcases hOk with ⟨hState, revision, _, rfl⟩
  exact ⟨hState, revision, rfl⟩

theorem activateMutation_mutated {call : ActivateMutation}
    (hOk : activateMutation deployment stream now call row = .ok row') :
    Mutated deployment memberships stream now (some row) (.activate call) row' := by
  simp only [activateMutation, ensure_bind_eq_ok] at hOk
  rcases hOk with ⟨hEligible, hIds, hState, hOk⟩
  by_cases hLate : activatedExpiry call row ≤ now
  · rw [if_pos hLate] at hOk
    rcases denyMutation_eq_ok hOk with ⟨_, revision, rfl⟩
    exact .activatedLate hState hLate
  · rw [if_neg hLate] at hOk
    simp only [steps_eq_ok] at hOk
    rcases hOk with ⟨_, hUnique, revision, _, rfl⟩
    have hLater := Int.not_le.mp hLate
    exact .activated hEligible hIds hState hLater hUnique

theorem revokeLive_eq_ok {reason : String} (hOk : revokeLive stream now reason row = .ok row') :
    row.state.live = true ∧ ∃ revision, row' = revokedRow stream now reason revision row := by
  simp only [revokeLive, steps_eq_ok] at hOk
  rcases hOk with ⟨hLive, revision, _, rfl⟩
  exact ⟨hLive, revision, rfl⟩

theorem trimIsEmpty_environmentReasons : ∀ reason ∈ environmentReasons,
    trimIsEmpty reason = false := by
  decide

theorem revokeEnvironmentMutation_mutated {reason : String}
    (hOk : revokeEnvironmentMutation stream now reason row = .ok row') :
    Mutated deployment memberships stream now (some row) (.revokeEnvironment reason) row' := by
  simp only [revokeEnvironmentMutation, ensure_bind_eq_ok] at hOk
  rcases hOk with ⟨hMember, hOk⟩
  rcases revokeLive_eq_ok hOk with ⟨hLive, revision, rfl⟩
  have hReason := trimIsEmpty_environmentReasons reason hMember
  exact .revokedByEnvironment hReason hLive

/- Every row that is put together is one of these. -/
theorem mutatedRow_cases {grant : Option StoredGrant} {mutation : GrantMutation}
    (hOk : mutatedRow deployment memberships stream now grant mutation = .ok row') :
    Mutated deployment memberships stream now grant mutation row' := by
  unfold mutatedRow at hOk
  split at hOk
  · simp only [createMutation, steps_eq_ok] at hOk
    rcases hOk with ⟨_, membership, hMembership, hAdmin, hLater, _, rfl⟩
    exact .created hMembership hAdmin hLater
  · exact activateMutation_mutated hOk
  · rcases denyMutation_eq_ok hOk with ⟨hState, revision, rfl⟩
    exact .denied hState
  · simp only [renewMutation, steps_eq_ok] at hOk
    rcases hOk with ⟨hRenewable, ⟨_, _, hState, hLonger⟩, revision, _, rfl⟩
    exact .renewed hRenewable hState hLonger
  · simp only [revokeMutation, ensure_bind_eq_ok] at hOk
    rcases hOk with ⟨hReason, _, _, hOk⟩
    rcases revokeLive_eq_ok hOk with ⟨hLive, revision, rfl⟩
    exact .revoked hReason hLive
  · exact revokeEnvironmentMutation_mutated hOk
  · simp only [expireMutation, steps_eq_ok] at hOk
    rcases hOk with ⟨⟨hState, hOver⟩, revision, _, rfl⟩
    exact .expired hState hOver
  · cases hOk
  · cases hOk

/- Every row that is written meets the CHECKs. -/
theorem mutateGrant_cases {grant : Option StoredGrant} {mutation : GrantMutation}
    (hOk : mutateGrant deployment memberships stream now grant mutation = .ok row') :
    Mutated deployment memberships stream now grant mutation row' ∧ row'.checked := by
  simp only [mutateGrant, steps_eq_ok] at hOk
  rcases hOk with ⟨row, hRow, hChecked, rfl⟩
  exact ⟨mutatedRow_cases hRow, hChecked⟩

end

-- A Grant

namespace GrantSample

def courseId : CourseId := ⟨1⟩
def actorId : ActorId := ⟨2⟩
def environmentId : EnvironmentId := ⟨3⟩
def endpointId : EndpointId := ⟨4⟩
def grantId : AccessGrantId := ⟨5⟩

def hostKeyFingerprint : String := "SHA256:AAAAAAAAAAAAAAAAAAAAAAAAAAAAAAAAAAAAAAAAAAA"

def maxTtlSeconds : Nat := 3600

def deployment : GrantDeployment where
  defaultTtlSeconds := 600
  maxTtlSeconds := maxTtlSeconds
  maxEndpointsPerGrant := 10
  defaultPositive := by decide
  defaultBounded := by decide
  maxFixed := rfl
  endpointsPositive := by decide
  endpointsBounded := by decide
  publicSshGatewayHostname := "ssh.lab.example"
  publicSshGatewayPort := 2222
  publicSshGatewayHostKeyFingerprint := hostKeyFingerprint
  portFixed := rfl
  fingerprintValid := by decide

/- A student of the course until second 35. -/
def membership : CourseMembership where
  courseId := courseId
  actorId := actorId
  role := .student
  state := .active
  expiresAt := some 35000000000

def memberships : MembershipTable where
  rows := [membership]
  unique := by decide

def session : AuthenticatedSession where
  roles := [.student]
  expiresAt := 1000000

def endpoint : EnvironmentEndpoint where
  id := endpointId
  protocol := .https
  revision := Revision.one
  health := .healthy
  observedAt := 0

def seconds (count : Nat) : OffsetDateTime := addSeconds 0 count

def start : GrantStore where
  clock := 0
  sequence := 0
  grant := none
  eligibility := none

/- The grant is requested in second 1. -/
def create (expiresAt : Option UtcTimestamp) : GrantAction where
  now := seconds 1
  stream := 1
  mutation := .create
    { grantId, actorId, environmentId, session
      request :=
        { courseId, environmentId,
          environmentRevision := Revision.one, endpointIds := [endpointId],
          expiresAt }
      membershipNow := seconds 1 }

/- It is activated with an eligibility until second 30. -/
def activate : GrantAction where
  now := seconds 2
  stream := 2
  mutation := .activate
    { eligibility :=
      { environmentId, courseId, ownerActorId := actorId,
        environmentRevision := Revision.one, eligibilityExpiresAt := 30000,
        endpoints := [endpoint] }
      resolvedAt := 2000, endpointGrantIds := [⟨6⟩] }

/- It is renewed in some second for another expiry. -/
def renew (second : Nat) (expiresAt : UtcTimestamp) : GrantAction where
  now := seconds second
  stream := 3
  mutation := .renew
    { actorId, session, expected := ⟨2, by decide, by decide⟩, expiresAt }

/- The owner revokes it. -/
def revoke : GrantAction where
  now := seconds 10
  stream := 3
  mutation := .revoke
    { actorId, roles := [.student], expected := ⟨2, by decide, by decide⟩,
      reasonCode := "no_longer_needed", membershipNow := seconds 10 }

/- The resolver refuses its endpoints. -/
def deny : GrantAction where
  now := seconds 2
  stream := 2
  mutation := .deny

end GrantSample

end LabWeaver
