import LabWeaver.Environment.Provider
import LabWeaver.Environment.Transactions

/-
  This file models the handlers of the Environment API: the public commands, and the requests of
  the Resource service for Work environments. A handler builds a command from what other services
  answer, and commits it in one transaction.

  Key definitions: `EnvironmentApi`, `createEnvironment`.
-/

namespace LabWeaver

open Outcome

-- Messages To Other Services

/- The failures of a request to another service and of the settling of a message. -/
inductive NatsMessagingError where
| acknowledge
| serialization
| requestTimeout
| requestFailed
| responseInvalid
| leaseRequestTimeout
| leaseRequestFailed
| leaseResponseInvalid
| quarantine
deriving DecidableEq

structure EnvironmentLeaseVerificationRequest where
  version : Nat
  leaseId : LeaseId
  environmentId : EnvironmentId
  courseId : CourseId
  ownerActorId : ActorId
  capacityBinding : String

inductive EnvironmentLeaseState where
| active
| expiring
| expired
| revoked
deriving DecidableEq

structure EnvironmentLeaseVerificationResponse where
  version : Nat
  state : EnvironmentLeaseState
  authorization : Option EnvironmentLeaseAuthorization

/- The reasons for which Access is asked to revoke. -/
inductive RevocationReason where
| environmentStopped
| environmentRestarted
| environmentDeleted
| environmentCancelled
| environmentExpired

structure AccessRevocationRequest where
  version : Nat
  environmentId : EnvironmentId
  environmentRevision : Revision
  reason : RevocationReason

structure AccessRevocationResponse where
  version : Nat
  environmentId : EnvironmentId
  (environmentRevision accessRevocationRevision : Revision)

/- The fields of a release projection that handlers read. -/
structure ReleaseProjection where
  withdrawnAt : Option UtcTimestamp
  courseId : CourseId
  environmentClass : EnvironmentClass
  runtimeKind : RuntimeKind
  (providerBinding name : String)
  retainUntil : UtcTimestamp

/- What the collaborators of a handler answer: the release projections, the clock that is read
  before the transaction, and the replies of Resource and Access. With `leaseBypass` Resource is
  skipped. -/
structure EnvironmentApi where
  resolve : ReleaseId → Nat → Except ReleaseProjectionError ReleaseProjection
  now : UtcTimestamp
  leaseBypass : Bool
  leaseReply : EnvironmentLeaseVerificationRequest → Except NatsMessagingError
    EnvironmentLeaseVerificationResponse
  revocationReply : AccessRevocationRequest → Except NatsMessagingError AccessRevocationResponse

namespace EnvironmentApi

variable (request : EnvironmentLeaseVerificationRequest)

/- The Resource service answers for exactly this lease. -/
def leaseAnswers (authorization : EnvironmentLeaseAuthorization) (authorityNow : UtcTimestamp) :
    Prop :=
  authorization.leaseId = request.leaseId ∧ authorization.environmentId = request.environmentId ∧
  authorization.courseId = request.courseId ∧ authorization.ownerActorId = request.ownerActorId ∧
  authorization.capacityBinding = request.capacityBinding ∧
  authorization.activeFrom ≤ authorityNow ∧ authorityNow < authorization.expiresAt
deriving Decidable

def oneDay : Nat := 24 * 60 * 60 * 1000

/- The authorization that the bypass makes up: the first revision of the lease, for a day or up to
  the last representable time. -/
def bypassAuthorization (authorityNow : UtcTimestamp) : EnvironmentLeaseAuthorization where
  leaseId := request.leaseId
  leaseRevision := Revision.one
  environmentId := request.environmentId
  courseId := request.courseId
  ownerActorId := request.ownerActorId
  capacityBinding := request.capacityBinding
  activeFrom := authorityNow
  expiresAt := min (authorityNow + oneDay) latestTimestamp

variable (api : EnvironmentApi)

/- `NatsResourceLeaseVerifier::verify`. -/
def verifyLease (request : EnvironmentLeaseVerificationRequest) (authorityNow : UtcTimestamp) :
    Except NatsMessagingError
      EnvironmentLeaseAuthorization := do
  if api.leaseBypass then .ok (bypassAuthorization request authorityNow)
  else
    let response ← api.leaseReply request
    let authorization ← require response.authorization .leaseResponseInvalid
    ensure (response.version = 1 ∧ response.state = .active ∧
      leaseAnswers request authorization authorityNow)
      .leaseResponseInvalid
    .ok authorization

/- `NatsAccessRevoker::revoke`: Access revokes the grants of an environment and answers for the
  revision it was asked about. -/
def revokeAccess (env : EnvironmentInstance) (reason : RevocationReason) :
    Except NatsMessagingError Revision := do
  let response ← api.revocationReply
      { version := 1, environmentId := env.id, environmentRevision := env.revision, reason }
  ensure (response.version = 1 ∧ response.environmentId = env.id ∧
    response.environmentRevision = env.revision)
    .responseInvalid
  .ok response.accessRevocationRevision

end EnvironmentApi

-- Requests

inductive EnvironmentApiError where
| callerDenied
| identityInvalid
| scopeDenied
| requestInvalid
| idempotencyRequired
| idempotencyInvalid
| revisionRequired
| revisionConflict
| releaseDenied
| leaseFenceInvalid
| clockInvalid
| store (error : EnvironmentStoreError)
| release (error : ReleaseProjectionError)
| messaging (error : NatsMessagingError)
deriving DecidableEq

abbrev ApiResult := Except EnvironmentApiError

/- The headers that the handlers read, as far as they parse. The tag in `If-Match` is present or
  not, and names a revision or not. -/
structure RequestHeaders where
  actor : Option ActorId
  session : Bool
  idempotencyKey : Option String
  ifMatch : Option (Option Revision)

namespace RequestHeaders

variable (headers : RequestHeaders)

def requireActor : ApiResult ActorId := require headers.actor .identityInvalid

def requireSession : ApiResult Unit := ensure (headers.session = true) .identityInvalid

def requireIdempotencyKey : ApiResult String := do
  let key ← require headers.idempotencyKey .idempotencyRequired
  ensure (IdempotencyKey.parses key = true) .idempotencyInvalid
  .ok key

def requireIfMatch : ApiResult Revision := do
  let tag ← require headers.ifMatch .revisionRequired
  require tag .revisionConflict

end RequestHeaders

structure CreateEnvironmentRequest where
  courseId : CourseId
  releaseId : ReleaseId
  releaseVersion : Nat
  displayLabel : Option String

def CreateEnvironmentRequest.wellFormed (request : CreateEnvironmentRequest) : Prop :=
  request.releaseVersion ≠ 0 ∧
  ∀ label ∈ request.displayLabel, trimIsEmpty label = false ∧ label.length ≤ 120 ∧
    anyControl label = false
deriving Decidable

/- The request of the Resource service to create a Work environment. Revisions are never zero by
  their type. -/
structure ResourceWorkHandoff where
  version : Nat
  requestId : ResourceRequestId
  requestRevision : Revision
  leaseId : LeaseId
  leaseRevision : Revision
  environmentId : EnvironmentId
  courseId : CourseId
  ownerActorId : ActorId
  displayLabel : String
  releaseId : ReleaseId
  releaseVersion : Nat
  (providerBinding capacityBinding traceId : String)

def ResourceWorkHandoff.wellFormed (handoff : ResourceWorkHandoff) : Prop :=
  handoff.version = 1 ∧ handoff.releaseVersion ≠ 0 ∧ trimIsEmpty handoff.displayLabel = false ∧
  handoff.displayLabel.length ≤ 120 ∧ boundedText 120 handoff.providerBinding ∧
  boundedText 120 handoff.capacityBinding ∧ boundedText 128 handoff.traceId ∧
  anyControl handoff.traceId = false
deriving Decidable

-- Handlers

/- A command is to be done in fifteen minutes. -/
def operationDeadline : Nat := 15 * 60 * 1000

def commandDeadline (acceptedAt : UtcTimestamp) : ApiResult UtcTimestamp :=
  require (addDuration acceptedAt operationDeadline) .clockInvalid

def resolveRelease (api : EnvironmentApi) (releaseId : ReleaseId) (releaseVersion : Nat)
    (courseId : CourseId) (environmentClass : EnvironmentClass) :
    ApiResult ReleaseProjection := do
  let release ← (api.resolve releaseId releaseVersion).mapError .release
  ensure (release.withdrawnAt = none ∧ release.courseId = courseId ∧
    release.environmentClass = environmentClass)
    .releaseDenied
  .ok release

variable {δ : Type}

section

variable [DecidableEq δ] (hash : RequestDocument → δ) (api : EnvironmentApi)
  (tables : EnvironmentTables δ) (environmentId : EnvironmentId) (actorId : ActorId)

/- `load_owned`: the environment, for its owner. -/
def loadOwned : ApiResult EnvironmentInstance := do
  let env ← (loadLocked tables environmentId).mapError .store
  ensure (env.ownerId = actorId) .scopeDenied
  .ok env

/- The command and the spec of a public creation. -/
def createCommand (traceId : String) (acceptedAt deadlineAt : UtcTimestamp) :
    EnvironmentLifecycleCommand where
  environmentId := environmentId
  kind := .create
  expectedRevision := Revision.one
  actorId := actorId
  traceId := traceId
  acceptedAt := acceptedAt
  deadlineAt := deadlineAt
  accessRevocationRevision := none
  preserveMutableDisk := false
  maxAttempts := 3
  resetTarget := none

/- `caller` says whether the call came from Access, and `body` is what the request parses to. The
  identifier is new. -/
def createEnvironment (clock : UtcTimestamp) (caller : Bool) (headers : RequestHeaders)
    (traceId : String) (body : Option CreateEnvironmentRequest) (environmentId : EnvironmentId)
    (operationId : OperationId) :
    ApiResult (EnvironmentOperationAccepted × EnvironmentTables δ) := do
  ensure (caller = true) .callerDenied
  let actorId ← headers.requireActor
  headers.requireSession
  let key ← headers.requireIdempotencyKey
  let request ← require body .requestInvalid
  ensure request.wellFormed .requestInvalid
  let release ← resolveRelease api request.releaseId
      request.releaseVersion request.courseId .experiment
  let deadlineAt ← commandDeadline api.now
  (acceptApiCommand hash tables clock key (createCommand environmentId actorId traceId api.now
    deadlineAt)
    (some
      { courseId := request.courseId, ownerActorId := actorId,
        displayLabel := request.displayLabel.getD release.name,
        environmentClass := release.environmentClass, runtimeKind := release.runtimeKind,
        releaseId := request.releaseId, releaseVersion := request.releaseVersion,
        providerBinding := release.providerBinding, leaseId := none, capacityBinding := none,
        eligibilityExpiresAt := release.retainUntil })
    request.courseId operationId).mapError .store

/- Access is asked to revoke, or a resumed operation keeps the revocation of the operation that
  failed. -/
def lifecycleRevocation (env : EnvironmentInstance) (kind : EnvironmentOperationKind) :
    Option RevocationReason → ApiResult (Option Revision)
| some reason => do
    let revision ← (api.revokeAccess env reason).mapError .messaging
    .ok (some revision)
| none =>
  .ok (if kind.resumes = true then
    env.operation.accessRevocationRevision
    else none)

/- The environment is read from the tables `seen`; other transactions may commit before the command
  is accepted in `tables`. -/
def acceptLifecycle (seen tables : EnvironmentTables δ) (clock : UtcTimestamp) (caller : Bool)
    (headers : RequestHeaders) (traceId : String) (environmentId : EnvironmentId)
    (kind : EnvironmentOperationKind) (revocationReason : Option RevocationReason)
    (preserveMutableDisk : Bool) (operationId : OperationId) :
    ApiResult (EnvironmentOperationAccepted × EnvironmentTables δ) := do
  ensure (caller = true) .callerDenied
  headers.requireSession
  let actorId ← headers.requireActor
  let env ← loadOwned seen environmentId actorId
  let expectedRevision ← headers.requireIfMatch
  ensure (expectedRevision = env.revision) .revisionConflict
  let accessRevocationRevision ← lifecycleRevocation api env kind revocationReason
  let deadlineAt ← commandDeadline api.now
  let key ← headers.requireIdempotencyKey
  (acceptApiCommand hash tables clock key
    { environmentId, kind, expectedRevision,
      actorId := env.ownerId, traceId, acceptedAt := api.now, deadlineAt,
      accessRevocationRevision,
      preserveMutableDisk, maxAttempts := 3, resetTarget := none }
    none env.courseId operationId).mapError .store

end

/- The commands that have a public route. -/
inductive LifecycleRoute where
| start
| stop
| restart
| retry
| delete

namespace LifecycleRoute

def kind : LifecycleRoute → EnvironmentOperationKind
| .start => .start
| .stop => .stop
| .restart => .restart
| .retry => .retry
| .delete => .delete

def revocationReason : LifecycleRoute → Option RevocationReason
| .stop => some .environmentStopped
| .restart => some .environmentRestarted
| .delete => some .environmentDeleted
| .start | .retry => none

def preserveMutableDisk : LifecycleRoute → Bool
| .delete => false
| .start | .stop | .restart | .retry => true

end LifecycleRoute

section

variable [DecidableEq δ] (hash : RequestDocument → δ) (api : EnvironmentApi)

def lifecycleHandler (route : LifecycleRoute) (seen tables : EnvironmentTables δ)
    (clock : UtcTimestamp) (caller : Bool) (headers : RequestHeaders) (traceId : String)
    (environmentId : EnvironmentId) (operationId : OperationId) :
    ApiResult (EnvironmentOperationAccepted × EnvironmentTables δ) :=
  acceptLifecycle hash api seen tables clock caller headers
    traceId environmentId route.kind route.revocationReason
    route.preserveMutableDisk operationId

variable (handoff : ResourceWorkHandoff)

def ResourceWorkHandoff.leaseRequest : EnvironmentLeaseVerificationRequest where
  version := 1
  leaseId := handoff.leaseId
  environmentId := handoff.environmentId
  courseId := handoff.courseId
  ownerActorId := handoff.ownerActorId
  capacityBinding := handoff.capacityBinding

/- The Work environment that a handoff describes. -/
def ResourceWorkHandoff.createSpec (release : ReleaseProjection) : EnvironmentCreateSpec where
  courseId := handoff.courseId
  ownerActorId := handoff.ownerActorId
  displayLabel := handoff.displayLabel
  environmentClass := .work
  runtimeKind := release.runtimeKind
  releaseId := handoff.releaseId
  releaseVersion := handoff.releaseVersion
  providerBinding := handoff.providerBinding
  leaseId := some handoff.leaseId
  capacityBinding := some handoff.capacityBinding
  eligibilityExpiresAt := release.retainUntil

def ResourceWorkHandoff.idempotencyKey : String :=
  "resource-work-" ++ uuidText handoff.requestId.uuid ++ "-" ++ toString handoff.requestRevision.get

/- The verified lease is compared with the handoff and then dropped: the command is accepted like a
  public one. -/
def acceptResourceWorkHandoff (tables : EnvironmentTables δ) (clock : UtcTimestamp) (caller : Bool)
    (body : Option ResourceWorkHandoff) (operationId : OperationId) :
    ApiResult (EnvironmentOperationAccepted × EnvironmentTables δ) := do
  ensure (caller = true) .callerDenied
  let handoff ← require body .requestInvalid
  ensure handoff.wellFormed .requestInvalid
  let release ← resolveRelease api handoff.releaseId handoff.releaseVersion handoff.courseId .work
  ensure (release.providerBinding = handoff.providerBinding) .releaseDenied
  let authorization ← (api.verifyLease handoff.leaseRequest api.now).mapError .messaging
  ensure (authorization.leaseRevision = handoff.leaseRevision) .leaseFenceInvalid
  let deadlineAt ← commandDeadline api.now
  (acceptApiCommand hash tables clock handoff.idempotencyKey (createCommand handoff.environmentId
    handoff.ownerActorId handoff.traceId api.now
    deadlineAt)
    (some (handoff.createSpec release))
    handoff.courseId operationId).mapError .store

end

end LabWeaver
