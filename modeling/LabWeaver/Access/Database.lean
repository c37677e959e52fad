import LabWeaver.Access.Grants
import LabWeaver.Base.Sql

/-
  This file models the tables of the Access service that keep grants and sessions.

  Key definitions: `OffsetDateTime.stored`, `Revision.increment`.
-/

namespace LabWeaver

open ReadCommitted

-- Values

/- A time as the database returns it after storing it. -/
def OffsetDateTime.stored (time : OffsetDateTime) : OffsetDateTime := time / 1000 * 1000

theorem OffsetDateTime.stored_le (time : OffsetDateTime) : time.stored ≤ time :=
  Int.ediv_mul_le time (by decide)

/- `revision+1` in a statement; a `bigint` can run out. -/
def Revision.increment (revision : Revision) : Option Revision :=
  if revision.get < maxI64 then revision.next else none

inductive ConsoleKind where
| xterm
| novnc
deriving DecidableEq

inductive ConsoleSessionState where
| opening
| active
| terminating
| terminationOverdue
| closed
deriving DecidableEq

inductive GatewaySessionState where
| active
| terminating
| terminationOverdue
| closed
deriving DecidableEq

inductive ActivationJobState where
| pending
| leased
| retry
| completed
| failed
deriving DecidableEq

def ConsoleSessionState.live : ConsoleSessionState → Bool
| .opening | .active => true
| .terminating | .terminationOverdue | .closed => false

/- The states that count against the console capacity. -/
def ConsoleSessionState.counted : ConsoleSessionState → Bool
| .closed => false
| _ => true

/- The role that a grant's subject must have in the course. -/
def EnvironmentAccessSubjectKind.requiredRole : EnvironmentAccessSubjectKind → PlatformRole
| .owner => .student
| .courseTeacher => .teacher

structure ConsoleLeaseFence where
  leaseId : LeaseId
  leaseRevision : Revision
  expiresAt : OffsetDateTime
deriving DecidableEq

-- Rows

structure EndpointGrantRow where
  grantId : AccessGrantId
  endpointId : EndpointId
  endpointRevision : Revision
  protocol : EndpointProtocol
  health : EndpointHealth
  sshAlias : Option String
  expiresAt : OffsetDateTime
deriving DecidableEq

structure SshPublicKeyRow where
  actorId : ActorId
  revision : Revision
  revokedAt : Option OffsetDateTime

structure SshAuthorizationRow where
  tokenSha256 : String
  actorId : ActorId
  keyId : SshPublicKeyId
  (gatewayIdentity connectionId : String)
  expiresAt : OffsetDateTime
  consumedAt : Option OffsetDateTime
  sessionId : Option GatewaySessionId
deriving DecidableEq

structure GatewaySessionRow where
  grantId : AccessGrantId
  grantRevision : Revision
  actorId : ActorId
  endpointId : EndpointId
  endpointGrantId : EndpointGrantId
  keyId : SshPublicKeyId
  (gatewayIdentity connectionId : String)
  revision : Revision
  state : GatewaySessionState
  (startedAt expiresAt : OffsetDateTime)

structure ConsoleCapabilityRow where
  locatorSha256 : String
  kind : ConsoleKind
  bffSessionId : BffSessionId
  accessGrantId : AccessGrantId
  accessGrantRevision : Revision
  actorId : ActorId
  courseId : CourseId
  environmentId : EnvironmentId
  environmentRevision : Revision
  leaseFence : Option ConsoleLeaseFence
  handoffSecretSha256 : String
  (expiresAt authorizationExpiresAt : OffsetDateTime)
  consumedAt : Option OffsetDateTime
  sessionId : Option ConsoleSessionId
deriving DecidableEq

structure BffSessionRow where
  platformRoles : List PlatformRole
  (expiresAt idleExpiresAt : OffsetDateTime)
  revokedAt : Option OffsetDateTime

structure ConsoleSessionRow where
  capabilityId : ConsoleCapabilityId
  kind : ConsoleKind
  bffSessionId : BffSessionId
  accessGrantId : AccessGrantId
  accessGrantRevision : Revision
  actorId : ActorId
  courseId : CourseId
  environmentId : EnvironmentId
  environmentRevision : Revision
  leaseFence : Option ConsoleLeaseFence
  revision : Revision
  state : ConsoleSessionState
  (openedAt authorizationExpiresAt : OffsetDateTime)

structure ActivationJobRow where
  state : ActivationJobState
  nextAttemptAt : OffsetDateTime
  lease : Option (BitVec 128 × OffsetDateTime)

-- The Store

inductive AccessTable where
| grants
| endpointGrants
| sshKeys
| memberships
| authorizations
| gatewaySessions
| capabilities
| bffSessions
| consoleSessions
| activationJobs
| advisoryLocks
deriving DecidableEq

namespace AccessTable

abbrev Id : AccessTable → Type
| .grants => AccessGrantId
| .endpointGrants => EndpointGrantId
| .sshKeys => SshPublicKeyId
| .memberships => CourseId × ActorId × PlatformRole
| .authorizations => BitVec 128
| .gatewaySessions => GatewaySessionId
| .capabilities => ConsoleCapabilityId
| .bffSessions => BffSessionId
| .consoleSessions => ConsoleSessionId
| .activationJobs => AccessGrantId
| .advisoryLocks => String

/- An advisory lock is a key whose row nobody writes. -/
abbrev Row : AccessTable → Type
| .grants => AccessGrantRow
| .endpointGrants => EndpointGrantRow
| .sshKeys => SshPublicKeyRow
| .memberships => CourseMembership
| .authorizations => SshAuthorizationRow
| .gatewaySessions => GatewaySessionRow
| .capabilities => ConsoleCapabilityRow
| .bffSessions => BffSessionRow
| .consoleSessions => ConsoleSessionRow
| .activationJobs => ActivationJobRow
| .advisoryLocks => Unit

instance : (t : AccessTable) → DecidableEq t.Id
| .grants | .endpointGrants | .sshKeys | .memberships
| .authorizations | .gatewaySessions | .capabilities
| .bffSessions | .consoleSessions | .activationJobs
| .advisoryLocks => inferInstance

end AccessTable

abbrev AccessKey := Key AccessTable.Id

abbrev AccessStore := Store AccessKey (Cell AccessTable.Row)

abbrev AccessStatement (L : Type) := Statement AccessKey (Cell AccessTable.Row) L

end LabWeaver
