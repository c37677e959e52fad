import LabWeaver.Access.Grants
import LabWeaver.Environment.Retry
import LabWeaver.Resource.Api
import Mathlib.Data.Sum.Basic

/-
  This file puts the public mutations of the three services side by side. None is safe to repeat
  at any later time, because a hash covers what the handler adds, or a revision is checked before
  the ledger.

  Main declaration: `public_mutations_retrySafeWhen`.
-/

namespace LabWeaver

open Outcome Endpoint

-- Sample Calls

namespace RetrySample

/- The documents of the services, hashed by themselves. -/
abbrev Document := RequestDocument ⊕ ResourceDocument ⊕ CreateAccessGrantRequest

def hashEnvironment (document : RequestDocument) : Document := .inl document

def hashResource (document : ResourceDocument) : Document := .inr (.inl document)

def hashAccess (request : CreateAccessGrantRequest) : Document := .inr (.inr request)

theorem hashEnvironment_injective : Function.Injective hashEnvironment := Sum.inl_injective

theorem hashResource_injective : Function.Injective hashResource :=
  Sum.inr_injective.comp Sum.inl_injective

theorem hashAccess_injective : Function.Injective hashAccess :=
  Sum.inr_injective.comp Sum.inr_injective

def courseId : CourseId := ⟨2⟩

def actorId : ActorId := ⟨3⟩

def environmentId : EnvironmentId := ⟨1⟩

-- Environment

variable (now : UtcTimestamp)

/- A usable release, and Access ready to revoke. -/
def environmentApi : EnvironmentApi where
  resolve := fun _ _ => .ok
    { withdrawnAt := none, courseId, environmentClass := .experiment,
      runtimeKind := .container, providerBinding := "container", name := "lab",
      retainUntil := 10000000 }
  now := now
  leaseBypass := false
  leaseReply := fun _ => .error .leaseRequestTimeout
  revocationReply := fun request => .ok
    { version := 1, environmentId := request.environmentId,
      environmentRevision := request.environmentRevision,
      accessRevocationRevision := Revision.one }

def headers (key : String) : RequestHeaders where
  actor := some actorId
  session := true
  idempotencyKey := some key
  ifMatch := none

def createCall : CreateEnvironmentCall where
  caller := true
  headers := headers "key-create"
  body := some { courseId, releaseId := ⟨4⟩, releaseVersion := 1, displayLabel := none }

/- A creation at a time, with new identifiers. -/
def createContext (environmentId : EnvironmentId) (operationId : OperationId) :
    CreateEnvironmentContext where
  api := environmentApi now
  traceId := "trace"
  environmentId := environmentId
  operationId := operationId

/- The environment that the lifecycle routes are called on. -/
def createdBefore : List ServiceAction :=
  [.create "key-create" ((createContext 0 environmentId ⟨1⟩).created
    { courseId, releaseId := ⟨4⟩, releaseVersion := 1, displayLabel := some "lab" }
    actorId
    { withdrawnAt := none, courseId, environmentClass := .experiment,
      runtimeKind := .container, providerBinding := "container", name := "lab",
      retainUntil := 10000000 })]

def deleteCall : LifecycleCall where
  route := .delete
  caller := true
  headers := headers "key-delete"
  environmentId := environmentId

def deleteContext (operationId : OperationId) : LifecycleContext where
  api := environmentApi now
  ifMatch := some (some Revision.one)
  traceId := "trace"
  operationId := operationId

-- Resource

def resourceStart : ResourceState Document where
  clock := 0
  tables :=
    { requests := [], approvals := [], claims := [], leases := [], attempts := []
      ledger := fun _ => none
      outbox := [] }

theorem resourceStart_initial : (resourceService hashResource).init resourceStart :=
  ⟨rfl, rfl, rfl, rfl, rfl, fun _ => rfl, rfl⟩

def principal : ResourceCallerPrincipal where
  sanUri := accessCallerSan
  actorId := actorId
  roles := [.platformAdmin]

def resources : WorkloadResources where
  cpuMillicores := 1000
  memoryBytes := 1024
  storageBytes := 1024
  gpu := none

def requestCall : CreateRequestCall where
  principal := principal
  idempotencyKey := some "key-request"
  input :=
    { courseId, projectId := ⟨5⟩, requestKey := "work", environmentId,
      releaseId := ⟨4⟩, releaseVersion := 1, resources, durationSeconds := 3600 }

def requestContext (requestId : ResourceRequestId) : CreateRequestContext where
  now := now
  traceId := "trace"
  requestId := requestId

def requestedBefore : List ResourceAction :=
  [.create "key-request" ((requestContext 0 ⟨6⟩).request requestCall) "trace"]

def approveCall : ApproveRequestCall where
  principal := principal
  idempotencyKey := some "key-approve"
  requestId := ⟨6⟩
  input :=
    { expectedRevision := Revision.one, providerBinding := "container", resources,
      durationSeconds := 3600, reason := "approved" }

def approveContext (ids : ApprovalIds) : ApproveRequestContext where
  now := now
  traceId := "trace"
  ids := ids

-- Access

def policy : GrantPolicy where
  defaultTtlSeconds := 1800
  maxTtlSeconds := 3600
  maxEndpointsPerGrant := 16
  defaultPositive := by decide
  defaultBounded := by decide
  maxFixed := rfl
  endpointsPositive := by decide
  endpointsBounded := by decide

def accessStart : AccessTables Document where
  memberships :=
    [{ courseId, actorId, role := .student, state := .active,
       expiresAt := none }]
  grants := []
  activationJobs := []
  ledger := fun _ => none
  outbox := []

theorem accessStart_initial : (accessService hashAccess policy).init accessStart := fun _ => rfl

def grantCall : CreateGrantCall where
  actorId := actorId
  environmentId := environmentId
  idempotencyKey := some "key-grant"
  body := some
    { courseId, environmentId, environmentRevision := Revision.one,
      endpointIds := [⟨7⟩], expiresAt := none }

/- A creation of a student whose session lasts long. -/
def grantContext (now : OffsetDateTime) (grantId : AccessGrantId) : CreateGrantContext where
  mutationAuth := true
  session := some { roles := [.student], expiresAt := 100000000 }
  membershipNow := now
  now := now
  grantId := grantId

end RetrySample

-- Repeating A Mutation

/- For each public mutation, the repeated calls that answer as the first call and change nothing.
  The hashes have no collisions. -/
theorem public_mutations_retrySafeWhen {δ : Type} [DecidableEq δ] (policy : GrantPolicy)
    (hashEnvironment : RequestDocument → δ) (hashResource : ResourceDocument → δ)
    (hashAccess : CreateAccessGrantRequest → δ) (hEnvironment : Function.Injective hashEnvironment)
    (hResource : Function.Injective hashResource) (hAccess : Function.Injective hashAccess) :
    (createEnvironmentEndpoint hashEnvironment).RetrySafeWhen (environmentService hashEnvironment)
      createEnvironmentRepeats ∧
    (lifecycleEndpoint hashEnvironment).RetrySafeWhen (environmentService hashEnvironment)
      (fun _ _ _ _ _ _ => False) ∧
    (createRequestEndpoint hashResource).RetrySafeWhen (resourceService hashResource)
      createRequestRepeats ∧
    (approveRequestEndpoint hashResource).RetrySafeWhen (resourceService hashResource)
      (fun _ _ _ _ _ _ => False) ∧
    (createGrantEndpoint hashAccess policy).RetrySafeWhen (accessService hashAccess policy)
      (createGrantRepeats policy) :=
  ⟨createEnvironment_retrySafeWhen hEnvironment, lifecycle_retrySafeWhen hEnvironment,
    createRequest_retrySafeWhen hResource, approveRequest_retrySafeWhen,
    createAccessGrant_retrySafeWhen hAccess⟩

open RetrySample

/- The creation of a resource request is replayed if it draws the same identifier at the same time,
  and not otherwise. -/
theorem public_mutations_retrySafeWhen_sample : ∃ result s, (createRequestEndpoint
        hashResource).Repeated (resourceService hashResource) requestCall
      (requestContext 0 ⟨6⟩) result s s ∧
    (createRequestEndpoint hashResource).call s s (requestContext 0 ⟨6⟩) requestCall =
      .ok (result, s) ∧
    (createRequestEndpoint hashResource).call s s (requestContext 1 ⟨7⟩) requestCall ≠
      .ok (result, s) := by
  have hError : (createRequestEndpoint hashResource).repeatError (resourceService hashResource)
      (fun s => !s.tables.outbox.isEmpty)
      resourceStart [] requestCall
      (requestContext 0 ⟨6⟩) [.tick 1]
      (requestContext 1 ⟨7⟩) = some (.store .idempotencyConflict) := by
    decide
  rcases repeated_of_repeatError _ _ _ resourceStart_initial hError with ⟨result, s, hRepeated, _⟩
  rcases public_mutations_retrySafeWhen policy hashEnvironment hashResource hashAccess
    hashEnvironment_injective
    hashResource_injective
    hashAccess_injective with
    ⟨_, _, hCreate, _, _⟩
  have hWhen := hCreate _ _ _ _ _ hRepeated
  refine ⟨result, s, hRepeated, ?_, ?_⟩
  · apply (hWhen (requestContext 0 ⟨6⟩)).mpr
    exact ⟨rfl, rfl, by decide⟩
  · intro hSecond
    rcases (hWhen (requestContext 1 ⟨7⟩)).mp hSecond with ⟨hSame, _, _⟩
    exact absurd hSame (by decide)

/- A millisecond later no repeated mutation is answered as the first: creations conflict, and fenced
  commands find their revision gone. -/
theorem repeated_mutations_refused : (∃ result s, (createEnvironmentEndpoint
          hashEnvironment).Repeated (environmentService hashEnvironment) createCall
        (createContext 0 ⟨1⟩ ⟨1⟩) result s s ∧
      (createEnvironmentEndpoint hashEnvironment).call s s (createContext 1 ⟨8⟩ ⟨2⟩) createCall =
        .error (.store .idempotencyConflict)) ∧
    (∃ result s, (lifecycleEndpoint hashEnvironment).Repeated (environmentService hashEnvironment)
      deleteCall (deleteContext 0 ⟨2⟩) result s s ∧
      (lifecycleEndpoint hashEnvironment).call s s (deleteContext 1 ⟨3⟩) deleteCall =
        .error .revisionConflict) ∧
    (∃ result s, (createRequestEndpoint hashResource).Repeated (resourceService hashResource)
      requestCall (requestContext 0 ⟨6⟩) result s s ∧
      (createRequestEndpoint hashResource).call s s (requestContext 1 ⟨7⟩) requestCall =
        .error (.store .idempotencyConflict)) ∧
    (∃ result s, (approveRequestEndpoint hashResource).Repeated (resourceService hashResource)
      approveCall (approveContext 0 ⟨⟨1⟩, ⟨2⟩, ⟨3⟩⟩)
      result s s ∧ (approveRequestEndpoint hashResource).call s s (approveContext 1 ⟨⟨4⟩, ⟨5⟩, ⟨6⟩⟩)
        approveCall = .error .revisionConflict) ∧
    (∃ result s, (createGrantEndpoint hashAccess policy).Repeated (accessService hashAccess policy)
      grantCall (grantContext 0 ⟨1⟩) result s s ∧
      (createGrantEndpoint hashAccess policy).call s s (grantContext 1000000 ⟨2⟩) grantCall =
        .error .idempotencyConflict) := by
  refine ⟨?_, ?_, ?_, ?_, ?_⟩
  · exact repeated_of_repeatError (fun s => !s.tables.outbox.isEmpty) [] [.tick 1]
      ServiceState.empty_initial
      (by decide)
  · exact repeated_of_repeatError (fun s => decide (1 < s.tables.outbox.length))
      createdBefore
      [.tick 1]
      ServiceState.empty_initial
      (by decide)
  · exact repeated_of_repeatError (fun s => !s.tables.outbox.isEmpty) [] [.tick 1]
      resourceStart_initial
      (by decide)
  · exact repeated_of_repeatError (fun s => !s.tables.approvals.isEmpty) requestedBefore
      [.tick 1]
      resourceStart_initial
      (by decide)
  · exact repeated_of_repeatError (fun s => !s.outbox.isEmpty) [] [] accessStart_initial (by decide)

end LabWeaver
