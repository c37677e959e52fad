import LabWeaver.Contracts.AccessGrant
import LabWeaver.Environment.Service
import Mathlib.Data.List.Perm.Subperm

/-
  This file models the owner resolver, which tells Access whether the endpoints of a grant are
  eligible, and compares its answer with what Access accepts.

  Main declarations: `eligibility_agreement_iff`.
-/

namespace LabWeaver

open Outcome

------------------------------------------------------------
-- The Eligibility Of Endpoints
------------------------------------------------------------

inductive OwnerResolverError where
| scopeMismatch
| requestInvalid
| environmentUnavailable
| endpointUnavailable

variable (env : EnvironmentInstance) (request : EnvironmentEndpointEligibilityRequest)
  (now : UtcTimestamp)

/- The endpoints of one environment at the revision that the request names. -/
def authorizeEndpointEligibility : Except OwnerResolverError EnvironmentEndpointEligibility := do
  ensure (env.id = request.environmentId ∧ env.courseId = request.courseId ∧
    (request.subjectKind = .owner → env.ownerId = request.actorId) ∧
    env.revision = request.expectedRevision)
    .scopeMismatch
  ensure (request.endpointIds ≠ [] ∧ request.endpointIds.Nodup) .requestInvalid
  ensure (env.desiredState = .running ∧ env.observedState = .ready ∧ now < env.eligibilityExpiresAt)
    .environmentUnavailable
  let endpoints := env.endpoints.filter (fun endpoint => endpoint.id ∈ request.endpointIds)
  -- only the number of the kept endpoints is compared with the request
  ensure (endpoints.length = request.endpointIds.length ∧ ∀ endpoint ∈ endpoints,
    endpoint.health = .healthy ∧ endpoint.revision = env.revision)
    .endpointUnavailable
  .ok
    { environmentId := env.id, courseId := env.courseId, ownerActorId := env.ownerId,
      environmentRevision := env.revision, eligibilityExpiresAt := env.eligibilityExpiresAt,
      endpoints }

/- The answer is about a ready environment in the scope of the request, names exactly the requested
  endpoints, all healthy and current, and passes the check of Access. -/
structure EligibilityAgrees (eligibility : EnvironmentEndpointEligibility) : Prop where
  ready : env.observedState = .ready
  running : env.desiredState = .running
  unexpired : now < env.eligibilityExpiresAt
  environment : env.id = request.environmentId
  course : env.courseId = request.courseId
  owner : request.subjectKind = .owner → env.ownerId = request.actorId
  revision : env.revision = request.expectedRevision
  exact : ∀ id, id ∈ eligibility.endpoints.map EnvironmentEndpoint.id ↔ id ∈ request.endpointIds
  healthy : ∀ endpoint ∈ eligibility.endpoints, endpoint.health = .healthy ∧
    endpoint.revision = env.revision
  valid : eligibility.ValidFor request now

/- Access accepts what Environment has authorized, exactly if no two of the endpoints have the same
  identifier. Environment only counts them. -/
theorem eligibility_agreement_iff
    {env : EnvironmentInstance}
    {request : EnvironmentEndpointEligibilityRequest}
    {now : UtcTimestamp}
    {eligibility : EnvironmentEndpointEligibility}
    (hAuthorized : authorizeEndpointEligibility env request now = .ok eligibility) :
    EligibilityAgrees env request now eligibility ↔
      ((env.endpoints.filter (fun endpoint => endpoint.id ∈ request.endpointIds)).map
        EnvironmentEndpoint.id).Nodup := by
  simp only [authorizeEndpointEligibility, steps_eq_ok] at hAuthorized
  rcases hAuthorized with ⟨hScope, hRequest, hState, ⟨hLength, hHealthy⟩, rfl⟩
  set endpoints := env.endpoints.filter (fun endpoint => endpoint.id ∈ request.endpointIds)
  have hMember : ∀ endpoint ∈ endpoints, endpoint.id ∈ request.endpointIds := by
    intro endpoint hEndpoint
    exact of_decide_eq_true (List.mem_filter.mp hEndpoint).2
  have hSubset : endpoints.map EnvironmentEndpoint.id ⊆ request.endpointIds := by
    intro id hId
    rcases List.mem_map.mp hId with ⟨endpoint, hEndpoint, rfl⟩
    exact hMember endpoint hEndpoint
  have hCount : (endpoints.map EnvironmentEndpoint.id).length = request.endpointIds.length := by
    rw [List.length_map, hLength]
  constructor
  · intro hAgrees
    have hPerm := (List.subperm_of_subset hRequest.2
      fun id => (hAgrees.exact id).mpr).perm_of_length_le (Nat.le_of_eq hCount)
    exact hPerm.nodup_iff.mp hRequest.2
  · intro hUnique
    have hPerm := (List.subperm_of_subset hUnique
      hSubset).perm_of_length_le (Nat.le_of_eq hCount.symm)
    refine ⟨hState.2.1, hState.1, hState.2.2, hScope.1, hScope.2.1, hScope.2.2.1, hScope.2.2.2,
      fun id => hPerm.mem_iff, hHealthy, ?_⟩
    exact ⟨hRequest.1, hRequest.2, hScope.1, hScope.2.1, hScope.2.2.1, hScope.2.2.2, hState.2.2,
      fun id => hPerm.mem_iff.mpr, hMember,
      fun endpoint hEndpoint => (hHealthy endpoint hEndpoint).1⟩

namespace Sample

/- A ready environment with two endpoints. -/
def twoEndpoints
    (first second : EndpointId) : EnvironmentInstance :=
  { createdInstance (command .create Revision.one 0) spec none 1000000 ⟨1⟩ with
    observedState := .ready
    observedGeneration := 1
    endpoints := [first, second].map
      ({ id := ·, protocol := .ssh, revision := Revision.one, health := .healthy,
         observedAt := 0 }) }

/- Its owner asks for two different endpoints. -/
def bothEndpoints : EnvironmentEndpointEligibilityRequest where
  environmentId := environmentId
  courseId := courseId
  actorId := actorId
  subjectKind := .owner
  expectedRevision := Revision.one
  endpointIds := [⟨8⟩, ⟨9⟩]

end Sample

open Sample

theorem eligibility_agreement_sample : ∃ eligibility,
    (twoEndpoints ⟨8⟩ ⟨9⟩).validate = .ok () ∧
    authorizeEndpointEligibility (twoEndpoints ⟨8⟩ ⟨9⟩) bothEndpoints 1 = .ok eligibility ∧
    EligibilityAgrees (twoEndpoints ⟨8⟩ ⟨9⟩) bothEndpoints 1 eligibility := by
  have hValid : (twoEndpoints ⟨8⟩ ⟨9⟩).validate = .ok () := by
    decide
  have hAuthorized : authorizeEndpointEligibility (twoEndpoints ⟨8⟩ ⟨9⟩) bothEndpoints 1 =
      .ok _ := rfl
  exact ⟨_, hValid, hAuthorized, (eligibility_agreement_iff hAuthorized).mpr (by decide)⟩

/- One endpoint that occurs twice counts as two. -/
theorem repeated_endpoint_authorized : ∃ eligibility,
    (twoEndpoints ⟨8⟩ ⟨8⟩).validate = .ok () ∧
    authorizeEndpointEligibility (twoEndpoints ⟨8⟩ ⟨8⟩) bothEndpoints 1 = .ok eligibility ∧
    ¬eligibility.ValidFor bothEndpoints 1 :=
  ⟨_, by decide, rfl, by decide⟩

end LabWeaver
