import LabWeaver.Agent.BuildPipeline

/-
  This file models the executor that serves the calls of the build pipeline, and the fence row by
  which it admits a request.
-/

namespace LabWeaver

open Outcome

-- Envelopes

/- What the digest of a request is taken of. -/
structure CanonicalRequest (δ : Type) where
  protocolVersion : Nat
  buildRequestId : BuildRequestId
  fenceGeneration : Nat
  leaseToken : BitVec 128
  stage : BuildProviderStage
  deadlineAt : UtcTimestamp
  request : BuildExecutorRequest δ

structure BuildExecutorRequestEnvelope (δ : Type) where
  context : BuildProviderRequestContext δ
  request : BuildExecutorRequest δ

inductive BuildExecutorResponse (δ : Type) where
| privateProjectReady (project : PrivateRegistryProject δ)
| built (candidate : BuiltCandidate δ)
| published (image : PublishedImage δ)
| cleaned (buildRequestId : BuildRequestId) (buildIdentity : δ)
| failed (failure : BuildProviderFailure)
deriving DecidableEq

inductive BuildExecutorFenceError where
| configurationInvalid
| identityMismatch
| deadlineExceeded
| staleGeneration
| tombstoned
| inProgress
| database
| transport

def executorFailure : BuildExecutorFenceError → BuildProviderFailure
| .inProgress | .database | .transport => ⟨.unavailable, true⟩
| .identityMismatch => ⟨.identityMismatch, false⟩
| .configurationInvalid | .deadlineExceeded
| .staleGeneration | .tombstoned => ⟨.rejected, false⟩

variable {δ : Type}

/- `build_executor_request_id`, before the digest. -/
def canonicalRequest (context : BuildProviderRequestContext δ) (request : BuildExecutorRequest δ) :
    CanonicalRequest δ where
  protocolVersion := context.protocolVersion
  buildRequestId := context.buildRequestId
  fenceGeneration := context.fenceGeneration
  leaseToken := context.leaseToken
  stage := context.stage
  deadlineAt := context.deadlineAt
  request := request

/- `executor_request_build_id`. -/
def BuildExecutorRequest.buildRequestId : BuildExecutorRequest δ → BuildRequestId
| .ensurePrivateProject command _
| .build command _ => command.request.id
| .publish candidate => candidate.buildRequestId
| .cleanup buildRequestId _ => buildRequestId

def hexDigit (c : Char) : Bool := lowerHexDigit c || ('A' ≤ c && c ≤ 'F')

/- `build_stage_rank`. -/
def BuildProviderStage.rank : BuildProviderStage → Nat
| .ensurePrivateProject => 1
| .build => 2
| .publish => 3
| .cleanup => 4

-- The Provider Adapter

section

variable [DecidableEq δ]

def BuildProviderFailure.identityMismatch : BuildProviderFailure := ⟨.identityMismatch, false⟩

def BuildProviderFailure.unavailable : BuildProviderFailure := ⟨.unavailable, true⟩

/- How `NatsBuildSupplyChainProvider` reads a response. The executor echoes the context, so that the
  check of the echo passes. -/
def providerReply (request : BuildExecutorRequest δ) (response : BuildExecutorResponse δ) :
    ProviderReply δ :=
  match request, response with
  | .ensurePrivateProject command identity, .privateProjectReady project =>
    if project.buildRequestId = command.request.id ∧ project.buildIdentity = identity then
      .project project
    else .failure .identityMismatch
  | .build command identity, .built candidate =>
    if candidate.buildRequestId = command.request.id ∧ candidate.buildIdentity = identity then
      .candidate candidate
    else .failure .identityMismatch
  | .publish candidate, .published image =>
    if image.buildIdentity = candidate.buildIdentity ∧ image.digest = candidate.digest then
      .image image
    else .failure .identityMismatch
  | .cleanup buildRequestId identity, .cleaned observed buildIdentity =>
    if observed = buildRequestId ∧ buildIdentity = identity then .cleaned
    else .failure .identityMismatch
  | _, .failed failure => .failure failure
  | _, _ => .failure .identityMismatch

end

-- The Fence

/- The row of `agent.build_executor_fences` of one build. -/
structure FenceRow (δ : Type) where
  highestGeneration : Nat
  leaseToken : BitVec 128
  tombstoneGeneration : Option Nat
  lastStageRank : Nat
  lastRequestId : δ
  lastResponse : Option (BuildExecutorResponse δ)
  deadlineAt : UtcTimestamp

def FenceRow.admitted (context : BuildProviderRequestContext δ) : FenceRow δ where
  highestGeneration := context.fenceGeneration
  leaseToken := context.leaseToken
  tombstoneGeneration := if context.stage = .cleanup then some context.fenceGeneration else none
  lastStageRank := context.stage.rank
  lastRequestId := context.stageRequestId
  lastResponse := none
  deadlineAt := context.deadlineAt

inductive BuildExecutorAdmission (δ : Type) where
| execute (row : FenceRow δ)
| replay (response : BuildExecutorResponse δ)

/- The executor digests identifiers and canonical requests as the pipeline does. -/
structure ExecutorDigests (δ : Type) where
  ofUuid : BitVec 128 → δ
  ofCanonical : CanonicalRequest δ → δ

namespace BuildExecution

variable (execution : BuildExecution δ) (ofCanonical : CanonicalRequest δ → δ)

def digests : ExecutorDigests δ := ⟨execution.ofUuid, ofCanonical⟩

/- `bind_build_executor_request` on a request under the fence of the execution. -/
def envelope (request : BuildExecutorRequest δ) : BuildExecutorRequestEnvelope δ :=
  let context := execution.requestContext request.stage
  { context :=
    { context with stageRequestId := ofCanonical (canonicalRequest context request) }
    request }

def cleanupId : δ :=
  (execution.envelope ofCanonical execution.cleanupRequest).context.stageRequestId

/- The row was last written under the fence. -/
def Owned (row : FenceRow δ) : Prop :=
  row.highestGeneration = execution.fence.generation ∧ row.leaseToken = execution.fence.leaseToken

/- The executor admits no request under the fence. -/
def Refused (current : Option (FenceRow δ)) : Prop :=
  maxI32 < execution.fence.generation ∨
  ∃ row, current = some row ∧ (execution.fence.generation < row.highestGeneration ∨
    row.highestGeneration = execution.fence.generation ∧
      row.leaseToken ≠ execution.fence.leaseToken)

variable {execution ofCanonical}

end BuildExecution

variable [DecidableEq δ] (digests : ExecutorDigests δ)

def requestIdentityValid : BuildExecutorRequest δ → Bool
| .ensurePrivateProject command identity
| .build command identity =>
  decide (command.Valid ∧ identity = digests.ofUuid command.request.id.uuid)
| .publish candidate =>
  ociDigestScheme.isPrefixOf candidate.digest.toList && candidate.digest.utf8ByteSize == 71 &&
    (candidate.digest.toList.drop 7).all hexDigit
| .cleanup _ _ => true

variable (envelope : BuildExecutorRequestEnvelope δ)

def validExecutorRequest : Prop :=
  envelope.context.protocolVersion = buildExecutorProtocolVersion ∧
  envelope.context.fenceGeneration ≠ 0 ∧ envelope.context.stage = envelope.request.stage ∧
  envelope.context.stageRequestId = digests.ofCanonical (canonicalRequest envelope.context
    envelope.request) ∧
  envelope.request.buildRequestId = envelope.context.buildRequestId ∧
  requestIdentityValid digests envelope.request = true
deriving Decidable

def storedRow (context : BuildProviderRequestContext δ) : Except BuildExecutorFenceError
    (BuildExecutorAdmission δ) := do
  ensure (context.fenceGeneration ≤ maxI32) .identityMismatch
  pure (.execute (.admitted context))

/- `PgBuildExecutorFenceStore::admit` at a time `now` of the database. -/
def admitRequest (now : UtcTimestamp) (current : Option (FenceRow δ)) :
    Except BuildExecutorFenceError (BuildExecutorAdmission δ) := do
  let context := envelope.context
  ensure (validExecutorRequest digests envelope) .identityMismatch
  ensure (now < context.deadlineAt) .deadlineExceeded
  match current with
  | none => storedRow context
  | some row =>
    ensure (row.highestGeneration ≤ context.fenceGeneration ∧ (context.fenceGeneration =
      row.highestGeneration → context.leaseToken = row.leaseToken))
      .staleGeneration
    if context.fenceGeneration = row.highestGeneration ∧
      row.lastRequestId = context.stageRequestId then
      match row.lastResponse with
      | some response => .ok (.replay response)
      | none => .error .inProgress
    else do
      ensure (row.lastResponse = none → row.deadlineAt ≤ now) .inProgress
      ensure (context.fenceGeneration = row.highestGeneration → row.tombstoneGeneration ≠
        some row.highestGeneration ∧
        (context.stage.rank < row.lastStageRank → context.stage = .cleanup))
        .tombstoned
      storedRow context

/- `PgBuildExecutorFenceStore::complete`: the row after the response of an admitted request. -/
def complete (context : BuildProviderRequestContext δ) (response : BuildExecutorResponse δ)
    (current : Option (FenceRow δ)) :
    Except BuildExecutorFenceError (FenceRow δ) := do
  let row ← require current .staleGeneration
  ensure (row.highestGeneration = context.fenceGeneration ∧ row.leaseToken = context.leaseToken ∧
    row.lastRequestId = context.stageRequestId ∧ row.lastResponse = none)
    .staleGeneration
  .ok { row with lastResponse := some response }

variable {response : BuildExecutorResponse δ}

theorem complete_eq_ok {context : BuildProviderRequestContext δ}
    {current : Option (FenceRow δ)} {next : FenceRow δ} :
    complete context response current = .ok next ↔ ∃ row, current = some row ∧
      (row.highestGeneration = context.fenceGeneration ∧ row.leaseToken = context.leaseToken ∧
        row.lastRequestId = context.stageRequestId ∧ row.lastResponse = none) ∧
      { row with lastResponse := some response } = next := by
  simp only [complete, steps_eq_ok]

-- Admission

namespace BuildExecution

variable {execution : BuildExecution δ} {ofCanonical : CanonicalRequest δ → δ} {now : UtcTimestamp}
  {current : Option (FenceRow δ)} {request : BuildExecutorRequest δ}

theorem admitRequest_eq_execute {next : FenceRow δ}
    (hAdmit : admitRequest (execution.digests ofCanonical)
      (execution.envelope ofCanonical request) now current = .ok (.execute next)) :
    next = .admitted (execution.envelope ofCanonical request).context ∧
    execution.fence.generation ≤ maxI32 ∧ ¬ execution.Refused current ∧
    now < execution.fence.deadlineAt ∧
    ∀ row, current = some row → row.lastResponse = none → row.deadlineAt ≤ now := by
  simp only [admitRequest, ensure_bind_eq_ok] at hAdmit
  rcases hAdmit with ⟨_, hTime, hAdmit⟩
  cases current with
  | none =>
    simp only [storedRow, ensure_bind_eq_ok] at hAdmit
    rcases hAdmit with ⟨hStored, ⟨⟩⟩
    refine ⟨rfl, hStored, ?_, hTime, ?_⟩
    · rintro (hLarge | ⟨_, hNone, _⟩)
      · exact absurd hStored (Nat.not_le_of_gt hLarge)
      · cases hNone
    · rintro _ ⟨⟩
  | some row =>
    simp only [ensure_bind_eq_ok] at hAdmit
    rcases hAdmit with ⟨⟨hNewest, hToken⟩, hAdmit⟩
    split at hAdmit
    · split at hAdmit <;> cases hAdmit
    · simp only [storedRow, ensure_bind_eq_ok] at hAdmit
      rcases hAdmit with ⟨hFree, _, hStored, ⟨⟩⟩
      refine ⟨rfl, hStored, ?_, hTime, ?_⟩
      · rintro (hLarge | ⟨_, hRow, hStale⟩)
        · exact absurd hStored (Nat.not_le_of_gt hLarge)
        · cases hRow
          rcases hStale with hNewer | ⟨hSame, hOther⟩
          · exact absurd hNewest (Nat.not_le_of_gt hNewer)
          · exact hOther (hToken hSame.symm).symm
      · rintro _ ⟨⟩
        exact hFree

theorem admitRequest_eq_replay (hAdmit : admitRequest (execution.digests ofCanonical)
      (execution.envelope ofCanonical request) now current = .ok (.replay response)) :
    ∃ row, current = some row ∧ execution.Owned row ∧ row.lastRequestId =
      (execution.envelope ofCanonical request).context.stageRequestId ∧
      row.lastResponse = some response := by
  simp only [admitRequest, ensure_bind_eq_ok] at hAdmit
  rcases hAdmit with ⟨_, _, hAdmit⟩
  cases current with
  | none =>
    simp only [storedRow, ensure_bind_eq_ok] at hAdmit
    cases hAdmit.2
  | some row =>
    simp only [ensure_bind_eq_ok] at hAdmit
    rcases hAdmit with ⟨⟨_, hToken⟩, hAdmit⟩
    split at hAdmit
    · rename_i hSame
      split at hAdmit
      · rename_i hRecorded
        cases hAdmit
        exact ⟨row, rfl, ⟨hSame.1.symm, (hToken hSame.1).symm⟩, hSame.2, hRecorded⟩
      · cases hAdmit
    · simp only [storedRow, ensure_bind_eq_ok] at hAdmit
      cases hAdmit.2.2.2

/- Before the deadline, and once the last request has its response, a cleanup is admitted unless
  the fence is refused every request. -/
theorem admitRequest_cleanup (hTime : now < execution.fence.deadlineAt)
    (hRecorded : ∀ row, current = some row → row.lastResponse.isSome = true)
    (hTombstone : ∀ row, current = some row → execution.Owned row → row.tombstoneGeneration =
      some execution.fence.generation → row.lastRequestId = execution.cleanupId ofCanonical)
    (hRefused : ¬ execution.Refused current) :
    ∃ admission, admitRequest (execution.digests ofCanonical) (execution.envelope ofCanonical
      execution.cleanupRequest) now current = .ok admission := by
  have hValid : validExecutorRequest (execution.digests ofCanonical) (execution.envelope ofCanonical
      execution.cleanupRequest) :=
    ⟨rfl, Nat.ne_of_gt execution.fence.positive, rfl, rfl, rfl, rfl⟩
  have hStored : execution.fence.generation ≤ maxI32 :=
    Nat.not_lt.mp (fun hLarge => hRefused (.inl hLarge))
  cases current with
  | none =>
    refine ⟨.execute (.admitted (execution.envelope ofCanonical
      execution.cleanupRequest).context), ?_⟩
    simp only [admitRequest, storedRow, ensure_bind_eq_ok]
    exact ⟨hValid, hTime, hStored, rfl⟩
  | some row =>
    have hNewest : row.highestGeneration ≤ execution.fence.generation :=
      Nat.not_lt.mp (fun hNewer => hRefused (.inr ⟨row, rfl, .inl hNewer⟩))
    have hToken : execution.fence.generation = row.highestGeneration → execution.fence.leaseToken =
        row.leaseToken := by
      intro hSame
      by_contra hOther
      exact hRefused (.inr ⟨row, rfl, .inr ⟨hSame.symm, fun h => hOther h.symm⟩⟩)
    rcases Option.isSome_iff_exists.mp (hRecorded row rfl) with ⟨response, hResponse⟩
    by_cases hSame : execution.fence.generation = row.highestGeneration ∧ row.lastRequestId =
      execution.cleanupId ofCanonical
    · refine ⟨.replay response, ?_⟩
      simp only [admitRequest, ensure_bind_eq_ok]
      refine ⟨hValid, hTime, ⟨hNewest, hToken⟩, ?_⟩
      refine (if_pos hSame).trans ?_
      rw [hResponse]
    · have hFree : row.lastResponse = none → row.deadlineAt ≤ now := by
        intro hNone
        cases hResponse.symm.trans hNone
      have hOpen : execution.fence.generation = row.highestGeneration → row.tombstoneGeneration ≠
          some row.highestGeneration := by
        intro hGeneration hClosed
        apply hSame
        refine ⟨hGeneration, ?_⟩
        exact hTombstone row rfl ⟨hGeneration.symm, (hToken hGeneration).symm⟩
          (hGeneration ▸ hClosed)
      refine ⟨.execute (.admitted (execution.envelope ofCanonical
        execution.cleanupRequest).context), ?_⟩
      simp only [admitRequest, ensure_bind_eq_ok]
      refine ⟨hValid, hTime, ⟨hNewest, hToken⟩, ?_⟩
      refine (if_neg hSame).trans ?_
      simp only [storedRow, ensure_bind_eq_ok]
      exact ⟨hFree, fun h => ⟨hOpen h, fun _ => rfl⟩, hStored, rfl⟩

end BuildExecution

end LabWeaver
