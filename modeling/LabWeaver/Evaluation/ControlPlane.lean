import LabWeaver.Base.Machine
import LabWeaver.Evaluation.StepRows

/-
  This file models the control plane of the evaluation service: its tables, the operations on
  them, and the machine of the operations that commit. Every operation is one transaction that
  locks the row of its run and ends by writing the step rows into its contract. A claim selects a
  step in a snapshot, skips locked rows, and reads both again under the lock. So the operations on
  a run happen one after another, and one copy of the steps is kept.

  Key definitions: `EvaluationStore`, `EvaluationStore.claimStep`.
-/

namespace LabWeaver

open Outcome

-- Tables

/- A row of the attempts. The columns that are copied from the identity of the run are left out. -/
structure StepAttempt where
  stepRunId : EvaluationStepRunId
  attempt : Nat
  state : EvaluationStepRunState
  workerId : String
  leaseToken : Option (BitVec 128)
  leaseExpiresAt : Option UtcTimestamp
  cleanupVerified : Bool

structure EvaluationStore where
  releases : List EvaluationRelease
  frozenSubmissions : List (FrozenSubmissionId × CourseId)
  runs : List EvaluationRun
  attempts : List StepAttempt

def EvaluationStore.empty : EvaluationStore where
  releases := []
  frozenSubmissions := []
  runs := []
  attempts := []

-- Requests And Checks

structure PublishReleaseRequest where
  courseId : CourseId
  candidateId : CandidateId
  candidateRevision : Revision
  approvalId : ApprovalId
  approvalRevision : Revision
  evaluationSpec : EvaluationSpec
  runtimeIdentity : EvaluationRuntimeIdentity
  publishedBy : ActorId

structure WithdrawReleaseRequest where
  courseId : CourseId
  expectedRevision : Revision
  reasonCode : String

structure CreateRunRequest where
  courseId : CourseId
  releaseId : EvaluationReleaseId
  releaseRevision : Revision
  frozenSubmissionId : FrozenSubmissionId
  actorId : ActorId
  identity : EvaluationRunIdentity

structure RunMutationRequest where
  courseId : CourseId
  expectedRevision : Revision

structure ClaimRequest where
  workerId : String
  leaseMilliseconds : Nat
  leaseToken : BitVec 128

structure CompleteStepRequest where
  courseId : CourseId
  runId : EvaluationRunId
  stepRunId : EvaluationStepRunId
  attempt : Nat
  (workerId workerSanUri : String)
  runtimeIdentity : EvaluationRuntimeIdentity
  leaseToken : BitVec 128
  completion : EvaluationStepCompletion

namespace EvaluationStore

def validateTrace (traceId : String) : Except EvaluationControlStoreError Unit :=
  ensure (tokenWithin 128 traceId) .contractInvalid

variable (workerId : String)

def validateWorkerId : Except EvaluationControlStoreError Unit :=
  ensure (trimIsEmpty workerId = false ∧ workerId.utf8ByteSize ≤ 96 ∧ tokenText workerId = true)
    .workerIdentityInvalid

def validateWorker (leaseMilliseconds : Nat) : Except EvaluationControlStoreError Unit := do
  validateWorkerId workerId
  ensure (30000 ≤ leaseMilliseconds ∧ leaseMilliseconds ≤ 1800000) .workerIdentityInvalid

def workerServiceSan : String :=
  "spiffe://labweaver/evaluation-worker/" ++ workerId

def validateWorkerSan (workerId workerSanUri : String) :
    Except EvaluationControlStoreError Unit := do
  validateWorkerId workerId
  ensure (workerServiceSan workerId = workerSanUri) .workerIdentityInvalid

-- Reading

variable (store : EvaluationStore) (releaseId : EvaluationReleaseId)

def loadRelease : Except EvaluationControlStoreError EvaluationRelease := do
  let release ← require (Rows.lookup (·.id) store.releases releaseId) .releaseNotFound
  release.validate.mapError .contract
  .ok release

def loadRun (runId : EvaluationRunId) : Except EvaluationControlStoreError EvaluationRun := do
  let run ← require (Rows.lookup (·.id) store.runs runId) .runNotFound
  run.validate.mapError .contract
  .ok run

def stepRows : List EvaluationStepRun := store.runs.flatMap (·.steps)

variable (run : EvaluationRun)

/- The step row with the identifier, which has to belong to the run. -/
def loadStep (stepRunId : EvaluationStepRunId) :
    Except EvaluationControlStoreError EvaluationStepRun :=
  match Rows.lookup (·.id) run.steps stepRunId with
  | some step => do
      (step.validate step.runId).mapError .contract
      .ok step
  | none =>
    if stepRunId ∈ store.stepRows.map (·.id) then .error .identityMismatch else .error .stepNotFound

/- Put a run in the place of its old version. -/
def saveRun : EvaluationStore :=
  { store with runs := Rows.replace (·.id) store.runs run }

-- Releases

def publishRelease (request : PublishReleaseRequest)
    (releaseId : EvaluationReleaseId) (now : UtcTimestamp) (traceId : String) :
    Except EvaluationControlStoreError EvaluationStore := do
  request.evaluationSpec.validate.mapError (fun _ => .contractInvalid)
  request.runtimeIdentity.validate.mapError (fun _ => .contractInvalid)
  validateTrace traceId
  let release : EvaluationRelease :=
    { schemaVersion := evaluationReleaseSchemaVersion, id := releaseId,
      courseId := request.courseId, candidateId := request.candidateId,
      candidateRevision := request.candidateRevision, approvalId := request.approvalId,
      approvalRevision := request.approvalRevision, evaluationSpec := request.evaluationSpec,
      runtimeIdentity := request.runtimeIdentity, state := .active, revision := .one,
      publishedBy := request.publishedBy, publishedAt := now, withdrawnAt := none,
      withdrawalDiagnosticCode := none }
  ensure (request.candidateRevision.get ≤ maxI64 ∧ request.approvalRevision.get ≤ maxI64)
    .contractInvalid
  -- the primary key and the unique columns
  ensure (∀ other ∈ store.releases, other.id ≠ releaseId ∧ (other.courseId, other.candidateId,
    other.approvalId) ≠
    (request.courseId, request.candidateId, request.approvalId))
    .identityMismatch
  .ok { store with releases := release :: store.releases }

def withdrawRelease (request : WithdrawReleaseRequest) (now : UtcTimestamp) (traceId : String) :
    Except EvaluationControlStoreError EvaluationStore := do
  validateTrace traceId
  let release ← store.loadRelease releaseId
  ensure (release.courseId = request.courseId) .courseMismatch
  ensure (release.revision = request.expectedRevision) .revisionConflict
  ensure (release.state = .active) .stateConflict
  let revision ← nextRevision release.revision
  let withdrawn :=
    { release with
      state := .withdrawn, revision, withdrawnAt := some now,
      withdrawalDiagnosticCode := some request.reasonCode }
  withdrawn.validate.mapError .contract
  ensure (withdrawn.revision.get ≤ maxI64) .contractInvalid
  .ok { store with releases := Rows.replace (·.id) store.releases withdrawn }

-- New Runs

def newRun (release : EvaluationRelease) (request : CreateRunRequest) (runId : EvaluationRunId)
    (steps : List EvaluationStepRun) (now : UtcTimestamp) : EvaluationRun where
  schemaVersion := evaluationRunSchemaVersion
  id := runId
  courseId := request.courseId
  releaseId := release.id
  releaseRevision := release.revision
  frozenSubmissionId := request.frozenSubmissionId
  actorId := request.actorId
  state := .queued
  revision := .one
  identity := request.identity
  maxScore := release.evaluationSpec.body.aggregation.maxScore
  awardedScore := 0
  steps := steps
  diagnosticCode := none
  cancellationRequested := false
  cleanupVerified := false
  createdAt := now
  updatedAt := now
  completedAt := none

/- The checks of `save_new_step` before its statement. -/
def storableNewStep (step : EvaluationStepRun) : Except EvaluationControlStoreError Unit := do
  (step.validate step.runId).mapError .contract
  ensure (step.position ≤ maxI32) .contractInvalid
  ensure (step.revision.get ≤ maxI64) .contractInvalid
  ensure (step.maxScore ≤ maxI32) .scoreInvalid

def createRun (request : CreateRunRequest) (runId : EvaluationRunId)
    (newId : Nat → EvaluationStepRunId) (now : UtcTimestamp) (traceId : String) :
    Except EvaluationControlStoreError EvaluationStore := do
  request.identity.validate.mapError (fun _ => .contractInvalid)
  validateTrace traceId
  ensure (request.identity.traceId = traceId) .identityMismatch
  let release ← store.loadRelease request.releaseId
  ensure (release.state = .active) .releaseWithdrawn
  ensure (release.courseId = request.courseId ∧ release.revision = request.releaseRevision)
    .identityMismatch
  ensure (release.runtimeIdentity = request.identity.runtimeIdentity) .identityMismatch
  let frozen ← require (Rows.lookup Prod.fst store.frozenSubmissions request.frozenSubmissionId)
      .frozenSubmissionNotFound
  ensure (frozen.2 = request.courseId) .identityMismatch
  let steps ← stepRunsFor newId runId 0 release.evaluationSpec.body.steps
  let run := newRun release request runId steps now
  run.validate.mapError .contract
  ensure (run.releaseRevision.get ≤ maxI64) .contractInvalid
  ensure (run.maxScore ≤ maxI32) .scoreInvalid
  -- the primary keys of the run and of its step rows
  ensure (runId ∉ store.runs.map (·.id)) .identityMismatch
  each storableNewStep steps
  ensure (∀ step ∈ steps, step.id ∉ store.stepRows.map (·.id)) .database
  .ok { store with runs := run :: store.runs }

end EvaluationStore

-- Changes Of Rows

namespace EvaluationStepRun

variable (step : EvaluationStepRun)

def started (attempt : Nat) (revision : Revision) (now : UtcTimestamp) : EvaluationStepRun :=
  { step with
    state := .running, revision, currentAttempt := attempt, awardedScore := none,
    diagnosticCode := none, cleanupVerified := false, startedAt := some now, completedAt := none }

def concluded (completion : EvaluationStepCompletion)
    (revision : Revision) (now : UtcTimestamp) : EvaluationStepRun :=
  { step with
    state := completion.state, revision, awardedScore := completion.awardedScore,
    diagnosticCode := completion.diagnosticCode, cleanupVerified := completion.cleanupVerified,
    completedAt := some now }

variable (revision : Revision)

def expired (now : UtcTimestamp) : EvaluationStepRun :=
  { step with
    state := .failed, revision, diagnosticCode := some stepLeaseExpiredCode,
    cleanupVerified := false, completedAt := some now }

/- The row of a failed step that is to be tried again. -/
def retried : EvaluationStepRun :=
  { step with
    state := .retryable, revision, awardedScore := none, diagnosticCode := none,
    startedAt := none, completedAt := none }

def cleaned : EvaluationStepRun :=
  { step with cleanupVerified := true, revision }

end EvaluationStepRun

namespace EvaluationRun

variable (run : EvaluationRun) (revision : Revision) (now : UtcTimestamp)

def revised : EvaluationRun :=
  { run with revision, updatedAt := now }

/- The run before a refresh after one of its steps was started. -/
def claimed : EvaluationRun :=
  { run.revised revision now with state := if run.state = .queued then .running else run.state }

/- The run before a refresh after its cancellation. -/
def cancelRequested : EvaluationRun :=
  let cancelled := { run.revised revision now with cancellationRequested := true }
  if run.steps.any (fun step => decide (step.state = .running)) = true then
    { cancelled with state := .cancelling }
  else
    { cancelled with
      state := .cancelled, diagnosticCode := some evaluationCancelledCode, cleanupVerified := true,
      completedAt := some now }

/- The run before a refresh after a retry. -/
def reopened : EvaluationRun :=
  { run.revised revision now with
    state := .running, cancellationRequested := false, diagnosticCode := none, completedAt := none,
    cleanupVerified := false }

end EvaluationRun

-- Starting Steps

/- The query of `claim_next_step` admits the step. -/
def EvaluationRun.eligible (run : EvaluationRun) (step : EvaluationStepRun) : Bool :=
  (decide (run.state = .queued) ||
    decide (run.state = .running)) &&
    !run.cancellationRequested &&
    step.state.waiting &&
    (decide (step.state = .pending) || step.cleanupVerified) &&
    !run.steps.any (fun dependency =>
      decide (dependency.stepId ∈ step.dependsOn) && !dependency.allowsSuccessors)

namespace EvaluationStore

variable (store : EvaluationStore) (runId : EvaluationRunId) (stepRunId : EvaluationStepRunId)

/- `claim_next_step` for a step that its query admits. Which one it takes depends on the order of
  the rows and on locks. -/
def claimStep (request : ClaimRequest) (now : UtcTimestamp) :
    Except EvaluationControlStoreError EvaluationStore := do
  validateWorker request.workerId request.leaseMilliseconds
  let run ← store.loadRun runId
  let step ← store.loadStep run stepRunId
  ensure (run.eligible step = true) .stateConflict
  let attempt ← require (checkedAdd maxU32 step.currentAttempt 1) .attemptOverflow
  let revision ← nextRevision step.revision
  let rows ← saveStep run.steps (step.started attempt revision now)
  ensure (attempt ≤ maxI32) .attemptOverflow
  -- the primary key of the attempts
  ensure ((stepRunId, attempt) ∉ store.attempts.map (fun a => (a.stepRunId, a.attempt))) .database
  let runRevision ← nextRevision run.revision
  let started ← refreshRun (run.claimed runRevision now) rows now
  let row : StepAttempt :=
    { stepRunId, attempt, state := .running, workerId := request.workerId,
      leaseToken := some request.leaseToken,
      leaseExpiresAt := some (now + request.leaseMilliseconds), cleanupVerified := false }
  .ok { store.saveRun started with attempts := row :: store.attempts }

-- Completing Steps

variable (request : CompleteStepRequest) (now : UtcTimestamp) (attempt : StepAttempt)

/- The attempt that the worker holds the lease of. -/
def ownedAttempt : Bool :=
  decide (attempt.stepRunId = request.stepRunId) &&
    decide (attempt.attempt = request.attempt) &&
    decide (attempt.workerId = request.workerId) &&
    decide (attempt.leaseToken = some request.leaseToken) &&
    decide (attempt.state = .running) &&
    attempt.leaseExpiresAt.any (fun limit => now < limit)

def concludedAttempt (state : EvaluationStepRunState) (cleanupVerified : Bool)
    (attempt : StepAttempt) : StepAttempt :=
  { attempt with state, leaseToken := none, leaseExpiresAt := none, cleanupVerified }

/- The rows after a step ended: its successors are skipped if its failure stops them. -/
def afterEnd (rows : List EvaluationStepRun) (step : EvaluationStepRun) (now : UtcTimestamp) :
    Except EvaluationControlStoreError (List EvaluationStepRun) := do
  let rows ← saveStep rows step
  if step.stopsSuccessors = true then skipDependencySuccessors rows step.stepId now else .ok rows

def completeStep (traceId : String) (now : UtcTimestamp) :
    Except EvaluationControlStoreError EvaluationStore := do
  validateWorkerSan request.workerId request.workerSanUri
  validateTrace traceId
  ensure (request.attempt ≠ 0) .contractInvalid
  let run ← store.loadRun request.runId
  ensure (run.courseId = request.courseId) .courseMismatch
  request.runtimeIdentity.validate.mapError .contract
  ensure (request.runtimeIdentity = run.identity.runtimeIdentity) .identityMismatch
  let step ← store.loadStep run request.stepRunId
  ensure (step.currentAttempt = request.attempt) .identityMismatch
  let completion := request.completion
  (completion.validate step.role step.maxScore).mapError .contract
  ensure (request.attempt ≤ maxI32) .attemptOverflow
  ensure (store.attempts.any (ownedAttempt request now) = true) .leaseLost
  let attempts := store.attempts.map (fun attempt =>
    if ownedAttempt request now attempt then
      concludedAttempt completion.state completion.cleanupVerified attempt
    else attempt)
  let revision ← nextRevision step.revision
  let rows ← afterEnd run.steps (step.concluded completion revision now) now
  let runRevision ← nextRevision run.revision
  let updated ← refreshRun (run.revised runRevision now) rows now
  .ok { store.saveRun updated with attempts }

-- Expired Attempts

def expiredAttempt : Bool :=
  decide (attempt.state = .running) && attempt.leaseExpiresAt.any (fun limit => limit ≤ now)

def runOfStep : Option EvaluationRun :=
  store.runs.find? (fun run => decide (stepRunId ∈ run.steps.map (·.id)))

/- Fail one expired attempt. The run is brought up to date when all attempts have failed, so that
  only its step rows change here. -/
def failAttempt (store : EvaluationStore) (key : EvaluationStepRunId × Nat) :
    Except EvaluationControlStoreError EvaluationStore := do
  let run ← require (store.runOfStep key.1) .stepNotFound
  let step ← store.loadStep run key.1
  let attempts := store.attempts.map (fun attempt =>
    if (attempt.stepRunId, attempt.attempt) = key ∧ attempt.state = .running then
      concludedAttempt .failed false attempt
    else attempt)
  let revision ← nextRevision step.revision
  let rows ← afterEnd run.steps (step.expired revision now) now
  .ok { store.saveRun { run with steps := rows } with attempts }

/- Bring a run up to date whose attempts have failed: the contract is the one of the store before,
  the step rows are those of the store after. -/
def refreshAffected (before : EvaluationStore) (now : UtcTimestamp) (store : EvaluationStore)
    (runId : EvaluationRunId) :
    Except EvaluationControlStoreError EvaluationStore := do
  let run ← before.loadRun runId
  let current ← require (Rows.lookup (·.id) store.runs runId) .runNotFound
  let revision ← nextRevision run.revision
  let updated ← refreshRun { run with revision } current.steps now
  .ok (store.saveRun updated)

/- The runs of the chosen attempts, each once. -/
def affectedRuns (chosen : List (EvaluationStepRunId × Nat)) : List EvaluationRunId :=
  (chosen.filterMap (fun key => (store.runOfStep key.1).map (·.id))).eraseDups

/- `recover_expired_step_attempts` for the attempts that its query returns, which depend on the
  order of the rows and on locks. -/
def recoverExpired (limit : Nat) (chosen : List (EvaluationStepRunId × Nat)) (now : UtcTimestamp) :
    Except EvaluationControlStoreError EvaluationStore := do
  ensure (1 ≤ limit ∧ limit ≤ 64) .contractInvalid
  ensure (chosen.length ≤ limit ∧ chosen.Nodup ∧ ∀ key ∈ chosen, store.attempts.any (fun attempt =>
    decide ((attempt.stepRunId, attempt.attempt) = key) && expiredAttempt now attempt) = true)
    .stateConflict
  let failed ← chosen.foldlM (failAttempt now) store
  (store.affectedRuns chosen).foldlM (refreshAffected store now) failed

-- Mutations

variable (request : RunMutationRequest)

/- The run of a mutation, under its revision. -/
def mutableRun (traceId : String) : Except EvaluationControlStoreError EvaluationRun := do
  validateTrace traceId
  let run ← store.loadRun runId
  ensure (run.courseId = request.courseId ∧ run.revision = request.expectedRevision) .stateConflict
  .ok run

variable (now : UtcTimestamp) (traceId : String)

def requestCancellation : Except EvaluationControlStoreError EvaluationStore := do
  let run ← store.mutableRun runId request traceId
  ensure (run.state.result? = none) .stateConflict
  let revision ← nextRevision run.revision
  let rows ← cancelUnstartedSteps now run.steps
  let updated ← refreshRun (run.cancelRequested revision now) rows now
  .ok (store.saveRun updated)

def mutableStep (run : EvaluationRun) (stepRunId : EvaluationStepRunId) :
    Except EvaluationControlStoreError EvaluationStepRun :=
  require (Rows.lookup (·.id) run.steps stepRunId) .stepNotFound

def retryStep : Except EvaluationControlStoreError EvaluationStore := do
  let run ← store.mutableRun runId request traceId
  let step ← mutableStep run stepRunId
  ensure (run.cancellationRequested = false ∧ step.state = .failed ∧ step.cleanupVerified = true)
    .stateConflict
  let revision ← nextRevision step.revision
  let rows ← saveStep run.steps (step.retried revision)
  let rows ← restoreDependencySkippedSuccessors rows step.stepId
  let runRevision ← nextRevision run.revision
  let updated ← refreshRun (run.reopened runRevision now) rows now
  .ok (store.saveRun updated)

def uncleanedAttempt (step : EvaluationStepRun) (attempt : StepAttempt) : Bool :=
  decide (attempt.stepRunId = step.id) &&
    decide (attempt.attempt = step.currentAttempt) &&
    attempt.state.unsuccessful &&
    !attempt.cleanupVerified

def verifyStepCleanup : Except EvaluationControlStoreError EvaluationStore := do
  let run ← store.mutableRun runId request traceId
  let step ← mutableStep run stepRunId
  ensure (step.state.unsuccessful = true ∧ step.cleanupVerified = false) .stateConflict
  let revision ← nextRevision step.revision
  ensure (step.currentAttempt ≤ maxI32) .attemptOverflow
  ensure (store.attempts.any (uncleanedAttempt step) = true) .stateConflict
  let attempts := store.attempts.map (fun attempt =>
    if uncleanedAttempt step attempt then { attempt with cleanupVerified := true } else attempt)
  let rows ← saveStep run.steps (step.cleaned revision)
  let runRevision ← nextRevision run.revision
  let updated ← refreshRun (run.revised runRevision now) rows now
  .ok { store.saveRun updated with attempts }

end EvaluationStore

-- The Machine

inductive EvaluationOperation where
| publishRelease (request : PublishReleaseRequest) (releaseId : EvaluationReleaseId)
    (now : UtcTimestamp) (traceId : String)
| withdrawRelease (releaseId : EvaluationReleaseId) (request : WithdrawReleaseRequest)
    (now : UtcTimestamp) (traceId : String)
| freezeSubmission (frozenSubmissionId : FrozenSubmissionId) (courseId : CourseId)
| createRun (request : CreateRunRequest) (runId : EvaluationRunId)
    (newId : Nat → EvaluationStepRunId) (now : UtcTimestamp) (traceId : String)
| claimNextStep (runId : EvaluationRunId) (stepRunId : EvaluationStepRunId)
    (request : ClaimRequest) (now : UtcTimestamp)
| completeStep (request : CompleteStepRequest) (traceId : String) (now : UtcTimestamp)
| recoverExpiredStepAttempts (limit : Nat) (chosen : List (EvaluationStepRunId × Nat))
    (now : UtcTimestamp)
| requestCancellation (runId : EvaluationRunId) (request : RunMutationRequest)
    (now : UtcTimestamp) (traceId : String)
| retryStep (runId : EvaluationRunId) (stepRunId : EvaluationStepRunId)
    (request : RunMutationRequest) (now : UtcTimestamp) (traceId : String)
| verifyStepCleanup (runId : EvaluationRunId) (stepRunId : EvaluationStepRunId)
    (request : RunMutationRequest) (now : UtcTimestamp) (traceId : String)

namespace EvaluationStore

/- One operation. A failure rolls its transaction back. -/
def perform (store : EvaluationStore) : EvaluationOperation →
    Except EvaluationControlStoreError EvaluationStore
| .publishRelease request releaseId now traceId =>
  store.publishRelease request releaseId now traceId
| .withdrawRelease releaseId request now traceId =>
  store.withdrawRelease releaseId request now traceId
| .freezeSubmission frozenSubmissionId courseId =>
  .ok { store with frozenSubmissions := (frozenSubmissionId, courseId) :: store.frozenSubmissions }
| .createRun request runId newId now traceId => store.createRun request runId newId now traceId
| .claimNextStep runId stepRunId request now => store.claimStep runId stepRunId request now
| .completeStep request traceId now => store.completeStep request traceId now
| .recoverExpiredStepAttempts limit chosen now => store.recoverExpired limit chosen now
| .requestCancellation runId request now traceId =>
  store.requestCancellation runId request now traceId
| .retryStep runId stepRunId request now traceId =>
  store.retryStep runId stepRunId request now traceId
| .verifyStepCleanup runId stepRunId request now traceId =>
  store.verifyStepCleanup runId stepRunId request now traceId

end EvaluationStore

def evaluationMachine : Machine EvaluationStore EvaluationOperation where
  init store := store = .empty
  step store operation := (store.perform operation).toOption

end LabWeaver
