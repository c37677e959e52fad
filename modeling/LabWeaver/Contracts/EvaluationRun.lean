import LabWeaver.Contracts.EvaluationSpec
import LabWeaver.Contracts.SupplyChain

/-
  This file models the contracts of the evaluation control plane: releases, runs with their step
  runs, the completion that a worker reports, and the result that a student sees.
-/

namespace LabWeaver

open Outcome

inductive EvaluationControlContractError where
| schemaVersionInvalid
| specInvalid
| runtimeIdentityInvalid
| identityMismatch
| scoreInvalid
| terminalStateInvalid
deriving DecidableEq

abbrev ContractCheck := Except EvaluationControlContractError Unit

def evaluationReleaseSchemaVersion : String := "evaluation.labweaver.io/evaluation-release/v1"

def evaluationRunSchemaVersion : String := "evaluation.labweaver.io/evaluation-run/v1"

-- Identities

/- A text that is not blank, of at most `limit` bytes and without control characters. -/
def tokenWithin (limit : Nat) (value : String) : Prop :=
  trimIsEmpty value = false ∧ value.utf8ByteSize ≤ limit ∧ anyControl value = false
deriving Decidable

def validateToken (limit : Nat) (value : String) : ContractCheck :=
  ensure (tokenWithin limit value) .identityMismatch

/- The text `@sha256:`. -/
def imageDigestSeparator : List Char := '@' :: ociDigestScheme

/- A digest contains no `@`, so that the last separator of a text that ends in one is the one before
  it. -/
def isDigestPinnedImage (value : String) : Bool :=
  let chars := value.toList
  let name := chars.take (chars.length - 72)
  let digest := chars.drop (chars.length - 64)
  72 ≤ chars.length && (chars.drop (chars.length - 72)).take 8 == imageDigestSeparator &&
    !name.all isWhiteSpace &&
    !name.any isWhiteSpace &&
    digest.all lowerHexDigit

structure EvaluationRuntimeIdentity where
  (providerBinding runnerImage : String)
deriving DecidableEq

def EvaluationRuntimeIdentity.validate (identity : EvaluationRuntimeIdentity) :
    ContractCheck := do
  validateToken 128 identity.providerBinding
  ensure (isDigestPinnedImage identity.runnerImage = true) .runtimeIdentityInvalid

structure EvaluationRunIdentity where
  runtimeIdentity : EvaluationRuntimeIdentity
  traceId : String
deriving DecidableEq

def EvaluationRunIdentity.validate (identity : EvaluationRunIdentity) :
    ContractCheck := do
  identity.runtimeIdentity.validate
  validateToken 128 identity.traceId

-- Releases

inductive EvaluationReleaseState where
| active
| withdrawn
deriving DecidableEq

structure EvaluationRelease where
  schemaVersion : String
  id : EvaluationReleaseId
  courseId : CourseId
  candidateId : CandidateId
  candidateRevision : Revision
  approvalId : ApprovalId
  approvalRevision : Revision
  evaluationSpec : EvaluationSpec
  runtimeIdentity : EvaluationRuntimeIdentity
  state : EvaluationReleaseState
  revision : Revision
  publishedBy : ActorId
  publishedAt : UtcTimestamp
  withdrawnAt : Option UtcTimestamp
  withdrawalDiagnosticCode : Option String

namespace EvaluationRelease

variable (release : EvaluationRelease)

/- The record of the withdrawal fits the state. -/
def StateShaped : Prop :=
  match release.state with
  | .active => release.withdrawnAt = none ∧ release.withdrawalDiagnosticCode = none
  | .withdrawn => release.withdrawnAt.isSome = true ∧ release.withdrawalDiagnosticCode.isSome = true

instance StateShaped.decidable : Decidable release.StateShaped :=
  match hState : release.state with
  | .active =>
    decidable_of_iff (release.withdrawnAt = none ∧ release.withdrawalDiagnosticCode = none)
      (by rw [StateShaped, hState])
  | .withdrawn =>
    decidable_of_iff (release.withdrawnAt.isSome = true ∧
      release.withdrawalDiagnosticCode.isSome = true)
      (by rw [StateShaped, hState])

def validate : ContractCheck := do
  ensure (release.schemaVersion = evaluationReleaseSchemaVersion) .schemaVersionInvalid
  release.evaluationSpec.validate.mapError (fun _ => .specInvalid)
  release.runtimeIdentity.validate
  ensure release.StateShaped .terminalStateInvalid

end EvaluationRelease

-- Step Runs

inductive EvaluationStepRole where
| gate
| score
| advisory
deriving DecidableEq

inductive EvaluationStepRunState where
| pending
| running
| retryable
| succeeded
| failed
| cancelled
| skipped
deriving DecidableEq

structure EvaluationStepRun where
  id : EvaluationStepRunId
  runId : EvaluationRunId
  stepId : String
  position : Nat
  role : EvaluationStepRole
  failurePolicy : EvaluationStepFailurePolicy
  dependsOn : List String
  state : EvaluationStepRunState
  revision : Revision
  (currentAttempt maxScore : Nat)
  awardedScore : Option Nat
  diagnosticCode : Option String
  cleanupVerified : Bool
  (startedAt completedAt : Option UtcTimestamp)
deriving DecidableEq

namespace EvaluationStepRun

def policyAllowed : EvaluationStepRole → EvaluationStepFailurePolicy → Bool
| .gate, .stop => true
| .score, .stop => true
| .score, .continue => true
| .advisory, .continueAdvisory => true
| _, _ => false

def scoreGiven (role : EvaluationStepRole) (awardedScore : Option Nat) : Bool :=
  if role = .score then awardedScore.isSome else awardedScore.isNone

variable (step : EvaluationStepRun)

/- The record of the outcome fits the state. -/
def stateShaped : Bool :=
  match step.state with
  | .pending | .retryable | .running => step.completedAt.isNone
  | .succeeded =>
    step.completedAt.isSome && step.diagnosticCode.isNone && step.cleanupVerified &&
      scoreGiven step.role step.awardedScore
  | .failed | .cancelled | .skipped =>
    step.completedAt.isSome && step.diagnosticCode.isSome && step.awardedScore.isNone

variable (runId : EvaluationRunId)

def validate : ContractCheck := do
  ensure (step.runId = runId ∧ tokenWithin 96 step.stepId ∧ step.position ≠ 0) .identityMismatch
  each (validateToken 96) step.dependsOn
  ensure (step.role ≠ .score → step.maxScore = 0) .scoreInvalid
  ensure (policyAllowed step.role step.failurePolicy = true) .terminalStateInvalid
  ensure ((∀ score ∈ step.awardedScore, score ≤ step.maxScore) ∧
    (step.role ≠ .score → step.awardedScore = none))
    .scoreInvalid
  ensure (step.stateShaped = true) .terminalStateInvalid

/- The conditions that `validate` checks. -/
structure Valid : Prop where
  run : step.runId = runId
  named : tokenWithin 96 step.stepId
  placed : step.position ≠ 0
  dependencies : ∀ dependency ∈ step.dependsOn, tokenWithin 96 dependency
  unscored : step.role ≠ .score → step.maxScore = 0
  policy : policyAllowed step.role step.failurePolicy = true
  awarded : ∀ score ∈ step.awardedScore, score ≤ step.maxScore
  unawarded : step.role ≠ .score → step.awardedScore = none
  shaped : step.stateShaped = true

theorem validate_eq_ok {step : EvaluationStepRun} {runId : EvaluationRunId} :
    step.validate runId = .ok () ↔ step.Valid runId := by
  simp only [validate, check_bind_eq_ok, ensure_eq_ok, each_eq_ok, validateToken]
  constructor
  · rintro ⟨⟨hRun, hNamed, hPlaced⟩, hTokens, hUnscored, hPolicy, ⟨hAwarded, hUnawarded⟩, hShaped⟩
    exact ⟨hRun, hNamed, hPlaced, hTokens, hUnscored, hPolicy, hAwarded, hUnawarded, hShaped⟩
  · intro h
    exact ⟨⟨h.run, h.named, h.placed⟩, h.dependencies,
      h.unscored, h.policy, ⟨h.awarded, h.unawarded⟩, h.shaped⟩

end EvaluationStepRun

-- Runs

inductive EvaluationRunState where
| queued
| running
| cancelling
| succeeded
| failed
| cancelled
deriving DecidableEq

structure EvaluationRun where
  schemaVersion : String
  id : EvaluationRunId
  courseId : CourseId
  releaseId : EvaluationReleaseId
  releaseRevision : Revision
  frozenSubmissionId : FrozenSubmissionId
  actorId : ActorId
  state : EvaluationRunState
  revision : Revision
  identity : EvaluationRunIdentity
  (maxScore awardedScore : Nat)
  steps : List EvaluationStepRun
  diagnosticCode : Option String
  (cancellationRequested cleanupVerified : Bool)
  (createdAt updatedAt : UtcTimestamp)
  completedAt : Option UtcTimestamp
deriving DecidableEq

def scoreOf (value : EvaluationStepRun → Nat) (step : EvaluationStepRun) : Nat :=
  if step.role = .score then value step else 0

def maxScores (steps : List EvaluationStepRun) : List Nat := steps.map (scoreOf (·.maxScore))

def awardedScores (steps : List EvaluationStepRun) : List Nat :=
  steps.map (scoreOf (·.awardedScore.getD 0))

namespace EvaluationRun

/- The loop over the step runs, with the identifiers that were seen and the scores that were added
  up so far. -/
def validateStepRuns (runId : EvaluationRunId) :
    List String → List EvaluationStepRunId → Nat → Nat → List EvaluationStepRun →
      Except EvaluationControlContractError (Nat × Nat)
| _, _, summedMax, summedAwarded, [] => .ok (summedMax, summedAwarded)
| stepIds, stepRunIds, summedMax, summedAwarded, step :: rest => do
    step.validate runId
    ensure (step.stepId ∉ stepIds ∧ step.id ∉ stepRunIds) .identityMismatch
    let summedMax ← require (checkedAdd maxU32 summedMax (scoreOf (·.maxScore) step)) .scoreInvalid
    let summedAwarded ← require (checkedAdd maxU32 summedAwarded
          (scoreOf (·.awardedScore.getD 0) step))
        .scoreInvalid
    validateStepRuns runId (step.stepId :: stepIds)
      (step.id :: stepRunIds) summedMax summedAwarded rest

variable (run : EvaluationRun)

/- The record of the outcome fits the state. -/
def stateShaped : Bool :=
  match run.state with
  | .queued | .running | .cancelling => run.completedAt.isNone
  | .succeeded => run.completedAt.isSome && run.diagnosticCode.isNone && run.cleanupVerified
  | .failed | .cancelled =>
    run.diagnosticCode.isSome && (run.cleanupVerified == run.completedAt.isSome)

def validate : ContractCheck := do
  ensure (run.schemaVersion = evaluationRunSchemaVersion) .schemaVersionInvalid
  run.identity.validate
  ensure (run.awardedScore ≤ run.maxScore ∧ run.steps ≠ []) .scoreInvalid
  let (summedMax, summedAwarded) ← validateStepRuns run.id [] [] 0 0 run.steps
  ensure (summedMax = run.maxScore ∧ summedAwarded = run.awardedScore) .scoreInvalid
  ensure (run.stateShaped = true) .terminalStateInvalid

/- The conditions that `validate` checks. -/
structure Valid : Prop where
  schema : run.schemaVersion = evaluationRunSchemaVersion
  identified : run.identity.validate = .ok ()
  bounded : run.awardedScore ≤ run.maxScore
  nonempty : run.steps ≠ []
  steps : ∀ step ∈ run.steps, step.Valid run.id
  stepIds : (run.steps.map (·.stepId)).Nodup
  stepRunIds : (run.steps.map (·.id)).Nodup
  summedMax : total (maxScores run.steps) = run.maxScore
  summedAwarded : total (awardedScores run.steps) = run.awardedScore
  fits : run.maxScore ≤ maxU32
  shaped : run.stateShaped = true

/- What the loop over the step runs checks and returns. -/
theorem validateStepRuns_eq_ok {runId : EvaluationRunId} {stepIds : List String}
    {stepRunIds : List EvaluationStepRunId} {startMax startAwarded : Nat}
    {steps : List EvaluationStepRun} {sums : Nat × Nat} (hMax : startMax ≤ maxU32)
    (hAwarded : startAwarded ≤ maxU32) :
    validateStepRuns runId stepIds stepRunIds startMax startAwarded steps = .ok sums ↔
      (∀ step ∈ steps, step.Valid runId) ∧ Fresh (·.stepId) stepIds steps ∧
      Fresh (·.id) stepRunIds steps ∧ startMax + total (maxScores steps) ≤ maxU32 ∧
      startAwarded + total (awardedScores steps) ≤ maxU32 ∧
      sums = (startMax + total (maxScores steps), startAwarded + total (awardedScores steps)) := by
  induction steps generalizing stepIds stepRunIds startMax startAwarded with
  | nil =>
    simp only [validateStepRuns, Except.ok.injEq]
    constructor
    · rintro rfl
      exact ⟨List.forall_mem_nil _, fresh_nil _ _, fresh_nil _ _, hMax, hAwarded, rfl⟩
    · rintro ⟨_, _, _, _, _, rfl⟩
      rfl
  | cons step rest ih =>
    have hMaxCons : total (maxScores (step :: rest)) = scoreOf (·.maxScore) step +
        total (maxScores rest) :=
      rfl
    have hAwardedCons : total (awardedScores (step :: rest)) =
        scoreOf (·.awardedScore.getD 0) step + total (awardedScores rest) :=
      rfl
    simp only [validateStepRuns, check_bind_eq_ok, ensure_eq_ok, EvaluationStepRun.validate_eq_ok]
    simp only [steps_eq_ok, checkedAdd_eq_some, List.forall_mem_cons, fresh_cons, hMaxCons,
      hAwardedCons, ← Nat.add_assoc]
    constructor
    · rintro ⟨hValid, ⟨hStepId, hStepRunId⟩, _, ⟨hFits, rfl⟩, _, ⟨hFits', rfl⟩, hRest⟩
      rcases (ih hFits hFits').mp hRest with ⟨hSteps, hIds, hRunIds, hSums⟩
      exact ⟨⟨hValid, hSteps⟩, ⟨hStepId, hIds⟩, ⟨hStepRunId, hRunIds⟩, hSums⟩
    · rintro ⟨⟨hValid, hSteps⟩, ⟨hStepId, hIds⟩, ⟨hStepRunId, hRunIds⟩, hSumMax, hSumAwarded, hSums⟩
      have hFits : startMax + scoreOf (·.maxScore) step ≤ maxU32 :=
        Nat.le_trans (Nat.le_add_right _ _) hSumMax
      have hFits' : startAwarded + scoreOf (·.awardedScore.getD 0) step ≤ maxU32 :=
        Nat.le_trans (Nat.le_add_right _ _) hSumAwarded
      exact ⟨hValid, ⟨hStepId, hStepRunId⟩, _, ⟨hFits, rfl⟩, _, ⟨hFits', rfl⟩,
        (ih hFits hFits').mpr ⟨hSteps, hIds, hRunIds, hSumMax, hSumAwarded, hSums⟩⟩

theorem validate_eq_ok {run : EvaluationRun} : run.validate = .ok () ↔ run.Valid := by
  simp only [validate, check_bind_eq_ok, ensure_eq_ok]
  simp only [steps_eq_ok, Prod.exists]
  constructor
  · rintro ⟨hSchema, hIdentity, ⟨hBounded, hNonempty⟩, _, _, hLoop, ⟨hMax, hAwarded⟩, hShaped⟩
    rcases (validateStepRuns_eq_ok (Nat.zero_le _) (Nat.zero_le _)).mp hLoop with
      ⟨hSteps, hIds, hRunIds, hFits, _, hSums⟩
    simp only [Nat.zero_add, Prod.mk.injEq] at hFits hSums
    rcases hSums with ⟨rfl, rfl⟩
    exact ⟨hSchema, hIdentity, hBounded, hNonempty, hSteps,
      hIds.1, hRunIds.1, hMax, hAwarded, hMax ▸ hFits, hShaped⟩
  · intro h
    have hFits : total (maxScores run.steps) ≤ maxU32 := by
      rw [h.summedMax]
      exact h.fits
    have hFits' : total (awardedScores run.steps) ≤ maxU32 := by
      rw [h.summedAwarded]
      exact Nat.le_trans h.bounded h.fits
    refine ⟨h.schema, h.identified, ⟨h.bounded, h.nonempty⟩, total (maxScores run.steps),
      total (awardedScores run.steps), ?_, ⟨h.summedMax, h.summedAwarded⟩, h.shaped⟩
    refine (validateStepRuns_eq_ok (Nat.zero_le _) (Nat.zero_le _)).mpr ?_
    simp only [Nat.zero_add]
    exact ⟨h.steps, ⟨h.stepIds, fun _ _ => List.not_mem_nil⟩,
      ⟨h.stepRunIds, fun _ _ => List.not_mem_nil⟩, hFits, hFits', trivial⟩

end EvaluationRun

/- The terminal result that a worker reports for a step. -/
structure EvaluationStepCompletion where
  state : EvaluationStepRunState
  awardedScore : Option Nat
  diagnosticCode : Option String
  cleanupVerified : Bool

namespace EvaluationStepCompletion

variable (completion : EvaluationStepCompletion) (role : EvaluationStepRole)

def shaped (maxScore : Nat) : Bool :=
  match completion.state with
  | .succeeded =>
    completion.diagnosticCode.isNone && completion.cleanupVerified &&
      EvaluationStepRun.scoreGiven role completion.awardedScore &&
      completion.awardedScore.getD 0 ≤ maxScore
  | .failed | .cancelled => completion.diagnosticCode.isSome && completion.awardedScore.isNone
  | .pending | .running | .retryable | .skipped => false

def validate (maxScore : Nat) : ContractCheck :=
  ensure (completion.shaped role maxScore = true) .terminalStateInvalid

end EvaluationStepCompletion

-- Results

inductive StudentEvaluationResultState where
| succeeded
| failed
| cancelled
deriving DecidableEq

structure StudentEvaluationStepResult where
  position : Nat
  role : EvaluationStepRole
  state : EvaluationStepRunState
  maxScore : Nat
  awardedScore : Option Nat
  diagnosticCode : Option String
deriving DecidableEq

structure StudentEvaluationResult where
  runId : EvaluationRunId
  courseId : CourseId
  releaseId : EvaluationReleaseId
  frozenSubmissionId : FrozenSubmissionId
  state : StudentEvaluationResultState
  revision : Revision
  maxScore : Nat
  awardedScore : Option Nat
  steps : List StudentEvaluationStepResult
  diagnosticCode : Option String
  (createdAt updatedAt completedAt : UtcTimestamp)
deriving DecidableEq

/- `StudentEvaluationResultState::try_from`. -/
def EvaluationRunState.result? : EvaluationRunState → Option StudentEvaluationResultState
| .succeeded => some .succeeded
| .failed => some .failed
| .cancelled => some .cancelled
| .queued | .running | .cancelling => none

namespace StudentEvaluationResult

def fromTerminal (run : EvaluationRun) : Except EvaluationControlContractError
    StudentEvaluationResult := do
  run.validate
  let state ← require run.state.result? .terminalStateInvalid
  let completedAt ← require run.completedAt .terminalStateInvalid
  let shown := decide (run.state = .succeeded)
  .ok
    { runId := run.id, courseId := run.courseId, releaseId := run.releaseId
      frozenSubmissionId := run.frozenSubmissionId, state, revision := run.revision
      maxScore := run.maxScore
      awardedScore := if shown then some run.awardedScore else none
      steps := run.steps.map (fun step =>
        { position := step.position, role := step.role, state := step.state
          maxScore := step.maxScore
          awardedScore := if shown then step.awardedScore else none
          diagnosticCode := step.diagnosticCode })
      diagnosticCode := run.diagnosticCode, createdAt := run.createdAt, updatedAt := run.updatedAt
      completedAt }

/- A valid run has a result exactly when it has ended and its end is recorded. -/
theorem fromTerminal_isOk {run : EvaluationRun} (hValid : run.validate = .ok ()) :
    (∃ result, fromTerminal run = .ok result) ↔ run.state.result?.isSome = true ∧
      run.completedAt.isSome = true := by
  simp only [fromTerminal, check_bind_eq_ok, hValid, true_and]
  simp only [steps_eq_ok, Option.isSome_iff_exists]
  constructor
  · rintro ⟨_, state, hState, completedAt, hDone, _⟩
    exact ⟨⟨state, hState⟩, ⟨completedAt, hDone⟩⟩
  · rintro ⟨⟨state, hState⟩, ⟨completedAt, hDone⟩⟩
    exact ⟨_, state, hState, completedAt, hDone, rfl⟩

theorem runId_of_fromTerminal {run : EvaluationRun} {result : StudentEvaluationResult}
    (hResult : fromTerminal run = .ok result) : result.runId = run.id := by
  simp only [fromTerminal, bind_eq_ok] at hResult
  rcases hResult with ⟨_, _, _, _, _, _, hResult⟩
  cases hResult
  rfl

end StudentEvaluationResult

end LabWeaver
