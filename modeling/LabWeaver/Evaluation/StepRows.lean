import LabWeaver.Base.Propagation
import LabWeaver.Contracts.EvaluationRun

/-
  This file models what the control plane does to the step rows of one run: starting, completing,
  cancelling and retrying steps, skipping and restoring successors, and deriving the state of the
  run.

  Key definitions: `stepRunsFor`, `skipDependencySuccessors`.
-/

namespace LabWeaver

open Outcome

-- Errors

/- The failures of the control store that the modelled functions return. -/
inductive EvaluationControlStoreError where
| courseMismatch
| contractInvalid
| identityMismatch
| scoreInvalid
| releaseNotFound
| releaseWithdrawn
| runNotFound
| stepNotFound
| frozenSubmissionNotFound
| stateConflict
| revisionConflict
| leaseLost
| workerIdentityInvalid
| attemptOverflow
| database
| contract (error : EvaluationControlContractError)
deriving DecidableEq

def dependencyFailedCode : String := "LW_EVALUATION_DEPENDENCY_FAILED"

def evaluationCancelledCode : String := "LW_EVALUATION_CANCELLED"

def stepLeaseExpiredCode : String := "LW_EVALUATION_STEP_LEASE_EXPIRED"

-- States

namespace EvaluationStepRunState

/- Not started, or to be started again. -/
def waiting : EvaluationStepRunState → Bool
| .pending | .retryable => true
| .running | .succeeded | .failed | .cancelled | .skipped => false

/- The step may still change without a retry. -/
def nonTerminal : EvaluationStepRunState → Bool
| .pending | .running | .retryable => true
| .succeeded | .failed | .cancelled | .skipped => false

/- The step ended without success. -/
def unsuccessful : EvaluationStepRunState → Bool
| .failed | .cancelled => true
| .pending | .running | .retryable | .succeeded | .skipped => false

end EvaluationStepRunState

namespace EvaluationStepRun

variable (step : EvaluationStepRun)

/- `failure_stops_dependency_successors`. -/
def stopsSuccessors : Bool :=
  step.state.unsuccessful &&
    decide (step.failurePolicy = .stop)

/- `failure_breaks_run`. -/
def breaksRun (cancellationRequested : Bool) (step : EvaluationStepRun) : Bool :=
  decide (step.failurePolicy = .stop) && (decide (step.state = .failed) ||
    (decide (step.state = .cancelled) && !cancellationRequested))

/- The dependency does not hold its successors back: the disjunction of the query of
  `claim_next_step`. -/
def allowsSuccessors : Bool :=
  decide (step.state = .succeeded) || (decide (step.role = .score) &&
    decide (step.failurePolicy = .continue) &&
    step.state.unsuccessful) ||
    (decide (step.role = .advisory) &&
      decide (step.failurePolicy = .continueAdvisory) &&
      step.state.unsuccessful)

end EvaluationStepRun

-- New Rows

def EvaluationStep.role : EvaluationStep → EvaluationStepRole
| .gate _ => .gate
| .score _ => .score
| .advisory _ => .advisory

def newStep (id : EvaluationStepRunId) (runId : EvaluationRunId) (position : Nat)
    (step : EvaluationStep) : EvaluationStepRun where
  id := id
  runId := runId
  stepId := step.id
  position := position
  role := step.role
  failurePolicy := step.failurePolicy
  dependsOn := step.dependencies
  state := .pending
  revision := .one
  currentAttempt := 0
  maxScore := step.score?.getD 0
  awardedScore := none
  diagnosticCode := none
  cleanupVerified := false
  startedAt := none
  completedAt := none

/- `step_runs_for` from the step with the index on. Every step gets an identifier of its own. -/
def stepRunsFor (newId : Nat → EvaluationStepRunId) (runId : EvaluationRunId) :
    Nat → List EvaluationStep → Except EvaluationControlStoreError (List EvaluationStepRun)
| _, [] => .ok []
| index, step :: rest => do
    let position ← require (checkedAdd maxU32 index 1) .contractInvalid
    let rows ← stepRunsFor newId runId (index + 1) rest
    .ok (newStep (newId index) runId position step :: rows)

-- Reading And Writing Rows

/- The rows of a run are validated as they are read. -/
def loadSteps (rows : List EvaluationStepRun) : Except EvaluationControlStoreError
    (List EvaluationStepRun) := do
  each (fun row => (row.validate row.runId).mapError .contract) rows
  .ok rows

/- The checks of `save_step` before its statement. -/
def storableStep (step : EvaluationStepRun) : Except EvaluationControlStoreError Unit := do
  (step.validate step.runId).mapError .contract
  ensure (∀ score ∈ step.awardedScore, score ≤ maxI32) .scoreInvalid
  ensure (step.revision.get ≤ maxI64) .contractInvalid
  ensure (step.currentAttempt ≤ maxI32) .attemptOverflow

def saveStep (rows : List EvaluationStepRun) (step : EvaluationStepRun) :
    Except EvaluationControlStoreError (List EvaluationStepRun) := do
  storableStep step
  ensure (step.id ∈ rows.map (·.id)) .stateConflict
  .ok (Rows.replace (·.id) rows step)

def nextRevision (revision : Revision) : Except EvaluationControlStoreError Revision :=
  require revision.next .contractInvalid

-- Skipping And Restoring

def skippedStep (now : UtcTimestamp) (step : EvaluationStepRun) :
    Except EvaluationControlStoreError EvaluationStepRun := do
  let revision ← nextRevision step.revision
  let skipped :=
    { step with
      state := .skipped, revision, awardedScore := none,
      diagnosticCode := some dependencyFailedCode, cleanupVerified := true,
      completedAt := some now }
  storableStep skipped
  .ok skipped

def skipReaction (now : UtcTimestamp) (step : EvaluationStepRun) : Option
    (Except EvaluationControlStoreError EvaluationStepRun) :=
  match step.state with
  | .pending | .retryable => some (skippedStep now step)
  | .skipped => if step.diagnosticCode = some dependencyFailedCode then some (.ok step) else none
  | .running | .succeeded | .failed | .cancelled => none

def restoredStep (step : EvaluationStepRun) :
    Except EvaluationControlStoreError EvaluationStepRun := do
  let revision ← nextRevision step.revision
  let restored :=
    { step with
      state := .pending, revision, awardedScore := none, diagnosticCode := none,
      cleanupVerified := false, startedAt := none, completedAt := none }
  storableStep restored
  .ok restored

def restoreReaction (step : EvaluationStepRun) : Option (Except EvaluationControlStoreError
    EvaluationStepRun) :=
  if step.state = .skipped ∧ step.diagnosticCode = some dependencyFailedCode then
    some (restoredStep step)
  else none

variable {now : UtcTimestamp} {step : EvaluationStepRun}

/- A row is rewritten under its next revision if the result can be stored. -/
theorem rewritten_eq_ok {rewrite : Revision → EvaluationStepRun} {written : EvaluationStepRun} :
    (do
      let revision ← nextRevision step.revision
      storableStep (rewrite revision)
      .ok (rewrite revision)) = .ok written ↔ ∃ revision, step.revision.next = some revision ∧
        storableStep written = .ok () ∧ written = rewrite revision := by
  simp only [nextRevision, steps_eq_ok]
  constructor
  · rintro ⟨revision, hNext, _, hStored, rfl⟩
    exact ⟨revision, hNext, hStored, rfl⟩
  · rintro ⟨revision, hNext, hStored, rfl⟩
    exact ⟨revision, hNext, (), hStored, rfl⟩

theorem skippedStep_eq_ok {skipped : EvaluationStepRun} :
    skippedStep now step = .ok skipped ↔ ∃ revision, step.revision.next = some revision ∧
      storableStep skipped = .ok () ∧ skipped =
        { step with
          state := .skipped, revision, awardedScore := none
          diagnosticCode := some dependencyFailedCode, cleanupVerified := true
          completedAt := some now } :=
  rewritten_eq_ok

theorem restoredStep_eq_ok {restored : EvaluationStepRun} : restoredStep step = .ok restored ↔
    ∃ revision, step.revision.next = some revision ∧ storableStep restored = .ok () ∧ restored =
      { step with
        state := .pending, revision, awardedScore := none, diagnosticCode := none
        cleanupVerified := false, startedAt := none
        completedAt := none } :=
  rewritten_eq_ok

variable {after : EvaluationStepRun}

theorem skipReaction_eq_ok (hReaction : skipReaction now step = some (.ok after)) :
    after.state = .skipped ∧ after.diagnosticCode = some dependencyFailedCode ∧
    (after = step ∨ step.state.waiting = true ∧ skippedStep now step = .ok after) := by
  unfold skipReaction at hReaction
  have hSkipped : skippedStep now step = .ok after → after.state = .skipped ∧
      after.diagnosticCode = some dependencyFailedCode := by
    intro hOk
    rcases skippedStep_eq_ok.mp hOk with ⟨_, _, _, rfl⟩
    exact ⟨rfl, rfl⟩
  cases hState : step.state with
  | pending | retryable =>
    simp only [hState, Option.some.injEq] at hReaction
    rcases hSkipped hReaction with ⟨hNow, hCode⟩
    exact ⟨hNow, hCode, .inr ⟨rfl, hReaction⟩⟩
  | skipped =>
    simp only [hState] at hReaction
    rcases Option.ite_none_right_eq_some.mp hReaction with ⟨hCode, ⟨⟩⟩
    exact ⟨hState, hCode, .inl rfl⟩
  | running | succeeded | failed | cancelled =>
    simp only [hState] at hReaction
    cases hReaction

theorem restoreReaction_eq_ok (hReaction : restoreReaction step = some (.ok after)) :
    step.state = .skipped ∧ step.diagnosticCode = some dependencyFailedCode ∧
    restoredStep step = .ok after := by
  unfold restoreReaction at hReaction
  split at hReaction
  · rename_i hSkipped
    exact ⟨hSkipped.1, hSkipped.2, Option.some.inj hReaction⟩
  · cases hReaction

/- The parts of a step row that never change. -/
structure StepDeclaration where
  id : EvaluationStepRunId
  runId : EvaluationRunId
  stepId : String
  position : Nat
  role : EvaluationStepRole
  failurePolicy : EvaluationStepFailurePolicy
  dependsOn : List String
  maxScore : Nat

open StepDeclaration

def EvaluationStepRun.declaration (step : EvaluationStepRun) : StepDeclaration where
  id := step.id
  runId := step.runId
  stepId := step.stepId
  position := step.position
  role := step.role
  failurePolicy := step.failurePolicy
  dependsOn := step.dependsOn
  maxScore := step.maxScore

theorem skipReaction_declaration (hReaction : skipReaction now step = some (.ok after)) :
    after.declaration = step.declaration := by
  rcases (skipReaction_eq_ok hReaction).2.2 with
    rfl | ⟨_, hSkipped⟩
  · rfl
  · rcases skippedStep_eq_ok.mp hSkipped with ⟨_, _, _, rfl⟩
    rfl

theorem restoreReaction_declaration (hReaction : restoreReaction step = some (.ok after)) :
    after.declaration = step.declaration := by
  have hRestored := (restoreReaction_eq_ok hReaction).2.2
  rcases restoredStep_eq_ok.mp hRestored with ⟨_, _, _, rfl⟩
  rfl

def skipRule (now : UtcTimestamp) : Propagation.Rule EvaluationStepRun String
    EvaluationControlStoreError where
  key := (·.stepId)
  links := (·.dependsOn)
  act := skipReaction now
  key_act _ _ hReaction := congrArg stepId (skipReaction_declaration hReaction)
  links_act _ _ hReaction := congrArg dependsOn (skipReaction_declaration hReaction)
  act_act _ _ hReaction := by
    have hAfter := skipReaction_eq_ok hReaction
    refine .inr ?_
    simp only [skipReaction, hAfter.1, hAfter.2.1, if_true]

def restoreRule : Propagation.Rule EvaluationStepRun String EvaluationControlStoreError where
  key := (·.stepId)
  links := (·.dependsOn)
  act := restoreReaction
  key_act _ _ hReaction := congrArg stepId (restoreReaction_declaration hReaction)
  links_act _ _ hReaction := congrArg dependsOn (restoreReaction_declaration hReaction)
  act_act _ _ hReaction := by
    have hRestored := (restoreReaction_eq_ok hReaction).2.2
    rcases restoredStep_eq_ok.mp hRestored with ⟨_, _, _, rfl⟩
    refine .inl ?_
    simp [restoreReaction]

/- The passes end after at most one pass for each row and one more. -/
def skipDependencySuccessors (rows : List EvaluationStepRun) (failedStepId : String)
    (now : UtcTimestamp) :
    Except EvaluationControlStoreError (List EvaluationStepRun) := do
  let steps ← loadSteps rows
  let (_, steps) ← (skipRule now).spread (steps.length + 1) [failedStepId] steps
  .ok steps

def restoreDependencySkippedSuccessors (rows : List EvaluationStepRun) (retriedStepId : String) :
    Except EvaluationControlStoreError (List EvaluationStepRun) := do
  let steps ← loadSteps rows
  let (_, steps) ← restoreRule.spread (steps.length + 1) [retriedStepId] steps
  .ok steps

def cancelledStep (now : UtcTimestamp) (step : EvaluationStepRun) :
    Except EvaluationControlStoreError EvaluationStepRun :=
  if step.state.waiting = true then do
    let revision ← nextRevision step.revision
    let cancelled :=
      { step with
        state := .cancelled, revision, diagnosticCode := some evaluationCancelledCode,
        cleanupVerified := true, completedAt := some now }
    storableStep cancelled
    .ok cancelled
  else .ok step

def cancelUnstartedSteps (now : UtcTimestamp) : List EvaluationStepRun →
    Except EvaluationControlStoreError (List EvaluationStepRun)
| [] => .ok []
| step :: rest => do
    let step ← cancelledStep now step
    let rest ← cancelUnstartedSteps now rest
    .ok (step :: rest)

-- The State Of The Run

namespace EvaluationRun

variable (run : EvaluationRun)

def hasNonTerminal : Bool := run.steps.any (·.state.nonTerminal)

def stepsCleaned : Bool :=
  (run.steps.filter (fun step => decide (step.state ≠ .skipped))).all (·.cleanupVerified)

/- The state that `refresh_and_save_run` derives. The last case leaves the state as it was. -/
def derived (now : UtcTimestamp) : EvaluationRun :=
  match run.steps.find? (·.breaksRun run.cancellationRequested) with
  | some step =>
    if run.hasNonTerminal = true then
      { run with
        diagnosticCode := step.diagnosticCode
        state := if run.cancellationRequested = true then .cancelling else .running
        cleanupVerified := false, completedAt := none }
    else
      { run with
        diagnosticCode := step.diagnosticCode, state := .failed, cleanupVerified := run.stepsCleaned
        completedAt := if run.stepsCleaned = true then some now else none }
  | none =>
    if run.cancellationRequested = true ∧ run.hasNonTerminal = false then
      { run with
        state := .cancelled, diagnosticCode := some evaluationCancelledCode
        cleanupVerified := run.stepsCleaned
        completedAt := if run.stepsCleaned = true then some now else none }
    else if run.hasNonTerminal = false then
      if run.stepsCleaned = true then
        { run with
          state := .succeeded, diagnosticCode := none, cleanupVerified := true,
          completedAt := some now }
      else
        { run with
          state := .running, diagnosticCode := none, cleanupVerified := false, completedAt := none }
    else if run.cancellationRequested = true then
      { run with state := .cancelling, cleanupVerified := false, completedAt := none }
    else if run.steps.any (fun step => decide (step.state = .running)) = true then
      { run with
        state := .running, diagnosticCode := none, cleanupVerified := false, completedAt := none }
    else run

end EvaluationRun

/- The sum of the awarded scores, if it fits. -/
def awardedTotal (steps : List EvaluationStepRun) : Option Nat :=
  ((steps.filter (fun step => decide (step.role = .score))).map
    (·.awardedScore.getD 0)).foldlM (checkedAdd maxU32) 0

namespace EvaluationRun

variable (run : EvaluationRun)

def withSteps (steps : List EvaluationStepRun) (awardedScore : Nat) : EvaluationRun :=
  { run with steps, awardedScore }

def touched (now : UtcTimestamp) : EvaluationRun :=
  { run with updatedAt := now }

end EvaluationRun

/- `refresh_and_save_run` up to its events. -/
def refreshRun (run : EvaluationRun) (rows : List EvaluationStepRun) (now : UtcTimestamp) :
    Except EvaluationControlStoreError EvaluationRun := do
  let steps ← loadSteps rows
  let awardedScore ← require (awardedTotal steps) .scoreInvalid
  let updated := ((run.withSteps steps awardedScore).derived now).touched now
  updated.validate.mapError .contract
  ensure (updated.revision.get ≤ maxI64) .contractInvalid
  ensure (updated.awardedScore ≤ maxI32) .scoreInvalid
  .ok updated

end LabWeaver
