import LabWeaver.Evaluation.ControlPlane

/-
  This file shows which accepted specifications can be run: the step rows made for a
  specification, and when the run with these rows passes its validation and fits its columns.

  Main declaration: `accepted_spec_runnable`.
-/

namespace LabWeaver

open Outcome EvaluationStore List

-- The Rows Of A New Run

def newSteps (newId : Nat → EvaluationStepRunId) (runId : EvaluationRunId) :
    Nat → List EvaluationStep → List EvaluationStepRun
| _, [] => []
| index, step :: rest =>
  newStep (newId index) runId (index + 1) step :: newSteps newId runId (index + 1) rest

section

variable {newId : Nat → EvaluationStepRunId} {runId : EvaluationRunId} {index : Nat}
  {steps : List EvaluationStep}

/- The rows are made exactly if the positions fit. -/
theorem stepRunsFor_eq_ok {rows : List EvaluationStepRun} :
    stepRunsFor newId runId index steps = .ok rows ↔ (steps = [] ∨ index + steps.length ≤ maxU32) ∧
      rows = newSteps newId runId index steps := by
  induction steps generalizing index rows with
  | nil => simp only [stepRunsFor, newSteps, true_or, true_and, Except.ok.injEq, eq_comm]
  | cons step rest ih =>
    simp only [stepRunsFor, newSteps, steps_eq_ok, checkedAdd_eq_some, ih,
      length_cons, reduceCtorEq, false_or]
    constructor
    · rintro ⟨_, ⟨hFits, rfl⟩, _, ⟨hRest, rfl⟩, rfl⟩
      refine ⟨?_, rfl⟩
      rcases hRest with rfl | hRest
      · exact hFits
      · omega
    · rintro ⟨hFits, rfl⟩
      exact ⟨_, ⟨by omega, rfl⟩, _, ⟨.inr (by omega), rfl⟩, rfl⟩

theorem mem_newSteps {row : EvaluationStepRun} (hRow : row ∈ newSteps newId runId index steps) :
    ∃ step ∈ steps, ∃ i, row = newStep (newId i) runId (i + 1) step := by
  induction steps generalizing index with
  | nil => cases hRow
  | cons step rest ih =>
    rcases mem_cons.mp hRow with rfl | hRow
    · exact ⟨step, mem_cons_self, index, rfl⟩
    · rcases ih hRow with ⟨other, hOther, i, hEq⟩
      exact ⟨other, mem_cons_of_mem _ hOther, i, hEq⟩

theorem exists_newStep {step : EvaluationStep} (hStep : step ∈ steps) : ∃ i,
    newStep (newId i) runId (i + 1) step ∈ newSteps newId runId index steps := by
  induction steps generalizing index with
  | nil => cases hStep
  | cons other rest ih =>
    rcases mem_cons.mp hStep with rfl | hStep
    · exact ⟨index, mem_cons_self⟩
    · rcases ih hStep with ⟨i, hMember⟩
      exact ⟨i, mem_cons_of_mem _ hMember⟩

theorem newSteps_stepIds : (newSteps newId runId index steps).map (·.stepId) =
    steps.map (·.id) := by
  induction steps generalizing index with
  | nil => rfl
  | cons step rest ih =>
    rw [newSteps, map_cons, map_cons, ih]
    rfl

theorem newSteps_ids : (newSteps newId runId index steps).map (·.id) =
    (List.range' index steps.length).map newId := by
  induction steps generalizing index with
  | nil => rfl
  | cons step rest ih =>
    rw [newSteps, map_cons, ih, length_cons, range'_succ, map_cons]
    rfl

theorem newSteps_maxScores : maxScores (newSteps newId runId index steps) = stepScores steps := by
  induction steps generalizing index with
  | nil => rfl
  | cons step rest ih =>
    have hRest : maxScores (newSteps newId runId (index + 1) rest) = stepScores rest := ih
    simp only [maxScores, stepScores] at hRest ⊢
    rw [newSteps, map_cons, map_cons, hRest]
    -- a row can award what its step can
    cases step <;> rfl

theorem newSteps_awarded : total (awardedScores (newSteps newId runId index steps)) = 0 := by
  induction steps generalizing index with
  | nil => rfl
  | cons step rest ih =>
    have hHead : scoreOf (·.awardedScore.getD 0) (newStep (newId index) runId (index + 1) step) =
        0 := by
      unfold scoreOf
      split <;> rfl
    have hRest : total (awardedScores (newSteps newId runId (index + 1) rest)) = 0 := ih
    simp only [awardedScores] at hRest ⊢
    rw [newSteps, map_cons, total_cons, hHead, hRest]

end

-- Valid Rows

/- The identifier of a step fits its row. -/
def EvaluationStep.Storable (step : EvaluationStep) : Prop :=
  step.id.utf8ByteSize ≤ 96 ∧ anyControl step.id = false
deriving Decidable

/- What a run needs of a specification beyond its validation. -/
def EvaluationSpec.Storable (spec : EvaluationSpec) : Prop :=
  (∀ step ∈ spec.body.steps, step.Storable) ∧ spec.body.steps.length ≤ maxU32 ∧
  spec.body.aggregation.maxScore ≤ maxI32

namespace EvaluationSpec.Accepted

variable {spec : EvaluationSpec} {newId : Nat → EvaluationStepRunId} {runId : EvaluationRunId}

theorem newStep_valid (hAccepted : spec.Accepted)
    (hStorable : ∀ step ∈ spec.body.steps, step.Storable) {step : EvaluationStep}
    (hStep : step ∈ spec.body.steps) (id : EvaluationStepRunId) (position : Nat) :
    (newStep id runId (position + 1) step).Valid runId := by
  have hToken : ∀ other ∈ spec.body.steps, tokenWithin 96 other.id := fun other hOther =>
    ⟨hAccepted.named other hOther, hStorable other hOther⟩
  constructor
  · rfl
  · exact hToken step hStep
  · exact Nat.succ_ne_zero position
  · intro dependency hDependency
    have hKnown := hAccepted.known step hStep dependency hDependency
    rcases mem_map.mp hKnown with ⟨other, hOther, rfl⟩
    exact hToken other hOther
  · intro hRole
    cases step with
    | gate _ => rfl
    | score _ => exact absurd rfl hRole
    | advisory _ => rfl
  · cases step with
    | gate _ => rfl
    | score score =>
      rcases score with ⟨_, _, _, _, _, policy⟩
      cases policy <;> rfl
    | advisory _ => rfl
  · rintro score ⟨⟩
  · intro _
    rfl
  · rfl

/- The largest score of one row is part of the total. -/
theorem maxScore_le (hAccepted : spec.Accepted) {row : EvaluationStepRun}
    (hRow : row ∈ newSteps newId runId 0 spec.body.steps) :
    row.maxScore ≤ spec.body.aggregation.maxScore := by
  have hPart : ∀ {scores : List Nat} {score : Nat}, score ∈ scores → score ≤ total scores := by
    intro scores score hMember
    induction scores with
    | nil => cases hMember
    | cons first rest ih =>
      rw [total_cons]
      rcases mem_cons.mp hMember with rfl | hMember
      · exact Nat.le_add_right _ _
      · exact Nat.le_trans (ih hMember) (Nat.le_add_left _ _)
  rcases mem_newSteps hRow with ⟨step, hStep, i, rfl⟩
  rw [← hAccepted.scored]
  exact hPart (mem_map_of_mem hStep)

end EvaluationSpec.Accepted

-- Runnable Specifications

section

variable {release : EvaluationRelease} {request : CreateRunRequest} {runId : EvaluationRunId}
  {newId : Nat → EvaluationStepRunId} {now : UtcTimestamp}

/- The identifiers of the rows are distinct. -/
def FreshIds (newId : Nat → EvaluationStepRunId) (count : Nat) : Prop :=
  ∀ i < count, ∀ j < count, newId i = newId j → i = j

theorem nodup_newSteps_ids {steps : List EvaluationStep} (hFresh : FreshIds newId steps.length) :
    ((newSteps newId runId 0 steps).map (·.id)).Nodup := by
  rw [newSteps_ids]
  refine List.Nodup.map_on ?_ nodup_range'
  intro i hi j hj hSame
  have hBound : ∀ k ∈ List.range' 0 steps.length, k < steps.length := by
    intro k hk
    simpa using hk
  exact hFresh i (hBound i hi) j (hBound j hj) hSame

/- The new run of an accepted specification is valid if its rows are. -/
theorem newRun_valid (hAccepted : release.evaluationSpec.Accepted)
    (hIdentity : request.identity.validate = .ok ())
    (hFresh : FreshIds newId release.evaluationSpec.body.steps.length)
    (hStorable : ∀ step ∈ release.evaluationSpec.body.steps, step.Storable) :
    (newRun release request runId (newSteps newId runId 0
      release.evaluationSpec.body.steps) now).Valid := by
  constructor
  · rfl
  · exact hIdentity
  · exact Nat.zero_le _
  · intro hEmpty
    have hIds : ((newSteps newId runId 0 release.evaluationSpec.body.steps).map
        (·.stepId)) = [] := by
      rw [show newSteps newId runId 0 release.evaluationSpec.body.steps = [] from hEmpty]
      rfl
    rw [newSteps_stepIds, map_eq_nil_iff] at hIds
    exact hAccepted.nonempty hIds
  · intro row hRow
    rcases mem_newSteps hRow with ⟨step, hStep, i, rfl⟩
    exact hAccepted.newStep_valid hStorable hStep _ i
  · have hDistinct := hAccepted.distinct
    rwa [← newSteps_stepIds] at hDistinct
  · exact nodup_newSteps_ids hFresh
  · refine Eq.trans ?_ hAccepted.scored
    exact congrArg total newSteps_maxScores
  · exact newSteps_awarded
  · exact hAccepted.bounded
  · rfl

/- An accepted specification can be run exactly when it fits the rows of its run: no identifier has
  more than 96 bytes or control characters, the steps can be numbered, and the largest score fits
  an integer of the database. -/
theorem accepted_spec_runnable (hValid : release.evaluationSpec.validate = .ok ())
    (hIdentity : request.identity.validate = .ok ())
    (hFresh : FreshIds newId release.evaluationSpec.body.steps.length) :
    (∃ steps, stepRunsFor newId runId 0 release.evaluationSpec.body.steps = .ok steps ∧
      (newRun release request runId steps now).validate = .ok () ∧
      (newRun release request runId steps now).maxScore ≤ maxI32 ∧
      ∀ step ∈ steps, step.maxScore ≤ maxI32) ↔ release.evaluationSpec.Storable := by
  have hAccepted := EvaluationSpec.accepted_of_validate hValid
  constructor
  · rintro ⟨steps, hSteps, hRun, hMax, _⟩
    rcases stepRunsFor_eq_ok.mp hSteps with ⟨hFits, rfl⟩
    have hRun := EvaluationRun.validate_eq_ok.mp hRun
    refine ⟨?_, ?_, hMax⟩
    · intro step hStep
      have hMade : ∃ i, newStep (newId i) runId (i + 1) step ∈ newSteps newId runId 0
          release.evaluationSpec.body.steps :=
        exists_newStep hStep
      rcases hMade with ⟨i, hRow⟩
      exact (hRun.steps _ hRow).named.2
    · rcases hFits with hEmpty | hFits
      · exact absurd hEmpty hAccepted.nonempty
      · omega
  · rintro ⟨hStorable, hCount, hMax⟩
    refine ⟨newSteps newId runId 0 release.evaluationSpec.body.steps, ?_, ?_, hMax, ?_⟩
    · exact stepRunsFor_eq_ok.mpr ⟨.inr (by omega), rfl⟩
    · exact EvaluationRun.validate_eq_ok.mpr (newRun_valid hAccepted hIdentity hFresh hStorable)
    · intro row hRow
      exact Nat.le_trans (hAccepted.maxScore_le hRow) hMax

end

-- Examples

namespace EvaluationSample

def gate (id : String) (dependsOn : List String) : EvaluationStep :=
  .gate
    { id, dependsOn, runner := .fileAssertion ["main.c"],
      checker := .exitCode 0 }

/- Two gates, the second after the first. -/
def gates : List EvaluationStep := [gate "a" [], gate "b" ["a"]]

variable (steps : List EvaluationStep)

def spec : EvaluationSpec where
  metadata := { name := "lab", version := "1" }
  body :=
    { submission :=
      { collector :=
        .workspaceSnapshot ["main.c"] [] 1024
        llmReadable := [] }
      steps, aggregation := { maxScore := 0, gates := [] }
      review := { teacherApprovalRequiredForRelease := true } }

def identity : EvaluationRunIdentity where
  runtimeIdentity :=
    { providerBinding := "kubernetes"
      runnerImage := String.ofList ("runner@sha256:".toList ++ List.replicate 64 '0') }
  traceId := "trace"

def release : EvaluationRelease where
  schemaVersion := evaluationReleaseSchemaVersion
  id := ⟨1⟩
  courseId := ⟨1⟩
  candidateId := ⟨1⟩
  candidateRevision := .one
  approvalId := ⟨1⟩
  approvalRevision := .one
  evaluationSpec := spec steps
  runtimeIdentity := identity.runtimeIdentity
  state := .active
  revision := .one
  publishedBy := ⟨1⟩
  publishedAt := 0
  withdrawnAt := none
  withdrawalDiagnosticCode := none

def request : CreateRunRequest where
  courseId := ⟨1⟩
  releaseId := ⟨1⟩
  releaseRevision := .one
  frozenSubmissionId := ⟨1⟩
  actorId := ⟨2⟩
  identity := identity

/- The identifiers of the step rows. -/
def newId (index : Nat) : EvaluationStepRunId := ⟨BitVec.ofNat 128 (index + 1)⟩

/- An identifier of 97 characters. -/
def longId : String := String.ofList (List.replicate 97 'a')

end EvaluationSample

open EvaluationSample

/- Two gates that follow each other can be run. -/
theorem accepted_spec_runnable_gates : ∃ steps, stepRunsFor newId ⟨1⟩ 0 gates = .ok steps ∧
    (newRun (release gates) request ⟨1⟩ steps 0).validate = .ok () ∧
    (newRun (release gates) request ⟨1⟩ steps 0).maxScore ≤ maxI32 ∧
    ∀ step ∈ steps, step.maxScore ≤ maxI32 := by
  have hValid : (release gates).evaluationSpec.validate = .ok () := by
    decide
  have hIdentity : request.identity.validate = .ok () := by
    decide
  have hFresh : FreshIds newId gates.length := by
    unfold FreshIds
    decide
  exact (accepted_spec_runnable hValid hIdentity hFresh).mpr ⟨by decide, by decide, by decide⟩

/- A specification whose only step has an identifier of 97 characters is accepted, and no run of it
  is valid. -/
theorem accepted_spec_not_runnable : (spec [gate longId []]).validate = .ok () ∧
    ∃ steps, stepRunsFor newId ⟨1⟩ 0 [gate longId []] = .ok steps ∧ (newRun (release
        [gate longId []]) request ⟨1⟩ steps 0).validate = .error .identityMismatch := by
  refine ⟨by decide, newSteps newId ⟨1⟩ 0 [gate longId []], ?_, ?_⟩
  · exact stepRunsFor_eq_ok.mpr ⟨.inr (by decide), rfl⟩
  · decide

end LabWeaver
