import LabWeaver.Evaluation.Operations

/-
  This file shows what the state and the score of an evaluation run mean: which steps a succeeded
  run has, when a step is started, and that advisory steps influence neither.

  Main declarations: `verdict_sound`, `advisory_no_influence`.
-/

namespace LabWeaver

open Outcome EvaluationStore List

-- Scores

def EvaluationRun.succeededScore (run : EvaluationRun) : Nat :=
  total ((run.steps.filter (fun step =>
    decide (step.role = .score) &&
      decide (step.state = .succeeded))).map
    (·.awardedScore.getD 0))

variable {rows : List EvaluationStepRun}

theorem total_awardedScores (hSound : ∀ row ∈ rows, row.Sound) :
    total (awardedScores rows) = total ((rows.filter (fun step => decide (step.role = .score) &&
        decide (step.state = .succeeded))).map (·.awardedScore.getD 0)) := by
  induction rows with
  | nil => rfl
  | cons row rest ih =>
    rcases forall_mem_cons.mp hSound with ⟨hRow, hRest⟩
    rw [awardedScores, map_cons, total_cons, filter_cons]
    have hTail := ih hRest
    rw [awardedScores] at hTail
    by_cases hRole : row.role = .score
    · by_cases hState : row.state = .succeeded
      · simp only [scoreOf, hRole, hState, decide_true, Bool.and_self, if_true, map_cons,
          total_cons, hTail]
      · simp only [scoreOf, hRole, hState, decide_true,
          decide_false, Bool.and_false, Bool.false_eq_true,
          if_true, if_false, hRow.unawarded hState, Option.getD_none, hTail, Nat.zero_add]
    · simp only [scoreOf, hRole, decide_false, Bool.false_and, Bool.false_eq_true, if_false, hTail,
        Nat.zero_add]

-- Succeeded Runs

theorem breaksRun_uncancelled (step : EvaluationStepRun) :
    step.breaksRun false = step.stopsSuccessors := by
  unfold EvaluationStepRun.breaksRun EvaluationStepRun.stopsSuccessors
  cases step.state <;> cases step.failurePolicy <;> rfl

/- A skipped row has a row that stops its successors before it, with only skipped rows between. -/
theorem exists_cause {rank : String → Nat}
    (hRank : ∀ row ∈ rows, ∀ dependency ∈ row.dependsOn, rank dependency < rank row.stepId)
    (hSkips : SkipsJustified rows) : ∀ n, ∀ row ∈ rows, rank row.stepId < n →
      row.state = .skipped → ∃ cause ∈ rows, cause.stopsSuccessors = true ∧
        DependsThrough rows cause.stepId row.stepId := by
  -- the cause of a skipped dependency, whose rank is smaller, is also the cause of the row
  intro n
  induction n with
  | zero =>
    intro row _ hLess
    exact absurd hLess (Nat.not_lt_zero _)
  | succ n ih =>
    intro row hRow hLess hState
    rcases hSkips row hRow hState with ⟨dependency, hDependency, hDepends, hBlocks⟩
    rcases Bool.or_eq_true_iff.mp hBlocks with hSkipped | hStops
    · have hLower := hRank row hRow _ hDepends
      rcases ih dependency hDependency (by omega) (of_decide_eq_true hSkipped) with
        ⟨cause, hCause, hStops, hThrough⟩
      exact ⟨cause, hCause, hStops, .next hRow hState hDepends hThrough⟩
    · exact ⟨dependency, hDependency, hStops, .next hRow hState hDepends .first⟩

theorem not_skipped {rank : String → Nat}
    (hRank : ∀ row ∈ rows, ∀ dependency ∈ row.dependsOn, rank dependency < rank row.stepId)
    (hSkips : SkipsJustified rows) (hStops : ∀ row ∈ rows, row.stopsSuccessors = false) :
    ∀ row ∈ rows, row.state ≠ .skipped := by
  intro row hRow hState
  rcases exists_cause hRank hSkips _ row hRow (Nat.lt_succ_self _) hState with
    ⟨cause, hCause, hStopped, _⟩
  cases (hStops cause hCause).symm.trans hStopped

namespace EvaluationStore

variable {store : EvaluationStore} {run : EvaluationRun}

/- A run that ended with success has only ended steps, and none of them stops others. -/
theorem Sound.closed_of_succeeded (hSound : store.Sound) (hRun : run ∈ store.runs)
    (hState : run.state = .succeeded) :
    run.hasNonTerminal = false ∧ run.stepsCleaned = true ∧
    ∀ step ∈ run.steps, step.stopsSuccessors = false := by
  have hDerived := hSound.derived run hRun
  have hClosed : run.hasNonTerminal = false := by
    cases hOpen : run.hasNonTerminal with
    | false => rfl
    | true =>
      cases hCancel : run.cancellationRequested with
      | true =>
        cases (hDerived.cancelling hOpen hCancel).symm.trans hState
      | false =>
        rcases hDerived.started hOpen hCancel with hEq | hEq <;>
        · cases hEq.symm.trans hState
  have hVerdict : run.verdict = .succeeded := (hDerived.closed hClosed).symm.trans hState
  unfold EvaluationRun.verdict at hVerdict
  split at hVerdict
  · cases hVerdict
  rename_i hBreaks
  split at hVerdict
  · cases hVerdict
  rename_i hCancel
  split at hVerdict
  · rename_i hCleaned
    refine ⟨hClosed, hCleaned, ?_⟩
    intro step hStep
    rw [eq_false_of_ne_true hCancel, Bool.not_eq_true, any_eq_false] at hBreaks
    rw [← breaksRun_uncancelled]
    exact eq_false_of_ne_true (hBreaks step hStep)
  · cases hVerdict

theorem Sound.succeeded (hSound : store.Sound) (hRun : run ∈ store.runs)
    (hState : run.state = .succeeded) {step : EvaluationStepRun} (hStep : step ∈ run.steps) :
    step.state.nonTerminal = false ∧ (step.failurePolicy = .stop → step.state = .succeeded) ∧
    step.state ≠ .skipped ∧ step.cleanupVerified = true := by
  rcases hSound.closed_of_succeeded hRun hState with ⟨hClosed, hCleaned, hStops⟩
  rcases hSound.linked.exists_rank hRun with ⟨rank, hRank⟩
  have hTerminal : step.state.nonTerminal = false := eq_false_of_ne_true
    (any_eq_false.mp hClosed step hStep)
  have hNotSkipped := not_skipped hRank (hSound.linked.rows run hRun).skips hStops step hStep
  refine ⟨hTerminal, ?_, hNotSkipped, ?_⟩
  · intro hPolicy
    have hStop := hStops step hStep
    simp only [EvaluationStepRun.stopsSuccessors, hPolicy, decide_true, Bool.and_true] at hStop
    cases hEnd : step.state with
    | succeeded => rfl
    | skipped => exact absurd hEnd hNotSkipped
    | failed | cancelled =>
      rw [hEnd] at hStop
      cases hStop
    | pending | running | retryable =>
      rw [hEnd] at hTerminal
      cases hTerminal
  · refine all_eq_true.mp hCleaned step ?_
    exact mem_filter.mpr ⟨hStep, decide_eq_true hNotSkipped⟩

end EvaluationStore

variable {step : EvaluationStepRun} {runId : EvaluationRunId}

theorem policy_of_gate (hValid : step.Valid runId)
    (hRole : step.role = .gate) : step.failurePolicy = .stop := by
  have hPolicy := hValid.policy
  rw [hRole] at hPolicy
  cases hStop : step.failurePolicy with
  | stop => rfl
  | «continue» | continueAdvisory =>
    rw [hStop] at hPolicy
    cases hPolicy

-- Started Steps

theorem allowsSuccessors_eq_true (hAllows : step.allowsSuccessors = true) :
    step.state = .succeeded ∨ step.failurePolicy ≠ .stop ∧
    (step.state = .failed ∨ step.state = .cancelled) := by
  have hEnded : step.state.unsuccessful = true →
      step.state = .failed ∨ step.state = .cancelled := by
    cases step.state with
    | failed => exact fun _ => .inl rfl
    | cancelled => exact fun _ => .inr rfl
    | pending | running | retryable | succeeded | skipped =>
      rintro ⟨⟩
  simp only [EvaluationStepRun.allowsSuccessors,
    Bool.or_eq_true, Bool.and_eq_true, decide_eq_true_eq]
    at hAllows
  rcases hAllows with (hSucceeded | ⟨⟨_, hPolicy⟩, hFailed⟩) | ⟨⟨_, hPolicy⟩, hFailed⟩
  · exact .inl hSucceeded
  · refine .inr ⟨?_, hEnded hFailed⟩
    rw [hPolicy]
    rintro ⟨⟩
  · refine .inr ⟨?_, hEnded hFailed⟩
    rw [hPolicy]
    rintro ⟨⟩

variable {after : List EvaluationStepRun} {row : EvaluationStepRun}

/- No step starts to run because another ends. -/
theorem StepEnded.running_before (hEnd : StepEnded rows after)
    (hRow : row ∈ after) (hRunning : row.state = .running) :
    row ∈ rows := by
  rcases hEnd with @⟨step, ended, now, _, _, _, hEnded, _, hAfter⟩
  have hReplaced : row ∈ Rows.replace EvaluationStepRun.id rows ended := by
    rcases afterEnd_eq_ok hAfter with ⟨_, _, hSkips⟩ | ⟨_, rfl⟩
    · rcases hSkips.before hRow with hOld | ⟨hSkipped, _⟩
      · exact hOld
      · cases hRunning.symm.trans hSkipped
    · exact hRow
  rcases Rows.mem_replace hReplaced with rfl | ⟨hOld, _⟩
  · rw [hRunning] at hEnded
    rcases hEnded with hEq | hEq <;> cases hEq
  · exact hOld

/- A step that runs ran before, or was started while its dependencies allowed it. -/
theorem RowsEffect.running_before {retry : Option EvaluationStepRunId}
    (hSound : ∀ row ∈ rows, row.Sound) (hEffect : RowsEffect rows retry after) (hRow : row ∈ after)
    (hRunning : row.state = .running) :
    row ∈ rows ∨ ∃ step ∈ rows, row.declaration = step.declaration ∧ ∀ dependency ∈ rows,
      dependency.stepId ∈ step.dependsOn → dependency.allowsSuccessors = true := by
  cases hEffect with
  | started hStep hDeclared _ hReady =>
    rcases Rows.mem_replace hRow with rfl | ⟨hOld, _⟩
    · exact .inr ⟨_, hStep, hDeclared, hReady⟩
    · exact .inl hOld
  | ended hEnds =>
    refine .inl ?_
    induction hEnds with
    | refl => exact hRow
    | tail _ hEnd ih => exact ih (hEnd.running_before hRow hRunning)
  | cancelled hAfter =>
    rcases (cancel_before hAfter hSound hRow).2.2 with hOld | hCancelled
    · exact .inl hOld
    · cases hRunning.symm.trans hCancelled
  | retried _ _ _ hState _ hRestores =>
    rcases hRestores.before hRow with hOld | ⟨hPending, _⟩
    · rcases Rows.mem_replace hOld with rfl | ⟨hOld, _⟩
      · cases hRunning.symm.trans hState
      · exact .inl hOld
    · cases hRunning.symm.trans hPending
  | verified _ _ hUnsuccessful hState =>
    rcases Rows.mem_replace hRow with rfl | ⟨hOld, _⟩
    · rw [← hState, hRunning] at hUnsuccessful
      cases hUnsuccessful
    · exact .inl hOld

/- In every reachable state the score of a run is the sum of the scores of its succeeded score steps
  and within the bound, and a succeeded run has only ended steps with verified cleanup, none
  skipped, and all that could stop the run succeeded. A step runs only if it ran before, or if all
  its dependencies had succeeded or were steps of a policy other than stop that had failed or were
  cancelled. -/
theorem verdict_sound : (∀ store : EvaluationStore, evaluationMachine.Reachable store →
      ∀ run ∈ store.runs, run.awardedScore = run.succeededScore ∧ run.awardedScore ≤ run.maxScore ∧
        (run.state = .succeeded → ∀ step ∈ run.steps, step.state.nonTerminal = false ∧
          (step.role = .gate → step.state = .succeeded) ∧
          (step.role = .score → step.failurePolicy = .stop → step.state = .succeeded) ∧
          step.state ≠ .skipped ∧ step.cleanupVerified = true)) ∧
    (∀ (store after : EvaluationStore) (operation : EvaluationOperation),
      evaluationMachine.Reachable store → evaluationMachine.step store operation = some after →
      ∀ new ∈ after.runs, ∀ row ∈ new.steps, row.state = .running → ∃ run ∈ store.runs,
        run.id = new.id ∧ (row ∈ run.steps ∨ ∀ stepId ∈ row.dependsOn, ∃ dependency ∈ run.steps,
          dependency.stepId = stepId ∧
          (dependency.state = .succeeded ∨ dependency.failurePolicy ≠ .stop ∧
            (dependency.state = .failed ∨ dependency.state = .cancelled)))) := by
  constructor
  · intro store hReach run hRun
    have hSound := evaluation_sound hReach
    have hValid := hSound.valid run hRun
    have hRows := hSound.linked.rows run hRun
    refine ⟨?_, hValid.bounded, ?_⟩
    · rw [← hValid.summedAwarded]
      exact total_awardedScores hRows.sound
    · intro hState step hStep
      rcases hSound.succeeded hRun hState hStep with ⟨hTerminal, hStop, hNotSkipped, hCleaned⟩
      refine ⟨hTerminal, ?_, fun _ hPolicy => hStop hPolicy, hNotSkipped, hCleaned⟩
      intro hRole
      exact hStop (policy_of_gate (hValid.steps step hStep) hRole)
  · intro store after operation hReach hStep new hNew row hRow hRunning
    have hSound := evaluation_sound hReach
    have hLinked := hSound.linked
    have hFollows := perform_follows hSound (eq_ok_of_toOption hStep)
    rcases hFollows.runs new hNew with hPending | ⟨run, hRun, rfl | ⟨hId, hEffect⟩⟩
    · cases (hPending row hRow).symm.trans hRunning
    · exact ⟨new, hRun, rfl, .inl hRow⟩
    · refine ⟨run, hRun, hId.symm, ?_⟩
      rcases hEffect.running_before (hLinked.rows run hRun).sound hRow hRunning with
        hOld | ⟨step, hStep, hDeclared, hReady⟩
      · exact .inl hOld
      · refine .inr ?_
        intro stepId hDepends
        rw [dependsOn_of_declaration hDeclared] at hDepends
        rcases hLinked.exists_dependency hRun hStep hDepends with ⟨dependency, hDependency, rfl⟩
        exact ⟨dependency, hDependency, rfl, allowsSuccessors_eq_true
          (hReady dependency hDependency hDepends)⟩

-- Sample Runs

namespace EvaluationSample

def score (id : String) (dependsOn : List String) (maxScore : Nat) : EvaluationStep :=
  .score
    { id, dependsOn, runner := .fileAssertion ["main.c"], checker := .exitCode 0,
      maxScore, failurePolicy := .stop }

def advisory (id : String) (dependsOn : List String) : EvaluationStep :=
  .advisory
    { id, dependsOn
      runner :=
        { includedPaths := ["main.c"], rubric := "rubric" } }

/- A specification with readable files and a score. -/
def gradedSpec (steps : List EvaluationStep) (maxScore : Nat) : EvaluationSpec where
  metadata := { name := "lab", version := "1" }
  body :=
    { submission :=
      { collector :=
        .workspaceSnapshot ["main.c"] [] 1024
        llmReadable := ["main.c"] }
      steps, aggregation := { maxScore, gates := [] }
      review := { teacherApprovalRequiredForRelease := true } }

variable (spec : EvaluationSpec)

/- Publish the specification and create one run of it. -/
def opening : List EvaluationOperation :=
  [.publishRelease
    { courseId := ⟨1⟩, candidateId := ⟨1⟩, candidateRevision := .one, approvalId := ⟨1⟩,
      approvalRevision := .one, evaluationSpec := spec,
      runtimeIdentity := identity.runtimeIdentity, publishedBy := ⟨1⟩ }
    ⟨1⟩ 0 "trace", .freezeSubmission ⟨1⟩ ⟨1⟩, .createRun request ⟨1⟩ newId 0 "trace"]

variable (runId)

def claimOf (index : Nat) : EvaluationOperation :=
  .claimNextStep runId (newId index)
    { workerId := "w", leaseMilliseconds := 60000, leaseToken := 0 }
    0

def completeOf (index attempt : Nat) (completion : EvaluationStepCompletion) :
    EvaluationOperation :=
  .completeStep
    { courseId := ⟨1⟩, runId, stepRunId := newId index, attempt, workerId := "w",
      workerSanUri := workerServiceSan "w",
      runtimeIdentity := identity.runtimeIdentity, leaseToken := 0, completion }
    "trace" 0

variable {runId}

def claim : Nat → EvaluationOperation := claimOf ⟨1⟩

def complete : Nat → Nat → EvaluationStepCompletion → EvaluationOperation := completeOf ⟨1⟩

def passed (awardedScore : Option Nat) : EvaluationStepCompletion where
  state := .succeeded
  awardedScore := awardedScore
  diagnosticCode := none
  cleanupVerified := true

def failed (cleanupVerified : Bool) : EvaluationStepCompletion where
  state := .failed
  awardedScore := none
  diagnosticCode := some "LW_EVALUATION_STEP_FAILED"
  cleanupVerified := cleanupVerified

def scored : EvaluationSpec := gradedSpec [gate "a" [], score "b" ["a"] 10] 10

def advised : EvaluationSpec := gradedSpec [gate "a" [], advisory "b" ["a"]] 0

def gatePassed : List EvaluationOperation :=
  opening spec ++ [claim 0, complete 0 1 (passed none)]

end EvaluationSample

open EvaluationSample

/- A score step is started after the gate before it, and the run succeeds with the score of the
  step. -/
theorem verdict_sound_scored : ∃ store started ended : EvaluationStore,
    evaluationMachine.Reachable store ∧ evaluationMachine.step store (claim 1) = some started ∧
    evaluationMachine.step started (EvaluationSample.complete 1 1 (passed (some 7))) = some ended ∧
    (∃ new ∈ started.runs, ∃ row ∈ new.steps, row.state = .running ∧ ∃ run ∈ store.runs,
      run.id = new.id ∧ (row ∈ run.steps ∨ ∀ stepId ∈ row.dependsOn, ∃ dependency ∈ run.steps,
        dependency.stepId = stepId ∧
        (dependency.state = .succeeded ∨ dependency.failurePolicy ≠ .stop ∧
          (dependency.state = .failed ∨ dependency.state = .cancelled)))) ∧
    ∃ run ∈ ended.runs, run.state = .succeeded ∧ run.awardedScore = 7 ∧
      run.awardedScore = run.succeededScore ∧ run.awardedScore ≤ run.maxScore ∧
      ∀ step ∈ run.steps, step.state.nonTerminal = false ∧
        (step.role = .gate → step.state = .succeeded) ∧
        (step.role = .score → step.failurePolicy = .stop → step.state = .succeeded) ∧
        step.state ≠ .skipped ∧ step.cleanupVerified = true := by
  have hFound : ∃ store, evaluationMachine.Reachable store ∧ ∃ started,
      evaluationMachine.step store (claim 1) = some started ∧ ∃ ended,
      evaluationMachine.step started (EvaluationSample.complete 1 1 (passed (some 7))) =
        some ended ∧
      (∃ run ∈ started.runs, ∃ step ∈ run.steps, step.state = .running) ∧
      ∃ run ∈ ended.runs, run.state = .succeeded ∧ run.awardedScore = 7 :=
    Machine.exists_reachable (gatePassed scored) (s := empty) rfl (by decide +kernel)
  rcases hFound with ⟨store, hReach, started, hStart, ended, hEnd, ⟨new, hNew, row, hRow, hRunning⟩,
    run, hRun, hState, hScore⟩
  have hReachEnded : evaluationMachine.Reachable ended :=
    .next (.next hReach trivial hStart) trivial hEnd
  refine ⟨store, started, ended, hReach, hStart, hEnd, ?_, ?_⟩
  · exact ⟨new, hNew, row, hRow, hRunning,
      verdict_sound.2 store started _ hReach hStart new hNew row hRow hRunning⟩
  · rcases verdict_sound.1 ended hReachEnded run hRun with ⟨hSum, hBound, hSteps⟩
    exact ⟨run, hRun, hState, hScore, hSum, hBound, hSteps hState⟩

-- Advisory Steps

namespace EvaluationRun

/- All steps have ended and are cleaned up, and the run was not cancelled. -/
structure Complete (run : EvaluationRun) : Prop where
  ended : ∀ step ∈ run.steps, step.state.nonTerminal = false
  cleaned : ∀ step ∈ run.steps, step.cleanupVerified = true
  uncancelled : run.cancellationRequested = false

/- The gates and the score steps of two runs have the same outcomes. -/
def SameGrading (run other : EvaluationRun) : Prop :=
  ∀ step ∈ run.steps, ∀ twin ∈ other.steps, step.stepId = twin.stepId → step.role ≠ .advisory →
    step.state = twin.state ∧ step.awardedScore = twin.awardedScore
deriving Decidable

end EvaluationRun

/- The failure of an advisory step breaks nothing. -/
theorem breaksRun_of_advisory (hValid : step.Valid runId)
    (hRole : step.role = .advisory) (cancelled : Bool) : step.breaksRun cancelled = false := by
  have hPolicy := hValid.policy
  rw [hRole] at hPolicy
  cases hKind : step.failurePolicy with
  | continueAdvisory => simp [EvaluationStepRun.breaksRun, hKind]
  | stop | «continue» =>
    rw [hKind] at hPolicy
    cases hPolicy

variable {others : List EvaluationStepRun}

/- The rows of two runs of one specification correspond. -/
theorem rows_correspond {steps : List EvaluationStep}
    (hRows : List.Forall₂ StepDeclaration.DeclaredBy (rows.map (·.declaration)) steps)
    (hOthers : List.Forall₂ StepDeclaration.DeclaredBy (others.map (·.declaration)) steps) :
    List.Forall₂ (fun row twin => row ∈ rows ∧ twin ∈ others ∧ row.stepId = twin.stepId ∧
      row.role = twin.role ∧ row.failurePolicy = twin.failurePolicy) rows others := by
  rw [forall₂_map_left_iff] at hRows hOthers
  induction hRows generalizing others with
  | nil =>
    cases hOthers
    exact .nil
  | cons hRow _ ih =>
    cases hOthers with
    | cons hTwin hOthers =>
      refine .cons ⟨mem_cons_self, mem_cons_self, hRow.stepId.trans hTwin.stepId.symm,
        hRow.role.trans hTwin.role.symm, hRow.failurePolicy.trans hTwin.failurePolicy.symm⟩
        ((ih hOthers).imp ?_)
      rintro first second ⟨hFirst, hSecond, hSame⟩
      exact ⟨mem_cons_of_mem _ hFirst, mem_cons_of_mem _ hSecond, hSame⟩

section

variable {run twin : EvaluationRun} {spec : EvaluationSpec}

/- What the advisory steps do not influence. -/
theorem grading_eq (hValid : run.Valid) (hValidTwin : twin.Valid)
    (hDeclared : run.RowsDeclared spec) (hDeclaredTwin : twin.RowsDeclared spec)
    (hSame : run.SameGrading twin) :
    run.steps.map (·.breaksRun false) = twin.steps.map (·.breaksRun false) ∧
    awardedScores run.steps = awardedScores twin.steps := by
  have hRows := rows_correspond hDeclared hDeclaredTwin
  constructor
  · refine Propagation.map_eq_of_forall₂ (hRows.imp ?_)
    rintro row other ⟨hRow, hOther, hStepId, hRole, hPolicy⟩
    by_cases hAdvisory : row.role = .advisory
    · rw [breaksRun_of_advisory (hValid.steps row hRow) hAdvisory,
        breaksRun_of_advisory (hValidTwin.steps other hOther) (hRole ▸ hAdvisory)]
    · rcases hSame row hRow other hOther hStepId hAdvisory with ⟨hState, _⟩
      unfold EvaluationStepRun.breaksRun
      rw [hState, hPolicy]
  · refine Propagation.map_eq_of_forall₂ (hRows.imp ?_)
    rintro row other ⟨hRow, hOther, hStepId, hRole, _⟩
    unfold scoreOf
    by_cases hScore : row.role = .score
    · have hAdvisory : row.role ≠ .advisory := by
        rw [hScore]
        rintro ⟨⟩
      rcases hSame row hRow other hOther hStepId hAdvisory with ⟨_, hAwarded⟩
      simp only [← hRole, hAwarded]
    · rw [← hRole, if_neg hScore, if_neg hScore]

theorem state_of_complete (hComplete : run.Complete) (hDerived : run.StateDerived) : run.state =
    if (run.steps.map (·.breaksRun false)).any id = true then .failed
    else .succeeded := by
  have hClosed : run.hasNonTerminal = false := by
    refine any_eq_false.mpr ?_
    intro step hStep
    rw [hComplete.ended step hStep]
    exact Bool.false_ne_true
  have hCleaned : run.stepsCleaned = true := by
    refine all_eq_true.mpr ?_
    intro step hStep
    exact hComplete.cleaned step (mem_filter.mp hStep).1
  rw [hDerived.closed hClosed, EvaluationRun.verdict, hComplete.uncancelled, hCleaned, any_map]
  rfl

end

/- Two complete executions of one specification with the same outcomes and scores of the gates and
  score steps end in the same state with the same score, whatever the advisory steps come to. -/
theorem advisory_no_influence {store other : EvaluationStore}
    (hReach : evaluationMachine.Reachable store) (hReachOther : evaluationMachine.Reachable other)
    {run twin : EvaluationRun} (hRun : run ∈ store.runs) (hTwin : twin ∈ other.runs)
    {release releaseTwin : EvaluationRelease}
    (hRelease : release ∈ store.releases ∧ release.id = run.releaseId)
    (hReleaseTwin : releaseTwin ∈ other.releases ∧ releaseTwin.id = twin.releaseId)
    (hSpec : release.evaluationSpec = releaseTwin.evaluationSpec) (hComplete : run.Complete)
    (hCompleteTwin : twin.Complete) (hSame : run.SameGrading twin) :
    run.state = twin.state ∧ run.awardedScore = twin.awardedScore := by
  have hSound := evaluation_sound hReach
  have hSoundOther := evaluation_sound hReachOther
  have hDeclared := hSound.linked.declared_of_release hRun hRelease
  have hDeclaredTwin := hSoundOther.linked.declared_of_release hTwin hReleaseTwin
  rw [← hSpec] at hDeclaredTwin
  have hValid := hSound.valid run hRun
  have hValidTwin := hSoundOther.valid twin hTwin
  rcases grading_eq hValid hValidTwin hDeclared hDeclaredTwin hSame with ⟨hBreaks, hScores⟩
  constructor
  · rw [state_of_complete hComplete (hSound.derived run hRun), state_of_complete hCompleteTwin
      (hSoundOther.derived twin hTwin), hBreaks]
  · rw [← hValid.summedAwarded, ← hValidTwin.summedAwarded, hScores]

namespace EvaluationRun

instance Complete.decidable (run : EvaluationRun) : Decidable run.Complete :=
  decidable_of_iff ((∀ step ∈ run.steps, step.state.nonTerminal = false) ∧
    (∀ step ∈ run.steps, step.cleanupVerified = true) ∧ run.cancellationRequested = false)
    ⟨fun h => ⟨h.1, h.2.1, h.2.2⟩, fun h => ⟨h.ended, h.cleaned, h.uncancelled⟩⟩

end EvaluationRun

/- A run whose advisory step succeeds and one whose advisory step fails end with the same result. -/
theorem advisory_no_influence_advised : ∃ store other : EvaluationStore,
    evaluationMachine.Reachable store ∧ evaluationMachine.Reachable other ∧
    ∃ run ∈ store.runs, ∃ twin ∈ other.runs, run.Complete ∧ twin.Complete ∧ run.SameGrading twin ∧
      run.steps.map (·.state) ≠ twin.steps.map (·.state) ∧ run.state = twin.state ∧
      run.awardedScore = twin.awardedScore := by
  have hFound : ∃ before, evaluationMachine.Reachable before ∧ ∃ store,
      evaluationMachine.step before (EvaluationSample.complete 1 1 (passed none)) = some store ∧
      ∃ other,
      evaluationMachine.step before (EvaluationSample.complete 1 1 (failed true)) = some other ∧
      ∃ release ∈ store.releases, ∃ releaseTwin ∈ other.releases, ∃ run ∈ store.runs,
        ∃ twin ∈ other.runs, release.id = run.releaseId ∧ releaseTwin.id = twin.releaseId ∧
          release.evaluationSpec = releaseTwin.evaluationSpec ∧ run.Complete ∧ twin.Complete ∧
          run.SameGrading twin ∧ run.steps.map (·.state) ≠ twin.steps.map (·.state) :=
    Machine.exists_reachable (gatePassed advised ++ [claim 1]) (s := empty) rfl (by decide +kernel)
  rcases hFound with ⟨before, hReach, store, hStore, other, hOther, release, hRelease, releaseTwin,
    hReleaseTwin, run, hRun, twin, hTwin, hId, hIdTwin, hSpec, hComplete, hCompleteTwin, hSame,
    hDiffer⟩
  have hReachStore : evaluationMachine.Reachable store := .next hReach trivial hStore
  have hReachOther : evaluationMachine.Reachable other := .next hReach trivial hOther
  rcases advisory_no_influence hReachStore hReachOther hRun
      hTwin ⟨hRelease, hId⟩ ⟨hReleaseTwin, hIdTwin⟩ hSpec
      hComplete hCompleteTwin hSame with ⟨hState, hScore⟩
  exact ⟨store, other, hReachStore, hReachOther, run, hRun,
    twin, hTwin, hComplete, hCompleteTwin, hSame, hDiffer, hState, hScore⟩

-- Causes

/- Every skipped step depends, through skipped steps, on one that failed or was cancelled. -/
theorem skipped_step_has_cause (hReach : evaluationMachine.Reachable store)
    (hRun : run ∈ store.runs) (hStep : step ∈ run.steps) (hSkipped : step.state = .skipped) :
    step.diagnosticCode = some dependencyFailedCode ∧ ∃ cause ∈ run.steps,
      cause.state.unsuccessful = true ∧ cause.failurePolicy = .stop ∧
      DependsThrough run.steps cause.stepId step.stepId := by
  have hLinked := (evaluation_sound hReach).linked
  have hRows := hLinked.rows run hRun
  rcases hLinked.exists_rank hRun with ⟨rank, hRank⟩
  rcases exists_cause hRank hRows.skips _ step hStep (Nat.lt_succ_self _) hSkipped with
    ⟨cause, hCause, hStops, hThrough⟩
  rw [EvaluationStepRun.stopsSuccessors, Bool.and_eq_true, decide_eq_true_eq] at hStops
  exact ⟨((hRows.sound step hStep).skipped hSkipped).1, cause, hCause, hStops.1, hStops.2, hThrough⟩

theorem skipped_step_has_cause_scored : ∃ store run step, evaluationMachine.Reachable store ∧
    run ∈ store.runs ∧ step ∈ run.steps ∧ step.state = .skipped ∧ ∃ cause ∈ run.steps,
      cause.state.unsuccessful = true ∧ DependsThrough run.steps cause.stepId step.stepId := by
  have hFound : ∃ store, evaluationMachine.Reachable store ∧ ∃ run ∈ store.runs,
      ∃ step ∈ run.steps, step.state = .skipped :=
    Machine.exists_reachable (opening scored ++
      [claim 0, EvaluationSample.complete 0 1 (failed true)]) (s := empty) rfl (by decide +kernel)
  rcases hFound with ⟨store, hReach, run, hRun, step, hStep, hSkipped⟩
  rcases (skipped_step_has_cause hReach hRun hStep hSkipped).2 with
    ⟨cause, hCause, hState, _, hThrough⟩
  exact ⟨store, run, step, hReach, hRun, hStep, hSkipped, cause, hCause, hState, hThrough⟩

-- Rows And Their Run

/- What is stored is read back, and the state of a run is the one that its rows give it. -/
theorem stored_run_consistent (hReach : evaluationMachine.Reachable store)
    (hRun : run ∈ store.runs) : store.loadRun run.id = .ok run ∧ run.StateDerived := by
  have hSound := evaluation_sound hReach
  refine ⟨?_, hSound.derived run hRun⟩
  simp only [loadRun, steps_eq_ok]
  exact ⟨run, (Rows.lookup_eq_some_iff hSound.linked.runIds).mpr ⟨hRun, rfl⟩, (),
    EvaluationRun.validate_eq_ok.mpr (hSound.valid run hRun), rfl⟩

theorem stored_run_consistent_failed : ∃ store run, evaluationMachine.Reachable store ∧
    run ∈ store.runs ∧ run.hasNonTerminal = false ∧ store.loadRun run.id = .ok run ∧
      run.state = run.verdict := by
  have hFound : ∃ store, evaluationMachine.Reachable store ∧ ∃ run ∈ store.runs,
      run.hasNonTerminal = false :=
    Machine.exists_reachable (opening (gradedSpec [gate "a" []] 0) ++
      [claim 0, EvaluationSample.complete 0 1 (failed true)]) (s := empty) rfl (by decide +kernel)
  rcases hFound with ⟨store, hReach, run, hRun, hEnded⟩
  rcases stored_run_consistent hReach hRun with ⟨hLoad, hDerived⟩
  exact ⟨store, run, hReach, hRun, hEnded, hLoad, hDerived.closed hEnded⟩

end LabWeaver
