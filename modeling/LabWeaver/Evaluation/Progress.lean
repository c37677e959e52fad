import LabWeaver.Evaluation.Verdicts

/-
  This file shows when an evaluation run cannot stall: while none of its steps runs and some wait,
  one that waits can be started. A retry can break this, because it restores a skipped step
  although another of its dependencies is still failed.

  Main declaration: `evaluation_never_stalls`.
-/

namespace LabWeaver

open Outcome EvaluationStore Rows

-- Retries

/- A step and the skipped steps that depend on it depend on no other step that blocks them. -/
def Clears (rows : List EvaluationStepRun) (stepId : String) : Prop :=
  ∀ row ∈ rows, DependsThrough rows stepId row.stepId → ∀ dependency ∈ rows,
    dependency.stepId ∈ row.dependsOn → dependency.blocks = true →
    DependsThrough rows stepId dependency.stepId

variable {rows : List EvaluationStepRun}

theorem DependsThrough.mono {others : List EvaluationStepRun} {first stepId : String}
    (hSkipped : ∀ row ∈ rows, row.state = .skipped → row ∈ others)
    (hDepends : DependsThrough rows first stepId) : DependsThrough others first stepId := by
  induction hDepends with
  | first => exact .first
  | next hRow hState hLink _ ih => exact .next (hSkipped _ hRow hState) hState hLink ih

variable {after : List EvaluationStepRun}

/- The skipped steps that depend on a retried one are all restored. -/
theorem Restores.marked_of_depends {retriedStepId stepId : String} {marks : List String}
    (hRestores : Restores retriedStepId marks rows after) (hSound : ∀ row ∈ rows, row.Sound)
    (hDepends : DependsThrough rows retriedStepId stepId) : stepId ∈ marks := by
  induction hDepends with
  | first => exact hRestores.first
  | @next row dependency hRow hState hLink _ ih =>
    rcases hRestores.stays hRow with hStays | ⟨_, hMark⟩
    · have hCode := ((hSound row hRow).skipped hState).1
      exact absurd ih (hRestores.settled row hStays hState hCode dependency hLink)
    · exact hMark

section

variable {rows : List EvaluationStepRun} {step retried : EvaluationStepRun}

theorem skipped_replace (hRows : RowsSound rows) (hStep : step ∈ rows)
    (hDeclared : retried.declaration = step.declaration) (hOld : step.state ≠ .skipped)
    (hNew : retried.state ≠ .skipped) {row : EvaluationStepRun} (hState : row.state = .skipped) :
    row ∈ replace EvaluationStepRun.id rows retried ↔ row ∈ rows := by
  constructor
  · intro hRow
    rcases mem_replace hRow with rfl | ⟨hRow, _⟩
    · exact absurd hState hNew
    · exact hRow
  · intro hRow
    refine mem_replace_other hRows.unique hStep hDeclared hRow ?_
    rintro rfl
    exact hOld hState

theorem restores_free {marks : List String} {after : List EvaluationStepRun}
    (hRows : RowsSound rows) (hFree : WaitingFree rows) (hStep : step ∈ rows)
    (hDeclared : retried.declaration = step.declaration) (hFailed : step.state = .failed)
    (hState : retried.state = .retryable) (hSound : retried.Sound)
    (hRestores : Restores step.stepId marks (replace EvaluationStepRun.id rows retried) after)
    (hUnique : Unique EvaluationStepRun.stepId after) (hClears : Clears rows step.stepId) :
    WaitingFree after := by
  have hStepId := stepId_of_declaration hDeclared
  have hRetriedFree : retried.blocks = false := not_blocks_of_nonTerminal (by rw [hState]; rfl)
  have hOldState : step.state ≠ .skipped := by
    rw [hFailed]
    rintro ⟨⟩
  have hNewState : retried.state ≠ .skipped := by
    rw [hState]
    rintro ⟨⟩
  refine hRestores.waitingFree hUnique (mem_replace_after hStep hDeclared) hStepId hState ?_ ?_
  · intro row hRow hWaiting hUnmarked dependency hDependency hDepends
    rcases mem_replace hRow with rfl | ⟨hOld, _⟩
    · rw [hStepId] at hUnmarked
      exact absurd hRestores.first hUnmarked
    rcases mem_replace hDependency with
      rfl | ⟨hOldDependency, _⟩
    · exact hRetriedFree
    · exact hFree row hOld hWaiting dependency hOldDependency hDepends
  · intro row hRow hMark dependency hDependency hDepends hUnmarked
    cases hBlocks : dependency.blocks with
    | false => rfl
    | true =>
      have hOldDependency : dependency ∈ rows := by
        rcases mem_replace hDependency with
          rfl | ⟨hOld, _⟩
        · cases hRetriedFree.symm.trans hBlocks
        · exact hOld
      -- the old version of the row depends on the same
      have hOldRow : ∃ old ∈ rows, old.stepId = row.stepId ∧ old.dependsOn = row.dependsOn := by
        rcases mem_replace hRow with rfl | ⟨hOld, _⟩
        · exact ⟨step, hStep, hStepId.symm, (dependsOn_of_declaration hDeclared).symm⟩
        · exact ⟨row, hOld, rfl, rfl⟩
      rcases hOldRow with ⟨old, hOld, hSameId, hSameLinks⟩
      have hReached : DependsThrough rows step.stepId old.stepId := by
        rw [hSameId]
        refine (hRestores.reached _ hMark).mono ?_
        intro other hOther hSkipped
        exact (skipped_replace hRows hStep hDeclared hOldState hNewState hSkipped).mp hOther
      have hThrough := hClears old hOld hReached dependency hOldDependency
        (hSameLinks ▸ hDepends) hBlocks
      have hMarked : dependency.stepId ∈ marks := by
        refine hRestores.marked_of_depends (sound_replace hRows.sound hSound) (hThrough.mono ?_)
        intro other hOther hSkipped
        exact (skipped_replace hRows hStep hDeclared hOldState hNewState hSkipped).mpr hOther
      exact absurd hMarked hUnmarked

end

-- Waiting Steps Stay Free

theorem StepEnded.waitingFree (hFree : WaitingFree rows) (hEnd : StepEnded rows after) :
    WaitingFree after := by
  rcases hEnd with @⟨step, ended, now, hStep, hDeclared, hRunning, hEnded, _, hAfter⟩
  have hStill : ended.state.waiting = false := by
    rcases hEnded with hState | hUnsuccessful
    · rw [hState]
      rfl
    · cases hState : ended.state with
      | failed | cancelled => rfl
      | pending | running | retryable | succeeded | skipped =>
        rw [hState] at hUnsuccessful
        cases hUnsuccessful
  have hNotSkipped : ended.state ≠ .skipped := by
    intro hSkipped
    rw [hSkipped] at hEnded
    rcases hEnded with hEq | hEq <;> cases hEq
  rcases afterEnd_eq_ok hAfter with ⟨_, _, hSkips⟩ | ⟨hStops, rfl⟩
  · refine hSkips.waitingFree ?_
    intro row hRow hWaiting dependency hDependency hDepends hBlocks
    rcases mem_replace hRow with rfl | ⟨hOld, _⟩
    · cases hStill.symm.trans hWaiting
    rcases mem_replace hDependency with
      rfl | ⟨hOldDependency, _⟩
    · rfl
    · cases (hFree row hOld hWaiting dependency hOldDependency hDepends).symm.trans hBlocks
  · refine waitingFree_replace hStep hDeclared hFree hStill ?_
    intro hBlocks
    simp only [EvaluationStepRun.blocks, hStops, hNotSkipped, decide_false, Bool.or_self] at hBlocks
    cases hBlocks

/- Every effect keeps the steps that wait free of blocked dependencies, a retry if it clears all
  that it restores. -/
theorem RowsEffect.waitingFree {retry : Option EvaluationStepRunId} (hRows : RowsSound rows)
    (hIds : (rows.map (·.stepId)).Nodup) (hFree : WaitingFree rows)
    (hClears : ∀ step ∈ rows, retry = some step.id → Clears rows step.stepId)
    (hEffect : RowsEffect rows retry after) : WaitingFree after := by
  have hDeclarations := hEffect.declarations hRows
  cases hEffect with
  | @started step started hStep hDeclared _ _ hState =>
    have hRunningFree : started.blocks = false := not_blocks_of_nonTerminal (by rw [hState]; rfl)
    refine waitingFree_replace hStep hDeclared hFree (by rw [hState]; rfl) ?_
    intro hBlocks
    rw [hRunningFree] at hBlocks
    cases hBlocks
  | ended hEnds =>
    clear hDeclarations
    induction hEnds with
    | refl => exact hFree
    | tail _ hEnd ih => exact hEnd.waitingFree ih
  | cancelled hAfter =>
    intro row hRow hWaiting
    cases ((cancel_before hAfter hRows.sound hRow).1).symm.trans hWaiting
  | retried hStep hDeclared hFailed hState hSound hRestores =>
    have hUnique : Unique EvaluationStepRun.stepId after := by
      have hSameIds := congrArg (List.map StepDeclaration.stepId) hDeclarations
      rw [List.map_map, List.map_map] at hSameIds
      change (after.map (·.stepId)) = rows.map (·.stepId) at hSameIds
      rw [← hSameIds] at hIds
      intro first hFirst second hSecond hSame
      exact List.inj_on_of_nodup_map hIds hFirst hSecond hSame
    exact restores_free hRows hFree hStep hDeclared hFailed hState hSound hRestores hUnique
      (hClears _ hStep rfl)
  | @verified step verified hStep hDeclared hUnsuccessful hState =>
    have hPolicy : verified.failurePolicy = step.failurePolicy :=
      congrArg StepDeclaration.failurePolicy hDeclared
    refine waitingFree_replace hStep hDeclared hFree ?_ ?_
    · rw [hState]
      cases hEnd : step.state with
      | pending | retryable =>
        rw [hEnd] at hUnsuccessful
        cases hUnsuccessful
      | running | succeeded | failed | cancelled
      | skipped => rfl
    · intro hBlocks
      rwa [EvaluationStepRun.blocks, EvaluationStepRun.stopsSuccessors, hState, hPolicy] at hBlocks

-- Eligible Steps

variable {step : EvaluationStepRun} {runId : EvaluationRunId}

theorem role_of_policy (hValid : step.Valid runId) (hPolicy : step.failurePolicy ≠ .stop) :
    (step.role = .score ∧ step.failurePolicy = .continue) ∨
    (step.role = .advisory ∧ step.failurePolicy = .continueAdvisory) := by
  have hAllowed := hValid.policy
  cases hKind : step.failurePolicy with
  | stop => exact absurd hKind hPolicy
  | «continue» =>
    rw [hKind] at hAllowed
    cases hRole : step.role with
    | score => exact .inl ⟨rfl, rfl⟩
    | gate | advisory =>
      rw [hRole] at hAllowed
      cases hAllowed
  | continueAdvisory =>
    rw [hKind] at hAllowed
    cases hRole : step.role with
    | advisory => exact .inr ⟨rfl, rfl⟩
    | gate | score =>
      rw [hRole] at hAllowed
      cases hAllowed

/- A dependency that has ended and does not block allows its successors. -/
theorem allows_of_not_blocks (hValid : step.Valid runId) (hEnded : step.state.nonTerminal = false)
    (hFree : step.blocks = false) : step.allowsSuccessors = true := by
  simp only [EvaluationStepRun.blocks, EvaluationStepRun.stopsSuccessors, Bool.or_eq_false_iff,
    decide_eq_false_iff_not] at hFree
  unfold EvaluationStepRun.allowsSuccessors
  cases hState : step.state with
  | pending | running | retryable =>
    rw [hState] at hEnded
    cases hEnded
  | succeeded => rfl
  | skipped => exact absurd hState hFree.1
  | failed | cancelled =>
    have hPolicy : step.failurePolicy ≠ .stop := by
      intro hStop
      have hNot := hFree.2
      rw [hState, hStop] at hNot
      cases hNot
    rcases role_of_policy hValid hPolicy with ⟨hRole, hKind⟩ | ⟨hRole, hKind⟩ <;>
    · rw [hRole, hKind]
      rfl

variable {store : EvaluationStore}

/- Among the steps that wait, one that comes first in the order of the dependencies can be
  started. -/
theorem exists_eligible {run : EvaluationRun} (hSound : store.Sound)
    (hRun : run ∈ store.runs) (hFree : WaitingFree run.steps)
    (hCancel : run.cancellationRequested = false)
    (hIdle : ∀ step ∈ run.steps, step.state ≠ .running)
    (hWaits : ∃ step ∈ run.steps, step.state.waiting = true) :
    ∃ step ∈ run.steps, step.state.waiting = true ∧ run.eligible step = true := by
  rcases hSound.linked.exists_rank hRun with ⟨rank, hRank⟩
  have hValid := hSound.valid run hRun
  -- a step that waits with the least rank
  have hLeast : ∃ step ∈ run.steps, step.state.waiting = true ∧ ∀ other ∈ run.steps,
      other.state.waiting = true → rank step.stepId ≤ rank other.stepId := by
    let waits := fun n => ∃ step ∈ run.steps, step.state.waiting = true ∧ rank step.stepId = n
    have hSome : ∃ n, waits n := by
      rcases hWaits with ⟨step, hStep, hWaiting⟩
      exact ⟨_, step, hStep, hWaiting, rfl⟩
    classical
    rcases Nat.find_spec hSome with ⟨step, hStep, hWaiting, hMin⟩
    refine ⟨step, hStep, hWaiting, ?_⟩
    intro other hOther hOtherWaiting
    rw [hMin]
    exact Nat.find_min' hSome ⟨other, hOther, hOtherWaiting, rfl⟩
  rcases hLeast with ⟨step, hStep, hWaiting, hFirst⟩
  refine ⟨step, hStep, hWaiting, ?_⟩
  have hStarted := started_of_open (hSound.derived run hRun)
    hStep (EvaluationStepRun.waiting_nonTerminal hWaiting)
    hCancel
  have hCleaned : step.state = .pending ∨ step.cleanupVerified = true := by
    cases hState : step.state with
    | pending => exact .inl rfl
    | retryable => exact .inr (((hSound.linked.rows run hRun).sound step hStep).retryable hState)
    | running | succeeded | failed | cancelled | skipped =>
      rw [hState] at hWaiting
      cases hWaiting
  have hReady : ∀ dependency ∈ run.steps, dependency.stepId ∈ step.dependsOn →
      dependency.allowsSuccessors = true := by
    intro dependency hDependency hDepends
    have hLower := hRank step hStep _ hDepends
    have hEnded : dependency.state.nonTerminal = false := by
      cases hState : dependency.state with
      | succeeded | failed | cancelled | skipped => rfl
      | running => exact absurd hState (hIdle dependency hDependency)
      | pending | retryable =>
        have hLess := hFirst dependency hDependency (by rw [hState]; rfl)
        omega
    exact allows_of_not_blocks (hValid.steps dependency hDependency) hEnded
      (hFree step hStep hWaiting dependency hDependency hDepends)
  simp only [EvaluationRun.eligible, Bool.and_eq_true, Bool.or_eq_true, decide_eq_true_eq,
    Bool.not_eq_eq_eq_not, Bool.not_true, List.any_eq_false, not_and]
  refine ⟨⟨⟨⟨hStarted, hCancel⟩, hWaiting⟩, hCleaned⟩, ?_⟩
  intro dependency hDependency hDepends
  rw [hReady dependency hDependency hDepends]
  rintro ⟨⟩

-- Runs Of The Machine

namespace EvaluationStore

variable (store)

def RetryClears : EvaluationOperation → Prop
| .retryStep _ stepRunId _ _ _ =>
  ∀ run ∈ store.runs, ∀ step ∈ run.steps, step.id = stepRunId → Clears run.steps step.stepId
| _ => True

def Free : Prop := ∀ run ∈ store.runs, WaitingFree run.steps

variable {store}

theorem free_perform {after : EvaluationStore} {operation : EvaluationOperation}
    (hSound : store.Sound) (hFree : store.Free) (hClears : store.RetryClears operation)
    (hPerform : store.perform operation = .ok after) : after.Free := by
  have hFollows := perform_follows hSound hPerform
  intro new hNew
  rcases hFollows.runs new hNew with hPending | ⟨run, hRun, rfl | ⟨_, hEffect⟩⟩
  · intro step hStep _ dependency hDependency _
    exact not_blocks_of_nonTerminal (by rw [hPending dependency hDependency]; rfl)
  · exact hFree new hRun
  · refine hEffect.waitingFree (hSound.linked.rows run hRun)
      (hSound.valid run hRun).stepIds (hFree run hRun) ?_
    intro step hStep hRetry
    cases operation with
    | retryStep _ stepRunId _ _ _ => exact hClears run hRun step hStep (Option.some.inj hRetry).symm
    | _ => cases hRetry

end EvaluationStore

/- In every run whose retries clear the steps that they restore: if a run is not cancelled, none of
  its steps runs and some step waits, then one can be started. -/
theorem evaluation_never_stalls {store : EvaluationStore}
    (hMachine : evaluationMachine.Run RetryClears store) {run : EvaluationRun}
    (hRun : run ∈ store.runs) (hCancel : run.cancellationRequested = false)
    (hIdle : ∀ step ∈ run.steps, step.state ≠ .running)
    (hWaits : ∃ step ∈ run.steps, step.state.waiting = true) :
    ∃ step ∈ run.steps, step.state.waiting = true ∧ run.eligible step = true := by
  have hBoth : store.Sound ∧ store.Free := by
    refine hMachine.invariant (I := fun store => store.Sound ∧ store.Free) ?_ ?_
    · rintro _ rfl
      exact ⟨empty_sound, List.forall_mem_nil _⟩
    · intro before operation after hBefore hClears hStep
      have hPerform := eq_ok_of_toOption hStep
      exact ⟨(perform_follows hBefore.1 hPerform).sound,
        free_perform hBefore.1 hBefore.2 hClears hPerform⟩
  exact exists_eligible hBoth.1 hRun (hBoth.2 run hRun) hCancel hIdle hWaits

-- Examples

namespace EvaluationSample

def retry (index revision : Nat) : Option EvaluationOperation :=
  (Revision.new revision).map (fun expected => .retryStep ⟨1⟩ (newId index)
    { courseId := ⟨1⟩, expectedRevision := expected }
    0 "trace")

/- Two gates, and one that depends on both. -/
def joined : EvaluationSpec := gradedSpec [gate "a" [], gate "b" [], gate "c" ["a", "b"]] 0

/- Both gates fail, the first is retried and passes. -/
def stalling : List EvaluationOperation :=
  opening joined ++
    [claim 0, complete 0 1 (failed true), claim 1, complete 1 1 (failed true)] ++
    (retry 0 5).toList ++
    [claim 0, complete 0 2 (passed none)]

def retrying : List EvaluationOperation :=
  opening (gradedSpec gates 0) ++
    [claim 0, complete 0 1 (failed true)] ++
    (retry 0 3).toList

/- The run is not cancelled, no step of it runs, and some step waits. -/
def idle (run : EvaluationRun) : Bool :=
  !run.cancellationRequested && run.steps.all (fun step => decide (step.state ≠ .running)) &&
    run.steps.any (·.state.waiting)

/- The steps that depend on the retried step depend on no other step that blocks. -/
def clearsCheck (store : EvaluationStore) : EvaluationOperation → Bool
| .retryStep _ stepRunId _ _ _ =>
  store.runs.all (fun run => run.steps.all (fun step =>
    decide (step.id ≠ stepRunId) || run.steps.all (fun row => run.steps.all
      (fun dependency => !(decide (dependency.stepId ∈ row.dependsOn) && dependency.blocks) ||
        decide (dependency.stepId = step.stepId)))))
| _ => true

end EvaluationSample

open EvaluationSample

theorem evaluation_never_stalls_retrying : ∃ store : EvaluationStore,
    evaluationMachine.Run RetryClears store ∧
    ∃ run ∈ store.runs, idle run = true ∧ ∃ step ∈ run.steps,
      step.state.waiting = true ∧ run.eligible step = true := by
  have hCheck : ∀ store operation, clearsCheck store operation = true →
      RetryClears store operation := by
    intro store operation hPassed
    cases operation with
    | retryStep _ stepRunId _ _ _ =>
      intro run hRun step hStep hId row hRow _ dependency hDependency hDepends hBlocks
      simp only [clearsCheck, List.all_eq_true] at hPassed
      have hStepPassed := hPassed run hRun step hStep
      simp only [hId, ne_eq, not_true_eq_false, decide_false, Bool.false_or, List.all_eq_true]
        at hStepPassed
      have hSame := hStepPassed row hRow dependency hDependency
      simp only [hDepends, hBlocks, decide_true, Bool.and_self, Bool.not_true, Bool.false_or,
        decide_eq_true_eq] at hSame
      rw [hSame]
      exact .first
    | _ => trivial
  have hFound : ∃ store, evaluationMachine.Run RetryClears store ∧
      ∃ run ∈ store.runs, idle run = true :=
    Machine.exists_run_of_guarded retrying (s := empty) rfl hCheck (by decide +kernel)
  rcases hFound with ⟨store, hMachine, run, hRun, hIdle⟩
  refine ⟨store, hMachine, run, hRun, hIdle, ?_⟩
  simp only [idle, Bool.and_eq_true, Bool.not_eq_eq_eq_not, Bool.not_true, List.all_eq_true,
    List.any_eq_true, decide_eq_true_eq] at hIdle
  exact evaluation_never_stalls hMachine hRun hIdle.1.1 hIdle.1.2 hIdle.2

/- Two failed gates hold a third one back. The retry of one of them restores it, and it then waits
  for good. -/
theorem evaluation_stalls : ∃ store : EvaluationStore, evaluationMachine.Reachable store ∧
    ∃ run ∈ store.runs, idle run = true ∧ ∀ step ∈ run.steps, run.eligible step = false := by
  exact Machine.exists_reachable stalling (s := empty) rfl (by decide +kernel)

end LabWeaver
