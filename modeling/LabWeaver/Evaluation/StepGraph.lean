import LabWeaver.Evaluation.StepRows

/-
  This file shows what the operations on the step rows keep: the declared parts, what the state of
  a row tells of its record, and that every skipped step has a dependency that holds it back.
-/

namespace LabWeaver

open Outcome Propagation.Rule EvaluationStepRun

-- Single Rows

variable {step : EvaluationStepRun}

namespace EvaluationStepRun

variable (step)

/- The step holds its successors back for good. -/
def blocks : Bool :=
  decide (step.state = .skipped) || step.stopsSuccessors

/- What the state of a row tells of its record. -/
structure Sound : Prop where
  unawarded : step.state ≠ .succeeded → step.awardedScore = none
  skipped : step.state = .skipped → step.diagnosticCode = some dependencyFailedCode ∧
    step.cleanupVerified = true
  retryable : step.state = .retryable → step.cleanupVerified = true

variable {step}

theorem blocks_of_skipped (hState : step.state = .skipped) : step.blocks = true := by
  simp [blocks, hState]

theorem blocks_of_stopsSuccessors (hStops : step.stopsSuccessors = true) : step.blocks = true := by
  simp [blocks, hStops]

/- A step that blocks its successors has ended. -/
theorem nonTerminal_of_blocks (hBlocks : step.blocks = true) : step.state.nonTerminal = false := by
  simp only [blocks, stopsSuccessors, Bool.or_eq_true,
    Bool.and_eq_true, decide_eq_true_eq] at hBlocks
  cases hState : step.state with
  | succeeded | failed | cancelled | skipped => rfl
  | pending | running | retryable => simp [hState, EvaluationStepRunState.unsuccessful] at hBlocks

theorem waiting_nonTerminal {state : EvaluationStepRunState} (hWaiting : state.waiting = true) :
    state.nonTerminal = true := by
  cases state with
  | pending | retryable => rfl
  | running | succeeded | failed | cancelled | skipped => cases hWaiting

theorem waiting_of_blocks (hBlocks : step.blocks = true) : step.state.waiting = false := by
  cases hWaiting : step.state.waiting with
  | false => rfl
  | true =>
    cases (nonTerminal_of_blocks hBlocks).symm.trans (waiting_nonTerminal hWaiting)

end EvaluationStepRun

def SkipsJustified (rows : List EvaluationStepRun) : Prop :=
  ∀ step ∈ rows, step.state = .skipped → ∃ dependency ∈ rows, dependency.stepId ∈ step.dependsOn ∧
    dependency.blocks = true

def WaitingFree (rows : List EvaluationStepRun) : Prop :=
  ∀ step ∈ rows, step.state.waiting = true → ∀ dependency ∈ rows,
    dependency.stepId ∈ step.dependsOn → dependency.blocks = false

variable {rows : List EvaluationStepRun}

theorem loadSteps_eq_ok {steps : List EvaluationStepRun} (hLoad : loadSteps rows = .ok steps) :
    steps = rows ∧ ∀ row ∈ rows, row.Valid row.runId := by
  simp only [loadSteps, check_bind_eq_ok, each_eq_ok,
    mapError_eq_ok, validate_eq_ok, Except.ok.injEq] at hLoad
  exact ⟨hLoad.2.symm, hLoad.1⟩

variable {after : List EvaluationStepRun}

theorem saveStep_eq_ok :
    saveStep rows step = .ok after ↔ storableStep step = .ok () ∧ step.id ∈ rows.map (·.id) ∧
      Rows.replace (·.id) rows step = after := by
  simp only [saveStep, check_bind_eq_ok, ensure_eq_ok, Except.ok.injEq]

theorem replace_declarations {after : EvaluationStepRun}
    (hUnique : Rows.Unique EvaluationStepRun.id rows) (hStep : step ∈ rows)
    (hSame : after.declaration = step.declaration) :
    (Rows.replace EvaluationStepRun.id rows after).map (·.declaration) =
      rows.map (·.declaration) := by
  rw [Rows.replace, List.map_map]
  apply List.map_congr_left
  intro row hRow
  simp only [Function.comp]
  split
  · rename_i hId
    have hAfter : after.id = step.id := congrArg StepDeclaration.id hSame
    rwa [hUnique row hRow step hStep (hId.trans hAfter)]
  · rfl

-- Skipping

structure Skips (failedStepId : String) (now : UtcTimestamp) (marks : List String)
    (rows after : List EvaluationStepRun) : Prop where
  rewrites : List.Forall₂ (fun step skipped => skipped = step ∨ step.state.waiting = true ∧
    skippedStep now step = .ok skipped ∧ skipped.stepId ∈ marks ∧
    ∃ dependency ∈ skipped.dependsOn, dependency ∈ marks)
    rows after
  marked : ∀ mark ∈ marks, mark = failedStepId ∨ ∃ step ∈ after,
    step.stepId = mark ∧ step.state = .skipped
  first : failedStepId ∈ marks
  settled : ∀ step ∈ after, step.state.waiting = true →
    ∀ dependency ∈ step.dependsOn, dependency ∉ marks

theorem skipDependencySuccessors_skips {failedStepId : String} {now : UtcTimestamp}
    (hSkip : skipDependencySuccessors rows failedStepId now = .ok after) :
    ∃ marks, Skips failedStepId now marks rows after := by
  simp only [skipDependencySuccessors, bind_eq_ok, Prod.exists, Except.ok.injEq] at hSkip
  rcases hSkip with ⟨steps, hLoad, marks, _, hSpread, rfl⟩
  rcases loadSteps_eq_ok hLoad with ⟨rfl, _⟩
  have hFuel : ((skipRule now).unmarked [failedStepId] steps).card < steps.length + 1 :=
    Nat.lt_succ_of_le (unmarked_card_le _ _)
  rcases spread_sound hFuel hSpread with ⟨hPassed, hSettled⟩
  refine ⟨marks, ?_, ?_, ?_, ?_⟩
  · refine hPassed.rewrites.imp ?_
    rintro step skipped (rfl | ⟨hAct, hLinked, hMark⟩)
    · exact .inl rfl
    · rcases skipReaction_eq_ok hAct with ⟨_, _, hSame⟩
      rcases hSame with rfl | ⟨hWaiting, hSkipped⟩
      · exact .inl rfl
      · have hDeclared := skipReaction_declaration hAct
        have hStepId : skipped.stepId = step.stepId := congrArg StepDeclaration.stepId hDeclared
        have hDepends : skipped.dependsOn = step.dependsOn :=
          congrArg StepDeclaration.dependsOn hDeclared
        refine .inr ⟨hWaiting, hSkipped, ?_, ?_⟩
        · rwa [hStepId]
        · rw [hDepends]
          exact linked_iff.mp hLinked
  · intro mark hMark
    rcases hPassed.reacted mark hMark with hFirst | hReacted
    · exact .inl (List.mem_singleton.mp hFirst)
    · rcases hReacted with ⟨i, step, skipped, _, hAfter, hKey, hAct, _⟩
      refine .inr ⟨skipped, List.mem_of_getElem? hAfter, ?_, (skipReaction_eq_ok hAct).1⟩
      have hStepId : skipped.stepId = step.stepId := congrArg StepDeclaration.stepId
        (skipReaction_declaration hAct)
      rwa [hStepId]
  · exact hPassed.grows _ List.mem_cons_self
  · intro step hStep hWaiting dependency hDepends hMark
    have hLinked : (skipRule now).linked marks step = true :=
      linked_iff.mpr ⟨dependency, hDepends, hMark⟩
    rcases hSettled step hStep hLinked with hNone | hSelf
    · have hReacts : skipReaction now step = some (skippedStep now step) := by
        unfold skipReaction
        cases hState : step.state with
        | pending | retryable => rfl
        | running | succeeded | failed | cancelled
        | skipped =>
          rw [hState] at hWaiting
          cases hWaiting
      have hNone : skipReaction now step = none := hNone
      cases hReacts.symm.trans hNone
    · have hSkipped := (skipReaction_eq_ok hSelf.1).1
      rw [hSkipped] at hWaiting
      cases hWaiting

variable {marks : List String} {rows after : List EvaluationStepRun}

namespace Skips

variable {failedStepId : String} {now : UtcTimestamp}

section

variable (hSkips : Skips failedStepId now marks rows after)

include hSkips

theorem declarations : after.map (·.declaration) = rows.map (·.declaration) := by
  refine (Propagation.map_eq_of_forall₂ (hSkips.rewrites.imp ?_)).symm
  rintro step skipped (rfl | ⟨_, hSkipped, _⟩)
  · rfl
  · rcases skippedStep_eq_ok.mp hSkipped with ⟨_, _, _, rfl⟩
    rfl

theorem before (hStep : step ∈ after) :
    step ∈ rows ∨ step.state = .skipped ∧ step.stepId ∈ marks ∧ step.Sound ∧
      ∃ dependency ∈ step.dependsOn, dependency ∈ marks := by
  rcases exists_before hSkips.rewrites hStep with ⟨old, hOld, rfl | ⟨_, hSkipped, hMark, hLink⟩⟩
  · exact .inl hOld
  · rcases skippedStep_eq_ok.mp hSkipped with ⟨_, _, _, rfl⟩
    exact .inr ⟨rfl, hMark, ⟨fun _ => rfl, fun _ => ⟨rfl, rfl⟩, fun h => by cases h⟩, hLink⟩

theorem stays (hStep : step ∈ rows) (hStill : step.state.waiting = false) : step ∈ after := by
  rcases exists_after hSkips.rewrites hStep with ⟨new, hNew, rfl | ⟨hWaiting, _⟩⟩
  · exact hNew
  · cases hStill.symm.trans hWaiting

theorem sound (hSound : ∀ step ∈ rows, step.Sound) : ∀ step ∈ after, step.Sound := by
  intro step hStep
  rcases hSkips.before hStep with hOld | ⟨_, _, hNew, _⟩
  · exact hSound step hOld
  · exact hNew

/- The skipped steps are blocked by the failed step or by one another. -/
theorem justified (hJustified : SkipsJustified rows) {failed : EvaluationStepRun}
    (hFailed : failed ∈ rows) (hId : failed.stepId = failedStepId)
    (hStops : failed.stopsSuccessors = true) : SkipsJustified after := by
  have hBlocks := blocks_of_stopsSuccessors hStops
  intro step hStep hSkipped
  rcases hSkips.before hStep with hOld | ⟨_, _, _, hLink⟩
  · rcases hJustified step hOld hSkipped with ⟨dependency, hDependency, hDepends, hBlock⟩
    exact ⟨dependency, hSkips.stays hDependency (waiting_of_blocks hBlock), hDepends, hBlock⟩
  · rcases hLink with ⟨mark, hDepends, hMark⟩
    rcases hSkips.marked mark hMark with
      rfl | ⟨dependency, hDependency, rfl, hState⟩
    · refine ⟨failed, ?_, hId ▸ hDepends, hBlocks⟩
      exact hSkips.stays hFailed (waiting_of_blocks hBlocks)
    · exact ⟨dependency, hDependency, hDepends, blocks_of_skipped hState⟩

/- If only the failed step blocks steps that wait, no step is left that waits for a blocked one. -/
theorem waitingFree (hOnly : ∀ step ∈ rows, step.state.waiting = true →
        ∀ dependency ∈ rows, dependency.stepId ∈ step.dependsOn → dependency.blocks = true →
          dependency.stepId = failedStepId) :
    WaitingFree after := by
  intro step hStep hWaiting dependency hDependency hDepends
  have hUnmarked := hSkips.settled step hStep hWaiting _ hDepends
  have hOld : step ∈ rows := by
    rcases hSkips.before hStep with hOld | ⟨hSkipped, _⟩
    · exact hOld
    · rw [hSkipped] at hWaiting
      cases hWaiting
  rcases hSkips.before hDependency with hBefore | ⟨_, hMark, _⟩
  · cases hBlocks : dependency.blocks with
    | false => rfl
    | true =>
      have hId := hOnly step hOld hWaiting dependency hBefore hDepends hBlocks
      rw [hId] at hUnmarked
      exact absurd hSkips.first hUnmarked
  · exact absurd hMark hUnmarked

end

end Skips

-- Restoring

/- The steps that depend on a step, directly or through skipped steps. -/
inductive DependsThrough (rows : List EvaluationStepRun) (first : String) : String → Prop where
| first : DependsThrough rows first first
| next {row : EvaluationStepRun} {dependency : String} (hRow : row ∈ rows)
    (hSkipped : row.state = .skipped) (hDepends : dependency ∈ row.dependsOn)
    (hBefore : DependsThrough rows first dependency) :
    DependsThrough rows first row.stepId

structure Restores (retriedStepId : String) (marks : List String)
    (rows after : List EvaluationStepRun) : Prop where
  rewrites : List.Forall₂ (fun step restored => restored = step ∨ step.state = .skipped ∧
    restoredStep step = .ok restored ∧ restored.stepId ∈ marks)
    rows after
  marked : ∀ mark ∈ marks, mark = retriedStepId ∨ ∃ step ∈ after,
    step.stepId = mark ∧ step.state = .pending
  first : retriedStepId ∈ marks
  reached : ∀ mark ∈ marks, DependsThrough rows retriedStepId mark
  settled : ∀ step ∈ after, step.state = .skipped →
    step.diagnosticCode = some dependencyFailedCode →
    ∀ dependency ∈ step.dependsOn, dependency ∉ marks

variable {retriedStepId : String}

theorem restoreRule_restores {marks : List String}
    (hSpread : restoreRule.spread (rows.length + 1) [retriedStepId] rows = .ok (marks, after)) :
    Restores retriedStepId marks rows after := by
  have hFuel : (restoreRule.unmarked [retriedStepId] rows).card < rows.length + 1 :=
    Nat.lt_succ_of_le (unmarked_card_le _ _)
  rcases spread_sound hFuel hSpread with ⟨hPassed, hSettled⟩
  constructor
  · refine hPassed.rewrites.imp ?_
    rintro step restored (rfl | ⟨hAct, _, hMark⟩)
    · exact .inl rfl
    · rcases restoreReaction_eq_ok hAct with ⟨hState, _, hRestored⟩
      have hStepId : restored.stepId = step.stepId := congrArg StepDeclaration.stepId
        (restoreReaction_declaration hAct)
      refine .inr ⟨hState, hRestored, ?_⟩
      rwa [hStepId]
  · intro mark hMark
    rcases hPassed.reacted mark hMark with hFirst | hReacted
    · exact .inl (List.mem_singleton.mp hFirst)
    · rcases hReacted with ⟨i, step, restored, _, hAfter, hKey, hAct, _⟩
      have hRestored := (restoreReaction_eq_ok hAct).2.2
      rcases restoredStep_eq_ok.mp hRestored with ⟨_, _, _, rfl⟩
      exact .inr ⟨_, List.mem_of_getElem? hAfter, hKey, rfl⟩
  · exact hPassed.grows _ List.mem_cons_self
  · refine spread_closed ?_ ?_ hSpread
    · intro row hRow _ hAct dependency hDepends hBefore
      exact .next hRow (restoreReaction_eq_ok hAct).1 hDepends hBefore
    · intro mark hMark
      rw [List.mem_singleton.mp hMark]
      exact .first
  · intro step hStep hState hCode dependency hDepends hMark
    have hLinked : restoreRule.linked marks step = true :=
      linked_iff.mpr ⟨dependency, hDepends, hMark⟩
    have hReacts : restoreReaction step = some (restoredStep step) := by
      unfold restoreReaction
      rw [if_pos ⟨hState, hCode⟩]
    rcases hSettled step hStep hLinked with hNone | hSelf
    · have hNone : restoreReaction step = none := hNone
      cases hReacts.symm.trans hNone
    · have hRestored := (restoreReaction_eq_ok hSelf.1).2.2
      rcases restoredStep_eq_ok.mp hRestored with ⟨_, _, _, hSame⟩
      rw [hSame] at hState
      cases hState

theorem restoreDependencySkippedSuccessors_eq_ok
    (hRestore : restoreDependencySkippedSuccessors rows retriedStepId = .ok after) :
    ∃ marks, restoreRule.spread (rows.length + 1) [retriedStepId] rows = .ok (marks, after) := by
  simp only [restoreDependencySkippedSuccessors, bind_eq_ok,
    Prod.exists, Except.ok.injEq] at hRestore
  rcases hRestore with ⟨steps, hLoad, marks, _, hSpread, rfl⟩
  rcases loadSteps_eq_ok hLoad with ⟨rfl, _⟩
  exact ⟨marks, hSpread⟩

namespace Restores

theorem declarations (hRestores : Restores retriedStepId marks rows after) :
    after.map (·.declaration) = rows.map (·.declaration) := by
  refine (Propagation.map_eq_of_forall₂ (hRestores.rewrites.imp ?_)).symm
  rintro step restored (rfl | ⟨_, hRestored, _⟩)
  · rfl
  · rcases restoredStep_eq_ok.mp hRestored with ⟨_, _, _, rfl⟩
    rfl

section

variable (hRestores : Restores retriedStepId marks rows after)

include hRestores

/- A row is left as it is or waits again. -/
theorem before (hStep : step ∈ after) :
    step ∈ rows ∨ step.state = .pending ∧ step.stepId ∈ marks ∧ step.Sound := by
  rcases exists_before hRestores.rewrites hStep with ⟨old, hOld, rfl | ⟨_, hRestored, hMark⟩⟩
  · exact .inl hOld
  · rcases restoredStep_eq_ok.mp hRestored with ⟨_, _, _, rfl⟩
    exact .inr ⟨rfl, hMark, ⟨fun _ => rfl, (fun h => by cases h), (fun h => by cases h)⟩⟩

/- A row that was not skipped stays, and a skipped row that does not stay is marked. -/
theorem stays (hStep : step ∈ rows) :
    step ∈ after ∨ step.state = .skipped ∧ step.stepId ∈ marks := by
  rcases exists_after hRestores.rewrites hStep with ⟨new, hNew, rfl | ⟨hState, hRestored, hMark⟩⟩
  · exact .inl hNew
  · rcases restoredStep_eq_ok.mp hRestored with ⟨_, _, _, rfl⟩
    exact .inr ⟨hState, hMark⟩

theorem sound (hSound : ∀ step ∈ rows, step.Sound) : ∀ step ∈ after, step.Sound := by
  intro step hStep
  rcases hRestores.before hStep with hOld | ⟨_, _, hNew⟩
  · exact hSound step hOld
  · exact hNew

theorem justified (hSound : ∀ step ∈ rows, step.Sound)
    (hJustified : ∀ step ∈ rows, step.state = .skipped → ∃ dependency ∈ rows,
      dependency.stepId ∈ step.dependsOn ∧
      (dependency.blocks = true ∨ dependency.stepId = retriedStepId)) : SkipsJustified after := by
  intro step hStep hSkipped
  have hOld : step ∈ rows := by
    rcases hRestores.before hStep with hOld | ⟨hPending, _⟩
    · exact hOld
    · cases hPending.symm.trans hSkipped
  have hCode := ((hSound step hOld).skipped hSkipped).1
  have hUnmarked := hRestores.settled step hStep hSkipped hCode
  rcases hJustified step hOld hSkipped with ⟨dependency, hDependency, hDepends, hBlocks | hRetried⟩
  · rcases hRestores.stays hDependency with hStays | ⟨_, hMark⟩
    · exact ⟨dependency, hStays, hDepends, hBlocks⟩
    · exact absurd hMark (hUnmarked _ hDepends)
  · have hFirst := hRestores.first
    rw [← hRetried] at hFirst
    exact absurd hFirst (hUnmarked _ hDepends)

variable {retried : EvaluationStepRun}

theorem marked_free (hUnique : Rows.Unique EvaluationStepRun.stepId after)
    (hRetried : retried ∈ rows) (hId : retried.stepId = retriedStepId)
    (hState : retried.state = .retryable) (hStep : step ∈ after) (hMark : step.stepId ∈ marks) :
    step.blocks = false := by
  have hWaiting : step.state.waiting = true := by
    rcases hRestores.marked _ hMark with hFirst | ⟨other, hOther, hSame, hPending⟩
    · rcases hRestores.stays hRetried with hStays | ⟨hSkipped, _⟩
      · rw [hUnique step hStep retried hStays (hFirst.trans hId.symm), hState]
        rfl
      · cases hState.symm.trans hSkipped
    · rw [hUnique step hStep other hOther hSame.symm, hPending]
      rfl
  cases hBlocks : step.blocks with
  | false => rfl
  | true =>
    cases (waiting_of_blocks hBlocks).symm.trans hWaiting

/- No step waits for a blocked one if none of the restored steps does. -/
theorem waitingFree (hUnique : Rows.Unique EvaluationStepRun.stepId after)
    (hRetried : retried ∈ rows) (hId : retried.stepId = retriedStepId)
    (hState : retried.state = .retryable)
    (hWaiting : ∀ step ∈ rows, step.state.waiting = true → step.stepId ∉ marks →
      ∀ dependency ∈ rows, dependency.stepId ∈ step.dependsOn → dependency.blocks = false)
    (hClears : ∀ step ∈ rows, step.stepId ∈ marks → ∀ dependency ∈ rows,
      dependency.stepId ∈ step.dependsOn → dependency.stepId ∉ marks →
      dependency.blocks = false) : WaitingFree after := by
  intro step hStep hStepWaiting dependency hDependency hDepends
  by_cases hMark : dependency.stepId ∈ marks
  · exact hRestores.marked_free hUnique hRetried hId hState hDependency hMark
  -- a dependency that is not marked is as it was
  have hOldDependency : dependency ∈ rows := by
    rcases hRestores.before hDependency with hOld | ⟨_, hMarked, _⟩
    · exact hOld
    · exact absurd hMarked hMark
  rcases exists_before hRestores.rewrites hStep with ⟨old, hOld, rfl | ⟨_, hRestored, hMarked⟩⟩
  · by_cases hStepMark : step.stepId ∈ marks
    · exact hClears step hOld hStepMark dependency hOldDependency hDepends hMark
    · exact hWaiting step hOld hStepWaiting hStepMark dependency hOldDependency hDepends
  · rcases restoredStep_eq_ok.mp hRestored with ⟨_, _, _, rfl⟩
    exact hClears old hOld hMarked dependency hOldDependency hDepends hMark

end

end Restores

end LabWeaver
