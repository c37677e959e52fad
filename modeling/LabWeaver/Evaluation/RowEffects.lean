import LabWeaver.Evaluation.StepGraph
import LabWeaver.Evaluation.ControlPlane

/-
  This file lists what an operation can do to the step rows of a run, and what these effects keep.
-/

namespace LabWeaver

open Outcome EvaluationStore EvaluationStepRun Rows

-- Replacing A Row

section

variable {rows : List EvaluationStepRun} {step after : EvaluationStepRun}

theorem ids_of_declarations {after : List EvaluationStepRun}
    (hSame : after.map (·.declaration) = rows.map (·.declaration)) :
    after.map (·.id) = rows.map (·.id) := by
  have hIds := congrArg (List.map StepDeclaration.id) hSame
  rwa [List.map_map, List.map_map] at hIds

theorem sound_replace (hSound : ∀ row ∈ rows, row.Sound) (hAfter : after.Sound) :
    ∀ row ∈ replace EvaluationStepRun.id rows after, row.Sound := by
  intro row hRow
  rcases mem_replace hRow with rfl | ⟨hOld, _⟩
  · exact hAfter
  · exact hSound row hOld

variable (hUnique : Unique EvaluationStepRun.id rows) (hStep : step ∈ rows)
  (hDeclared : after.declaration = step.declaration)

include hDeclared

theorem id_of_declaration : after.id = step.id := congrArg StepDeclaration.id hDeclared

theorem stepId_of_declaration : after.stepId = step.stepId :=
  congrArg StepDeclaration.stepId hDeclared

theorem dependsOn_of_declaration : after.dependsOn = step.dependsOn :=
  congrArg StepDeclaration.dependsOn hDeclared

include hStep

/- The new row is in the new table. -/
theorem mem_replace_after : after ∈ replace EvaluationStepRun.id rows after :=
  mem_replace_self hStep (id_of_declaration hDeclared).symm

/- Waiting steps stay free if the new row neither waits nor starts to block. -/
theorem waitingFree_replace (hFree : WaitingFree rows) (hStill : after.state.waiting = false)
    (hBlocks : after.blocks = true → step.blocks = true) :
    WaitingFree (replace EvaluationStepRun.id rows after) := by
  intro row hRow hWaiting dependency hDependency hDepends
  rcases mem_replace hRow with rfl | ⟨hOld, _⟩
  · cases hStill.symm.trans hWaiting
  rcases mem_replace hDependency with
    rfl | ⟨hOldDependency, _⟩
  · have hFreeStep := hFree row hOld hWaiting step hStep
      (stepId_of_declaration hDeclared ▸ hDepends)
    cases hAfter : dependency.blocks with
    | false => rfl
    | true =>
      cases (hBlocks hAfter).symm.trans hFreeStep
  · exact hFree row hOld hWaiting dependency hOldDependency hDepends

include hUnique

theorem mem_replace_other {other : EvaluationStepRun} (hOther : other ∈ rows) (hNe : other ≠ step) :
    other ∈ replace EvaluationStepRun.id rows after := by
  refine mem_replace_of_ne hOther ?_
  intro hSame
  apply hNe
  exact hUnique other hOther step hStep (hSame.trans (id_of_declaration hDeclared))

/- Skips stay justified if the row does not become skipped and goes on blocking if it blocked. -/
theorem justified_replace (hJustified : SkipsJustified rows) (hSkipped : after.state ≠ .skipped)
    (hBlocks : step.blocks = true → after.blocks = true) :
    SkipsJustified (replace EvaluationStepRun.id rows after) := by
  intro row hRow hState
  rcases mem_replace hRow with rfl | ⟨hOld, _⟩
  · exact absurd hState hSkipped
  rcases hJustified row hOld hState with ⟨dependency, hDependency, hDepends, hBlock⟩
  by_cases hSame : dependency = step
  · subst hSame
    refine ⟨after, mem_replace_after hStep hDeclared, ?_, hBlocks hBlock⟩
    rwa [stepId_of_declaration hDeclared]
  · exact ⟨dependency, mem_replace_other hUnique hStep hDeclared hDependency
      hSame, hDepends, hBlock⟩

end

variable {rows after : List EvaluationStepRun} {step : EvaluationStepRun} {now : UtcTimestamp}

theorem afterEnd_eq_ok (hAfter : afterEnd rows step now = .ok after) :
    (step.stopsSuccessors = true ∧ ∃ marks, Skips step.stepId now marks
      (replace (·.id) rows step) after) ∨
    (step.stopsSuccessors = false ∧ after = replace (·.id) rows step) := by
  simp only [afterEnd, bind_eq_ok, saveStep_eq_ok] at hAfter
  rcases hAfter with ⟨_, ⟨_, _, rfl⟩, hRest⟩
  split at hRest
  · rename_i hStops
    exact .inl ⟨hStops, skipDependencySuccessors_skips hRest⟩
  · rename_i hStops
    cases hRest
    exact .inr ⟨eq_false_of_ne_true hStops, rfl⟩

variable {row : EvaluationStepRun}

theorem afterEnd_stays (hAfter : afterEnd rows step now = .ok after)
    (hRow : row ∈ rows)
    (hId : row.id ≠ step.id) (hStill : row.state.waiting = false) : row ∈ after := by
  have hReplaced : row ∈ replace EvaluationStepRun.id rows step :=
    mem_replace_of_ne hRow hId
  rcases afterEnd_eq_ok hAfter with ⟨_, _, hSkips⟩ | ⟨_, rfl⟩
  · exact hSkips.stays hReplaced hStill
  · exact hReplaced

-- Cancellation

theorem cancelledStep_eq_ok {after : EvaluationStepRun}
    (hCancel : cancelledStep now step = .ok after) :
    after.declaration = step.declaration ∧ after.state.waiting = false ∧
    (after = step ∨ step.state.waiting = true ∧ after.state = .cancelled ∧
      after.awardedScore = step.awardedScore) := by
  unfold cancelledStep at hCancel
  split at hCancel
  · rename_i hWaiting
    simp only [bind_eq_ok, Except.ok.injEq] at hCancel
    rcases hCancel with ⟨_, _, _, _, rfl⟩
    exact ⟨rfl, rfl, .inr ⟨hWaiting, rfl, rfl⟩⟩
  · rename_i hStill
    cases hCancel
    exact ⟨rfl, eq_false_of_ne_true hStill, .inl rfl⟩

theorem cancelUnstartedSteps_eq_ok (hCancel : cancelUnstartedSteps now rows = .ok after) :
    List.Forall₂ (fun step new => cancelledStep now step = .ok new) rows after := by
  induction rows generalizing after with
  | nil =>
    cases hCancel
    exact .nil
  | cons step rest ih =>
    simp only [cancelUnstartedSteps, bind_eq_ok, Except.ok.injEq] at hCancel
    rcases hCancel with ⟨_, hStep, _, hRest, rfl⟩
    exact .cons hStep (ih hRest)

section

variable (hCancel : cancelUnstartedSteps now rows = .ok after)

include hCancel

theorem cancel_declarations : after.map (·.declaration) = rows.map (·.declaration) := by
  refine (Propagation.map_eq_of_forall₂ ((cancelUnstartedSteps_eq_ok hCancel).imp ?_)).symm
  intro step new hStep
  exact (cancelledStep_eq_ok hStep).1.symm

theorem cancel_stays (hRow : row ∈ rows) (hStill : row.state.waiting = false) : row ∈ after := by
  rcases Propagation.Rule.exists_after (cancelUnstartedSteps_eq_ok hCancel) hRow with
    ⟨new, hNew, hStep⟩
  rcases (cancelledStep_eq_ok hStep).2.2 with
    rfl | ⟨hWaiting, _⟩
  · exact hNew
  · cases hStill.symm.trans hWaiting

theorem cancel_before (hSound : ∀ row ∈ rows, row.Sound) (hRow : row ∈ after) :
    row.state.waiting = false ∧ row.Sound ∧ (row ∈ rows ∨ row.state = .cancelled) := by
  rcases Propagation.Rule.exists_before (cancelUnstartedSteps_eq_ok hCancel) hRow with
    ⟨old, hOld, hStep⟩
  rcases cancelledStep_eq_ok hStep with ⟨_, hStill, rfl | ⟨hWaiting, hState, hAwarded⟩⟩
  · exact ⟨hStill, hSound _ hOld, .inl hOld⟩
  · refine ⟨hStill, ⟨?_, ?_, ?_⟩, .inr hState⟩
    · intro _
      rw [hAwarded]
      refine (hSound old hOld).unawarded ?_
      intro hSucceeded
      rw [hSucceeded] at hWaiting
      cases hWaiting
    · intro hSkipped
      cases hState.symm.trans hSkipped
    · intro hRetryable
      cases hState.symm.trans hRetryable

theorem cancel_justified (hSound : ∀ row ∈ rows, row.Sound) (hJustified : SkipsJustified rows) :
    SkipsJustified after := by
  intro row hRow hState
  rcases (cancel_before hCancel hSound hRow).2.2 with hOld | hCancelled
  · rcases hJustified row hOld hState with ⟨dependency, hDependency, hDepends, hBlocks⟩
    exact ⟨dependency, cancel_stays hCancel hDependency
      (waiting_of_blocks hBlocks), hDepends, hBlocks⟩
  · cases hState.symm.trans hCancelled

end

/- The step rows of a run between two operations. -/
structure RowsSound (rows : List EvaluationStepRun) : Prop where
  distinct : (rows.map (·.id)).Nodup
  sound : ∀ row ∈ rows, row.Sound
  skips : SkipsJustified rows

theorem RowsSound.unique (hRows : RowsSound rows) : Unique EvaluationStepRun.id rows := by
  intro first hFirst second hSecond hSame
  exact List.inj_on_of_nodup_map hRows.distinct hFirst hSecond hSame

theorem not_blocks_of_nonTerminal (hOpen : step.state.nonTerminal = true) :
    step.blocks = false := by
  cases hBlocks : step.blocks with
  | false => rfl
  | true =>
    cases (nonTerminal_of_blocks hBlocks).symm.trans hOpen

-- Ended Steps

/- A step that ran has ended, and its successors are skipped if its failure stops them. -/
inductive StepEnded (rows after : List EvaluationStepRun) : Prop where
| intro {step ended : EvaluationStepRun} {now : UtcTimestamp} (hStep : step ∈ rows)
    (hDeclared : ended.declaration = step.declaration) (hRunning : step.state = .running)
    (hEnded : ended.state = .succeeded ∨ ended.state.unsuccessful = true) (hSound : ended.Sound)
    (hAfter : afterEnd rows ended now = .ok after)

namespace StepEnded

variable (hRows : RowsSound rows) (hEnd : StepEnded rows after)

include hRows hEnd

theorem declarations : after.map (·.declaration) = rows.map (·.declaration) := by
  rcases hEnd with ⟨hStep, hDeclared, _, _, _, hAfter⟩
  have hReplaced := replace_declarations hRows.unique hStep hDeclared
  rcases afterEnd_eq_ok hAfter with ⟨_, _, hSkips⟩ | ⟨_, rfl⟩
  · rwa [hSkips.declarations]
  · exact hReplaced

theorem sound : ∀ row ∈ after, row.Sound := by
  rcases hEnd with ⟨_, _, _, _, hSound, hAfter⟩
  have hReplaced := sound_replace hRows.sound hSound
  rcases afterEnd_eq_ok hAfter with ⟨_, _, hSkips⟩ | ⟨_, rfl⟩
  · exact hSkips.sound hReplaced
  · exact hReplaced

theorem justified : SkipsJustified after := by
  rcases hEnd with @⟨step, ended, now, hStep, hDeclared, hRunning, hEnded, _, hAfter⟩
  have hFree : step.blocks = false := not_blocks_of_nonTerminal (by rw [hRunning]; rfl)
  have hNotSkipped : ended.state ≠ .skipped := by
    intro hSkipped
    rw [hSkipped] at hEnded
    rcases hEnded with hEq | hEq <;> cases hEq
  have hReplaced : SkipsJustified (replace EvaluationStepRun.id rows ended) := by
    refine justified_replace hRows.unique hStep hDeclared hRows.skips hNotSkipped ?_
    intro hBlocks
    cases hFree.symm.trans hBlocks
  rcases afterEnd_eq_ok hAfter with ⟨hStops, _, hSkips⟩ | ⟨_, rfl⟩
  · exact hSkips.justified hReplaced (mem_replace_after hStep hDeclared) rfl hStops
  · exact hReplaced

theorem rowsSound : RowsSound after := by
  refine ⟨?_, hEnd.sound hRows, hEnd.justified hRows⟩
  rw [ids_of_declarations (hEnd.declarations hRows)]
  exact hRows.distinct

/- The same of any number of ended steps. -/
omit hEnd in
theorem closure (hEnds : Relation.ReflTransGen StepEnded rows after) :
    RowsSound after ∧ after.map (·.declaration) = rows.map (·.declaration) := by
  induction hEnds with
  | refl => exact ⟨hRows, rfl⟩
  | tail _ hEnd ih => exact ⟨hEnd.rowsSound ih.1, (hEnd.declarations ih.1).trans ih.2⟩

end StepEnded

-- Effects

/- What an operation does to the step rows of a run. The first index is the row that a retry
  names. -/
inductive RowsEffect (rows : List EvaluationStepRun) : Option EvaluationStepRunId →
    List EvaluationStepRun → Prop where
| started {step started : EvaluationStepRun} (hStep : step ∈ rows)
    (hDeclared : started.declaration = step.declaration) (hWaiting : step.state.waiting = true)
    (hReady : ∀ dependency ∈ rows, dependency.stepId ∈ step.dependsOn →
      dependency.allowsSuccessors = true)
    (hState : started.state = .running) (hSound : started.Sound) :
    RowsEffect rows none (replace (·.id) rows started)
| ended {after : List EvaluationStepRun} (hEnds : Relation.ReflTransGen StepEnded rows after) :
    RowsEffect rows none after
| cancelled {now : UtcTimestamp} {after : List EvaluationStepRun}
    (hAfter : cancelUnstartedSteps now rows = .ok after) :
    RowsEffect rows none after
| retried {step retried : EvaluationStepRun} {marks : List String}
    {after : List EvaluationStepRun} (hStep : step ∈ rows)
    (hDeclared : retried.declaration = step.declaration) (hFailed : step.state = .failed)
    (hState : retried.state = .retryable) (hSound : retried.Sound)
    (hRestores : Restores step.stepId marks (replace (·.id) rows retried) after) :
    RowsEffect rows (some step.id) after
| verified {step verified : EvaluationStepRun} (hStep : step ∈ rows)
    (hDeclared : verified.declaration = step.declaration)
    (hUnsuccessful : step.state.unsuccessful = true) (hState : verified.state = step.state)
    (hSound : verified.Sound) :
    RowsEffect rows none (replace (·.id) rows verified)

namespace RowsEffect

variable {retry : Option EvaluationStepRunId}
  (hRows : RowsSound rows) (hEffect : RowsEffect rows retry after)

include hRows hEffect

theorem declarations : after.map (·.declaration) = rows.map (·.declaration) := by
  cases hEffect with
  | started hStep hDeclared => exact replace_declarations hRows.unique hStep hDeclared
  | ended hEnds => exact (StepEnded.closure hRows hEnds).2
  | cancelled hAfter => exact cancel_declarations hAfter
  | retried hStep hDeclared _ _ _ hRestores =>
    rw [hRestores.declarations]
    exact replace_declarations hRows.unique hStep hDeclared
  | verified hStep hDeclared => exact replace_declarations hRows.unique hStep hDeclared

theorem sound : ∀ row ∈ after, row.Sound := by
  cases hEffect with
  | started _ _ _ _ _ hSound => exact sound_replace hRows.sound hSound
  | ended hEnds => exact (StepEnded.closure hRows hEnds).1.sound
  | cancelled hAfter =>
    intro row hRow
    exact (cancel_before hAfter hRows.sound hRow).2.1
  | retried _ _ _ _ hSound hRestores => exact hRestores.sound (sound_replace hRows.sound hSound)
  | verified _ _ _ _ hSound => exact sound_replace hRows.sound hSound

theorem justified : SkipsJustified after := by
  cases hEffect with
  | started hStep hDeclared hWaiting _ hState _ =>
    have hFree := not_blocks_of_nonTerminal (waiting_nonTerminal hWaiting)
    refine justified_replace hRows.unique hStep hDeclared hRows.skips ?_ ?_
    · rw [hState]
      rintro ⟨⟩
    · intro hBlocks
      rw [hFree] at hBlocks
      cases hBlocks
  | ended hEnds => exact (StepEnded.closure hRows hEnds).1.skips
  | cancelled hAfter => exact cancel_justified hAfter hRows.sound hRows.skips
  | @retried step retried marks _ hStep hDeclared hFailed hState hSound hRestores =>
    refine hRestores.justified (sound_replace hRows.sound hSound) ?_
    intro row hRow hSkipped
    rcases mem_replace hRow with rfl | ⟨hOld, _⟩
    · cases hState.symm.trans hSkipped
    rcases hRows.skips row hOld hSkipped with ⟨dependency, hDependency, hDepends, hBlocks⟩
    by_cases hSame : dependency = step
    · subst hSame
      refine ⟨retried, mem_replace_after hStep hDeclared,
        ?_, .inr (stepId_of_declaration hDeclared)⟩
      rwa [stepId_of_declaration hDeclared]
    · exact ⟨dependency, mem_replace_other hRows.unique hStep hDeclared
        hDependency hSame, hDepends, .inl hBlocks⟩
  | @verified step verified hStep hDeclared hUnsuccessful hState _ =>
    refine justified_replace hRows.unique hStep hDeclared hRows.skips ?_ ?_
    · intro hSkipped
      rw [hState] at hSkipped
      rw [hSkipped] at hUnsuccessful
      cases hUnsuccessful
    · intro hBlocks
      have hPolicy : verified.failurePolicy = step.failurePolicy :=
        congrArg StepDeclaration.failurePolicy hDeclared
      rwa [EvaluationStepRun.blocks, EvaluationStepRun.stopsSuccessors, hState, hPolicy]

theorem rowsSound : RowsSound after := by
  refine ⟨?_, hEffect.sound hRows, hEffect.justified hRows⟩
  rw [ids_of_declarations (hEffect.declarations hRows)]
  exact hRows.distinct

end RowsEffect

end LabWeaver
