import LabWeaver.Evaluation.RowEffects
import LabWeaver.Evaluation.Admission

/-
  This file states how the state of a run follows from its steps, how the tables fit together
  between two operations, and what one change of a run keeps.
-/

namespace LabWeaver

open Outcome Rows

-- The State Of A Run

namespace EvaluationRun

variable (run : EvaluationRun)

def verdict : EvaluationRunState :=
  if run.steps.any (·.breaksRun run.cancellationRequested) = true then .failed
  else if run.cancellationRequested = true then .cancelled
  else if run.stepsCleaned = true then .succeeded
  else .running

/- The state of a run fits its steps. -/
structure StateDerived : Prop where
  closed : run.hasNonTerminal = false → run.state = run.verdict
  cancelling : run.hasNonTerminal = true → run.cancellationRequested = true →
    run.state = .cancelling
  started : run.hasNonTerminal = true → run.cancellationRequested = false →
    run.state = .queued ∨ run.state = .running

/- The parts of a run that a refresh does not change. -/
structure SameRun (run after : EvaluationRun) : Prop where
  id : after.id = run.id
  courseId : after.courseId = run.courseId
  releaseId : after.releaseId = run.releaseId
  actorId : after.actorId = run.actorId
  cancellationRequested : after.cancellationRequested = run.cancellationRequested

theorem derived_same (now : UtcTimestamp) : SameRun run (run.derived now) ∧
    (run.derived now).steps = run.steps := by
  unfold derived
  repeat' split
  all_goals exact ⟨⟨rfl, rfl, rfl, rfl, rfl⟩, rfl⟩

variable {run : EvaluationRun}

/- The state of a run whose steps have all ended does not depend on its state before. -/
theorem derived_closed (now : UtcTimestamp) (hClosed : run.hasNonTerminal = false) :
    (run.derived now).state = run.verdict := by
  unfold derived verdict
  split
  · rename_i step hFound
    have hBreaks : run.steps.any (·.breaksRun run.cancellationRequested) = true :=
      List.any_eq_true.mpr ⟨step, List.mem_of_find?_eq_some hFound, List.find?_some hFound⟩
    simp only [hClosed, hBreaks, if_true]
    rfl
  · rename_i hNone
    have hBreaks : run.steps.any (·.breaksRun run.cancellationRequested) = false := by
      rw [List.any_eq_false]
      intro step hStep
      exact List.find?_eq_none.mp hNone step hStep
    simp only [hClosed, hBreaks]
    cases hCancel : run.cancellationRequested with
    | true => rfl
    | false =>
      cases hClean : run.stepsCleaned with
      | true | false => rfl

/- The state of a run with steps that have not ended. -/
theorem derived_open (now : UtcTimestamp) (hOpen : run.hasNonTerminal = true) :
    (run.cancellationRequested = true → (run.derived now).state = .cancelling) ∧
    (run.cancellationRequested = false → (run.derived now).state = .running ∨
      (run.derived now).state = run.state) := by
  unfold derived
  split
  · simp only [hOpen, if_true]
    constructor
    · intro hCancel
      rw [if_pos hCancel]
    · intro hCancel
      simp [hCancel]
  · simp only [hOpen]
    constructor
    · intro hCancel
      simp [hCancel]
    · intro hCancel
      simp only [hCancel]
      split
      · rename_i hFalse
        cases hFalse.1
      · split
        · rename_i hFalse
          cases hFalse
        · split
          · rename_i hFalse
            cases hFalse
          · split
            · exact .inl rfl
            · exact .inr rfl

theorem stateDerived_derived (now : UtcTimestamp) (hBefore : run.hasNonTerminal = true →
      run.cancellationRequested = false → run.state = .queued ∨ run.state = .running) :
    (run.derived now).StateDerived := by
  have hSame := derived_same run now
  have hOpenEq : (run.derived now).hasNonTerminal = run.hasNonTerminal := by
    rw [hasNonTerminal, hSame.2, hasNonTerminal]
  have hCancelEq := hSame.1.cancellationRequested
  constructor
  · intro hClosed
    rw [hOpenEq] at hClosed
    rw [derived_closed now hClosed, verdict, verdict,
      stepsCleaned, stepsCleaned, hSame.2, hCancelEq]
  · intro hOpen hCancel
    rw [hOpenEq] at hOpen
    rw [hCancelEq] at hCancel
    exact (derived_open now hOpen).1 hCancel
  · intro hOpen hCancel
    rw [hOpenEq] at hOpen
    rw [hCancelEq] at hCancel
    rcases (derived_open now hOpen).2 hCancel with hRunning | hUnchanged
    · exact .inr hRunning
    · rw [hUnchanged]
      exact hBefore hOpen hCancel

end EvaluationRun

variable {run after : EvaluationRun} {rows : List EvaluationStepRun} {now : UtcTimestamp}

theorem refreshRun_eq_ok (hRefresh : refreshRun run rows now = .ok after) :
    ∃ awardedScore, after = ((run.withSteps rows awardedScore).derived now).touched now ∧
      after.Valid := by
  simp only [refreshRun, steps_eq_ok] at hRefresh
  rcases hRefresh with ⟨steps, hLoad, awardedScore, _, _, hValid, _, _, hAfter⟩
  rcases loadSteps_eq_ok hLoad with ⟨rfl, _⟩
  subst hAfter
  exact ⟨awardedScore, rfl, EvaluationRun.validate_eq_ok.mp hValid⟩

structure Refreshed (run : EvaluationRun) (rows : List EvaluationStepRun)
    (after : EvaluationRun) : Prop where
  steps : after.steps = rows
  valid : after.Valid
  same : run.SameRun after

theorem refreshRun_refreshed (hRefresh : refreshRun run rows now = .ok after) :
    Refreshed run rows after := by
  rcases refreshRun_eq_ok hRefresh with ⟨awardedScore, rfl, hValid⟩
  have hSame := EvaluationRun.derived_same (run.withSteps rows awardedScore) now
  exact ⟨hSame.2, hValid, ⟨hSame.1.id, hSame.1.courseId, hSame.1.releaseId,
    hSame.1.actorId, hSame.1.cancellationRequested⟩⟩

def anyNonTerminal (rows : List EvaluationStepRun) : Bool := rows.any (·.state.nonTerminal)

theorem refreshRun_derived (hRefresh : refreshRun run rows now = .ok after)
    (hBefore : anyNonTerminal rows = true → run.cancellationRequested = false →
      run.state = .queued ∨ run.state = .running) : after.StateDerived := by
  rcases refreshRun_eq_ok hRefresh with ⟨awardedScore, rfl, _⟩
  have hDerived : ((run.withSteps rows awardedScore).derived now).StateDerived :=
    EvaluationRun.stateDerived_derived now hBefore
  exact ⟨hDerived.closed, hDerived.cancelling, hDerived.started⟩

-- Tables

/- The row is that of the step of a specification. -/
structure StepDeclaration.DeclaredBy (declaration : StepDeclaration)
    (step : EvaluationStep) : Prop where
  stepId : declaration.stepId = step.id
  role : declaration.role = step.role
  failurePolicy : declaration.failurePolicy = step.failurePolicy
  dependsOn : declaration.dependsOn = step.dependencies

def EvaluationRun.RowsDeclared (spec : EvaluationSpec) (run : EvaluationRun) : Prop :=
  List.Forall₂ StepDeclaration.DeclaredBy (run.steps.map (·.declaration)) spec.body.steps

abbrev Layout := List (EvaluationRunId × List EvaluationStepRunId)

/- No run and no row of two runs has the same identifier. -/
structure Layout.Distinct (layout : Layout) : Prop where
  runs : (layout.map Prod.fst).Nodup
  steps : ∀ first ∈ layout, ∀ second ∈ layout, ∀ id ∈ first.2, id ∈ second.2 → first.1 = second.1

variable (attempt : StepAttempt)

def StepAttempt.RunsIn (rows : List EvaluationStepRun) : Prop :=
  ∃ row ∈ rows, row.id = attempt.stepRunId ∧ row.state = .running ∧
    row.currentAttempt = attempt.attempt

def StepAttempt.key : EvaluationStepRunId × Nat :=
  (attempt.stepRunId, attempt.attempt)

namespace EvaluationStore

variable (store : EvaluationStore)

def layout : Layout :=
  store.runs.map (fun run => (run.id, run.steps.map (·.id)))

/- The tables fit together. -/
structure Linked : Prop where
  distinct : store.layout.Distinct
  releaseIds : Unique EvaluationRelease.id store.releases
  accepted : ∀ release ∈ store.releases, release.evaluationSpec.Accepted
  declared : ∀ run ∈ store.runs, ∃ release ∈ store.releases, release.id = run.releaseId ∧
    run.RowsDeclared release.evaluationSpec
  rows : ∀ run ∈ store.runs, RowsSound run.steps
  attemptKeys : Unique StepAttempt.key store.attempts
  attempts : ∀ attempt ∈ store.attempts, attempt.state = .running →
    ∃ run ∈ store.runs, attempt.RunsIn run.steps

/- The tables between two operations. -/
structure Sound : Prop where
  linked : store.Linked
  valid : ∀ run ∈ store.runs, run.Valid
  derived : ∀ run ∈ store.runs, run.StateDerived

variable {store : EvaluationStore}

namespace Linked

variable (hLinked : store.Linked)

include hLinked

theorem runIds : Unique EvaluationRun.id store.runs := by
  have hNodup := hLinked.distinct.runs
  rw [layout, List.map_map] at hNodup
  intro first hFirst second hSecond hSame
  exact List.inj_on_of_nodup_map hNodup hFirst hSecond hSame

variable {run : EvaluationRun} (hRun : run ∈ store.runs)

include hRun

/- A row of one run does not occur in another. -/
theorem same_run {other : EvaluationRun} (hOther : other ∈ store.runs) {id : EvaluationStepRunId}
    (hId : id ∈ run.steps.map (·.id)) (hIdOther : id ∈ other.steps.map (·.id)) : run = other := by
  have hEntry : ∀ {run : EvaluationRun}, run ∈ store.runs →
      (run.id, run.steps.map (·.id)) ∈ store.layout :=
    fun hMember => List.mem_map_of_mem hMember
  exact hLinked.runIds run hRun other hOther
    (hLinked.distinct.steps _ (hEntry hRun) _ (hEntry hOther) id hId hIdOther)

theorem declared_of_release {release : EvaluationRelease}
    (hRelease : release ∈ store.releases ∧ release.id = run.releaseId) :
    run.RowsDeclared release.evaluationSpec := by
  rcases hLinked.declared run hRun with ⟨found, hFound, hId, hDeclared⟩
  rwa [hLinked.releaseIds release hRelease.1 found hFound (hRelease.2.trans hId.symm)]

variable {row : EvaluationStepRun}

theorem exists_rank :
    ∃ rank : String → Nat, ∀ row ∈ run.steps, ∀ dependency ∈ row.dependsOn,
      rank dependency < rank row.stepId := by
  rcases hLinked.declared run hRun with ⟨release, hRelease, _, hDeclared⟩
  rcases (hLinked.accepted release hRelease).exists_rank with ⟨rank, hRank⟩
  refine ⟨rank, ?_⟩
  intro row hRow dependency hDepends
  rcases Propagation.Rule.exists_after hDeclared (List.mem_map_of_mem hRow) with ⟨step, hStep, hBy⟩
  have hDependsOn : row.dependsOn = step.dependencies := hBy.dependsOn
  have hStepId : row.stepId = step.id := hBy.stepId
  rw [hDependsOn] at hDepends
  rw [hStepId]
  exact hRank step hStep dependency hDepends

theorem exists_dependency (hRow : row ∈ run.steps) {stepId : String}
    (hDepends : stepId ∈ row.dependsOn) : ∃ dependency ∈ run.steps, dependency.stepId = stepId := by
  rcases hLinked.declared run hRun with ⟨release, hRelease, _, hDeclared⟩
  rcases Propagation.Rule.exists_after hDeclared (List.mem_map_of_mem hRow) with ⟨step, hStep, hBy⟩
  have hDependsOn : row.dependsOn = step.dependencies := hBy.dependsOn
  rw [hDependsOn] at hDepends
  have hKnown := (hLinked.accepted release hRelease).known step hStep stepId hDepends
  rcases List.mem_map.mp hKnown with ⟨other, hOther, rfl⟩
  rcases Propagation.Rule.exists_before hDeclared hOther with ⟨declaration, hDeclaration, hOtherBy⟩
  rcases List.mem_map.mp hDeclaration with ⟨dependency, hDependency, rfl⟩
  exact ⟨dependency, hDependency, hOtherBy.stepId⟩

theorem current_of_running {step : EvaluationStepRun} (hStep : step ∈ run.steps)
    {attempt : StepAttempt} (hAttempt : attempt ∈ store.attempts)
    (hRunning : attempt.state = .running) (hId : attempt.stepRunId = step.id) :
    step.state = .running ∧ step.currentAttempt = attempt.attempt := by
  rcases hLinked.attempts attempt hAttempt hRunning with
    ⟨other, hOther, row, hRow, hRowId, hState, hCurrent⟩
  have hRowStep : row.id = step.id := hRowId.trans hId
  have hSame : other = run := hLinked.same_run hOther hRun (List.mem_map_of_mem hRow)
    (hRowStep ▸ List.mem_map_of_mem hStep)
  subst hSame
  rw [(hLinked.rows other hOther).unique row hRow step hStep hRowStep] at hState hCurrent
  exact ⟨hState, hCurrent⟩

end Linked

-- Changing A Run

variable (store)

/- The attempt runs on the rows, or on another run. -/
def AttemptPlaced (run : EvaluationRun) (rows : List EvaluationStepRun) (attempt : StepAttempt) :
    Prop :=
  attempt.RunsIn rows ∨ ∃ other ∈ store.runs, other ≠ run ∧ attempt.RunsIn other.steps

structure Updated (retry : Option EvaluationStepRunId) (store : EvaluationStore)
    (run new : EvaluationRun) (attempts : List StepAttempt) : Prop where
  member : run ∈ store.runs
  id : new.id = run.id
  releaseId : new.releaseId = run.releaseId
  effect : RowsEffect run.steps retry new.steps
  keys : Unique StepAttempt.key attempts
  placed : ∀ attempt ∈ attempts, attempt.state = .running →
    store.AttemptPlaced run new.steps attempt

def updated (new : EvaluationRun) (attempts : List StepAttempt) : EvaluationStore :=
  { store.saveRun new with attempts }

variable {store}

variable {run : EvaluationRun}

section

variable {retry : Option EvaluationStepRunId} {run new : EvaluationRun}
  {attempts : List StepAttempt}

theorem Linked.layout_updated (hLinked : store.Linked)
    (hUpdated : Updated retry store run new attempts) :
    (store.updated new attempts).layout = store.layout := by
  have hRows := ids_of_declarations (hUpdated.effect.declarations
    (hLinked.rows run hUpdated.member))
  simp only [layout, updated, saveRun, replace, List.map_map]
  apply List.map_congr_left
  intro old hOld
  simp only [Function.comp]
  split
  · rename_i hSame
    rw [hLinked.runIds old hOld run hUpdated.member (hSame.trans hUpdated.id), hUpdated.id, hRows]
  · rfl

theorem Linked.update (hLinked : store.Linked) (hUpdated : Updated retry store run new attempts) :
    (store.updated new attempts).Linked := by
  have hRun := hUpdated.member
  have hRows := hLinked.rows run hRun
  constructor
  · rw [hLinked.layout_updated hUpdated]
    exact hLinked.distinct
  · exact hLinked.releaseIds
  · exact hLinked.accepted
  · intro other hOther
    rcases mem_replace hOther with rfl | ⟨hOld, _⟩
    · rcases hLinked.declared run hRun with ⟨release, hMember, hReleaseId, hDeclared⟩
      refine ⟨release, hMember, hReleaseId.trans hUpdated.releaseId.symm, ?_⟩
      rwa [EvaluationRun.RowsDeclared, hUpdated.effect.declarations hRows]
    · exact hLinked.declared other hOld
  · intro other hOther
    rcases mem_replace hOther with rfl | ⟨hOld, _⟩
    · exact hUpdated.effect.rowsSound hRows
    · exact hLinked.rows other hOld
  · exact hUpdated.keys
  · intro attempt hAttempt hRunning
    rcases hUpdated.placed attempt hAttempt hRunning with hHere | ⟨other, hOther, hNe, hThere⟩
    · exact ⟨new, mem_replace_self hRun hUpdated.id.symm, hHere⟩
    · refine ⟨other, mem_replace_of_ne hOther ?_, hThere⟩
      intro hSame
      exact hNe (hLinked.runIds other hOther run hRun (hSame.trans hUpdated.id))

theorem Linked.placed_of_stays (hLinked : store.Linked) {rows : List EvaluationStepRun}
    {attempt : StepAttempt} (hAttempt : attempt ∈ store.attempts)
    (hRunning : attempt.state = .running)
    (hStays : ∀ row ∈ run.steps, row.state = .running → row.id = attempt.stepRunId →
      row.currentAttempt = attempt.attempt → row ∈ rows) :
    store.AttemptPlaced run rows attempt := by
  rcases hLinked.attempts attempt hAttempt hRunning with ⟨other, hOther, hRunsIn⟩
  by_cases hSame : other = run
  · subst hSame
    rcases hRunsIn with ⟨row, hRow, hId, hState, hCurrent⟩
    exact .inl ⟨row, hStays row hRow hState hId hCurrent, hId, hState, hCurrent⟩
  · exact .inr ⟨other, hOther, hSame, hRunsIn⟩

-- Operations On A Run

variable (retry)

def RunFollows (run new : EvaluationRun) : Prop :=
  new = run ∨ new.id = run.id ∧ RowsEffect run.steps retry new.steps

/- What an operation leaves of sound tables: each run is new, with steps that were not started, or
  follows an old one. -/
structure Follows (store after : EvaluationStore) : Prop where
  sound : after.Sound
  runs : ∀ new ∈ after.runs, (∀ row ∈ new.steps, row.state = .pending) ∨
    ∃ run ∈ store.runs, RunFollows retry run new

/- An operation has changed one run and brought it up to date. -/
structure Committed (store : EvaluationStore) (run new : EvaluationRun)
    (attempts : List StepAttempt) : Prop where
  updated : Updated retry store run new attempts
  valid : new.Valid
  derived : new.StateDerived

variable {retry}

theorem Committed.follows (hSound : store.Sound)
    (hCommitted : Committed retry store run new attempts) :
    Follows retry store (store.updated new attempts) := by
  have hUpdated := hCommitted.updated
  refine ⟨⟨hSound.linked.update hUpdated, ?_, ?_⟩, ?_⟩
  · intro other hOther
    rcases mem_replace hOther with rfl | ⟨hOld, _⟩
    · exact hCommitted.valid
    · exact hSound.valid other hOld
  · intro other hOther
    rcases mem_replace hOther with rfl | ⟨hOld, _⟩
    · exact hCommitted.derived
    · exact hSound.derived other hOld
  · intro other hOther
    rcases mem_replace hOther with rfl | ⟨hOld, _⟩
    · exact .inr ⟨run, hUpdated.member, .inr ⟨hUpdated.id, hUpdated.effect⟩⟩
    · exact .inr ⟨other, hOld, .inl rfl⟩

end

variable {step : EvaluationStepRun}

/- A run with a running step that is not cancelled has started. -/
theorem started_of_open (hDerived : run.StateDerived) (hStep : step ∈ run.steps)
    (hOpen : step.state.nonTerminal = true) (hCancel : run.cancellationRequested = false) :
    run.state = .queued ∨ run.state = .running :=
  hDerived.started (List.any_eq_true.mpr ⟨step, hStep, hOpen⟩) hCancel

-- Reading

variable {runId : EvaluationRunId}

theorem loadRun_eq_ok (hLoad : store.loadRun runId = .ok run) :
    run ∈ store.runs ∧ run.id = runId := by
  simp only [loadRun, steps_eq_ok] at hLoad
  rcases hLoad with ⟨found, hFound, _, _, rfl⟩
  exact ⟨mem_of_lookup hFound, key_of_lookup hFound⟩

variable {stepRunId : EvaluationStepRunId}

theorem loadStep_eq_ok (hLoad : store.loadStep run stepRunId = .ok step) :
    step ∈ run.steps ∧ step.id = stepRunId := by
  unfold loadStep at hLoad
  split at hLoad
  · rename_i found hFound
    simp only [bind_eq_ok, Except.ok.injEq] at hLoad
    rcases hLoad with ⟨_, _, rfl⟩
    exact ⟨mem_of_lookup hFound, key_of_lookup hFound⟩
  · split at hLoad <;> cases hLoad

theorem mutableRun_eq_ok {request : RunMutationRequest} {traceId : String}
    (hLoad : store.mutableRun runId request traceId = .ok run) :
    run ∈ store.runs ∧ run.id = runId := by
  simp only [mutableRun, bind_eq_ok, Except.ok.injEq] at hLoad
  rcases hLoad with ⟨_, _, found, hFound, _, _, rfl⟩
  exact loadRun_eq_ok hFound

theorem mutableStep_eq_ok (hLoad : mutableStep run stepRunId = .ok step) :
    step ∈ run.steps ∧ step.id = stepRunId := by
  simp only [mutableStep, require_eq_ok] at hLoad
  exact ⟨mem_of_lookup hLoad, key_of_lookup hLoad⟩

end EvaluationStore

end LabWeaver
