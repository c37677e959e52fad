import LabWeaver.Evaluation.StoreInvariant

/-
  This file shows that the operations of the control plane and the recovery of expired attempts
  keep the tables sound, and what they do to the step rows.
-/

namespace LabWeaver

open Outcome List Rows

namespace EvaluationStore

variable {store after : EvaluationStore}

-- Starting

variable {run : EvaluationRun} {step : EvaluationStepRun}

theorem eligible_eq_true (hEligible : run.eligible step = true) :
    (run.state = .queued ∨ run.state = .running) ∧ run.cancellationRequested = false ∧
    step.state.waiting = true ∧ ∀ dependency ∈ run.steps, dependency.stepId ∈ step.dependsOn →
      dependency.allowsSuccessors = true := by
  simp only [EvaluationRun.eligible, Bool.and_eq_true, Bool.or_eq_true, decide_eq_true_eq,
    Bool.not_eq_eq_eq_not, Bool.not_true, any_eq_false, not_and] at hEligible
  rcases hEligible with ⟨⟨⟨⟨hState, hCancel⟩, hWaiting⟩, _⟩, hReady⟩
  refine ⟨hState, hCancel, hWaiting, ?_⟩
  intro dependency hDependency hDepends
  have hAllows := hReady dependency hDependency hDepends
  simpa using hAllows

variable {runId : EvaluationRunId} {stepRunId : EvaluationStepRunId} {now : UtcTimestamp}

theorem claimStep_follows {request : ClaimRequest} (hSound : store.Sound)
    (hClaim : store.claimStep runId stepRunId request now = .ok after) :
    Follows none store after := by
  simp only [claimStep, steps_eq_ok, saveStep_eq_ok] at hClaim
  rcases hClaim with ⟨_, _, run, hRun, step, hStep, hEligible, attempt, _,
      revision, _, rows, ⟨_, _, rfl⟩, _, hFresh, runRevision, _, started, hRefresh, rfl⟩
  rcases loadRun_eq_ok hRun with ⟨hMember, _⟩
  rcases loadStep_eq_ok hStep with ⟨hStepMember, hStepId⟩
  rcases eligible_eq_true hEligible with ⟨hState, _, hWaiting, hReady⟩
  have hRefreshed := refreshRun_refreshed hRefresh
  have hUnique := (hSound.linked.rows run hMember).unique
  have hDeclared : (step.started attempt revision now).declaration = step.declaration := rfl
  have hEffect : RowsEffect run.steps none (replace (·.id) run.steps
      (step.started attempt revision now)) :=
    .started hStepMember hDeclared hWaiting hReady rfl
      ⟨fun _ => rfl, (fun h => by cases h), (fun h => by cases h)⟩
  refine Committed.follows hSound ⟨⟨hMember, hRefreshed.same.id, hRefreshed.same.releaseId,
    hRefreshed.steps ▸ hEffect, ?_, ?_⟩,
    hRefreshed.valid, refreshRun_derived hRefresh ?_⟩
  · refine hSound.linked.attemptKeys.insert ?_
    intro old hOld hKey
    exact hFresh (mem_map.mpr ⟨old, hOld, hKey⟩)
  · intro other hOther hRunning
    rw [hRefreshed.steps]
    rcases mem_cons.mp hOther with rfl | hOld
    · exact .inl ⟨_, mem_replace_after hStepMember hDeclared, hStepId, rfl, rfl⟩
    · refine hSound.linked.placed_of_stays hOld hRunning ?_
      intro row hRow hRowState _ _
      refine mem_replace_other hUnique hStepMember hDeclared hRow ?_
      rintro rfl
      rw [hRowState] at hWaiting
      cases hWaiting
  · intro _ _
    simp only [EvaluationRun.claimed]
    split
    · exact .inr rfl
    · exact hState

-- Ending

theorem ended_of_validate {completion : EvaluationStepCompletion} {role : EvaluationStepRole}
    {maxScore : Nat} (hValid : completion.validate role maxScore = .ok ()) :
    completion.state = .succeeded ∨ completion.state.unsuccessful = true ∧
    completion.awardedScore = none := by
  have hShaped : completion.shaped role maxScore = true := ensure_eq_ok.mp hValid
  unfold EvaluationStepCompletion.shaped at hShaped
  cases hState : completion.state with
  | succeeded => exact .inl rfl
  | failed | cancelled =>
    rw [hState] at hShaped
    refine .inr ⟨rfl, ?_⟩
    simpa using (Bool.and_eq_true_iff.mp hShaped).2
  | pending | running | retryable | skipped =>
    rw [hState] at hShaped
    cases hShaped

theorem sound_of_ended
    (hEnded : step.state = .succeeded ∨ step.state.unsuccessful = true ∧ step.awardedScore = none) :
    step.Sound := by
  constructor
  · intro hFailed
    rcases hEnded with hSucceeded | ⟨_, hAwarded⟩
    · exact absurd hSucceeded hFailed
    · exact hAwarded
  · intro hState
    rw [hState] at hEnded
    rcases hEnded with hEq | ⟨hEq, _⟩ <;> cases hEq
  · intro hState
    rw [hState] at hEnded
    rcases hEnded with hEq | ⟨hEq, _⟩ <;> cases hEq

variable {state : EvaluationStepRunState}

/- The attempts stay in their places when a step and its own attempt end. -/
theorem Linked.placed_of_ended (hLinked : store.Linked) (hRun : run ∈ store.runs)
    {ended : EvaluationStepRun} (hStep : step ∈ run.steps)
    (hDeclared : ended.declaration = step.declaration) {rows : List EvaluationStepRun}
    (hAfter : afterEnd run.steps ended now = .ok rows) (chosen : StepAttempt → Prop)
    [DecidablePred chosen] (hChosen : ∀ attempt ∈ store.attempts, attempt.state = .running →
      attempt.key = (step.id, step.currentAttempt) → chosen attempt)
    {cleanupVerified : Bool} (hState : state ≠ .running)
    {attempt : StepAttempt} (hAttempt : attempt ∈ store.attempts.map (fun attempt =>
      if chosen attempt then concludedAttempt state cleanupVerified attempt else attempt))
    (hRunning : attempt.state = .running) :
    store.AttemptPlaced run rows attempt := by
  have hUnique := (hLinked.rows run hRun).unique
  rcases mem_map.mp hAttempt with ⟨old, hOld, rfl⟩
  split at hRunning
  · exact absurd hRunning hState
  · rename_i hOther
    rw [if_neg hOther]
    refine hLinked.placed_of_stays hOld hRunning ?_
    intro row hRow hRowState hId hCurrent
    by_cases hSame : row.id = step.id
    · have hRowStep : row = step := hUnique row hRow step hStep hSame
      subst hRowStep
      have hKey : old.key = (row.id, row.currentAttempt) := Prod.ext hId.symm hCurrent.symm
      exact absurd (hChosen old hOld hRunning hKey) hOther
    · refine afterEnd_stays hAfter hRow ?_ ?_
      · rwa [id_of_declaration hDeclared]
      · rw [hRowState]
        rfl

theorem Linked.concluded_keys (hLinked : store.Linked) (chosen : StepAttempt → Prop)
    [DecidablePred chosen] (state : EvaluationStepRunState) (cleanupVerified : Bool) :
    Unique StepAttempt.key (store.attempts.map (fun attempt =>
      if chosen attempt then concludedAttempt state cleanupVerified attempt
      else attempt)) := by
  refine hLinked.attemptKeys.map ?_
  intro attempt _
  split <;> rfl

variable {request : CompleteStepRequest} {traceId : String}

theorem completeStep_follows (hSound : store.Sound)
    (hComplete : store.completeStep request traceId now = .ok after) :
    Follows none store after := by
  simp only [completeStep, steps_eq_ok] at hComplete
  rcases hComplete with ⟨_, _, _, _, _, run, hRun, _, _, _, _, step, hStep,
      hCurrent, _, hValid, _, hAny, revision, _, rows, hAfter, runRevision, _, new, hRefresh, rfl⟩
  rcases loadRun_eq_ok hRun with ⟨hMember, _⟩
  rcases loadStep_eq_ok hStep with ⟨hStepMember, hStepId⟩
  rcases any_eq_true.mp hAny with ⟨mine, hMine, hOwned⟩
  have hMineOwned := hOwned
  simp only [ownedAttempt, Bool.and_eq_true, decide_eq_true_eq] at hMineOwned
  rcases hMineOwned with ⟨⟨⟨⟨⟨hMineId, hMineAttempt⟩, _⟩, _⟩, hMineRunning⟩, _⟩
  have hRunning : step.state = .running := (hSound.linked.current_of_running hMember hStepMember
    hMine hMineRunning (hMineId.trans hStepId.symm)).1
  have hOpen : step.state.nonTerminal = true := by
    rw [hRunning]
    rfl
  have hEnded := ended_of_validate hValid
  have hTerminal : request.completion.state ≠ .running := by
    intro hState
    rw [hState] at hEnded
    rcases hEnded with hEq | ⟨hEq, _⟩ <;> cases hEq
  have hRefreshed := refreshRun_refreshed hRefresh
  have hDeclared : (step.concluded request.completion revision
      now).declaration = step.declaration :=
    rfl
  have hEnd : StepEnded run.steps rows := .intro hStepMember hDeclared hRunning
    (hEnded.imp_right And.left) (sound_of_ended hEnded)
    hAfter
  have hOwn : ∀ attempt ∈ store.attempts, attempt.state = .running →
      attempt.key = (step.id, step.currentAttempt) → ownedAttempt request now attempt = true := by
    intro attempt hAttempt _ hKey
    have hSame : attempt.key = mine.key := by
      rw [hKey, hStepId, hCurrent, ← hMineId, ← hMineAttempt]
      rfl
    rwa [hSound.linked.attemptKeys attempt hAttempt mine hMine hSame]
  refine Committed.follows hSound ⟨⟨hMember, hRefreshed.same.id, hRefreshed.same.releaseId,
    hRefreshed.steps ▸ .ended (.single hEnd), hSound.linked.concluded_keys _ _ _, ?_⟩,
    hRefreshed.valid, refreshRun_derived hRefresh ?_⟩
  · intro attempt hAttempt hAttemptRunning
    rw [hRefreshed.steps]
    exact hSound.linked.placed_of_ended hMember hStepMember
      hDeclared hAfter _ hOwn hTerminal hAttempt
      hAttemptRunning
  · intro _ hCancel
    have hStarted : run.state = .queued ∨ run.state = .running :=
      started_of_open (hSound.derived run hMember) hStepMember hOpen hCancel
    exact hStarted

-- Mutations

theorem cancelRequested_same (run : EvaluationRun) (revision : Revision) (now : UtcTimestamp) :
    (run.cancelRequested revision now).id = run.id ∧
    (run.cancelRequested revision now).releaseId = run.releaseId ∧
    (run.cancelRequested revision now).cancellationRequested = true := by
  unfold EvaluationRun.cancelRequested
  split <;> exact ⟨rfl, rfl, rfl⟩

variable {request : RunMutationRequest}

theorem requestCancellation_follows (hSound : store.Sound)
    (hCancel : store.requestCancellation runId request now traceId = .ok after) :
    Follows none store after := by
  simp only [requestCancellation, steps_eq_ok] at hCancel
  rcases hCancel with ⟨run, hRun, _, revision, _, rows, hRows, new, hRefresh, rfl⟩
  rcases mutableRun_eq_ok hRun with ⟨hMember, _⟩
  have hRefreshed := refreshRun_refreshed hRefresh
  rcases cancelRequested_same run revision now with ⟨hId, hReleaseId, hRequested⟩
  refine Committed.follows hSound ⟨⟨hMember, hRefreshed.same.id.trans hId,
    hRefreshed.same.releaseId.trans hReleaseId, hRefreshed.steps ▸ .cancelled hRows,
    hSound.linked.attemptKeys, ?_⟩,
    hRefreshed.valid, refreshRun_derived hRefresh ?_⟩
  · intro attempt hAttempt hRunning
    rw [hRefreshed.steps]
    refine hSound.linked.placed_of_stays hAttempt hRunning ?_
    intro row hRow hState _ _
    refine cancel_stays hRows hRow ?_
    rw [hState]
    rfl
  · intro _ hNot
    cases hRequested.symm.trans hNot

theorem retryStep_follows (hSound : store.Sound)
    (hRetry : store.retryStep runId stepRunId request now traceId = .ok after) :
    Follows (some stepRunId) store after := by
  simp only [retryStep, steps_eq_ok, saveStep_eq_ok] at hRetry
  rcases hRetry with ⟨run, hRun, step, hStep, ⟨_, hFailed, hCleaned⟩, revision,
      _, _, ⟨_, _, rfl⟩, rows, hRestore, runRevision, _, new, hRefresh, rfl⟩
  rcases mutableRun_eq_ok hRun with ⟨hMember, _⟩
  rcases mutableStep_eq_ok hStep with ⟨hStepMember, rfl⟩
  rcases restoreDependencySkippedSuccessors_eq_ok hRestore with ⟨marks, hSpread⟩
  have hRestores := restoreRule_restores hSpread
  have hRefreshed := refreshRun_refreshed hRefresh
  have hUnique := (hSound.linked.rows run hMember).unique
  have hDeclared : (step.retried revision).declaration = step.declaration := rfl
  have hRetried : (step.retried revision).Sound :=
    ⟨fun _ => rfl, (fun h => by cases h), fun _ => hCleaned⟩
  refine Committed.follows hSound ⟨⟨hMember, hRefreshed.same.id, hRefreshed.same.releaseId,
    hRefreshed.steps ▸ .retried hStepMember hDeclared hFailed rfl hRetried hRestores,
    hSound.linked.attemptKeys, ?_⟩,
    hRefreshed.valid, refreshRun_derived hRefresh ?_⟩
  · intro attempt hAttempt hRunning
    rw [hRefreshed.steps]
    refine hSound.linked.placed_of_stays hAttempt hRunning ?_
    intro row hRow hState _ _
    have hOther : row ≠ step := by
      rintro rfl
      cases hState.symm.trans hFailed
    have hReplaced := mem_replace_other hUnique hStepMember hDeclared hRow hOther
    rcases hRestores.stays hReplaced with hStays | ⟨hSkipped, _⟩
    · exact hStays
    · cases hState.symm.trans hSkipped
  · intro _ _
    exact .inr rfl

theorem nonTerminal_of_unsuccessful (hUnsuccessful : state.unsuccessful = true) :
    state.nonTerminal = false := by
  cases state with
  | failed | cancelled => rfl
  | pending | running | retryable | succeeded | skipped => cases hUnsuccessful

theorem verifyStepCleanup_follows (hSound : store.Sound)
    (hVerify : store.verifyStepCleanup runId stepRunId request now traceId = .ok after) :
    Follows none store after := by
  simp only [verifyStepCleanup, steps_eq_ok, saveStep_eq_ok] at hVerify
  rcases hVerify with ⟨run, hRun, step, hStep, ⟨hUnsuccessful, _⟩, revision, _,
      _, _, _, ⟨_, _, rfl⟩, runRevision, _, new, hRefresh, rfl⟩
  rcases mutableRun_eq_ok hRun with ⟨hMember, _⟩
  rcases mutableStep_eq_ok hStep with ⟨hStepMember, _⟩
  have hRefreshed := refreshRun_refreshed hRefresh
  have hRows := hSound.linked.rows run hMember
  have hDeclared : (step.cleaned revision).declaration = step.declaration := rfl
  have hAwarded : step.awardedScore = none := by
    refine (hRows.sound step hStepMember).unawarded ?_
    intro hState
    rw [hState] at hUnsuccessful
    cases hUnsuccessful
  have hCleaned : (step.cleaned revision).Sound := sound_of_ended (.inr ⟨hUnsuccessful, hAwarded⟩)
  refine Committed.follows hSound ⟨⟨hMember, hRefreshed.same.id, hRefreshed.same.releaseId,
    hRefreshed.steps ▸ .verified hStepMember hDeclared hUnsuccessful rfl hCleaned,
    hSound.linked.attemptKeys.map ?_, ?_⟩,
    hRefreshed.valid, refreshRun_derived hRefresh ?_⟩
  · intro attempt _
    split <;> rfl
  · intro attempt hAttempt hRunning
    rw [hRefreshed.steps]
    rcases mem_map.mp hAttempt with ⟨old, hOld, rfl⟩
    -- the attempt that is verified does not run
    have hOldRunning : old.state = .running := by
      split at hRunning <;> exact hRunning
    have hNotVerified : uncleanedAttempt step old = false := by
      unfold uncleanedAttempt
      rw [hOldRunning]
      simp [EvaluationStepRunState.unsuccessful]
    rw [hNotVerified]
    refine hSound.linked.placed_of_stays hOld hOldRunning ?_
    intro row hRow hState _ _
    refine mem_replace_other hRows.unique hStepMember hDeclared hRow ?_
    rintro rfl
    rw [hState] at hUnsuccessful
    cases hUnsuccessful
  · intro hOpen hNot
    rcases any_eq_true.mp hOpen with ⟨row, hRow, hRowOpen⟩
    have hStarted : run.state = .queued ∨ run.state = .running := by
      rcases mem_replace hRow with rfl | ⟨hOld, _⟩
      · have hOpen : step.state.nonTerminal = true := hRowOpen
        cases (nonTerminal_of_unsuccessful hUnsuccessful).symm.trans hOpen
      · exact started_of_open (hSound.derived run hMember) hOld hRowOpen hNot
    exact hStarted

-- Releases

/- Tables whose releases keep their specifications. -/
theorem releases_follow {releases : List EvaluationRelease}
    {frozen : List (FrozenSubmissionId × CourseId)} (hSound : store.Sound)
    (hUnique : Unique EvaluationRelease.id releases)
    (hAccepted : ∀ release ∈ releases, release.evaluationSpec.Accepted)
    (hKept : ∀ release ∈ store.releases, ∃ new ∈ releases, new.id = release.id ∧
      new.evaluationSpec = release.evaluationSpec) :
    Follows none store
      { store with releases, frozenSubmissions := frozen } := by
  have hLinked := hSound.linked
  have hDeclared : ∀ run ∈ store.runs, ∃ release ∈ releases, release.id = run.releaseId ∧
      run.RowsDeclared release.evaluationSpec := by
    intro run hRun
    rcases hLinked.declared run hRun with ⟨release, hMember, hId, hRows⟩
    rcases hKept release hMember with ⟨new, hNew, hNewId, hSpec⟩
    exact ⟨new, hNew, hNewId.trans hId, hSpec ▸ hRows⟩
  refine ⟨⟨⟨hLinked.distinct, hUnique, hAccepted, hDeclared,
    hLinked.rows, hLinked.attemptKeys, hLinked.attempts⟩,
    hSound.valid, hSound.derived⟩, ?_⟩
  intro run hRun
  exact .inr ⟨run, hRun, .inl rfl⟩

variable {releaseId : EvaluationReleaseId}

theorem publishRelease_follows {request : PublishReleaseRequest} (hSound : store.Sound)
    (hPublish : store.publishRelease request releaseId now traceId = .ok after) :
    Follows none store after := by
  simp only [publishRelease, steps_eq_ok] at hPublish
  rcases hPublish with ⟨_, hValid, _, _, _, _, _, hFresh, rfl⟩
  refine releases_follow hSound (hSound.linked.releaseIds.insert ?_) ?_ ?_
  · intro old hOld
    exact (hFresh old hOld).1
  · exact forall_mem_cons.mpr ⟨EvaluationSpec.accepted_of_validate hValid, hSound.linked.accepted⟩
  · intro release hRelease
    exact ⟨release, mem_cons_of_mem _ hRelease, rfl, rfl⟩

variable {release : EvaluationRelease}

theorem loadRelease_eq_ok (hLoad : store.loadRelease releaseId = .ok release) :
    release ∈ store.releases := by
  simp only [loadRelease, steps_eq_ok] at hLoad
  rcases hLoad with ⟨found, hFound, _, _, rfl⟩
  exact mem_of_lookup hFound

theorem withdrawRelease_follows {request : WithdrawReleaseRequest} (hSound : store.Sound)
    (hWithdraw : store.withdrawRelease releaseId request now traceId = .ok after) :
    Follows none store after := by
  simp only [withdrawRelease, steps_eq_ok] at hWithdraw
  rcases hWithdraw with ⟨_, _, release, hRelease, _, _, _, revision, _, _, _, _, rfl⟩
  have hMember := loadRelease_eq_ok hRelease
  have hUnique := hSound.linked.releaseIds
  refine releases_follow hSound (hUnique.map ?_) ?_ ?_
  · intro old _
    split
    · rename_i hSame
      exact hSame.symm
    · rfl
  · intro new hNew
    rcases mem_replace hNew with rfl | ⟨hOld, _⟩
    · exact hSound.linked.accepted release hMember
    · exact hSound.linked.accepted new hOld
  · intro old hOld
    by_cases hSame : old.id = release.id
    · rw [hUnique old hOld release hMember hSame]
      exact ⟨_, mem_replace_self hMember rfl, rfl, rfl⟩
    · exact ⟨old, mem_replace_of_ne hOld hSame, rfl, rfl⟩

-- New Runs

theorem newSteps_declared (newId : Nat → EvaluationStepRunId) (runId : EvaluationRunId)
    (index : Nat) (steps : List EvaluationStep) :
    List.Forall₂ StepDeclaration.DeclaredBy ((newSteps newId runId index steps).map (·.declaration))
      steps := by
  induction steps generalizing index with
  | nil => exact .nil
  | cons step rest ih => exact .cons ⟨rfl, rfl, rfl, rfl⟩ (ih (index + 1))

variable {newId : Nat → EvaluationStepRunId}

/- A new run has identifiers of its own. -/
theorem Linked.distinct_insert (hLinked : store.Linked) (hRun : run.id ∉ store.runs.map (·.id))
    (hSteps : ∀ step ∈ run.steps, step.id ∉ store.stepRows.map (·.id)) :
    Layout.Distinct ((run.id, run.steps.map (·.id)) :: store.layout) := by
  have hApart : ∀ entry ∈ store.layout, ∀ id ∈ run.steps.map (·.id), id ∉ entry.2 := by
    intro entry hEntry id hId hOther
    rcases mem_map.mp hEntry with ⟨other, hMember, rfl⟩
    rcases mem_map.mp hId with ⟨step, hStep, rfl⟩
    rcases mem_map.mp hOther with ⟨row, hRow, hSame⟩
    refine hSteps step hStep (mem_map.mpr ⟨row, ?_, hSame⟩)
    exact mem_flatMap.mpr ⟨other, hMember, hRow⟩
  constructor
  · rw [map_cons, nodup_cons]
    refine ⟨?_, hLinked.distinct.runs⟩
    rwa [layout, map_map]
  · intro first hFirst second hSecond id hId hOther
    rcases mem_cons.mp hFirst with rfl | hFirst
    · rcases mem_cons.mp hSecond with rfl | hSecond
      · rfl
      · exact absurd hOther (hApart second hSecond id hId)
    · rcases mem_cons.mp hSecond with rfl | hSecond
      · exact absurd hId (hApart first hFirst id hOther)
      · exact hLinked.distinct.steps first hFirst second hSecond id hId hOther

variable {request : CreateRunRequest}

theorem newRun_derived {steps : List EvaluationStepRun} (hNonempty : steps ≠ [])
    (hPending : ∀ step ∈ steps, step.state = .pending) :
    (newRun release request runId steps now).StateDerived := by
  have hOpen : (newRun release request runId steps now).hasNonTerminal = true := by
    rcases exists_mem_of_ne_nil steps hNonempty with ⟨step, hStep⟩
    refine any_eq_true.mpr ⟨step, hStep, ?_⟩
    rw [hPending step hStep]
    rfl
  constructor
  · intro hClosed
    cases hOpen.symm.trans hClosed
  · nofun
  · intro _ _
    exact .inl rfl

theorem createRun_follows (hSound : store.Sound)
    (hCreate : store.createRun request runId newId now traceId = .ok after) :
    Follows none store after := by
  simp only [createRun, steps_eq_ok, stepRunsFor_eq_ok] at hCreate
  rcases hCreate with ⟨_, _, _, _, _, release, hRelease, _, _, _, _, _, _, _,
      ⟨_, rfl⟩, _, hChecked, _, _, hFresh, _, _, hSteps, rfl⟩
  have hLinked := hSound.linked
  have hMember := loadRelease_eq_ok hRelease
  have hValid := EvaluationRun.validate_eq_ok.mp hChecked
  have hPending : ∀ row ∈ newSteps newId runId 0 release.evaluationSpec.body.steps,
      row.state = .pending ∧ row.Sound := by
    intro row hRow
    rcases mem_newSteps hRow with ⟨step, _, i, rfl⟩
    exact ⟨rfl, ⟨fun _ => rfl, (fun h => by cases h), (fun h => by cases h)⟩⟩
  have hRows : RowsSound (newSteps newId runId 0 release.evaluationSpec.body.steps) := by
    refine ⟨hValid.stepRunIds, fun row hRow => (hPending row hRow).2, ?_⟩
    intro row hRow hSkipped
    cases ((hPending row hRow).1).symm.trans hSkipped
  constructor
  · refine ⟨⟨hLinked.distinct_insert hFresh hSteps, hLinked.releaseIds, hLinked.accepted,
      forall_mem_cons.mpr ⟨?_, hLinked.declared⟩,
      forall_mem_cons.mpr ⟨hRows, hLinked.rows⟩, hLinked.attemptKeys, ?_⟩,
      forall_mem_cons.mpr ⟨hValid, hSound.valid⟩,
      forall_mem_cons.mpr ⟨?_, hSound.derived⟩⟩
    · exact ⟨release, hMember, rfl, newSteps_declared newId runId 0 _⟩
    · intro attempt hAttempt hRunning
      rcases hLinked.attempts attempt hAttempt hRunning with ⟨run, hRun, hRunsIn⟩
      exact ⟨run, mem_cons_of_mem _ hRun, hRunsIn⟩
    · exact newRun_derived hValid.nonempty (fun row hRow => (hPending row hRow).1)
  · intro run hRun
    rcases mem_cons.mp hRun with rfl | hOld
    · exact .inl (fun row hRow => (hPending row hRow).1)
    · exact .inr ⟨run, hOld, .inl rfl⟩

end EvaluationStore

-- Failing Attempts

namespace EvaluationStore

variable {before store after : EvaluationStore}

/- A run before the recovery and in its course. -/
structure RunRecovers (run new : EvaluationRun) : Prop where
  id : new.id = run.id
  releaseId : new.releaseId = run.releaseId
  ends : Relation.ReflTransGen StepEnded run.steps new.steps

def Due (store : EvaluationStore) (key : EvaluationStepRunId × Nat) : Prop :=
  ∃ attempt ∈ store.attempts, attempt.key = key ∧ attempt.state = .running

/- The tables while the remaining attempts are to fail. -/
structure Failing (before : EvaluationStore) (affected : List EvaluationRunId)
    (remaining : List (EvaluationStepRunId × Nat)) (store : EvaluationStore) : Prop where
  linked : store.Linked
  runs : ∀ new ∈ store.runs, ∃ run ∈ before.runs, RunRecovers run new ∧
    (new = run ∨ new.id ∈ affected)
  due : ∀ key ∈ remaining, store.Due key

variable {stepRunId : EvaluationStepRunId}

theorem runOfStep_eq_some {run : EvaluationRun} (hFound : store.runOfStep stepRunId = some run) :
    run ∈ store.runs ∧ stepRunId ∈ run.steps.map (·.id) := by
  have hHas := List.find?_some hFound
  exact ⟨mem_of_find?_eq_some hFound, of_decide_eq_true hHas⟩

variable {now : UtcTimestamp} {key : EvaluationStepRunId × Nat}

/- What the failure of one attempt changes. -/
theorem failAttempt_updated (hLinked : store.Linked)
    (hDue : store.Due key) (hFail : failAttempt now store key = .ok after) :
    ∃ run rows attempts, after = store.updated { run with steps := rows } attempts ∧
      Updated none store run { run with steps := rows } attempts ∧ key.1 ∈ run.steps.map (·.id) ∧
      StepEnded run.steps rows ∧
      ∀ attempt ∈ store.attempts, attempt.key ≠ key → attempt ∈ attempts := by
  simp only [failAttempt, steps_eq_ok] at hFail
  rcases hFail with ⟨run, hFound, step, hStep, revision, _, rows, hAfter, rfl⟩
  rcases runOfStep_eq_some hFound with ⟨hRun, hHas⟩
  rcases loadStep_eq_ok hStep with ⟨hStepMember, hStepId⟩
  rcases hDue with ⟨mine, hMine, rfl, hMineRunning⟩
  rcases hLinked.current_of_running hRun hStepMember hMine
      hMineRunning hStepId.symm with ⟨hRunning, hCurrent⟩
  have hDeclared : (step.expired revision now).declaration = step.declaration := rfl
  have hAwarded : step.awardedScore = none := by
    refine ((hLinked.rows run hRun).sound step hStepMember).unawarded ?_
    rw [hRunning]
    rintro ⟨⟩
  have hEnd : StepEnded run.steps rows := .intro hStepMember hDeclared hRunning (.inr rfl)
    (sound_of_ended (.inr ⟨rfl, hAwarded⟩)) hAfter
  refine ⟨run, rows, _, rfl, ⟨hRun, rfl, rfl, .ended (.single hEnd),
    hLinked.concluded_keys _ _ _, ?_⟩, hHas, hEnd, ?_⟩
  · intro attempt hAttempt hAttemptRunning
    refine hLinked.placed_of_ended hRun hStepMember hDeclared
      hAfter _ ?_ (fun h => by cases h) hAttempt
      hAttemptRunning
    intro other _ hOtherRunning hKey
    refine ⟨?_, hOtherRunning⟩
    rwa [hStepId, hCurrent] at hKey
  · intro attempt hAttempt hOther
    refine mem_map.mpr ⟨attempt, hAttempt, ?_⟩
    rw [if_neg]
    rintro ⟨hKey, _⟩
    exact hOther hKey

variable {affected : List EvaluationRunId}

theorem Failing.step {rest : List (EvaluationStepRunId × Nat)}
    (hBefore : before.Linked) (hFailing : Failing before affected (key :: rest) store)
    (hNew : key ∉ rest)
    (hAffected : ∀ run ∈ before.runs, key.1 ∈ run.steps.map (·.id) → run.id ∈ affected)
    (hFail : failAttempt now store key = .ok after) : Failing before affected rest after := by
  have hLinked := hFailing.linked
  rcases failAttempt_updated hLinked (hFailing.due key mem_cons_self) hFail with
    ⟨run, rows, attempts, rfl, hUpdated, hHas, hEnd, hKept⟩
  refine ⟨hLinked.update hUpdated, ?_, ?_⟩
  · intro new hMember
    rcases mem_replace hMember with rfl | ⟨hOld, _⟩
    · rcases hFailing.runs run hUpdated.member with ⟨first, hFirst, hRecovers, _⟩
      have hClosure := StepEnded.closure (hBefore.rows first hFirst) hRecovers.ends
      have hIds := ids_of_declarations hClosure.2
      have hFirstAffected : first.id ∈ affected := hAffected first hFirst (hIds ▸ hHas)
      refine ⟨first, hFirst, ⟨hRecovers.id, hRecovers.releaseId, hRecovers.ends.tail hEnd⟩, .inr ?_⟩
      rwa [← hRecovers.id] at hFirstAffected
    · exact hFailing.runs new hOld
  · intro other hOther
    rcases hFailing.due other (mem_cons_of_mem _ hOther) with ⟨attempt, hAttempt, hKey, hRunning⟩
    refine ⟨attempt, hKept attempt hAttempt ?_, hKey, hRunning⟩
    rw [hKey]
    rintro rfl
    exact hNew hOther

theorem Failing.all {keys : List (EvaluationStepRunId × Nat)} (hBefore : before.Linked)
    (hFailing : Failing before affected keys store) (hNodup : keys.Nodup)
    (hAffected : ∀ key ∈ keys, ∀ run ∈ before.runs,
      key.1 ∈ run.steps.map (·.id) → run.id ∈ affected)
    (hFail : keys.foldlM (failAttempt now) store = .ok after) :
    Failing before affected [] after := by
  induction keys generalizing store with
  | nil =>
    cases hFail
    exact hFailing
  | cons key rest ih =>
    rw [foldlM_cons, bind_eq_ok] at hFail
    rcases hFail with ⟨next, hStep, hRest⟩
    rcases nodup_cons.mp hNodup with ⟨hNew, hNodup⟩
    have hNext := hFailing.step hBefore hNew (hAffected key mem_cons_self) hStep
    refine ih hNext hNodup ?_ hRest
    intro other hOther
    exact hAffected other (mem_cons_of_mem _ hOther)

-- Refreshing Runs

/- The tables while the remaining runs are out of date. -/
structure Refreshing (before : EvaluationStore) (remaining : List EvaluationRunId)
    (store : EvaluationStore) : Prop where
  linked : store.Linked
  runs : ∀ new ∈ store.runs, ∃ run ∈ before.runs, RunRecovers run new ∧
    (new.Valid ∧ new.StateDerived ∨ new.id ∈ remaining)

theorem Failing.refreshing (hSound : before.Sound) (hFailing : Failing before affected [] store) :
    Refreshing before affected store := by
  refine ⟨hFailing.linked, ?_⟩
  intro new hNew
  rcases hFailing.runs new hNew with ⟨run, hRun, hRecovers, rfl | hAffected⟩
  · exact ⟨new, hRun, hRecovers, .inl ⟨hSound.valid new hRun, hSound.derived new hRun⟩⟩
  · exact ⟨run, hRun, hRecovers, .inr hAffected⟩

variable {runId : EvaluationRunId}

theorem Refreshing.step {rest : List EvaluationRunId}
    (hSound : before.Sound) (hRefreshing : Refreshing before (runId :: rest) store)
    (hOpen : ∀ run ∈ before.runs, run.id = runId → ∃ step ∈ run.steps, step.state = .running)
    (hRefresh : refreshAffected before now store runId = .ok after) :
    Refreshing before rest after := by
  simp only [refreshAffected, steps_eq_ok] at hRefresh
  rcases hRefresh with ⟨run, hLoad, current, hFound, revision, _, new, hNew, rfl⟩
  rcases loadRun_eq_ok hLoad with ⟨hRun, hRunId⟩
  have hCurrent := mem_of_lookup hFound
  have hCurrentId : current.id = runId := key_of_lookup hFound
  have hLinked := hRefreshing.linked
  rcases hRefreshing.runs current hCurrent with ⟨first, hFirst, hRecovers, _⟩
  have hSame : first = run := hSound.linked.runIds first hFirst run hRun
    (by rw [← hRecovers.id, hCurrentId, hRunId])
  subst hSame
  have hRefreshed := refreshRun_refreshed hNew
  have hId : new.id = first.id := hRefreshed.same.id
  have hReleaseId : new.releaseId = first.releaseId := hRefreshed.same.releaseId
  have hUpdated : Updated none store current new store.attempts := by
    refine ⟨hCurrent, hId.trans hRecovers.id.symm, hReleaseId.trans hRecovers.releaseId.symm,
      hRefreshed.steps ▸ .ended .refl, hLinked.attemptKeys, ?_⟩
    intro attempt hAttempt hRunning
    rw [hRefreshed.steps]
    exact hLinked.placed_of_stays hAttempt hRunning (fun row hRow _ _ _ => hRow)
  have hDerived : new.StateDerived := by
    refine refreshRun_derived hNew ?_
    intro _ hCancel
    rcases hOpen first hRun hRunId with ⟨step, hStep, hRunning⟩
    have hStarted : first.state = .queued ∨ first.state = .running :=
      started_of_open (hSound.derived first hRun) hStep (by rw [hRunning]; rfl) hCancel
    exact hStarted
  refine ⟨hLinked.update hUpdated, ?_⟩
  intro other hOther
  rcases mem_replace hOther with rfl | ⟨hOld, hNe⟩
  · exact ⟨first, hFirst, ⟨hId, hReleaseId, hRefreshed.steps ▸ hRecovers.ends⟩,
      .inl ⟨hRefreshed.valid, hDerived⟩⟩
  · rcases hRefreshing.runs other hOld with ⟨old, hMember, hOldRecovers, hGood | hLater⟩
    · exact ⟨old, hMember, hOldRecovers, .inl hGood⟩
    · refine ⟨old, hMember, hOldRecovers, .inr ?_⟩
      rcases mem_cons.mp hLater with hNow | hLater
      · exact absurd (hNow.trans (hRunId.symm.trans hId.symm)) hNe
      · exact hLater

theorem Refreshing.all {ids : List EvaluationRunId} (hSound : before.Sound)
    (hRefreshing : Refreshing before ids store)
    (hOpen : ∀ id ∈ ids, ∀ run ∈ before.runs, run.id = id →
      ∃ step ∈ run.steps, step.state = .running)
    (hRefresh : ids.foldlM (refreshAffected before now) store = .ok after) :
    Refreshing before [] after := by
  induction ids generalizing store with
  | nil =>
    cases hRefresh
    exact hRefreshing
  | cons id rest ih =>
    rw [foldlM_cons, bind_eq_ok] at hRefresh
    rcases hRefresh with ⟨next, hStep, hRest⟩
    have hNext := hRefreshing.step hSound (hOpen id mem_cons_self) hStep
    refine ih hNext ?_ hRest
    intro other hOther
    exact hOpen other (mem_cons_of_mem _ hOther)

-- Recovery

variable {chosen : List (EvaluationStepRunId × Nat)}

theorem mem_affectedRuns : runId ∈ store.affectedRuns chosen ↔ ∃ key ∈ chosen, ∃ run,
      store.runOfStep key.1 = some run ∧ run.id = runId := by
  simp only [affectedRuns, mem_eraseDups, mem_filterMap, Option.map_eq_some_iff]

/- The run of a row is found. -/
theorem Linked.runOfStep_eq (hLinked : store.Linked) {run : EvaluationRun} (hRun : run ∈ store.runs)
    (hHas : stepRunId ∈ run.steps.map (·.id)) :
    store.runOfStep stepRunId = some run := by
  cases hFound : store.runOfStep stepRunId with
  | none =>
    have hNone := List.find?_eq_none.mp hFound run hRun
    exact absurd (decide_eq_true hHas) hNone
  | some found =>
    rcases runOfStep_eq_some hFound with ⟨hMember, hOther⟩
    rw [hLinked.same_run hMember hRun hOther hHas]

theorem recoverExpired_follows {limit : Nat} (hSound : store.Sound)
    (hRecover : store.recoverExpired limit chosen now = .ok after) :
    Follows none store after := by
  simp only [recoverExpired, steps_eq_ok] at hRecover
  rcases hRecover with ⟨_, ⟨_, hNodup, hExpired⟩, failed, hFail, hRefresh⟩
  have hLinked := hSound.linked
  have hDue : ∀ key ∈ chosen, store.Due key := by
    intro key hKey
    rcases any_eq_true.mp (hExpired key hKey) with ⟨attempt, hAttempt, hTest⟩
    simp only [expiredAttempt, Bool.and_eq_true, decide_eq_true_eq] at hTest
    exact ⟨attempt, hAttempt, hTest.1, hTest.2.1⟩
  have hStart : Failing store (store.affectedRuns chosen) chosen store := by
    refine ⟨hLinked, ?_, hDue⟩
    intro run hRun
    exact ⟨run, hRun, ⟨rfl, rfl, .refl⟩, .inl rfl⟩
  have hFailing := hStart.all hLinked hNodup (fun key hKey run hRun hHas => mem_affectedRuns.mpr
    ⟨key, hKey, run, hLinked.runOfStep_eq hRun hHas, rfl⟩)
    hFail
  have hOpen : ∀ id ∈ store.affectedRuns chosen, ∀ run ∈ store.runs, run.id = id →
      ∃ step ∈ run.steps, step.state = .running := by
    intro id hId run hRun hRunId
    rcases mem_affectedRuns.mp hId with ⟨key, hKey, found, hFound, hFoundId⟩
    rcases runOfStep_eq_some hFound with ⟨hMember, hHas⟩
    rw [hLinked.runIds run hRun found hMember (hRunId.trans hFoundId.symm)]
    rcases hDue key hKey with ⟨attempt, hAttempt, rfl, hRunning⟩
    rcases mem_map.mp hHas with ⟨step, hStep, hStepId⟩
    exact ⟨step, hStep, (hLinked.current_of_running hMember hStep hAttempt hRunning hStepId.symm).1⟩
  have hDone := (hFailing.refreshing hSound).all hSound hOpen hRefresh
  have hGood : ∀ new ∈ after.runs, new.Valid ∧ new.StateDerived := by
    intro new hNew
    rcases hDone.runs new hNew with ⟨_, _, _, hGood | hLeft⟩
    · exact hGood
    · cases hLeft
  refine ⟨⟨hDone.linked, fun new hNew => (hGood new hNew).1,
    fun new hNew => (hGood new hNew).2⟩, ?_⟩
  intro new hNew
  rcases hDone.runs new hNew with ⟨run, hRun, hRecovers, _⟩
  exact .inr ⟨run, hRun, .inr ⟨hRecovers.id, .ended hRecovers.ends⟩⟩

end EvaluationStore

-- All Operations

/- The row that a retry names. -/
def EvaluationOperation.retried : EvaluationOperation → Option EvaluationStepRunId
| .retryStep _ stepRunId _ _ _ => some stepRunId
| _ => none

namespace EvaluationStore

variable {store after : EvaluationStore} {operation : EvaluationOperation}

theorem perform_follows (hSound : store.Sound) (hPerform : store.perform operation = .ok after) :
    Follows operation.retried store after := by
  cases operation with
  | publishRelease => exact publishRelease_follows hSound hPerform
  | withdrawRelease => exact withdrawRelease_follows hSound hPerform
  | freezeSubmission =>
    cases hPerform
    exact releases_follow hSound hSound.linked.releaseIds hSound.linked.accepted
      (fun release hRelease => ⟨release, hRelease, rfl, rfl⟩)
  | createRun => exact createRun_follows hSound hPerform
  | claimNextStep => exact claimStep_follows hSound hPerform
  | completeStep => exact completeStep_follows hSound hPerform
  | recoverExpiredStepAttempts => exact recoverExpired_follows hSound hPerform
  | requestCancellation => exact requestCancellation_follows hSound hPerform
  | retryStep => exact retryStep_follows hSound hPerform
  | verifyStepCleanup => exact verifyStepCleanup_follows hSound hPerform

theorem empty_sound : EvaluationStore.empty.Sound :=
  ⟨⟨⟨nodup_nil, forall_mem_nil _⟩, forall_mem_nil _, forall_mem_nil _,
    forall_mem_nil _, forall_mem_nil _, forall_mem_nil _, forall_mem_nil _⟩,
    forall_mem_nil _, forall_mem_nil _⟩

end EvaluationStore

theorem evaluation_sound (hReach : evaluationMachine.Reachable store) : store.Sound := by
  refine hReach.invariant ?_ ?_
  · rintro _ rfl
    exact EvaluationStore.empty_sound
  · intro store operation after hSound _ hStep
    exact (EvaluationStore.perform_follows hSound (eq_ok_of_toOption hStep)).sound

end LabWeaver
