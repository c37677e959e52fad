import Mathlib.Data.Prod.Lex
import LabWeaver.Base.Sorted
import LabWeaver.Evaluation.Verdicts

/-
  This file models how students read their results page by page, and shows when following the
  pages returns every finished run once.

  Main declaration: `student_results_readable`.
-/

namespace LabWeaver

open Outcome EvaluationStore Keyset StudentEvaluationResult List

-- Reading Results

/- The order of the pages: the time of the last update, then the identifier. -/
def EvaluationRun.resultKey (run : EvaluationRun) : Int ×ₗ Nat :=
  toLex (run.updatedAt, run.id.uuid.toNat)

namespace EvaluationStore

variable (store : EvaluationStore)

def finishedRuns (courseId : CourseId) (actorId : ActorId) : List EvaluationRun :=
  store.runs.filter (fun run =>
    decide (run.courseId = courseId) &&
      decide (run.actorId = actorId) &&
      run.state.result?.isSome)

def resultRows (courseId : CourseId) (actorId : ActorId) : List EvaluationRun :=
  (store.finishedRuns courseId actorId).filter (fun run => store.releases.any
    (fun release => decide (release.id = run.releaseId)))

/- `decode_run` and `from_terminal` for each row. -/
def decodeResults : List EvaluationRun → Except EvaluationControlStoreError
    (List StudentEvaluationResult)
| [] => .ok []
| run :: rest => do
    run.validate.mapError .contract
    let result ← (fromTerminal run).mapError .contract
    let results ← decodeResults rest
    .ok (result :: results)

/- The place in the order that a cursor stands for. -/
def cursorKey (courseId : CourseId) (actorId : ActorId) :
    Option EvaluationRunId → Except EvaluationControlStoreError (Option (Int ×ₗ Nat))
| none => .ok none
| some runId => do
    let run ← require (Rows.lookup (·.id) (store.finishedRuns courseId actorId) runId)
        .contractInvalid
    .ok (some run.resultKey)

def studentResults (courseId : CourseId) (actorId : ActorId)
    (cursor : Option EvaluationRunId) (limit : Nat) :
    Except EvaluationControlStoreError (List StudentEvaluationResult × Option EvaluationRunId) := do
  ensure (1 ≤ limit ∧ limit ≤ 100) .contractInvalid
  let start ← store.cursorKey courseId actorId cursor
  let rows := remaining EvaluationRun.resultKey (store.resultRows courseId actorId) start
  let items ← decodeResults (rows.take (limit + 1))
  let shown := items.take limit
  .ok (shown,
    if limit < items.length then shown.getLast?.map (·.runId) else none)

/- The results that a reader collects who follows the cursors until there is none. -/
inductive Pages (store : EvaluationStore) (courseId : CourseId) (actorId : ActorId) (limit : Nat) :
    Option EvaluationRunId → List StudentEvaluationResult → Prop where
| last {cursor : Option EvaluationRunId} {items : List StudentEvaluationResult} (hPage :
      store.studentResults courseId actorId cursor limit = .ok (items, none)) :
    Pages store courseId actorId limit cursor items
| next {cursor : Option EvaluationRunId} {next : EvaluationRunId}
    {items rest : List StudentEvaluationResult}
    (hPage : store.studentResults courseId actorId cursor limit = .ok (items, some next))
    (hRest : Pages store courseId actorId limit (some next) rest) :
    Pages store courseId actorId limit cursor (items ++ rest)

variable {store : EvaluationStore} {courseId : CourseId} {actorId : ActorId} {limit : Nat}

-- Rows

theorem mem_finishedRuns {run : EvaluationRun} : run ∈ store.finishedRuns courseId actorId ↔
    run ∈ store.runs ∧ run.courseId = courseId ∧ run.actorId = actorId ∧
    run.state.result?.isSome = true := by
  simp only [finishedRuns, mem_filter, Bool.and_eq_true, decide_eq_true_eq, and_assoc]

/- No finished run is lost in the join. -/
theorem Linked.resultRows_eq (hLinked : store.Linked) : store.resultRows courseId actorId =
    store.finishedRuns courseId actorId := by
  refine filter_eq_self.mpr ?_
  intro run hRun
  rcases hLinked.declared run (mem_finishedRuns.mp hRun).1 with ⟨release, hRelease, hId, _⟩
  exact any_eq_true.mpr ⟨release, hRelease, decide_eq_true hId⟩

theorem Linked.finished_ids (hLinked : store.Linked) : ((store.finishedRuns courseId actorId).map
    (·.id)).Nodup := by
  have hAll := hLinked.distinct.runs
  rw [layout, map_map] at hAll
  exact hAll.sublist (filter_sublist.map _)

theorem Linked.finished_keys (hLinked : store.Linked) : ((store.finishedRuns courseId actorId).map
    EvaluationRun.resultKey).Nodup := by
  have hIds : ((store.finishedRuns courseId actorId).map (·.id)).Nodup := hLinked.finished_ids
  refine List.Nodup.map_on ?_ (List.Nodup.of_map _ hIds)
  intro run hRun other hOther hSame
  have hUuid : run.id.uuid.toNat = other.id.uuid.toNat := congrArg (fun key => (ofLex key).2) hSame
  have hId : run.id = other.id := by
    cases hFirst : run.id
    cases hSecond : other.id
    rw [hFirst, hSecond] at hUuid
    exact congrArg TypedId.mk (BitVec.eq_of_toNat_eq hUuid)
  exact inj_on_of_nodup_map hIds hRun hOther hId

-- Single Pages

variable {rows : List EvaluationRun} {items : List StudentEvaluationResult}

theorem decodeResults_eq_ok :
    decodeResults rows = .ok items ↔ List.Forall₂ (fun run result => run.validate = .ok () ∧
      fromTerminal run = .ok result) rows items := by
  induction rows generalizing items with
  | nil =>
    rw [forall₂_nil_left_iff, decodeResults, Except.ok.injEq]
    exact eq_comm
  | cons run rest ih =>
    simp only [decodeResults, steps_eq_ok, ih]
    constructor
    · rintro ⟨_, hValid, result, hResult, results, hRest, rfl⟩
      exact .cons ⟨hValid, hResult⟩ hRest
    · intro hAll
      cases hAll with
      | cons hHead hRest => exact ⟨_, hHead.1, _, hHead.2, _, hRest, rfl⟩

theorem decodeResults_of_recorded (hRows : ∀ run ∈ rows, run.validate = .ok () ∧
        run.state.result?.isSome = true ∧ run.completedAt.isSome = true) :
    ∃ items, decodeResults rows = .ok items ∧ items.map (·.runId) = rows.map (·.id) := by
  induction rows with
  | nil => exact ⟨[], rfl, rfl⟩
  | cons run rest ih =>
    rcases forall_mem_cons.mp hRows with ⟨⟨hValid, hDone⟩, hRest⟩
    rcases ih hRest with ⟨items, hItems, hIds⟩
    rcases (fromTerminal_isOk hValid).mpr hDone with ⟨result, hResult⟩
    refine ⟨result :: items, ?_, ?_⟩
    · rw [decodeResults_eq_ok] at hItems ⊢
      exact .cons ⟨hValid, hResult⟩ hItems
    · rw [map_cons, map_cons, hIds, runId_of_fromTerminal hResult]

/- A cursor and its place in the order. -/
def CursorAt (store : EvaluationStore) (courseId : CourseId) (actorId : ActorId)
    (cursor : Option EvaluationRunId) (start : Option (Int ×ₗ Nat)) : Prop :=
  cursor = none ∧ start = none ∨
  ∃ run ∈ store.finishedRuns courseId actorId, cursor = some run.id ∧ start = some run.resultKey

variable {cursor : Option EvaluationRunId} {start : Option (Int ×ₗ Nat)}

theorem Linked.cursorKey_eq (hLinked : store.Linked)
    (hCursor : store.CursorAt courseId actorId cursor start) :
    store.cursorKey courseId actorId cursor = .ok start := by
  rcases hCursor with ⟨rfl, rfl⟩ | ⟨run, hRun, rfl, rfl⟩
  · rfl
  · have hUnique : Rows.Unique EvaluationRun.id (store.finishedRuns courseId actorId) := by
      intro first hFirst second hSecond hSame
      exact inj_on_of_nodup_map hLinked.finished_ids hFirst hSecond hSame
    have hFound := (Rows.lookup_eq_some_iff hUnique).mpr ⟨hRun, rfl⟩
    simp only [cursorKey, hFound]
    rfl

-- All Pages

/- The last row of a page that is followed by another. -/
theorem exists_page_end (hLimit : 1 ≤ limit) (hMore : limit < rows.length) :
    ∃ front last rest, rows = front ++ last :: rest ∧ rows.take limit = front ++ [last] := by
  rcases exists_cons_of_ne_nil (ne_nil_of_length_pos
      (show 0 < (rows.drop (limit - 1)).length by
        rw [length_drop]
        omega)) with ⟨last, rest, hDrop⟩
  have hSplit := take_append_drop (limit - 1) rows
  rw [hDrop] at hSplit
  refine ⟨rows.take (limit - 1), last, rest, hSplit.symm, ?_⟩
  have hLength : (rows.take (limit - 1)).length = limit - 1 := length_take_of_le (by omega)
  calc rows.take limit = (rows.take (limit - 1) ++ last :: rest).take
          limit := by rw [hSplit]
    _ = rows.take (limit - 1) ++ (last :: rest).take (limit - (limit - 1)) := by
        rw [take_append, hLength, take_of_length_le (by rw [hLength]; omega)]
    _ = rows.take (limit - 1) ++ [last] := by
        rw [show limit - (limit - 1) = 1 by omega]
        rfl

/- If the end of every finished run is recorded, the pages from a cursor on have exactly the rows
  below it. -/
theorem Sound.pages_of_recorded (hSound : store.Sound) (hLimit : 1 ≤ limit ∧ limit ≤ 100)
    (hRecorded : ∀ run ∈ store.finishedRuns courseId actorId, run.completedAt.isSome = true)
    (hCursor : store.CursorAt courseId actorId cursor start) :
    ∃ results, Pages store courseId actorId limit cursor results ∧ results.map (·.runId) =
      (remaining EvaluationRun.resultKey (store.finishedRuns courseId actorId) start).map
        (·.id) := by
  have hLinked := hSound.linked
  -- by induction on the number of rows that remain
  generalize hRows : remaining EvaluationRun.resultKey
    (store.finishedRuns courseId actorId) start = rows
  induction hLength : rows.length using Nat.strong_induction_on generalizing cursor start rows with
  | _ n ih =>
    have hFinished : ∀ run ∈ rows, run ∈ store.finishedRuns courseId actorId := by
      intro run hRun
      rw [← hRows] at hRun
      exact (mem_remaining.mp hRun).1
    have hGood : ∀ run ∈ rows.take (limit + 1), run.validate = .ok () ∧
        run.state.result?.isSome = true ∧ run.completedAt.isSome = true := by
      intro run hRun
      have hRow := hFinished run (mem_of_mem_take hRun)
      rcases mem_finishedRuns.mp hRow with ⟨hMember, _, _, hState⟩
      exact ⟨EvaluationRun.validate_eq_ok.mpr (hSound.valid run hMember), hState,
        hRecorded run hRow⟩
    rcases decodeResults_of_recorded hGood with ⟨items, hItems, hIds⟩
    have hCount : items.length = (rows.take (limit + 1)).length := by
      have hSame := congrArg List.length hIds
      rwa [length_map, length_map] at hSame
    rw [length_take] at hCount
    have hPage : store.studentResults courseId actorId cursor limit = .ok (items.take limit,
        if limit < items.length then (items.take limit).getLast?.map (·.runId) else none) := by
      rw [studentResults, ensure_bind_of hLimit, bind_of_ok (hLinked.cursorKey_eq hCursor),
        hLinked.resultRows_eq, hRows]
      simp only [bind_of_ok hItems]
    by_cases hMore : limit < rows.length
    · rcases exists_page_end hLimit.1 hMore with ⟨front, last, rest, hSplit, hFront⟩
      have hShown : (items.take limit).map (·.runId) = front.map (·.id) ++ [last.id] := by
        rw [map_take, hIds, ← map_take, take_take, Nat.min_eq_left (by omega), hFront, map_append]
        rfl
      have hNext : (items.take limit).getLast?.map (·.runId) = some last.id := by
        rw [← List.getLast?_map, hShown, List.getLast?_append]
        rfl
      rw [if_pos (by omega), hNext] at hPage
      have hLast : last ∈ store.finishedRuns courseId actorId := hFinished last
        (by rw [hSplit]; exact mem_append_right _ mem_cons_self)
      have hRest := remaining_after hLinked.finished_keys (hRows.trans hSplit)
      have hShorter : rest.length < n := by
        rw [← hLength, hSplit, length_append, length_cons]
        omega
      rcases ih _ hShorter (.inr ⟨last, hLast, rfl, rfl⟩)
          rest hRest rfl with ⟨others, hOthers, hOtherIds⟩
      refine ⟨items.take limit ++ others, .next hPage hOthers, ?_⟩
      rw [map_append, hShown, hOtherIds, hSplit, map_append, append_assoc]
      rfl
    · rw [if_neg (by omega)] at hPage
      refine ⟨items.take limit, .last hPage, ?_⟩
      rw [map_take, hIds, ← map_take, take_take, take_of_length_le (by omega)]

theorem page_recorded {next : Option EvaluationRunId}
    (hPage : store.studentResults courseId actorId cursor limit = .ok (items, next))
    {result : StudentEvaluationResult} (hResult : result ∈ items) :
    ∃ run ∈ store.runs, run.id = result.runId ∧ run.completedAt.isSome = true := by
  simp only [studentResults, steps_eq_ok, Prod.mk.injEq] at hPage
  rcases hPage with ⟨_, start, _, found, hItems, rfl, _⟩
  rw [decodeResults_eq_ok] at hItems
  rcases Propagation.Rule.exists_before hItems (mem_of_mem_take hResult) with
    ⟨run, hRun, hValid, hDecoded⟩
  have hRow := (mem_remaining.mp (mem_of_mem_take hRun)).1
  have hMember := (mem_finishedRuns.mp (mem_filter.mp hRow).1).1
  exact ⟨run, hMember, (runId_of_fromTerminal hDecoded).symm,
    ((fromTerminal_isOk hValid).mp ⟨result, hDecoded⟩).2⟩

theorem Pages.recorded {results : List StudentEvaluationResult}
    (hPages : Pages store courseId actorId limit cursor results) {result : StudentEvaluationResult}
    (hResult : result ∈ results) :
    ∃ run ∈ store.runs, run.id = result.runId ∧ run.completedAt.isSome = true := by
  induction hPages with
  | last hPage => exact page_recorded hPage hResult
  | next hPage _ ih =>
    rcases mem_append.mp hResult with hHere | hLater
    · exact page_recorded hPage hHere
    · exact ih hLater

end EvaluationStore

/- Following the pages of an actor in a course returns each finished run exactly once, if and only
  if the end of each is recorded. -/
theorem student_results_readable {store : EvaluationStore}
    (hReach : evaluationMachine.Reachable store) (courseId : CourseId) (actorId : ActorId)
    {limit : Nat} (hLimit : 1 ≤ limit ∧ limit ≤ 100) :
    (∃ results, Pages store courseId actorId limit none results ∧
      (results.map (·.runId)).Nodup ∧
      ∀ runId, runId ∈ results.map (·.runId) ↔ ∃ run ∈ store.runs, run.id = runId ∧
        run.courseId = courseId ∧ run.actorId = actorId ∧ run.state.result?.isSome = true) ↔
    ∀ run ∈ store.runs, run.courseId = courseId → run.actorId = actorId →
      run.state.result?.isSome = true → run.completedAt.isSome = true := by
  have hSound := evaluation_sound hReach
  have hLinked := hSound.linked
  constructor
  · rintro ⟨results, hPages, _, hAll⟩ run hRun hCourse hActor hState
    have hListed := (hAll run.id).mpr ⟨run, hRun, rfl, hCourse, hActor, hState⟩
    rcases mem_map.mp hListed with ⟨result, hResult, hId⟩
    rcases hPages.recorded hResult with ⟨other, hOther, hOtherId, hRecorded⟩
    rwa [hLinked.runIds run hRun other hOther (hOtherId.trans hId).symm]
  · intro hRecorded
    have hFinished : ∀ run ∈ store.finishedRuns courseId actorId,
        run.completedAt.isSome = true := by
      intro run hRun
      rcases mem_finishedRuns.mp hRun with ⟨hMember, hCourse, hActor, hState⟩
      exact hRecorded run hMember hCourse hActor hState
    rcases hSound.pages_of_recorded hLimit hFinished (.inl ⟨rfl, rfl⟩) with ⟨results, hPages, hIds⟩
    have hPerm : ((remaining EvaluationRun.resultKey
        (store.finishedRuns courseId actorId) none).map (·.id)).Perm
        ((store.finishedRuns courseId actorId).map (·.id)) :=
      remaining_none_perm.map _
    refine ⟨results, hPages, ?_, ?_⟩
    · rw [hIds]
      exact hPerm.nodup_iff.mpr hLinked.finished_ids
    · intro runId
      rw [hIds, hPerm.mem_iff, mem_map]
      constructor
      · rintro ⟨run, hRun, hId⟩
        rcases mem_finishedRuns.mp hRun with ⟨hMember, hRest⟩
        exact ⟨run, hMember, hId, hRest⟩
      · rintro ⟨run, hMember, hId, hRest⟩
        exact ⟨run, mem_finishedRuns.mpr ⟨hMember, hRest⟩, hId⟩

namespace EvaluationSample

def single (completion : EvaluationStepCompletion) : List EvaluationOperation :=
  opening (gradedSpec [gate "a" []] 0) ++ [claim 0, complete 0 1 completion]

def passedTwice : List EvaluationOperation :=
  single (passed none) ++ [.createRun request ⟨2⟩ (fun _ => newId 1) 0 "trace", claimOf ⟨2⟩ 1,
    completeOf ⟨2⟩ 1 1 (passed none)]

end EvaluationSample

open EvaluationSample

/- Two finished runs on pages of one. -/
theorem student_results_readable_passed : ∃ store : EvaluationStore,
    evaluationMachine.Reachable store ∧ (store.finishedRuns ⟨1⟩ ⟨2⟩).length = 2 ∧
    ∃ results, Pages store ⟨1⟩ ⟨2⟩ 1 none results ∧ (results.map (·.runId)).Nodup ∧
      ∀ runId, runId ∈ results.map (·.runId) ↔ ∃ run ∈ store.runs, run.id = runId ∧
        run.courseId = ⟨1⟩ ∧ run.actorId = ⟨2⟩ ∧ run.state.result?.isSome = true := by
  have hFound : ∃ store, evaluationMachine.Reachable store ∧
      (store.finishedRuns ⟨1⟩ ⟨2⟩).length = 2 ∧
      ∀ run ∈ store.runs, run.completedAt.isSome = true :=
    Machine.exists_reachable passedTwice (s := empty) rfl (by decide +kernel)
  rcases hFound with ⟨store, hReach, hTwo, hRecorded⟩
  exact ⟨store, hReach, hTwo, (student_results_readable hReach ⟨1⟩ ⟨2⟩ ⟨by decide, by decide⟩).mpr
    (fun run hRun _ _ _ => hRecorded run hRun)⟩

/- A run whose gate has failed without verified cleanup is finished, and its results cannot be
  read. -/
theorem student_results_not_readable : ∃ store : EvaluationStore,
    evaluationMachine.Reachable store ∧
    store.studentResults ⟨1⟩ ⟨2⟩ none 10 = .error (.contract .terminalStateInvalid) := by
  exact Machine.exists_reachable (single (failed false)) (s := empty) rfl (by decide +kernel)

end LabWeaver
