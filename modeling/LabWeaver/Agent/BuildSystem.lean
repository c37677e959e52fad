import Mathlib.Data.Option.Basic
import LabWeaver.Agent.BuildExecutor

/-
  This file models one build pipeline with its executor, between which messages may be delayed,
  and shows when a build that is aborted while the executor works on it is cleaned up.

  Main declaration: `aborted_build_cleaned`.
-/

namespace LabWeaver

open BuildExecution List Option

variable {δ : Type}

-- Calls

namespace BuildSystem

variable {execution : BuildExecution δ}

/- At most one call is added, and every cleanup that is requested is the one of the execution. -/
def CallsFrom (execution : BuildExecution δ) (calls : List (ProviderCall δ))
    (next : BuildRun δ) : Prop :=
  next.calls.map (·.request) = calls.map (·.request) ∨
  ∃ request, (request.stage = .cleanup → request = execution.cleanupRequest) ∧
    next.calls.map (·.request) = request :: calls.map (·.request)

theorem callsFrom_clean (original : BuildPipelineError) (timed : Bool)
    (calls : List (ProviderCall δ)) :
    CallsFrom execution calls (execution.clean original timed calls) :=
  .inr ⟨_, fun _ => rfl, rfl⟩

variable {calls : List (ProviderCall δ)} (cancelled : Bool)

theorem callsFrom_stage {phase : BuildPhase δ} {request : BuildExecutorRequest δ}
    (hStage : request.stage ≠ .cleanup) :
    CallsFrom execution calls (execution.stage cancelled phase request calls) := by
  cases cancelled with
  | true => exact callsFrom_clean _ _ _
  | false => exact .inr ⟨_, fun h => absurd h hStage, rfl⟩

theorem callsFrom_proceed {α : Type} {checked : Except BuildPipelineError α} {next : α → BuildRun δ}
    (hNext : ∀ a, CallsFrom execution calls (next a)) :
    CallsFrom execution calls (execution.proceed calls checked next) := by
  cases checked with
  | error error => exact callsFrom_clean _ _ _
  | ok a => exact hNext a

variable (execution)

theorem callsFrom_begin : CallsFrom execution [] (execution.begin cancelled) := by
  unfold begin
  cases execution.admission with
  | error error => exact .inl rfl
  | ok _ => exact callsFrom_stage cancelled nofun

def OwnCleanups (calls : List (ProviderCall δ)) : Prop :=
  ∀ request ∈ calls.map (·.request), request.stage = .cleanup → request = execution.cleanupRequest

variable {execution}

theorem CallsFrom.ownCleanups {next : BuildRun δ} (hFrom : CallsFrom execution calls next)
    (hOwn : OwnCleanups execution calls) : OwnCleanups execution next.calls := by
  intro request hRequest
  rcases hFrom with hSame | ⟨new, hNewOwn, hNew⟩
  · exact hOwn request (hSame ▸ hRequest)
  · rw [hNew] at hRequest
    rcases mem_cons.mp hRequest with hLast | hEarlier
    · rwa [hLast]
    · exact hOwn request hEarlier

end BuildSystem

-- The System

/- One pipeline and its executor. Calls are numbered in order. `cleanups` counts the cleanups that
  the backend has performed, and `abortedRemotely` says whether the pipeline gave up while the
  backend was executing a stage. -/
structure BuildSystem (δ : Type) where
  clock : UtcTimestamp
  client : BuildRun δ
  (requests tasks : List Nat)
  replies : List (Nat × BuildExecutorResponse δ)
  row : Option (FenceRow δ)
  cleanups : Nat
  abortedRemotely : Bool

inductive Interruption where
| cancelled
| stageTimeout
| executionTimeout

def Interruption.event : Interruption → BuildEvent δ
| .cancelled => .cancelled
| .stageTimeout => .stageTimeout
| .executionTimeout => .executionTimeout

/- `stored` says that the database answers the executor. -/
inductive BuildSystemAction (δ : Type) where
| tick (elapsed : Nat)
| deliver (number : Nat) (stored : Bool)
| finish (number : Nat) (response : BuildExecutorResponse δ) (stored : Bool)
| expire (number : Nat)
| reply (number : Nat) (artifactId : ImageArtifactId) (cancelled : Bool)
| requestTimeout
| interrupted (interruption : Interruption)

def BuildRun.requestAt (run : BuildRun δ) (number : Nat) : Option (BuildExecutorRequest δ) :=
  (run.calls.reverse.map (·.request))[number]?

/- The pipeline waits for a cleanup. -/
def BuildPhase.awaitsCleanup : BuildPhase δ → Bool
| .finishing _ | .cleaning _ _ => true
| _ => false

namespace BuildSystem

variable (s : BuildSystem δ) (number : Nat)

def respond (response : BuildExecutorResponse δ) : BuildSystem δ :=
  { s with replies := (number, response) :: s.replies }

def respondError (error : BuildExecutorFenceError) : BuildSystem δ :=
  s.respond number (.failed (executorFailure error))

variable (execution : BuildExecution δ)

/- What the backend answers to a cleanup. -/
def cleaned : BuildExecutorResponse δ :=
  .cleaned execution.id execution.identity

def isCleanup : Bool :=
  (s.client.requestAt number).any (·.stage == .cleanup)

variable {request : BuildExecutorRequest δ}

theorem isCleanup_iff {s : BuildSystem δ} {number : Nat}
    (hRequest : s.client.requestAt number = some request) :
    s.isCleanup number = true ↔ request.stage = .cleanup := by
  simp [isCleanup, hRequest]

def executesStage : Bool := s.tasks.any (fun number => !s.isCleanup number)

/- What holds of a row written under the fence. -/
structure RowSound (ofCanonical : CanonicalRequest δ → δ) (cleanups : Nat) (row : FenceRow δ) :
    Prop where
  stored : execution.fence.generation ≤ maxI32
  deadline : row.deadlineAt = execution.fence.deadlineAt
  tombstone : row.tombstoneGeneration = some execution.fence.generation →
    row.lastRequestId = execution.cleanupId ofCanonical
  response : row.lastRequestId = execution.cleanupId ofCanonical → ∀ response,
    row.lastResponse = some response → response = cleaned execution ∧ 0 < cleanups

theorem rowSound_admitted {execution : BuildExecution δ} {ofCanonical : CanonicalRequest δ → δ}
    {cleanups : Nat} (hStored : execution.fence.generation ≤ maxI32)
    (hOwn : request.stage = .cleanup → request = execution.cleanupRequest) :
    RowSound execution ofCanonical cleanups (.admitted (execution.envelope ofCanonical
      request).context) where
  stored := hStored
  deadline := rfl
  tombstone := by
    intro hTombstone
    by_cases hStage : request.stage = .cleanup
    · rw [hOwn hStage]
      rfl
    · have hNone : (if request.stage = .cleanup then some execution.fence.generation
            else none) =
          some execution.fence.generation := hTombstone
      cases (if_neg hStage).symm.trans hNone
  response := nofun

/- An aborted build waits for its cleanup, or has returned after it. -/
def CleanedUp (cleanups : Nat) : BuildPhase δ → Prop
| .cleaning original _ => original.code = .cancelled ∨ original.code = .timedOut
| .returned result =>
  0 < cleanups ∧ ∃ error, result = .error error ∧ error.cleanupVerified = true ∧
    (error.code = .cancelled ∨ error.code = .timedOut)
| _ => False

theorem CleanedUp.mono {cleanups more : Nat} {phase : BuildPhase δ} (hMore : cleanups ≤ more)
    (hCleaned : CleanedUp cleanups phase) : CleanedUp more phase := by
  cases phase with
  | cleaning original timed => exact hCleaned
  | returned result => exact ⟨Nat.lt_of_lt_of_le hCleaned.1 hMore, hCleaned.2⟩
  | ensuring | building project | publishing project candidate | finishing output => exact hCleaned

end BuildSystem

variable [DecidableEq δ]

/- The number of the call that the pipeline waits for. -/
def BuildRun.awaited (run : BuildRun δ) : Option Nat :=
  match run.calls with
  | [] => none
  | call :: earlier => if call.outcome = .pending then some earlier.length else none

namespace BuildSystem

variable (execution : BuildExecution δ) (ofCanonical : CanonicalRequest δ → δ) (s : BuildSystem δ)

/- The pipeline makes a step, and the request of a new call leaves. -/
def clientStep (event : BuildEvent δ) : Option (BuildSystem δ) :=
  (execution.step s.client event).map (fun next =>
    { s with client := next, requests := s.requests ++ next.awaited.toList })

def receive (number : Nat) (request : BuildExecutorRequest δ) (stored : Bool) : BuildSystem δ :=
  if stored then
    match admitRequest (execution.digests ofCanonical) (execution.envelope ofCanonical request)
      s.clock s.row with
    | .error error => s.respondError number error
    | .ok (.replay response) => s.respond number response
    | .ok (.execute row) => { s with row := some row, tasks := number :: s.tasks }
  else s.respondError number .database

def conclude (number : Nat) (request : BuildExecutorRequest δ)
    (response : BuildExecutorResponse δ) (stored : Bool) : BuildSystem δ :=
  if stored then
    match complete (execution.envelope ofCanonical request).context response s.row with
    | .error error => s.respondError number error
    | .ok row => { s.respond number response with row := some row }
  else s.respondError number .database

/- The steps of the system. The backend performs every cleanup that it is asked for successfully. -/
def step : BuildSystemAction δ → Option (BuildSystem δ)
| .tick elapsed => some { s with clock := s.clock + elapsed }
| .deliver number stored => do
    guard (number ∈ s.requests)
    let request ← s.client.requestAt number
    let arrived := { s with requests := s.requests.filter (· ≠ number) }
    some (arrived.receive execution ofCanonical number request stored)
| .finish number response stored => do
    guard (number ∈ s.tasks)
    let request ← s.client.requestAt number
    let ended := { s with tasks := s.tasks.filter (· ≠ number) }
    if request.stage = .cleanup then
      guard (response = cleaned execution)
      some ({ ended with cleanups := s.cleanups + 1 }.conclude
        execution ofCanonical number request response
        stored)
    else some (ended.conclude execution ofCanonical number request response stored)
| .expire number => do
    guard (number ∈ s.tasks ∧ execution.fence.deadlineAt ≤ s.clock)
    some ({ s with tasks := s.tasks.filter (· ≠ number) }.respondError number .deadlineExceeded)
| .reply number artifactId cancelled => do
    let reply ← s.replies.find? (·.1 == number)
    let request ← s.client.requestAt number
    let received := { s with replies := s.replies.filter (·.1 ≠ number) }
    if s.client.awaited = some number then
      received.clientStep execution (.answered (providerReply request reply.2) artifactId cancelled)
    else some received
| .requestTimeout => s.clientStep execution (.answered (.failure .unavailable) ⟨0⟩ false)
| .interrupted interruption =>
  ({ s with abortedRemotely := s.abortedRemotely || s.executesStage }).clientStep
    execution interruption.event

/- The state in which the pipeline has made its first call, over a fence row that this lease has
  not written. -/
def Initial : Prop :=
  execution.machine.init s.client ∧ s.requests = s.client.awaited.toList ∧ s.tasks = [] ∧
  s.replies = [] ∧ (∀ row, s.row = some row → row.leaseToken ≠ execution.fence.leaseToken) ∧
  s.cleanups = 0 ∧ s.abortedRemotely = false

def machine : Machine (BuildSystem δ) (BuildSystemAction δ) where
  init := Initial execution
  step := step execution ofCanonical

-- The Calls Of The Pipeline

variable {execution ofCanonical}

variable {next : BuildRun δ} {artifactId : ImageArtifactId}

theorem callsFrom_answer {phase : BuildPhase δ} {calls : List (ProviderCall δ)}
    {cancelled : Bool} {reply : ProviderReply δ}
    (hStep : execution.answer phase calls artifactId cancelled reply = some next) :
    CallsFrom execution calls next := by
  unfold answer at hStep
  split at hStep <;> cases hStep
  · exact callsFrom_proceed (fun _ => callsFrom_stage cancelled nofun)
  · exact callsFrom_proceed (fun _ => callsFrom_stage cancelled nofun)
  · exact callsFrom_proceed (fun _ => .inr ⟨_, fun _ => rfl, rfl⟩)
  · exact callsFrom_clean _ _ _
  · exact callsFrom_clean _ _ _
  · exact callsFrom_clean _ _ _
  -- the other replies end the build
  all_goals exact .inl rfl

variable {run : BuildRun δ} {event : BuildEvent δ}

theorem callsFrom_step (hStep : execution.step run event = some next) :
    CallsFrom execution run.calls next := by
  -- settling the last call does not change its request
  have hSettled : ∀ outcome, CallsFrom execution (settle outcome run.calls) next →
      CallsFrom execution run.calls next := by
    intro outcome hFrom
    unfold CallsFrom at hFrom ⊢
    cases hCalls : run.calls <;> rw [hCalls] at hFrom <;> exact hFrom
  have hInterrupt : execution.interrupt run.phase (settle .dropped run.calls) event = some next →
      CallsFrom execution run.calls next := by
    intro hGiven
    rcases interrupt_eq_some hGiven with ⟨original, timed, rfl⟩ | rfl
    · exact hSettled _ (callsFrom_clean _ _ _)
    · exact hSettled .dropped (.inl rfl)
  cases event with
  | answered reply artifactId cancelled => exact hSettled _ (callsFrom_answer hStep)
  | cancelled | stageTimeout | executionTimeout => exact hInterrupt hStep

variable {number : Nat} {request : BuildExecutorRequest δ}

/- The requests that were made stay as they are. -/
theorem requestAt_step (hStep : execution.step run event = some next)
    (hRequest : run.requestAt number = some request) : next.requestAt number = some request := by
  unfold BuildRun.requestAt at hRequest ⊢
  rw [map_reverse] at hRequest ⊢
  rcases callsFrom_step hStep with hSame | ⟨new, _, hNew⟩
  · rwa [hSame]
  · rw [hNew, reverse_cons]
    rcases List.getElem?_eq_some_iff.mp hRequest with ⟨hBound, _⟩
    rwa [List.getElem?_append_left hBound]

theorem cleanup_requested (hRun : execution.machine.Reachable run)
    (hRequest : run.requestAt number = some request) (hStage : request.stage = .cleanup) :
    request = execution.cleanupRequest := by
  have hOwn : OwnCleanups execution run.calls := by
    refine hRun.invariant (I := fun run => OwnCleanups execution run.calls) ?_ ?_
    · rintro _ ⟨cancelled, rfl⟩
      exact (callsFrom_begin execution cancelled).ownCleanups nofun
    · intro _ _ _ hBefore _ hStep
      exact (callsFrom_step hStep).ownCleanups hBefore
  have hMade := mem_of_getElem? hRequest
  rw [map_reverse, mem_reverse] at hMade
  exact hOwn request hMade hStage

-- The Fence Invariant

structure Fenced (execution : BuildExecution δ) (ofCanonical : CanonicalRequest δ → δ)
    (s : BuildSystem δ) : Prop where
  client : execution.machine.Reachable s.client
  knownTask : ∀ number ∈ s.tasks, ∃ request, s.client.requestAt number = some request
  knownReply : ∀ reply ∈ s.replies, ∃ request, s.client.requestAt reply.1 = some request
  owned : s.tasks ≠ [] ∨ s.abortedRemotely = true → ∃ row, s.row = some row ∧ execution.Owned row
  row : ∀ row, s.row = some row → execution.Owned row →
    RowSound execution ofCanonical s.cleanups row
  task : ∀ number ∈ s.tasks, s.isCleanup number = true → ∃ row, s.row = some row ∧
    execution.Owned row ∧ row.lastRequestId = execution.cleanupId ofCanonical ∧
    row.lastResponse = none
  single : ∀ left ∈ s.tasks, ∀ right ∈ s.tasks, s.isCleanup left = true → s.isCleanup right = true →
    left = right
  reply : ∀ reply ∈ s.replies, s.isCleanup reply.1 = true →
    reply.2 = cleaned execution ∧ 0 < s.cleanups ∨ execution.Refused s.row
  aborted : s.abortedRemotely = true → CleanedUp s.cleanups s.client.phase

variable {s : BuildSystem δ}

theorem fenced_initial (hInit : Initial execution s) : Fenced execution ofCanonical s := by
  rcases hInit with ⟨hClient, _, hTasks, hReplies, hFresh, _, hAborted⟩
  constructor
  · exact .start hClient
  · simp [hTasks]
  · simp [hReplies]
  · simp [hTasks, hAborted]
  · intro row hRow hOwned
    exact absurd hOwned.2 (hFresh row hRow)
  · simp [hTasks]
  · simp [hTasks]
  · simp [hReplies]
  · simp [hAborted]

section

variable (hFenced : Fenced execution ofCanonical s)

include hFenced

/- A row that this lease has written does not refuse it. -/
theorem Fenced.not_refused {row : FenceRow δ} (hRow : s.row = some row)
    (hOwned : execution.Owned row) : ¬execution.Refused s.row := by
  have hStored := (hFenced.row row hRow hOwned).stored
  rw [hRow]
  rintro (hLarge | ⟨_, hSame, hNewer | ⟨_, hToken⟩⟩)
  · omega
  · cases hSame
    have hGeneration := hOwned.1
    omega
  · cases hSame
    exact hToken hOwned.2

/- While the fence is not refused, every cleanup is answered as performed. -/
theorem Fenced.cleaned_of_reply {reply : Nat × BuildExecutorResponse δ}
    (hRefused : ¬execution.Refused s.row) (hReply : reply ∈ s.replies)
    (hCleanup : s.isCleanup reply.1 = true) :
    reply.2 = cleaned execution ∧ 0 < s.cleanups := by
  rcases hFenced.reply reply hReply hCleanup with hCleaned | hNow
  · exact hCleaned
  · exact absurd hNow hRefused

/- A step of the pipeline keeps what the executor knows. -/
theorem Fenced.clientMoved {requests : List Nat} {replies : List (Nat × BuildExecutorResponse δ)}
    {aborted : Bool} (hStep : execution.step s.client event = some next)
    (hReplies : ∀ reply ∈ replies, reply ∈ s.replies)
    (hOwned : aborted = true → ∃ row, s.row = some row ∧ execution.Owned row)
    (hAborted : aborted = true → CleanedUp s.cleanups next.phase) :
    Fenced execution ofCanonical
      { s with
        client := next, requests, replies
        abortedRemotely := aborted } := by
  -- the kind of a call that was made does not change
  have hKind : ∀ number request, s.client.requestAt number = some request →
      ((next.requestAt number).any (·.stage == .cleanup) = true) → s.isCleanup number = true := by
    intro number request hRequest hCleanup
    rw [requestAt_step hStep hRequest] at hCleanup
    simpa [isCleanup, hRequest] using hCleanup
  have hTask : ∀ number ∈ s.tasks, (next.requestAt number).any (·.stage == .cleanup) = true →
      s.isCleanup number = true := by
    intro number hNumber
    rcases hFenced.knownTask number hNumber with ⟨request, hRequest⟩
    exact hKind number request hRequest
  constructor
  · exact .next hFenced.client trivial hStep
  · intro number hNumber
    rcases hFenced.knownTask number hNumber with ⟨request, hRequest⟩
    exact ⟨request, requestAt_step hStep hRequest⟩
  · intro reply hReply
    rcases hFenced.knownReply reply (hReplies reply hReply) with ⟨request, hRequest⟩
    exact ⟨request, requestAt_step hStep hRequest⟩
  · rintro (hTasks | hNow)
    · exact hFenced.owned (.inl hTasks)
    · exact hOwned hNow
  · exact hFenced.row
  · intro number hNumber hCleanup
    exact hFenced.task number hNumber (hTask number hNumber hCleanup)
  · intro left hLeft right hRight hLeftKind hRightKind
    exact hFenced.single left hLeft right hRight (hTask left hLeft hLeftKind)
      (hTask right hRight hRightKind)
  · intro reply hReply hCleanup
    have hBefore := hReplies reply hReply
    rcases hFenced.knownReply reply hBefore with ⟨request, hRequest⟩
    exact hFenced.reply reply hBefore (hKind reply.1 request hRequest hCleanup)
  · exact hAborted

variable {response : BuildExecutorResponse δ}

/- A reply that leaves the executor. -/
theorem Fenced.respond (hRequest : s.client.requestAt number = some request)
    (hResponse : request.stage = .cleanup → response = cleaned execution ∧ 0 < s.cleanups ∨
      execution.Refused s.row) : Fenced execution ofCanonical (s.respond number response) := by
  refine { hFenced with knownReply := ?_, reply := ?_ }
  · intro reply hReply
    rcases mem_cons.mp hReply with rfl | hBefore
    · exact ⟨request, hRequest⟩
    · exact hFenced.knownReply reply hBefore
  · intro reply hReply hCleanup
    rcases mem_cons.mp hReply with rfl | hBefore
    · exact hResponse ((isCleanup_iff hRequest).mp hCleanup)
    · exact hFenced.reply reply hBefore hCleanup

-- Steps Of The Executor

/- Fewer tasks and any pending requests. -/
theorem Fenced.restrict {requests tasks : List Nat} (hTasks : ∀ number ∈ tasks, number ∈ s.tasks) :
    Fenced execution ofCanonical { s with requests, tasks } := by
  refine { hFenced with knownTask := ?_, owned := ?_, task := ?_, single := ?_ }
  · intro number hNumber
    exact hFenced.knownTask number (hTasks number hNumber)
  · rintro (hSome | hAborted)
    · rcases exists_mem_of_ne_nil _ hSome with ⟨number, hNumber⟩
      exact hFenced.owned (.inl (ne_nil_of_mem (hTasks number hNumber)))
    · exact hFenced.owned (.inr hAborted)
  · intro number hNumber
    exact hFenced.task number (hTasks number hNumber)
  · intro left hLeft right hRight
    exact hFenced.single left (hTasks left hLeft) right (hTasks right hRight)

theorem Fenced.no_cleanup_of_admitted {next : FenceRow δ}
    (hAdmit : admitRequest (execution.digests ofCanonical)
      (execution.envelope ofCanonical request) s.clock
      s.row = .ok (.execute next)) : ∀ number ∈ s.tasks, s.isCleanup number = false := by
  rcases admitRequest_eq_execute hAdmit with ⟨_, _, _, hTime, hFree⟩
  intro number hNumber
  by_contra hCleanup
  rcases hFenced.task number hNumber (eq_true_of_ne_false hCleanup) with
    ⟨row, hRow, hOwned, _, hNone⟩
  have hDeadline := (hFenced.row row hRow hOwned).deadline
  have hPassed := hFree row hRow hNone
  rw [hDeadline] at hPassed
  exact absurd hTime (Int.not_lt.mpr hPassed)

theorem Fenced.execute {next : FenceRow δ} (hRequest : s.client.requestAt number = some request)
    (hAdmit : admitRequest (execution.digests ofCanonical)
      (execution.envelope ofCanonical request) s.clock s.row = .ok (.execute next)) :
    Fenced execution ofCanonical
      { s with row := some next, tasks := number :: s.tasks } := by
  have hNoCleanup := hFenced.no_cleanup_of_admitted hAdmit
  have hOwn := cleanup_requested hFenced.client hRequest
  rcases admitRequest_eq_execute hAdmit with ⟨rfl, hStored, hNotRefused, _, _⟩
  refine
    { hFenced with
      knownTask := ?_
      owned := fun _ => ⟨_, rfl, rfl, rfl⟩
      row := ?_, task := ?_, single := ?_, reply := ?_ }
  · intro task hTask
    rcases mem_cons.mp hTask with rfl | hBefore
    · exact ⟨request, hRequest⟩
    · exact hFenced.knownTask task hBefore
  · intro row hRow _
    cases hRow
    exact rowSound_admitted hStored hOwn
  · intro task hTask hCleanup
    rcases mem_cons.mp hTask with rfl | hBefore
    · have hStage := (isCleanup_iff hRequest).mp hCleanup
      refine ⟨_, rfl, ⟨rfl, rfl⟩, ?_, rfl⟩
      rw [hOwn hStage]
      rfl
    · exact absurd hCleanup (ne_true_of_eq_false (hNoCleanup task hBefore))
  · intro left hLeft right hRight hLeftKind hRightKind
    rcases mem_cons.mp hLeft with rfl | hBefore
    · rcases mem_cons.mp hRight with rfl | hBefore
      · rfl
      · exact absurd hRightKind (ne_true_of_eq_false (hNoCleanup right hBefore))
    · exact absurd hLeftKind (ne_true_of_eq_false (hNoCleanup left hBefore))
  · intro reply hReply hCleanup
    exact .inl (hFenced.cleaned_of_reply hNotRefused hReply hCleanup)

/- A cleanup must find the database, the time before the deadline, and a response to the request
  before it. -/
theorem Fenced.receive {stored : Bool} (hRequest : s.client.requestAt number = some request)
    (hSettled : request.stage = .cleanup → stored = true ∧ s.clock < execution.fence.deadlineAt ∧
      ∀ row, s.row = some row → row.lastResponse.isSome = true) :
    Fenced execution ofCanonical (s.receive execution ofCanonical number request stored) := by
  unfold BuildSystem.receive
  split
  · split
    · rename_i error hAdmit
      refine hFenced.respond hRequest ?_
      intro hStage
      rcases hSettled hStage with ⟨_, hTime, hRecorded⟩
      right
      by_contra hRefused
      have hOwn := cleanup_requested hFenced.client hRequest hStage
      subst hOwn
      rcases admitRequest_cleanup hTime hRecorded (fun row hRow hOwned =>
            (hFenced.row row hRow hOwned).tombstone)
          hRefused with ⟨admission, hOk⟩
      cases hOk.symm.trans hAdmit
    · rename_i response hAdmit
      refine hFenced.respond hRequest ?_
      intro hStage
      have hOwn := cleanup_requested hFenced.client hRequest hStage
      subst hOwn
      rcases admitRequest_eq_replay hAdmit with ⟨row, hRow, hOwned, hSame, hResponse⟩
      exact .inl ((hFenced.row row hRow hOwned).response hSame response hResponse)
    · rename_i next hAdmit
      exact hFenced.execute hRequest hAdmit
  · rename_i hLost
    refine hFenced.respond hRequest ?_
    intro hStage
    exact absurd (hSettled hStage).1 hLost

theorem Fenced.concludeStage {stored : Bool} (hRequest : s.client.requestAt number = some request)
    (hStage : request.stage ≠ .cleanup)
    (hDistinct : (execution.envelope ofCanonical request).context.stageRequestId ≠
      execution.cleanupId ofCanonical) :
    Fenced execution ofCanonical (s.conclude execution ofCanonical number request
      response stored) := by
  unfold BuildSystem.conclude
  split
  · split
    · exact hFenced.respond hRequest (fun h => absurd h hStage)
    · rename_i next hComplete
      rcases complete_eq_ok.mp hComplete with ⟨row, hRow, ⟨hGeneration, hToken, hLast, _⟩, rfl⟩
      have hOwned : execution.Owned row := ⟨hGeneration, hToken⟩
      have hSound := hFenced.row row hRow hOwned
      have hOther : row.lastRequestId ≠ execution.cleanupId ofCanonical := hLast ▸ hDistinct
      have hResponded : Fenced execution ofCanonical (s.respond number response) :=
        hFenced.respond hRequest (fun h => absurd h hStage)
      refine
        { hResponded with owned := fun _ => ⟨_, rfl, hOwned⟩, row := ?_, task := ?_, reply := ?_ }
      · intro _ hNext _
        cases hNext
        exact
          { hSound with response := fun h => absurd h hOther }
      · intro task hTask hCleanup
        rcases hFenced.task task hTask hCleanup with ⟨before, hBefore, _, hCleanupId, _⟩
        cases hRow.symm.trans hBefore
        exact absurd hCleanupId hOther
      · intro reply hReply hCleanup
        have hNot := hFenced.not_refused hRow hOwned
        exact .inl (hResponded.cleaned_of_reply hNot hReply hCleanup)
  · exact hFenced.respond hRequest (fun h => absurd h hStage)

/- The end of a cleanup, which the backend has performed. -/
theorem Fenced.concludeCleanup (hTask : number ∈ s.tasks)
    (hRequest : s.client.requestAt number = some execution.cleanupRequest) :
    Fenced execution ofCanonical
      ({ s with tasks := s.tasks.filter (· ≠ number), cleanups := s.cleanups + 1 }.conclude
        execution ofCanonical number
        execution.cleanupRequest (cleaned execution)
        true) := by
  have hCleanup : s.isCleanup number = true := (isCleanup_iff hRequest).mpr rfl
  rcases hFenced.task number hTask hCleanup with ⟨row, hRow, hOwned, hLast, hNone⟩
  have hSound := hFenced.row row hRow hOwned
  have hComplete : complete (execution.envelope ofCanonical execution.cleanupRequest).context
        (cleaned execution) s.row =
      .ok { row with lastResponse := some (cleaned execution) } :=
    complete_eq_ok.mpr ⟨row, hRow, ⟨hOwned.1, hOwned.2, hLast, hNone⟩, rfl⟩
  have hEnded : Fenced execution ofCanonical { s with tasks := s.tasks.filter (· ≠ number) } :=
    hFenced.restrict fun _ h => (mem_filter.mp h).1
  have hRecorded : Fenced execution ofCanonical
      { s with
        tasks := s.tasks.filter (· ≠ number), cleanups := s.cleanups + 1
        row := some { row with lastResponse := some (cleaned execution) } } := by
    refine
      { hEnded with
        owned := fun _ => ⟨_, rfl, hOwned⟩
        row := ?_, task := ?_, reply := ?_
        aborted := fun h => (hFenced.aborted h).mono (Nat.le_succ _) }
    · intro _ hNext _
      cases hNext
      refine { hSound with response := ?_ }
      rintro _ response ⟨⟩
      exact ⟨rfl, Nat.succ_pos _⟩
    · intro task hLeft hKind
      rcases mem_filter.mp hLeft with ⟨hIn, hOther⟩
      have hSame := hFenced.single task hIn number hTask hKind hCleanup
      exact absurd hSame (of_decide_eq_true hOther)
    · intro reply hReply hKind
      have hNot := hFenced.not_refused hRow hOwned
      exact .inl ⟨(hFenced.cleaned_of_reply hNot hReply hKind).1, Nat.succ_pos _⟩
  unfold BuildSystem.conclude
  rw [if_pos rfl]
  simp only [hComplete]
  exact hRecorded.respond hRequest fun _ => .inl ⟨rfl, Nat.succ_pos _⟩

end

-- Steps Of The Pipeline

/- Giving up a call leads to a cleanup with the code of the interruption, unless a cleanup has
  timed out. -/
theorem interruption_cleans {interruption : Interruption}
    (hStep : execution.step run interruption.event = some next)
    (hWaits : interruption = .stageTimeout → run.phase.awaitsCleanup = false) (cleanups : Nat) :
    CleanedUp cleanups next.phase := by
  rcases run with ⟨phase, calls⟩
  cases interruption with
  | cancelled => cases phase <;> cases hStep <;> exact .inl rfl
  | stageTimeout =>
    have hPhase := hWaits rfl
    cases phase <;> cases hStep <;>
      first
      | exact .inr rfl
      | cases hPhase
  | executionTimeout =>
    cases phase with
    | cleaning original timed =>
      cases timed <;> cases hStep
      exact .inr rfl
    | returned result => cases hStep
    | _ =>
      cases hStep
      exact .inr rfl

/- The cleanup that an aborted build waits for is its last call. -/
theorem awaited_cleanup {original : BuildPipelineError} {timed : Bool}
    (hRun : execution.machine.Reachable run) (hPhase : run.phase = .cleaning original timed)
    (hAwaited : run.awaited = some number) :
    run.requestAt number = some execution.cleanupRequest := by
  have hTraced := traced hRun
  rcases run with ⟨phase, calls⟩
  cases hPhase
  rcases hTraced with ⟨earlier, rfl⟩
  have hNumber : earlier.length = number := by
    simpa [BuildRun.awaited, call] using hAwaited
  subst hNumber
  simp [BuildRun.requestAt, call]

/- The pipeline receives the reply to the call it waits for. -/
theorem Fenced.answered {cancelled : Bool}
    (hFenced : Fenced execution ofCanonical s) (hReply : (number, response) ∈ s.replies)
    (hRequest : s.client.requestAt number = some request)
    (hAwaited : s.client.awaited = some number)
    (hStep : execution.step s.client (.answered (providerReply request response)
      artifactId cancelled) = some next) (hAborted : s.abortedRemotely = true) :
    CleanedUp s.cleanups next.phase := by
  have hPhase := hFenced.aborted hAborted
  rcases hClient : s.client with ⟨phase, calls⟩
  rw [hClient] at hPhase hStep
  cases phase with
  | cleaning original timed =>
    have hCleaning : s.client.phase = .cleaning original timed := by
      rw [hClient]
    cases hRequest.symm.trans (awaited_cleanup hFenced.client hCleaning hAwaited)
    have hCleanup : s.isCleanup number = true := (isCleanup_iff hRequest).mpr rfl
    rcases hFenced.owned (.inr hAborted) with ⟨row, hRow, hOwned⟩
    rcases hFenced.cleaned_of_reply (hFenced.not_refused hRow hOwned) hReply hCleanup with
      ⟨hCleaned, hPerformed⟩
    have hCleaned : response = cleaned execution := hCleaned
    have hRead : providerReply execution.cleanupRequest (cleaned execution) = .cleaned := by
      simp [providerReply, cleanupRequest, cleaned]
    rw [hCleaned, hRead] at hStep
    cases hStep
    exact ⟨hPerformed, _, rfl, rfl, hPhase⟩
  | returned result => cases hStep
  | ensuring | building project | publishing project candidate | finishing output => cases hPhase

-- Aborted Builds

/- A cleanup request arrives before the deadline, after the response to the request before it, and
  is answered: the database does not fail, it ends in time, and the pipeline waits for it. -/
def CleanupSettled (execution : BuildExecution δ) (s : BuildSystem δ) : BuildSystemAction δ → Prop
| .deliver number stored =>
  s.isCleanup number = true → stored = true ∧ s.clock < execution.fence.deadlineAt ∧
    s.row.all (·.lastResponse.isSome) = true
| .finish number _ stored => s.isCleanup number = true → stored = true
| .expire number => s.isCleanup number = false
| .requestTimeout
| .interrupted .stageTimeout => s.client.phase.awaitsCleanup = false
| _ => True

/- Every step under the condition keeps the invariant. -/
theorem Fenced.step {next : BuildSystem δ} {action : BuildSystemAction δ} (hDistinct :
      ∀ request : BuildExecutorRequest δ, request.stage ≠ .cleanup → (execution.envelope ofCanonical
        request).context.stageRequestId ≠ execution.cleanupId ofCanonical)
    (hFenced : Fenced execution ofCanonical s) (hSettled : CleanupSettled execution s action)
    (hStep : BuildSystem.step execution ofCanonical s action = some next) :
    Fenced execution ofCanonical next := by
  cases action with
  | tick elapsed =>
    cases hStep
    exact { hFenced with }
  | deliver number stored =>
    simp only [BuildSystem.step, bind_eq_bind, bind_eq_some_iff] at hStep
    rcases hStep with ⟨_, _, request, hRequest, ⟨⟩⟩
    refine (hFenced.restrict (fun _ h => h)).receive hRequest ?_
    intro hStage
    have hCleanup := (isCleanup_iff hRequest).mpr hStage
    rcases hSettled hCleanup with ⟨hStored, hTime, hRecorded⟩
    refine ⟨hStored, hTime, ?_⟩
    intro row hRow
    have hRow : s.row = some row := hRow
    rwa [hRow] at hRecorded
  | finish number response stored =>
    simp only [BuildSystem.step, bind_eq_bind, bind_eq_some_iff] at hStep
    rcases hStep with ⟨_, hTask, request, hRequest, hNext⟩
    have hTask : number ∈ s.tasks := by
      exact (guard_eq_some' _).mp hTask
    split at hNext
    · rename_i hStage
      have hCleanup := (isCleanup_iff hRequest).mpr hStage
      have hStored := hSettled hCleanup
      subst hStored
      have hOwn := cleanup_requested hFenced.client hRequest hStage
      subst hOwn
      simp only [bind_eq_some_iff] at hNext
      rcases hNext with ⟨_, hResponse, hNext⟩
      have hResponse : response = cleaned execution := by
        exact (guard_eq_some' _).mp hResponse
      subst hResponse
      cases hNext
      exact hFenced.concludeCleanup hTask hRequest
    · rename_i hStage
      cases hNext
      exact (hFenced.restrict (fun _ h => (mem_filter.mp h).1)).concludeStage
        hRequest hStage (hDistinct request hStage)
  | expire number =>
    simp only [BuildSystem.step, bind_eq_bind, bind_eq_some_iff] at hStep
    rcases hStep with ⟨_, hTask, hNext⟩
    have hTask : number ∈ s.tasks := by
      exact ((guard_eq_some' _).mp hTask).1
    cases hNext
    rcases hFenced.knownTask number hTask with ⟨request, hRequest⟩
    refine (hFenced.restrict (fun _ h => (mem_filter.mp h).1)).respond hRequest ?_
    intro hStage
    have hCleanup := (isCleanup_iff hRequest).mpr hStage
    have hNot : s.isCleanup number = false := hSettled
    cases hNot.symm.trans hCleanup
  | reply number artifactId cancelled =>
    simp only [BuildSystem.step, bind_eq_bind, bind_eq_some_iff] at hStep
    rcases hStep with ⟨⟨found, response⟩, hFound, request, hRequest, hNext⟩
    have hReply := mem_of_find?_eq_some hFound
    have hSame : found = number := by
      simpa using List.find?_some hFound
    subst hSame
    split at hNext
    · rename_i hAwaited
      simp only [clientStep, map_eq_some_iff] at hNext
      rcases hNext with ⟨client, hClient, rfl⟩
      refine hFenced.clientMoved hClient (fun _ h => (mem_filter.mp h).1)
        (fun h => hFenced.owned (.inr h)) ?_
      exact hFenced.answered hReply hRequest hAwaited hClient
    · cases hNext
      refine { hFenced with knownReply := ?_, reply := ?_ }
      · intro reply hLeft
        exact hFenced.knownReply reply (mem_filter.mp hLeft).1
      · intro reply hLeft
        exact hFenced.reply reply (mem_filter.mp hLeft).1
  | requestTimeout =>
    simp only [BuildSystem.step, clientStep, map_eq_some_iff] at hStep
    rcases hStep with ⟨client, hClient, rfl⟩
    refine hFenced.clientMoved hClient (fun _ h => h) (fun h => hFenced.owned (.inr h)) ?_
    intro hAborted
    have hPhase := hFenced.aborted hAborted
    have hWaits : s.client.phase.awaitsCleanup = false := hSettled
    rcases hRun : s.client with ⟨phase, calls⟩
    rw [hRun] at hPhase hWaits hClient
    cases phase with
    | cleaning original timed => cases hWaits
    | returned result => cases hClient
    | _ => cases hPhase
  | interrupted interruption =>
    simp only [BuildSystem.step, clientStep, map_eq_some_iff] at hStep
    rcases hStep with ⟨client, hClient, rfl⟩
    refine hFenced.clientMoved hClient (fun _ h => h) ?_ ?_
    · intro hAborted
      apply hFenced.owned
      simp only [Bool.or_eq_true] at hAborted
      rcases hAborted with hBefore | hExecutes
      · exact .inr hBefore
      · left
        intro hNone
        simp [executesStage, hNone] at hExecutes
    · intro _
      refine interruption_cleans hClient ?_ _
      rintro rfl
      exact hSettled

/- In every run in which each cleanup request finds the response to the request before it and is
  answered in time, a build that is aborted while the backend executes a stage is cleaned up, and
  its error says so. -/
theorem aborted_build_cleaned (execution : BuildExecution δ) (ofCanonical : CanonicalRequest δ → δ)
    (hDistinct : ∀ request : BuildExecutorRequest δ, request.stage ≠ .cleanup →
      (execution.envelope ofCanonical request).context.stageRequestId ≠
        execution.cleanupId ofCanonical)
    (s : BuildSystem δ) (hRun : (machine execution ofCanonical).Run (CleanupSettled execution) s)
    (hAborted : s.abortedRemotely = true)
    (result : Except BuildPipelineError (BuildPipelineOutput δ))
    (hReturned : s.client.phase = .returned result) :
    0 < s.cleanups ∧
    ∃ error, result = .error error ∧ error.cleanupVerified = true ∧ (error.code = .cancelled ∨
      error.code = .timedOut) := by
  have hFenced : Fenced execution ofCanonical s := by
    refine hRun.invariant ?_ ?_
    · intro _ hInit
      exact fenced_initial hInit
    · intro _ _ _ hBefore hSettled hStep
      exact hBefore.step hDistinct hSettled hStep
  have hCleaned := hFenced.aborted hAborted
  rwa [hReturned] at hCleaned

end BuildSystem

namespace BuildSample

/- The digest of a request is the rank of its stage. -/
def ofCanonical (request : CanonicalRequest Nat) : Nat := request.stage.rank

/- The pipeline has called for its project. -/
def system : BuildSystem Nat where
  clock := 0
  client := execution.begin false
  requests := [0]
  tasks := []
  replies := []
  row := none
  cleanups := 0
  abortedRemotely := false

theorem system_initial : (BuildSystem.machine execution ofCanonical).init system := by
  refine ⟨execution.begin_initial false, ?_, rfl, rfl, nofun, rfl, rfl⟩
  decide

theorem ofCanonical_distinct (request : BuildExecutorRequest Nat)
    (hStage : request.stage ≠ .cleanup) :
    (execution.envelope ofCanonical request).context.stageRequestId ≠
      execution.cleanupId ofCanonical := by
  intro hSame
  apply hStage
  change request.stage.rank = 4 at hSame
  cases hStageName : request.stage <;>
    rw [hStageName] at hSame <;>
    first
    | rfl
    | cases hSame

/- The project is made, and the executor starts to build when the build is cancelled. -/
def abort : List (BuildSystemAction Nat) :=
  [.deliver 0 true, .finish 0 (.privateProjectReady project) true, .reply 0 ⟨9⟩ false,
    .deliver 1 true, .interrupted .cancelled]

/- The cleanup is refused while the build is executed. -/
def abandoned : List (BuildSystemAction Nat) := abort ++ [.deliver 2 true, .reply 2 ⟨9⟩ false]

/- The cleanup arrives after the build has ended. -/
def settled : List (BuildSystemAction Nat) :=
  abort ++ [.finish 1 (.built candidate) true, .deliver 2 true, .finish 2 (.cleaned ⟨1⟩ 1) true,
    .reply 2 ⟨9⟩ false]

variable (s : BuildSystem Nat)

/- The side condition, as a test. -/
def isSettled : BuildSystemAction Nat → Bool
| .deliver number stored =>
  !s.isCleanup number || (stored &&
    decide (s.clock < execution.fence.deadlineAt) &&
    s.row.all (·.lastResponse.isSome))
| .finish number _ stored => !s.isCleanup number || stored
| .reply _ _ _ | .interrupted .cancelled => true
| _ => false

theorem cleanupSettled_of_isSettled (action : BuildSystemAction Nat)
    (hSettled : isSettled s action = true) : BuildSystem.CleanupSettled execution s action := by
  cases action with
  | deliver number stored =>
    intro hCleanup
    simpa [isSettled, hCleanup, and_assoc] using hSettled
  | finish number response stored =>
    intro hCleanup
    simpa [isSettled, hCleanup] using hSettled
  | interrupted interruption =>
    cases interruption with
    | cancelled => trivial
    | stageTimeout => cases hSettled
    | executionTimeout => trivial
  | reply number artifactId cancelled | tick elapsed => trivial
  | expire number | requestTimeout => cases hSettled

end BuildSample

open BuildSample

/- A build that is cancelled while its image is built is cleaned up when the executor has recorded
  the build. -/
theorem aborted_build_cleaned_cancelled : ∃ s error, (BuildSystem.machine execution
      ofCanonical).Run (BuildSystem.CleanupSettled execution) s ∧
    s.abortedRemotely = true ∧ s.client.phase = .returned (.error error) ∧
    error.cleanupVerified = true := by
  have hFound : ∃ s, (BuildSystem.machine execution ofCanonical).Run
      (BuildSystem.CleanupSettled execution) s ∧ s.abortedRemotely = true ∧
      s.client.phase = .returned (.error (.refused .cancelled)) :=
    Machine.exists_run_of_guarded settled system_initial
      cleanupSettled_of_isSettled (by decide +kernel)
  rcases hFound with ⟨s, hRun, hAborted, hReturned⟩
  rcases BuildSystem.aborted_build_cleaned execution ofCanonical
      ofCanonical_distinct s hRun hAborted _
      hReturned with
    ⟨_, error, ⟨⟩, hVerified, _⟩
  exact ⟨s, _, hRun, hAborted, hReturned, hVerified⟩

/- A build is cancelled while its image is built. The cleanup request finds no response to the build
  yet and is refused as in progress, and the build returns without a cleanup. -/
theorem aborted_build_not_cleaned : ∃ s, (BuildSystem.machine execution ofCanonical).Reachable s ∧
    s.abortedRemotely = true ∧ s.client.phase = .returned (.error .cleanupFailed) ∧
    s.cleanups = 0 := by
  exact Machine.exists_reachable abandoned system_initial (by decide)

end LabWeaver
