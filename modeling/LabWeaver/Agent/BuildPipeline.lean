import LabWeaver.Base.Machine
import LabWeaver.Contracts.SupplyChain

/-
  This file models the pipeline that turns an approved build request into an image: its calls on
  the provider, its checks of each answer, and the cleanup that ends every attempt. A run is
  interrupted by a cancellation or by a timeout of one call or of the whole execution.

  Main declaration: `build_pipeline_sound`.
-/

namespace LabWeaver

open Outcome

-- Failures

inductive BuildProviderFailureCode where
| unavailable
| rejected
| identityMismatch
| outputInvalid
deriving DecidableEq

structure BuildProviderFailure where
  code : BuildProviderFailureCode
  retryable : Bool
deriving DecidableEq

inductive BuildFailureCode where
| configurationInvalid
| commandInvalid
| providerBindingMismatch
| registryProjectInvalid
| timedOut
| cancelled
| provider (code : BuildProviderFailureCode)
| buildIdentityMismatch
| publicationIdentityMismatch
| artifactInvalid
| cleanupFailed
| clockInvalid
deriving DecidableEq

structure BuildPipelineError where
  code : BuildFailureCode
  (retryable cleanupVerified : Bool)
deriving DecidableEq

namespace BuildPipelineError

/- A failure of a check, which is not worth a retry. -/
def refused (code : BuildFailureCode) : BuildPipelineError := ⟨code, false, true⟩

def timedOut : BuildPipelineError := ⟨.timedOut, true, true⟩

def cleanupFailed : BuildPipelineError := ⟨.cleanupFailed, false, false⟩

def clockInvalid : BuildPipelineError := ⟨.clockInvalid, false, false⟩

/- How `stage` reports a failed call. -/
def provider (failure : BuildProviderFailure) : BuildPipelineError :=
  ⟨.provider failure.code, failure.retryable && failure.code == .unavailable, true⟩

end BuildPipelineError

-- Requests

/- The lease under which every remote effect is fenced. -/
@[ext]
structure BuildExecutionFence where
  generation : Nat
  leaseToken : BitVec 128
  deadlineAt : UtcTimestamp
  positive : 0 < generation
  bounded : generation ≤ maxU32

instance BuildExecutionFence.decidableEq : DecidableEq BuildExecutionFence :=
  fun a b => decidable_of_iff (a.generation = b.generation ∧ a.leaseToken = b.leaseToken ∧
    a.deadlineAt = b.deadlineAt)
    BuildExecutionFence.ext_iff.symm

inductive BuildProviderStage where
| ensurePrivateProject
| build
| publish
| cleanup
deriving DecidableEq

def BuildProviderStage.asStr : BuildProviderStage → String
| .ensurePrivateProject => "ensure_private_project"
| .build => "build"
| .publish => "publish"
| .cleanup => "cleanup"

def buildExecutorProtocolVersion : Nat := 2

/- The identity under which the executor admits a request. Digests are of an arbitrary type. -/
structure BuildProviderRequestContext (δ : Type) where
  protocolVersion : Nat
  buildRequestId : BuildRequestId
  fenceGeneration : Nat
  leaseToken : BitVec 128
  stage : BuildProviderStage
  stageRequestId : δ
  deadlineAt : UtcTimestamp

structure BuiltCandidate (δ : Type) where
  buildRequestId : BuildRequestId
  buildIdentity : δ
  (repository digest : String)
deriving DecidableEq

structure PrivateRegistryProject (δ : Type) where
  buildRequestId : BuildRequestId
  buildIdentity : δ
  repositoryPrefix : String
  isPrivate : Bool
  storageQuotaBytes : Nat
  robotSubject : String
deriving DecidableEq

structure PublishedImage (δ : Type) where
  buildIdentity : δ
  digest : String
deriving DecidableEq

structure BuildPipelineOutput (δ : Type) where
  buildIdentity : δ
  registryProject : PrivateRegistryProject δ
  artifact : ImageArtifact
deriving DecidableEq

/- The calls of the provider. -/
inductive BuildExecutorRequest (δ : Type) where
| ensurePrivateProject (command : AgentBuildRequested) (identity : δ)
| build (command : AgentBuildRequested) (identity : δ)
| publish (candidate : BuiltCandidate δ)
| cleanup (buildRequestId : BuildRequestId) (identity : δ)

def BuildExecutorRequest.stage {δ : Type} : BuildExecutorRequest δ → BuildProviderStage
| .ensurePrivateProject _ _ => .ensurePrivateProject
| .build _ _ => .build
| .publish _ => .publish
| .cleanup _ _ => .cleanup

/- What a call of the provider returns. -/
inductive ProviderReply (δ : Type) where
| project (project : PrivateRegistryProject δ)
| candidate (candidate : BuiltCandidate δ)
| image (image : PublishedImage δ)
| cleaned
| failure (failure : BuildProviderFailure)
deriving DecidableEq

/- A call has not returned yet, has returned, or was dropped when the caller stopped waiting for
  it. -/
inductive CallOutcome (δ : Type) where
| pending
| answered (reply : ProviderReply δ)
| dropped
deriving DecidableEq

structure ProviderCall (δ : Type) where
  context : BuildProviderRequestContext δ
  request : BuildExecutorRequest δ
  outcome : CallOutcome δ

-- Runs

inductive BuildPhase (δ : Type) where
| ensuring
| building (project : PrivateRegistryProject δ)
| publishing (project : PrivateRegistryProject δ) (candidate : BuiltCandidate δ)
-- `cleanup_success`
| finishing (output : BuildPipelineOutput δ)
-- `cleanup`, inside the execution timeout or after it
| cleaning (original : BuildPipelineError) (timed : Bool)
| returned (result : Except BuildPipelineError (BuildPipelineOutput δ))
deriving DecidableEq

/- The calls are listed from the last to the first. -/
structure BuildRun (δ : Type) where
  phase : BuildPhase δ
  calls : List (ProviderCall δ)

/- An answer comes with the identifier of the future artifact, and says whether the run was
  cancelled before the next call. -/
inductive BuildEvent (δ : Type) where
| answered (reply : ProviderReply δ) (artifactId : ImageArtifactId) (cancelled : Bool)
| cancelled
| stageTimeout
| executionTimeout

/- What `execute` is called with, with the digest functions and the builder binding of the
  policy. -/
structure BuildExecution (δ : Type) where
  ofUuid : BitVec 128 → δ
  ofText : String → δ
  builderBinding : String
  command : AgentBuildRequested
  startedAt : UtcTimestamp
  fence : BuildExecutionFence

namespace BuildExecution

variable {δ : Type} (execution : BuildExecution δ)

def id : BuildRequestId := execution.command.request.id

def identity : δ := execution.ofUuid execution.id.uuid

def requestContext (stage : BuildProviderStage) : BuildProviderRequestContext δ where
  protocolVersion := buildExecutorProtocolVersion
  buildRequestId := execution.id
  fenceGeneration := execution.fence.generation
  leaseToken := execution.fence.leaseToken
  stage := stage
  stageRequestId := execution.ofText ("\x00".intercalate [toString buildExecutorProtocolVersion,
    uuidText execution.id.uuid, toString execution.fence.generation,
    uuidText execution.fence.leaseToken, stage.asStr])
  deadlineAt := execution.fence.deadlineAt

def call (request : BuildExecutorRequest δ) (outcome : CallOutcome δ) : ProviderCall δ :=
  ⟨execution.requestContext request.stage, request, outcome⟩

def ensureRequest : BuildExecutorRequest δ :=
  .ensurePrivateProject execution.command execution.identity

def buildRequest : BuildExecutorRequest δ := .build execution.command execution.identity

def cleanupRequest : BuildExecutorRequest δ := .cleanup execution.id execution.identity

-- Admission

/- `add_milliseconds`. -/
def deadline : Option UtcTimestamp :=
  let duration := execution.command.request.maxDurationMilliseconds
  if duration ≤ maxI64 then addDuration execution.startedAt duration else none

/- The checks of `execute` before its first call. -/
def admission : Except BuildPipelineError Unit := do
  ensure execution.command.Valid (.refused .commandInvalid)
  ensure (execution.command.request.builderBinding = execution.builderBinding)
    (.refused .providerBindingMismatch)
  let deadline ← require execution.deadline .clockInvalid
  ensure (execution.fence.deadlineAt = deadline) (.refused .configurationInvalid)

def courseRepository : String :=
  "course-" ++ uuidText execution.command.request.courseId.uuid ++ "-" ++
    uuidText execution.command.request.candidateId.uuid

def expectedCourseRepositoryPrefix : Except BuildPipelineError String :=
  match execution.command.request.outputRepository.toList.splitOn '/' with
  | [registry, project, repository] =>
    if registry = [] ∨ project = [] ∨ repository ≠ execution.courseRepository.toList then
      .error (.refused .registryProjectInvalid)
    else .ok (String.ofList (registry ++ '/' :: project))
  | _ => .error (.refused .registryProjectInvalid)

-- Calls

/- Record how the last call ended. -/
def settle (outcome : CallOutcome δ) : List (ProviderCall δ) → List (ProviderCall δ)
| [] => []
| call :: earlier => { call with outcome } :: earlier

/- Wait in a phase for a new call. -/
def issue (phase : BuildPhase δ) (request : BuildExecutorRequest δ)
    (calls : List (ProviderCall δ)) : BuildRun δ :=
  ⟨phase, execution.call request .pending :: calls⟩

/- `cleanup`, called with the error to be returned. -/
def clean (original : BuildPipelineError) (timed : Bool)
    (calls : List (ProviderCall δ)) : BuildRun δ :=
  execution.issue (.cleaning original timed) execution.cleanupRequest calls

/- Go on to the next phase, or clean up after a check that failed. -/
def proceed {α : Type} (calls : List (ProviderCall δ)) (checked : Except BuildPipelineError α)
    (next : α → BuildRun δ) : BuildRun δ :=
  match checked with
  | .ok a => next a
  | .error error => execution.clean error true calls

/- `stage`: a cancellation that is already set is noticed before the call is made. -/
def stage (cancelled : Bool) (phase : BuildPhase δ)
    (request : BuildExecutorRequest δ) (calls : List (ProviderCall δ)) : BuildRun δ :=
  if cancelled then execution.clean (.refused .cancelled) true calls
  else execution.issue phase request calls

/- The state in which `execute` first waits. -/
def begin (cancelled : Bool) : BuildRun δ :=
  match execution.admission with
  | .error error => ⟨.returned (.error error), []⟩
  | .ok () => execution.stage cancelled .ensuring execution.ensureRequest []

/- The run after the wait for its last call was given up. -/
def interrupt (phase : BuildPhase δ) (calls : List (ProviderCall δ)) :
    BuildEvent δ → Option (BuildRun δ)
| .answered _ _ _ => none
| .cancelled =>
  match phase with
  | .ensuring | .building _ | .publishing _ _ =>
    some (execution.clean (.refused .cancelled) true calls)
  | _ => none
| .stageTimeout =>
  match phase with
  | .ensuring | .building _ | .publishing _ _ => some (execution.clean .timedOut true calls)
  | .finishing _ | .cleaning _ _ => some ⟨.returned (.error .cleanupFailed), calls⟩
  | .returned _ => none
| .executionTimeout =>
  match phase with
  | .ensuring | .building _ | .publishing _ _
  | .finishing _ | .cleaning _ true => some (execution.clean .timedOut false calls)
  | .cleaning _ false | .returned _ => none

-- Traces

def ProjectReady (project : PrivateRegistryProject δ) : Prop :=
  execution.expectedCourseRepositoryPrefix = .ok project.repositoryPrefix ∧
  project.isPrivate = true ∧ project.buildRequestId = execution.id ∧
  project.buildIdentity = execution.identity

def CandidateBuilt (candidate : BuiltCandidate δ) : Prop :=
  candidate.buildRequestId = execution.id ∧ candidate.buildIdentity = execution.identity

/- The calls that the provider has answered once the project is ready. -/
def ensuredCalls (project : PrivateRegistryProject δ) : List (ProviderCall δ) :=
  [execution.call execution.ensureRequest (.answered (.project project))]

def builtCalls (project : PrivateRegistryProject δ) (candidate : BuiltCandidate δ) :
    List (ProviderCall δ) :=
  execution.call execution.buildRequest (.answered (.candidate candidate)) ::
    execution.ensuredCalls project

def publishedCalls (project : PrivateRegistryProject δ) (candidate : BuiltCandidate δ)
    (image : PublishedImage δ) : List (ProviderCall δ) :=
  execution.call (.publish candidate) (.answered (.image image)) ::
    execution.builtCalls project candidate

/- What the calls before the last one have shown when the output is known. -/
def Published (output : BuildPipelineOutput δ) (calls : List (ProviderCall δ)) : Prop :=
  ∃ project candidate image, calls = execution.publishedCalls project candidate image ∧
    execution.ProjectReady project ∧ execution.CandidateBuilt candidate ∧
    output.registryProject = project ∧ output.artifact.digest = candidate.digest ∧
    output.artifact.digest = image.digest

def Traced (run : BuildRun δ) : Prop :=
  match run.phase with
  | .ensuring => run.calls = [execution.call execution.ensureRequest .pending]
  | .building project =>
    run.calls = execution.call execution.buildRequest .pending :: execution.ensuredCalls project ∧
    execution.ProjectReady project
  | .publishing project candidate =>
    run.calls = execution.call (.publish candidate) .pending ::
      execution.builtCalls project candidate ∧
    execution.ProjectReady project ∧ execution.CandidateBuilt candidate
  | .finishing output =>
    ∃ earlier, run.calls = execution.call execution.cleanupRequest .pending :: earlier ∧
      execution.Published output earlier
  | .cleaning _ _ =>
    ∃ earlier, run.calls = execution.call execution.cleanupRequest .pending :: earlier
  | .returned (.ok output) =>
    ∃ earlier, run.calls = execution.call execution.cleanupRequest (.answered .cleaned) :: earlier ∧
      execution.Published output earlier
  | .returned (.error error) =>
    error.cleanupVerified = true → run.calls = [] ∨ ∃ earlier, run.calls =
      execution.call execution.cleanupRequest (.answered .cleaned) :: earlier

theorem traced_clean (original : BuildPipelineError) (timed : Bool)
    (calls : List (ProviderCall δ)) :
    execution.Traced (execution.clean original timed calls) :=
  ⟨calls, rfl⟩

theorem traced_cleanupFailed (calls : List (ProviderCall δ)) :
    execution.Traced ⟨.returned (.error .cleanupFailed), calls⟩ := by
  rintro ⟨⟩

variable {execution : BuildExecution δ} {calls : List (ProviderCall δ)}

theorem traced_stage {phase : BuildPhase δ} {request : BuildExecutorRequest δ} (cancelled : Bool)
    (hIssued : execution.Traced (execution.issue phase request calls)) :
    execution.Traced (execution.stage cancelled phase request calls) := by
  cases cancelled with
  | true => exact execution.traced_clean _ _ _
  | false => exact hIssued

theorem traced_proceed {α : Type} {checked : Except BuildPipelineError α} {next : α → BuildRun δ}
    (hNext : ∀ a, checked = .ok a → execution.Traced (next a)) :
    execution.Traced (execution.proceed calls checked next) := by
  cases checked with
  | error error => exact execution.traced_clean _ _ _
  | ok a => exact hNext a rfl

variable {next : BuildRun δ}

/- Giving up a call leads to a cleanup, or to the failure of one. -/
theorem interrupt_eq_some {phase : BuildPhase δ} {event : BuildEvent δ}
    (hStep : execution.interrupt phase calls event = some next) :
    (∃ original timed, next = execution.clean original timed calls) ∨
    next = ⟨.returned (.error .cleanupFailed), calls⟩ := by
  unfold interrupt at hStep
  split at hStep
  · cases hStep
  all_goals
    split at hStep
    all_goals
      first
      | cases hStep; done
      | cases hStep
        exact .inl ⟨_, _, rfl⟩
      | cases hStep
        exact .inr rfl

-- Answers

variable [DecidableEq δ] (execution) (project : PrivateRegistryProject δ)

def checkProject : Except BuildPipelineError Unit := do
  let expected ← execution.expectedCourseRepositoryPrefix
  ensure (project.buildRequestId = execution.id ∧ project.buildIdentity = execution.identity ∧
    project.repositoryPrefix = expected ∧ project.isPrivate = true ∧
    project.storageQuotaBytes ≠ 0 ∧ trimIsEmpty project.robotSubject = false)
    (.refused .registryProjectInvalid)

variable (candidate : BuiltCandidate δ)

def checkCandidate : Except BuildPipelineError Unit :=
  ensure (candidate.buildRequestId = execution.id ∧ candidate.buildIdentity = execution.identity ∧
    candidate.repository = execution.command.request.outputRepository ∧
    validOciDigest candidate.digest = true)
    (.refused .buildIdentityMismatch)

def output (image : PublishedImage δ) (artifactId : ImageArtifactId) :
    Except BuildPipelineError (BuildPipelineOutput δ) := do
  ensure (image.buildIdentity = execution.identity ∧ image.digest = candidate.digest)
    (.refused .publicationIdentityMismatch)
  let artifact : ImageArtifact :=
    { id := artifactId, buildRequestId := execution.id, repository := candidate.repository,
      digest := candidate.digest }
  ensure artifact.Valid (.refused .artifactInvalid)
  pure { buildIdentity := execution.identity, registryProject := project, artifact }

def answer (phase : BuildPhase δ) (calls : List (ProviderCall δ)) (artifactId : ImageArtifactId)
    (cancelled : Bool) (reply : ProviderReply δ) : Option (BuildRun δ) :=
  match phase, reply with
  | .ensuring, .project project =>
    some (execution.proceed calls (execution.checkProject project) (fun _ =>
      execution.stage cancelled (.building project) execution.buildRequest calls))
  | .building project, .candidate candidate =>
    some (execution.proceed calls (execution.checkCandidate candidate) (fun _ =>
      execution.stage cancelled (.publishing project candidate) (.publish candidate) calls))
  | .publishing project candidate, .image image =>
    some (execution.proceed calls (execution.output project candidate image artifactId)
      (fun output => execution.issue (.finishing output) execution.cleanupRequest calls))
  | .ensuring, .failure failure
  | .building _, .failure failure
  | .publishing _ _, .failure failure => some (execution.clean (.provider failure) true calls)
  | .finishing output, .cleaned => some ⟨.returned (.ok output), calls⟩
  | .cleaning original _, .cleaned =>
    some ⟨.returned (.error { original with cleanupVerified := true }), calls⟩
  | .finishing _, .failure _
  | .cleaning _ _, .failure _ => some ⟨.returned (.error .cleanupFailed), calls⟩
  | _, _ => none

def step (run : BuildRun δ) (event : BuildEvent δ) : Option (BuildRun δ) :=
  match event with
  | .answered reply artifactId cancelled =>
    execution.answer run.phase (settle (.answered reply) run.calls) artifactId cancelled reply
  | event => execution.interrupt run.phase (settle .dropped run.calls) event

/- The runs of `BuildPipeline::execute`. -/
def machine : Machine (BuildRun δ) (BuildEvent δ) where
  init run := ∃ cancelled, run = execution.begin cancelled
  step := execution.step

theorem begin_initial (cancelled : Bool) : execution.machine.init (execution.begin cancelled) :=
  ⟨cancelled, rfl⟩

variable {execution}

-- Runs Of The Pipeline

variable {project : PrivateRegistryProject δ}

theorem projectReady_of_check {u : Unit}
    (hCheck : execution.checkProject project = .ok u) : execution.ProjectReady project := by
  simp only [checkProject, steps_eq_ok] at hCheck
  rcases hCheck with ⟨expected, hExpected, hId, hIdentity, hPrefix, hPrivate, _⟩
  exact ⟨hPrefix ▸ hExpected, hPrivate, hId, hIdentity⟩

variable {artifactId : ImageArtifactId} {run : BuildRun δ}

/- An answer keeps the calls in step with the phase. -/
theorem traced_answer {reply : ProviderReply δ} {cancelled : Bool} (hTraced : execution.Traced run)
    (hStep : execution.step run (.answered reply artifactId cancelled) = some next) :
    execution.Traced next := by
  rcases run with ⟨phase, calls⟩
  simp only [step] at hStep
  unfold answer at hStep
  split at hStep
  · simp only [Traced] at hTraced
    subst hTraced
    cases hStep
    apply traced_proceed
    intro _ hCheck
    exact traced_stage cancelled ⟨rfl, projectReady_of_check hCheck⟩
  · rcases hTraced with ⟨rfl, hProject⟩
    cases hStep
    apply traced_proceed
    intro _ hCheck
    simp only [checkCandidate, ensure_eq_ok] at hCheck
    exact traced_stage cancelled ⟨rfl, hProject, hCheck.1, hCheck.2.1⟩
  · rcases hTraced with ⟨rfl, hProject, hCandidate⟩
    cases hStep
    apply traced_proceed
    intro output hOutput
    simp only [BuildExecution.output, ensure_bind_eq_ok] at hOutput
    rcases hOutput with ⟨⟨_, hDigest⟩, _, hOutput⟩
    cases hOutput
    exact ⟨_, rfl, _, _, _, rfl, hProject, hCandidate, rfl, rfl, hDigest.symm⟩
  · cases hStep
    exact execution.traced_clean _ _ _
  · cases hStep
    exact execution.traced_clean _ _ _
  · cases hStep
    exact execution.traced_clean _ _ _
  · rcases hTraced with ⟨earlier, rfl, hPublished⟩
    cases hStep
    exact ⟨earlier, rfl, hPublished⟩
  · rcases hTraced with ⟨earlier, rfl⟩
    cases hStep
    intro _
    exact .inr ⟨earlier, rfl⟩
  · cases hStep
    exact execution.traced_cleanupFailed _
  · cases hStep
    exact execution.traced_cleanupFailed _
  · cases hStep

theorem traced_step {event : BuildEvent δ} (hTraced : execution.Traced run)
    (hStep : execution.step run event = some next) : execution.Traced next := by
  have hInterrupt : ∀ calls, execution.interrupt run.phase calls event = some next →
      execution.Traced next := by
    intro calls hGiven
    rcases interrupt_eq_some hGiven with ⟨original, timed, rfl⟩ | rfl
    · exact execution.traced_clean _ _ _
    · exact execution.traced_cleanupFailed _
  cases event with
  | answered reply artifactId cancelled => exact traced_answer hTraced hStep
  | cancelled | stageTimeout | executionTimeout => exact hInterrupt _ hStep

theorem traced (hRun : execution.machine.Reachable run) : execution.Traced run := by
  refine hRun.invariant ?_ ?_
  · rintro _ ⟨cancelled, rfl⟩
    unfold begin
    cases execution.admission with
    | error error =>
      intro _
      exact .inl rfl
    | ok _ => exact traced_stage cancelled rfl
  · intro _ _ _ hTraced _ hStep
    exact traced_step hTraced hStep

end BuildExecution

-- Soundness

/- Whatever the provider answers, and whenever the run is cancelled or times out: an output is
  returned after exactly the four calls under one fence, for the private project of the course,
  with one digest, and after a successful cleanup. An error that claims a verified cleanup comes
  before any call or right after a successful cleanup. -/
theorem build_pipeline_sound {δ : Type} [DecidableEq δ] (execution : BuildExecution δ)
    (run : BuildRun δ) (hRun : execution.machine.Reachable run) :
    (∀ output, run.phase = .returned (.ok output) → ∃ project candidate image, run.calls.reverse =
      [execution.call (.ensurePrivateProject execution.command execution.identity)
        (.answered (.project project)), execution.call (.build execution.command execution.identity)
          (.answered (.candidate candidate)),
        execution.call (.publish candidate) (.answered (.image image)),
        execution.call (.cleanup execution.id execution.identity) (.answered .cleaned)] ∧
      candidate.buildRequestId = execution.id ∧ candidate.buildIdentity = execution.identity ∧
      project.isPrivate = true ∧
      execution.expectedCourseRepositoryPrefix = .ok project.repositoryPrefix ∧
      output.registryProject = project ∧ output.artifact.digest = candidate.digest ∧
      output.artifact.digest = image.digest) ∧
    (∀ error, run.phase = .returned (.error error) → error.cleanupVerified = true → run.calls ≠ [] →
      ∃ earlier, run.calls = execution.call (.cleanup execution.id execution.identity)
        (.answered .cleaned) :: earlier) := by
  have hTraced := BuildExecution.traced hRun
  rcases run with ⟨phase, calls⟩
  constructor
  · rintro output ⟨⟩
    rcases hTraced with ⟨earlier, hCalls, project, candidate, image,
        rfl, hProject, hCandidate, hOutput, hBuilt, hImage⟩
    refine ⟨project, candidate, image, ?_, hCandidate.1,
      hCandidate.2, hProject.2.1, hProject.1, hOutput, hBuilt, hImage⟩
    rw [hCalls]
    rfl
  · intro error hPhase hVerified hCalls
    cases hPhase
    rcases hTraced hVerified with hNone | hCleaned
    · exact absurd hNone hCalls
    · exact hCleaned

namespace BuildSample

def digest : String := "sha256:" ++ String.ofList (List.replicate 64 'a')

def request : BuildRequest where
  id := ⟨1⟩
  courseId := ⟨2⟩
  candidateId := ⟨3⟩
  candidateRevision := .one
  approvalId := ⟨4⟩
  builderBinding := "builder"
  context := ⟨⟨5⟩, "store", "1", 1, "application/x-tar"⟩
  contextObjectKey := "context.tar"
  dockerfilePath := "Dockerfile"
  baseImageDigest := digest
  outputRepository := "registry/project/course-" ++ uuidText 2 ++ "-" ++ uuidText 3
  network := .denyAll
  maxDurationMilliseconds := 60000
  maxCpuMillicores := 1
  maxMemoryBytes := 1

def command : AgentBuildRequested where
  request := request
  approval := ⟨⟨4⟩, ⟨3⟩, .one, .approved⟩
  idempotencyKey := "build-request-one"

/- The digest of a text is its length. -/
def execution : BuildExecution Nat where
  ofUuid uuid := uuid.toNat
  ofText := String.length
  builderBinding := "builder"
  command := command
  startedAt := 0
  fence := ⟨1, 7, 60000, Nat.one_pos, by decide⟩

def project : PrivateRegistryProject Nat where
  buildRequestId := ⟨1⟩
  buildIdentity := 1
  repositoryPrefix := "registry/project"
  isPrivate := true
  storageQuotaBytes := 1
  robotSubject := "robot"

def candidate : BuiltCandidate Nat where
  buildRequestId := ⟨1⟩
  buildIdentity := 1
  repository := request.outputRepository
  digest := digest

def answers : List (BuildEvent Nat) :=
  [.answered (.project project) ⟨9⟩ false, .answered (.candidate candidate) ⟨9⟩ false,
    .answered (.image ⟨1, digest⟩) ⟨9⟩ false, .answered .cleaned ⟨9⟩ false]

def delivered (run : BuildRun Nat) : Bool :=
  match run.phase with
  | .returned (.ok _) => true
  | _ => false

end BuildSample

open BuildSample

theorem build_pipeline_sound_delivered : ∃ run output, execution.machine.Reachable run ∧
    run.phase = .returned (.ok output) ∧ output.registryProject.isPrivate = true := by
  have hFound : ∃ run, execution.machine.Reachable run ∧ delivered run = true :=
    Machine.exists_reachable answers (execution.begin_initial false) (by decide +kernel)
  rcases hFound with ⟨run, hRun, hDelivered⟩
  unfold delivered at hDelivered
  split at hDelivered
  · rename_i output hPhase
    have hSound := build_pipeline_sound execution run hRun
    rcases hSound.1 output hPhase with ⟨project, _, _, _, _, _, hPrivate, _, hProject, _⟩
    exact ⟨run, output, hRun, hPhase, hProject ▸ hPrivate⟩
  · cases hDelivered

end LabWeaver
