import Mathlib.Data.String.Lemmas
import LabWeaver.Agent.BuildPipeline
import LabWeaver.Contracts.Authoring
import LabWeaver.Contracts.EvaluationRun

/-
  This file models the decision on a candidate and the build command that an approval emits.
  Candidate, configuration and build request are validated independently; the file says exactly
  which validated candidates can be approved.

  Main declarations: `validated_candidate_approvable_iff`, `validated_candidate_refused`.
-/

namespace LabWeaver.Control

open Outcome List

variable {δ : Type}

-- The Configuration

structure ContainerBuildPolicy where
  (builderBinding outputRepositoryPrefix dockerfilePath : String)
  network : BuildNetworkPolicy
  (maxDurationMilliseconds maxCpuMillicores maxMemoryBytes : Nat)

open ContainerBuildPolicy

structure VirtualMachineBasePolicy where
  (providerBinding storageClassBinding : String)
  baseDisk : VirtualMachineBaseDisk

structure ControlConfig (δ : Type) where
  packageObjectPrefix : String
  (uploadTtlSeconds completionLeaseSeconds maxPackageFiles maxPackageBytes retentionSeconds : Nat)
  sseRetentionSeconds : Nat
  trustRevision : Revision
  (environmentSchemaSha256 evaluationSchemaSha256 : δ)
  containerBuild : ContainerBuildPolicy
  virtualMachineBase : VirtualMachineBasePolicy
  evaluationRuntime : EvaluationRuntimeIdentity

namespace ContainerBuildPolicy

variable (policy : ContainerBuildPolicy)

/- The registry and project, without the slashes at their end. -/
def repositoryScope : List Char := policy.outputRepositoryPrefix.toList.rdropWhile (· == '/')

def registry : List Char := policy.repositoryScope.takeWhile (· != '/')

/- What follows the first slash. -/
def project : List Char := (policy.repositoryScope.dropWhile (· != '/')).tail

def validateNetwork : BuildNetworkPolicy → Bool
| .denyAll => true
| .restricted registries =>
  !registries.isEmpty && registries.all (fun registry => !trimIsEmpty registry &&
    !decide ("://".toList <:+: registry.toList) && !registry.toList.contains '*')

def validate : Bool :=
  !trimIsEmpty policy.builderBinding && !policy.builderBinding.toList.any isAsciiWhitespace &&
    !decide ("://".toList <:+: policy.repositoryScope) && !policy.repositoryScope.contains '@' &&
    !decide ("..".toList <:+: policy.repositoryScope) && policy.repositoryScope.contains '/' &&
    policy.registry != [] && policy.project != [] && !policy.project.contains '/' &&
    policy.project.all (fun c => c.isLower || c.isDigit || c == '-') &&
    !trimIsEmpty policy.dockerfilePath && policy.maxDurationMilliseconds != 0 &&
    policy.maxCpuMillicores != 0 && policy.maxMemoryBytes != 0 && validateNetwork policy.network

end ContainerBuildPolicy

def VirtualMachineBasePolicy.validate (policy : VirtualMachineBasePolicy) : Bool :=
  !trimIsEmpty policy.providerBinding && !trimIsEmpty policy.storageClassBinding &&
    policy.baseDisk.validate

variable (config : ControlConfig δ)

def ControlConfig.validate : Bool :=
  config.packageObjectPrefix.toList.any (· != '/') &&
    decide (1 ≤ config.uploadTtlSeconds ∧ config.uploadTtlSeconds ≤ 3600) &&
    decide (30 ≤ config.completionLeaseSeconds ∧ config.completionLeaseSeconds ≤ 3600) &&
    decide (1 ≤ config.maxPackageFiles ∧ config.maxPackageFiles ≤ 10000) &&
    config.maxPackageBytes != 0 && config.retentionSeconds != 0 &&
    config.sseRetentionSeconds != 0 && config.containerBuild.validate &&
    config.virtualMachineBase.validate && config.evaluationRuntime.validate.isOk

-- Decisions

inductive ControlError where
| revisionConflict
| candidateNotFound
| candidateKindMismatch
| policyNotFound
| decisionConflict
| contractInvalid
| persistenceIdentityMismatch
deriving DecidableEq

/- A row of `candidates`. Its document is the candidate of its kind. -/
structure CandidateRow (δ : Type) where
  candidateId : CandidateId
  courseId : CourseId
  environment : Bool
  (revision policyRevision : Revision)
  schemaSha256 : δ
  contract : Option EnvironmentCandidate

/- The row that `insert_candidate` writes for an environment candidate. -/
def environmentRow (courseId : CourseId) (schemaSha256 : δ) (candidate : EnvironmentCandidate) :
    CandidateRow δ where
  candidateId := candidate.id
  courseId := courseId
  environment := true
  revision := candidate.revision
  policyRevision := candidate.policyRevision
  schemaSha256 := schemaSha256
  contract := some candidate

/- A file of a package upload, with the columns of its session that are read. -/
structure PackageUploadFile where
  artifactId : ArtifactId
  objectVersion : String
  courseId : CourseId
  (completed verified : Bool)
  objectKey : String

structure ControlTables (δ : Type) where
  candidates : List (CandidateRow δ)
  activePolicy : CourseId → Option Revision
  approvals : List CandidateApproval
  files : List PackageUploadFile

/- A call of `decide_candidate`, with the identifiers it makes up. -/
structure DecideCall where
  courseId : CourseId
  candidateId : CandidateId
  environment : Bool
  (candidateRevision policyRevision trustRevision : Revision)
  decision : CandidateDecision
  reason : String
  expectedRevision : Revision
  approvalId : ApprovalId
  buildRequestId : BuildRequestId

def DecideCall.approval (call : DecideCall) : CandidateApproval where
  id := call.approvalId
  candidateId := call.candidateId
  candidateRevision := call.candidateRevision
  decision := call.decision

def contextObjectKey (tables : ControlTables δ) (courseId : CourseId) (context : ArtifactRef) :
    Option String :=
  (tables.files.find? (fun file => decide (file.artifactId = context.artifactId ∧
    file.objectVersion = context.objectVersion ∧ file.courseId = courseId) && file.completed &&
    file.verified)).map (·.objectKey)

def buildCommand (call : DecideCall) (candidate : EnvironmentCandidate)
    (context : ArtifactRef) (objectKey baseImageDigest : String) : AgentBuildRequested where
  request :=
    { id := call.buildRequestId, courseId := call.courseId, candidateId := call.candidateId
      candidateRevision := candidate.revision, approvalId := call.approvalId
      builderBinding := config.containerBuild.builderBinding, context
      contextObjectKey := objectKey, dockerfilePath := config.containerBuild.dockerfilePath
      baseImageDigest
      outputRepository := String.ofList config.containerBuild.repositoryScope ++ "/" ++ "course-" ++
        uuidText call.courseId.uuid ++ "-" ++ uuidText call.candidateId.uuid
      network := config.containerBuild.network
      maxDurationMilliseconds := config.containerBuild.maxDurationMilliseconds
      maxCpuMillicores := config.containerBuild.maxCpuMillicores
      maxMemoryBytes := config.containerBuild.maxMemoryBytes }
  approval := call.approval
  idempotencyKey := "approval:" ++ uuidText call.approvalId.uuid

def emitBuild (tables : ControlTables δ) (call : DecideCall)
    (row : CandidateRow δ) : Except ControlError (Option AgentBuildRequested) := do
  let candidate ← require row.contract .persistenceIdentityMismatch
  ensure (candidate.validate = true) .contractInvalid
  match candidate.spec.runtime with
  | .container _ context baseImageDigest _ _ => do
    let objectKey ← require (contextObjectKey tables call.courseId context)
      .persistenceIdentityMismatch
    let command := buildCommand config call candidate context objectKey baseImageDigest
    ensure command.request.Valid .contractInvalid
    ensure command.Valid .contractInvalid
    .ok (some command)
  | .virtualMachine _ _ _ _ => .ok none

/- `decide_candidate`, for a key that has not been used. -/
def decideCandidate [DecidableEq δ] (tables : ControlTables δ) (call : DecideCall) :
    Except ControlError (CandidateApproval × Option AgentBuildRequested) := do
  ensure (trimIsEmpty call.reason = false ∧ call.candidateRevision = call.expectedRevision)
    .revisionConflict
  let row ← require (tables.candidates.find? (fun row =>
    decide (row.candidateId = call.candidateId ∧ row.courseId = call.courseId))) .candidateNotFound
  ensure (row.environment = call.environment) .candidateKindMismatch
  let activePolicy ← require (tables.activePolicy call.courseId) .policyNotFound
  ensure (row.revision = call.candidateRevision ∧ row.policyRevision = call.policyRevision ∧
    row.schemaSha256 = (if call.environment then config.environmentSchemaSha256
      else config.evaluationSchemaSha256) ∧
    activePolicy = call.policyRevision ∧ call.trustRevision = config.trustRevision)
    .revisionConflict
  ensure (tables.approvals.all (fun approval => decide (approval.candidateId ≠ call.candidateId ∨
    approval.candidateRevision ≠ call.candidateRevision)) = true) .decisionConflict
  let command ←
    if call.decision = .approved ∧ call.environment = true then emitBuild config tables call row
    else .ok none
  .ok (call.approval, command)

-- Texts Of Identifiers

theorem mem_uuidText {uuid : BitVec 128} {c : Char} (hMember : c ∈ (uuidText uuid).toList) :
    c = '-' ∨ ∃ digit < 16, c = Nat.digitChar digit := by
  have hDigit : ∀ digits, digits = (List.range 32).map (fun i =>
      Nat.digitChar (uuid.toNat / 16 ^ (31 - i) % 16)) → c ∈ digits →
      ∃ digit < 16, c = Nat.digitChar digit := by
    rintro digits rfl hDigits
    rcases mem_map.mp hDigits with ⟨i, _, rfl⟩
    exact ⟨_, Nat.mod_lt _ (by decide), rfl⟩
  unfold uuidText at hMember
  simp only [String.toList_intercalate, map_cons, map_nil, String.toList_ofList] at hMember
  simp only [List.intercalate, List.intersperse, flatten_cons, flatten_nil,
    mem_append, append_nil] at hMember
  rcases hMember with h | h | h | h | h | h | h | h | h
  · exact .inr (hDigit _ rfl (mem_of_mem_take h))
  · exact .inl (by simpa using h)
  · exact .inr (hDigit _ rfl (mem_of_mem_drop (mem_of_mem_take h)))
  · exact .inl (by simpa using h)
  · exact .inr (hDigit _ rfl (mem_of_mem_drop (mem_of_mem_take h)))
  · exact .inl (by simpa using h)
  · exact .inr (hDigit _ rfl (mem_of_mem_drop (mem_of_mem_take h)))
  · exact .inl (by simpa using h)
  · exact .inr (hDigit _ rfl (mem_of_mem_drop h))

theorem tokenText_uuidText (uuid : BitVec 128) : tokenText (uuidText uuid) = true := by
  refine all_eq_true.mpr ?_
  intro c hMember
  have hDigits : ∀ digit < 16, ((Nat.digitChar digit).isAlphanum || Nat.digitChar digit == '-' ||
      Nat.digitChar digit == '_' || Nat.digitChar digit == '.' ||
      Nat.digitChar digit == ':') = true := by
    decide
  rcases mem_uuidText hMember with rfl | ⟨digit, hDigit, rfl⟩
  · decide
  · exact hDigits digit hDigit

theorem length_uuidText (uuid : BitVec 128) : (uuidText uuid).toList.length = 36 := by
  simp [uuidText]

/- The characters of tokens take one byte each. -/
theorem utf8ByteSize_of_tokenText {value : String} (hToken : tokenText value = true) :
    value.utf8ByteSize = value.toList.length := by
  have hAll := all_eq_true.mp hToken
  rw [← String.utf8Len_toList]
  generalize value.toList = chars at hAll ⊢
  induction chars with
  | nil => rfl
  | cons c rest ih =>
    have hRange := token_range (hAll c mem_cons_self)
    have hSize : c.utf8Size = 1 := by
      rw [Char.utf8Size_eq_one_iff, UInt32.le_iff_toNat_le]
      exact Nat.le_trans hRange.2 (by decide)
    have hRest := ih (fun c hMember => hAll c (mem_cons_of_mem _ hMember))
    rw [String.utf8Len_cons, hSize, hRest, length_cons]

theorem slash_notMem_of_tokenText {value : String} (hToken : tokenText value = true) :
    '/' ∉ value.toList := by
  intro hMember
  have hSlash := all_eq_true.mp hToken '/' hMember
  revert hSlash
  decide

-- The Build Command

variable {config : ControlConfig δ} {tables : ControlTables δ} {call : DecideCall}
  {candidate : EnvironmentCandidate} {context : ArtifactRef}
  {objectKey baseImageDigest : String}

/- The facts about the build policy of an accepted configuration that a build needs. -/
structure ContainerBuildPolicy.Accepted (policy : ContainerBuildPolicy) : Prop where
  builder : trimIsEmpty policy.builderBinding = false
  separated : '/' ∈ policy.repositoryScope
  registry : policy.registry ≠ []
  project : policy.project ≠ []
  single : '/' ∉ policy.project
  duration : policy.maxDurationMilliseconds ≠ 0
  cpu : policy.maxCpuMillicores ≠ 0
  memory : policy.maxMemoryBytes ≠ 0
  network : policy.network.Valid

theorem network_valid_of_validate {network : BuildNetworkPolicy}
    (hNetwork : validateNetwork network = true) : network.Valid := by
  cases network with
  | denyAll => trivial
  | restricted registries =>
    simp only [validateNetwork, Bool.and_eq_true, Bool.not_eq_true',
      isEmpty_eq_false_iff] at hNetwork
    refine ⟨hNetwork.1, all_eq_true.mpr ?_⟩
    intro registry hMember
    have hRegistry := all_eq_true.mp hNetwork.2 registry hMember
    simp only [Bool.and_eq_true] at hRegistry
    exact hRegistry.1.1

theorem accepted_of_validate (hConfig : config.validate = true) :
    config.containerBuild.Accepted := by
  simp only [ControlConfig.validate, validate, Bool.and_eq_true,
    Bool.not_eq_true', bne_iff_ne, contains_iff_mem] at hConfig
  rcases hConfig with ⟨⟨⟨_, hPolicy⟩, _⟩, _⟩
  rcases hPolicy with ⟨⟨⟨⟨⟨⟨⟨⟨⟨⟨⟨⟨⟨⟨hBuilder, _⟩, _⟩, _⟩, _⟩, hSeparated⟩, hRegistry⟩, hProject⟩,
    hSingle⟩, _⟩, _⟩, hDuration⟩, hCpu⟩, hMemory⟩, hNetwork⟩
  refine ⟨hBuilder, hSeparated, hRegistry, hProject, ?_, hDuration, hCpu, hMemory,
    network_valid_of_validate hNetwork⟩
  intro hMember
  rw [← contains_iff_mem, hSingle] at hMember
  cases hMember

theorem idempotencyKey_accepted (uuid : BitVec 128) :
    16 ≤ ("approval:" ++ uuidText uuid).utf8ByteSize ∧
      ("approval:" ++ uuidText uuid).utf8ByteSize ≤ 128 ∧
      tokenText ("approval:" ++ uuidText uuid) = true := by
  have hToken := tokenText_uuidText uuid
  have hSize : ("approval:" ++ uuidText uuid).utf8ByteSize = 45 := by
    rw [String.utf8ByteSize_append, utf8ByteSize_of_tokenText hToken, length_uuidText]
    rfl
  rw [hSize]
  refine ⟨by decide, by decide, ?_⟩
  unfold tokenText at hToken ⊢
  rw [String.toList_append, all_append, hToken]
  decide

/- The command of an accepted configuration and candidate lacks at most what its paths and its
  digest lack. -/
theorem buildCommand_valid_iff (objectKey baseImageDigest : String)
    (hPolicy : config.containerBuild.Accepted) (hSize : context.sizeBytes ≠ 0)
    (hApproved : call.decision = .approved)
    (hRevision : call.candidateRevision = candidate.revision) :
    (buildCommand config call candidate context objectKey baseImageDigest).Valid ↔
      validRelativePath objectKey = true ∧
        validRelativePath config.containerBuild.dockerfilePath = true ∧
        validOciDigest baseImageDigest = true := by
  have hKey := idempotencyKey_accepted call.approvalId.uuid
  have hRepository : trimIsEmpty (buildCommand config call candidate context objectKey
      baseImageDigest).request.outputRepository = false := by
    refine all_eq_false.mpr ⟨'c', ?_, by decide⟩
    simp [buildCommand]
  constructor
  · rintro ⟨⟨_, _, _, _, _, _, hObject, hDockerfile, hDigest, _⟩, _⟩
    exact ⟨hObject, hDockerfile, hDigest⟩
  · rintro ⟨hObject, hDockerfile, hDigest⟩
    exact ⟨⟨hPolicy.builder, hRepository, hPolicy.duration, hPolicy.cpu, hPolicy.memory, hSize,
      hObject, hDockerfile, hDigest, hPolicy.network⟩, hApproved, rfl, rfl, hRevision, hKey⟩

theorem repositoryScope_eq {policy : ContainerBuildPolicy} (hSlash : '/' ∈ policy.repositoryScope) :
    policy.repositoryScope = policy.registry ++ '/' :: policy.project := by
  unfold registry project
  cases hRest : policy.repositoryScope.dropWhile (· != '/') with
  | nil =>
    have hAll := dropWhile_eq_nil_iff.mp hRest '/' hSlash
    cases hAll
  | cons c rest =>
    have hHead := head_dropWhile_not (· != '/') (l := policy.repositoryScope) (by simp [hRest])
    simp only [hRest, head_cons, bne_eq_false_iff_eq] at hHead
    subst hHead
    rw [tail_cons, ← hRest]
    exact (takeWhile_append_dropWhile).symm

theorem slash_notMem_registry (policy : ContainerBuildPolicy) : '/' ∉ policy.registry := by
  intro hMember
  have hNot := mem_takeWhile_imp hMember
  simp at hNot

/- The pipeline finds the registry and the project again. -/
theorem repository_accepted (hPolicy : config.containerBuild.Accepted)
    (execution : BuildExecution δ) (hCommand : execution.command =
      buildCommand config call candidate context objectKey baseImageDigest) :
    execution.expectedCourseRepositoryPrefix = .ok
      (String.ofList (config.containerBuild.registry ++ '/' :: config.containerBuild.project)) := by
  have hCourse : '/' ∉ execution.courseRepository.toList := by
    apply slash_notMem_of_tokenText
    have hFirst := tokenText_uuidText execution.command.request.courseId.uuid
    have hSecond := tokenText_uuidText execution.command.request.candidateId.uuid
    unfold tokenText at hFirst hSecond ⊢
    simp only [BuildExecution.courseRepository, String.toList_append, all_append, hFirst, hSecond]
    decide
  have hParts : ∀ part ∈ [config.containerBuild.registry, config.containerBuild.project,
      execution.courseRepository.toList], '/' ∉ part := by
    intro part hPart
    rcases mem_cons.mp hPart with rfl | hPart
    · exact slash_notMem_registry _
    · rcases mem_cons.mp hPart with rfl | hPart
      · exact hPolicy.single
      · rwa [mem_singleton.mp hPart]
  have hSplit : execution.command.request.outputRepository.toList.splitOn '/' =
      [config.containerBuild.registry, config.containerBuild.project,
        execution.courseRepository.toList] := by
    rw [← splitOn_intercalate '/' hParts (by simp)]
    congr 1
    rw [BuildExecution.courseRepository, hCommand]
    simp [buildCommand, repositoryScope_eq hPolicy.separated, List.intercalate]
  rw [BuildExecution.expectedCourseRepositoryPrefix, hSplit]
  simp [hPolicy.registry, hPolicy.project]

-- Approvals

variable (config) (tables) (call)

/- The first approval of a stored environment candidate, with the revisions that it asks for. -/
structure FirstApproval (schemaSha256 : δ) (candidate : EnvironmentCandidate) : Prop where
  stored : tables.candidates.find? (fun row => decide (row.candidateId = call.candidateId ∧
    row.courseId = call.courseId)) = some (environmentRow call.courseId schemaSha256 candidate)
  valid : candidate.validate = true
  environment : call.environment = true
  approved : call.decision = .approved
  revision : call.candidateRevision = candidate.revision
  expected : call.candidateRevision = call.expectedRevision
  policy : candidate.policyRevision = call.policyRevision
  active : tables.activePolicy call.courseId = some call.policyRevision
  trust : call.trustRevision = config.trustRevision
  first : tables.approvals.all (fun approval => decide (approval.candidateId ≠ call.candidateId ∨
    approval.candidateRevision ≠ call.candidateRevision)) = true
  packaged : ∀ provider context digest port terminal,
    candidate.spec.runtime = .container provider context digest port terminal →
    ∃ objectKey, contextObjectKey tables call.courseId context = some objectKey

/- The decision is taken, and the build pipeline accepts its command. -/
def Accepts [DecidableEq δ] : Prop :=
  ∃ approval command, decideCandidate config tables call = .ok (approval, command) ∧
    ∀ build ∈ command, build.Valid ∧ ∀ execution : BuildExecution δ, execution.command = build →
      ∃ scope, execution.expectedCourseRepositoryPrefix = .ok scope

/- What neither validator of the candidate and the configuration asks for. -/
def Approvable (schemaSha256 : δ) (candidate : EnvironmentCandidate) : Prop :=
  trimIsEmpty call.reason = false ∧ schemaSha256 = config.environmentSchemaSha256 ∧
    ∀ provider context digest port terminal,
      candidate.spec.runtime = .container provider context digest port terminal →
      ∀ objectKey ∈ contextObjectKey tables call.courseId context,
        validRelativePath objectKey = true ∧
          validRelativePath config.containerBuild.dockerfilePath = true ∧
          validOciDigest digest = true

variable {call}

variable {tables}

variable {config}

variable {terminal : Option TerminalSpec} {command : Option AgentBuildRequested}

/- The decision succeeds when its reason and the schema do, and the build is emitted. -/
theorem decideCandidate_eq_ok_iff [DecidableEq δ] {schemaSha256 : δ}
    {approval : CandidateApproval}
    (hFirst : FirstApproval config tables call schemaSha256 candidate) :
    decideCandidate config tables call = .ok (approval, command) ↔
      trimIsEmpty call.reason = false ∧ schemaSha256 = config.environmentSchemaSha256 ∧
        call.approval = approval ∧
        emitBuild config tables call (environmentRow call.courseId schemaSha256 candidate) =
          .ok command := by
  have hExpected := hFirst.expected
  simp only [decideCandidate, steps_eq_ok, Prod.mk.injEq, hFirst.stored,
    hFirst.active, hFirst.first, Option.some.injEq, exists_eq_left', hFirst.environment,
    hFirst.approved, if_true, and_self, hFirst.trust, true_and, and_true]
  constructor
  · rintro ⟨⟨hReason, _⟩, _, hMatch, emitted, hEmit, hApproval, rfl⟩
    exact ⟨hReason, hMatch.2.2, hApproval, hEmit⟩
  · rintro ⟨hReason, hSchema, hApproval, hEmit⟩
    exact ⟨⟨hReason, hExpected⟩, rfl, ⟨hFirst.revision.symm, hFirst.policy, hSchema⟩, command,
      hEmit, hApproval, rfl⟩

theorem emitBuild_container_iff {provider digest : String} {port : Nat}
    {schemaSha256 : δ} (hValid : candidate.validate = true)
    (hRuntime : candidate.spec.runtime = .container provider context digest port terminal)
    (hKey : contextObjectKey tables call.courseId context = some objectKey) :
    emitBuild config tables call (environmentRow call.courseId schemaSha256 candidate) =
      .ok command ↔ (buildCommand config call candidate context objectKey digest).Valid ∧
        some (buildCommand config call candidate context objectKey digest) = command := by
  simp only [emitBuild, environmentRow, steps_eq_ok, Option.some.injEq, exists_eq_left', hValid,
    true_and, hRuntime, hKey]
  constructor
  · rintro ⟨_, hCommand, hEq⟩
    exact ⟨hCommand, hEq⟩
  · rintro ⟨hCommand, hEq⟩
    exact ⟨hCommand.1, hCommand, hEq⟩

/- Exactly the approvable candidates get their command. -/
theorem validated_candidate_approvable_iff [DecidableEq δ] (config : ControlConfig δ)
    (tables : ControlTables δ) (call : DecideCall) (schemaSha256 : δ)
    (candidate : EnvironmentCandidate) (hConfig : config.validate = true)
    (hFirst : FirstApproval config tables call schemaSha256 candidate) :
    Accepts config tables call ↔ Approvable config tables call schemaSha256 candidate := by
  have hPolicy := accepted_of_validate hConfig
  simp only [Accepts, decideCandidate_eq_ok_iff hFirst, Approvable]
  cases hRuntime : candidate.spec.runtime with
  | virtualMachine provider disk storage port =>
    have hEmit : emitBuild config tables call (environmentRow call.courseId schemaSha256
        candidate) = .ok none := by
      simp [emitBuild, environmentRow, require, ensure, hFirst.valid, hRuntime, bind, Except.bind]
    constructor
    · rintro ⟨_, _, ⟨hReason, hSchema, _⟩, _⟩
      refine ⟨hReason, hSchema, ?_⟩
      rintro _ _ _ _ _ ⟨⟩
    · rintro ⟨hReason, hSchema, _⟩
      refine ⟨_, none, ⟨hReason, hSchema, rfl, hEmit⟩, ?_⟩
      rintro build ⟨⟩
  | container provider context digest port terminal =>
    rcases hFirst.packaged _ _ _ _ _ hRuntime with ⟨objectKey, hKey⟩
    have hSize : context.sizeBytes ≠ 0 := by
      have hValid := hFirst.valid
      simp only [EnvironmentCandidate.validate, EnvironmentSpec.validate,
        EnvironmentSpec.validateRuntime, hRuntime, ArtifactRef.validate, Bool.and_eq_true,
        bne_iff_ne] at hValid
      exact hValid.1.2.1.2.2
    have hValid :=
      buildCommand_valid_iff objectKey digest hPolicy hSize hFirst.approved hFirst.revision
    simp only [emitBuild_container_iff hFirst.valid hRuntime hKey]
    constructor
    · rintro ⟨_, command, ⟨hReason, hSchema, _, hEmitted⟩, _⟩
      refine ⟨hReason, hSchema, ?_⟩
      rintro _ _ _ _ _ ⟨⟩
      intro key hFound
      cases hKey.symm.trans hFound
      exact hValid.mp hEmitted.1
    · rintro ⟨hReason, hSchema, hParts⟩
      have hCommand := hValid.mpr (hParts _ _ _ _ _ rfl objectKey hKey)
      refine ⟨_, _, ⟨hReason, hSchema, rfl, hCommand, rfl⟩, ?_⟩
      rintro build ⟨⟩
      refine ⟨hCommand, ?_⟩
      intro execution hExecution
      exact ⟨_, repository_accepted hPolicy execution hExecution⟩

-- A Base Image Without A Digest

def sampleConfig : ControlConfig Nat where
  packageObjectPrefix := "packages"
  uploadTtlSeconds := 60
  completionLeaseSeconds := 60
  maxPackageFiles := 10
  maxPackageBytes := 1000
  retentionSeconds := 60
  sseRetentionSeconds := 60
  trustRevision := .one
  environmentSchemaSha256 := 1
  evaluationSchemaSha256 := 2
  containerBuild :=
    { builderBinding := "b", outputRepositoryPrefix := "r/p/", dockerfilePath := "D"
      network := .denyAll, maxDurationMilliseconds := 1, maxCpuMillicores := 1
      maxMemoryBytes := 1 }
  virtualMachineBase :=
    { providerBinding := "v", storageClassBinding := "s"
      baseDisk :=
        { binding := "d"
          sourceRegistryDigest :=
            "docker://d@sha256:0000000000000000000000000000000000000000000000000000000000000000"
          capacityBytes := 1 } }
  evaluationRuntime :=
    { providerBinding := "evaluation"
      runnerImage := "r@sha256:0000000000000000000000000000000000000000000000000000000000000000" }

def sampleContext : ArtifactRef where
  artifactId := ⟨1⟩
  storeBinding := "s"
  objectVersion := "1"
  sizeBytes := 1
  mediaType := "t"

def sampleCandidate (baseImageDigest : String) : EnvironmentCandidate where
  id := ⟨2⟩
  revision := .one
  spec :=
    { name := "n", resources := ⟨1, 1, 1⟩, network := .denyAll, entries := [⟨"e", .http, 80⟩]
      rootFilesystemPolicy := .readOnlyRequired, securityProfileBinding := "p"
      runtime := .container "c" sampleContext baseImageDigest 80 none }
  policyRevision := .one
  model := "m"

def sampleTables (baseImageDigest : String) : ControlTables Nat where
  candidates := [environmentRow ⟨3⟩ 1 (sampleCandidate baseImageDigest)]
  activePolicy := fun _ => some .one
  approvals := []
  files := [⟨⟨1⟩, "1", ⟨3⟩, true, true, "packages/1"⟩]

def sampleCall : DecideCall where
  courseId := ⟨3⟩
  candidateId := ⟨2⟩
  environment := true
  candidateRevision := .one
  policyRevision := .one
  trustRevision := .one
  decision := .approved
  reason := "r"
  expectedRevision := .one
  approvalId := ⟨4⟩
  buildRequestId := ⟨5⟩

theorem sampleCall_first (digest : String) (hValid : (sampleCandidate digest).validate = true) :
    FirstApproval sampleConfig (sampleTables digest) sampleCall 1 (sampleCandidate digest) where
  stored := rfl
  valid := hValid
  environment := rfl
  approved := rfl
  revision := rfl
  expected := rfl
  policy := rfl
  active := rfl
  trust := rfl
  first := rfl
  packaged := by
    rintro provider context digest port terminal ⟨⟩
    exact ⟨_, rfl⟩

def pinnedDigest : String :=
  "sha256:0000000000000000000000000000000000000000000000000000000000000000"

theorem validated_candidate_approvable_pinned :
    Accepts sampleConfig (sampleTables pinnedDigest) sampleCall := by
  have hConfig : sampleConfig.validate = true := by decide
  have hFirst := sampleCall_first pinnedDigest (by decide)
  refine (validated_candidate_approvable_iff _ _ _ _ _ hConfig hFirst).mpr ⟨by decide, rfl, ?_⟩
  rintro provider context digest port terminal ⟨⟩
  rintro objectKey ⟨⟩
  decide

/- A base image that is named by a tag is accepted as a candidate and cannot be approved. -/
theorem validated_candidate_refused : sampleConfig.validate = true ∧
    FirstApproval sampleConfig (sampleTables "u:1") sampleCall 1 (sampleCandidate "u:1") ∧
    decideCandidate sampleConfig (sampleTables "u:1") sampleCall = .error .contractInvalid ∧
    ¬Accepts sampleConfig (sampleTables "u:1") sampleCall := by
  have hConfig : sampleConfig.validate = true := by decide
  have hRefused : decideCandidate sampleConfig (sampleTables "u:1") sampleCall =
      .error .contractInvalid := by
    decide
  refine ⟨hConfig, sampleCall_first _ (by decide), hRefused, ?_⟩
  rintro ⟨approval, command, hOk, _⟩
  cases hRefused.symm.trans hOk

end LabWeaver.Control
