import Mathlib.Data.List.Defs
import LabWeaver.Contracts.Foundation

/-
  This file models the rules that select the files of a submission, and the contracts of image
  builds.

  Key definitions: `SubmissionManifest`, `BuildRequest`.
-/

namespace LabWeaver

-- Paths

/- The characters that a path must not contain. -/
def pathForbidden (c : Char) : Bool :=
  c == '\\' || c.toNat == 0 || c == '*' || c == '?' || c == '[' || c == '\x7b'

/- The second byte of the path is a colon. A character outside ASCII takes more than one byte, none
  of them a colon. -/
def driveLetter : List Char → Bool
| c :: ':' :: _ => c.toNat < 128
| _ => false

def validRelativePath (path : String) : Bool :=
  let chars := path.toList
  !path.isEmpty && path.utf8ByteSize ≤ 1024 && chars.head? != some '/' &&
    !chars.any pathForbidden &&
    (chars.splitOn '/').all (fun part => part != [] && part != ['.'] && part != ['.', '.']) &&
    !driveLetter chars

def pathBelow (directory path : String) : Bool := (directory.toList ++ ['/']).isPrefixOf path.toList

/- A selector of one file or of a whole directory. -/
inductive PathRule where
| exactFile (path : String)
| directoryTree (path : String)
deriving DecidableEq

namespace PathRule

def path : PathRule → String
| .exactFile path | .directoryTree path => path

/- Every path that the second rule selects is selected by the first. -/
def covers (parent child : PathRule) : Bool :=
  decide (parent = child) ||
    match parent with
    | .exactFile _ => false
    | .directoryTree path => pathBelow path child.path

end PathRule

-- Manifests

inductive SubmissionSource where
| workspace
| systemFacts
deriving DecidableEq

structure SubmissionManifest where
  name : String
  source : SubmissionSource
  (includes excludes required llmReadable : List PathRule)
  (maxTotalBytes maxFiles : Nat)
  followSymlinks : Bool

/- The rules are distinct, and none covers another. -/
def rulesDisjoint (rules : List PathRule) : Prop :=
  rules.Nodup ∧ rules.Pairwise (fun left right =>
    left.covers right = false ∧ right.covers left = false)
deriving Decidable

namespace SubmissionManifest

variable (manifest : SubmissionManifest)

def collects (rule : PathRule) : Bool :=
  manifest.includes.any (·.covers rule) && !manifest.excludes.any (·.covers rule)

/- The checks of `SubmissionManifest::validate`. -/
def Valid : Prop :=
  trimIsEmpty manifest.name = false ∧ manifest.includes ≠ [] ∧ manifest.maxTotalBytes ≠ 0 ∧
  manifest.maxFiles ≠ 0 ∧ manifest.followSymlinks = false ∧
  manifest.maxTotalBytes ≤ 10 * 1024 * 1024 * 1024 ∧ manifest.maxFiles ≤ 100000 ∧
  (manifest.includes ++ manifest.excludes ++ manifest.required ++ manifest.llmReadable).all
    (fun rule => validRelativePath rule.path) = true ∧
  rulesDisjoint manifest.includes ∧ rulesDisjoint manifest.excludes ∧
  rulesDisjoint manifest.required ∧ rulesDisjoint manifest.llmReadable ∧
  manifest.required.all manifest.collects = true ∧
  manifest.llmReadable.all manifest.collects = true ∧
  (manifest.source = .systemFacts → manifest.llmReadable = [])
deriving Decidable

end SubmissionManifest

structure FrozenFile where
  path : String
  sizeBytes : Nat
  mediaType : String
deriving DecidableEq

-- Digests

/- The text `sha256:`. -/
def ociDigestScheme : List Char := ['s', 'h', 'a', '2', '5', '6', ':']

/- `byte.is_ascii_hexdigit()` and not upper case. -/
def lowerHexDigit (c : Char) : Bool := c.isDigit || ('a' ≤ c && c ≤ 'f')

/- `validate_oci_digest`. The characters it admits take one byte each, so that they may be counted
  instead of the bytes. -/
def validOciDigest (value : String) : Bool :=
  ociDigestScheme.isPrefixOf value.toList && (value.toList.drop 7).length == 64 &&
    (value.toList.drop 7).all lowerHexDigit

-- Requests

inductive BuildNetworkPolicy where
| denyAll
| restricted (allowedRegistries : List String)
deriving DecidableEq

structure BuildRequest where
  id : BuildRequestId
  courseId : CourseId
  candidateId : CandidateId
  candidateRevision : Revision
  approvalId : ApprovalId
  builderBinding : String
  context : ArtifactRef
  (contextObjectKey dockerfilePath baseImageDigest outputRepository : String)
  network : BuildNetworkPolicy
  (maxDurationMilliseconds maxCpuMillicores maxMemoryBytes : Nat)
deriving DecidableEq

def BuildNetworkPolicy.Valid : BuildNetworkPolicy → Prop
| .denyAll => True
| .restricted registries => registries ≠ [] ∧ registries.all (fun name => !trimIsEmpty name) = true

instance BuildNetworkPolicy.decidableValid (network : BuildNetworkPolicy) :
    Decidable network.Valid :=
  match network with
  | .denyAll => inferInstanceAs (Decidable True)
  | .restricted _ => inferInstanceAs (Decidable (_ ∧ _))

def BuildRequest.Valid (request : BuildRequest) : Prop :=
  trimIsEmpty request.builderBinding = false ∧ trimIsEmpty request.outputRepository = false ∧
  request.maxDurationMilliseconds ≠ 0 ∧ request.maxCpuMillicores ≠ 0 ∧ request.maxMemoryBytes ≠ 0 ∧
  request.context.sizeBytes ≠ 0 ∧ validRelativePath request.contextObjectKey = true ∧
  validRelativePath request.dockerfilePath = true ∧ validOciDigest request.baseImageDigest = true ∧
  request.network.Valid
deriving Decidable

-- Commands

inductive CandidateDecision where
| approved
| rejected
| withdrawn
deriving DecidableEq

structure CandidateApproval where
  id : ApprovalId
  candidateId : CandidateId
  candidateRevision : Revision
  decision : CandidateDecision
deriving DecidableEq

structure AgentBuildRequested where
  request : BuildRequest
  approval : CandidateApproval
  idempotencyKey : String
deriving DecidableEq

def AgentBuildRequested.Valid (command : AgentBuildRequested) : Prop :=
  command.request.Valid ∧ command.approval.decision = .approved ∧
  command.approval.id = command.request.approvalId ∧
  command.approval.candidateId = command.request.candidateId ∧
  command.approval.candidateRevision = command.request.candidateRevision ∧
  16 ≤ command.idempotencyKey.utf8ByteSize ∧ command.idempotencyKey.utf8ByteSize ≤ 128 ∧
  tokenText command.idempotencyKey = true
deriving Decidable

structure ImageArtifact where
  id : ImageArtifactId
  buildRequestId : BuildRequestId
  (repository digest : String)
deriving DecidableEq

/- `ImageArtifact::validate` on a container. -/
def ImageArtifact.Valid (artifact : ImageArtifact) : Prop :=
  trimIsEmpty artifact.repository = false ∧
  "http://".toList.isPrefixOf artifact.repository.toList = false ∧
  artifact.repository.toList.contains '@' = false ∧
  artifact.repository.toList.any isWhiteSpace = false ∧ validOciDigest artifact.digest = true
deriving Decidable

end LabWeaver
