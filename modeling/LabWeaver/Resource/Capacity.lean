import LabWeaver.Resource.Store
import Mathlib.Logic.Relation

/-
  This file models the Kubernetes objects that hold the capacity of a claim: the plan, and the
  check that an object in the cluster is the one the plan names. The plan writes the revision of
  the claim into the objects, and every transition of the claim moves it on.

  Main declaration: `shell_verified_iff`.
-/

namespace LabWeaver

open Outcome

-- Errors And Configuration

inductive CapacityProviderError where
| configuration
| bindingMismatch
| plan
| gpuUnsupported
| identityMismatch
| readback
| rejected
| unavailable
| handoffFence
| handoffRejected
| leaseSyncRejected
| cleanupRejected
| releasePending
deriving DecidableEq

def CapacityProviderError.diagnostic : CapacityProviderError → String
| .configuration => "LW_RESOURCE_CAPACITY_PROVIDER_CONFIGURATION_INVALID"
| .bindingMismatch => "LW_RESOURCE_CAPACITY_PROVIDER_BINDING_MISMATCH"
| .plan => "LW_RESOURCE_CAPACITY_PLAN_INVALID"
| .gpuUnsupported => "LW_RESOURCE_CAPACITY_EXHAUSTED"
| .identityMismatch => "LW_RESOURCE_CAPACITY_IDENTITY_MISMATCH"
| .readback => "LW_RESOURCE_CAPACITY_READBACK_INVALID"
| .rejected => "LW_RESOURCE_CAPACITY_REJECTED"
| .unavailable => "LW_RESOURCE_CAPACITY_UNAVAILABLE"
| .handoffFence => "LW_RESOURCE_ENVIRONMENT_HANDOFF_FENCE_INVALID"
| .handoffRejected => "LW_RESOURCE_ENVIRONMENT_HANDOFF_REJECTED"
| .leaseSyncRejected => "LW_RESOURCE_ENVIRONMENT_LEASE_SYNC_REJECTED"
| .cleanupRejected => "LW_RESOURCE_ENVIRONMENT_CLEANUP_REJECTED"
| .releasePending => "LW_RESOURCE_CAPACITY_RELEASE_PENDING"

/- A map of labels; the first entry of a key counts. -/
abbrev Labels := List (String × String)

/- Whether the server has an address over HTTPS and the files have absolute paths is given, not
  computed. -/
structure KubernetesCapacityProviderConfiguration where
  binding : String
  (serverUsable filesAbsolute : Bool)
  requestTimeoutMilliseconds : Nat
  namespaceLabels : Labels

namespace KubernetesCapacityProviderConfiguration

def wellFormed (configuration : KubernetesCapacityProviderConfiguration) : Prop :=
  labelText configuration.binding ∧ configuration.serverUsable = true ∧
  configuration.filesAbsolute = true ∧ 1 ≤ configuration.requestTimeoutMilliseconds ∧
  configuration.requestTimeoutMilliseconds ≤ 30000 ∧
  ∀ entry ∈ configuration.namespaceLabels, boundedText 253 entry.1 ∧ boundedText 63 entry.2
deriving Decidable

end KubernetesCapacityProviderConfiguration

-- Documents

def decimalText (n : Nat) : String := String.ofList (Nat.toDigits 10 n)

theorem decimalText_inj {n m : Nat} (hText : decimalText n = decimalText m) : n = m := by
  have hDigits : Nat.toDigits 10 n = Nat.toDigits 10 m := by
    have hList := congrArg String.toList hText
    rwa [decimalText, decimalText, String.toList_ofList, String.toList_ofList] at hList
  rw [← Nat.ofDigitChars_ten_toDigits (n := n), hDigits, Nat.ofDigitChars_ten_toDigits]

/- The fields of a Kubernetes object that are compared. -/
structure KubernetesDocument where
  (kind name : String)
  (labels annotations : Labels)
  hard : Option Labels
deriving DecidableEq

/- The pointers into an object that are compared. -/
inductive DocumentPointer where
| name
| label (key : String)
| annotationKey (key : String)
deriving DecidableEq

def KubernetesDocument.pointer (document : KubernetesDocument) : DocumentPointer → Option String
| .name => some document.name
| .label key => document.labels.lookup key
| .annotationKey key => document.annotations.lookup key

def managedByLabel : String := "labweaver.io/managed-by"

def environmentIdLabel : String := "labweaver.io/environment-id"

def capacityClaimIdLabel : String := "labweaver.io/capacity-claim-id"

def claimRevisionAnnotationKey : String := "labweaver.io/capacity-claim-revision"

def providerBindingAnnotationKey : String := "labweaver.io/provider-binding"

/- What identifies the object of a claim. -/
def documentFence : List DocumentPointer :=
  [.name, .label managedByLabel, .label environmentIdLabel, .label capacityClaimIdLabel,
    .annotationKey claimRevisionAnnotationKey, .annotationKey providerBindingAnnotationKey]

def verifyDocument (actual expected : KubernetesDocument) : Except CapacityProviderError Unit := do
  ensure (∀ pointer ∈ documentFence, actual.pointer pointer = expected.pointer pointer)
    .identityMismatch
  ensure (expected.kind = "ResourceQuota" → actual.hard = expected.hard) .identityMismatch

-- Plans

/- The states of a claim that a plan can be built in. -/
def CapacityClaimState.planned : CapacityClaimState → Bool
| .reserved | .provisioning | .blocked | .handedOff
| .releasing => true
| .ready | .released => false

structure KubernetesQuotaShellPlan where
  (binding namespaceName : String)
  claimId : CapacityClaimId
  claimRevision : Revision
  (namespaceDocument quotaDocument : KubernetesDocument)
deriving DecidableEq

namespace KubernetesQuotaShellPlan

def namespaceOf (request : ResourceRequest) : String :=
  "lw-env-" ++ uuidText request.target.environmentId.uuid

variable (configuration : KubernetesCapacityProviderConfiguration) (request : ResourceRequest)
  (claim : CapacityClaim)

/- The three labels take the place of configured ones. -/
def labelsOf : Labels :=
  (capacityClaimIdLabel, uuidText claim.id.uuid) :: (environmentIdLabel,
    uuidText request.target.environmentId.uuid) ::
    (managedByLabel, "resource-service") ::
    configuration.namespaceLabels

def annotationsOf : Labels :=
  [(claimRevisionAnnotationKey, decimalText claim.revision.get),
    (providerBindingAnnotationKey, claim.providerBinding)]

def hardOf : Labels :=
  let quota := claim.quotaResources
  let cpu := decimalText quota.cpuMillicores ++ "m"
  let memory := decimalText quota.memoryBytes
  [("requests.cpu", cpu), ("limits.cpu", cpu),
    ("requests.memory", memory), ("limits.memory", memory),
    ("requests.storage", decimalText quota.storageBytes),
    ("persistentvolumeclaims", "1"), ("pods", "2")]

def planOf : KubernetesQuotaShellPlan :=
  let labels := labelsOf configuration request claim
  { binding := configuration.binding, namespaceName := namespaceOf request, claimId := claim.id
    claimRevision := claim.revision
    namespaceDocument :=
      { kind := "Namespace", name := namespaceOf request, labels
        annotations := annotationsOf claim, hard := none }
    quotaDocument :=
      { kind := "ResourceQuota", name := "resource-quota", labels
        annotations := annotationsOf claim, hard := some (hardOf claim) } }

def fromClaim : Except CapacityProviderError
    KubernetesQuotaShellPlan := do
  ensure configuration.wellFormed .configuration
  request.validate.mapError (fun _ => .plan)
  claim.validate.mapError (fun _ => .plan)
  ensure (claim.providerBinding = configuration.binding ∧ claim.requestId = request.id)
    .bindingMismatch
  ensure (claim.state.planned = true) .plan
  ensure (claim.quotaResources.gpu = none ∧ claim.workloadResources.gpu = none) .gpuUnsupported
  ensure (labelText (namespaceOf request)) .plan
  .ok (planOf configuration request claim)

variable {configuration : KubernetesCapacityProviderConfiguration} {claim : CapacityClaim}
  {request : ResourceRequest}

theorem fromClaim_eq_ok {plan : KubernetesQuotaShellPlan}
    (hPlan : fromClaim configuration request claim = .ok plan) :
    claim.requestId = request.id ∧ plan = planOf configuration request claim := by
  simp only [fromClaim, steps_eq_ok] at hPlan
  rcases hPlan with ⟨_, _, _, _, _, ⟨_, hRequest⟩, _, _, _, rfl⟩
  exact ⟨hRequest, rfl⟩

end KubernetesQuotaShellPlan

-- The Progress Of A Claim

/- The claims that any number of transitions lead to. -/
def ClaimProgress : CapacityClaim → CapacityClaim → Prop :=
  Relation.ReflTransGen (fun claim next => ∃ state, transitionClaim claim state = .ok next)

theorem transitionClaim_eq_ok {next : CapacityClaim} {state : CapacityClaimState}
    (hMove : transitionClaim claim state = .ok next) :
    ∃ revision, revision.get = claim.revision.get + 1 ∧ next =
        { claim with state, revision } := by
  simp only [transitionClaim, steps_eq_ok, Revision.next_eq_some] at hMove
  rcases hMove with ⟨_, revision, hRevision, rfl⟩
  exact ⟨revision, hRevision, rfl⟩

namespace ClaimProgress

variable {claim later : CapacityClaim}

theorem identity_eq (hProgress : ClaimProgress claim later) : later.id = claim.id ∧
    later.providerBinding = claim.providerBinding := by
  induction hProgress with
  | refl => exact ⟨rfl, rfl⟩
  | tail _ hMove ih =>
    rcases hMove with ⟨state, hMove⟩
    rcases transitionClaim_eq_ok hMove with ⟨_, _, rfl⟩
    exact ih

theorem revision_le (hProgress : ClaimProgress claim later) : later = claim ∨
    claim.revision.get < later.revision.get := by
  induction hProgress with
  | refl => exact .inl rfl
  | tail _ hMove ih =>
    rcases hMove with ⟨state, hMove⟩
    rcases transitionClaim_eq_ok hMove with ⟨revision, hRevision, rfl⟩
    right
    show claim.revision.get < revision.get
    rcases ih with hSame | hLess
    · rw [hRevision, hSame]
      omega
    · omega

end ClaimProgress

-- Recognising A Shell

open KubernetesQuotaShellPlan

/- What the fence of two namespaces says. -/
theorem verifyDocument_namespace_iff {laterRequest : ResourceRequest} {later : CapacityClaim} :
    verifyDocument (planOf configuration request claim).namespaceDocument
      (planOf configuration laterRequest later).namespaceDocument = .ok () ↔
      namespaceOf request = namespaceOf laterRequest ∧
      uuidText request.target.environmentId.uuid = uuidText laterRequest.target.environmentId.uuid ∧
      uuidText claim.id.uuid = uuidText later.id.uuid ∧ claim.revision.get = later.revision.get ∧
      claim.providerBinding = later.providerBinding := by
  simp only [verifyDocument, check_bind_eq_ok, ensure_eq_ok]
  constructor
  · rintro ⟨hFence, _⟩
    have hName := hFence .name (by decide)
    have hEnvironment := hFence (.label environmentIdLabel) (by decide)
    have hClaim := hFence (.label capacityClaimIdLabel) (by decide)
    have hRevision := hFence (.annotationKey claimRevisionAnnotationKey) (by decide)
    have hBinding := hFence (.annotationKey providerBindingAnnotationKey) (by decide)
    have hDigits : decimalText claim.revision.get = decimalText later.revision.get :=
      Option.some.inj hRevision
    exact ⟨Option.some.inj hName, Option.some.inj hEnvironment, Option.some.inj hClaim,
      decimalText_inj hDigits, Option.some.inj hBinding⟩
  · rintro ⟨hName, hEnvironment, hClaim, hRevision, hBinding⟩
    have hKind : ¬"Namespace" = "ResourceQuota" := by
      decide
    refine ⟨?_, fun hQuota => absurd hQuota hKind⟩
    have hLabels : labelsOf configuration request claim =
        labelsOf configuration laterRequest later := by
      unfold labelsOf
      rw [hEnvironment, hClaim]
    have hAnnotations : annotationsOf claim = annotationsOf later := by
      unfold annotationsOf
      rw [hRevision, hBinding]
    intro pointer _
    cases pointer with
    | name => exact congrArg some hName
    | label key => exact congrArg (List.lookup key) hLabels
    | annotationKey key => exact congrArg (List.lookup key) hAnnotations

/- The namespace that a claim created is recognised by a later plan exactly if the claim has made no
  transition in between. -/
theorem shell_verified_iff {configuration : KubernetesCapacityProviderConfiguration}
    {request laterRequest : ResourceRequest} {claim later : CapacityClaim}
    {plan laterPlan : KubernetesQuotaShellPlan} (hTarget : laterRequest.target = request.target)
    (hProgress : ClaimProgress claim later)
    (hPlan : fromClaim configuration request claim = .ok plan)
    (hLater : fromClaim configuration laterRequest later = .ok laterPlan) :
    verifyDocument plan.namespaceDocument laterPlan.namespaceDocument = .ok () ↔ later = claim := by
  rcases fromClaim_eq_ok hPlan with ⟨_, rfl⟩
  rcases fromClaim_eq_ok hLater with ⟨_, rfl⟩
  rcases hProgress.identity_eq with ⟨hId, hBinding⟩
  rw [verifyDocument_namespace_iff]
  constructor
  · rintro ⟨_, _, _, hRevision, _⟩
    rcases hProgress.revision_le with hSame | hLess
    · exact hSame
    · omega
  · intro hSame
    subst hSame
    unfold namespaceOf
    rw [hTarget]
    exact ⟨rfl, rfl, rfl, rfl, rfl⟩

-- A Shell

namespace ShellSample

def revision (n : Nat) : Revision := (Revision.new n).getD Revision.one

def configuration : KubernetesCapacityProviderConfiguration where
  binding := "kubernetes-standard"
  serverUsable := true
  filesAbsolute := true
  requestTimeoutMilliseconds := 5000
  namespaceLabels := [("team", "labs")]

def resources : WorkloadResources where
  cpuMillicores := 500
  memoryBytes := 512
  storageBytes := 1024
  gpu := none

def request : ResourceRequest where
  id := ⟨21⟩
  generation := 1
  requestKey := "workbench-1"
  requesterId := ⟨22⟩
  courseId := ⟨23⟩
  projectId := none
  target := { environmentId := ⟨24⟩, releaseId := ⟨25⟩, releaseVersion := 1 }
  requestedResources := resources
  requestedDurationSeconds := 600
  state := .allocating
  revision := revision 2
  createdAt := 1000
  updatedAt := 2000
  diagnosticCode := none

/- The claim when its namespace is created. -/
def claim : CapacityClaim where
  id := ⟨26⟩
  requestId := request.id
  approvalId := ⟨27⟩
  providerBinding := "kubernetes-standard"
  workloadResources := resources
  quotaResources := resources
  state := .provisioning
  revision := revision 2

/- It is claimed again after the worker was lost. -/
def recovered : CapacityClaim := { claim with revision := revision 4 }

/- The quota could not be created. -/
def blocked : CapacityClaim := { claim with state := .blocked, revision := revision 3 }

end ShellSample

open ShellSample

/- The same claim finds its namespace again. -/
theorem shell_verified_sample : verifyDocument (planOf configuration request
      claim).namespaceDocument
    (planOf configuration { request with state := .active } claim).namespaceDocument = .ok () := by
  have hPlan : fromClaim configuration request claim = .ok
      (planOf configuration request claim) := by
    decide
  have hLater : fromClaim configuration { request with state := .active } claim =
    .ok (planOf configuration { request with state := .active } claim) := by
    decide
  have hProgress : ClaimProgress claim claim := .refl
  exact (shell_verified_iff rfl hProgress hPlan hLater).mpr rfl

/- After the recovery of a lost worker, and after a failed provisioning, the namespace of the claim
  is not recognised any more. -/
theorem shell_lost_on_recovery : (∃ plan later, ClaimProgress claim recovered ∧
      fromClaim configuration request claim = .ok plan ∧
      fromClaim configuration request recovered = .ok later ∧
      verifyDocument plan.namespaceDocument later.namespaceDocument = .error .identityMismatch) ∧
    ∃ plan later, ClaimProgress claim blocked ∧ fromClaim configuration request claim = .ok plan ∧
      fromClaim configuration request blocked = .ok later ∧
      verifyDocument plan.namespaceDocument later.namespaceDocument = .error .identityMismatch := by
  refine ⟨⟨_, _, ?_, rfl, rfl, ?_⟩, ⟨_, _, ?_, rfl, rfl, ?_⟩⟩
  · refine .tail (.single ⟨.reserved, rfl⟩) ⟨.provisioning, ?_⟩
    rfl
  · decide
  · exact .single ⟨.blocked, rfl⟩
  · decide

end LabWeaver
