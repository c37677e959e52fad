import LabWeaver.Environment.Reconciler

/-
  This file models the two Providers. A Provider carries one action to its backend under a fence,
  and turns the answer into the observation that the lifecycle applies. The release resolver, the
  resource plan, the backend and the observation store are parameters, as in the source.

  Key definitions: `BackendFence.forAction`, `dispatch`.
-/

namespace LabWeaver

open Outcome

-- Fences

/- The document whose canonical hash is the request identifier of one Provider call. -/
structure FenceDocument where
  protocolVersion : Nat
  environmentId : EnvironmentId
  operationId : OperationId
  (providerStep generation attempt : Nat)
  action : ReconcileAction
deriving DecidableEq

/- The operation identity carried across the remote boundary. The source calls `generation` the
  operation generation for containers and the environment generation for KubeVirt. -/
structure BackendFence (δ : Type) where
  protocolVersion : Nat
  environmentId : EnvironmentId
  operationId : OperationId
  (providerStep generation attempt : Nat)
  action : ReconcileAction
  requestId : δ
  traceId : String
  deadlineAt : UtcTimestamp

def containerBackendProtocolVersion : Nat := 2

def kubeVirtBackendProtocolVersion : Nat := 1

namespace BackendFence

variable {δ : Type}

/- The document that the request identifier hashes. -/
def document (fence : BackendFence δ) : FenceDocument where
  protocolVersion := fence.protocolVersion
  environmentId := fence.environmentId
  operationId := fence.operationId
  providerStep := fence.providerStep
  generation := fence.generation
  attempt := fence.attempt
  action := fence.action

/- `for_action`, with the SHA-256 of the canonical form of a document as the parameter `digest`. -/
def forAction (digest : FenceDocument → δ) (protocolVersion : Nat) (env : EnvironmentInstance)
    (action : ReconcileAction) : BackendFence δ where
  protocolVersion := protocolVersion
  environmentId := env.id
  operationId := env.operation.id
  providerStep := env.operation.providerStep
  generation := env.generation
  attempt := env.operation.attempt
  action := action
  requestId := digest
    { protocolVersion, environmentId := env.id,
      operationId := env.operation.id, providerStep := env.operation.providerStep,
      generation := env.generation, attempt := env.operation.attempt, action }
  traceId := env.operation.traceId
  deadlineAt := env.operation.deadlineAt

end BackendFence

-- Failures And Observations

inductive ReleaseProjectionError where
| configurationInvalid
| notFound
| contractInvalid
| identityMismatch
| securityPostureInvalid
| withdrawn
| evidenceExpired
| trustRevisionMismatch
| persistenceFailed
| database
deriving DecidableEq

def unavailable : ProviderFailure where
  code := .unavailable
  retryable := true

def invalidObservation : ProviderFailure where
  code := .observationInvalid
  retryable := false

def rejectedAction : ProviderFailure where
  code := .rejected
  retryable := false

def cleanupFailed : ProviderFailure where
  code := .cleanupFailed
  retryable := true

def projectionFailure : ReleaseProjectionError → ProviderFailure
| .database | .persistenceFailed | .notFound => unavailable
| .configurationInvalid | .contractInvalid
| .identityMismatch | .securityPostureInvalid | .withdrawn
| .evidenceExpired | .trustRevisionMismatch => rejectedAction

def validArtifactRef (artifact : ArtifactRef) : Bool :=
  0 < artifact.sizeBytes && !trimIsEmpty artifact.storeBinding &&
    !trimIsEmpty artifact.objectVersion &&
    !trimIsEmpty artifact.mediaType &&
    !artifact.storeBinding.toList.any isAsciiWhitespace

def noEndpoints (nextState : ObservedEnvironmentState)
    (operationComplete : Bool) : ProviderObservation where
  nextState := nextState
  endpoints := []
  cleanupEvidence := none
  operationComplete := operationComplete

def deletedObservation (cleanupEvidence : ArtifactRef) : ProviderObservation where
  nextState := .deleted
  endpoints := []
  cleanupEvidence := some cleanupEvidence
  operationComplete := true

/- The single healthy endpoint of a ready environment. -/
def readyEndpoint (env : EnvironmentInstance) (mask : BitVec 128) (protocol : EndpointProtocol)
    (revision : Revision) (observedAt : UtcTimestamp) : EnvironmentEndpoint where
  id := ⟨env.id.uuid ^^^ mask⟩
  protocol := protocol
  revision := revision
  health := .healthy
  observedAt := observedAt

/- A runtime that is not ready keeps the environment provisioning; a ready one reports an endpoint
  at the next revision. -/
def readyObservation (env : EnvironmentInstance) (mask : BitVec 128) (protocol : EndpointProtocol)
    (ready : Bool) (observedAt : UtcTimestamp) : Except ProviderFailure ProviderObservation :=
  if ready then do
    let revision ← require env.revision.next invalidObservation
    .ok
      { nextState := .ready, endpoints := [readyEndpoint env mask protocol revision observedAt],
        cleanupEvidence := none, operationComplete := true }
  else .ok (noEndpoints .provisioning false)

-- Dispatch

/- The backend calls that answer with a running workload. -/
inductive RunningCall where
| apply
| observe
| start
| restart

/- The arms that both Providers share once the release is planned, with the calls of the Provider
  as parameters. -/
def dispatch (action : ReconcileAction) (observed : ObservedEnvironmentState)
    (running : RunningCall → Except ProviderFailure ProviderObservation)
    (stop : Except ProviderFailure Unit) : Except ProviderFailure ProviderObservation :=
  match action, observed with
  | .validate, .requested => .ok (noEndpoints .validating false)
  | .validate, .validating => .ok (noEndpoints .building false)
  | .build, .building => .ok (noEndpoints .provisioning false)
  | .provision, .provisioning
  | .reset, .provisioning => running .apply
  | .observe, _ => running .observe
  | .start, .stopped => running .start
  | .restart, .provisioning => running .restart
  | .stop, .stopping
  | .stop, .expiring => do
      stop
      .ok (noEndpoints .stopped true)
  | _, _ => .error rejectedAction

-- Containers

/- Sanitized backend observation. -/
structure ContainerApplyObservation where
  ready : Bool
  observedAt : UtcTimestamp

/- The backend seam, over the type `π` of resource plans. -/
structure ContainerProviderBackend (δ π : Type) where
  apply : BackendFence δ → π → Except ProviderFailure ContainerApplyObservation
  observe : BackendFence δ → π → Except ProviderFailure ContainerApplyObservation
  scale : BackendFence δ → π → Nat → Except ProviderFailure ContainerApplyObservation
  restart : BackendFence δ → π → Revision → Except ProviderFailure ContainerApplyObservation
  deleteNamespace : BackendFence δ → π → Except ProviderFailure ArtifactRef

/- `resolve` is the release resolver, `plan` the projection of a release, `namespacePlan` the plan
  that names only the namespace. -/
structure ContainerProvider (δ ρ π : Type) where
  binding : String
  digest : FenceDocument → δ
  resolve : ReleaseId → Nat → Except ReleaseProjectionError ρ
  plan : EnvironmentInstance → ρ → ReconcileAction → Except ReleaseProjectionError π
  namespacePlan : EnvironmentInstance → π
  backend : ContainerProviderBackend δ π

namespace ContainerProvider

variable {δ ρ π : Type} (provider : ContainerProvider δ ρ π) (env : EnvironmentInstance)

def cleanupPlan : Except ReleaseProjectionError π := do
  ensure (env.runtimeKind = .container ∧ env.providerBinding = provider.binding) .identityMismatch
  return provider.namespacePlan env

variable (action : ReconcileAction)

def fence : BackendFence δ :=
  .forAction provider.digest containerBackendProtocolVersion env action

def callRunning (fence : BackendFence δ) (plan : π) :
    RunningCall → Except ProviderFailure ContainerApplyObservation
| .apply => provider.backend.apply fence plan
| .observe => provider.backend.observe fence plan
| .start => provider.backend.scale fence plan 1
| .restart => provider.backend.restart fence plan env.revision

def execute (env : EnvironmentInstance) : Except ProviderFailure ProviderObservation :=
  let fence := provider.fence env action
  if action = .cleanup ∧ env.observedState = .deleting then do
    let plan ← (provider.cleanupPlan env).mapError projectionFailure
    let cleanupEvidence ← provider.backend.deleteNamespace fence plan
    ensure (validArtifactRef cleanupEvidence = true) cleanupFailed
    .ok (deletedObservation cleanupEvidence)
  else do
    let resolved ← (provider.resolve env.releaseId env.releaseVersion).mapError projectionFailure
    let plan ← (provider.plan env resolved action).mapError projectionFailure
    dispatch action env.observedState (fun call => do
      let observed ← provider.callRunning env fence plan call
      readyObservation env 1 .http observed.ready observed.observedAt)
      (do
        let _ ← provider.backend.scale fence plan 0
        .ok ())

end ContainerProvider

-- Virtual Machines

inductive IpAddr where
| v4 (bits : BitVec 32)
| v6 (bits : BitVec 128)

/- The private IPv4 blocks 10/8, 172.16/12 and 192.168/16, and the unique local IPv6 block
  fc00::/7. -/
def privateRouteIp : IpAddr → Bool
| .v4 bits => bits >>> 24 == 10 || bits >>> 20 == 0xAC1 || bits >>> 16 == 0xC0A8
| .v6 bits => bits >>> 121 == 0x7E

structure KubeVirtRunningObservation (δ : Type) where
  (observedEnvironmentGeneration vmResourceGeneration observedVmResourceGeneration : Nat)
  (vmUid vmiUid rootDiskUid : BitVec 128)
  (guestIp serviceClusterIp : IpAddr)
  sshHostKeySha256 : δ
  sshReady : Bool
  observedAt : UtcTimestamp

structure KubeVirtStoppedObservation where
  observedEnvironmentGeneration : Nat
  (vmUid rootDiskUid : BitVec 128)
  vmiAbsent : Bool
  observedAt : UtcTimestamp

/- `emptyDigest` is the SHA-256 of no bytes. -/
def validRunningObservation {δ : Type} [DecidableEq δ] (emptyDigest : δ) (generation : Nat)
    (observed : KubeVirtRunningObservation δ) : Bool :=
  observed.observedEnvironmentGeneration == generation && 0 < observed.vmResourceGeneration &&
    observed.vmResourceGeneration ≤ observed.observedVmResourceGeneration &&
    observed.vmUid != 0 &&
    observed.vmiUid != 0 &&
    observed.rootDiskUid != 0 &&
    privateRouteIp observed.guestIp &&
    privateRouteIp observed.serviceClusterIp &&
    observed.sshHostKeySha256 != emptyDigest &&
    observed.sshReady

def validStoppedObservation (generation : Nat) (observed : KubeVirtStoppedObservation) : Bool :=
  observed.observedEnvironmentGeneration == generation && observed.vmUid != 0 &&
    observed.rootDiskUid != 0 &&
    observed.vmiAbsent

inductive KubeVirtObservationStoreError where
| database
| invalidObservation
| identityMismatch
| staleFence
| tombstoned

def observationStoreFailure : KubeVirtObservationStoreError → ProviderFailure
| .database => unavailable
| .invalidObservation | .identityMismatch | .staleFence
| .tombstoned => LabWeaver.invalidObservation

/- The backend seam, over the types `π` of resource plans and `κ` of cleanup plans. -/
structure KubeVirtProviderBackend (δ π κ : Type) where
  apply : BackendFence δ → π → Except ProviderFailure (KubeVirtRunningObservation δ)
  observe : BackendFence δ → π → Except ProviderFailure (KubeVirtRunningObservation δ)
  start : BackendFence δ → π → Except ProviderFailure (KubeVirtRunningObservation δ)
  stop : BackendFence δ → π → Except ProviderFailure KubeVirtStoppedObservation
  restart : BackendFence δ → π → Except ProviderFailure (KubeVirtRunningObservation δ)
  deleteNamespace : BackendFence δ → κ → Except ProviderFailure ArtifactRef

/- The store of the last accepted runtime identity. -/
structure KubeVirtObservationStore (δ π κ : Type) where
  recordRunning : BackendFence δ → π → KubeVirtRunningObservation δ →
    Except KubeVirtObservationStoreError Unit
  recordStopped : BackendFence δ → π → KubeVirtStoppedObservation →
    Except KubeVirtObservationStoreError Unit
  recordDeleted : BackendFence δ → κ → ArtifactRef → Except KubeVirtObservationStoreError Unit

structure KubeVirtProvider (δ ρ π κ : Type) where
  binding : String
  digest : FenceDocument → δ
  emptyDigest : δ
  resolve : ReleaseId → Nat → Except ReleaseProjectionError ρ
  plan : EnvironmentInstance → ρ → ReconcileAction → Except ReleaseProjectionError π
  namespacePlan : EnvironmentInstance → κ
  backend : KubeVirtProviderBackend δ π κ
  observations : KubeVirtObservationStore δ π κ

namespace KubeVirtProvider

variable {δ ρ π κ : Type} (provider : KubeVirtProvider δ ρ π κ)

def cleanupPlan (env : EnvironmentInstance) : Except ReleaseProjectionError κ := do
  ensure (env.runtimeKind = .virtualMachine ∧ env.providerBinding = provider.binding)
    .identityMismatch
  return provider.namespacePlan env

def fence (env : EnvironmentInstance) (action : ReconcileAction) : BackendFence δ :=
  .forAction provider.digest kubeVirtBackendProtocolVersion env action

def callRunning (fence : BackendFence δ) (plan : π) :
    RunningCall → Except ProviderFailure (KubeVirtRunningObservation δ)
| .apply => provider.backend.apply fence plan
| .observe => provider.backend.observe fence plan
| .start => provider.backend.start fence plan
| .restart => provider.backend.restart fence plan

def runningObservationReady [DecidableEq δ] (env : EnvironmentInstance)
    (observed : KubeVirtRunningObservation δ) : Bool :=
  validRunningObservation provider.emptyDigest env.generation observed

def acceptRunningObservation [DecidableEq δ] (fence : BackendFence δ) (plan : π)
    (env : EnvironmentInstance) (observed : KubeVirtRunningObservation δ) :
    Except ProviderFailure ProviderObservation := do
  let ready := provider.runningObservationReady env observed
  if ready then
    (provider.observations.recordRunning fence plan observed).mapError observationStoreFailure
  readyObservation env 2 .ssh ready observed.observedAt

def callStop (fence : BackendFence δ) (plan : π) (env : EnvironmentInstance) :
    Except ProviderFailure Unit := do
  let observed ← provider.backend.stop fence plan
  ensure (validStoppedObservation env.generation observed = true) invalidObservation
  (provider.observations.recordStopped fence plan observed).mapError observationStoreFailure

def execute [DecidableEq δ] (action : ReconcileAction) (env : EnvironmentInstance) :
    Except ProviderFailure ProviderObservation :=
  let fence := provider.fence env action
  if action = .cleanup ∧ env.observedState = .deleting then do
    let plan ← (provider.cleanupPlan env).mapError projectionFailure
    let cleanupEvidence ← provider.backend.deleteNamespace fence plan
    ensure (validArtifactRef cleanupEvidence = true) cleanupFailed
    (provider.observations.recordDeleted fence plan
      cleanupEvidence).mapError observationStoreFailure
    .ok (deletedObservation cleanupEvidence)
  else do
    let resolved ← (provider.resolve env.releaseId env.releaseVersion).mapError projectionFailure
    let plan ← (provider.plan env resolved action).mapError projectionFailure
    dispatch action env.observedState (fun call => do
      let observed ← provider.callRunning fence plan call
      provider.acceptRunningObservation fence plan env observed)
      (provider.callStop fence plan env)

end KubeVirtProvider

end LabWeaver
