import Mathlib.Data.List.Infix
import Mathlib.Data.List.DropRight
import LabWeaver.Contracts.Environment
import LabWeaver.Contracts.SupplyChain

/-
  This file models the environment specification of a candidate and its validation.

  Key definitions: `EnvironmentSpec.validate`, `EnvironmentCandidate.validate`.
-/

namespace LabWeaver

-- Terminals And Disks

def isAsciiControl (c : Char) : Bool := c.toNat ≤ 0x1F || c.toNat == 0x7F

def normalizedAbsolutePosixPath (path : String) : Bool :=
  let chars := path.toList
  chars.head? == some '/' && 1 < path.utf8ByteSize && chars.getLast? != some '/' &&
    !decide (['/', '/'] <:+: chars) &&
    !(chars.splitOn '/').any (fun segment => segment == ['.'] || segment == ['.', '.']) &&
    !chars.any isAsciiControl

structure TerminalSpec where
  executable : String
  args : List String
  workingDirectory : String

def TerminalSpec.validate (terminal : TerminalSpec) : Bool :=
  normalizedAbsolutePosixPath terminal.executable && terminal.executable.utf8ByteSize ≤ 256 &&
    terminal.args.length ≤ 32 &&
    terminal.args.all (fun argument =>
      argument.utf8ByteSize ≤ 1024 && !argument.toList.any isAsciiControl) &&
    terminal.workingDirectory == "/workspace"

structure VirtualMachineBaseDisk where
  (binding sourceRegistryDigest : String)
  capacityBytes : Nat

/- `VirtualMachineBaseDisk::validate`: `docker://`, a repository, the last `@` and a digest. -/
def VirtualMachineBaseDisk.validate (disk : VirtualMachineBaseDisk) : Bool :=
  let source := disk.sourceRegistryDigest.toList.drop 9
  let digest := source.rtakeWhile (· != '@')
  let repository := (source.rdropWhile (· != '@')).dropLast
  "docker://".toList.isPrefixOf disk.sourceRegistryDigest.toList && source.contains '@' &&
    !trimIsEmpty disk.binding && !disk.binding.toList.any isAsciiWhitespace &&
    !repository.all isWhiteSpace && !repository.any isWhiteSpace && disk.capacityBytes != 0 &&
    validOciDigest (String.ofList digest)

-- Specifications

structure ResourceRequirements where
  (cpuMillicores memoryBytes storageBytes : Nat)

inductive NetworkPolicySpec where
| allowAll
| denyAll
| restricted (policyBinding : String)
deriving DecidableEq

structure EnvironmentEntrySpec where
  name : String
  protocol : EndpointProtocol
  servicePort : Nat

inductive RootFilesystemPolicy where
| readOnlyRequired
| mutableRequired
deriving DecidableEq

inductive EnvironmentRuntimeSpec where
| container (providerBinding : String) (buildContext : ArtifactRef) (baseImageDigest : String)
    (servicePort : Nat) (terminal : Option TerminalSpec)
| virtualMachine (providerBinding : String) (baseDisk : VirtualMachineBaseDisk)
    (storageClassBinding : String) (sshPort : Nat)

structure EnvironmentSpec where
  name : String
  resources : ResourceRequirements
  network : NetworkPolicySpec
  entries : List EnvironmentEntrySpec
  rootFilesystemPolicy : RootFilesystemPolicy
  securityProfileBinding : String
  runtime : EnvironmentRuntimeSpec

def ArtifactRef.validate (reference : ArtifactRef) : Bool :=
  !trimIsEmpty reference.storeBinding && !trimIsEmpty reference.objectVersion &&
    !trimIsEmpty reference.mediaType && reference.sizeBytes != 0

/- The guards on the runtime of a specification. -/
def EnvironmentSpec.validateRuntime (spec : EnvironmentSpec) : Bool :=
  match spec.runtime with
  | .container providerBinding buildContext baseImageDigest servicePort terminal =>
    !trimIsEmpty providerBinding && !trimIsEmpty baseImageDigest && servicePort != 0 &&
      spec.rootFilesystemPolicy == .readOnlyRequired &&
      spec.entries.any (fun entry => entry.servicePort == servicePort) &&
      buildContext.validate && terminal.all (·.validate)
  | .virtualMachine providerBinding baseDisk storageClassBinding sshPort =>
    spec.network != .allowAll && !trimIsEmpty providerBinding &&
      !trimIsEmpty storageClassBinding && sshPort == 22 &&
      spec.entries.any (fun entry => entry.protocol == .ssh && entry.servicePort == sshPort) &&
      baseDisk.validate

def EnvironmentSpec.validate (spec : EnvironmentSpec) : Bool :=
  !trimIsEmpty spec.name && spec.resources.cpuMillicores != 0 && spec.resources.memoryBytes != 0 &&
    spec.resources.storageBytes != 0 && !spec.entries.isEmpty &&
    !trimIsEmpty spec.securityProfileBinding &&
    spec.entries.all (fun entry => !trimIsEmpty entry.name && entry.servicePort != 0) &&
    decide (spec.entries.map (·.name)).Nodup &&
    (match spec.network with
      | .restricted policyBinding => !trimIsEmpty policyBinding
      | .allowAll | .denyAll => true) &&
    spec.validateRuntime

/- An immutable validated candidate. -/
structure EnvironmentCandidate where
  id : CandidateId
  revision : Revision
  spec : EnvironmentSpec
  policyRevision : Revision
  model : String

def EnvironmentCandidate.validate (candidate : EnvironmentCandidate) : Bool :=
  candidate.spec.validate && !trimIsEmpty candidate.model

end LabWeaver
