import LabWeaver.Base.Machine
import LabWeaver.Base.Outcome
import LabWeaver.Contracts.Authoring
import LabWeaver.Contracts.Foundation

/-
  This file models the completion of one upload session by interleaved calls, whose leases expire
  and are taken over, beside the cleanup of objects. It shows which package is committed, and when
  a failed session leaves every recorded version to the cleanup.

  Main declarations: `upload_completion_sound`, `failed_upload_covered`.
-/

namespace LabWeaver.Control

open Outcome Option

-- Sessions

inductive UploadSessionState where
| pending
| completing
| completed
| failed
deriving DecidableEq

structure ProblemPackageUploadFile where
  path : String
  sizeBytes : Nat
  mediaType : String

/- The order in which `create_upload` numbers the declared files. -/
def pathOrder (declared : List ProblemPackageUploadFile) : List ProblemPackageUploadFile :=
  declared.mergeSort (fun left right => decide (left.path ≤ right.path))

structure FrozenVersion where
  objectVersion : String
  artifactId : ArtifactId
deriving DecidableEq

structure PackageFile where
  path : String
  object : ArtifactRef

/- The file of the package, in the store with the given binding. -/
def ProblemPackageUploadFile.packaged (binding : String) (file : ProblemPackageUploadFile)
    (version : FrozenVersion) : PackageFile where
  path := file.path
  object := ⟨version.artifactId, binding, version.objectVersion, file.sizeBytes, file.mediaType⟩

/- A call of `complete_upload` that holds or has held the lease: the versions it has read, those it
  has verified, and the one whose record has passed the check of the lease. -/
structure CompletionCall (n : Nat) where
  token : BitVec 128
  rows : Option (Vector (Option FrozenVersion) n)
  frozen : List FrozenVersion
  checked : Option FrozenVersion

/- The session with its `n` files in order. The request is the idempotency key with the expected
  revision. Entries of the cleanup ledger name an object by the position of its file. -/
structure UploadState (n : Nat) where
  state : UploadSessionState
  revision : Nat
  expiresAt : UtcTimestamp
  request : Option (String × Nat)
  lease : Option (BitVec 128 × UtcTimestamp)
  files : Vector (Option FrozenVersion) n
  packages : List (List PackageFile)
  ledger : List (Nat × String)
  deleted : List (Nat × String)
  calls : List (CompletionCall n)
  clock : UtcTimestamp

inductive UploadAction where
| reserve (idempotencyKey : String) (expectedRevision : Nat) (token : BitVec 128)
| load (index : Nat)
| renew (index : Nat) (now : UtcTimestamp)
-- the object is verified, and `record_frozen_version` finds the lease
| check (index : Nat) (now : UtcTimestamp) (version : FrozenVersion)
-- `record_frozen_version` writes the row
| record (index : Nat)
| fail (index : Nat) (now : UtcTimestamp)
| commit (index : Nat) (now : UtcTimestamp)
| cleanup (entry : Nat × String)
| tick (clock : UtcTimestamp)

variable (leaseDuration : Nat) (binding : String)

namespace UploadState

variable {n : Nat} (s : UploadState n)

/- `reserve_completion` claims the session, or takes over an expired lease of the same request. -/
def reservable (request : String × Nat) : Prop :=
  (s.state = .pending ∧ s.revision = request.2 ∧ s.clock < s.expiresAt) ∨
  (s.state = .completing ∧ s.request = some request ∧
    s.lease.any (fun lease => lease.2 ≤ s.clock) = true)
deriving Decidable

/- The lease is current at the start `now` of the statement. -/
def holds (call : CompletionCall n) (now : UtcTimestamp) : Prop :=
  s.state = .completing ∧ now ≤ s.clock ∧
  s.lease.any (fun lease => lease.1 = call.token ∧ now < lease.2) = true
deriving Decidable

def resume (index : Nat) (call : CompletionCall n) : UploadState n :=
  { s with calls := s.calls.set index call }

variable (declared : List ProblemPackageUploadFile)

def step (s : UploadState n) : UploadAction → Option (UploadState n)
| .reserve idempotencyKey expectedRevision token =>
  if s.reservable (idempotencyKey, expectedRevision) then
    some { s with
      state := .completing
      revision := expectedRevision + 1
      request := some (idempotencyKey, expectedRevision)
      lease := some (token, s.clock + leaseDuration)
      calls := s.calls ++ [⟨token, none, [], none⟩] }
  else none
| .load index => do
  let call ← s.calls[index]?
  if call.rows = none then some (s.resume index { call with rows := some s.files }) else none
| .renew index now => do
  let call ← s.calls[index]?
  if s.holds call now then some { s with lease := some (call.token, now + leaseDuration) } else none
| .check index now version => do
  let call ← s.calls[index]?
  let row ← call.rows.bind (·[call.frozen.length]?)
  -- a row that had a version is verified at that version
  if s.holds call now ∧ (row = none ∨ row = some version) then
    some (s.resume index { call with checked := some version })
  else none
| .record index => do
  let call ← s.calls[index]?
  let version ← call.checked
  let file ← s.files[call.frozen.length]?
  if file = none ∨ file = some version then
    some { s.resume index { call with frozen := call.frozen ++ [version], checked := none } with
      files := s.files.setIfInBounds call.frozen.length (some version) }
  else none
| .fail index now => do
  let call ← s.calls[index]?
  if s.holds call now ∧ call.checked = none ∧ call.rows ≠ none ∧
      (n = 0 ∨ call.frozen.length < n) then
    some { s with
      state := .failed
      revision := s.revision + 1
      lease := none
      ledger := s.ledger ++
        call.frozen.mapIdx (fun position version => (position, version.objectVersion)) }
  else none
| .commit index now => do
  let call ← s.calls[index]?
  -- every frozen version is the one recorded under its key
  if s.holds call now ∧ n ≠ 0 ∧ s.files.toList = call.frozen.map some then
    some { s with
      state := .completed
      revision := s.revision + 1
      lease := none
      packages := s.packages ++
        [List.zipWith (·.packaged binding) (pathOrder declared) call.frozen] }
  else none
| .cleanup entry => if entry ∈ s.ledger then some { s with deleted := entry :: s.deleted } else none
| .tick clock => if s.clock ≤ clock then some { s with clock } else none

variable {leaseDuration binding declared} {s s' : UploadState n} {action : UploadAction}
  (hStep : step leaseDuration binding declared s action = some s')

-- Completed Sessions

/- Objects are left to the cleanup only by a failed session, and a package is committed only by a
  completed one. -/
structure Sound (binding : String) (declared : List ProblemPackageUploadFile)
    (s : UploadState n) : Prop where
  kept : s.state ≠ .failed → s.ledger = [] ∧ s.deleted = []
  uncommitted : s.state ≠ .completed → s.packages = []
  committed : s.state = .completed → ∃ frozen, s.files.toList = frozen.map some ∧
    s.packages = [List.zipWith (·.packaged binding) (pathOrder declared) frozen]

include hStep

/- A session that has ended stays as it is. -/
theorem ended_step (hEnded : s.state = .completed ∨ s.state = .failed) : s'.state = s.state := by
  cases action
  all_goals
    simp only [step, bind_eq_bind, bind_eq_some_iff, ite_none_right_eq_some,
      Option.some.injEq] at hStep
    grind [reservable, holds, resume]

theorem sound_step (hSound : s.Sound binding declared) : s'.Sound binding declared := by
  rcases hSound with ⟨hKept, hUncommitted, hCommitted⟩
  cases action
  all_goals
    simp only [step, bind_eq_bind, bind_eq_some_iff, ite_none_right_eq_some,
      Option.some.injEq] at hStep
  case record =>
    rcases hStep with ⟨call, _, version, _, file, hFile, hFree, rfl⟩
    refine ⟨hKept, hUncommitted, fun hState => ?_⟩
    rcases hCommitted hState with ⟨frozen, hFiles, hPackages⟩
    refine ⟨frozen, ?_, hPackages⟩
    rw [← Vector.getElem?_toList, hFiles, List.getElem?_map] at hFile
    rcases map_eq_some_iff.mp hFile with ⟨old, hOld, rfl⟩
    -- a row that has a version is only written with this version
    have hSame : old = version := by simpa using hFree
    rcases List.getElem?_eq_some_iff.mp hOld with ⟨_, rfl⟩
    rw [Vector.toList_setIfInBounds, hFiles, ← List.map_set, ← hSame, List.set_getElem_self]
  -- a session is only ended while it is completing, with nothing committed or deleted yet
  all_goals
    constructor <;>
      grind [reservable, holds, resume]

-- Failed Sessions

omit hStep

variable (s)

/- Every recorded version of a failed session has an entry in the cleanup ledger. -/
def Covered : Prop :=
  s.state = .failed → ∀ position version,
    s.files[position]? = some (some version) → (position, version.objectVersion) ∈ s.ledger

/- A call that fails the session has verified every file with a recorded version, and nothing is
  recorded after a failure. -/
def attended : UploadAction → Bool
| .fail index _ => s.calls[index]?.all (fun call => decide (∀ position < n,
  s.files[position]? = some none ∨ s.files[position]? = some call.frozen[position]?))
| .record _ => s.state ≠ .failed
| _ => true

variable {s}

include hStep

theorem covered_step (hCovered : s.Covered) (hOk : s.attended action = true) : s'.Covered := by
  intro hFailed position version hFile
  cases action
  all_goals
    simp only [step, bind_eq_bind, bind_eq_some_iff, ite_none_right_eq_some,
      Option.some.injEq] at hStep
  case fail =>
    rcases hStep with ⟨call, hCall, _, rfl⟩
    simp only [attended, hCall, all_some, decide_eq_true_eq] at hOk
    rcases hOk position (Vector.getElem?_eq_some_iff.mp hFile).1 with hNone | hSome
    · simp [hFile] at hNone
    · rw [hFile] at hSome
      refine List.mem_append_right _ (List.mem_of_getElem? (i := position) ?_)
      rw [List.getElem?_mapIdx, ← Option.some.inj hSome]
      rfl
  -- no other step leaves a session failed that has changed its files or its ledger
  all_goals
    grind [Covered, attended, resume]

end UploadState

open UploadState

/- The runs of a session that was created for the declared files. -/
def uploads (declared : List ProblemPackageUploadFile) :
    Machine (UploadState declared.length) UploadAction where
  init s := s.state = .pending ∧ s.files = .replicate _ none ∧ s.packages = [] ∧ s.ledger = [] ∧
    s.deleted = [] ∧ s.calls = []
  step := step leaseDuration binding declared

variable (declared : List ProblemPackageUploadFile)
  (s : UploadState declared.length)

/- Whatever calls are interleaved: at most one package is committed, of the declared files in the
  order of their paths with their recorded versions. Nothing is deleted of a session with a
  package, and a session that has ended stays so. -/
theorem upload_completion_sound (hRun : (uploads leaseDuration binding declared).Reachable s) :
    s.packages.length ≤ 1 ∧
    (∀ package ∈ s.packages, s.deleted = [] ∧ ∃ frozen, s.files.toList = frozen.map some ∧
      package = List.zipWith (·.packaged binding) (pathOrder declared) frozen) ∧
    ∀ s', (uploads leaseDuration binding declared).Leads s s' →
      s.state = .completed ∨ s.state = .failed → s'.state = s.state := by
  have hSound : s.Sound binding declared := by
    refine hRun.invariant ?_ (fun _ _ _ hSound _ hStep => sound_step hStep hSound)
    rintro s ⟨hState, _, hPackages, hLedger, hDeleted, _⟩
    exact ⟨fun _ => ⟨hLedger, hDeleted⟩, fun _ => hPackages, by simp [hState]⟩
  refine ⟨?_, ?_, ?_⟩
  · by_cases hState : s.state = .completed
    · rcases hSound.committed hState with ⟨_, _, hPackages⟩
      simp [hPackages]
    · simp [hSound.uncommitted hState]
  · intro package hPackage
    have hState : s.state = .completed := by
      by_contra hState
      simp [hSound.uncommitted hState] at hPackage
    rcases hSound.committed hState with ⟨frozen, hFiles, hPackages⟩
    rw [hPackages, List.mem_singleton] at hPackage
    exact ⟨(hSound.kept (by simp [hState])).2, frozen, hFiles, hPackage⟩
  · intro s' hLeads hEnded
    refine hLeads.invariant (I := fun s' => s'.state = s.state) ?_ rfl
    intro middle action next hSame hStep
    exact (ended_step hStep (hSame ▸ hEnded)).trans hSame

/- In every run whose failing calls have verified all files with a recorded version, and that
  records nothing after a failure, every version that a failed session has recorded is left to the
  cleanup. -/
theorem failed_upload_covered (hRun : (uploads leaseDuration binding declared).Run
      (fun s action => s.attended action = true) s)
    (hFailed : s.state = .failed) (position : Nat) (version : FrozenVersion)
    (hRecorded : s.files[position]? = some (some version)) :
    (position, version.objectVersion) ∈ s.ledger := by
  have hCovered : s.Covered := by
    refine hRun.invariant ?_ (fun _ _ _ hCovered hOk hStep => covered_step hStep hCovered hOk)
    rintro s ⟨hPending, _⟩ hState
    cases hPending.symm.trans hState
  exact hCovered hFailed position version hRecorded

namespace UploadSample

def files : List ProblemPackageUploadFile :=
  [⟨"problem.md", 4, "text/markdown"⟩, ⟨"checker.py", 8, "text/x-python"⟩]

def session : UploadState files.length :=
  ⟨.pending, 1, 1000, none, none, #v[none, none], [], [], [], [], 0⟩

def version : FrozenVersion := ⟨"v1", ⟨1⟩⟩

/- A call records the version of the first file. -/
def recording : List UploadAction := [.reserve "key" 1 7, .load 0, .check 0 0 version, .record 0]

end UploadSample

open UploadSample

/- A second call takes over the lease and commits. In another run the first call fails, and the
  cleanup deletes what it has recorded. -/
theorem upload_completion_sound_committed :
    (∃ s, (uploads 10 "store" files).Reachable s ∧ s.calls.length = 2 ∧ s.packages.length = 1 ∧
      ∀ package ∈ s.packages, s.deleted = []) ∧
    ∃ s, (uploads 10 "store" files).Reachable s ∧ s.deleted = [(0, "v1")] ∧ s.packages = [] := by
  constructor
  · have hFound : ∃ s, (uploads 10 "store" files).Reachable s ∧ s.calls.length = 2 ∧
        s.packages.length = 1 :=
      Machine.exists_reachable (s := session)
        (recording ++ [.tick 10, .reserve "key" 1 8, .load 1, .check 1 10 version, .record 1,
          .check 1 10 version, .record 1, .commit 1 10]) ⟨rfl, rfl, rfl, rfl, rfl, rfl⟩ (by decide)
    rcases hFound with ⟨s, hReach, hCalls, hOne⟩
    refine ⟨s, hReach, hCalls, hOne, fun package hPackage => ?_⟩
    exact ((upload_completion_sound 10 "store" files s hReach).2.1 package hPackage).1
  · have hFound : ∃ s, (uploads 10 "store" files).Reachable s ∧ s.deleted = [(0, "v1")] :=
      Machine.exists_reachable (s := session) (recording ++ [.fail 0 0, .cleanup (0, "v1")])
        ⟨rfl, rfl, rfl, rfl, rfl, rfl⟩ (by decide)
    rcases hFound with ⟨s, hReach, hDeleted⟩
    refine ⟨s, hReach, hDeleted, List.eq_nil_iff_forall_not_mem.mpr fun package hPackage => ?_⟩
    rw [((upload_completion_sound 10 "store" files s hReach).2.1 package hPackage).1] at hDeleted
    cases hDeleted

/- The second file cannot be verified, and the version of the first one is left to the cleanup. -/
theorem failed_upload_covered_second : ∃ s, (uploads 10 "store" files).Run (fun s action =>
    s.attended action = true) s ∧ s.state = .failed ∧ (0, "v1") ∈ s.ledger := by
  have hFound : ∃ s, (uploads 10 "store" files).Run (fun s action => s.attended action = true) s ∧
      s.state = .failed ∧ s.files[0]? = some (some version) :=
    Machine.exists_run (s := session) (recording ++ [.fail 0 0])
      ⟨rfl, rfl, rfl, rfl, rfl, rfl⟩ (by decide)
  rcases hFound with ⟨s, hRun, hFailed, hFile⟩
  exact ⟨s, hRun, hFailed, failed_upload_covered 10 "store" files s hRun hFailed 0 version hFile⟩

/- The first call stops before it commits. Its successor cannot verify the first file, and leaves
  nothing to the cleanup. -/
theorem failed_upload_not_covered : ∃ s, (uploads 10 "store" files).Reachable s ∧
    s.state = .failed ∧ s.files[0]? = some (some version) ∧ (0, "v1") ∉ s.ledger :=
  Machine.exists_reachable (s := session)
    (recording ++ [.tick 10, .reserve "key" 1 8, .load 1, .fail 1 10])
    ⟨rfl, rfl, rfl, rfl, rfl, rfl⟩ (by decide)

end LabWeaver.Control
