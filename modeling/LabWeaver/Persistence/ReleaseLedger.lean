import LabWeaver.Contracts.Foundation

/-
  This file models the ledger of release attempts and the gate of a new attempt. The open attempts
  are always of one release, so that the gate may look at one of them.

  Main declaration: `release_gate_exact_iff`.
-/

namespace LabWeaver

namespace Migration

open Outcome

-- The Gate

structure ReleaseIdentity where
  releaseId : String
  catalogSha256 : String
  gitCommit : String
  buildDigest : String
deriving DecidableEq

inductive AttemptState where
| running
| succeeded
| failed
deriving DecidableEq

structure ReleaseAttempt where
  attemptId : String
  identity : ReleaseIdentity
  state : AttemptState
  resolved : Bool
deriving DecidableEq

/- The attempts, the latest first. -/
abbrev Ledger := List ReleaseAttempt

variable (ledger : Ledger) (identity : ReleaseIdentity) (attemptId : String)

def update (selected : ReleaseAttempt → Bool) (change : ReleaseAttempt → ReleaseAttempt) : Ledger :=
  ledger.map fun attempt => if selected attempt then change attempt else attempt

/- An attempt that runs while another is prepared has been abandoned. -/
def abandon : Ledger :=
  update ledger (fun attempt => attempt.state = .running ∧ attempt.attemptId ≠ attemptId)
    ({ · with state := .failed })

def ReleaseAttempt.unresolved (attempt : ReleaseAttempt) : Bool :=
  attempt.state = .failed ∧ attempt.resolved = false

def differentIdentity : PersistenceError :=
  .releaseBlocked "an unresolved failed attempt has a different release identity"

def prepareAttempt : Except PersistenceError Ledger := do
  let ledger := abandon ledger attemptId
  let blocked := ledger.find? (·.unresolved)
  ensure (blocked.all (·.identity = identity)) differentIdentity
  ensure (ledger.all (·.attemptId ≠ attemptId)) .attemptReused
  .ok (⟨attemptId, identity, .running, false⟩ :: ledger)

/- An attempt may break off after its first statement. One that breaks off later goes on running in
  the ledger. -/
inductive LedgerEvent where
| prepare (identity : ReleaseIdentity) (attemptId : String)
| interrupt (attemptId : String)
| finish (attemptId : String) (succeeded : Bool)
| resolve (attemptId : String)

def ledgerStep : Ledger → LedgerEvent → Ledger
| ledger, .prepare identity attemptId =>
  (prepareAttempt ledger identity attemptId).toOption.getD (abandon ledger attemptId)
| ledger, .interrupt attemptId => abandon ledger attemptId
| ledger, .finish attemptId succeeded =>
  update ledger (fun attempt => attempt.attemptId = attemptId ∧ attempt.state = .running)
    ({ · with state := if succeeded then .succeeded else .failed })
| ledger, .resolve attemptId =>
  update ledger (·.attemptId = attemptId) ({ · with resolved := true })

variable (history : List LedgerEvent)

def ledgerAfter : Ledger := history.foldl ledgerStep []

/- An unresolved attempt of another release. -/
def ReleaseAttempt.Blocks (attempt : ReleaseAttempt) : Prop :=
  attempt.unresolved ∧ attempt.identity ≠ identity
deriving Decidable

/- Such an attempt was not followed by a success of its release. -/
def MustBlock : Prop :=
  ∃ attempt ∈ ledger, attempt.Blocks identity ∧ ∀ later ∈ ledger.takeWhile (· ≠ attempt),
    later.identity = attempt.identity → later.state ≠ .succeeded
deriving Decidable

-- The Open Release

/- The attempts that did not succeed and are not resolved are of one release. -/
def OneRelease : Prop :=
  ∃ release, ∀ attempt ∈ ledger, attempt.state ≠ .succeeded → attempt.resolved = false →
    attempt.identity = release

variable {ledger identity attemptId}

/- An update that opens no attempt keeps them so. -/
theorem OneRelease.update {selected : ReleaseAttempt → Bool}
    {change : ReleaseAttempt → ReleaseAttempt} (hOne : OneRelease ledger)
    (hKept : ∀ attempt, selected attempt = true → (change attempt).state ≠ .succeeded →
      (change attempt).resolved = false → attempt.state ≠ .succeeded ∧ attempt.resolved = false ∧
        (change attempt).identity = attempt.identity) :
    OneRelease (update ledger selected change) := by
  rcases hOne with ⟨release, hOne⟩
  refine ⟨release, ?_⟩
  intro attempt hAttempt hState hResolved
  rcases List.mem_map.mp hAttempt with ⟨old, hOld, hNew⟩
  split at hNew <;> cases hNew
  · rename_i hSelected
    rcases hKept old hSelected hState hResolved with ⟨hState, hResolved, hSame⟩
    rw [hSame]
    exact hOne old hOld hState hResolved
  · exact hOne attempt hOld hState hResolved

theorem OneRelease.abandon (hOne : OneRelease ledger) : OneRelease (abandon ledger attemptId) :=
  hOne.update (by simp +contextual)

/- The gate looks at one unresolved attempt, which stands for all of them. -/
theorem OneRelease.blocked_iff (hOne : OneRelease ledger) :
    ¬(ledger.find? (·.unresolved)).all (·.identity = identity) ↔
      ∃ attempt ∈ ledger, attempt.Blocks identity := by
  rcases hOne with ⟨release, hOne⟩
  have hRelease : ∀ attempt ∈ ledger, attempt.unresolved → attempt.identity = release := by
    intro attempt hAttempt hUnresolved
    rcases of_decide_eq_true hUnresolved with ⟨hFailed, hResolved⟩
    exact hOne attempt hAttempt (by simp [hFailed]) hResolved
  cases hFound : ledger.find? (·.unresolved) with
  | none =>
    refine ⟨fun hBlocked => absurd rfl hBlocked, ?_⟩
    rintro ⟨attempt, hAttempt, hUnresolved, _⟩
    exact absurd hUnresolved (List.find?_eq_none.mp hFound attempt hAttempt)
  | some found =>
    have hMember := List.mem_of_find?_eq_some hFound
    have hFailed := List.find?_some hFound
    rw [Option.all_some, decide_eq_true_iff]
    refine ⟨fun hOther => ⟨found, hMember, hFailed, hOther⟩, ?_⟩
    rintro ⟨attempt, hAttempt, hUnresolved, hOther⟩ hSame
    rw [hRelease attempt hAttempt hUnresolved, ← hRelease found hMember hFailed] at hOther
    exact hOther hSame

/- An attempt enters the ledger if the open ones, which have all failed, are of its release. -/
theorem OneRelease.prepareAttempt {after : Ledger} (hOne : OneRelease ledger)
    (hOk : prepareAttempt ledger identity attemptId = .ok after) : OneRelease after := by
  simp only [Migration.prepareAttempt, ensure_bind_eq_ok, Except.ok.injEq] at hOk
  rcases hOk with ⟨hPasses, hNew, rfl⟩
  refine ⟨identity, ?_⟩
  intro attempt hAttempt hState hResolved
  rcases List.mem_cons.mp hAttempt with rfl | hOld
  · rfl
  · have hOther := List.all_eq_true.mp hNew attempt hOld
    by_cases hSame : attempt.identity = identity
    · exact hSame
    refine absurd hPasses (hOne.abandon.blocked_iff.mpr ⟨attempt, hOld, ?_, hSame⟩)
    rcases List.mem_map.mp hOld with ⟨old, _, hNew⟩
    split at hNew <;> cases hNew
    · exact decide_eq_true ⟨rfl, hResolved⟩
    · rename_i hKept
      cases hNow : attempt.state with
      | running => exact absurd (decide_eq_true ⟨hNow, of_decide_eq_true hOther⟩) hKept
      | succeeded => exact absurd hNow hState
      | failed => exact decide_eq_true ⟨hNow, hResolved⟩

/- The open attempts are of one release after every history. -/
theorem oneRelease : OneRelease (ledgerAfter history) := by
  refine List.foldlRecOn history ledgerStep ⟨⟨"", "", "", ""⟩, by simp⟩ ?_
  intro ledger hOne event _
  cases event with
  | prepare identity attemptId =>
    rw [ledgerStep]
    cases hOk : Migration.prepareAttempt ledger identity attemptId with
    | error _ => exact hOne.abandon
    | ok after => exact hOne.prepareAttempt hOk
  | interrupt attemptId => exact hOne.abandon
  | finish attemptId succeeded => exact hOne.update (by simp +contextual)
  | resolve attemptId => exact hOne.update (by simp)

-- When The Gate Refuses

variable (history : List LedgerEvent) (identity : ReleaseIdentity) (attemptId : String)

/- The gate refuses a release exactly if an attempt of another one is unresolved. -/
theorem refused_iff :
    prepareAttempt (ledgerAfter history) identity attemptId = .error differentIdentity ↔
      ∃ attempt ∈ abandon (ledgerAfter history) attemptId, attempt.Blocks identity := by
  rw [← (oneRelease history).abandon.blocked_iff]
  refine ⟨?_, ensure_bind_of_not⟩
  intro hRefused hPasses
  rw [prepareAttempt, ensure_bind_of hPasses, ensure] at hRefused
  split at hRefused <;> cases hRefused

/- The gate is exact unless every unresolved attempt of another release was followed by a success
  of its release. -/
theorem release_gate_exact_iff :
    (prepareAttempt (ledgerAfter history) identity attemptId = .error differentIdentity ↔
        MustBlock (abandon (ledgerAfter history) attemptId) identity) ↔
      ((∃ attempt ∈ abandon (ledgerAfter history) attemptId, attempt.Blocks identity) →
        MustBlock (abandon (ledgerAfter history) attemptId) identity) := by
  rw [refused_iff]
  constructor
  · exact Iff.mp
  · intro hMust
    refine ⟨hMust, ?_⟩
    rintro ⟨attempt, hAttempt, hBlocks, _⟩
    exact ⟨attempt, hAttempt, hBlocks⟩

/- A release that failed and then succeeded on retry blocks its successor. -/
theorem retried_release_blocks : ∃ history identity attemptId,
    prepareAttempt (ledgerAfter history) identity attemptId = .error differentIdentity ∧
      ¬MustBlock (abandon (ledgerAfter history) attemptId) identity := by
  refine ⟨[.prepare ⟨"1", "", "", ""⟩ "a", .finish "a" false, .prepare ⟨"1", "", "", ""⟩ "b",
    .finish "b" true], ⟨"2", "", "", ""⟩, "c", ?_⟩
  exact ⟨rfl, by decide⟩

-- The Running Attempt

/- No identifier is used twice, and only the latest attempt runs. -/
structure OneRunning (ledger : Ledger) : Prop where
  distinct : (ledger.map (·.attemptId)).Nodup
  latest : ∀ attempt ∈ ledger.tail, attempt.state ≠ .running

variable {ledger : Ledger}

theorem OneRunning.update {selected : ReleaseAttempt → Bool}
    {change : ReleaseAttempt → ReleaseAttempt} (hOne : OneRunning ledger)
    (hKept : ∀ attempt, (change attempt).attemptId = attempt.attemptId ∧
      ((change attempt).state = .running → attempt.state = .running)) :
    OneRunning (update ledger selected change) := by
  refine ⟨?_, ?_⟩
  · have hIds : (Migration.update ledger selected change).map (·.attemptId) =
        ledger.map (·.attemptId) := by
      rw [Migration.update, List.map_map]
      apply List.map_congr_left
      intro attempt _
      simp only [Function.comp]
      split
      · exact (hKept attempt).1
      · rfl
    rw [hIds]
    exact hOne.distinct
  · intro attempt hAttempt hRunning
    rw [Migration.update, ← List.map_tail] at hAttempt
    rcases List.mem_map.mp hAttempt with ⟨old, hOld, rfl⟩
    apply hOne.latest old hOld
    split at hRunning
    · exact (hKept old).2 hRunning
    · exact hRunning

theorem OneRunning.abandon {attemptId : String} (hOne : OneRunning ledger) :
    OneRunning (abandon ledger attemptId) :=
  hOne.update (by simp)

/- After every history at most one attempt runs, and it is the latest. -/
theorem one_running_attempt (history : List LedgerEvent) : OneRunning (ledgerAfter history) := by
  refine List.foldlRecOn history ledgerStep ⟨List.nodup_nil, by simp⟩ ?_
  intro ledger hOne event _
  cases event with
  | prepare identity attemptId =>
    rw [ledgerStep]
    cases hOk : prepareAttempt ledger identity attemptId with
    | error _ => exact hOne.abandon
    | ok after =>
      simp only [prepareAttempt, Outcome.ensure_bind_eq_ok, Except.ok.injEq] at hOk
      rcases hOk with ⟨_, hNew, rfl⟩
      have hOthers : ∀ attempt ∈ abandon ledger attemptId, attempt.attemptId ≠ attemptId := by
        simpa using hNew
      refine ⟨List.nodup_cons.mpr ⟨?_, hOne.abandon.distinct⟩, ?_⟩
      · rintro hMember
        rcases List.mem_map.mp hMember with ⟨attempt, hAttempt, hSame⟩
        exact hOthers attempt hAttempt hSame
      · intro attempt hAttempt hRunning
        have hOther := hOthers attempt hAttempt
        rcases List.mem_map.mp hAttempt with ⟨old, _, rfl⟩
        split at hRunning
        · cases hRunning
        · rename_i hKept
          rw [if_neg hKept] at hOther
          exact hKept (decide_eq_true ⟨hRunning, hOther⟩)
  | interrupt attemptId => exact hOne.abandon
  | finish attemptId succeeded => exact hOne.update (by intro attempt; cases succeeded <;> simp)
  | resolve attemptId => exact hOne.update (by simp)

end Migration

end LabWeaver
