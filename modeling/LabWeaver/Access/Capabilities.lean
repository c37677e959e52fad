import LabWeaver.Access.Database

/-
  This file follows the lease fence of a console capability: the checks of the contract, the
  columns that are bound, and the fence that is read back from them.

  Main declarations: `issued_fence_kept_iff`, `experiment_capability_refused`.
-/

namespace LabWeaver.Console

open Outcome OffsetDateTime

-- Contracts

/- `ConsoleLeaseFence` of the contract. -/
structure LeaseFence where
  leaseId : LeaseId
  leaseRevision : Revision
  expiresAt : UtcTimestamp
deriving DecidableEq

structure ConsoleCapabilityAvailability where
  accessGrantId : AccessGrantId
  accessGrantRevision : Revision
  environmentId : EnvironmentId
  environmentClass : EnvironmentClass
  environmentRevision : Revision
  expiresAt : UtcTimestamp
  leaseFence : Option LeaseFence
  kinds : List ConsoleKind

structure ConsoleCapability where
  id : ConsoleCapabilityId
  kind : ConsoleKind
  accessGrantId : AccessGrantId
  accessGrantRevision : Revision
  environmentId : EnvironmentId
  environmentClass : EnvironmentClass
  environmentRevision : Revision
  leaseFence : Option LeaseFence
  (issuedAt expiresAt : UtcTimestamp)
  (connectionLocator websocketSubprotocol : String)

def websocketSubprotocol : ConsoleKind → String
| .xterm => "labweaver.console.xterm.v1"
| .novnc => "labweaver.console.novnc.v1"

def isConsoleConnectionLocator (value : String) : Bool :=
  let segment := value.toList.drop 17
  "/connect/console/".toList.isPrefixOf value.toList && segment != [] &&
    decide (segment.length ≤ 128) && segment.all (fun c => c.isAlphanum || c == '-' || c == '_')

/- The match on the fence that both validators end with. -/
def fenceFits (environmentClass : EnvironmentClass) (expiresAt : UtcTimestamp) :
    Option LeaseFence → Bool
| some fence => environmentClass == .work && decide (expiresAt ≤ fence.expiresAt)
| none => environmentClass != .work

def ConsoleCapabilityAvailability.validate (availability : ConsoleCapabilityAvailability) : Bool :=
  availability.kinds != [] && decide availability.kinds.Nodup &&
    fenceFits availability.environmentClass availability.expiresAt availability.leaseFence

namespace Sample

def leaseFence : EnvironmentClass → Option LeaseFence
| .work => some ⟨⟨5⟩, Revision.one, 60000⟩
| .experiment => none

variable (environmentClass : EnvironmentClass)

def availability : ConsoleCapabilityAvailability :=
  { accessGrantId := ⟨1⟩, accessGrantRevision := Revision.one, environmentId := ⟨2⟩,
    environmentClass, environmentRevision := Revision.one, expiresAt := 40000,
    leaseFence := leaseFence environmentClass, kinds := [.xterm] }

def capability : ConsoleCapability :=
  { availability environmentClass with
    id := ⟨3⟩, kind := .xterm, issuedAt := 0, expiresAt := 30000,
    connectionLocator := "/connect/console/a",
    websocketSubprotocol := "labweaver.console.xterm.v1" }

end Sample

variable (capability : ConsoleCapability) (availability : ConsoleCapabilityAvailability)

def ConsoleCapability.validate : Bool :=
  decide (capability.expiresAt - capability.issuedAt = 30000) &&
    isConsoleConnectionLocator capability.connectionLocator &&
    capability.websocketSubprotocol == Console.websocketSubprotocol capability.kind &&
    fenceFits capability.environmentClass capability.expiresAt capability.leaseFence

def ConsoleCapability.validateAgainst : Bool :=
  capability.validate && availability.validate && availability.kinds.contains capability.kind &&
    capability.accessGrantId == availability.accessGrantId &&
    capability.accessGrantRevision == availability.accessGrantRevision &&
    capability.environmentId == availability.environmentId &&
    capability.environmentClass == availability.environmentClass &&
    capability.environmentRevision == availability.environmentRevision &&
    capability.leaseFence == availability.leaseFence &&
    decide (capability.expiresAt ≤ availability.expiresAt)

-- The Row

inductive CapabilityError where
| recordInvalid
| authorityDrift
| storeUnavailable

/- The nullable columns of the fence. -/
structure LeaseColumns where
  leaseId : Option LeaseId
  leaseRevision : Option Nat
  leaseExpiresAt : Option OffsetDateTime

structure CapabilityRow where
  accessGrantRevision : Nat
  courseId : CourseId
  environmentClass : EnvironmentClass
  environmentRevision : Nat
  lease : LeaseColumns
  (issuedAt expiresAt authorizationExpiresAt : OffsetDateTime)

def toI64 (revision : Revision) : Option Nat :=
  if revision.get ≤ maxI64 then some revision.get else none

/- The three arguments for the fence. The revision is bound as it is, not as an option. -/
def bindLease (lease : Option LeaseFence) : Except CapabilityError LeaseColumns := do
  let revision ← require (lease.bind (fun fence => toI64 fence.leaseRevision)) .recordInvalid
  return {
    leaseId := lease.map LeaseFence.leaseId, leaseRevision := some revision,
    leaseExpiresAt := lease.map (fun fence => (ofTimestamp fence.expiresAt).stored) }

/- The checks of the table. -/
def CapabilityRow.admitted (row : CapabilityRow) : Bool :=
  row.expiresAt == row.issuedAt.addSeconds 30 &&
    decide (row.expiresAt ≤ row.authorizationExpiresAt) &&
    match row.environmentClass, row.lease with
    | .experiment, ⟨none, none, none⟩ => true
    | .work, ⟨some _, some _, some stop⟩ => decide (row.expiresAt ≤ stop)
    | _, _ => false

/- `insert_capability`, with the course of the grant if the SELECT finds one. -/
def insertCapability (found : Option CourseId) : Except CapabilityError CapabilityRow := do
  let grantRevision ← require (toI64 capability.accessGrantRevision) .recordInvalid
  let environmentRevision ← require (toI64 capability.environmentRevision) .recordInvalid
  let lease ← bindLease capability.leaseFence
  let courseId ← require found .authorityDrift
  let row : CapabilityRow :=
    { accessGrantRevision := grantRevision, courseId,
      environmentClass := capability.environmentClass, environmentRevision,
      lease, issuedAt := (ofTimestamp capability.issuedAt).stored,
      expiresAt := (ofTimestamp capability.expiresAt).stored,
      authorizationExpiresAt := (ofTimestamp availability.expiresAt).stored }
  ensure (row.admitted = true) .storeUnavailable
  return row

/- The match of `consume_capability` on the columns of the fence. -/
def LeaseColumns.read : LeaseColumns → Except CapabilityError (Option LeaseFence)
| ⟨some id, some revision, some stop⟩ => do
  let revision ← require (Revision.new revision) .recordInvalid
  return some { leaseId := id, leaseRevision := revision, expiresAt := stop.utcTimestamp }
| ⟨none, none, none⟩ => return none
| _ => .error .recordInvalid

-- The Round Trip

/- A timestamp has whole milliseconds, and the database keeps microseconds. -/
theorem utcTimestamp_stored (timestamp : Int) :
    (ofTimestamp timestamp).stored.utcTimestamp = timestamp := by
  have hCut : (timestamp * 1000000 : Int) / 1000 * 1000 / 1000000 = timestamp := by
    omega
  exact hCut

/- What is bound is read back. -/
theorem read_of_bindLease {lease : Option LeaseFence} {columns : LeaseColumns}
    (hBind : bindLease lease = .ok columns) : columns.read = .ok lease := by
  simp only [bindLease, steps_eq_ok] at hBind
  rcases hBind with ⟨revision, hRevision, ⟨⟩⟩
  cases lease with
  | none => cases hRevision
  | some fence =>
    have hStored : toI64 fence.leaseRevision = some revision := hRevision
    unfold toI64 at hStored
    split at hStored
    · cases hStored
      have hNew : Revision.new fence.leaseRevision.get = some fence.leaseRevision :=
        dif_pos ⟨fence.leaseRevision.nonzero, fence.leaseRevision.bounded⟩
      simp only [LeaseColumns.read, Option.map_some, hNew, utcTimestamp_stored]
      rfl
    · cases hStored

variable {capability : ConsoleCapability} {availability : ConsoleCapabilityAvailability}

theorem fenceFits_of_validateAgainst (hAccepted : capability.validateAgainst availability = true) :
    fenceFits capability.environmentClass capability.expiresAt capability.leaseFence = true := by
  grind [ConsoleCapability.validateAgainst, ConsoleCapability.validate]

theorem leaseFence_isSome_iff (hAccepted : capability.validateAgainst availability = true) :
    capability.leaseFence.isSome = true ↔ capability.environmentClass = .work := by
  have hFits := fenceFits_of_validateAgainst hAccepted
  cases hFence : capability.leaseFence with
  | none =>
    rw [hFence] at hFits
    simpa [fenceFits] using hFits
  | some fence =>
    rw [hFence] at hFits
    simp only [fenceFits, Bool.and_eq_true, beq_iff_eq] at hFits
    simp [hFits.1]

/- An accepted capability is not refused for want of a fence, and its fence is read back as it was,
  exactly if the environment is a Work environment. -/
theorem issued_fence_kept_iff (hAccepted : capability.validateAgainst availability = true) :
    ((capability.leaseFence = none → ∃ columns, bindLease capability.leaseFence = .ok columns) ∧
      ∀ found row, insertCapability capability availability found = .ok row →
        row.lease.read = .ok capability.leaseFence) ↔ capability.environmentClass = .work := by
  rw [← leaseFence_isSome_iff hAccepted]
  constructor
  · rintro ⟨hBound, _⟩
    cases hFence : capability.leaseFence with
    | none =>
      rcases hBound hFence with ⟨columns, hColumns⟩
      rw [hFence] at hColumns
      cases hColumns
    | some fence => rfl
  · intro hSome
    refine ⟨fun hNone => ?_, fun found row hInsert => ?_⟩
    · rw [hNone] at hSome
      cases hSome
    · simp only [insertCapability, bind_eq_ok] at hInsert
      rcases hInsert with ⟨_, _, _, _, lease, hLease, _, _, _, _, ⟨⟩⟩
      exact read_of_bindLease hLease

theorem issued_fence_kept_work : ∃ row,
    insertCapability (Sample.capability .work) (Sample.availability .work) (some ⟨4⟩) = .ok row ∧
    row.lease.read = .ok (Sample.leaseFence .work) := by
  have hAccepted :
      (Sample.capability .work).validateAgainst (Sample.availability .work) = true := by
    decide
  have hTest : (insertCapability (Sample.capability .work) (Sample.availability .work)
      (some ⟨4⟩)).toOption.isSome = true := by
    decide
  rcases Option.isSome_iff_exists.mp hTest with ⟨row, hRow⟩
  have hInsert := eq_ok_of_toOption hRow
  exact ⟨row, hInsert, ((issued_fence_kept_iff hAccepted).mpr rfl).2 _ _ hInsert⟩

theorem experiment_capability_refused :
    (Sample.capability .experiment).validateAgainst (Sample.availability .experiment) = true ∧
    (insertCapability (Sample.capability .experiment) (Sample.availability .experiment)
      (some ⟨4⟩)).toOption.isNone = true ∧
    (bindLease (Sample.capability .experiment).leaseFence).toOption.isNone = true := by
  decide

end LabWeaver.Console
