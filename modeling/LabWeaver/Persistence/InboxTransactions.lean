import LabWeaver.Base.Sql
import LabWeaver.Environment.Messaging

/-
  This file models the inbox as concurrent transactions use it, statement by statement. The
  committed calls refine the inbox that decides in one step.

  Main declaration: `inbox_exactly_once`.
-/

namespace LabWeaver

open Outcome ReadCommitted Store Statement List Transaction

-- Deliveries

/- The arguments of `InboxStore::accept`. -/
structure InboxDelivery (δ : Type) where
  consumer : String
  (eventId aggregateId : BitVec 128)
  sequence : Nat
  payloadHash : δ
deriving DecidableEq

open InboxDelivery

variable {δ : Type}

namespace InboxDelivery

variable (delivery : InboxDelivery δ)

/- The row that an accepted delivery adds. -/
def event : InboxEvent (String × BitVec 128)
    (String × BitVec 128) δ where
  eventId := (delivery.consumer, delivery.eventId)
  aggregate := (delivery.consumer, delivery.aggregateId)
  sequence := delivery.sequence
  payloadHash := delivery.payloadHash

/- The checks before the first statement. -/
def check : Except PersistenceError Unit := do
  ensure (consumerTokenValid delivery.consumer) (.configuration
    ("consumer is empty, oversized, or contains control characters"))
  ensure (delivery.sequence ≤ maxI64) (.configuration "Inbox sequence exceeds BIGINT")
  ensure (delivery.sequence ≠ 0) (.configuration "Inbox sequence must be non-zero")

end InboxDelivery

-- Tables

/- `inbox_events` with its primary key, the unique index on consumer, aggregate and sequence
  number, and `inbox_watermarks`. -/
inductive InboxTable where
| events
| sequences
| watermarks
deriving DecidableEq

open InboxTable

namespace InboxTable

abbrev Id : InboxTable → Type
| .events => String × BitVec 128
| .sequences => (String × BitVec 128) × Nat
| .watermarks => String × BitVec 128

abbrev Row (δ : Type) : InboxTable → Type
| .events => InboxEvent (String × BitVec 128) (String × BitVec 128) δ
| .sequences => Unit
| .watermarks => Nat

instance : (t : InboxTable) → DecidableEq t.Id
| .events | .sequences | .watermarks => inferInstance

end InboxTable

abbrev InboxKey := Key Id

abbrev InboxRows (δ : Type) := Store InboxKey (Cell (Row δ))

namespace InboxDelivery

variable (delivery : InboxDelivery δ)

abbrev eventKey : InboxKey := ⟨.events, delivery.event.eventId⟩

abbrev sequenceKey : InboxKey :=
  ⟨.sequences, (delivery.event.aggregate, delivery.sequence)⟩

abbrev watermarkKey : InboxKey :=
  ⟨.watermarks, delivery.event.aggregate⟩

end InboxDelivery

-- Calls

/- Where a call of `InboxStore::accept` stands: before each of its statements, or with its
  result. -/
inductive InboxPhase where
| checking
| creating
| locking
| inserting (last : Nat)
| updating (last : Nat)
| decided (decision : InboxDecision)
| failed (error : PersistenceError)
deriving DecidableEq

structure InboxCall (δ : Type) where
  delivery : InboxDelivery δ
  phase : InboxPhase
deriving DecidableEq

namespace InboxCall

def start (delivery : InboxDelivery δ) : InboxCall δ where
  delivery := delivery
  phase :=
    match delivery.check with
    | .ok _ => .checking
    | .error error => .failed error

def moved (call : InboxCall δ) (phase : InboxPhase) : InboxCall δ := { call with phase }

/- What the first SELECT leads to. -/
def checked [DecidableEq δ] (call : InboxCall δ) : Option (Row δ .events) → InboxCall δ
| none => call.moved .creating
| some row =>
  if row.payloadHash = call.delivery.payloadHash then call.moved (.decided .duplicate)
  else call.moved (.failed (.identityMismatch "duplicate event ID has a different payload hash"))

/- What the watermark that has been locked leads to. -/
def compared (call : InboxCall δ) (last : Nat) : InboxCall δ :=
  if call.delivery.sequence < min (last + 1) maxI64 then call.moved (.decided .stale)
  else if min (last + 1) maxI64 < call.delivery.sequence then call.moved (.decided .gap)
  else call.moved (.inserting last)

/- What the number of changed watermarks leads to. -/
def updated (call : InboxCall δ) (rowsAffected : Nat) : InboxCall δ :=
  if rowsAffected ≠ 1 then
    call.moved (.failed (.identityMismatch "Inbox watermark changed while its row lock was held"))
  else call.moved (.decided .accepted)

/- The next statement of a call. A caller that receives an error rolls back. -/
def command [DecidableEq δ] (call : InboxCall δ) : Command InboxKey (Cell (Row δ)) (InboxCall δ) :=
  match call.phase with
  | .checking =>
    .execute (.query (fun _ => []) (fun view _ => some (call.checked
      (view.row call.delivery.eventKey))))
  | .creating =>
    .execute (.insertMissing call.delivery.watermarkKey (0 : Nat)
      (fun _ => some (call.moved .locking)))
  | .locking =>
    .execute (.query (fun snapshot =>
      if (snapshot.row call.delivery.watermarkKey).isSome then
        [(call.delivery.watermarkKey, .update)]
      else [])
      (fun view _ => (view.row call.delivery.watermarkKey).map call.compared))
  | .inserting last =>
    .execute (.insertIndexed call.delivery.eventKey call.delivery.event call.delivery.sequenceKey ()
      (call.moved (.updating last)))
  | .updating last =>
    .execute (.updateTable .watermarks (fun id row => id = call.delivery.event.aggregate ∧
      row = last)
      (fun _ => some call.delivery.sequence)
      (fun ids => some (call.updated ids.length)))
  | .decided _ => .commit
  | .failed _ => .execute (.query (fun _ => []) (fun _ _ => none))

end InboxCall

def inboxProtocol (δ : Type) [DecidableEq δ] : Protocol InboxKey (Cell (Row δ)) (InboxCall δ) where
  entry := fun call => decide (call = .start call.delivery)
  command := InboxCall.command

abbrev InboxSystem (δ : Type) := System InboxKey (Cell (Row δ)) (InboxCall δ)

def acceptedBy (system : InboxSystem δ) : Action (InboxCall δ) → List (InboxDelivery δ)
| .commit i =>
  match system.running i with
  | none => []
  | some tx => if tx.locals.phase = .decided .accepted then [tx.locals.delivery] else []
| _ => []

/- The calls on empty tables, with the deliveries accepted so far in the order of their commits. -/
def inboxMachine (δ : Type) [DecidableEq δ] : Machine (InboxSystem δ × List (InboxDelivery δ))
    (Action (InboxCall δ)) :=
  ((inboxProtocol δ).machine (fun rows => rows = .empty)).logged acceptedBy

variable {tx : Transaction InboxKey (Cell (Row δ)) (InboxCall δ)}

section

variable {committed committed' writes : InboxRows δ} {delivery : InboxDelivery δ}
  {call : InboxCall δ}

-- What A Call Has Written

/- A watermark that the call has added starts at zero. -/
def FreshWatermark (committed writes : InboxRows δ) (aggregate : String × BitVec 128) : Prop :=
  ∀ last : Nat, writes.row ⟨.watermarks, aggregate⟩ = some last →
    last = 0 ∧ committed.row ⟨.watermarks, aggregate⟩ = none

/- The call has added watermarks at most. -/
structure NothingEntered (committed writes : InboxRows δ) : Prop where
  events : ∀ id, writes.row ⟨.events, id⟩ = none
  sequences : ∀ id, writes.row ⟨.sequences, id⟩ = none
  watermarks : ∀ id, FreshWatermark committed writes id

variable (delivery)

/- The call has entered its event, which is a new one. -/
structure EventEntered (committed writes : InboxRows δ) : Prop where
  event : writes.row delivery.eventKey = some delivery.event
  events : ∀ id, id ≠ delivery.event.eventId → writes.row ⟨.events, id⟩ = none
  sequence : writes.row delivery.sequenceKey = some ()
  sequences : ∀ id, id ≠ (delivery.event.aggregate, delivery.sequence) →
    writes.row ⟨.sequences, id⟩ = none
  watermarks : ∀ id, id ≠ delivery.event.aggregate → FreshWatermark committed writes id
  unknown : committed.row delivery.eventKey = none
  free : committed.row delivery.sequenceKey = none

def watermarkOf (rows : InboxRows δ) (aggregate : String × BitVec 128) : Nat :=
  (rows.row ⟨.watermarks, aggregate⟩).getD 0

structure WatermarkMoved (committed writes : InboxRows δ) : Prop where
  moved : writes.row delivery.watermarkKey = some delivery.sequence
  next : delivery.sequence = min (watermarkOf committed delivery.event.aggregate + 1) maxI64

/- What the rows of a call look like in each phase. -/
def InboxPhase.Consistent (committed writes : InboxRows δ) : InboxPhase → Prop
| .inserting last => NothingEntered committed writes ∧ delivery.sequence = min (last + 1) maxI64
| .updating last =>
  EventEntered delivery committed writes ∧
  FreshWatermark committed writes delivery.event.aggregate ∧
  delivery.sequence = min (last + 1) maxI64
| .decided .accepted =>
  EventEntered delivery committed writes ∧ WatermarkMoved delivery committed writes
| .failed _ => True
| _ => NothingEntered committed writes

variable {delivery}

structure InboxCall.Sound (call : InboxCall δ) (committed writes : InboxRows δ) : Prop where
  passed : (∀ error, call.phase ≠ .failed error) → call.delivery.check = .ok ()
  consistent : call.phase.Consistent call.delivery committed writes

theorem InboxCall.sound_moved {phase : InboxPhase} (hPassed : call.delivery.check = .ok ())
    (hConsistent : phase.Consistent call.delivery committed writes) :
    (call.moved phase).Sound committed writes :=
  ⟨fun _ => hPassed, hConsistent⟩

-- Stability

section

variable (hSame : ∀ k, writes.row k ≠ none → committed'.row k = committed.row k)
include hSame

theorem FreshWatermark.stable {aggregate : String × BitVec 128}
    (hFresh : FreshWatermark committed writes aggregate) :
    FreshWatermark committed' writes aggregate := by
  intro last hRow
  rw [hSame _ (by rw [hRow]; exact Option.some_ne_none _)]
  exact hFresh last hRow

theorem NothingEntered.stable (hIdle : NothingEntered committed writes) :
    NothingEntered committed' writes :=
  ⟨hIdle.events, hIdle.sequences, fun id => (hIdle.watermarks id).stable hSame⟩

theorem EventEntered.stable (hEntered : EventEntered delivery committed writes) :
    EventEntered delivery committed' writes where
  event := hEntered.event
  events := hEntered.events
  sequence := hEntered.sequence
  sequences := hEntered.sequences
  watermarks := fun id hOther => (hEntered.watermarks id hOther).stable hSame
  unknown := by
    rw [hSame _ (by
      rw [hEntered.event]
      exact Option.some_ne_none _)]
    exact hEntered.unknown
  free := by
    rw [hSame _ (by
      rw [hEntered.sequence]
      exact Option.some_ne_none _)]
    exact hEntered.free

theorem WatermarkMoved.stable (hMoved : WatermarkMoved delivery committed writes) :
    WatermarkMoved delivery committed' writes where
  moved := hMoved.moved
  next := by
    rw [watermarkOf, hSame _ (by
      rw [hMoved.moved]
      exact Option.some_ne_none _)]
    exact hMoved.next

/- A call depends only on the rows it has written. -/
theorem InboxCall.Sound.stable (hSound : call.Sound committed writes) :
    call.Sound committed' writes := by
  refine ⟨hSound.passed, ?_⟩
  have hConsistent := hSound.consistent
  cases hPhase : call.phase with
  | checking | creating | locking =>
    rw [hPhase] at hConsistent
    exact NothingEntered.stable hSame hConsistent
  | inserting last =>
    rw [hPhase] at hConsistent
    exact ⟨hConsistent.1.stable hSame, hConsistent.2⟩
  | updating last =>
    rw [hPhase] at hConsistent
    rcases hConsistent with ⟨hEntered, hFresh, hNext⟩
    exact ⟨hEntered.stable hSame, hFresh.stable hSame, hNext⟩
  | decided decision =>
    rw [hPhase] at hConsistent
    cases decision with
    | accepted => exact ⟨hConsistent.1.stable hSame, hConsistent.2.stable hSame⟩
    | duplicate | stale | gap => exact NothingEntered.stable hSame hConsistent
  | failed error => exact trivial

end

-- Statements

section

variable {snapshot new : InboxRows δ} {locks : Locks InboxKey} {result : InboxCall δ}

namespace InboxCall

section

variable (hPassed : call.delivery.check = .ok ())

include hPassed

theorem checked_sound [DecidableEq δ] (hIdle : NothingEntered committed writes)
    (row : Option (Row δ .events)) : (call.checked row).Sound committed writes := by
  cases row with
  | none => exact sound_moved hPassed hIdle
  | some row =>
    rw [checked]
    split
    · exact sound_moved hPassed hIdle
    · exact sound_moved hPassed trivial

theorem compared_sound (hIdle : NothingEntered committed writes) (last : Nat) :
    (call.compared last).Sound committed writes := by
  rw [compared]
  split
  · exact sound_moved hPassed hIdle
  · rename_i hNotStale
    split
    · exact sound_moved hPassed hIdle
    · rename_i hNotGap
      refine sound_moved hPassed ⟨hIdle, ?_⟩
      omega

/- The watermark that is added was not there. -/
theorem created_sound (hIdle : NothingEntered committed tx.writes)
    (hRun : (insertMissing call.delivery.watermarkKey (0 : Nat)
      (fun _ => some (call.moved .locking))).run (tx.view committed snapshot locks) locks =
      some (result, new)) : result.Sound committed (new.overlay tx.writes) := by
  rcases insertMissing_run hRun with ⟨hNext, rfl⟩ | ⟨hNext, hNew, hLocked, rfl⟩
  · cases hNext
    exact sound_moved hPassed hIdle
  · cases hNext
    rw [view_row_of_writes hLocked, overlay_row_eq_none] at hNew
    refine sound_moved hPassed ⟨?_, ?_, ?_⟩
    · intro id
      simpa [single_overlay_row_of_ne] using hIdle.events id
    · intro id
      simpa [single_overlay_row_of_ne] using hIdle.sequences id
    · intro id last hRow
      by_cases hId : call.delivery.event.aggregate = id
      · subst hId
        rw [single_overlay_row] at hRow
        cases hRow
        exact ⟨rfl, hNew.2⟩
      · rw [single_overlay_row_of_ne _ _ (by simpa using hId)] at hRow
        exact hIdle.watermarks id last hRow

theorem inserted_sound {last : Nat} (hIdle : NothingEntered committed tx.writes)
    (hNext : call.delivery.sequence = min (last + 1) maxI64)
    (hRun : (insertIndexed call.delivery.eventKey
      call.delivery.event call.delivery.sequenceKey () (call.moved (.updating last))).run
      (tx.view committed snapshot locks) locks =
      some (result, new)) : result.Sound committed (new.overlay tx.writes) := by
  rcases insertIndexed_run hRun with ⟨rfl, ⟨hEventLocked, hEvent⟩, ⟨hIndexLocked, hIndex⟩, rfl⟩
  rw [view_row_of_writes hEventLocked, overlay_row_eq_none] at hEvent
  rw [view_row_of_writes hIndexLocked, overlay_row_eq_none] at hIndex
  -- a watermark is neither the row nor its index entry
  have hFresh : ∀ id, FreshWatermark committed (((single call.delivery.eventKey
        call.delivery.event).overlay
      (.single call.delivery.sequenceKey ())).overlay tx.writes) id := by
    intro id last hRow
    rw [overlay_assoc_row] at hRow
    refine hIdle.watermarks id last ?_
    simpa [single_overlay_row_of_ne] using hRow
  refine sound_moved hPassed ⟨⟨?_, ?_, ?_, ?_, fun id _ => hFresh id, hEvent.2,
    hIndex.2⟩, hFresh _, hNext⟩
  · rw [overlay_assoc_row, single_overlay_row]
  · intro id hOther
    rw [overlay_assoc_row]
    simpa [single_overlay_row_of_ne, Ne.symm hOther] using hIdle.events id
  · rw [overlay_assoc_row]
    simp [single_overlay_row_of_ne]
  · intro id hOther
    rw [overlay_assoc_row]
    simpa [single_overlay_row_of_ne, Ne.symm hOther] using hIdle.sequences id

/- The watermark that is moved is the one that the number of the event was compared with. -/
theorem updated_sound {last : Nat} (hEntered : EventEntered call.delivery committed tx.writes)
    (hFresh : FreshWatermark committed tx.writes call.delivery.event.aggregate)
    (hNext : call.delivery.sequence = min (last + 1) maxI64)
    (hRun : (.updateTable .watermarks (fun id row => id = call.delivery.event.aggregate ∧
          row = last) (fun _ => some call.delivery.sequence)
      (fun ids => some (call.updated ids.length)) :
      Statement InboxKey (Cell (Row δ)) (InboxCall δ)).run
      (tx.view committed snapshot locks) locks =
      some (result, new)) : result.Sound committed (new.overlay tx.writes) := by
  rcases updateTable_run hRun with ⟨ids, ⟨⟩, hUpdated⟩
  rw [updated]
  split
  · exact sound_moved hPassed trivial
  · rename_i hOne
    rcases length_eq_one_iff.mp (not_ne_iff.mp hOne) with ⟨id, rfl⟩
    rcases hUpdated.returned.mp mem_cons_self with ⟨hLocked, row, hRow, hCondition⟩
    rcases of_decide_eq_true hCondition with ⟨rfl, rfl⟩
    have hMoved : new.row call.delivery.watermarkKey = some call.delivery.sequence :=
      hUpdated.written.mpr ⟨mem_cons_self, row, hRow, rfl⟩
    have hOthers : ∀ id, id ≠ call.delivery.event.aggregate → new.row ⟨.watermarks, id⟩ = none := by
      intro id hOther
      by_contra hWritten
      rcases Option.ne_none_iff_exists'.mp hWritten with ⟨changed, hChanged⟩
      have hMember := (hUpdated.changed hChanged).1
      exact hOther (mem_singleton.mp hMember)
    have hLast : watermarkOf committed call.delivery.event.aggregate = row := by
      rw [watermarkOf]
      rcases own_or_committed hLocked hRow with hOwn | hCommitted
      · rcases hFresh row hOwn with ⟨rfl, hAbsent⟩
        rw [hAbsent]
        rfl
      · rw [hCommitted]
        rfl
    refine sound_moved hPassed ⟨⟨?_, ?_, ?_, ?_, ?_, hEntered.unknown, hEntered.free⟩, ?_, ?_⟩
    · rw [overlay_row_of_none (hUpdated.others (by decide))]
      exact hEntered.event
    · intro id hOther
      rw [overlay_row_of_none (hUpdated.others (by decide))]
      exact hEntered.events id hOther
    · rw [overlay_row_of_none (hUpdated.others (by decide))]
      exact hEntered.sequence
    · intro id hOther
      rw [overlay_row_of_none (hUpdated.others (by decide))]
      exact hEntered.sequences id hOther
    · intro id hOther last hLast
      rw [overlay_row_of_none (hOthers id hOther)] at hLast
      exact hEntered.watermarks id hOther last hLast
    · exact overlay_row_of_some hMoved
    · rwa [hLast]

end

end InboxCall

end

-- The Protocol

section

theorem InboxCall.start_sound (delivery : InboxDelivery δ) (committed : InboxRows δ) :
    (InboxCall.start delivery).Sound committed .empty := by
  have hIdle : NothingEntered committed .empty :=
    ⟨fun _ => rfl, fun _ => rfl, fun _ _ hRow => by cases hRow⟩
  cases hCheck : delivery.check with
  | ok _ =>
    rw [start, hCheck]
    exact ⟨fun _ => hCheck, hIdle⟩
  | error error =>
    rw [start, hCheck]
    exact ⟨fun hRuns => absurd rfl (hRuns error), trivial⟩

variable [DecidableEq δ]

/- Every statement keeps what its call relies on. -/
theorem InboxCall.Sound.statement
    {tx : Transaction InboxKey (Cell (Row δ)) (InboxCall δ)} {snapshot new : InboxRows δ}
    {locks : Locks InboxKey} {result : InboxCall δ}
    {statement : Statement InboxKey (Cell (Row δ)) (InboxCall δ)}
    (hSound : tx.locals.Sound committed tx.writes)
    (hCommand : tx.locals.command = .execute statement)
    (hRun : statement.run (tx.view committed snapshot locks) locks = some (result, new)) :
    result.Sound committed (new.overlay tx.writes) := by
  rcases hSound with ⟨hPassed, hConsistent⟩
  rw [InboxCall.command] at hCommand
  cases hPhase : tx.locals.phase <;> rw [hPhase] at hPassed hConsistent hCommand <;>
    cases hCommand
  case failed => cases hRun
  all_goals have hChecked := hPassed (fun _ h => by cases h)
  case checking =>
    rcases query_run hRun with ⟨⟨⟩, rfl⟩
    exact checked_sound hChecked hConsistent _
  case creating => exact created_sound hChecked hConsistent hRun
  case locking =>
    rcases query_run hRun with ⟨hResult, rfl⟩
    rcases Option.map_eq_some_iff.mp hResult with ⟨last, _, rfl⟩
    exact compared_sound hChecked hConsistent last
  case inserting last => exact inserted_sound hChecked hConsistent.1 hConsistent.2 hRun
  case updating last =>
    rcases hConsistent with ⟨hEntered, hFresh, hNext⟩
    exact updated_sound hChecked hEntered hFresh hNext hRun

theorem inboxProtocol_maintains : (inboxProtocol δ).Maintains (fun _ _ => True) (fun _ => True)
    (fun committed tx => tx.locals.Sound committed tx.writes) (fun _ _ => True) where
  begin := by
    intro s call _ _ hEntry
    have hStart : call = .start call.delivery := of_decide_eq_true hEntry
    rw [hStart]
    exact InboxCall.start_sound _ s.committed
  start := by
    intro s i tx statement hSound _ hRunning _ _
    have hEach := hSound.each hRunning
    exact hEach
  finish := fun _ hSound hCommand _ hRun => hSound.statement hCommand hRun
  stable := by
    intro committed tx other _ _ hOther _ hCompatible _
    refine hOther.stable ?_
    intro k hWritten
    exact overlay_row_of_protects hCompatible (other.covered k hWritten).protects

end

end

-- Refinement

section

variable {rows writes : InboxRows δ}
  {inbox : Inbox maxI64 (String × BitVec 128) (String × BitVec 128) δ}
  {delivery : InboxDelivery δ}

/- The tables hold the content of an inbox. -/
structure Represents (rows : InboxRows δ) (inbox : Inbox maxI64 (String × BitVec 128)
    (String × BitVec 128) δ) : Prop where
  events : ∀ id, rows.row ⟨.events, id⟩ = inbox.find id
  sequences : ∀ aggregate sequence, rows.row ⟨.sequences, (aggregate, sequence)⟩ ≠ none ↔
    ∃ event ∈ inbox.events, event.aggregate = aggregate ∧ event.sequence = sequence
  watermarks : ∀ aggregate, watermarkOf rows aggregate = inbox.watermark aggregate

theorem represents_empty : Represents (.empty : InboxRows δ) .empty where
  events := fun _ => rfl
  sequences := by
    intro aggregate sequence
    simp [Inbox.empty]
  watermarks := fun _ => rfl

/- A watermark that is added at zero is none. -/
theorem FreshWatermark.watermarkOf_overlay {aggregate : String × BitVec 128}
    (hFresh : FreshWatermark rows writes aggregate) :
    watermarkOf (writes.overlay rows) aggregate = watermarkOf rows aggregate := by
  unfold watermarkOf
  cases hRow : writes.row ⟨.watermarks, aggregate⟩ with
  | none => rw [overlay_row_of_none hRow]
  | some last =>
    rcases hFresh last hRow with ⟨rfl, hAbsent⟩
    rw [overlay_row_of_some hRow, hAbsent]
    rfl

/- A commit without an event leaves the inbox as it is. -/
theorem Represents.idle (hRepresents : Represents rows inbox) (hIdle : NothingEntered rows writes) :
    Represents (writes.overlay rows) inbox where
  events := by
    intro id
    rw [overlay_row_of_none (hIdle.events id)]
    exact hRepresents.events id
  sequences := by
    intro aggregate sequence
    rw [overlay_row_of_none (hIdle.sequences (aggregate, sequence))]
    exact hRepresents.sequences aggregate sequence
  watermarks := by
    intro aggregate
    rw [(hIdle.watermarks aggregate).watermarkOf_overlay]
    exact hRepresents.watermarks aggregate

/- The commit of an accepted delivery is the step of the inbox that accepts it. -/
theorem Represents.commit [DecidableEq δ] (hRepresents : Represents rows inbox)
    (hEntered : EventEntered delivery rows writes) (hMoved : WatermarkMoved delivery rows writes) :
    ∃ inbox', inbox.accept delivery.event = .ok (.accepted, inbox') ∧
      inbox'.events = delivery.event :: inbox.events ∧ Represents (writes.overlay rows) inbox' := by
  have hUnknown : inbox.find delivery.event.eventId = none := by
    rw [← hRepresents.events]
    exact hEntered.unknown
  have hNext : delivery.event.sequence = inbox.expected delivery.event.aggregate := by
    rw [Inbox.expected, ← hRepresents.watermarks]
    exact hMoved.next
  have hFree : ¬inbox.Taken delivery.event := by
    intro hTaken
    exact (hRepresents.sequences _ _).mpr hTaken hEntered.free
  have hLimit : delivery.event.sequence ≤ maxI64 := by
    rw [hNext]
    exact Nat.min_le_right _ _
  refine ⟨inbox.record delivery.event hLimit, Inbox.accept_eq_accepted_iff.mpr
    ⟨hUnknown, hNext, hFree, hLimit, rfl⟩, rfl, ?_, ?_, ?_⟩
  · intro id
    have hFind : (inbox.record delivery.event hLimit).find id =
        if delivery.event.eventId = id then some delivery.event else inbox.find id :=
      Rows.lookup_insert _ _ _
    rw [hFind]
    split
    · rename_i hSame
      subst hSame
      exact overlay_row_of_some hEntered.event
    · rename_i hOther
      rw [overlay_row_of_none (hEntered.events id (Ne.symm hOther))]
      exact hRepresents.events id
  · intro aggregate sequence
    have hEvents : (inbox.record delivery.event hLimit).events =
        delivery.event :: inbox.events := rfl
    rw [hEvents]
    simp only [exists_mem_cons_iff]
    by_cases hSame : (aggregate, sequence) = (delivery.event.aggregate, delivery.sequence)
    · cases hSame
      rw [overlay_row_of_some hEntered.sequence]
      simp [event]
    · rw [overlay_row_of_none (hEntered.sequences _ hSame),
        hRepresents.sequences aggregate sequence]
      constructor
      · exact Or.inr
      · rintro (⟨rfl, rfl⟩ | hOld)
        · exact absurd rfl hSame
        · exact hOld
  · intro aggregate
    by_cases hSame : aggregate = delivery.event.aggregate
    · subst hSame
      rw [Inbox.watermark_record_self, watermarkOf, overlay_row_of_some hMoved.moved]
      rfl
    · rw [Inbox.watermark_record_of_ne hLimit hSame, (hEntered.watermarks aggregate
        hSame).watermarkOf_overlay]
      exact hRepresents.watermarks aggregate

-- Histories

/- What holds of the calls, the tables and the accepted deliveries in every state. -/
structure InboxHistory (p : InboxSystem δ × List (InboxDelivery δ)) : Prop where
  sound : Protocol.Sound (fun _ => True) (fun committed tx => tx.locals.Sound committed tx.writes)
    (fun _ _ => True)
    p.1
  recorded : ∃ inbox, Represents p.1.committed inbox ∧ inbox.Exact ∧ inbox.events =
    (p.2.map event).reverse

variable {p : InboxSystem δ × List (InboxDelivery δ)}

theorem InboxHistory.numbers (hHistory : InboxHistory p) (consumer : String)
    (aggregateId : BitVec 128) :
    ∃ last, (p.2.filter (fun delivery => delivery.consumer = consumer ∧
          delivery.aggregateId = aggregateId)).map sequence = List.range' 1 last := by
  rcases hHistory.recorded with ⟨inbox, _, hExact, hEvents⟩
  have hNumbered := hExact.numbered (consumer, aggregateId)
  rw [hEvents, filter_reverse, map_reverse,
    reverse_inj, filter_map, map_map]
    at hNumbered
  refine ⟨inbox.watermark (consumer, aggregateId), ?_⟩
  rw [← hNumbered]
  have hSame : (fun delivery : InboxDelivery δ =>
        decide (delivery.consumer = consumer ∧ delivery.aggregateId = aggregateId)) =
      (fun event : InboxEvent (String × BitVec 128) (String × BitVec 128) δ =>
        decide (event.aggregate = (consumer, aggregateId))) ∘
        event := by
    funext delivery
    simp [event]
  rw [hSame]
  rfl

theorem InboxHistory.distinct (hHistory : InboxHistory p) (consumer : String) :
    ((p.2.filter (fun delivery => delivery.consumer = consumer)).map
      eventId).Nodup := by
  rcases hHistory.recorded with ⟨inbox, _, hExact, hEvents⟩
  have hDistinct := hExact.distinct
  rw [hEvents, map_reverse, nodup_reverse, map_map] at hDistinct
  have hPart := hDistinct.sublist ((filter_sublist (p := fun delivery : InboxDelivery δ =>
    delivery.consumer = consumer)).map _)
  -- the consumer is the same, so the identifiers differ
  refine List.Nodup.of_map (Prod.mk consumer) ?_
  rw [map_map]
  convert hPart using 1
  refine map_congr_left ?_
  intro delivery hDelivery
  have hConsumer := of_decide_eq_true (mem_filter.mp hDelivery).2
  simp [event, hConsumer]

/- A call whose event is in the tables is not accepted. -/
theorem InboxHistory.not_again {i : Nat} (hHistory : InboxHistory p)
    (hRunning : p.1.running i = some tx)
    (hKnown : ∃ delivery ∈ p.2, delivery.consumer = tx.locals.delivery.consumer ∧
      delivery.eventId = tx.locals.delivery.eventId) : tx.locals.phase ≠ .decided .accepted := by
  intro hAccepted
  rcases hHistory.recorded with ⟨inbox, hRepresents, _, hEvents⟩
  rcases hKnown with ⟨delivery, hMember, hConsumer, hId⟩
  have hConsistent := (hHistory.sound.each hRunning).consistent
  rw [hAccepted] at hConsistent
  have hUnknown := hConsistent.1.unknown
  rw [hRepresents.events] at hUnknown
  refine Rows.lookup_eq_none_iff.mp hUnknown delivery.event ?_ ?_
  · rw [hEvents, mem_reverse]
    exact mem_map_of_mem hMember
  · simp [event, hConsumer, hId]

variable [DecidableEq δ]

/- What the end of a call adds to the inbox. -/
theorem InboxHistory.publish {i : Nat} (hHistory : InboxHistory p)
    (hRunning : p.1.running i = some tx) (hCommand : tx.locals.command = .commit) :
    ∃ inbox, Represents (tx.writes.overlay p.1.committed) inbox ∧ inbox.Exact ∧ inbox.events =
      ((p.2 ++ acceptedBy p.1 (.commit i)).map event).reverse := by
  rcases hHistory.recorded with ⟨inbox, hRepresents, hExact, hEvents⟩
  rcases hHistory.sound.each hRunning with ⟨hPassed, hConsistent⟩
  cases hPhase : tx.locals.phase with
  | decided decision =>
    rw [hPhase] at hPassed hConsistent
    have hChecked := hPassed (fun _ h => by cases h)
    cases decision with
    | accepted =>
      rcases hConsistent with ⟨hEntered, hMoved⟩
      rcases hRepresents.commit hEntered hMoved with ⟨inbox', hAccept, hAdded, hAfter⟩
      simp only [InboxDelivery.check, steps_eq_ok] at hChecked
      refine ⟨inbox', hAfter, hExact.accept (Nat.pos_of_ne_zero hChecked.2.2) hAccept, ?_⟩
      rw [hAdded, hEvents]
      simp [acceptedBy, hRunning, hPhase]
    | duplicate | stale | gap =>
      refine ⟨inbox, hRepresents.idle hConsistent, hExact, ?_⟩
      rw [hEvents]
      simp [acceptedBy, hRunning, hPhase]
  | _ =>
    rw [InboxCall.command, hPhase] at hCommand
    cases hCommand

theorem InboxHistory.step {p' : InboxSystem δ × List (InboxDelivery δ)}
    {action : Action (InboxCall δ)} (hHistory : InboxHistory p)
    (hStep : (inboxMachine δ).step p action = some p') : InboxHistory p' := by
  rcases Machine.logged_step_eq_some.mp hStep with ⟨hTaken, hLog⟩
  have hTaken : (inboxProtocol δ).step p.1 action = some p'.1 := hTaken
  have hSound := inboxProtocol_maintains.step hHistory.sound trivial hTaken
  refine ⟨hSound, ?_⟩
  rw [hLog]
  -- only a commit changes the tables or the log
  cases action with
  | commit i =>
    rcases Protocol.step_commit_eq_some hTaken with ⟨tx, hRunning, hCommand, hAfter⟩
    rw [hAfter]
    exact hHistory.publish hRunning hCommand
  | begin _ | start _ | finish _ | abort _ =>
    rw [Protocol.committed_of_step hTaken (fun _ h => by cases h)]
    simpa [acceptedBy] using hHistory.recorded

theorem inbox_history (hReach : (inboxMachine δ).Reachable p) : InboxHistory p := by
  refine Machine.Run.invariant ?_ ?_ hReach
  · rintro ⟨system, log⟩ ⟨hInit, hLog⟩
    have hSound := inboxProtocol_maintains.run (fun _ _ => trivial) (.start hInit)
    refine ⟨hSound, .empty, ?_, Inbox.exact_empty, ?_⟩
    · rw [hInit.1]
      exact represents_empty
    · rw [hLog]
      rfl
  · intro p action p' hHistory _ hStep
    exact hHistory.step hStep

/- The deliveries accepted for an aggregate carry the numbers from one on, in the order of their
  commits. No event is accepted twice, and no call whose event has been accepted ends up
  accepted. -/
theorem inbox_exactly_once {p : InboxSystem δ × List (InboxDelivery δ)}
    (hReach : (inboxMachine δ).Reachable p) (consumer : String) :
    (∀ aggregateId, (p.2.filter (fun delivery => delivery.consumer = consumer ∧
          delivery.aggregateId = aggregateId)).map sequence =
      List.range' 1 (p.2.filter (fun delivery => delivery.consumer = consumer ∧
        delivery.aggregateId = aggregateId)).length) ∧
    ((p.2.filter (fun delivery => delivery.consumer = consumer)).map eventId).Nodup ∧
    ∀ i tx, p.1.running i = some tx → (∃ delivery ∈ p.2,
      delivery.consumer = tx.locals.delivery.consumer ∧
      delivery.eventId = tx.locals.delivery.eventId) → tx.locals.phase ≠ .decided .accepted := by
  have hHistory := inbox_history hReach
  refine ⟨?_, hHistory.distinct consumer, ?_⟩
  · intro aggregateId
    rcases hHistory.numbers consumer aggregateId with ⟨last, hNumbers⟩
    have hLength := congrArg List.length hNumbers
    rw [length_map, length_range'] at hLength
    rwa [hLength]
  · intro i tx hRunning hKnown
    exact hHistory.not_again hRunning hKnown

end

-- A Redelivery

namespace InboxSample

def delivery (number : Nat) : InboxDelivery Nat where
  consumer := "agent"
  eventId := BitVec.ofNat 128 (10 + number)
  aggregateId := 1
  sequence := number
  payloadHash := number

def runs (i statements : Nat) : List (Action (InboxCall Nat)) :=
  (List.replicate statements [.start i, .finish i]).flatten

/- The first event is delivered twice at the same time. The call that comes second waits for the
  first one. -/
def redelivered : List (Action (InboxCall Nat)) :=
  [.begin (.start (delivery 1)), .begin (.start (delivery 1))]
    ++ runs 0 1 ++ runs 1 1 ++ runs 0 4 ++ [.commit 0]
    ++ runs 1 2 ++ [.commit 1, .begin (.start (delivery 2))]
    ++ runs 2 5 ++ [.commit 2]

def entered (p : InboxSystem Nat × List (InboxDelivery Nat)) : Bool :=
  p.2 = [delivery 1, delivery 2] ∧
  p.1.transactions.map (fun tx => tx.locals.phase) = [.decided .accepted, .decided .stale,
    .decided .accepted]

end InboxSample

/- Two numbers are entered, and a redelivery is stale. -/
theorem inbox_exactly_once_redelivered : ∃ p, (inboxMachine Nat).Reachable p ∧
    InboxSample.entered p = true ∧ ((p.2.filter (fun delivery => delivery.consumer = "agent")).map
      eventId).Nodup := by
  have hFound : ∃ p, (inboxMachine Nat).Reachable p ∧ InboxSample.entered p = true :=
    Machine.exists_reachable InboxSample.redelivered (s := (System.mk .empty [], []))
      ⟨⟨rfl, rfl⟩, rfl⟩
      (by decide)
  rcases hFound with ⟨p, hReach, hEntered⟩
  exact ⟨p, hReach, hEntered, (inbox_exactly_once hReach "agent").2.1⟩

end LabWeaver
