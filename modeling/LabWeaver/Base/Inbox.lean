import Mathlib.Logic.Function.Basic
import LabWeaver.Base.Rows

/-
  This file defines inboxes: a consumer records the events it has processed, and for every
  aggregate the last sequence number. It takes an event only if it is the next one of its
  aggregate.
-/

/- An event with its identity `ι`, its aggregate `α`, its number in the aggregate, and the hash of
  its payload. -/
structure InboxEvent (ι α δ : Type) where
  eventId : ι
  aggregate : α
  sequence : Nat
  payloadHash : δ

/- The processed events, and the last sequence number of every aggregate. The columns hold numbers
  up to `limit`. -/
structure Inbox (limit : Nat) (ι α δ : Type) where
  events : List (InboxEvent ι α δ)
  watermark : α → Nat
  bounded : ∀ aggregate, watermark aggregate ≤ limit

inductive InboxDecision where
| accepted
| duplicate
| stale
| gap
deriving DecidableEq

/- An identity comes back with another payload, or the number of the event is taken. -/
inductive InboxFault where
| mismatch
| taken

namespace Inbox

variable {limit : Nat} {ι α δ : Type}

-- Operations

section

variable [DecidableEq ι] [DecidableEq α] [DecidableEq δ]

def empty : Inbox limit ι α δ where
  events := []
  watermark := fun _ => 0
  bounded := fun _ => Nat.zero_le limit

variable (inbox : Inbox limit ι α δ)

/- The processed event with a given identity. -/
def find (eventId : ι) : Option (InboxEvent ι α δ) :=
  Rows.lookup InboxEvent.eventId inbox.events eventId

/- The number of the next event of an aggregate, which saturates at the limit. -/
def expected (aggregate : α) : Nat := min (inbox.watermark aggregate + 1) limit

variable (event : InboxEvent ι α δ)

/- The number of an event is that of a processed event. -/
def Taken : Prop :=
  ∃ row ∈ inbox.events, row.aggregate = event.aggregate ∧ row.sequence = event.sequence

instance (inbox : Inbox limit ι α δ) {event} : Decidable (inbox.Taken event) :=
  inferInstanceAs (Decidable (∃ row ∈ _, _ ∧ _))

/- Enter an event and move its watermark to it. -/
def record (hLimit : event.sequence ≤ limit) : Inbox limit ι α δ where
  events := event :: inbox.events
  watermark := Function.update inbox.watermark event.aggregate event.sequence
  bounded := by
    intro aggregate
    by_cases hSame : aggregate = event.aggregate
    · subst hSame
      rwa [Function.update_self]
    · rw [Function.update_of_ne hSame]
      exact inbox.bounded aggregate

/- Decide about an event, and enter it if it is next. -/
def accept : Except InboxFault (InboxDecision × Inbox limit ι α δ) :=
  match inbox.find event.eventId with
  | some row =>
    if row.payloadHash = event.payloadHash then .ok (.duplicate, inbox) else .error .mismatch
  | none =>
    if event.sequence < inbox.expected event.aggregate then .ok (.stale, inbox)
    else if hGap : inbox.expected event.aggregate < event.sequence then .ok (.gap, inbox)
    else if inbox.Taken event then .error .taken
    else
      .ok (.accepted, inbox.record event (Nat.le_trans (Nat.le_of_not_lt hGap)
        (Nat.min_le_right _ _)))

end

-- Decisions

variable {inbox inbox' : Inbox limit ι α δ} {event : InboxEvent ι α δ}

section

variable [DecidableEq ι] [DecidableEq α] [DecidableEq δ] {decision : InboxDecision}

/- An event whose identity is known changes nothing. -/
theorem accept_of_known {row : InboxEvent ι α δ} (hKnown : inbox.find event.eventId = some row)
    (hAccept : inbox.accept event = .ok (decision, inbox')) :
    decision = .duplicate ∧ inbox' = inbox := by
  rw [accept, hKnown] at hAccept
  by_cases hHash : row.payloadHash = event.payloadHash
  · simp only [if_pos hHash] at hAccept
    cases hAccept
    exact ⟨rfl, rfl⟩
  · simp only [if_neg hHash] at hAccept
    cases hAccept

theorem accept_of_unknown (hUnknown : inbox.find event.eventId = none)
    (hAccept : inbox.accept event = .ok (decision, inbox')) :
    (decision = .stale ∧ inbox' = inbox ∧ event.sequence < inbox.expected event.aggregate) ∨
      (decision = .gap ∧ inbox' = inbox ∧ inbox.expected event.aggregate < event.sequence) ∨
      (decision = .accepted ∧ event.sequence = inbox.expected event.aggregate ∧
        ∃ hLimit, inbox' = inbox.record event hLimit) := by
  rw [accept, hUnknown] at hAccept
  rcases Nat.lt_trichotomy event.sequence (inbox.expected event.aggregate) with
    hStale | hNext | hGap
  · simp only [if_pos hStale] at hAccept
    cases hAccept
    exact .inl ⟨rfl, rfl, hStale⟩
  · have hNotStale := Nat.not_lt_of_le (Nat.le_of_eq hNext.symm)
    have hNotGap := Nat.not_lt_of_le (Nat.le_of_eq hNext)
    simp only [if_neg hNotStale, dif_neg hNotGap] at hAccept
    by_cases hTaken : inbox.Taken event
    · simp only [if_pos hTaken] at hAccept
      cases hAccept
    · simp only [if_neg hTaken] at hAccept
      cases hAccept
      exact .inr (.inr ⟨rfl, hNext, _, rfl⟩)
  · simp only [if_neg (Nat.lt_asymm hGap), dif_pos hGap] at hAccept
    cases hAccept
    exact .inr (.inl ⟨rfl, rfl, hGap⟩)

/- Only an accepted event changes the inbox, and an event is accepted only as the next one of its
  aggregate. -/
theorem accept_eq_ok (hAccept : inbox.accept event = .ok (decision, inbox')) :
    (decision ≠ .accepted ∧ inbox' = inbox) ∨ (decision = .accepted ∧
      event.sequence = inbox.expected event.aggregate ∧
      ∃ hLimit, inbox' = inbox.record event hLimit) := by
  cases hFind : inbox.find event.eventId with
  | some row =>
    rcases accept_of_known hFind hAccept with ⟨rfl, hSame⟩
    exact .inl ⟨nofun, hSame⟩
  | none =>
    rcases accept_of_unknown hFind hAccept with ⟨rfl, hSame, -⟩ | ⟨rfl, hSame, -⟩ | hAccepted
    · exact .inl ⟨nofun, hSame⟩
    · exact .inl ⟨nofun, hSame⟩
    · exact .inr hAccepted

/- An event is a gap exactly if it was not processed and is not yet next. -/
theorem accept_eq_gap_iff : (∃ inbox', inbox.accept event = .ok (.gap, inbox')) ↔
    inbox.find event.eventId = none ∧ inbox.expected event.aggregate < event.sequence := by
  constructor
  · rintro ⟨inbox', hAccept⟩
    cases hFind : inbox.find event.eventId with
    | some row => cases (accept_of_known hFind hAccept).1
    | none =>
      rcases accept_of_unknown hFind hAccept with ⟨hStale, -⟩ | ⟨-, -, hGap⟩ | ⟨hAccepted, -⟩
      · cases hStale
      · exact ⟨rfl, hGap⟩
      · cases hAccepted
  · rintro ⟨hFresh, hGap⟩
    refine ⟨inbox, ?_⟩
    rw [accept, hFresh]
    simp only [if_neg (Nat.lt_asymm hGap), dif_pos hGap]

/- An event is accepted exactly if it was not processed, is next, and its number is free. -/
theorem accept_eq_accepted_iff : inbox.accept event = .ok (.accepted, inbox') ↔
    inbox.find event.eventId = none ∧ event.sequence = inbox.expected event.aggregate ∧
    ¬inbox.Taken event ∧ ∃ hLimit, inbox' = inbox.record event hLimit := by
  constructor
  · intro hAccept
    cases hFind : inbox.find event.eventId with
    | some row => cases (accept_of_known hFind hAccept).1
    | none =>
      rcases accept_of_unknown hFind hAccept with ⟨hStale, -⟩ | ⟨hGap, -⟩ | ⟨-, hNext, hRecord⟩
      · cases hStale
      · cases hGap
      · refine ⟨rfl, hNext, ?_, hRecord⟩
        intro hTaken
        rw [accept, hFind] at hAccept
        simp [← hNext, hTaken] at hAccept
  · rintro ⟨hFind, hNext, hFree, hLimit, hRecord⟩
    rw [accept, hFind]
    simp [← hNext, hFree, hRecord]

end

-- Growth

variable (inbox)

@[simp] theorem watermark_record_self [DecidableEq α] (hLimit : event.sequence ≤ limit) :
    (inbox.record event hLimit).watermark event.aggregate = event.sequence :=
  Function.update_self ..

theorem watermark_record_of_ne [DecidableEq α] {inbox : Inbox limit ι α δ}
    (hLimit : event.sequence ≤ limit) {aggregate : α} (hOther : aggregate ≠ event.aggregate) :
    (inbox.record event hLimit).watermark aggregate = inbox.watermark aggregate :=
  Function.update_of_ne hOther ..

/- Entering the next event lowers no watermark. -/
theorem watermark_le_record [DecidableEq α] {inbox : Inbox limit ι α δ}
    (hLimit : event.sequence ≤ limit) (hNext : event.sequence = inbox.expected event.aggregate)
    (aggregate : α) :
    inbox.watermark aggregate ≤ (inbox.record event hLimit).watermark aggregate := by
  by_cases hSame : aggregate = event.aggregate
  · subst hSame
    have hBounded := inbox.bounded event.aggregate
    rw [watermark_record_self, hNext, expected]
    omega
  · exact Nat.le_of_eq (watermark_record_of_ne hLimit hSame).symm

-- Exactness

/- The events of every aggregate carry the numbers up to its watermark in order, the latest first,
  and no event is entered twice. -/
structure Exact [DecidableEq α] : Prop where
  numbered : ∀ aggregate, (inbox.events.filter (fun event => event.aggregate = aggregate)).map
    InboxEvent.sequence =
    (List.range' 1 (inbox.watermark aggregate)).reverse
  distinct : (inbox.events.map InboxEvent.eventId).Nodup

variable {inbox}

section

variable [DecidableEq ι] [DecidableEq α] [DecidableEq δ]

omit [DecidableEq ι] [DecidableEq δ] in
theorem exact_empty : (empty : Inbox limit ι α δ).Exact where
  numbered := fun _ => rfl
  distinct := List.nodup_nil

omit [DecidableEq ι] [DecidableEq δ] in
theorem Exact.taken (hExact : inbox.Exact) (hPositive : 0 < event.sequence)
    (hBelow : event.sequence ≤ inbox.watermark event.aggregate) : inbox.Taken event := by
  have hNumber : event.sequence ∈ (inbox.events.filter
        (fun row => row.aggregate = event.aggregate)).map
      InboxEvent.sequence := by
    rw [hExact.numbered, List.mem_reverse, List.mem_range'_1]
    omega
  rcases List.mem_map.mp hNumber with ⟨row, hRow, hSequence⟩
  rcases List.mem_filter.mp hRow with ⟨hMember, hSame⟩
  exact ⟨row, hMember, of_decide_eq_true hSame, hSequence⟩

omit [DecidableEq δ] in
theorem Exact.record (hExact : inbox.Exact) (hLimit : event.sequence ≤ limit)
    (hUnknown : inbox.find event.eventId = none)
    (hNext : event.sequence = inbox.watermark event.aggregate + 1) :
    (inbox.record event hLimit).Exact where
  numbered := by
    intro aggregate
    have hBefore := hExact.numbered aggregate
    have hEvents : (inbox.record event hLimit).events = event :: inbox.events := rfl
    rw [hEvents, List.filter_cons]
    by_cases hSame : event.aggregate = aggregate
    · subst hSame
      rw [watermark_record_self, if_pos (decide_eq_true rfl),
        List.map_cons, hBefore, hNext, List.range'_1_concat, List.reverse_append, Nat.add_comm 1]
      rfl
    · rw [watermark_record_of_ne hLimit (Ne.symm hSame),
        if_neg (by rw [decide_eq_true_eq]; exact hSame)]
      exact hBefore
  distinct := by
    refine List.nodup_cons.mpr ⟨?_, hExact.distinct⟩
    intro hMember
    rcases List.mem_map.mp hMember with ⟨row, hRow, hId⟩
    exact Rows.lookup_eq_none_iff.mp hUnknown row hRow hId

/- An inbox that is exact stays exact: at the limit the number of the next event is taken. -/
theorem Exact.accept (hExact : inbox.Exact) (hPositive : 0 < event.sequence)
    (hAccept : inbox.accept event = .ok (.accepted, inbox')) : inbox'.Exact := by
  rcases accept_eq_accepted_iff.mp hAccept with ⟨hUnknown, hNext, hFree, hLimit, rfl⟩
  refine hExact.record hLimit hUnknown ?_
  by_contra hSaturated
  refine hFree (hExact.taken hPositive ?_)
  have hBounded := inbox.bounded event.aggregate
  rw [expected] at hNext
  omega

end

end Inbox
