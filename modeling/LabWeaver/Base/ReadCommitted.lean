import LabWeaver.Base.Machine
import Mathlib.Data.List.Basic

/-
  This file models transactions with row locks at the isolation level READ COMMITTED. Every
  statement takes its own snapshot, waits for the row locks it needs, and looks again at the rows
  it has locked.
-/

namespace ReadCommitted

open List

-- Stores

/- A store has a row, or none, under every key. It lists the keys that have a row, so that a scan
  is finite. -/
structure Store (K : Type) (V : K → Type) where
  row : (k : K) → Option (V k)
  keys : List K
  complete : ∀ k, row k ≠ none → k ∈ keys

variable {K : Type} {V : K → Type} {k : K}

namespace Store

def empty : Store K V where
  row := fun _ => none
  keys := []
  complete := fun _ hRow => absurd rfl hRow

/- The rows of `upper` hide those of `lower`. -/
def overlay (upper lower : Store K V) : Store K V where
  row := fun k => (upper.row k).or (lower.row k)
  keys := upper.keys ++ lower.keys
  complete := by
    intro k hRow
    cases hUpper : upper.row k with
    | some _ =>
      have hMember := upper.complete k (by simp [hUpper])
      exact mem_append_left _ hMember
    | none =>
      rw [hUpper] at hRow
      have hMember := lower.complete k hRow
      exact mem_append_right _ hMember

def single [DecidableEq K] (k : K) (v : V k) : Store K V where
  row := fun k' => if hKey : k = k' then some (hKey ▸ v) else none
  keys := [k]
  complete := by
    intro k' hRow
    by_cases hKey : k = k'
    · simp [hKey]
    · simp [hKey] at hRow

/- The rows of `locked` from one store, the others from another. -/
def view [DecidableEq K] (locked : List K) (current snapshot : Store K V) : Store K V where
  row := fun k => if k ∈ locked then current.row k else snapshot.row k
  keys := current.keys ++ snapshot.keys
  complete := by
    intro k hRow
    by_cases hLocked : k ∈ locked
    · rw [if_pos hLocked] at hRow
      exact mem_append_left _ (current.complete k hRow)
    · rw [if_neg hLocked] at hRow
      exact mem_append_right _ (snapshot.complete k hRow)

@[simp] theorem empty_row (k : K) : (empty : Store K V).row k = none := rfl

variable {upper lower : Store K V}

theorem overlay_row_of_none (hNone : upper.row k = none) :
    (upper.overlay lower).row k = lower.row k := by
  simp [overlay, hNone]

theorem overlay_row_of_some {v : V k} (hSome : upper.row k = some v) :
    (upper.overlay lower).row k = some v := by
  simp [overlay, hSome]

theorem overlay_cases {v : V k} (hRow : (upper.overlay lower).row k = some v) :
    upper.row k = some v ∨ upper.row k = none ∧ lower.row k = some v := by
  cases hUpper : upper.row k with
  | some _ =>
    rw [overlay_row_of_some hUpper] at hRow
    exact .inl hRow
  | none =>
    rw [overlay_row_of_none hUpper] at hRow
    exact .inr ⟨rfl, hRow⟩

@[simp] theorem single_row [DecidableEq K] (k : K) (v : V k) : (single k v).row k = some v := by
  simp [single]

theorem single_row_of_ne [DecidableEq K] {k' : K} (v : V k) (hNe : k ≠ k') :
    (single k v).row k' = none := by
  simp [single, hNe]

end Store

-- Row Locks

/- The four strengths of a row lock. -/
inductive LockMode where
| keyShare
| share
| noKeyUpdate
| update
deriving DecidableEq

namespace LockMode

/- Two transactions cannot hold these on one row. -/
def conflicts : LockMode → LockMode → Bool
| .keyShare, .update | .update, .keyShare => true
| .share, .noKeyUpdate | .noKeyUpdate, .share => true
| .share, .update | .update, .share => true
| .noKeyUpdate, .noKeyUpdate => true
| .noKeyUpdate, .update | .update, .noKeyUpdate => true
| .update, .update => true
| _, _ => false

/- The modes under which a row is written. -/
def writes : LockMode → Bool
| .noKeyUpdate | .update => true
| .keyShare | .share => false

/- The modes that keep others from writing. -/
def protects : LockMode → Bool
| .share | .noKeyUpdate | .update => true
| .keyShare => false

theorem conflicts_symm (mode mode' : LockMode) : mode.conflicts mode' = mode'.conflicts mode := by
  cases mode <;> cases mode' <;> rfl

end LockMode

/- The locks of one transaction on rows. -/
abbrev Locks (K : Type) := List (K × LockMode)

variable {locks : Locks K}

namespace Locks

/- Two transactions may hold these locks side by side. -/
def Compatible (locks locks' : Locks K) : Prop :=
  ∀ lock ∈ locks, ∀ lock' ∈ locks', lock.1 = lock'.1 → lock.2.conflicts lock'.2 = false

instance [DecidableEq K] (locks locks' : Locks K) : Decidable (Compatible locks locks') :=
  inferInstanceAs (Decidable (∀ _ ∈ _, _))

/- A lock that keeps others from writing the row. -/
def Protects (locks : Locks K) (k : K) : Prop := ∃ mode, (k, mode) ∈ locks ∧ mode.protects = true

/- A lock under which the row is written. -/
def Writes (locks : Locks K) (k : K) : Prop := ∃ mode, (k, mode) ∈ locks ∧ mode.writes = true

theorem Compatible.symm {locks' : Locks K} (hCompatible : Compatible locks locks') :
    Compatible locks' locks := by
  intro lock' hLock' lock hLock hKey
  rw [LockMode.conflicts_symm]
  exact hCompatible lock hLock lock' hLock' hKey.symm

theorem compatible_nil_left (locks : Locks K) : Compatible [] locks := by
  rintro lock ⟨⟩

theorem Compatible.append {first second : Locks K} (hFirst : Compatible first locks)
    (hSecond : Compatible second locks) : Compatible (first ++ second) locks := by
  intro lock hLock
  rcases mem_append.mp hLock with hLeft | hRight
  · exact hFirst lock hLeft
  · exact hSecond lock hRight

theorem Writes.append_left (hWrites : locks.Writes k) (more : Locks K) :
    Writes (locks ++ more) k := by
  rcases hWrites with ⟨mode, hMember, hMode⟩
  exact ⟨mode, mem_append_left _ hMember, hMode⟩

theorem Writes.append_right (hWrites : locks.Writes k) (more : Locks K) :
    Writes (more ++ locks) k := by
  rcases hWrites with ⟨mode, hMember, hMode⟩
  exact ⟨mode, mem_append_right _ hMember, hMode⟩

theorem Protects.append_left (hProtects : locks.Protects k) (more : Locks K) :
    Protects (locks ++ more) k := by
  rcases hProtects with ⟨mode, hMember, hMode⟩
  exact ⟨mode, mem_append_left _ hMember, hMode⟩

theorem Protects.append_right (hProtects : locks.Protects k) (more : Locks K) :
    Protects (more ++ locks) k := by
  rcases hProtects with ⟨mode, hMember, hMode⟩
  exact ⟨mode, mem_append_right _ hMember, hMode⟩

theorem Writes.protects (hWrites : locks.Writes k) : locks.Protects k := by
  rcases hWrites with ⟨mode, hMember, hMode⟩
  refine ⟨mode, hMember, ?_⟩
  cases mode <;> first | rfl | cases hMode

/- Nobody writes a row that another one protects. -/
theorem Compatible.not_writes {locks' : Locks K} (hCompatible : Compatible locks locks')
    (hProtects : locks.Protects k) : ¬locks'.Writes k := by
  rintro ⟨mode', hMember', hWrites⟩
  rcases hProtects with ⟨mode, hMember, hProtects⟩
  have hFree := hCompatible (k, mode) hMember (k, mode') hMember' rfl
  cases mode <;> cases mode' <;> cases hProtects <;> cases hWrites <;> cases hFree

end Locks

-- Statements

/- A statement selects rows in its snapshot and locks them. It then runs on a view in which these
  rows are the current ones, and fails, or returns the new local state and the rows it writes,
  which it has locked for writing. -/
structure Statement (K : Type) (V : K → Type) (L : Type) where
  scan : Store K V → Locks K
  run : Store K V → Locks K → Option (L × Store K V)
  covered : ∀ {view locks l writes k}, run view locks = some (l, writes) → writes.row k ≠ none →
    locks.Writes k

/- What a transaction does next. -/
inductive Command (K : Type) (V : K → Type) (L : Type) where
| execute (statement : Statement K V L)
| commit

/- A protocol says in which local states a transaction begins and what it does in each local
  state. -/
structure Protocol (K : Type) (V : K → Type) (L : Type) where
  entry : L → Bool
  command : L → Command K V L

-- Transactions

inductive Status where
| running
| committed
| aborted
deriving DecidableEq

/- A transaction holds the rows it has written and its locks until it ends. The snapshot is that of
  its current statement. -/
structure Transaction (K : Type) (V : K → Type) (L : Type) where
  locals : L
  writes : Store K V
  locks : Locks K
  snapshot : Option (Store K V)
  status : Status
  covered : ∀ k, writes.row k ≠ none → locks.Writes k

variable {L : Type} {tx : Transaction K V L}

namespace Transaction

def fresh (l : L) : Transaction K V L where
  locals := l
  writes := .empty
  locks := []
  snapshot := none
  status := .running
  covered := fun _ hRow => absurd rfl hRow

variable (tx)

/- The transaction takes the snapshot of a statement. -/
def started (committed : Store K V) : Transaction K V L :=
  { tx with snapshot := some (tx.writes.overlay committed) }

/- What a statement sees once it has its locks. -/
def view [DecidableEq K] (committed snapshot : Store K V) (locks : Locks K) : Store K V :=
  .view (locks.map Prod.fst) (tx.writes.overlay committed) snapshot

/- The transaction is through with a statement. -/
def finished (l : L) (writes : Store K V) (locks : Locks K)
    (hCovered : ∀ k, writes.row k ≠ none → locks.Writes k) : Transaction K V L where
  locals := l
  writes := writes.overlay tx.writes
  locks := locks ++ tx.locks
  snapshot := none
  status := tx.status
  covered := by
    intro k hRow
    cases hWritten : writes.row k with
    | some row =>
      have hNew := hCovered k (by simp [hWritten])
      exact hNew.append_left _
    | none =>
      rw [Store.overlay_row_of_none hWritten] at hRow
      exact (tx.covered k hRow).append_right _

/- The transaction gives up its locks and its rows. -/
def ended (status : Status) : Transaction K V L where
  locals := tx.locals
  writes := .empty
  locks := []
  snapshot := none
  status := status
  covered := fun _ hRow => absurd rfl hRow

variable {tx}

variable {committed snapshot : Store K V}

/- Under a lock the transaction sees the current row. -/
theorem view_row_of_locked [DecidableEq K] {lock : K × LockMode} (hLocked : lock ∈ locks) :
    (tx.view committed snapshot locks).row lock.1 = (tx.writes.overlay committed).row lock.1 := by
  have hMember : lock.1 ∈ locks.map Prod.fst := mem_map_of_mem hLocked
  simp [view, Store.view, hMember]

theorem view_row_of_writes [DecidableEq K] (hWrites : locks.Writes k) :
    (tx.view committed snapshot locks).row k = (tx.writes.overlay committed).row k := by
  rcases hWrites with ⟨mode, hLocked, _⟩
  exact view_row_of_locked hLocked

theorem view_row_of_not_locked [DecidableEq K] (hNotLocked : k ∉ locks.map Prod.fst) :
    (tx.view committed snapshot locks).row k = snapshot.row k := by
  simp [view, Store.view, hNotLocked]

theorem untouched {other : Transaction K V L} (hCompatible : tx.locks.Compatible other.locks)
    (hProtects : tx.locks.Protects k) : other.writes.row k = none := by
  by_contra hWritten
  exact hCompatible.not_writes hProtects (other.covered k hWritten)

theorem overlay_row_of_protects {committer : Transaction K V L}
    (hCompatible : committer.locks.Compatible tx.locks) (hProtects : tx.locks.Protects k) :
    (committer.writes.overlay committed).row k = committed.row k :=
  Store.overlay_row_of_none (untouched hCompatible.symm hProtects)

theorem own_or_committed [DecidableEq K] {row : V k} (hWrites : locks.Writes k)
    (hRow : (tx.view committed snapshot locks).row k = some row) :
    tx.writes.row k = some row ∨ committed.row k = some row := by
  rw [view_row_of_writes hWrites] at hRow
  exact (Store.overlay_cases hRow).imp_right And.right

section

variable [DecidableEq K] {statement : Statement K V L} {l : L} {written : Store K V} (tx)

/- A statement of the transaction has run under its locks. -/
abbrev Runs (statement : Statement K V L) (committed snapshot : Store K V) (l : L)
    (written : Store K V) : Prop :=
  statement.run (tx.view committed snapshot (statement.scan snapshot)) (statement.scan snapshot) =
    some (l, written)

abbrev after (hRun : tx.Runs statement committed snapshot l written) : Transaction K V L :=
  tx.finished l written (statement.scan snapshot) (fun _ => statement.covered hRun)

variable {tx}

variable (hRun : tx.Runs statement committed snapshot l written) {row row' : V k}

include hRun

theorem Runs.writes (hWritten : written.row k = some row) : (statement.scan snapshot).Writes k := by
  apply statement.covered hRun
  simp [hWritten]

theorem Runs.own_or_committed (hWritten : written.row k = some row')
    (hRow : (tx.view committed snapshot (statement.scan snapshot)).row k = some row) :
    tx.writes.row k = some row ∨ committed.row k = some row :=
  Transaction.own_or_committed (Runs.writes hRun hWritten) hRow

theorem Runs.not_committed (hWritten : written.row k = some row')
    (hNew : (tx.view committed snapshot (statement.scan snapshot)).row k = none) :
    committed.row k = none := by
  rw [view_row_of_writes (Runs.writes hRun hWritten)] at hNew
  cases hOwn : tx.writes.row k with
  | some own =>
    cases (Store.overlay_row_of_some hOwn).symm.trans hNew
  | none =>
    rwa [Store.overlay_row_of_none hOwn] at hNew

end

end Transaction

-- Systems

/- The committed rows and all transactions so far. -/
structure System (K : Type) (V : K → Type) (L : Type) where
  committed : Store K V
  transactions : List (Transaction K V L)

open ReadCommitted.System

inductive Action (L : Type) where
| begin (l : L)
| start (i : Nat)
| finish (i : Nat)
| commit (i : Nat)
| abort (i : Nat)

namespace System

variable (s : System K V L) (i : Nat)

def replace (tx : Transaction K V L) : System K V L :=
  { s with transactions := s.transactions.set i tx }

def publish (tx : Transaction K V L) : System K V L where
  committed := tx.writes.overlay s.committed
  transactions := s.transactions.set i (tx.ended .committed)

/- The transaction at a place, if it still runs. -/
def running : Option (Transaction K V L) :=
  s.transactions[i]?.filter (fun tx => tx.status = .running)

def others : List (Transaction K V L) := s.transactions.eraseIdx i

end System

namespace Protocol

variable [DecidableEq K] (p : Protocol K V L)

/- Take the snapshot of the next statement. -/
def start (tx : Transaction K V L) (committed : Store K V) : Option (Transaction K V L) :=
  match p.command tx.locals, tx.snapshot with
  | .execute _, none => some (tx.started committed)
  | _, _ => none

/- Execute the statement whose snapshot is taken, once no other transaction is in its way. A failure
  aborts the transaction. -/
def finish (tx : Transaction K V L) (others : List (Transaction K V L)) (committed : Store K V) :
    Option (Transaction K V L) :=
  match p.command tx.locals, tx.snapshot with
  | .execute statement, some snapshot =>
    let locks := statement.scan snapshot
    if ∀ other ∈ others, locks.Compatible other.locks then
      match hRun : statement.run (tx.view committed snapshot locks) locks with
      | none => some (tx.ended .aborted)
      | some (l, writes) => some (tx.finished l writes locks (fun _ => statement.covered hRun))
    else none
  | _, _ => none

def ready (tx : Transaction K V L) : Bool :=
  match p.command tx.locals with
  | .commit => true
  | .execute _ => false

/- One step of the system. Every running transaction can be aborted at any time. -/
def step (s : System K V L) : Action L → Option (System K V L)
| .begin l =>
  if p.entry l then some { s with transactions := s.transactions ++ [.fresh l] } else none
| .start i =>
  match s.running i with
  | none => none
  | some tx => (p.start tx s.committed).map (s.replace i)
| .finish i =>
  match s.running i with
  | none => none
  | some tx => (p.finish tx (s.others i) s.committed).map (s.replace i)
| .commit i =>
  match s.running i with
  | none => none
  | some tx => if p.ready tx then some (s.publish i tx) else none
| .abort i =>
  match s.running i with
  | none => none
  | some tx => some (s.replace i (tx.ended .aborted))

end Protocol

-- The Effect Of A Step

variable {s : System K V L}

namespace System

variable {i : Nat}

theorem running_eq_some :
    s.running i = some tx ↔ s.transactions[i]? = some tx ∧ tx.status = .running := by
  unfold running
  rw [Option.filter_eq_some_iff]
  simp

variable {j : Nat} {other : Transaction K V L}

/- What runs after a replacement. -/
theorem running_replace (hRunning : (s.replace i tx).running j = some other) :
    j = i ∧ other = tx ∨ j ≠ i ∧ s.running j = some other := by
  rw [running_eq_some] at hRunning ⊢
  rcases hRunning with ⟨hGet, hStatus⟩
  simp only [replace] at hGet
  by_cases hSame : j = i
  · left
    subst hSame
    rcases List.getElem?_eq_some_iff.mp hGet with ⟨hBound, _⟩
    rw [length_set] at hBound
    cases (List.getElem?_set_self hBound).symm.trans hGet
    exact ⟨rfl, rfl⟩
  · right
    rw [List.getElem?_set_ne (Ne.symm hSame)] at hGet
    exact ⟨hSame, hGet, hStatus⟩

/- What runs after a commit has been running before. -/
theorem running_publish (hRunning : (s.publish i tx).running j = some other) :
    j ≠ i ∧ s.running j = some other := by
  have hReplaced : (s.replace i (tx.ended .committed)).running j = some other := hRunning
  rcases running_replace hReplaced with ⟨_, hOther⟩ | hOther
  · have hStatus := (running_eq_some.mp hRunning).2
    rw [hOther] at hStatus
    cases hStatus
  · exact hOther

/- What runs after a transaction has begun. -/
theorem running_begin {l : L} (hRunning : running
        { s with transactions := s.transactions ++ [.fresh l] } j =
        some other) :
    s.running j = some other ∨ j = s.transactions.length ∧ other = .fresh l := by
  rw [running_eq_some] at hRunning ⊢
  rcases hRunning with ⟨hGet, hStatus⟩
  simp only at hGet
  by_cases hBound : j < s.transactions.length
  · left
    rw [List.getElem?_append_left hBound] at hGet
    exact ⟨hGet, hStatus⟩
  · right
    have hAbove : s.transactions.length ≤ j := by omega
    rw [List.getElem?_append_right hAbove] at hGet
    cases hIndex : j - s.transactions.length with
    | zero =>
      rw [hIndex] at hGet
      simp only [List.getElem?_cons_zero, Option.some.injEq] at hGet
      exact ⟨by omega, hGet.symm⟩
    | succ n =>
      rw [hIndex] at hGet
      simp at hGet

theorem mem_others (hNe : j ≠ i) (hRunning : s.running j = some other) : other ∈ s.others i := by
  rcases running_eq_some.mp hRunning with ⟨hGet, _⟩
  unfold others
  rw [mem_eraseIdx_iff_getElem?]
  exact ⟨j, hNe, hGet⟩

end System

variable {p : Protocol K V L}

namespace Protocol

variable [DecidableEq K]

/- The steps of the system, one case for each effect. -/
inductive Effect (p : Protocol K V L) (s : System K V L) : Action L → System K V L → Prop where
| began {l : L} (hEntry : p.entry l = true) : Effect p s (.begin l)
      { s with transactions := s.transactions ++ [.fresh l] }
| started {i : Nat} {tx : Transaction K V L} {statement : Statement K V L}
    (hRunning : s.running i = some tx) (hCommand : p.command tx.locals = .execute statement)
    (hIdle : tx.snapshot = none) :
    Effect p s (.start i) (s.replace i (tx.started s.committed))
| finished {i : Nat} {tx : Transaction K V L} {statement : Statement K V L} {snapshot : Store K V}
    {l : L} {writes : Store K V} (hRunning : s.running i = some tx)
    (hCommand : p.command tx.locals = .execute statement)
    (hSnapshot : tx.snapshot = some snapshot)
    (hFree : ∀ j other, j ≠ i → s.running j = some other → Locks.Compatible
      (statement.scan snapshot) other.locks)
    (hRun : tx.Runs statement s.committed snapshot l writes) :
    Effect p s (.finish i) (s.replace i (tx.after hRun))
| committed {i : Nat} {tx : Transaction K V L} (hRunning : s.running i = some tx)
    (hCommand : p.command tx.locals = .commit) :
    Effect p s (.commit i) (s.publish i tx)
| aborted {i : Nat} {tx : Transaction K V L} {action : Action L}
    (hRunning : s.running i = some tx) :
    Effect p s action (s.replace i (tx.ended .aborted))

variable {s s' : System K V L}

/- A commit publishes a transaction that is through. -/
theorem step_commit_eq_some {i : Nat} (hStep : p.step s (.commit i) = some s') :
    ∃ tx, s.running i = some tx ∧ p.command tx.locals = .commit ∧ s' = s.publish i tx := by
  simp only [step] at hStep
  split at hStep
  · cases hStep
  · rename_i tx hRunning
    split at hStep
    · rename_i hReady
      simp only [ready] at hReady
      split at hReady
      · rename_i hCommand
        cases hStep
        exact ⟨tx, hRunning, hCommand, rfl⟩
      · cases hReady
    · cases hStep

theorem step_cases {action : Action L} (hStep : p.step s action = some s') :
    Effect p s action s' := by
  cases action with
  | begin l =>
    simp only [step] at hStep
    split at hStep
    · rename_i hEntry
      cases hStep
      exact .began hEntry
    · cases hStep
  | start i =>
    simp only [step] at hStep
    split at hStep
    · cases hStep
    · rename_i tx hRunning
      rcases Option.map_eq_some_iff.mp hStep with ⟨tx', hStart, hReplaced⟩
      rw [← hReplaced]
      simp only [start] at hStart
      split at hStart
      · rename_i statement hCommand hIdle
        cases hStart
        exact .started hRunning hCommand hIdle
      · cases hStart
  | finish i =>
    simp only [step] at hStep
    split at hStep
    · cases hStep
    · rename_i tx hRunning
      rcases Option.map_eq_some_iff.mp hStep with ⟨tx', hFinish, hReplaced⟩
      rw [← hReplaced]
      simp only [finish] at hFinish
      split at hFinish
      · rename_i statement snapshot hCommand hSnapshot
        split at hFinish
        · rename_i hFree
          split at hFinish
          · cases hFinish
            exact .aborted hRunning
          · rename_i l writes hRun
            cases hFinish
            refine .finished hRunning hCommand hSnapshot ?_ hRun
            intro j other hNe hOther
            exact hFree other (mem_others hNe hOther)
        · cases hFinish
      · cases hFinish
  | commit i =>
    obtain ⟨tx, hRunning, hCommand, rfl⟩ := step_commit_eq_some hStep
    exact .committed hRunning hCommand
  | abort i =>
    simp only [step] at hStep
    split at hStep
    · cases hStep
    · rename_i tx hRunning
      cases hStep
      exact .aborted hRunning

theorem committed_of_step {action : Action L} (hStep : p.step s action = some s')
    (hOther : ∀ i, action ≠ .commit i) : s'.committed = s.committed := by
  cases step_cases hStep with
  | began _ | started _ _ _ | finished _ _ _ _ _ => rfl
  | committed _ _ => exact absurd rfl (hOther _)
  | aborted _ => rfl

/- The database from given committed rows. -/
def machine (p : Protocol K V L) (initial : Store K V → Prop) :
    Machine (System K V L) (Action L) where
  init := fun s => initial s.committed ∧ s.transactions = []
  step := p.step

end Protocol

-- Exclusion

namespace System

/- No two running transactions hold conflicting locks. -/
def Exclusive (s : System K V L) : Prop :=
  ∀ i j tx other, i ≠ j → s.running i = some tx → s.running j = some other →
    tx.locks.Compatible other.locks

/- A replacement keeps the exclusion if the new transaction is compatible with the others. -/
theorem Exclusive.replace {s : System K V L} {i : Nat} {tx : Transaction K V L}
    (hExclusive : Exclusive s)
    (hFree : ∀ j other, j ≠ i → s.running j = some other → tx.locks.Compatible other.locks) :
    Exclusive (s.replace i tx) := by
  intro j k first second hNe hFirst hSecond
  rcases running_replace hFirst with ⟨hj, hSame⟩ | ⟨hj, hFirst⟩
  · rcases running_replace hSecond with ⟨hk, _⟩ | ⟨hk, hSecond⟩
    · exact absurd (hj.trans hk.symm) hNe
    · rw [hSame]
      exact hFree k second hk hSecond
  · rcases running_replace hSecond with ⟨_, hSame⟩ | ⟨_, hSecond⟩
    · rw [hSame]
      exact (hFree j first hj hFirst).symm
    · exact hExclusive j k first second hNe hFirst hSecond

theorem Exclusive.step [DecidableEq K] {p : Protocol K V L} {s s' : System K V L}
    {action : Action L} (hExclusive : Exclusive s) (hStep : p.step s action = some s') :
    Exclusive s' := by
  cases Protocol.step_cases hStep with
  | began hEntry =>
    intro j k first second hNe hFirst hSecond
    rcases running_begin hFirst with hFirst | ⟨_, hSame⟩
    · rcases running_begin hSecond with hSecond | ⟨_, hSame⟩
      · exact hExclusive j k _ _ hNe hFirst hSecond
      · rw [hSame]
        exact (Locks.compatible_nil_left _).symm
    · rw [hSame]
      exact Locks.compatible_nil_left _
  | @started i tx _ hRunning hCommand hIdle =>
    refine hExclusive.replace ?_
    intro j other hNe hOther
    exact hExclusive i j tx other (Ne.symm hNe) hRunning hOther
  | @finished i tx _ _ _ _ hRunning _ _ hFree hRun =>
    refine hExclusive.replace ?_
    intro j other hNe hOther
    exact (hFree j other hNe hOther).append (hExclusive i j tx other (Ne.symm hNe) hRunning hOther)
  | committed hRunning hCommand =>
    intro j k first second hNe hFirst hSecond
    rcases running_publish hFirst with ⟨_, hFirst⟩
    rcases running_publish hSecond with ⟨_, hSecond⟩
    exact hExclusive j k _ _ hNe hFirst hSecond
  | aborted hRunning =>
    refine hExclusive.replace ?_
    intro j other hNe hOther
    exact Locks.compatible_nil_left _

end System

namespace Protocol

variable [DecidableEq K]

-- Invariants

/- A property of the committed rows, one of every running transaction, and one of every two running
  transactions. -/
structure Sound (P : Store K V → Prop) (T : Store K V → Transaction K V L → Prop)
    (X : Transaction K V L → Transaction K V L → Prop) (s : System K V L) : Prop where
  store : P s.committed
  each : ∀ {i tx}, s.running i = some tx → T s.committed tx
  pair : ∀ {i j tx other}, i ≠ j → s.running i = some tx → s.running j = some other → X tx other
  exclusive : s.Exclusive

/- What has to be shown of a protocol so that the properties hold along every run whose steps meet
  the side condition. Only `stable` is about the commit of another transaction. -/
structure Maintains (p : Protocol K V L) (ok : System K V L → Action L → Prop)
    (P : Store K V → Prop) (T : Store K V → Transaction K V L → Prop)
    (X : Transaction K V L → Transaction K V L → Prop) :
    Prop where
  symm : ∀ {tx other}, X tx other → X other tx := by intros; trivial
  begin : ∀ {s l}, Sound P T X s → ok s (.begin l) → p.entry l = true → T s.committed (.fresh l)
  beginPair : ∀ {l other}, p.entry l = true → X (.fresh l) other := by intros; trivial
  start : ∀ {s i tx statement}, Sound P T X s → ok s (.start i) → s.running i = some tx →
    p.command tx.locals = .execute statement → tx.snapshot = none →
    T s.committed (tx.started s.committed)
  startPair : ∀ {s i j tx other statement}, Sound P T X s → ok s (.start i) →
    s.running i = some tx → p.command tx.locals = .execute statement → tx.snapshot = none →
    i ≠ j → s.running j = some other → X (tx.started s.committed) other := by intros; trivial
  finish : ∀ {committed tx statement snapshot l writes}, P committed → T committed tx →
    p.command tx.locals = .execute statement → tx.snapshot = some snapshot →
    ∀ hRun : tx.Runs statement committed snapshot l writes, T committed (tx.after hRun)
  finishPair : ∀ {committed tx other statement snapshot l writes}, T committed tx →
    T committed other → X tx other → p.command tx.locals = .execute statement →
    tx.snapshot = some snapshot → ∀ hRun : tx.Runs statement committed snapshot l writes,
    X (tx.after hRun) other := by intros; trivial
  publish : ∀ {committed tx}, P committed → T committed tx → p.command tx.locals = .commit →
    P (tx.writes.overlay committed) := by intros; trivial
  stable : ∀ {committed tx other}, P committed → T committed tx → T committed other → X tx other →
    tx.locks.Compatible other.locks → p.command tx.locals = .commit →
    T (tx.writes.overlay committed) other

variable {ok : System K V L → Action L → Prop} {P : Store K V → Prop}
  {T : Store K V → Transaction K V L → Prop}
  {X : Transaction K V L → Transaction K V L → Prop}

omit [DecidableEq K] in
/- A replacement with nothing committed. -/
theorem Sound.replace {i : Nat} {tx : Transaction K V L} (hSound : Sound P T X s)
    (hSymm : ∀ {tx other}, X tx other → X other tx) (hExclusive : (s.replace i tx).Exclusive)
    (hEach : tx.status = .running → T s.committed tx)
    (hPair : ∀ j other, tx.status = .running → j ≠ i → s.running j = some other → X tx other) :
    Sound P T X (s.replace i tx) := by
  refine ⟨hSound.store, ?_, ?_, hExclusive⟩
  · intro j other hOther
    have hStatus := (running_eq_some.mp hOther).2
    rcases running_replace hOther with ⟨_, hSame⟩ | ⟨_, hOther⟩
    · subst hSame
      exact hEach hStatus
    · exact hSound.each hOther
  · intro j k first second hNe hFirst hSecond
    have hStatus := (running_eq_some.mp hFirst).2
    have hStatus' := (running_eq_some.mp hSecond).2
    rcases running_replace hFirst with ⟨hj, hSame⟩ | ⟨hj, hOther⟩
    · rcases running_replace hSecond with ⟨hk, _⟩ | ⟨hk, hOther⟩
      · exact absurd (hj.trans hk.symm) hNe
      · subst hSame
        exact hPair k second hStatus hk hOther
    · rcases running_replace hSecond with ⟨_, hSame⟩ | ⟨_, hSecond⟩
      · subst hSame
        exact hSymm (hPair j first hStatus' hj hOther)
      · exact hSound.pair hNe hOther hSecond

/- One step keeps the properties. -/
theorem Maintains.step {s' : System K V L} {action : Action L} (hMaintains : p.Maintains ok P T X)
    (hSound : Sound P T X s) (hOk : ok s action) (hStep : p.step s action = some s') :
    Sound P T X s' := by
  have hExclusive := hSound.exclusive.step hStep
  cases step_cases hStep with
  | began hEntry =>
    refine ⟨hSound.store, ?_, ?_, hExclusive⟩
    · intro i tx hRunning
      rcases running_begin hRunning with hRunning | ⟨_, hFresh⟩
      · exact hSound.each hRunning
      · rw [hFresh]
        exact hMaintains.begin (s := s) hSound hOk hEntry
    · intro i j tx other hNe hRunning hOther
      rcases running_begin hRunning with hRunning | ⟨_, hFresh⟩
      · rcases running_begin hOther with hOther | ⟨_, hFresh⟩
        · exact hSound.pair hNe hRunning hOther
        · rw [hFresh]
          exact hMaintains.symm (hMaintains.beginPair hEntry)
      · rw [hFresh]
        exact hMaintains.beginPair hEntry
  | @started i tx _ hRunning hCommand hIdle =>
    refine hSound.replace hMaintains.symm hExclusive ?_ ?_
    · intro _
      exact hMaintains.start hSound hOk hRunning hCommand hIdle
    · intro j other _ hNe hOther
      exact hMaintains.startPair hSound hOk hRunning hCommand hIdle (Ne.symm hNe) hOther
  | @finished i tx _ _ _ _ hRunning hCommand hSnapshot _ hRun =>
    have hEach := hSound.each hRunning
    refine hSound.replace hMaintains.symm hExclusive ?_ ?_
    · intro _
      exact hMaintains.finish hSound.store hEach hCommand hSnapshot hRun
    · intro j other _ hNe hOther
      exact hMaintains.finishPair hEach (hSound.each hOther)
        (hSound.pair (Ne.symm hNe) hRunning hOther)
        hCommand hSnapshot hRun
  | @committed i tx hRunning hCommand =>
    have hEach := hSound.each hRunning
    refine ⟨?_, ?_, ?_, hExclusive⟩
    · exact hMaintains.publish hSound.store hEach hCommand
    · intro j other hOther
      rcases running_publish hOther with ⟨hNe, hOther⟩
      exact hMaintains.stable hSound.store hEach (hSound.each hOther)
        (hSound.pair (Ne.symm hNe) hRunning hOther)
        (hSound.exclusive i j tx other (Ne.symm hNe) hRunning hOther)
        hCommand
    · intro j k first second hNe hFirst hSecond
      rcases running_publish hFirst with ⟨_, hFirst⟩
      rcases running_publish hSecond with ⟨_, hSecond⟩
      exact hSound.pair hNe hFirst hSecond
  | aborted hRunning =>
    refine hSound.replace hMaintains.symm hExclusive ?_ ?_
    · nofun
    · nofun

/- Every run keeps the properties. -/
theorem Maintains.run {initial : Store K V → Prop} (hMaintains : p.Maintains ok P T X)
    (hInitial : ∀ committed, initial committed → P committed)
    (hRun : (p.machine initial).Run ok s) :
    Sound P T X s := by
  refine Machine.Run.invariant ?_ ?_ hRun
  · intro s hInit
    have hNone : ∀ i tx, s.running i ≠ some tx := by
      intro i tx hRunning
      rw [running_eq_some, hInit.2] at hRunning
      simp at hRunning
    refine ⟨hInitial _ hInit.1, ?_, ?_, ?_⟩
    · intro i tx hRunning
      exact absurd hRunning (hNone i tx)
    · intro i j tx other _ hRunning
      exact absurd hRunning (hNone i tx)
    · intro i j tx other _ hRunning
      exact absurd hRunning (hNone i tx)
  · intro s action s' hSound hOk hStep
    exact hMaintains.step hSound hOk hStep

end Protocol

end ReadCommitted
