import LabWeaver.Base.ReadCommitted
import Mathlib.Data.List.Dedup
import Mathlib.Data.Sigma.Basic

/-
  This file defines the statements of which transactions are made, and says what each of them
  writes. A transaction that updates the open rows of a snapshot leaves none behind, as long as
  nobody else adds one.
-/

namespace ReadCommitted

open Option Store

variable {K : Type} {V : K → Type} {L : Type}

-- Selecting And Querying Rows

namespace Store

theorem overlay_row_eq_none {upper lower : Store K V} {k : K} : (upper.overlay lower).row k = none ↔
    upper.row k = none ∧ lower.row k = none := by
  simp [overlay]

theorem overlay_assoc_row (first second third : Store K V) (k : K) :
    ((first.overlay second).overlay third).row k = (first.overlay (second.overlay third)).row k :=
  or_assoc

@[simp] theorem single_overlay_row [DecidableEq K] (k : K) (v : V k) (store : Store K V) :
    ((single k v).overlay store).row k = some v :=
  overlay_row_of_some (single_row k v)

theorem single_overlay_row_of_ne [DecidableEq K] {k k' : K} (v : V k) (store : Store K V)
    (hNe : k ≠ k') : ((single k v).overlay store).row k' = store.row k' :=
  overlay_row_of_none (single_row_of_ne v hNe)

def select {α : Type} (store : Store K V) (find : (k : K) → V k → Option α) : List α :=
  store.keys.filterMap (fun k => (store.row k).bind (find k))

theorem mem_select {α : Type} {store : Store K V} {find : (k : K) → V k → Option α} {found : α} :
    found ∈ store.select find ↔ ∃ k v, store.row k = some v ∧ find k v = some found := by
  unfold select
  rw [List.mem_filterMap]
  constructor
  · rintro ⟨k, _, hFound⟩
    rcases bind_eq_some_iff.mp hFound with ⟨v, hRow, hFind⟩
    exact ⟨k, v, hRow, hFind⟩
  · rintro ⟨k, v, hRow, hFind⟩
    have hKey : k ∈ store.keys := by
      apply store.complete
      simp [hRow]
    refine ⟨k, hKey, ?_⟩
    rwa [hRow]

def restrict [DecidableEq K] (keys : List K) (row : (k : K) → Option (V k)) : Store K V where
  row := fun k => if k ∈ keys then row k else none
  keys := keys
  complete := by
    intro k hRow
    by_cases hKey : k ∈ keys
    · exact hKey
    · simp [hKey] at hRow

end Store

namespace Locks

def writable (locks : Locks K) : List K := (locks.filter (fun lock => lock.2.writes)).map Prod.fst

theorem mem_writable {locks : Locks K} {k : K} : k ∈ locks.writable ↔ locks.Writes k := by
  unfold writable Writes
  simp only [List.mem_map, List.mem_filter, Prod.exists, exists_and_right, exists_eq_right]

end Locks

namespace Statement

/- A SELECT, with or without a locking clause. It goes on with what it finds under its locks or
  fails. -/
def query (locks : Store K V → Locks K) (next : Store K V → Locks K → Option L) :
    Statement K V L where
  scan := locks
  run := fun view held => (next view held).map (fun l => (l, .empty))
  covered := by
    intro view locks l writes k hRun hRow
    rcases map_eq_some_iff.mp hRun with ⟨l', _, ⟨⟩⟩
    exact absurd rfl hRow

theorem query_run {locks : Store K V → Locks K} {next : Store K V → Locks K → Option L}
    {view : Store K V} {held : Locks K} {l : L} {writes : Store K V}
    (hRun : (query locks next).run view held = some (l, writes)) :
    next view held = some l ∧ writes = .empty := by
  rcases map_eq_some_iff.mp hRun with ⟨l', hNext, ⟨⟩⟩
  exact ⟨hNext, rfl⟩

/- A SELECT FOR UPDATE. The condition is tested in the snapshot and again under the lock, and the
  statement fails if no row meets it. -/
def selectForUpdate (k : K) (condition : V k → Bool) (next : V k → Option L) : Statement K V L :=
  query (fun snapshot => if (snapshot.row k).any condition then [(k, .update)] else [])
    (fun view _ => ((view.row k).filter condition).bind next)

/- The row that is returned is locked and current. -/
theorem selectForUpdate_run [DecidableEq K] {k : K} {condition : V k → Bool}
    {next : V k → Option L} {tx : Transaction K V L} {committed snapshot written : Store K V}
    {l : L} (hRun : tx.Runs (selectForUpdate k condition next) committed snapshot l written) :
    written = .empty ∧ ((selectForUpdate k condition next).scan snapshot).Writes k ∧ ∃ v,
      (tx.writes.overlay committed).row k = some v ∧ condition v = true ∧ next v = some l := by
  rcases query_run hRun with ⟨hNext, hEmpty⟩
  rcases bind_eq_some_iff.mp hNext with ⟨v, hFound, hNext⟩
  rcases filter_eq_some_iff.mp hFound with ⟨hView, hMet⟩
  have hLocked : Locks.Writes ((selectForUpdate k condition next).scan snapshot) k := by
    simp only [selectForUpdate, query]
    split
    · exact ⟨.update, List.mem_singleton.mpr rfl, rfl⟩
    · rename_i hMissed
      -- without a lock the row is that of the snapshot
      simp only [selectForUpdate, query, if_neg hMissed] at hView
      rw [Transaction.view_row_of_not_locked List.not_mem_nil] at hView
      exact absurd (by rw [hView]; exact hMet) hMissed
  refine ⟨hEmpty, hLocked, v, ?_, hMet, hNext⟩
  rw [← hView]
  exact (Transaction.view_row_of_writes hLocked).symm

-- Updates

section

variable [DecidableEq K]

/- The locked rows that still meet the condition. -/
def matched (condition : (k : K) → V k → Bool) (view : Store K V) (locks : Locks K) : List K :=
  (locks.writable.filter (fun k => (view.row k).any (condition k))).dedup

variable {condition : (k : K) → V k → Bool} {view snapshot : Store K V} {locks : Locks K} {k : K}

theorem mem_matched : k ∈ matched condition view locks ↔ locks.Writes k ∧
      ∃ v, view.row k = some v ∧ condition k v = true := by
  unfold matched
  rw [List.mem_dedup, List.mem_filter, Locks.mem_writable]
  simp [any_eq_true]

/- An UPDATE of columns that are not keys. The condition is tested in the snapshot and again under
  the locks. The statement fails if a new value is out of range, and returns the keys of the
  changed rows. -/
def update (condition : (k : K) → V k → Bool) (change : (k : K) → V k → Option (V k))
    (next : List K → Option L) : Statement K V L where
  scan := fun snapshot => snapshot.select (fun k v =>
    if condition k v then some (k, .noKeyUpdate) else none)
  run := fun view locks =>
    let keys := matched condition view locks
    let row := fun k => (view.row k).bind (change k)
    if ∀ k ∈ keys, (row k).isSome then (next keys).map (fun l => (l, .restrict keys row)) else none
  covered := by
    intro view locks l writes k hRun hRow
    simp only at hRun
    split at hRun
    · rcases map_eq_some_iff.mp hRun with ⟨l', _, ⟨⟩⟩
      have hKey : k ∈ matched condition view locks := by
        by_contra hKey
        simp [restrict, hKey] at hRow
      exact (mem_matched.mp hKey).1
    · cases hRun

variable {change : (k : K) → V k → Option (V k)} {next : List K → Option L}

theorem mem_update_scan {lock : K × LockMode} :
    lock ∈ (update condition change next).scan snapshot ↔ ∃ v, snapshot.row lock.1 = some v ∧
      condition lock.1 v = true ∧ lock.2 = .noKeyUpdate := by
  simp only [update, mem_select]
  constructor
  · rintro ⟨k, v, hRow, hFind⟩
    rcases ite_none_right_eq_some.mp hFind with ⟨hCondition, ⟨⟩⟩
    exact ⟨v, hRow, hCondition, rfl⟩
  · rintro ⟨v, hRow, hCondition, hMode⟩
    refine ⟨lock.1, v, hRow, ?_⟩
    rw [if_pos hCondition, ← hMode]

theorem update_scan_writes : Locks.Writes ((update condition change next).scan snapshot) k ↔ ∃ v,
      snapshot.row k = some v ∧ condition k v = true := by
  unfold Locks.Writes
  constructor
  · rintro ⟨mode, hMember, _⟩
    rcases mem_update_scan.mp hMember with ⟨v, hRow, hCondition, _⟩
    exact ⟨v, hRow, hCondition⟩
  · rintro ⟨v, hRow, hCondition⟩
    exact ⟨.noKeyUpdate, mem_update_scan.mpr ⟨v, hRow, hCondition, rfl⟩, rfl⟩

structure Updated (condition : (k : K) → V k → Bool) (change : (k : K) → V k → Option (V k))
    (view : Store K V) (locks : Locks K) (keys : List K) (writes : Store K V) : Prop where
  returned : ∀ {k}, k ∈ keys ↔ locks.Writes k ∧ ∃ v, view.row k = some v ∧ condition k v = true
  written : ∀ {k v'}, writes.row k = some v' ↔ k ∈ keys ∧
    ∃ v, view.row k = some v ∧ change k v = some v'
  total : ∀ {k}, k ∈ keys → ∃ v', writes.row k = some v'

theorem update_run {l : L} {writes : Store K V}
    (hRun : (update condition change next).run view locks = some (l, writes)) :
    ∃ keys, next keys = some l ∧ Updated condition change view locks keys writes := by
  simp only [update] at hRun
  rcases ite_none_right_eq_some.mp hRun with ⟨hTotal, hRun⟩
  rcases map_eq_some_iff.mp hRun with ⟨l', hNext, hResult⟩
  cases hResult
  refine ⟨_, hNext, mem_matched, ?_, ?_⟩
  · intro k v'
    simp only [restrict]
    split
    · rename_i hKey
      rw [bind_eq_some_iff]
      exact ⟨fun h => ⟨hKey, h⟩, fun h => h.2⟩
    · rename_i hKey
      constructor
      · rintro ⟨⟩
      · intro h
        exact absurd h.1 hKey
  · intro k hKey
    have hSome := hTotal k hKey
    rw [isSome_iff_exists] at hSome
    simpa [restrict, hKey] using hSome

end

-- Insertions

section

variable [DecidableEq K]

/- An INSERT of one row. The row must be new, and the rows that its foreign keys name must exist and
  are locked against removal. -/
def insert (key : K) (value : Store K V → Option (V key)) (parents : List K)
    (next : L) : Statement K V L where
  scan := fun _ => (key, .update) :: parents.map (fun parent => (parent, .keyShare))
  run := fun view locks =>
    if (key, LockMode.update) ∈ locks ∧ (view.row key).isNone ∧
      ∀ parent ∈ parents, (view.row parent).isSome then
      (value view).map (fun v => (next, .single key v))
    else none
  covered := by
    intro view locks l writes k hRun hRow
    split at hRun
    · rename_i hChecked
      rcases map_eq_some_iff.mp hRun with ⟨v, _, ⟨⟩⟩
      by_cases hKey : key = k
      · subst hKey
        exact ⟨.update, hChecked.1, rfl⟩
      · exact absurd (single_row_of_ne v hKey) hRow
    · cases hRun

variable {key : K} {view writes : Store K V} {locks : Locks K} {l : L}

theorem insert_run {value : Store K V → Option (V key)} {parents : List K} {next : L}
    (hRun : (insert key value parents next).run view locks = some (l, writes)) :
    l = next ∧ view.row key = none ∧ (∀ parent ∈ parents, ∃ v, view.row parent = some v) ∧
    ∃ v, value view = some v ∧ writes = .single key v := by
  simp only [insert] at hRun
  split at hRun
  · rename_i hChecked
    rcases hChecked with ⟨_, hNew, hParents⟩
    rcases map_eq_some_iff.mp hRun with ⟨v, hValue, ⟨⟩⟩
    refine ⟨rfl, isNone_iff_eq_none.mp hNew, ?_, v, hValue, rfl⟩
    intro parent hParent
    exact isSome_iff_exists.mp (hParents parent hParent)
  · cases hRun

/- An INSERT that does nothing on a conflict. It waits for another transaction that is inserting
  the row, and goes on with whether it has inserted it. -/
def insertMissing (key : K) (value : V key) (next : Bool → Option L) : Statement K V L where
  scan := fun snapshot => if (snapshot.row key).isSome then [] else [(key, .update)]
  run := fun view locks =>
    if (key, LockMode.update) ∈ locks ∧ (view.row key).isNone then
      (next true).map (fun l => (l, .single key value))
    else (next false).map (fun l => (l, .empty))
  covered := by
    intro view locks l writes k hRun hRow
    split at hRun
    · rename_i hChecked
      rcases map_eq_some_iff.mp hRun with ⟨_, _, ⟨⟩⟩
      by_cases hKey : key = k
      · subst hKey
        exact ⟨.update, hChecked.1, rfl⟩
      · exact absurd (single_row_of_ne _ hKey) hRow
    · rcases map_eq_some_iff.mp hRun with ⟨_, _, ⟨⟩⟩
      exact absurd rfl hRow

theorem insertMissing_run {value : V key} {next : Bool → Option L}
    (hRun : (insertMissing key value next).run view locks = some (l, writes)) :
    (next false = some l ∧ writes = .empty) ∨ (next true = some l ∧ view.row key = none ∧
      locks.Writes key ∧ writes = .single key value) := by
  simp only [insertMissing] at hRun
  split at hRun
  · rename_i hChecked
    rcases map_eq_some_iff.mp hRun with ⟨_, hNext, ⟨⟩⟩
    exact .inr ⟨hNext, isNone_iff_eq_none.mp hChecked.2, ⟨.update, hChecked.1, rfl⟩, rfl⟩
  · rcases map_eq_some_iff.mp hRun with ⟨_, hNext, ⟨⟩⟩
    exact .inl ⟨hNext, rfl⟩

/- An INSERT of one row into a table with a second unique index. The row and its entry in the index
  must be new. -/
def insertIndexed (key : K) (value : V key) (index : K) (entry : V index)
    (next : L) : Statement K V L where
  scan := fun _ => [(key, .update), (index, .update)]
  run := fun view locks =>
    if ((key, LockMode.update) ∈ locks ∧ (index, LockMode.update) ∈ locks) ∧ (view.row key).isNone ∧
      (view.row index).isNone then
      some (next, (single key value).overlay (.single index entry))
    else none
  covered := by
    intro view locks l writes k hRun hRow
    rcases ite_none_right_eq_some.mp hRun with ⟨hChecked, ⟨⟩⟩
    by_cases hKey : key = k
    · subst hKey
      exact ⟨.update, hChecked.1.1, rfl⟩
    · rw [overlay_row_of_none (single_row_of_ne value hKey)] at hRow
      by_cases hIndex : index = k
      · subst hIndex
        exact ⟨.update, hChecked.1.2, rfl⟩
      · exact absurd (single_row_of_ne entry hIndex) hRow

theorem insertIndexed_run {index : K} {value : V key} {entry : V index} {next : L}
    (hRun : (insertIndexed key value index entry next).run view locks = some (l, writes)) :
    l = next ∧ (locks.Writes key ∧ view.row key = none) ∧
    (locks.Writes index ∧ view.row index = none) ∧
    writes = (single key value).overlay (.single index entry) := by
  simp only [insertIndexed] at hRun
  rcases ite_none_right_eq_some.mp hRun with ⟨hChecked, ⟨⟩⟩
  rcases hChecked with ⟨⟨hKey, hIndex⟩, hNewKey, hNewIndex⟩
  exact ⟨rfl, ⟨⟨.update, hKey, rfl⟩, isNone_iff_eq_none.mp hNewKey⟩,
    ⟨⟨.update, hIndex, rfl⟩, isNone_iff_eq_none.mp hNewIndex⟩, rfl⟩

end

end Statement

-- Tables

/- A key is a table and an identifier of the table. -/
abbrev Key {τ : Type} (Id : τ → Type) := Sigma Id

/- The rows of a table have the table's own type. -/
abbrev Cell {τ : Type} {Id : τ → Type} (Row : τ → Type) : Key Id → Type := fun k => Row k.1

section

variable {τ : Type} [DecidableEq τ] {Id : τ → Type} {Row : τ → Type}

def Table.entry (t : τ) (k : Key Id) (v : Row k.1) : Option (Id t × Row t) :=
  if hTable : k.1 = t then some (hTable ▸ k.2, hTable ▸ v) else none

@[simp] theorem Table.entry_self (t : τ) (id : Id t) (row : Row t) :
    Table.entry t (⟨t, id⟩ : Key Id) row = some (id, row) := by
  simp [Table.entry]

variable {t t' : τ}

theorem Table.entry_of_ne (id : Id t') (row : Row t') (hNe : t' ≠ t) :
    Table.entry t (⟨t', id⟩ : Key Id) row = none := by
  simp [Table.entry, hNe]

def Store.rows {α : Type} (store : Store (Key Id) (Cell Row)) (t : τ)
    (find : Id t → Row t → Option α) : List α :=
  store.select (fun k v => (Table.entry t k v).bind (fun found => find found.1 found.2))

theorem Store.mem_rows {α : Type} {store : Store (Key Id) (Cell Row)}
    {find : Id t → Row t → Option α} {found : α} :
    found ∈ store.rows t find ↔ ∃ id row, store.row ⟨t, id⟩ = some row ∧
      find id row = some found := by
  unfold rows
  rw [mem_select]
  constructor
  · rintro ⟨⟨t', id⟩, row, hRow, hFound⟩
    by_cases hTable : t' = t
    · subst hTable
      rw [Table.entry_self] at hFound
      exact ⟨id, row, hRow, hFound⟩
    · rw [Table.entry_of_ne id row hTable] at hFound
      cases hFound
  · rintro ⟨id, row, hRow, hFound⟩
    refine ⟨⟨t, id⟩, row, hRow, ?_⟩
    rwa [Table.entry_self]

def Table.id (t : τ) (k : Key Id) : Option (Id t) :=
  if hTable : k.1 = t then some (hTable ▸ k.2) else none

theorem Table.id_eq_some {k : Key Id} {id : Id t} : Table.id t k = some id ↔ k = ⟨t, id⟩ := by
  rcases k with ⟨t', id'⟩
  unfold Table.id
  by_cases hTable : t' = t
  · subst hTable
    simp
  · simp [hTable]

def Table.rewrite (t : τ) (change : Row t → Option (Row t)) (k : Key Id)
    (v : Row k.1) : Option (Row k.1) :=
  if hTable : k.1 = t then (change (hTable ▸ v)).map (fun row => hTable ▸ row) else some v

theorem Table.rewrite_self (t : τ) (change : Row t → Option (Row t)) (id : Id t) (row : Row t) :
    Table.rewrite t change (⟨t, id⟩ : Key Id) row = change row := by
  simp [Table.rewrite]

variable [∀ t, DecidableEq (Id t)]

def Statement.updateTable (t : τ) (condition : Id t → Row t → Bool)
    (change : Row t → Option (Row t)) (next : List (Id t) → Option L) :
    Statement (Key Id) (Cell Row) L :=
  .update (fun k v => (Table.entry t k v).any (fun found => condition found.1 found.2))
    (Table.rewrite t change)
    (fun keys => next (keys.filterMap (Table.id t)))

structure Table.Updated (t : τ) (condition : Id t → Row t → Bool) (change : Row t → Option (Row t))
    (view : Store (Key Id) (Cell Row)) (locks : Locks (Key Id)) (ids : List (Id t))
    (writes : Store (Key Id) (Cell Row)) : Prop where
  returned : ∀ {id}, id ∈ ids ↔ locks.Writes ⟨t, id⟩ ∧ ∃ row, view.row ⟨t, id⟩ = some row ∧
    condition id row = true
  written : ∀ {id row'}, writes.row ⟨t, id⟩ = some row' ↔ id ∈ ids ∧ ∃ row,
    view.row ⟨t, id⟩ = some row ∧
    change row = some row'
  total : ∀ {id}, id ∈ ids → ∃ row, writes.row ⟨t, id⟩ = some row
  others : ∀ {t' id}, t' ≠ t → writes.row ⟨t', id⟩ = none

variable {view writes : Store (Key Id) (Cell Row)} {locks : Locks (Key Id)} {id : Id t}
  {condition : Id t → Row t → Bool} {change : Row t → Option (Row t)}

omit [DecidableEq τ] [∀ t, DecidableEq (Id t)] in
theorem Table.Updated.changed {ids : List (Id t)} {row' : Row t}
    (hUpdated : Table.Updated t condition change view locks ids writes)
    (hRow : writes.row ⟨t, id⟩ = some row') :
    id ∈ ids ∧ ∃ row, view.row ⟨t, id⟩ = some row ∧ condition id row = true ∧
      change row = some row' := by
  rcases hUpdated.written.mp hRow with ⟨hId, row, hView, hChange⟩
  rcases (hUpdated.returned.mp hId).2 with ⟨old, hOld, hCondition⟩
  cases hView.symm.trans hOld
  exact ⟨hId, row, hView, hCondition, hChange⟩

variable {next : List (Id t) → Option L}

theorem Statement.updateTable_scan_writes {snapshot : Store (Key Id) (Cell Row)} :
    Locks.Writes ((updateTable t condition change next).scan snapshot) ⟨t, id⟩ ↔ ∃ row,
      snapshot.row ⟨t, id⟩ = some row ∧ condition id row = true := by
  unfold updateTable
  rw [update_scan_writes]
  simp

variable {l : L}

theorem Statement.updateTable_run
    (hRun : (updateTable t condition change next).run view locks = some (l, writes)) :
    ∃ ids, next ids = some l ∧ Table.Updated t condition change view locks ids writes := by
  rcases update_run hRun with ⟨keys, hNext, hUpdated⟩
  have hIds : ∀ {id}, id ∈ keys.filterMap (Table.id t) ↔ (⟨t, id⟩ : Key Id) ∈ keys := by
    intro id
    rw [List.mem_filterMap]
    constructor
    · rintro ⟨k, hKey, hId⟩
      rw [Table.id_eq_some] at hId
      rwa [← hId]
    · intro hKey
      exact ⟨_, hKey, Table.id_eq_some.mpr rfl⟩
  refine ⟨_, hNext, ?_, ?_, ?_, ?_⟩
  · intro id
    rw [hIds, hUpdated.returned]
    simp
  · intro id row'
    rw [hIds, hUpdated.written]
    simp only [Table.rewrite_self]
  · intro id hId
    exact hUpdated.total (hIds.mp hId)
  · intro t' id hNe
    by_contra hRow
    rcases ne_none_iff_exists'.mp hRow with ⟨row', hRow⟩
    have hKey := (hUpdated.written.mp hRow).1
    rcases (hUpdated.returned.mp hKey).2 with ⟨row, _, hCondition⟩
    rw [Table.entry_of_ne id row hNe] at hCondition
    cases hCondition

theorem Statement.updateTable_row {row' : Row t}
    (hRun : (updateTable t condition change next).run view locks = some (l, writes))
    (hRow : writes.row ⟨t, id⟩ = some row') :
    ∃ row, view.row ⟨t, id⟩ = some row ∧ condition id row = true ∧ change row = some row' := by
  rcases updateTable_run hRun with ⟨_, _, hUpdated⟩
  exact (hUpdated.changed hRow).2

theorem Store.single_row_eq_some {id' : Id t} {row row' : Row t} :
    (single (⟨t, id⟩ : Key Id) row : Store (Key Id) (Cell Row)).row ⟨t, id'⟩ = some row' ↔
      id' = id ∧ row' = row := by
  by_cases hId : id = id'
  · subst hId
    rw [single_row]
    simp [eq_comm]
  · have hNe : (⟨t, id⟩ : Key Id) ≠ ⟨t, id'⟩ := by
      simpa using hId
    rw [single_row_of_ne _ hNe]
    simp [Ne.symm hId]

theorem Statement.insert_table {id' : Id t'}
    {value : Store (Key Id) (Cell Row) → Option (Row t)} {parents : List (Key Id)} {next : L}
    (hRun : (insert (⟨t, id⟩ : Key Id) value parents next).run view locks = some (l, writes))
    (hRow : writes.row ⟨t', id'⟩ ≠ none) : t' = t := by
  rcases insert_run hRun with ⟨_, _, _, row, _, hWrites⟩
  by_contra hNe
  rw [hWrites] at hRow
  apply hRow
  apply single_row_of_ne
  rintro ⟨⟩
  exact hNe rfl

theorem Statement.updateTable_table {id' : Id t'}
    (hRun : (updateTable t condition change next).run view locks = some (l, writes))
    (hRow : writes.row ⟨t', id'⟩ ≠ none) : t' = t := by
  rcases updateTable_run hRun with ⟨_, _, hUpdated⟩
  by_contra hNe
  exact hRow (hUpdated.others hNe)

end

variable {τ L : Type} {Id Row : τ → Type}

-- Open Rows

variable (committed : Store (Key Id) (Cell Row)) (tx : Transaction (Key Id) (Cell Row) L)

/- The transaction has closed every open row. -/
def Swept (t : τ) (isOpen : Row t → Prop) : Prop :=
  ∀ id row, committed.row ⟨t, id⟩ = some row → isOpen row →
    ∃ row', tx.writes.row ⟨t, id⟩ = some row' ∧ ¬isOpen row'

/- The snapshot has every open row that is not closed yet. -/
def Seen (snapshot : Store (Key Id) (Cell Row)) (t : τ) (isOpen : Row t → Prop) : Prop :=
  ∀ id row, committed.row ⟨t, id⟩ = some row → isOpen row → (∃ row',
    tx.writes.row ⟨t, id⟩ = some row' ∧ ¬isOpen row') ∨
    ∃ row', snapshot.row ⟨t, id⟩ = some row' ∧ isOpen row'

/- The transaction has not written an open row itself. -/
def Closed (t : τ) (isOpen : Row t → Prop) : Prop :=
  ∀ id row, tx.writes.row ⟨t, id⟩ = some row → ¬isOpen row

/- The transaction only keeps rows open that were open. -/
def OpensNone (t : τ) (isOpen : Row t → Prop) : Prop :=
  ∀ id row, tx.writes.row ⟨t, id⟩ = some row → isOpen row →
    ∃ old, committed.row ⟨t, id⟩ = some old ∧ isOpen old

section

variable {t : τ} {isOpen : Row t → Prop} {committed snapshot written : Store (Key Id) (Cell Row)}
  {tx committer : Transaction (Key Id) (Cell Row) L}

-- Commits Of Others

theorem OpensNone.before {id : Id t} {row : Row t} (hNone : OpensNone committed committer t isOpen)
    (hRow : (committer.writes.overlay committed).row ⟨t, id⟩ = some row) (hOpen : isOpen row) :
    ∃ old, committed.row ⟨t, id⟩ = some old ∧ isOpen old := by
  rcases overlay_cases hRow with hWritten | ⟨_, hRow⟩
  · exact hNone id row hWritten hOpen
  · exact ⟨row, hRow, hOpen⟩

theorem Swept.stable (hSwept : Swept committed tx t isOpen)
    (hNone : OpensNone committed committer t isOpen) :
    Swept (committer.writes.overlay committed) tx t isOpen := by
  intro id row hRow hOpen
  rcases hNone.before hRow hOpen with ⟨old, hOld, hOldOpen⟩
  exact hSwept id old hOld hOldOpen

theorem Seen.stable (hSeen : Seen committed tx snapshot t isOpen)
    (hNone : OpensNone committed committer t isOpen) :
    Seen (committer.writes.overlay committed) tx snapshot t isOpen := by
  intro id row hRow hOpen
  rcases hNone.before hRow hOpen with ⟨old, hOld, hOldOpen⟩
  exact hSeen id old hOld hOldOpen

-- Statements Of The Transaction

/- Rows that are closed stay closed. -/
theorem Swept.finished {l : L} {locks : Locks (Key Id)} (hSwept : Swept committed tx t isOpen)
    (hKept : ∀ id row old, written.row ⟨t, id⟩ = some row → committed.row ⟨t, id⟩ = some old →
      ¬isOpen row) (hCovered : ∀ k, written.row k ≠ none → locks.Writes k) :
    Swept committed (tx.finished l written locks hCovered) t isOpen := by
  intro id row hRow hOpen
  simp only [Transaction.finished]
  cases hWritten : written.row ⟨t, id⟩ with
  | some row' =>
    rw [overlay_row_of_some hWritten]
    exact ⟨row', rfl, hKept id row' row hWritten hRow⟩
  | none =>
    rw [overlay_row_of_none hWritten]
    exact hSwept id row hRow hOpen

/- A fresh snapshot has all open rows. -/
theorem seen_of_start (hClosed : Closed tx t isOpen) : Seen committed (tx.started committed)
    (tx.writes.overlay committed) t isOpen := by
  intro id row hRow hOpen
  cases hOwn : tx.writes.row ⟨t, id⟩ with
  | some own =>
    left
    exact ⟨own, hOwn, hClosed id own hOwn⟩
  | none =>
    right
    rw [overlay_row_of_none hOwn]
    exact ⟨row, hRow, hOpen⟩

variable [DecidableEq τ] [∀ t, DecidableEq (Id t)]

/- The update of all open rows closes them. -/
theorem swept_of_update {statement : Statement (Key Id) (Cell Row) L}
    {condition : Id t → Row t → Bool} {change : Row t → Option (Row t)}
    {next : List (Id t) → Option L} {l : L}
    (hStatement : statement = .updateTable t condition change next)
    (hCondition : ∀ id row, isOpen row → condition id row = true)
    (hChange : ∀ row row', change row = some row' → ¬isOpen row')
    (hSeen : Seen committed tx snapshot t isOpen) (hClosed : Closed tx t isOpen)
    (hRun : tx.Runs statement committed snapshot l written) :
    Swept committed (tx.after hRun) t isOpen := by
  subst hStatement
  rcases Statement.updateTable_run hRun with ⟨ids, _, hUpdated⟩
  intro id row hRow hOpen
  simp only [Transaction.finished]
  cases hWritten : written.row ⟨t, id⟩ with
  | some row' =>
    rw [overlay_row_of_some hWritten]
    rcases hUpdated.changed hWritten with ⟨_, old, _, _, hChanged⟩
    exact ⟨row', rfl, hChange old row' hChanged⟩
  | none =>
    rw [overlay_row_of_none hWritten]
    rcases hSeen id row hRow hOpen with hBefore | ⟨old, hOld, hOldOpen⟩
    · exact hBefore
    · -- the row is in the snapshot, so it was locked
      have hWrites : Locks.Writes (Statement.scan (.updateTable t condition change next :
              Statement (Key Id) (Cell Row) L)
            snapshot)
          ⟨t, id⟩ :=
        Statement.updateTable_scan_writes.mpr ⟨old, hOld, hCondition id old hOldOpen⟩
      cases hOwn : tx.writes.row ⟨t, id⟩ with
      | some own => exact ⟨own, rfl, hClosed id own hOwn⟩
      | none =>
        have hCurrent : (tx.writes.overlay committed).row ⟨t, id⟩ = some row := by
          rwa [overlay_row_of_none hOwn]
        have hMember : id ∈ ids := by
          refine hUpdated.returned.mpr ⟨hWrites, row, ?_, ?_⟩
          · rwa [Transaction.view_row_of_writes hWrites]
          · exact hCondition id row hOpen
        rcases hUpdated.total hMember with ⟨_, hSome⟩
        cases hWritten.symm.trans hSome

end

end ReadCommitted
