import Mathlib.Data.List.Basic

/-
  This file defines tables as lists of rows with a key: the row under a key, and the replacement of
  a row.
-/

namespace Rows

open List

variable {κ ρ : Type} [DecidableEq κ] {key : ρ → κ}

-- Operations

def lookup (key : ρ → κ) (rows : List ρ) (k : κ) : Option ρ := rows.find? (fun row => key row = k)

def replace (key : ρ → κ) (rows : List ρ) (row : ρ) : List ρ :=
  rows.map (fun old => if key old = key row then row else old)

-- Lookups

variable {rows : List ρ} {k : κ} {row : ρ}

theorem key_of_lookup (hRow : lookup key rows k = some row) : key row = k := by
  have hKey := List.find?_some hRow
  simpa using hKey

theorem mem_of_lookup (hRow : lookup key rows k = some row) : row ∈ rows :=
  mem_of_find?_eq_some hRow

theorem lookup_eq_none_iff : lookup key rows k = none ↔ ∀ row ∈ rows, key row ≠ k := by
  simp [lookup]

theorem lookup_insert (rows : List ρ) (row : ρ) (k : κ) : lookup key (row :: rows) k =
    if key row = k then some row
    else lookup key rows k := by
  unfold lookup
  by_cases hKey : key row = k <;> simp [hKey]

theorem lookup_replace (rows : List ρ) (row : ρ) (k : κ) : lookup key (replace key rows row) k =
    if key row = k then (lookup key rows k).map (fun _ => row)
    else lookup key rows k := by
  unfold lookup replace
  induction rows with
  | nil => simp
  | cons old rows ih =>
    by_cases hKey : key row = k
    · rw [if_pos hKey] at ih ⊢
      by_cases hOld : key old = k
      · simp [hOld, hKey]
      · have hNe : key old ≠ key row := by
          rwa [hKey]
        simp [hOld, hNe, ih]
    · rw [if_neg hKey] at ih ⊢
      by_cases hSame : key old = key row
      · have hOld : key old ≠ k := by
          rwa [hSame]
        simp [hSame, hKey, ih]
      · simp only [map_cons, if_neg hSame]
        by_cases hOld : key old = k
        · simp [hOld]
        · simp [hOld, ih]

/- A row of the new table is the new row or an old one. -/
theorem mem_replace {other : ρ} (hMember : other ∈ replace key rows row) :
    other = row ∨ other ∈ rows ∧ key other ≠ key row := by
  rcases mem_map.mp hMember with ⟨old, hOld, rfl⟩
  by_cases hKey : key old = key row
  · rw [if_pos hKey]
    exact .inl rfl
  · rw [if_neg hKey]
    exact .inr ⟨hOld, hKey⟩

theorem mem_replace_of_ne {other : ρ} (hMember : other ∈ rows) (hKey : key other ≠ key row) :
    other ∈ replace key rows row := by
  refine mem_map.mpr ⟨other, hMember, ?_⟩
  rw [if_neg hKey]

theorem mem_replace_self {old : ρ} (hMember : old ∈ rows) (hKey : key old = key row) :
    row ∈ replace key rows row := by
  refine mem_map.mpr ⟨old, hMember, ?_⟩
  rw [if_pos hKey]

theorem lookup_map {update : ρ → ρ} (hKeeps : ∀ row, key (update row) = key row) (k : κ) :
    lookup key (rows.map update) k = (lookup key rows k).map update := by
  unfold lookup
  rw [List.find?_map]
  congr 2
  funext row
  simp only [Function.comp, hKeeps]

-- Keys

def Unique (key : ρ → κ) (rows : List ρ) : Prop :=
  ∀ row ∈ rows, ∀ other ∈ rows, key row = key other → row = other

variable (hUnique : Unique key rows)

include hUnique

theorem lookup_eq_some_iff : lookup key rows k = some row ↔ row ∈ rows ∧ key row = k := by
  constructor
  · intro hRow
    exact ⟨mem_of_lookup hRow, key_of_lookup hRow⟩
  · rintro ⟨hMember, hKey⟩
    cases hFound : lookup key rows k with
    | none =>
      have hNone := List.find?_eq_none.mp hFound row hMember
      simp [hKey] at hNone
    | some found =>
      have hSame : key found = key row := by
        rw [key_of_lookup hFound, hKey]
      rw [hUnique found (mem_of_lookup hFound) row hMember hSame]

omit [DecidableEq κ] in
theorem Unique.insert (hFresh : ∀ old ∈ rows, key old ≠ key row) : Unique key (row :: rows) := by
  intro first hFirst second hSecond hKey
  rcases mem_cons.mp hFirst with rfl | hOld
  · rcases mem_cons.mp hSecond with rfl | hOther
    · rfl
    · exact absurd hKey.symm (hFresh second hOther)
  · rcases mem_cons.mp hSecond with rfl | hOther
    · exact absurd hKey (hFresh first hOld)
    · exact hUnique first hOld second hOther hKey

/- An update that keeps the key keeps it unique. -/
omit [DecidableEq κ] in
theorem Unique.map {update : ρ → ρ} (hKeeps : ∀ row ∈ rows, key (update row) = key row) :
    Unique key (rows.map update) := by
  intro first hFirst second hSecond hKey
  rcases mem_map.mp hFirst with ⟨row, hRow, rfl⟩
  rcases mem_map.mp hSecond with ⟨other, hOther, rfl⟩
  rw [hKeeps row hRow, hKeeps other hOther] at hKey
  rw [hUnique row hRow other hOther hKey]

/- A row takes its own place. -/
theorem replace_self (hRow : row ∈ rows) : replace key rows row = rows := by
  refine (map_congr_left ?_).trans (map_id rows)
  intro old hOld
  split
  · rename_i hKey
    exact (hUnique old hOld row hRow hKey).symm
  · rfl

/- A replacement keeps the keys. -/
theorem Unique.replace : Unique key (replace key rows row) := by
  apply hUnique.map
  intro old _
  split
  · rename_i hKey
    exact hKey.symm
  · rfl

end Rows
