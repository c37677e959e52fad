import Mathlib.Data.List.Sort

/-
  This file is about sorted lists: finite sets that are traversed in order, and the pages of a
  table that is read by falling keys.
-/

structure OrderedSet (α : Type) [LinearOrder α] where
  elements : List α
  nodup : elements.Nodup
  sorted : elements.Pairwise (· ≤ ·)

namespace OrderedSet

variable {α : Type} [LinearOrder α]

def empty : OrderedSet α where
  elements := []
  nodup := List.nodup_nil
  sorted := List.Pairwise.nil

/- Add an element in its place if it is not there yet. -/
def insert (set : OrderedSet α) (a : α) : OrderedSet α :=
  if hNew : a ∈ set.elements then set
  else
    { elements := set.elements.orderedInsert (· ≤ ·) a
      nodup := by
        rw [(List.perm_orderedInsert _ a _).nodup_iff]
        exact List.nodup_cons.mpr ⟨hNew, set.nodup⟩
      sorted := set.sorted.orderedInsert a _ }

theorem mem_insert {set : OrderedSet α} {a b : α} :
    b ∈ (set.insert a).elements ↔ b = a ∨ b ∈ set.elements := by
  unfold insert
  split
  case isTrue hOld =>
    refine ⟨.inr, ?_⟩
    rintro (rfl | hMember)
    · exact hOld
    · exact hMember
  case isFalse => exact List.mem_orderedInsert _

end OrderedSet

namespace Keyset

variable {ρ κ : Type} [LinearOrder κ] (key : ρ → κ)

def falling (rows : List ρ) : List ρ := rows.insertionSort (fun a b => key b ≤ key a)

/- The rows below a cursor, or all without one. -/
def below (cursor : Option κ) (rows : List ρ) : List ρ :=
  rows.filter (fun row => cursor.all (fun limit => decide (key row < limit)))

def remaining (rows : List ρ) (cursor : Option κ) : List ρ := falling key (below key cursor rows)

variable {key} {rows : List ρ} {cursor : Option κ}

theorem mem_remaining {row : ρ} : row ∈ remaining key rows cursor ↔
    row ∈ rows ∧ ∀ limit ∈ cursor, key row < limit := by
  simp only [remaining, falling, below, List.mem_insertionSort, List.mem_filter,
    Option.all_eq_true_iff_get, decide_eq_true_eq]
  constructor
  · rintro ⟨hRow, hBelow⟩
    refine ⟨hRow, ?_⟩
    rintro limit hLimit
    cases hLimit
    exact hBelow rfl
  · rintro ⟨hRow, hBelow⟩
    refine ⟨hRow, ?_⟩
    intro hSome
    exact hBelow _ (Option.get_mem hSome)

theorem remaining_none_perm : (remaining key rows none).Perm rows := by
  have hAll : below key none rows = rows := List.filter_eq_self.mpr (fun _ _ => rfl)
  rw [remaining, hAll]
  exact List.perm_insertionSort _ rows

theorem remaining_nodup (hKeys : (rows.map key).Nodup) : (remaining key rows cursor).Nodup := by
  have hBelow : (below key cursor rows).Nodup := (List.Nodup.of_map key hKeys).filter _
  exact (List.perm_insertionSort _ _).nodup_iff.mpr hBelow

theorem remaining_sorted (hKeys : (rows.map key).Nodup) : (remaining key rows cursor).Pairwise
    (fun a b => key b < key a) := by
  have hWeak : (remaining key rows cursor).Pairwise (fun a b => key b ≤ key a) := by
    have hTotal : Std.Total (fun a b : ρ => key b ≤ key a) := ⟨fun a b => le_total (key b) (key a)⟩
    have hTrans : IsTrans ρ (fun a b : ρ => key b ≤ key a) :=
      ⟨fun _ _ _ hFirst hSecond => le_trans hSecond hFirst⟩
    exact List.pairwise_insertionSort _ _
  have hDistinct : (remaining key rows cursor).Nodup := remaining_nodup hKeys
  refine (hWeak.and hDistinct).imp_of_mem ?_
  intro a b ha hb hBoth
  refine lt_of_le_of_ne hBoth.1 ?_
  intro hSame
  exact hBoth.2 (List.inj_on_of_nodup_map hKeys (mem_remaining.mp ha).1
    (mem_remaining.mp hb).1 hSame.symm)

theorem remaining_after (hKeys : (rows.map key).Nodup) {front rest : List ρ} {last : ρ}
    (hSplit : remaining key rows cursor = front ++ last :: rest) :
    remaining key rows (some (key last)) = rest := by
  have hSorted : (remaining key rows cursor).Pairwise (fun a b => key b < key a) :=
    remaining_sorted hKeys
  rw [hSplit, List.pairwise_append, List.pairwise_cons] at hSorted
  rcases hSorted with ⟨_, ⟨hAfter, hRest⟩, hBefore⟩
  have hLast : last ∈ rows ∧ ∀ limit ∈ cursor, key last < limit := by
    rw [← mem_remaining, hSplit]
    exact List.mem_append_right _ List.mem_cons_self
  have hSame : ∀ row, row ∈ remaining key rows (some (key last)) ↔ row ∈ rest := by
    intro row
    constructor
    · intro hRow
      rcases mem_remaining.mp hRow with ⟨hMember, hBelow⟩
      have hLess := hBelow _ rfl
      have hOld : row ∈ remaining key rows cursor := mem_remaining.mpr ⟨hMember, fun limit hLimit =>
        lt_trans hLess (hLast.2 limit hLimit)⟩
      rw [hSplit, List.mem_append, List.mem_cons] at hOld
      rcases hOld with hFront | rfl | hFound
      · have hGreater := hBefore row hFront last List.mem_cons_self
        exact absurd hLess (lt_asymm hGreater)
      · exact absurd hLess (lt_irrefl _)
      · exact hFound
    · intro hRow
      have hOld : row ∈ remaining key rows cursor := by
        rw [hSplit]
        exact List.mem_append_right _ (List.mem_cons_of_mem _ hRow)
      refine mem_remaining.mpr ⟨(mem_remaining.mp hOld).1, ?_⟩
      rintro limit ⟨⟩
      exact hAfter row hRow
  have hNodupRest : rest.Nodup := by
    have hNodup : (remaining key rows cursor).Nodup := remaining_nodup hKeys
    rw [hSplit] at hNodup
    exact (List.nodup_cons.mp (List.nodup_append.mp hNodup).2.1).2
  have hPerm : (remaining key rows (some (key last))).Perm rest :=
    (List.perm_ext_iff_of_nodup (remaining_nodup hKeys) hNodupRest).mpr hSame
  refine hPerm.eq_of_pairwise ?_ (remaining_sorted hKeys) hRest
  intro a b _ _ hFirst hSecond
  exact absurd hFirst (lt_asymm hSecond)

end Keyset
