import Mathlib.Data.List.Nodup
import Mathlib.Data.List.Perm.Subperm

/-
  This file defines the visit of a graph by the nodes whose predecessors have all been visited,
  and shows that a graph is visited completely exactly when it has a topological order.
-/

namespace TopologicalOrder

open List

variable {α : Type} [DecidableEq α] (nodes : List α) (predecessors : α → List α)

def successors (a : α) : List α := nodes.filter (fun b => decide (a ∈ predecessors b))

/- The counts of unvisited predecessors after a visit. -/
def settle (counts : α → Nat) (a : α) : α → Nat :=
  fun b => if b ∈ successors nodes predecessors a then counts b - 1 else counts b

/- Visit the first ready node, count it off for its successors, and make those ready that have no
  unvisited predecessor left. Every node is visited at most once, so that as much fuel as nodes
  suffices. -/
def visit : Nat → (α → Nat) → List α → List α → List α
| 0, _, _, visited => visited
| _ + 1, _, [], visited => visited
| fuel + 1, counts, a :: ready, visited =>
  let counts := settle nodes predecessors counts a
  visit fuel counts (ready ++ (successors nodes predecessors a).filter (fun b => counts b == 0))
    (visited ++ [a])

/- The nodes without a predecessor are ready at first, in the order of `scan`. -/
def order (scan : List α) : List α :=
  visit nodes predecessors nodes.length (fun a => (predecessors a).length)
    (scan.filter (fun a => (predecessors a).length == 0))
    []

-- The Invariant Of The Visit

def Ordered (visited : List α) : Prop :=
  ∀ a ∈ visited, ∀ b ∈ predecessors a, b ∈ visited ∧ visited.idxOf b < visited.idxOf a

structure Progress (counts : α → Nat) (ready visited : List α) : Prop where
  nodup : (visited ++ ready).Nodup
  mem : ∀ a ∈ visited ++ ready, a ∈ nodes
  counted : ∀ b ∈ nodes, counts b = ((predecessors b).filter (fun a => decide (a ∉ visited))).length
  free : ∀ a ∈ ready, ∀ b ∈ predecessors a, b ∈ visited
  ordered : Ordered predecessors visited

variable {nodes predecessors}

variable {visited : List α} {a : α}

/- One visit removes the node from the unvisited predecessors. -/
theorem length_filter_visited {l : List α} (hNodup : l.Nodup) (hMember : a ∈ l)
    (hNew : a ∉ visited) :
    (l.filter (fun b => decide (b ∉ visited ++ [a]))).length + 1 =
      (l.filter (fun b => decide (b ∉ visited))).length := by
  have hErase : l.filter (fun b => decide (b ∉ visited ++ [a])) =
      (l.filter (fun b => decide (b ∉ visited))).erase a := by
    rw [(hNodup.filter _).erase_eq_filter, filter_filter]
    apply filter_congr
    intro b _
    by_cases hSame : b = a <;>
      by_cases hVisited : b ∈ visited <;>
      simp [hSame, hVisited]
  rw [hErase]
  exact length_erase_add_one (mem_filter.mpr ⟨hMember, by simpa using hNew⟩)

theorem filter_visited_of_notMem {l : List α} (hOther : a ∉ l) :
    l.filter (fun b => decide (b ∉ visited ++ [a])) = l.filter (fun b => decide (b ∉ visited)) := by
  apply filter_congr
  intro b hMember
  have hDistinct : b ≠ a := fun h => hOther (h ▸ hMember)
  simp [hDistinct]

theorem Ordered.append (hOrdered : Ordered predecessors visited) (hNew : a ∉ visited)
    (hFree : ∀ b ∈ predecessors a, b ∈ visited) : Ordered predecessors (visited ++ [a]) := by
  intro c hVisited b hBefore
  rcases mem_append.mp hVisited with hOld | hLast
  · rcases hOrdered c hOld b hBefore with ⟨hMember, hLess⟩
    refine ⟨mem_append_left _ hMember, ?_⟩
    rwa [idxOf_append_of_mem hMember, idxOf_append_of_mem hOld]
  · rw [mem_singleton.mp hLast] at hBefore ⊢
    have hMember := hFree b hBefore
    refine ⟨mem_append_left _ hMember, ?_⟩
    rw [idxOf_append_of_mem hMember, idxOf_append_of_notMem hNew]
    exact Nat.lt_add_right _ (idxOf_lt_length_of_mem hMember)

variable {counts : α → Nat} {ready : List α}

theorem Progress.unvisited
    (hProgress : Progress nodes predecessors counts (a :: ready) visited) : a ∉ visited := by
  intro hOld
  exact (nodup_append.mp hProgress.nodup).2.2 a hOld a mem_cons_self rfl

theorem Progress.successor_fresh {b : α}
    (hProgress : Progress nodes predecessors counts (a :: ready) visited)
    (hEdge : a ∈ predecessors b) : b ∉ visited ++ a :: ready := by
  have hNew := hProgress.unvisited
  intro hKnown
  rcases mem_append.mp hKnown with hVisited | hReady
  · exact hNew (hProgress.ordered b hVisited a hEdge).1
  · exact hNew (hProgress.free b hReady a hEdge)

variable (hNodes : nodes.Nodup) (hEdges : ∀ b ∈ nodes, (predecessors b).Nodup)

include hEdges

/- The count of a successor is positive, so that nothing is cut off when it is counted down. -/
theorem Progress.counts_eq_succ {b : α}
    (hProgress : Progress nodes predecessors counts (a :: ready) visited) (hNode : b ∈ nodes)
    (hEdge : a ∈ predecessors b) :
    counts b = ((predecessors b).filter (fun c => decide (c ∉ visited ++ [a]))).length + 1 := by
  rw [hProgress.counted b hNode, length_filter_visited (hEdges b hNode) hEdge hProgress.unvisited]

include hNodes

/- One visit keeps the invariant. -/
theorem Progress.step
    (hProgress : Progress nodes predecessors counts (a :: ready) visited) :
    Progress nodes predecessors (settle nodes predecessors counts a) (ready ++
      (successors nodes predecessors a).filter (fun b => settle nodes predecessors counts a b == 0))
      (visited ++ [a]) := by
  have hSuccessor : ∀ b, b ∈ successors nodes predecessors a ↔ b ∈ nodes ∧ a ∈ predecessors b := by
    intro b
    simp [successors]
  have hCounted : ∀ b ∈ nodes, settle nodes predecessors counts a b = ((predecessors b).filter
      (fun c => decide (c ∉ visited ++ [a]))).length := by
    intro b hNode
    unfold settle
    by_cases hEdge : a ∈ predecessors b
    · rw [if_pos ((hSuccessor b).mpr ⟨hNode, hEdge⟩), hProgress.counts_eq_succ hEdges hNode hEdge,
        Nat.add_sub_cancel]
    · have hOther : b ∉ successors nodes predecessors a := fun h => hEdge ((hSuccessor b).mp h).2
      rw [if_neg hOther, hProgress.counted b hNode, filter_visited_of_notMem hEdge]
  constructor
  · rw [append_assoc, singleton_append, ← cons_append, ← append_assoc]
    refine nodup_append.mpr ⟨hProgress.nodup, (hNodes.filter _).filter _, ?_⟩
    intro b hKnown c hFresh hSame
    subst hSame
    have hEdge := ((hSuccessor b).mp (mem_filter.mp hFresh).1).2
    exact hProgress.successor_fresh hEdge hKnown
  · intro b hMember
    simp only [mem_append, mem_singleton] at hMember
    rcases hMember with (hOld | rfl) | hReady | hFresh
    · exact hProgress.mem b (mem_append_left _ hOld)
    · exact hProgress.mem b (mem_append_right _ mem_cons_self)
    · exact hProgress.mem b (mem_append_right _ (mem_cons_of_mem _ hReady))
    · exact ((hSuccessor b).mp (mem_filter.mp hFresh).1).1
  · exact hCounted
  · intro b hReady c hBefore
    rcases mem_append.mp hReady with hOld | hFresh
    · exact mem_append_left _ (hProgress.free b (mem_cons_of_mem _ hOld) c hBefore)
    · rcases mem_filter.mp hFresh with ⟨hMember, hZero⟩
      have hNode := ((hSuccessor b).mp hMember).1
      rw [beq_iff_eq, hCounted b hNode, length_eq_zero_iff, filter_eq_nil_iff] at hZero
      by_contra hUnvisited
      exact hZero c hBefore (decide_eq_true hUnvisited)
  · exact hProgress.ordered.append hProgress.unvisited (hProgress.free a mem_cons_self)

/- Every visit ends with an ordered list of nodes. -/
theorem Progress.visit (fuel : Nat) (hProgress : Progress nodes predecessors counts ready visited) :
    (visit nodes predecessors fuel counts ready visited).Nodup ∧
    (∀ a ∈ visit nodes predecessors fuel counts ready visited, a ∈ nodes) ∧
    Ordered predecessors (visit nodes predecessors fuel counts ready visited) := by
  induction fuel generalizing counts ready visited with
  | zero =>
    exact ⟨(nodup_append.mp hProgress.nodup).1,
      fun a h => hProgress.mem a (mem_append_left _ h), hProgress.ordered⟩
  | succ fuel ih =>
    cases ready with
    | nil =>
      exact ⟨(nodup_append.mp hProgress.nodup).1, fun a h =>
        hProgress.mem a (mem_append_left _ h), hProgress.ordered⟩
    | cons a ready => exact ih (hProgress.step hNodes hEdges)

variable {scan : List α} (hScan : scan.Perm nodes)

include hScan

omit hEdges in
/- The state before the first visit. -/
theorem progress_initial : Progress nodes predecessors
    (fun a => (predecessors a).length) (scan.filter (fun a => (predecessors a).length == 0))
    [] := by
  constructor
  · exact (hScan.nodup_iff.mpr hNodes).filter _
  · intro a hReady
    exact hScan.mem_iff.mp (mem_filter.mp hReady).1
  · intro b _
    simp
  · intro a hReady b hBefore
    have hNone := (mem_filter.mp hReady).2
    rw [beq_iff_eq, length_eq_zero_iff] at hNone
    rw [hNone] at hBefore
    cases hBefore
  · rintro a ⟨⟩

omit hScan

-- The Nodes That Are Reached

/- Every node whose predecessors have all been visited is visited or ready. -/
def Complete (nodes : List α) (predecessors : α → List α) (ready visited : List α) : Prop :=
  ∀ b ∈ nodes, (∀ a ∈ predecessors b, a ∈ visited) → b ∈ visited ++ ready

/- One visit makes the nodes ready that waited for the visited one alone. -/
theorem Complete.step
    (hProgress : Progress nodes predecessors counts (a :: ready) visited)
    (hComplete : Complete nodes predecessors (a :: ready) visited) :
    Complete nodes predecessors (ready ++
      (successors nodes predecessors a).filter (fun b => settle nodes predecessors counts a b == 0))
      (visited ++ [a]) := by
  intro b hNode hBefore
  by_cases hEdge : a ∈ predecessors b
  · have hCount := (hProgress.step hNodes hEdges).counted b hNode
    have hNone : (predecessors b).filter (fun c => decide (c ∉ visited ++ [a])) = [] := by
      rw [filter_eq_nil_iff]
      intro c hMember hNew
      exact of_decide_eq_true hNew (hBefore c hMember)
    rw [hNone] at hCount
    have hSuccessor : b ∈ successors nodes predecessors a := by
      simpa [successors] using ⟨hNode, hEdge⟩
    refine mem_append_right _ (mem_append_right _ ?_)
    exact mem_filter.mpr ⟨hSuccessor, beq_iff_eq.mpr hCount⟩
  · have hVisited : ∀ c ∈ predecessors b, c ∈ visited := by
      intro c hMember
      have hDistinct : c ≠ a := fun h => hEdge (h ▸ hMember)
      simpa [hDistinct] using hBefore c hMember
    have hKnown := hComplete b hNode hVisited
    rw [append_assoc, singleton_append, ← cons_append, ← append_assoc]
    exact mem_append_left _ hKnown

/- A visit with enough fuel leaves out only nodes with a predecessor that is left out. -/
theorem Complete.visit {fuel : Nat} (hFuel : nodes.length ≤ visited.length + fuel)
    (hProgress : Progress nodes predecessors counts ready visited)
    (hComplete : Complete nodes predecessors ready visited) :
    Complete nodes predecessors [] (visit nodes predecessors fuel counts ready visited) := by
  induction fuel generalizing counts ready visited with
  | zero =>
    -- as many nodes are visited as there are
    intro b hNode _
    have hNodup := (nodup_append.mp hProgress.nodup).1
    have hSubset : visited ⊆ nodes := fun a h => hProgress.mem a (mem_append_left _ h)
    have hPerm := (subperm_of_subset hNodup hSubset).perm_of_length_le hFuel
    exact mem_append_left _ (hPerm.mem_iff.mpr hNode)
  | succ fuel ih =>
    cases ready with
    | nil => exact hComplete
    | cons a ready =>
      have hNext : nodes.length ≤ (visited ++ [a]).length + fuel := by
        rw [length_append, length_singleton]
        omega
      exact ih hNext (hProgress.step hNodes hEdges) (hComplete.step hNodes hEdges hProgress)

omit [DecidableEq α] hNodes hEdges in
theorem complete_initial (hScan : scan.Perm nodes) : Complete nodes predecessors
    (scan.filter (fun a => (predecessors a).length == 0)) [] := by
  intro b hNode hBefore
  have hNone : predecessors b = [] :=
    eq_nil_iff_forall_not_mem.mpr (fun a h => by cases hBefore a h)
  exact mem_filter.mpr ⟨hScan.mem_iff.mpr hNode, by rw [hNone]; rfl⟩

def Sorts (nodes : List α) (predecessors : α → List α) (sorted : List α) : Prop :=
  sorted.Perm nodes ∧ ∀ a ∈ nodes, ∀ b ∈ predecessors a, sorted.idxOf b < sorted.idxOf a

variable (hKnown : ∀ b ∈ nodes, ∀ a ∈ predecessors b, a ∈ nodes)

include hKnown hScan

/- The predecessors of a node come earlier in the order, so that the induction is on its
  position. -/
theorem Sorts.mem_order {sorted : List α} (hSorts : Sorts nodes predecessors sorted) :
    ∀ b ∈ nodes, b ∈ order nodes predecessors scan := by
  have hComplete := (complete_initial hScan).visit hNodes hEdges (Nat.le_add_left _ _)
    (progress_initial hNodes hScan)
  intro b hNode
  induction hPosition : sorted.idxOf b using Nat.strongRecOn generalizing b with
  | ind position ih =>
    have hBefore : ∀ a ∈ predecessors b, a ∈ order nodes predecessors scan := by
      intro a hEdge
      exact ih _ (hPosition ▸ hSorts.2 b hNode a hEdge) a (hKnown b hNode a hEdge) rfl
    exact append_nil (order nodes predecessors scan) ▸ hComplete b hNode hBefore

/- A graph is visited completely exactly when it has a topological order. -/
theorem length_order_iff :
    (order nodes predecessors scan).length = nodes.length ↔
      ∃ sorted, Sorts nodes predecessors sorted := by
  rcases (progress_initial hNodes hScan).visit hNodes hEdges nodes.length with
    ⟨hNodup, hSubset, hOrdered⟩
  constructor
  · intro hAll
    have hPerm := (subperm_of_subset hNodup hSubset).perm_of_length_le (Nat.le_of_eq hAll.symm)
    exact ⟨_, hPerm, fun a hNode b hBefore => (hOrdered a (hPerm.mem_iff.mpr hNode) b hBefore).2⟩
  · rintro ⟨sorted, hSorts⟩
    have hAll := hSorts.mem_order hNodes hEdges hScan hKnown
    exact Nat.le_antisymm (subperm_of_subset hNodup hSubset).length_le
      (subperm_of_subset hNodes hAll).length_le

end TopologicalOrder
