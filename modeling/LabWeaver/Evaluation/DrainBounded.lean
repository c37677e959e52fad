import LabWeaver.Base.Machine
import Mathlib.Algebra.Group.Nat.Defs
import Mathlib.Logic.Function.Basic

/-
  This file models the two tasks that drain the output of a judged process. They share a count of
  bytes and a flag, and each decides from the count how much of a chunk it keeps.
-/

namespace LabWeaver

open List

inductive OutputStream where
| stdout
| stderr
deriving DecidableEq

/- Where a task is: before a read, after it has counted a chunk, or at its end. -/
inductive DrainPlace where
| reading
| counted (chunk : List UInt8) (previous : Nat)
| finished
| failed
deriving DecidableEq

/- `read` is all that the stream has given. -/
structure DrainTask where
  place : DrainPlace
  captured : List UInt8
  read : List UInt8

structure DrainState where
  total : Nat
  exceeded : Bool
  tasks : OutputStream → DrainTask

inductive DrainEvent where
| read (chunk : List UInt8)
| fail
| keep

namespace DrainState

def move (s : DrainState) (stream : OutputStream) (task : DrainTask) (total : Nat)
    (exceeded : Bool) : DrainState :=
  ⟨total, exceeded, Function.update s.tasks stream task⟩

/- A read fills a buffer of 8192 bytes that no other task sees, so that it is one step with the
  count; an empty read is the end. -/
def step (limit : Nat) (s : DrainState) (action : OutputStream × DrainEvent) : Option DrainState :=
  let task := s.tasks action.1
  match task.place, action.2 with
  | .reading, .read chunk =>
    if chunk = [] then some (s.move action.1 { task with place := .finished } s.total s.exceeded)
    else if chunk.length ≤ 8192 then
      some (s.move action.1
        { task with place := .counted chunk s.total, read := task.read ++ chunk }
        ((s.total + chunk.length) % 2 ^ 64) s.exceeded)
    else none
  | .reading, .fail => some (s.move action.1 { task with place := .failed } s.total s.exceeded)
  | .counted chunk previous, .keep =>
    let remaining := limit - previous
    let captured := task.captured ++ chunk.take (min remaining chunk.length)
    some (s.move action.1 { task with place := .reading, captured } s.total
      (s.exceeded || remaining < chunk.length))
  | _, _ => none

def initial : DrainState := ⟨0, false, fun _ => ⟨.reading, [], []⟩⟩

end DrainState

/- The two tasks of `execute_process`. -/
def drainBounded (limit : Nat) : Machine DrainState (OutputStream × DrainEvent) where
  init := fun s => s = .initial
  step := DrainState.step limit

-- Accounting

namespace DrainTask

variable (task : DrainTask)

/- The chunk that is counted and not yet kept. -/
def pending : List UInt8 :=
  match task.place with
  | .counted chunk _ => chunk
  | _ => []

/- How many bytes of it will be kept. -/
def owed (limit : Nat) (task : DrainTask) : Nat :=
  match task.place with
  | .counted chunk previous => min (limit - previous) chunk.length
  | _ => 0

/- What is kept comes, in order, from what was read before that chunk. -/
def Ordered : Prop :=
  ∃ earlier, task.read = earlier ++ task.pending ∧ task.captured <+ earlier

end DrainTask

namespace DrainState

open DrainTask

/- A number of both tasks together. -/
def sum (s : DrainState) (f : DrainTask → Nat) : Nat := f (s.tasks .stdout) + f (s.tasks .stderr)

def bytesRead (s : DrainState) : Nat := s.sum (·.read.length)

variable (limit : Nat)

/- The bytes that are counted and will not be kept. -/
def excess (task : DrainTask) : Nat := task.pending.length - task.owed limit

structure Accounted (s : DrainState) : Prop where
  counted : s.total = s.bytesRead
  kept : s.sum (·.captured.length) + s.sum (owed limit) = min s.total limit
  flag : s.exceeded = true ∨ 0 < s.sum (excess limit) ↔ limit < s.total

/- The accounts are right as long as the count has not wrapped. -/
structure Sound (s : DrainState) : Prop where
  ordered : ∀ stream, (s.tasks stream).Ordered
  accounted : s.bytesRead < 2 ^ 64 → Accounted limit s

variable {limit total : Nat} {exceeded : Bool} {s s' : DrainState} {i : OutputStream}
  {t : DrainTask}

/- A task moves, and the count and the flag with it. -/
theorem Sound.move (hSound : Sound limit s) (hOrdered : t.Ordered)
    (hRead : (s.tasks i).read.length ≤ t.read.length)
    (hMove : s.total + (t.read.length - (s.tasks i).read.length) < 2 ^ 64 →
      total + (s.tasks i).read.length = s.total + t.read.length ∧
      t.captured.length + t.owed limit + min s.total limit =
        (s.tasks i).captured.length + (s.tasks i).owed limit + min total limit ∧
      ∀ n, (s.exceeded = true ∨ 0 < n + excess limit (s.tasks i) ↔ limit < s.total) →
        (exceeded = true ∨ 0 < n + excess limit t ↔ limit < total)) :
    Sound limit (s.move i t total exceeded) := by
  refine ⟨fun j => ?_, fun hBytes => ?_⟩
  · by_cases hSame : j = i
    · subst hSame
      simpa [DrainState.move] using hOrdered
    · simpa [DrainState.move, hSame] using hSound.ordered j
  · have hMore : s.bytesRead + (t.read.length - (s.tasks i).read.length) < 2 ^ 64 := by
      cases i <;> simp [bytesRead, sum, DrainState.move, Function.update] at hBytes hRead ⊢ <;>
        omega
    rcases hSound.accounted (by omega) with ⟨hCounted, hKept, hFlag⟩
    rcases hMove (by rwa [hCounted]) with ⟨hCounted', hKept', hFlag'⟩
    simp only [bytesRead, sum] at hCounted hKept hFlag
    refine ⟨?_, ?_, ?_⟩
    · cases i <;> simp [sum, bytesRead, DrainState.move, Function.update] <;> omega
    · cases i <;> simp [sum, DrainState.move, Function.update] <;> omega
    · cases i
      · rw [Nat.add_comm] at hFlag
        simpa [sum, DrainState.move, Function.update, Nat.add_comm] using hFlag' _ hFlag
      · simpa [sum, DrainState.move, Function.update] using hFlag' _ hFlag

theorem Sound.step {action : OutputStream × DrainEvent} (hSound : Sound limit s)
    (hStep : s.step limit action = some s') : Sound limit s' := by
  rcases hSound.ordered action.1 with ⟨earlier, hRead, hCaptured⟩
  simp only [DrainState.step] at hStep
  unfold pending at hRead
  split at hStep
  · rename_i chunk hPlace _
    simp only [hPlace] at hRead
    split at hStep
    · cases hStep
      exact hSound.move ⟨_, hRead, hCaptured⟩ (Nat.le_refl _)
        (by simp [owed, excess, pending, hPlace])
    · split at hStep
      · cases hStep
        rw [append_nil] at hRead
        refine hSound.move ⟨_, rfl, hRead ▸ hCaptured⟩ (by simp) fun hFits => ?_
        rw [length_append, Nat.add_sub_cancel_left] at hFits
        simp only [owed, excess, pending, hPlace, Nat.mod_eq_of_lt hFits, length_append]
        exact ⟨by omega, by omega, by grind⟩
      · cases hStep
  · rename_i hPlace _
    cases hStep
    simp only [hPlace] at hRead
    exact hSound.move ⟨_, hRead, hCaptured⟩ (Nat.le_refl _)
      (by simp [owed, excess, pending, hPlace])
  · rename_i chunk previous hPlace _
    cases hStep
    simp only [hPlace] at hRead
    refine hSound.move ⟨_, (append_nil _).symm, ?_⟩ (Nat.le_refl _) fun _ => ?_
    · rw [hRead]
      exact hCaptured.append (take_sublist _ _)
    · simp only [owed, excess, pending, hPlace, length_append, length_take]
      exact ⟨trivial, by omega, by grind⟩
  · cases hStep

theorem sound_of_reachable (hReach : (drainBounded limit).Reachable s) : Sound limit s := by
  refine hReach.invariant ?_ (fun _ _ _ hSound _ hStep => hSound.step hStep)
  rintro _ rfl
  refine ⟨fun _ => ⟨[], rfl, Sublist.refl _⟩, fun _ => ⟨rfl, ?_, ?_⟩⟩ <;>
    simp [sum, initial, owed, excess, pending]

/- The tasks keep what was read, up to the limit. The count is a `u64`. -/
theorem drain_bounded_exact (hReach : (drainBounded limit).Reachable s)
    (hFinished : ∀ stream, (s.tasks stream).place = .finished) :
    (∀ stream, (s.tasks stream).captured <+ (s.tasks stream).read) ∧
      (s.bytesRead < 2 ^ 64 → s.sum (·.captured.length) = min s.bytesRead limit ∧
        (s.exceeded = true ↔ limit < s.bytesRead)) := by
  have hSound := sound_of_reachable hReach
  refine ⟨fun stream => ?_, fun hBytes => ?_⟩
  · rcases hSound.ordered stream with ⟨earlier, hRead, hCaptured⟩
    rw [hRead]
    exact hCaptured.trans (sublist_append_left _ _)
  · rcases hSound.accounted hBytes with ⟨hCounted, hKept, hFlag⟩
    rw [hCounted] at hKept hFlag
    simp only [sum, excess, owed, pending, hFinished] at hKept hFlag
    exact ⟨hKept, by simpa using hFlag⟩

/- Both tasks have counted two bytes when the first of them keeps its own. -/
theorem drain_bounded_exact_both : ∃ s, (drainBounded 3).Reachable s ∧ s.bytesRead = 4 ∧
    s.sum (·.captured.length) = 3 ∧ s.exceeded = true := by
  have hRun : ∃ s, (drainBounded 3).Reachable s ∧ (s.tasks .stdout).place = .finished ∧
      (s.tasks .stderr).place = .finished ∧ s.bytesRead = 4 :=
    Machine.exists_reachable (s := initial) [(.stdout, .read [1, 2]), (.stderr, .read [3, 4]),
      (.stderr, .keep), (.stdout, .keep), (.stdout, .read []), (.stderr, .read [])] rfl (by decide)
  rcases hRun with ⟨s, hReach, hOut, hErr, hBytes⟩
  have hExact := (drain_bounded_exact hReach (by rintro (_ | _) <;> assumption)).2 (by omega)
  rw [hBytes] at hExact
  exact ⟨s, hReach, hBytes, hExact.1, hExact.2.mpr (by decide)⟩

/- The first task reads and keeps a chunk. -/
theorem exec_chunk {rest : List UInt8} (hPlace : (s.tasks .stdout).place = .reading)
    (hFits : rest.length < 8192) :
    ∃ s', (drainBounded limit).exec s [(.stdout, .read (0 :: rest)), (.stdout, .keep)] = some s' ∧
      (s'.tasks .stdout).place = .reading ∧ s'.tasks .stderr = s.tasks .stderr ∧
      s'.total = (s.total + (rest.length + 1)) % 2 ^ 64 ∧ (s'.tasks .stdout).captured.length =
        (s.tasks .stdout).captured.length + min (limit - s.total) (rest.length + 1) := by
  simp [Machine.exec, drainBounded, DrainState.step, hPlace, Nat.succ_le_of_lt hFits, move]

theorem reachable_chunks (n : Nat) : ∃ s, (drainBounded 1).Reachable s ∧
    (s.tasks .stdout).place = .reading ∧ (s.tasks .stderr).place = .reading ∧
    s.total = 8192 * n % 2 ^ 64 ∧ min n 1 ≤ (s.tasks .stdout).captured.length := by
  induction n with
  | zero => exact ⟨initial, .start rfl, rfl, rfl, rfl, Nat.le_refl _⟩
  | succ n ih =>
    rcases ih with ⟨s, hReach, hPlace, hOther, hTotal, hKept⟩
    have hLength : (replicate 8191 (0 : UInt8)).length = 8191 := length_replicate
    rcases exec_chunk hPlace (Nat.lt_succ_of_le (Nat.le_of_eq hLength)) with
      ⟨s', hExec, hPlace', hOther', hTotal', hKept'⟩
    rw [hLength] at hTotal' hKept'
    have hReach' := Machine.exec_run hReach (fun _ _ _ => trivial) hExec
    exact ⟨s', hReach', hPlace', hOther' ▸ hOther, by omega, by omega⟩

/- After 2^64 bytes the count starts again, and the tasks keep more than the limit. -/
theorem wrapped_count_keeps_more : ¬ ∀ (limit : Nat) (s : DrainState),
    (drainBounded limit).Reachable s → (∀ stream, (s.tasks stream).place = .finished) →
    s.sum (·.captured.length) = min s.bytesRead limit := by
  intro hAll
  rcases reachable_chunks (2 ^ 51) with ⟨s, hReach, hPlace, hOther, hTotal, hKept⟩
  rcases exec_chunk hPlace (show [].length < 8192 by decide) with
    ⟨s', hExec, hPlace', hOther', -, hKept'⟩
  have hReach' := Machine.exec_run hReach (fun _ _ _ => trivial) hExec
  have hEnd : ∃ s'',
      (drainBounded 1).exec s' [(.stdout, .read []), (.stderr, .read [])] = some s'' ∧
      (∀ stream, (s''.tasks stream).place = .finished) ∧
      (s''.tasks .stdout).captured = (s'.tasks .stdout).captured := by
    rw [← hOther'] at hOther
    simp [Machine.exec, drainBounded, DrainState.step, hPlace', hOther, move]
    rintro (_ | _) <;> simp
  rcases hEnd with ⟨s'', hExec', hFinished, hCaptured⟩
  have hSum := hAll 1 s'' (Machine.exec_run hReach' (fun _ _ _ => trivial) hExec') hFinished
  rw [sum, hCaptured, hKept', hTotal] at hSum
  omega

end DrainState

end LabWeaver
