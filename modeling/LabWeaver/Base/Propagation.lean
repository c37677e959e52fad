import Mathlib.Data.List.Forall2
import Mathlib.Data.Finset.Card
import LabWeaver.Base.Outcome

/-
  This file defines the propagation of a mark through a list of linked items: in repeated passes
  an item that is linked to a marked key may be rewritten, and its own key is then marked, until a
  pass marks nothing new.
-/

namespace Propagation

open Outcome List

variable {α κ ε : Type}

/- How an item reacts to a mark on one of its links. Rewriting keeps its key and links, and a
  rewritten item does not change again. -/
structure Rule (α κ ε : Type) where
  key : α → κ
  links : α → List κ
  act : α → Option (Except ε α)
  key_act : ∀ a b, act a = some (.ok b) → key b = key a
  links_act : ∀ a b, act a = some (.ok b) → links b = links a
  act_act : ∀ a b, act a = some (.ok b) → act b = none ∨ act b = some (.ok b)

/- A function that agrees on corresponding items. -/
theorem map_eq_of_forall₂ {β γ : Type} {f : β → γ} {items others : List β}
    (hAll : List.Forall₂ (fun a b => f a = f b) items others) : items.map f = others.map f := by
  have hMapped : List.Forall₂ (· = ·) (items.map f) (others.map f) := by
    rwa [forall₂_map_left_iff, forall₂_map_right_iff]
  rwa [forall₂_eq_eq_eq] at hMapped

namespace Rule

variable [DecidableEq κ] (rule : Rule α κ ε)

def linked (marks : List κ) (a : α) : Bool := (rule.links a).any (fun k => decide (k ∈ marks))

/- One pass over the items. The last component says whether a new key was marked. -/
def pass : List κ → List α → Except ε (List κ × List α × Bool)
| marks, [] => .ok (marks, [], false)
| marks, a :: rest =>
  match rule.linked marks a, rule.act a with
  | true, some result => do
      let b ← result
      let (after, others, progressed) ← pass (rule.key a :: marks) rest
      .ok (after, b :: others, progressed || decide (rule.key a ∉ marks))
  | _, _ => do
      let (after, others, progressed) ← pass marks rest
      .ok (after, a :: others, progressed)

/- Passes until one makes no progress. -/
def spread : Nat → List κ → List α → Except ε (List κ × List α)
| 0, marks, items => .ok (marks, items)
| fuel + 1, marks, items => do
    let (after, others, progressed) ← rule.pass marks items
    if progressed then spread fuel after others else .ok (after, others)

-- What A Pass Does

/- An item stays, or it reacts to a mark and is marked. -/
def Rewritten (marks : List κ) (a b : α) : Prop :=
  b = a ∨ rule.act a = some (.ok b) ∧ rule.linked marks a = true ∧ rule.key a ∈ marks

/- A key was marked because its item reacts to a mark. -/
def Reacted (marks : List κ) (items others : List α) (k : κ) : Prop :=
  ∃ (i : Nat) (a b : α), items[i]? = some a ∧ others[i]? = some b ∧ rule.key a = k ∧
    rule.act a = some (.ok b) ∧ rule.linked marks a = true

/- No item reacts to the marks any more. -/
def Settled (marks : List κ) (b : α) : Prop :=
  rule.linked marks b = true → rule.act b = none ∨ rule.act b = some (.ok b) ∧ rule.key b ∈ marks

def unmarked (marks : List κ) (items : List α) : Finset κ :=
  (items.map rule.key).toFinset \ marks.toFinset

variable {rule}

variable {marks more : List κ} {a : α}

theorem linked_iff : rule.linked marks a = true ↔ ∃ k ∈ rule.links a, k ∈ marks := by
  simp [linked]

theorem linked_mono (hMore : ∀ k ∈ marks, k ∈ more) (hLinked : rule.linked marks a = true) :
    rule.linked more a = true := by
  rcases linked_iff.mp hLinked with ⟨k, hLink, hMark⟩
  exact linked_iff.mpr ⟨k, hLink, hMore k hMark⟩

variable {b : α}

theorem linked_act (hAct : rule.act a = some (.ok b)) :
    rule.linked marks b = rule.linked marks a := by
  unfold linked
  rw [rule.links_act a b hAct]

theorem Rewritten.key_eq (hRewritten : rule.Rewritten marks a b) : rule.key b = rule.key a := by
  rcases hRewritten with rfl | ⟨hAct, _⟩
  · rfl
  · exact rule.key_act a b hAct

theorem Rewritten.mono (hMore : ∀ k ∈ marks, k ∈ more) (hRewritten : rule.Rewritten marks a b) :
    rule.Rewritten more a b := by
  rcases hRewritten with rfl | ⟨hAct, hLinked, hMark⟩
  · exact .inl rfl
  · exact .inr ⟨hAct, linked_mono hMore hLinked, hMore _ hMark⟩

/- An item that has reacted reacts in the same way again. -/
theorem act_of_rewritten {c : α} (hFirst : rule.Rewritten marks a b)
    (hAct : rule.act b = some (.ok c)) : rule.act a = some (.ok c) := by
  rcases hFirst with rfl | ⟨hBefore, _⟩
  · exact hAct
  · rcases rule.act_act a b hBefore with hNone | hSame
    · cases hNone.symm.trans hAct
    · cases hSame.symm.trans hAct
      exact hBefore

theorem Rewritten.linked_eq (hRewritten : rule.Rewritten marks a b) :
    rule.linked more b = rule.linked more a := by
  rcases hRewritten with rfl | ⟨hAct, _⟩
  · rfl
  · exact linked_act hAct

theorem Rewritten.trans {c : α} (hMore : ∀ k ∈ marks, k ∈ more) (hFirst : rule.Rewritten marks a b)
    (hSecond : rule.Rewritten more b c) : rule.Rewritten more a c := by
  rcases hSecond with rfl | ⟨hAct, hLinked, hMark⟩
  · exact hFirst.mono hMore
  · refine .inr ⟨act_of_rewritten hFirst hAct, ?_, ?_⟩
    · rwa [← hFirst.linked_eq]
    · rwa [← hFirst.key_eq]

/- What a pass leaves. -/
structure Passed (rule : Rule α κ ε) (marks : List κ) (items : List α) (after : List κ)
    (others : List α) : Prop where
  grows : ∀ k ∈ marks, k ∈ after
  rewrites : List.Forall₂ (rule.Rewritten after) items others
  reacted : ∀ k ∈ after, k ∈ marks ∨ rule.Reacted after items others k

variable {items others : List α} {k : κ}

theorem Reacted.cons (a b : α) (hReacted : rule.Reacted marks items others k) :
    rule.Reacted marks (a :: items) (b :: others) k := by
  rcases hReacted with ⟨i, c, d, hItem, hOther, hRest⟩
  exact ⟨i + 1, c, d, hItem, hOther, hRest⟩

variable {after : List κ}

/- An item that a pass leaves as it is. -/
theorem Passed.skip (a : α) (hPassed : Passed rule marks items after others) :
    Passed rule marks (a :: items) after (a :: others) where
  grows := hPassed.grows
  rewrites := .cons (.inl rfl) hPassed.rewrites
  reacted := by
    intro k hMark
    rcases hPassed.reacted k hMark with hOld | hNew
    · exact .inl hOld
    · exact .inr (hNew.cons a a)

theorem Passed.react (hLinked : rule.linked marks a = true) (hAct : rule.act a = some (.ok b))
    (hPassed : Passed rule (rule.key a :: marks) items after others) :
    Passed rule marks (a :: items) after (b :: others) := by
  have hMore : ∀ k ∈ marks, k ∈ after := fun k h => hPassed.grows k (mem_cons_of_mem _ h)
  have hLater := linked_mono hMore hLinked
  constructor
  · exact hMore
  · have hMark : rule.key a ∈ after := hPassed.grows _ mem_cons_self
    exact .cons (.inr ⟨hAct, hLater, hMark⟩) hPassed.rewrites
  · intro k hMark
    rcases hPassed.reacted k hMark with hOld | hNew
    · rcases mem_cons.mp hOld with rfl | hMarked
      · exact .inr ⟨0, a, b, rfl, rfl, rfl, hAct, hLater⟩
      · exact .inl hMarked
    · exact .inr (hNew.cons a b)

theorem pass_sound {progressed : Bool}
    (hPass : rule.pass marks items = .ok (after, others, progressed)) :
    Passed rule marks items after others := by
  induction items generalizing marks after others progressed with
  | nil =>
    cases hPass
    exact ⟨fun _ h => h, .nil, fun _ h => .inl h⟩
  | cons a rest ih =>
    unfold pass at hPass
    split at hPass
    · rename_i result hLinked hAct
      simp only [bind_eq_ok, Prod.exists] at hPass
      rcases hPass with ⟨b, hResult, _, _, _, hRest, ⟨⟩⟩
      exact (ih hRest).react hLinked (hResult ▸ hAct)
    · simp only [bind_eq_ok, Prod.exists] at hPass
      rcases hPass with ⟨_, _, _, hRest, ⟨⟩⟩
      exact (ih hRest).skip a

-- A Pass Without Progress

/- A pass that makes no progress marks nothing new, and no item it leaves reacts any more. -/
theorem pass_settled (hPass : rule.pass marks items = .ok (after, others, false)) :
    (∀ k ∈ after, k ∈ marks) ∧ ∀ b ∈ others, rule.Settled after b := by
  induction items generalizing marks after others with
  | nil =>
    cases hPass
    exact ⟨fun _ h => h, nofun⟩
  | cons a rest ih =>
    have hGrows := (pass_sound hPass).grows
    unfold pass at hPass
    split at hPass
    · rename_i result hLinked hAct
      simp only [bind_eq_ok, Prod.exists] at hPass
      rcases hPass with ⟨b, rfl, _, _, progressed, hRest, hDone⟩
      simp only [Except.ok.injEq, Prod.mk.injEq, Bool.or_eq_false_iff, decide_eq_false_iff_not,
        not_not] at hDone
      rcases hDone with ⟨rfl, rfl, rfl, hMarked⟩
      rcases ih hRest with ⟨hSame, hSettled⟩
      constructor
      · intro k hMark
        rcases mem_cons.mp (hSame k hMark) with
          rfl | hOld
        · exact hMarked
        · exact hOld
      · intro c hMem
        rcases mem_cons.mp hMem with rfl | hMem
        · intro _
          rcases rule.act_act a c hAct with hNone | hSelf
          · exact .inl hNone
          · refine .inr ⟨hSelf, ?_⟩
            rw [rule.key_act a c hAct]
            exact hGrows _ hMarked
        · exact hSettled c hMem
    · rename_i hStays
      simp only [bind_eq_ok, Prod.exists] at hPass
      rcases hPass with ⟨_, _, _, hRest, ⟨⟩⟩
      rcases ih hRest with ⟨hSame, hSettled⟩
      refine ⟨hSame, ?_⟩
      intro c hMem
      rcases mem_cons.mp hMem with rfl | hMem
      · intro hLinked
        have hBefore := linked_mono hSame hLinked
        cases hAct : rule.act c with
        | none => exact .inl rfl
        | some result => exact absurd hAct (hStays result hBefore)
      · exact hSettled c hMem

-- Progress

theorem pass_progress (hPass : rule.pass marks items = .ok (after, others, true)) :
    ∃ a ∈ items, rule.key a ∉ marks ∧ rule.key a ∈ after := by
  induction items generalizing marks after others with
  | nil => cases hPass
  | cons a rest ih =>
    unfold pass at hPass
    split at hPass
    · simp only [bind_eq_ok, Prod.exists] at hPass
      rcases hPass with ⟨b, rfl, _, _, progressed, hRest, hDone⟩
      simp only [Except.ok.injEq, Prod.mk.injEq, Bool.or_eq_true, decide_eq_true_eq] at hDone
      rcases hDone with ⟨rfl, rfl, hLater | hNew⟩
      · subst hLater
        rcases ih hRest with ⟨c, hMem, hOld, hMark⟩
        refine ⟨c, mem_cons_of_mem _ hMem, ?_, hMark⟩
        exact fun h => hOld (mem_cons_of_mem _ h)
      · refine ⟨a, mem_cons_self, hNew, ?_⟩
        exact (pass_sound hRest).grows _ mem_cons_self
    · simp only [bind_eq_ok, Prod.exists] at hPass
      rcases hPass with ⟨_, _, _, hRest, ⟨⟩⟩
      rcases ih hRest with ⟨c, hMem, hRest⟩
      exact ⟨c, mem_cons_of_mem _ hMem, hRest⟩

/- Progress leaves fewer keys unmarked. -/
theorem unmarked_lt (hPass : rule.pass marks items = .ok (after, others, true)) :
    (rule.unmarked after others).card < (rule.unmarked marks items).card := by
  have hPassed := pass_sound hPass
  have hKeys : items.map rule.key = others.map rule.key :=
    map_eq_of_forall₂ (hPassed.rewrites.imp fun _ _ hRewritten => hRewritten.key_eq.symm)
  rcases pass_progress hPass with ⟨a, hMem, hOld, hMark⟩
  apply Finset.card_lt_card
  constructor
  · intro k hKey
    simp only [unmarked, ← hKeys, Finset.mem_sdiff, mem_toFinset] at hKey ⊢
    exact ⟨hKey.1, fun h => hKey.2 (hPassed.grows k h)⟩
  · intro hBack
    have hKey : rule.key a ∈ rule.unmarked marks items := by
      simp only [unmarked, Finset.mem_sdiff, mem_toFinset]
      exact ⟨mem_map_of_mem hMem, hOld⟩
    have hLater := hBack hKey
    simp only [unmarked, Finset.mem_sdiff, mem_toFinset] at hLater
    exact hLater.2 hMark

-- All Passes

variable {β : Type} {R : α → β → Prop}

theorem forall₂_at {others : List β} (hAll : List.Forall₂ R items others)
    {i : Nat} {b : β} (hOther : others[i]? = some b) : ∃ a, items[i]? = some a ∧ R a b := by
  induction hAll generalizing i with
  | nil => cases hOther
  | cons hHead _ ih =>
    cases i with
    | zero =>
      cases hOther
      exact ⟨_, rfl, hHead⟩
    | succ i => exact ih hOther

theorem exists_before {others : List β} (hAll : List.Forall₂ R items others)
    {b : β} (hMember : b ∈ others) : ∃ a ∈ items, R a b := by
  rcases List.getElem?_of_mem hMember with ⟨i, hOther⟩
  rcases forall₂_at hAll hOther with ⟨a, hItem, hRelated⟩
  exact ⟨a, mem_of_getElem? hItem, hRelated⟩

theorem exists_after {others : List β} (hAll : List.Forall₂ R items others)
    (hMember : a ∈ items) : ∃ b ∈ others, R a b :=
  exists_before hAll.flip hMember

variable {last : List α}

/- A reaction of an earlier pass is kept by a later one. -/
theorem Reacted.later (hMore : ∀ k ∈ marks, k ∈ more)
    (hLater : List.Forall₂ (rule.Rewritten more) others last)
    (hReacted : rule.Reacted marks items others k) : rule.Reacted more items last k := by
  rcases hReacted with ⟨i, a, b, hItem, hOther, hKey, hAct, hLinked⟩
  rcases forall₂_at hLater.flip hOther with ⟨c, hLast, hRewritten⟩
  have hSame : c = b := by
    rcases hRewritten with rfl | ⟨hAgain, _⟩
    · rfl
    · rcases rule.act_act a b hAct with hNone | hSelf
      · cases hNone.symm.trans hAgain
      · cases hSelf.symm.trans hAgain
        rfl
  subst hSame
  exact ⟨i, a, c, hItem, hLast, hKey, hAct, linked_mono hMore hLinked⟩

/- A reaction of a later pass was due from the start. -/
theorem Reacted.earlier (hEarlier : List.Forall₂ (rule.Rewritten marks) items others)
    (hReacted : rule.Reacted more others last k) : rule.Reacted more items last k := by
  rcases hReacted with ⟨i, b, c, hOther, hLast, hKey, hAct, hLinked⟩
  rcases forall₂_at hEarlier hOther with ⟨a, hItem, hRewritten⟩
  refine ⟨i, a, c, hItem, hLast, ?_, ?_, ?_⟩
  · rwa [← hRewritten.key_eq]
  · exact act_of_rewritten hRewritten hAct
  · rwa [← hRewritten.linked_eq]

theorem Passed.trans {middle : List κ} (hFirst : Passed rule marks items middle others)
    (hSecond : Passed rule middle others after last) : Passed rule marks items after last := by
  constructor
  · exact fun k h => hSecond.grows k (hFirst.grows k h)
  · have hComposed : ∀ {xs ys zs : List α}, List.Forall₂ (rule.Rewritten middle) xs ys →
        List.Forall₂ (rule.Rewritten after) ys zs → List.Forall₂ (rule.Rewritten after) xs zs := by
      intro xs ys zs hXs hYs
      induction hXs generalizing zs with
      | nil =>
        cases hYs
        exact .nil
      | cons hHead _ ih =>
        cases hYs with
        | cons hNext hTail => exact .cons (hHead.trans hSecond.grows hNext) (ih hTail)
    exact hComposed hFirst.rewrites hSecond.rewrites
  · intro k hMark
    rcases hSecond.reacted k hMark with hMiddle | hLater
    · rcases hFirst.reacted k hMiddle with hOld | hEarly
      · exact .inl hOld
      · exact .inr (hEarly.later hSecond.grows hSecond.rewrites)
    · exact .inr (hLater.earlier hFirst.rewrites)

/- The passes rewrite the items that are linked to a mark, mark the keys of exactly those that
  react, and end when none does. -/
theorem spread_sound {fuel : Nat} (hFuel : (rule.unmarked marks items).card < fuel)
    (hSpread : rule.spread fuel marks items = .ok (after, last)) :
    Passed rule marks items after last ∧ ∀ b ∈ last, rule.Settled after b := by
  induction fuel generalizing marks items with
  | zero => exact absurd hFuel (Nat.not_lt_zero _)
  | succ fuel ih =>
    simp only [spread, bind_eq_ok, Prod.exists] at hSpread
    rcases hSpread with ⟨middle, others, progressed, hPass, hRest⟩
    have hPassed := pass_sound hPass
    cases progressed with
    | true =>
      have hLess := unmarked_lt hPass
      have hNext := ih (by omega) hRest
      exact ⟨hPassed.trans hNext.1, hNext.2⟩
    | false =>
      cases hRest
      exact ⟨hPassed, (pass_settled hPass).2⟩

/- One pass for each item and one more are enough. -/
theorem unmarked_card_le (marks : List κ) (items : List α) :
    (rule.unmarked marks items).card ≤ items.length := by
  calc (rule.unmarked marks items).card ≤ (items.map rule.key).toFinset.card :=
        Finset.card_le_card Finset.sdiff_subset
    _ ≤ (items.map rule.key).length := toFinset_card_le _
    _ = items.length := length_map _

-- Closed Sets

/- The set has the key of every item that reacts and is linked to it. -/
def Closed (rule : Rule α κ ε) (items : List α) (S : κ → Prop) : Prop :=
  ∀ a ∈ items, ∀ b, rule.act a = some (.ok b) → ∀ k ∈ rule.links a, S k → S (rule.key a)

variable {S : κ → Prop}

theorem Closed.rewritten (hClosed : Closed rule items S)
    (hRewrites : List.Forall₂ (rule.Rewritten marks) items others) : Closed rule others S := by
  intro b hMember c hAct k hLink hIn
  rcases exists_before hRewrites hMember with ⟨a, hItem, hRewritten⟩
  have hLinks : rule.links b = rule.links a := by
    rcases hRewritten with rfl | ⟨hBefore, _⟩
    · rfl
    · exact rule.links_act a b hBefore
  rw [hRewritten.key_eq]
  exact hClosed a hItem c (act_of_rewritten hRewritten hAct) k (hLinks ▸ hLink) hIn

theorem pass_closed {progressed : Bool} (hClosed : Closed rule items S) (hMarks : ∀ k ∈ marks, S k)
    (hPass : rule.pass marks items = .ok (after, others, progressed)) : ∀ k ∈ after, S k := by
  induction items generalizing marks after others progressed with
  | nil =>
    cases hPass
    exact hMarks
  | cons a rest ih =>
    have hRest : Closed rule rest S := fun b hMember => hClosed b (mem_cons_of_mem _ hMember)
    unfold pass at hPass
    split at hPass
    · rename_i result hLinked hAct
      simp only [bind_eq_ok, Prod.exists] at hPass
      rcases hPass with ⟨b, hResult, _, _, _, hNext, ⟨⟩⟩
      refine ih hRest ?_ hNext
      rcases linked_iff.mp hLinked with ⟨k, hLink, hMark⟩
      have hIn : S (rule.key a) := hClosed a mem_cons_self b (hResult ▸ hAct) k
        hLink (hMarks k hMark)
      exact forall_mem_cons.mpr ⟨hIn, hMarks⟩
    · simp only [bind_eq_ok, Prod.exists] at hPass
      rcases hPass with ⟨_, _, _, hNext, ⟨⟩⟩
      exact ih hRest hMarks hNext

/- The marks stay in every closed set they start in. -/
theorem spread_closed {fuel : Nat} (hClosed : Closed rule items S) (hMarks : ∀ k ∈ marks, S k)
    (hSpread : rule.spread fuel marks items = .ok (after, last)) : ∀ k ∈ after, S k := by
  induction fuel generalizing marks items with
  | zero =>
    cases hSpread
    exact hMarks
  | succ fuel ih =>
    simp only [spread, bind_eq_ok, Prod.exists] at hSpread
    rcases hSpread with ⟨middle, others, progressed, hPass, hRest⟩
    have hMiddle := pass_closed hClosed hMarks hPass
    cases progressed with
    | true =>
      have hOthers := hClosed.rewritten (pass_sound hPass).rewrites
      exact ih hOthers hMiddle hRest
    | false =>
      cases hRest
      exact hMiddle

end Rule

end Propagation
