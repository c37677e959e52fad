import Mathlib.Logic.Basic

/-
  This file collects the guards of the fallible functions, and the lemmas that read a successful
  run back as the conjunction of the guarded conditions.
-/

instance Except.decidableEq {ε α : Type} [DecidableEq ε] [DecidableEq α] : DecidableEq (Except ε α)
  | .ok a, .ok b => decidable_of_iff (a = b) (by simp)
  | .error e, .error e' => decidable_of_iff (e = e') (by simp)
  | .ok _, .error _ => isFalse (by simp)
  | .error _, .ok _ => isFalse (by simp)

namespace Outcome

open List

variable {ε ε' α β : Type}

/- Questions about the outcome of a computation are decided on the outcome. -/
instance (priority := low) decidableError [DecidableEq ε] {x : Except ε α} {e : ε} :
    Decidable (x = .error e) :=
  match x with
  | .error e' => decidable_of_iff (e' = e)
      ⟨fun hSame => congrArg Except.error hSame, fun hSame => Except.error.inj hSame⟩
  | .ok _ => isFalse (fun hSame => nomatch hSame)

instance decidableOk {x : Except ε α} {P : α → Prop} [DecidablePred P] :
    Decidable (∃ a, x = .ok a ∧ P a) :=
  match x with
  | .error _ => isFalse (fun ⟨_, hOk, _⟩ => nomatch hOk)
  | .ok a => decidable_of_iff (P a)
      ⟨fun hHolds => ⟨a, rfl, hHolds⟩, fun ⟨_, hSame, hHolds⟩ => Except.ok.inj hSame ▸ hHolds⟩

-- Guards

/- Succeed when `p` holds, and fail with `error` otherwise. -/
def ensure (p : Prop) [Decidable p] (error : ε) : Except ε Unit :=
  if p then .ok () else .error error

def require (value : Option α) (error : ε) : Except ε α :=
  match value with
  | some a => .ok a
  | none => .error error

def each (check : α → Except ε Unit) : List α → Except ε Unit
| [] => .ok ()
| a :: rest => do
    check a
    each check rest

/- Check the elements of a list in order, and that no key occurs twice. The keys that were seen are
  collected. -/
def eachNew {κ : Type} [DecidableEq κ] (key : α → κ) (before : α → Except ε Unit) (repeated : α → ε)
    (after : α → Except ε Unit) :
    List κ → List α → Except ε Unit
| _, [] => .ok ()
| seen, a :: rest => do
    before a
    ensure (key a ∉ seen) (repeated a)
    after a
    eachNew key before repeated after (key a :: seen) rest

-- Inversion

variable {x : Except ε α}

/- A sequenced computation succeeds exactly when both of its halves do. -/
theorem bind_eq_ok {f : α → Except ε β} {b : β} : (x >>= f) = .ok b ↔
    ∃ a, x = .ok a ∧ f a = .ok b := by
  cases x with
  | error e =>
    constructor
    · rintro ⟨⟩
    · rintro ⟨a, ⟨⟩, -⟩
  | ok a =>
    constructor
    · intro h
      exact ⟨a, rfl, h⟩
    · rintro ⟨a', ⟨⟩, hRest⟩
      exact hRest

variable {a : α}

/- A check that is done for its failure only. -/
theorem check_bind_eq_ok {check : Except ε Unit} {next : Unit → Except ε α} :
    (check >>= next) = .ok a ↔ check = .ok () ∧ next () = .ok a := by
  rw [bind_eq_ok]
  constructor
  · rintro ⟨_, hCheck, hNext⟩
    exact ⟨hCheck, hNext⟩
  · rintro ⟨hCheck, hNext⟩
    exact ⟨(), hCheck, hNext⟩

/- A computation that succeeds passes its result on. -/
theorem bind_of_ok {f : α → Except ε β} (hx : x = .ok a) : (x >>= f) = f a := by
  rw [hx]
  rfl

variable {p : Prop} {error : ε} {u : Unit}

/- A guard succeeds exactly when its condition holds. -/
@[simp] theorem ensure_eq_ok [Decidable p] : ensure p error = .ok u ↔ p := by
  unfold ensure
  by_cases hp : p <;> simp [hp]

variable {f : Unit → Except ε β}

/- A guard followed by a computation succeeds exactly when the condition holds and the computation
  succeeds. -/
theorem ensure_bind_eq_ok [Decidable p] {b : β} :
    (ensure p error >>= f) = .ok b ↔ p ∧ f () = .ok b := by
  rw [bind_eq_ok]
  constructor
  · rintro ⟨u, hGuard, hRest⟩
    exact ⟨ensure_eq_ok.mp hGuard, hRest⟩
  · rintro ⟨hp, hRest⟩
    exact ⟨(), ensure_eq_ok.mpr hp, hRest⟩

/- A guard whose condition fails stops the computation. -/
theorem ensure_bind_of_not [Decidable p] (hp : ¬p) : (ensure p error >>= f) = .error error := by
  simp only [ensure, hp, if_false]
  rfl

/- A guard whose condition holds passes. -/
theorem ensure_bind_of [Decidable p] (hp : p) : (ensure p error >>= f) = f () := by
  simp only [ensure, hp, if_true]
  rfl

/- Reading an optional value succeeds exactly on `some`. -/
@[simp] theorem require_eq_ok {value : Option α} :
    require value error = .ok a ↔ value = some a := by
  cases value with
  | none | some a' => simp [require]

/- A list passes exactly when all of its elements do. -/
theorem each_eq_ok {check : α → Except ε Unit} {items : List α} :
    each check items = .ok u ↔ ∀ a ∈ items, check a = .ok () := by
  induction items with
  | nil => simp [each]
  | cons a rest ih => rw [each, check_bind_eq_ok, ih, forall_mem_cons]

/- The keys of the elements are distinct and were not seen before. -/
def Fresh {κ : Type} (key : α → κ) (seen : List κ) (items : List α) : Prop :=
  (items.map key).Nodup ∧ ∀ a ∈ items, key a ∉ seen

variable {κ : Type}

theorem fresh_nil (key : α → κ) (seen : List κ) : Fresh key seen [] :=
  ⟨nodup_nil, forall_mem_nil _⟩

theorem fresh_cons {key : α → κ} {seen : List κ} {rest : List α} :
    Fresh key seen (a :: rest) ↔ key a ∉ seen ∧ Fresh key (key a :: seen) rest := by
  simp only [Fresh, map_cons, nodup_cons, mem_cons, not_or, forall_eq_or_imp]
  constructor
  · rintro ⟨⟨hFresh, hNodup⟩, hNew, hSeen⟩
    refine ⟨hNew, hNodup, fun b hb => ⟨?_, hSeen b hb⟩⟩
    intro hSame
    exact hFresh (hSame ▸ mem_map_of_mem hb)
  · rintro ⟨hNew, hNodup, hSeen⟩
    refine ⟨⟨?_, hNodup⟩, hNew, fun b hb => (hSeen b hb).2⟩
    intro hMember
    rcases mem_map.mp hMember with ⟨b, hb, hSame⟩
    exact (hSeen b hb).1 hSame

theorem eachNew_eq_ok [DecidableEq κ] {key : α → κ} {before after : α → Except ε Unit}
    {repeated : α → ε} {seen : List κ} {items : List α} :
    eachNew key before repeated after seen items = .ok u ↔
      (∀ a ∈ items, before a = .ok () ∧ after a = .ok ()) ∧ Fresh key seen items := by
  induction items generalizing seen with
  | nil => simp [eachNew, fresh_nil]
  | cons a rest ih =>
    simp only [eachNew, check_bind_eq_ok, ensure_eq_ok, ih, forall_mem_cons, fresh_cons]
    constructor
    · rintro ⟨hBefore, hNew, hAfter, hRest, hFresh⟩
      exact ⟨⟨⟨hBefore, hAfter⟩, hRest⟩, hNew, hFresh⟩
    · rintro ⟨⟨⟨hBefore, hAfter⟩, hRest⟩, hNew, hFresh⟩
      exact ⟨hBefore, hNew, hAfter, hRest, hFresh⟩

/- Renaming errors does not change the successes. -/
@[simp] theorem mapError_eq_ok {f : ε → ε'} : x.mapError f = .ok a ↔ x = .ok a := by
  cases x with
  | error e =>
    constructor <;>
    · rintro ⟨⟩
  | ok a' =>
    constructor <;>
    · rintro ⟨⟩
      rfl

/- What the steps of a computation that succeeds have returned, as one set of rewriting rules. -/
theorem steps_eq_ok : (∀ {ε α β : Type} {x : Except ε α} {f : α → Except ε β} {b : β},
      (x >>= f) = .ok b ↔ ∃ a, x = .ok a ∧ f a = .ok b) ∧
    (∀ {ε : Type} {error : ε} {p : Prop} {u : Unit} [Decidable p], ensure p error = .ok u ↔ p) ∧
    (∀ {ε α : Type} {error : ε} {a : α} {value : Option α},
      require value error = .ok a ↔ value = some a) ∧
    (∀ {ε ε' α : Type} {x : Except ε α} {f : ε → ε'} {a : α}, x.mapError f = .ok a ↔ x = .ok a) ∧
    (∀ {ε α : Type} {a b : α}, (.ok a : Except ε α) = .ok b ↔ a = b) ∧
    ∀ {p : Prop}, (∃ _ : Unit, p) ↔ p :=
  ⟨bind_eq_ok, ensure_eq_ok, require_eq_ok, mapError_eq_ok, ⟨Except.ok.inj, congrArg _⟩,
    exists_const _⟩

/- The value of a computation that succeeded. -/
theorem eq_ok_of_toOption (hSome : x.toOption = some a) : x = .ok a := by
  cases x with
  | error _ => cases hSome
  | ok _ =>
    cases hSome
    rfl

theorem isOk_iff : x.isOk = true ↔ ∃ a, x = .ok a := by
  cases x with
  | error e | ok a => simp [Except.isOk, Except.toBool]

/- The error of a computation that failed. -/
def errorOf : Except ε α → Option ε
| .error error => some error
| .ok _ => none

theorem eq_error_of_errorOf (hError : errorOf x = some error) : x = .error error := by
  cases x with
  | error found =>
    cases hError
    rfl
  | ok _ => cases hError

-- Specifications

/- A computation ends with a result that meets `post`, or fails with an error that is not bad. -/
inductive Meets (bad : ε → Prop) (post : α → Prop) : Except ε α → Prop where
| ok {a : α} (hPost : post a) : Meets bad post (.ok a)
| error {error : ε} (hGood : ¬bad error) : Meets bad post (.error error)

namespace Meets

variable {bad : ε → Prop} {post mid : α → Prop} {x : Except ε α}

/- The result of a computation that succeeds. -/
theorem result {a : α} (hMeets : Meets bad post x) (hOk : x = .ok a) : post a := by
  subst hOk
  cases hMeets with
  | ok hPost => exact hPost

theorem mono (hMeets : Meets bad mid x) (hPost : ∀ a, mid a → post a) : Meets bad post x := by
  cases hMeets with
  | ok hMid => exact .ok (hPost _ hMid)
  | error hGood => exact .error hGood

/- The rule of sequencing: the second half starts from what the first half has established. -/
theorem bind {f : α → Except ε β} {post : β → Prop} (hFirst : Meets bad mid x)
    (hSecond : ∀ a, mid a → Meets bad post (f a)) : Meets bad post (x >>= f) := by
  cases hFirst with
  | ok hMid => exact hSecond _ hMid
  | error hGood => exact .error hGood

/- The rule of reading: what is stored is found. -/
theorem read {f : α → Except ε β} {post : β → Prop} {stored : Option α} {a : α}
    (hStored : stored = some a) (hRead : Meets bad (fun a => stored = some a) x)
    (hNext : Meets bad post (f a)) : Meets bad post (x >>= f) := by
  refine hRead.bind ?_
  intro found hFound
  cases hStored.symm.trans hFound
  exact hNext

variable {error : ε}

/- A guard that holds passes. -/
theorem ensure_of {p : Prop} [Decidable p] (hp : p) : Meets bad (fun _ => p) (ensure p error) := by
  rw [ensure, if_pos hp]
  exact .ok hp

theorem ensure {p : Prop} [Decidable p] (hGood : ¬bad error) :
    Meets bad (fun _ => p) (ensure p error) := by
  unfold Outcome.ensure
  by_cases hp : p
  · rw [if_pos hp]
    exact .ok hp
  · rw [if_neg hp]
    exact .error hGood

theorem require {value : Option α} (hGood : ¬bad error) :
    Meets bad (fun a => value = some a) (require value error) := by
  cases value with
  | none => exact .error hGood
  | some a => exact .ok rfl

theorem mapError {y : Except ε' α} {f : ε' → ε}
    (hMeets : Meets (fun error => bad (f error)) post y) :
    Meets bad post (y.mapError f) := by
  cases hMeets with
  | ok hPost => exact .ok hPost
  | error hGood => exact .error hGood

/- A check whose errors are all renamed into good ones. -/
theorem check {y : Except ε' α} {f : ε' → ε} (hGood : ∀ error, ¬bad (f error)) :
    Meets bad (fun a => y = .ok a) (y.mapError f) := by
  cases y with
  | error error => exact .error (hGood error)
  | ok a => exact .ok rfl

/- A loop keeps what each of its rounds keeps. -/
theorem foldlM {f : α → β → Except ε α} (hStep : ∀ a b, post a → Meets bad post (f a b)) {a : α}
    (hStart : post a) (bs : List β) : Meets bad post (bs.foldlM f a) := by
  induction bs generalizing a with
  | nil => exact .ok hStart
  | cons b bs ih =>
    rw [foldlM_cons]
    exact (hStep a b hStart).bind (fun _ hNext => ih hNext)

end Meets

-- Computations With A State

section

variable {σ : Type}

/- A sequenced computation succeeds exactly when its first half does and its second half does from
  the state that is left. -/
theorem run_bind_eq_ok {x : StateT σ (Except ε) α} {f : α → StateT σ (Except ε) β} {s : σ}
    {result : β × σ} :
    (x >>= f) s = .ok result ↔ ∃ a s', x s = .ok (a, s') ∧ f a s' = .ok result := by
  have hRun : (x >>= f) s = (x s >>= fun (a, s') => f a s') := rfl
  rw [hRun, bind_eq_ok]
  constructor
  · rintro ⟨⟨a, s'⟩, hFirst, hSecond⟩
    exact ⟨a, s', hFirst, hSecond⟩
  · rintro ⟨a, s', hFirst, hSecond⟩
    exact ⟨(a, s'), hFirst, hSecond⟩

/- A step that does not look at the state keeps it. -/
theorem run_lift_eq_ok {x : Except ε α} {s s' : σ} {a : α} :
    (liftM x : StateT σ (Except ε) α) s = .ok (a, s') ↔ x = .ok a ∧ s' = s := by
  cases x with
  | error error =>
    constructor
    · rintro ⟨⟩
    · rintro ⟨⟨⟩, -⟩
  | ok found =>
    constructor
    · rintro ⟨⟩
      exact ⟨rfl, rfl⟩
    · rintro ⟨⟨⟩, rfl⟩
      rfl

theorem run_pure_eq_ok {s s' : σ} {a a' : α} : (pure a : StateT σ (Except ε) α) s = .ok (a', s') ↔
    a' = a ∧ s' = s := by
  constructor
  · rintro ⟨⟩
    exact ⟨rfl, rfl⟩
  · rintro ⟨rfl, rfl⟩
    rfl

section

variable {P : α → Prop} {Q : β → Prop} {items : List β} {a a' : α}

theorem foldlM_gains {f : α → β → Except ε α}
    (hStep : ∀ a b a', f a b = .ok a' → (P a' ↔ P a ∨ Q b)) (hFold : items.foldlM f a = .ok a') :
    P a' ↔ P a ∨ ∃ b ∈ items, Q b := by
  induction items generalizing a with
  | nil =>
    cases hFold
    simp
  | cons b items ih =>
    rw [foldlM_cons, bind_eq_ok] at hFold
    rcases hFold with ⟨middle, hFirst, hRest⟩
    rw [ih hRest, hStep a b middle hFirst]
    simp [or_assoc]

theorem run_foldlM_gains {f : α → β → StateT σ (Except ε) α} {s s' : σ}
    (hStep : ∀ a b s a' s', f a b s = .ok (a', s') → (P a' ↔ P a ∨ Q b))
    (hFold : items.foldlM f a s = .ok (a', s')) : P a' ↔ P a ∨ ∃ b ∈ items, Q b := by
  induction items generalizing a s with
  | nil =>
    cases hFold
    simp
  | cons b items ih =>
    rw [foldlM_cons, run_bind_eq_ok] at hFold
    rcases hFold with ⟨middle, t, hFirst, hRest⟩
    rw [ih hRest, hStep a b s middle t hFirst]
    simp [or_assoc]

end

end

end Outcome
