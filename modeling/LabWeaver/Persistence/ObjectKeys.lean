import Mathlib.Data.List.DropRight
import LabWeaver.Base.Outcome
import LabWeaver.Contracts.Authoring

/-
  This file models the keys of the objects of a store, and shows
  when two stores of one bucket keep their keys apart.

  Main declaration: `prefixes_isolate_iff`.
-/

namespace LabWeaver

open Outcome

------------------------------------------------------------
-- Keys
------------------------------------------------------------

inductive ObjectStoreError where
| objectIdentityInvalid

/- `trim_matches('/')`. -/
def trimSlashes (value : String) : List Char :=
  (value.toList.dropWhile (· == '/')).rdropWhile (· == '/')

/- The prefix of a store, with what `validate` asks of it. -/
structure S3StoreConfig where
  objectPrefix : String
  nonempty : trimSlashes objectPrefix ≠ []

/- The text of a key has no two dots and no control byte. -/
def keyText (chars : List Char) : Prop :=
  ¬['.', '.'] <:+: chars ∧ chars.any isAsciiControl = false
deriving Decidable

namespace S3StoreConfig

variable (config : S3StoreConfig)

/- The key is compared with the text of the prefix. -/
def validateKey (key : String) : Except ObjectStoreError Unit :=
  ensure
    (key.toList ≠ [] ∧ trimSlashes config.objectPrefix <+: key.toList ∧ keyText key.toList)
    .objectIdentityInvalid

def scopedKey (suffix : String) : Except ObjectStoreError String := do
  let key := String.ofList
    (trimSlashes config.objectPrefix ++ '/' :: suffix.toList.dropWhile (· == '/'))
  config.validateKey key
  .ok key

------------------------------------------------------------
-- Two Stores
------------------------------------------------------------

variable (first second : S3StoreConfig)

/- Neither prefix is a directory of the other. -/
def SeparateDirectories : Prop :=
  ¬trimSlashes first.objectPrefix ++ ['/'] <+: trimSlashes second.objectPrefix ++ ['/'] ∧
  ¬trimSlashes second.objectPrefix ++ ['/'] <+: trimSlashes first.objectPrefix ++ ['/']
deriving Decidable

/- The prefix of the longer begins with the text of the shorter, and can occur in a key. -/
def Continues (longer shorter : S3StoreConfig) : Prop :=
  trimSlashes shorter.objectPrefix <+: trimSlashes longer.objectPrefix ∧
  keyText (trimSlashes longer.objectPrefix)

/- No key that one store accepts or makes is accepted by the other. -/
def Isolated : Prop :=
  (∀ key, first.validateKey key = .ok () → second.validateKey key ≠ .ok ()) ∧
  (∀ suffix key, first.scopedKey suffix = .ok key → second.validateKey key ≠ .ok ()) ∧
  ∀ suffix key, second.scopedKey suffix = .ok key → first.validateKey key ≠ .ok ()

variable {first second : S3StoreConfig} {key : String}

theorem keyText_of_prefix
    {start chars : List Char}
    (hPrefix : start <+: chars)
    (hText : keyText chars) : keyText start := by
  rcases hText with ⟨hDots, hControl⟩
  refine ⟨fun hInfix => hDots (hInfix.trans hPrefix.isInfix), ?_⟩
  rw [List.any_eq_false] at hControl ⊢
  intro c hMember
  exact hControl c (hPrefix.subset hMember)

/- One of two prefixes of a key continues the other. -/
theorem continues_of_accepted
    (hFirst : first.validateKey key = .ok ())
    (hSecond : second.validateKey key = .ok ()) :
    Continues first second ∨ Continues second first := by
  rcases ensure_eq_ok.mp hFirst with ⟨_, hStart, hText⟩
  rcases ensure_eq_ok.mp hSecond with ⟨_, hStart', _⟩
  rcases List.prefix_or_prefix_of_prefix hStart hStart' with hPrefix | hPrefix
  · exact .inr ⟨hPrefix, keyText_of_prefix hStart' hText⟩
  · exact .inl ⟨hPrefix, keyText_of_prefix hStart hText⟩

/- The longer prefix is itself a key of both. -/
theorem accepted_of_continues (hContinues : Continues first second) :
    ∃ key, first.validateKey key = .ok () ∧ second.validateKey key = .ok () := by
  rcases hContinues with ⟨hPrefix, hText⟩
  refine ⟨String.ofList (trimSlashes first.objectPrefix), ensure_eq_ok.mpr ?_, ensure_eq_ok.mpr ?_⟩
  all_goals rw [String.toList_ofList]
  · exact ⟨first.nonempty, List.prefix_refl _, hText⟩
  · exact ⟨first.nonempty, hPrefix, hText⟩

/- A store accepts the keys that it makes. -/
theorem validateKey_of_scopedKey
    {suffix : String}
    (hScoped : first.scopedKey suffix = .ok key) :
    first.validateKey key = .ok () := by
  simp only [scopedKey, bind_eq_ok] at hScoped
  rcases hScoped with ⟨_, hValid, ⟨⟩⟩
  exact hValid

end S3StoreConfig

open S3StoreConfig

/- Two stores keep their keys apart exactly if neither prefix continues the text of the other: there
  is no separator in the comparison. -/
theorem prefixes_isolate_iff (first second : S3StoreConfig) :
    Isolated first second ↔ ¬Continues first second ∧ ¬Continues second first := by
  constructor
  · rintro ⟨hApart, _⟩
    constructor <;> intro hContinues
    · rcases accepted_of_continues hContinues with ⟨key, hFirst, hSecond⟩
      exact hApart key hFirst hSecond
    · rcases accepted_of_continues hContinues with ⟨key, hSecond, hFirst⟩
      exact hApart key hFirst hSecond
  · rintro ⟨hFirst, hSecond⟩
    have hApart : ∀ key, first.validateKey key = .ok () → second.validateKey key ≠ .ok () := by
      intro key hOne hOther
      exact (continues_of_accepted hOne hOther).elim hFirst hSecond
    refine ⟨hApart, ?_, ?_⟩
    · intro suffix key hScoped
      exact hApart key (validateKey_of_scopedKey hScoped)
    · intro suffix key hScoped hOther
      exact hApart key hOther (validateKey_of_scopedKey hScoped)

/- The name of one directory continues the name of the other. -/
theorem prefixes_not_isolated :
    SeparateDirectories ⟨"packages", by decide⟩ ⟨"packages-old", by decide⟩ ∧
    ¬Isolated ⟨"packages", by decide⟩ ⟨"packages-old", by decide⟩ := by
  refine ⟨by decide, fun hIsolated => ?_⟩
  exact hIsolated.2.2 "x" "packages-old/x" rfl rfl

end LabWeaver
