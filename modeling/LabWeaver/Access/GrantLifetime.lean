import LabWeaver.Access.GrantLifecycle

/-
  This file bounds the lifetime of a grant. Creation and activation keep its expiry within the
  membership of its owner and the eligibility of the environment. Only a renewal moves an expiry
  forward, and it looks at neither bound.

  Main declaration: `grant_lifetime_bounded`.
-/

namespace LabWeaver

open GrantStore OffsetDateTime

-- Bounds

namespace StoredGrant

def OwnedUnder (row : StoredGrant) (membership : CourseMembership) : Prop :=
  membership.courseId = row.courseId ∧ membership.actorId = row.actorId ∧
  membership.role = row.subjectKind.requiredRole
deriving Decidable

variable (memberships : List CourseMembership) (row : StoredGrant) (time : OffsetDateTime)

def Covered : Prop :=
  ∀ membership ∈ memberships, row.OwnedUnder membership → ∀ stop ∈ membership.expiresAt, time ≤ stop
deriving Decidable

def WithinMembership : Prop :=
  row.Covered memberships row.expiresAt
deriving Decidable

def WithinEligibility (eligibility : Option UtcTimestamp) (row : StoredGrant) : Prop :=
  ∃ limit ∈ eligibility, row.expiresAt ≤ ofTimestamp limit

instance {eligibility} (row : StoredGrant) : Decidable (row.WithinEligibility eligibility) :=
  match eligibility with
  | none => isFalse (by simp [WithinEligibility])
  | some limit =>
    decidable_of_iff (row.expiresAt ≤ ofTimestamp limit) (by simp [WithinEligibility])

def UsableAt : Prop :=
  row.state = .active ∧ time < row.expiresAt
deriving Decidable

end StoredGrant

namespace GrantStore

variable {deployment : GrantDeployment} {memberships : MembershipTable} {s s' : GrantStore}
  {action : GrantAction}

/- A renewal is made before the grant runs out, and asks for no more than the eligibility and the
  membership allow. -/
def BoundedRenewal (memberships : List CourseMembership) (s : GrantStore)
    (action : GrantAction) : Prop :=
  match s.grant, action.mutation with
  | some row, .renew call =>
    action.now < row.expiresAt ∧ (∀ limit ∈ s.eligibility, call.expiresAt ≤ limit) ∧
    row.Covered memberships (ofTimestamp call.expiresAt)
  | _, _ => True

instance {memberships} (s : GrantStore) (action : GrantAction) :
    Decidable (s.BoundedRenewal memberships action) := by
  unfold BoundedRenewal
  generalize s.grant = grant
  generalize action.mutation = mutation
  cases grant <;> cases mutation <;> infer_instance

-- The Bounds Of An Active Grant

/- The bounds that hold in every state. -/
structure LifetimeKept (memberships : List CourseMembership) (s : GrantStore) : Prop where
  membership : ∀ row ∈ s.grant, row.WithinMembership memberships
  eligibility : ∀ row ∈ s.grant, row.state = .active → row.WithinEligibility s.eligibility

/- A creation stays within the membership it goes by. -/
theorem createdRow_withinMembership {stream : Nat} {now : OffsetDateTime} {call : CreateMutation}
    {membership : CourseMembership}
    (hMembership : creatorMembership memberships.rows call = some membership)
    (hAdmin : membership.role ≠ .platformAdmin) :
    (createdRow deployment stream now call membership).WithinMembership memberships.rows := by
  rcases activeMembership_eq_some hMembership with ⟨hMember, hCourse, hActor⟩
  have hRole : (subjectKindOf membership.role).requiredRole = membership.role := by
    cases hKind : membership.role with
    | student | teacher => rfl
    | platformAdmin => exact absurd hKind hAdmin
  rintro other hOther ⟨hOtherCourse, hOtherActor, hOtherRole⟩ stop hStop
  have hSame : other = membership := memberships.unique other hOther membership hMember
    (hOtherCourse.trans hCourse.symm)
    (hOtherActor.trans hActor.symm)
    (hOtherRole.trans hRole)
  subst hSame
  have hExpiry : createdExpiry deployment now call other ≤ stop := by
    have hSome : other.expiresAt = some stop := hStop
    unfold createdExpiry effectiveExpiry
    rw [hSome]
    exact Int.le_trans (Int.min_le_right _ _) (Int.min_le_right _ _)
  exact Int.le_trans (stored_le _) hExpiry

variable {row' : StoredGrant} (row : StoredGrant)

/- An earlier expiry stays within the membership. -/
theorem withinMembership_of_le (hCourse : row'.courseId = row.courseId)
    (hActor : row'.actorId = row.actorId) (hKind : row'.subjectKind = row.subjectKind)
    (hLe : row'.expiresAt ≤ row.expiresAt) (hKept : row.WithinMembership memberships.rows) :
    row'.WithinMembership memberships.rows := by
  rintro membership hMember ⟨hOwnCourse, hOwnActor, hOwnRole⟩ stop hStop
  rw [hCourse] at hOwnCourse
  rw [hActor] at hOwnActor
  rw [hKind] at hOwnRole
  have hOld := hKept membership hMember ⟨hOwnCourse, hOwnActor, hOwnRole⟩ stop hStop
  exact Int.le_trans hLe hOld

theorem bounds_of_ended {eligibility : Option UtcTimestamp} (hCourse : row'.courseId = row.courseId)
    (hActor : row'.actorId = row.actorId) (hKind : row'.subjectKind = row.subjectKind)
    (hExpiry : row'.expiresAt = row.expiresAt) (hEnded : row'.state ≠ .active)
    (hKept : row.WithinMembership memberships.rows) :
    row'.WithinMembership memberships.rows ∧ (row'.state = .active →
      row'.WithinEligibility eligibility) := by
  have hLe : row'.expiresAt ≤ row.expiresAt := Int.le_of_eq hExpiry
  refine ⟨withinMembership_of_le row hCourse hActor hKind hLe hKept, ?_⟩
  intro hActive
  exact absurd hActive hEnded

theorem lifetimeKept_step (hKept : s.LifetimeKept memberships.rows)
    (hOk : s.BoundedRenewal memberships.rows action)
    (hStep : s.step deployment memberships.rows action = some s') :
    s'.LifetimeKept memberships.rows := by
  rcases (step_eq_some _ _).mp hStep with ⟨row', ⟨_, _, hWritten⟩, _, rfl⟩
  have hMutated := (mutateGrant_cases hWritten).1
  have hBounds : row'.WithinMembership memberships.rows ∧ (row'.state = .active →
      row'.WithinEligibility (action.mutation.resolved s.eligibility)) := by
    unfold BoundedRenewal at hOk
    generalize hMutation : action.mutation = mutation at hMutated hOk
    generalize hGrant : s.grant = grant at hMutated hOk
    have hOld : ∀ row, some row = grant → row.WithinMembership memberships.rows := by
      intro row hRow
      exact hKept.membership row (hGrant.trans hRow.symm)
    cases hMutated with
    | created hMembership hAdmin _ =>
      refine ⟨createdRow_withinMembership hMembership hAdmin, ?_⟩
      rintro ⟨⟩
    | @activated call revision row _ _ _ _ _ =>
      have hEarlier : activatedExpiry call row ≤ row.expiresAt := Int.min_le_left _ _
      refine ⟨withinMembership_of_le row rfl rfl rfl hEarlier (hOld row rfl), ?_⟩
      intro _
      exact ⟨_, rfl, Int.min_le_right _ _⟩
    | @activatedLate call revision row _ _ | @denied revision row _ =>
      exact bounds_of_ended row rfl rfl rfl rfl nofun (hOld row rfl)
    | @renewed call revision row _ hState _ =>
      rcases hOk with ⟨_, hLimit, hCovered⟩
      refine ⟨hCovered, ?_⟩
      intro _
      rcases hKept.eligibility row hGrant hState with ⟨limit, hSome, _⟩
      have hWithin := hLimit limit hSome
      exact ⟨limit, hSome, Int.mul_le_mul_of_nonneg_right hWithin (by decide)⟩
    | @revoked call revision row _ _ | @revokedByEnvironment reason revision row _ _
    | @expired revision row _ _ => exact bounds_of_ended row rfl rfl rfl rfl nofun (hOld row rfl)
  refine ⟨?_, ?_⟩
  · rintro _ ⟨⟩
    exact hBounds.1
  · rintro _ ⟨⟩
    exact hBounds.2

-- Grants That Have Run Out

def Spent (s : GrantStore) : Prop := ∃ row ∈ s.grant, row.expiresAt ≤ s.clock

/- A grant that has run out stays so. -/
theorem spent_step (hSpent : s.Spent) (hOk : s.BoundedRenewal memberships.rows action)
    (hStep : s.step deployment memberships.rows action = some s') : s'.Spent := by
  rcases (step_eq_some _ _).mp hStep with ⟨row', ⟨hClock, _, hWritten⟩, _, rfl⟩
  rcases hSpent with ⟨row, hRow, hOver⟩
  have hGrant : s.grant = some row := hRow
  have hMutated := (mutateGrant_cases hWritten).1
  rw [hGrant] at hMutated
  have hRenew : ∀ call, action.mutation ≠ .renew call := by
    intro call hRenewal
    unfold BoundedRenewal at hOk
    rw [hGrant, hRenewal] at hOk
    exact absurd (Int.le_trans hOver hClock) (Int.not_le.mpr hOk.1)
  -- only a renewal moves the expiry forward
  have hLe : row'.expiresAt ≤ row.expiresAt := by
    generalize action.mutation = mutation at hMutated hRenew
    cases hMutated with
    | activated => exact Int.min_le_left _ _
    | renewed => exact absurd rfl (hRenew _)
    | activatedLate | denied | revoked | revokedByEnvironment | expired => exact Int.le_refl _
  exact ⟨row', rfl, Int.le_trans (Int.le_trans hLe hOver) hClock⟩

end GrantStore

-- The Lifetime Of A Grant

/- As long as every renewal comes before the grant runs out and stays within the bounds, an active
  grant stays within them. An expired grant is of no use at any later time. -/
theorem grant_lifetime_bounded {deployment : GrantDeployment} {memberships : MembershipTable}
    {s : GrantStore} (hRun : (grantMachine deployment memberships.rows).Run
      (BoundedRenewal memberships.rows) s)
    {row : StoredGrant} (hRow : s.grant = some row) :
    (row.state = .active → row.WithinEligibility s.eligibility ∧
      row.WithinMembership memberships.rows) ∧
    ∀ time, s.clock ≤ time → row.expiresAt ≤ time → ∀ s', ((grantMachine deployment
          memberships.rows).startingAt
        { s with clock := time }).Run
      (BoundedRenewal memberships.rows) s' →
      ∀ row' ∈ s'.grant, ∀ later, s'.clock ≤ later → ¬row'.UsableAt later := by
  have hKept : s.LifetimeKept memberships.rows := by
    refine hRun.invariant ?_ ?_
    · rintro start ⟨hNone, _⟩
      refine ⟨?_, ?_⟩ <;>
      · intro found hFound
        cases hNone.symm.trans hFound
    · intro before action after hBefore hOk hStep
      exact lifetimeKept_step hBefore hOk hStep
  refine ⟨?_, ?_⟩
  · intro hActive
    exact ⟨hKept.eligibility row hRow hActive, hKept.membership row hRow⟩
  · intro time _ hOver s' hLater row' hRow' later hTime
    have hSpent : s'.Spent := by
      refine hLater.invariant ?_ ?_
      · rintro start rfl
        exact ⟨row, hRow, hOver⟩
      · intro before action after hBefore hOk hStep
        exact spent_step hBefore hOk hStep
    rintro ⟨_, hUsable⟩
    rcases hSpent with ⟨found, hFound, hSpentBy⟩
    have hSame : some found = some row' := hFound.symm.trans hRow'
    cases hSame
    exact absurd (Int.le_trans hSpentBy hTime) (Int.not_le.mpr hUsable)

open GrantSample

theorem grant_lifetime_bounded_sample : ∃ s row, (grantMachine deployment memberships.rows).Run
      (BoundedRenewal memberships.rows) s ∧
    s.grant = some row ∧ row.state = .active ∧ row.revision.get = 3 ∧
    row.WithinEligibility s.eligibility ∧ row.WithinMembership memberships.rows := by
  have hFound : ∃ s, (grantMachine deployment memberships.rows).Run
      (fun s action => s.BoundedRenewal memberships.rows action) s ∧
      ∃ row, s.grant = some row ∧ row.state = .active ∧ row.revision.get = 3 :=
    Machine.exists_run [create (some 20000), activate, renew 10 28000]
      (s := start) ⟨rfl, rfl⟩ (by decide)
  rcases hFound with ⟨s, hRun, row, hRow, hActive, hRevision⟩
  exact ⟨s, row, hRun, hRow, hActive, hRevision, (grant_lifetime_bounded hRun hRow).1 hActive⟩

/- A renewal in second 10 exceeds both bounds, and one in second 50 brings back a grant that ran out
  in second 30. -/
theorem renewal_exceeds_lifetime : (∃ s row, (grantMachine deployment
        memberships.rows).Reachable s ∧
      s.grant = some row ∧ row.state = .active ∧ ¬row.WithinEligibility s.eligibility ∧
      ¬row.WithinMembership memberships.rows) ∧
    ∃ s row time s' row', (grantMachine deployment memberships.rows).Reachable s ∧
      s.grant = some row ∧ s.clock ≤ time ∧ row.expiresAt ≤ time ∧
      ((grantMachine deployment memberships.rows).startingAt
        { s with clock := time }).Reachable s' ∧
      s'.grant = some row' ∧ row'.UsableAt s'.clock := by
  refine ⟨?_, ?_⟩
  · simp only [exists_and_left]
    exact Machine.exists_reachable [create none, activate, renew 10 40000]
      (s := start) ⟨rfl, rfl⟩ (by decide)
  · have hFound : ∃ s, (grantMachine deployment memberships.rows).Reachable s ∧
        (∃ row, s.grant = some row ∧ s.clock ≤ seconds 45 ∧ row.expiresAt ≤ seconds 45) ∧
        (((grantMachine deployment memberships.rows).startingAt { s with clock := seconds 45 }).exec
          { s with clock := seconds 45 } [renew 50 100000]).any (fun s' =>
            decide (∃ row, s'.grant = some row ∧ row.UsableAt s'.clock)) = true :=
      Machine.exists_reachable [create none, activate] (s := start) ⟨rfl, rfl⟩ (by decide)
    rcases hFound with ⟨s, hRun, ⟨row, hRow, hClock, hOver⟩, hAfter⟩
    rcases Machine.exists_reachable _ rfl hAfter with ⟨s', hRun', row', hRow', hUsable⟩
    exact ⟨s, row, seconds 45, s', row', hRun, hRow, hClock, hOver, hRun', hRow', hUsable⟩

end LabWeaver
