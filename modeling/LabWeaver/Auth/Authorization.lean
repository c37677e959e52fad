import Mathlib.Data.Finset.Insert
import LabWeaver.Contracts.AccessGrant

/-
  This file models how memberships authorize an actor: the decision about one operation, and the
  scopes that a session shows. It says when the two agree and when the order of the memberships
  does not matter.

  Main declarations: `authorization_agrees_iff`, `order_free_iff`.
-/

namespace LabWeaver

namespace Auth

open Outcome List

-- Memberships

/- Identity derived from a verified token. -/
structure AuthenticatedActor where
  actorId : ActorId
  roles : List PlatformRole
  expiresAt : UtcTimestamp
deriving DecidableEq

/- What course and project memberships have in common. -/
structure MembershipTerms where
  actorId : ActorId
  role : PlatformRole
  state : MembershipState
  revision : Revision
  expiresAt : Option UtcTimestamp

structure CourseMembership extends MembershipTerms where
  courseId : CourseId

structure ProjectMembership extends MembershipTerms where
  courseId : CourseId
  projectId : ProjectId

open ProjectMembership

inductive AuthorizationScope where
| global
| course (courseId : CourseId)
| project (courseId : CourseId) (projectId : ProjectId)
| environment (courseId : CourseId) (environmentId : EnvironmentId)
    (environmentRevision : Revision)
| service (serviceId : String)
deriving DecidableEq

def notExpired (expiry : Option UtcTimestamp) (now : OffsetDateTime) : Bool :=
  expiry.all (fun value => now < .ofTimestamp value)

/- The membership is one of the actor, is active, and has not expired. -/
def MembershipTerms.Live (terms : MembershipTerms) (actorId : ActorId)
    (now : OffsetDateTime) : Prop :=
  terms.actorId = actorId ∧ terms.state = .active ∧ notExpired terms.expiresAt now = true
deriving Decidable

-- Decisions

structure AuthorizationContext where
  actor : AuthenticatedActor
  courseMemberships : List CourseMembership
  projectMemberships : List ProjectMembership
  now : OffsetDateTime

structure AuthorizationDecision where
  actor : AuthenticatedActor
  scope : AuthorizationScope
  (authorizationRevision scopeRevision : Revision)
  validUntil : UtcTimestamp
  diagnosticCode : Option String
deriving DecidableEq

inductive AuthorizationError where
| roleDenied
| courseScopeDenied
| projectScopeDenied
| identityExpired
deriving DecidableEq

def earliest (actorExpiry : UtcTimestamp) (membershipExpiry : Option UtcTimestamp) : UtcTimestamp :=
  (membershipExpiry.filter (fun expiry => OffsetDateTime.ofTimestamp expiry <
    .ofTimestamp actorExpiry)).getD actorExpiry

variable (context : AuthorizationContext)

def activeCourseMembership (courseId : CourseId) (requiredRoles : Finset PlatformRole) :
    Except AuthorizationError CourseMembership :=
  require (context.courseMemberships.find? (fun membership => membership.courseId = courseId ∧
    membership.actorId = context.actor.actorId ∧ membership.role ∈ requiredRoles ∧
    membership.state = .active ∧ notExpired membership.expiresAt context.now))
    .courseScopeDenied

def activeProjectMembership (courseId : CourseId) (projectId : ProjectId)
    (requiredRoles : Finset PlatformRole) : Except AuthorizationError ProjectMembership :=
  require (context.projectMemberships.find? (fun membership => membership.courseId = courseId ∧
    membership.projectId = projectId ∧ membership.actorId = context.actor.actorId ∧
    membership.role ∈ requiredRoles ∧ membership.state = .active ∧
    notExpired membership.expiresAt context.now))
    .projectScopeDenied

/- The revision of a scope and the end of its validity. -/
def scopeValidity (requiredRoles : Finset PlatformRole) :
    AuthorizationScope → Except AuthorizationError (Revision × UtcTimestamp)
| .global | .service _ => .ok (.one, context.actor.expiresAt)
| .course courseId | .environment courseId _ _ => do
    let membership ← activeCourseMembership context courseId requiredRoles
    .ok (membership.revision, earliest context.actor.expiresAt membership.expiresAt)
| .project courseId projectId => do
    let membership ← activeProjectMembership context courseId projectId requiredRoles
    .ok (membership.revision, earliest context.actor.expiresAt membership.expiresAt)

def authorize (scope : AuthorizationScope) (requiredRoles : Finset PlatformRole) :
    Except AuthorizationError AuthorizationDecision := do
  ensure (requiredRoles ≠ ∅ ∧ ∃ role ∈ context.actor.roles, role ∈ requiredRoles) .roleDenied
  let (revision, validUntil) ← scopeValidity context requiredRoles scope
  ensure (context.now < .ofTimestamp context.actor.expiresAt ∧
    context.now < .ofTimestamp validUntil)
    .identityExpired
  .ok
    { actor := context.actor, scope, authorizationRevision := revision,
      scopeRevision := revision, validUntil, diagnosticCode := none }

-- The Scopes Of A Session

inductive SessionApiError where
| internal (diagnostic : String)
deriving DecidableEq

structure SessionScopes where
  scopes : List AuthorizationScope
  revision : Revision
  expiresAt : UtcTimestamp
deriving DecidableEq

def SessionScopes.add (session : SessionScopes) (scope : AuthorizationScope)
    (terms : MembershipTerms) :
    Except SessionApiError SessionScopes := do
  let revision ← require (Revision.new (max session.revision.get terms.revision.get))
      (.internal "LW_AUTH_MEMBERSHIP_UNAVAILABLE")
  .ok
    { scopes := session.scopes ++ [scope], revision
      expiresAt :=
        match terms.expiresAt with
        | some expiry =>
          if OffsetDateTime.ofTimestamp expiry < .ofTimestamp session.expiresAt then expiry
          else session.expiresAt
        | none => session.expiresAt }

/- The loop over the memberships of one kind. -/
def collectScopes (actor : AuthenticatedActor) (now : OffsetDateTime) :
    List (AuthorizationScope × MembershipTerms) → SessionScopes →
    Except SessionApiError SessionScopes
| [], session => .ok session
| (scope, terms) :: rest, session =>
  if terms.actorId = actor.actorId ∧ terms.state = .active ∧ terms.role ∈ actor.roles ∧
    notExpired terms.expiresAt now then do
    let session ← session.add scope terms
    collectScopes actor now rest session
  else collectScopes actor now rest session

def CourseMembership.entry (membership : CourseMembership) : AuthorizationScope × MembershipTerms :=
  (.course membership.courseId, membership.toMembershipTerms)

def ProjectMembership.entry (membership : ProjectMembership) :
    AuthorizationScope × MembershipTerms :=
  (.project membership.courseId membership.projectId, membership.toMembershipTerms)

def effectiveSessionScopes (actor : AuthenticatedActor) (courseMemberships : List CourseMembership)
    (projectMemberships : List ProjectMembership) (initialRevision : Revision)
    (initialExpiry : UtcTimestamp) (now : OffsetDateTime) :
    Except SessionApiError SessionScopes := do
  let session ← collectScopes actor now (courseMemberships.map CourseMembership.entry)
      { scopes := [.global], revision := initialRevision, expiresAt := initialExpiry }
  collectScopes actor now (projectMemberships.map entry) session

theorem SessionScopes.exists_add (session : SessionScopes) (scope : AuthorizationScope)
    (terms : MembershipTerms) :
    ∃ session', session.add scope terms = .ok session' ∧
      session'.scopes = session.scopes ++ [scope] := by
  have hRange : 0 < max session.revision.get terms.revision.get ∧
      max session.revision.get terms.revision.get ≤ maxU64 := by
    have hFirst := session.revision.nonzero
    have hSecond := session.revision.bounded
    have hThird := terms.revision.bounded
    omega
  unfold add
  rw [Revision.new, dif_pos hRange]
  exact ⟨_, rfl, rfl⟩

/- The loop succeeds and appends the scopes of the live memberships with a verified role. -/
theorem exists_collectScopes (actor : AuthenticatedActor) (now : OffsetDateTime)
    (entries : List (AuthorizationScope × MembershipTerms)) (session : SessionScopes) :
    ∃ session', collectScopes actor now entries session = .ok session' ∧ ∀ scope,
      scope ∈ session'.scopes ↔ scope ∈ session.scopes ∨ ∃ terms, (scope, terms) ∈ entries ∧
        terms.Live actor.actorId now ∧ terms.role ∈ actor.roles := by
  induction entries generalizing session with
  | nil => exact ⟨session, rfl, by simp⟩
  | cons entry rest ih =>
    rcases entry with ⟨listed, terms⟩
    rw [collectScopes]
    split
    · rename_i hTaken
      rcases session.exists_add listed terms with ⟨next, hAdd, hScopes⟩
      rcases ih next with ⟨session', hRest, hMember⟩
      refine ⟨session', ?_, ?_⟩
      · rwa [hAdd]
      · intro scope
        rw [hMember, hScopes, mem_append, mem_singleton, or_assoc]
        refine or_congr_right ?_
        constructor
        · rintro (rfl | ⟨later, hLater, hLive⟩)
          · exact ⟨terms, mem_cons_self, ⟨hTaken.1, hTaken.2.1, hTaken.2.2.2⟩, hTaken.2.2.1⟩
          · exact ⟨later, mem_cons_of_mem _ hLater, hLive⟩
        · rintro ⟨other, hOther, hLive⟩
          rcases mem_cons.mp hOther with hHead | hTail
          · cases hHead
            exact .inl rfl
          · exact .inr ⟨other, hTail, hLive⟩
    · rename_i hSkipped
      rcases ih session with ⟨session', hRest, hMember⟩
      refine ⟨session', hRest, ?_⟩
      intro scope
      rw [hMember]
      refine or_congr_right ?_
      constructor
      · rintro ⟨later, hLater, hLive⟩
        exact ⟨later, mem_cons_of_mem _ hLater, hLive⟩
      · rintro ⟨other, hOther, hLive, hRole⟩
        rcases mem_cons.mp hOther with hHead | hTail
        · cases hHead
          exact absurd ⟨hLive.1, hLive.2.1, hRole, hLive.2.2⟩ hSkipped
        · exact ⟨other, hTail, hLive, hRole⟩

-- Agreement

namespace AuthorizationContext

def terms : AuthorizationScope → List MembershipTerms
| .course courseId | .environment courseId _ _ =>
  (context.courseMemberships.filter (fun membership => membership.courseId = courseId)).map
    CourseMembership.toMembershipTerms
| .project courseId projectId =>
  (context.projectMemberships.filter (fun membership => membership.courseId = courseId ∧
    membership.projectId = projectId)).map
    toMembershipTerms
| .global | .service _ => []

variable (scope : AuthorizationScope) (requiredRoles : Finset PlatformRole)

/- The identity is current, one of its roles is allowed, and so is the role of a live membership of
  the scope. -/
structure Permits : Prop where
  current : context.now < .ofTimestamp context.actor.expiresAt
  role : ∃ role ∈ context.actor.roles, role ∈ requiredRoles
  membership : ∃ terms ∈ context.terms scope, terms.Live context.actor.actorId context.now ∧
    terms.role ∈ requiredRoles

/- A live membership of the scope has a role that is both allowed and one of the verified roles of
  the actor. -/
def Verified : Prop :=
  ∃ terms ∈ context.terms scope, terms.Live context.actor.actorId context.now ∧
    terms.role ∈ requiredRoles ∧ terms.role ∈ context.actor.roles

end AuthorizationContext

theorem earliest_after {now : OffsetDateTime} {actorExpiry : UtcTimestamp}
    {membershipExpiry : Option UtcTimestamp} (hActor : now < .ofTimestamp actorExpiry)
    (hMembership : notExpired membershipExpiry now = true) :
    now < .ofTimestamp (earliest actorExpiry membershipExpiry) := by
  unfold earliest
  cases membershipExpiry with
  | none => exact hActor
  | some expiry =>
    simp only [notExpired, Option.all_some, decide_eq_true_eq] at hMembership
    rw [Option.filter_some]
    split
    · exact hMembership
    · exact hActor

/- A session shows the scopes of the live memberships with a verified role. -/
theorem exists_effectiveSessionScopes (initialRevision : Revision) (initialExpiry : UtcTimestamp) :
    ∃ session, effectiveSessionScopes context.actor
      context.courseMemberships context.projectMemberships
      initialRevision initialExpiry context.now = .ok session ∧
      ∀ scope terms, ((scope, terms) ∈ context.courseMemberships.map CourseMembership.entry ∨
        (scope, terms) ∈ context.projectMemberships.map entry) →
        terms.Live context.actor.actorId context.now → terms.role ∈ context.actor.roles →
        scope ∈ session.scopes := by
  rcases exists_collectScopes context.actor context.now
      (context.courseMemberships.map CourseMembership.entry)
      ⟨[.global], initialRevision, initialExpiry⟩ with
    ⟨first, hCourses, hFirst⟩
  rcases exists_collectScopes context.actor context.now
      (context.projectMemberships.map entry)
      first with
    ⟨session, hProjects, hSession⟩
  refine ⟨session, ?_, ?_⟩
  · rwa [effectiveSessionScopes, bind_of_ok hCourses]
  · intro scope terms hEntry hLive hRole
    rw [hSession, hFirst]
    rcases hEntry with hCourse | hProject
    · exact .inl (.inr ⟨terms, hCourse, hLive, hRole⟩)
    · exact .inr ⟨terms, hProject, hLive, hRole⟩

def AuthorizationScope.ofMembers : AuthorizationScope → Bool
| .course _ | .project _ _ => true
| .global | .environment _ _ _ | .service _ => false

variable {scope : AuthorizationScope}

theorem AuthorizationContext.entry_of_mem_terms {context : AuthorizationContext}
    {terms : MembershipTerms} (hMembers : scope.ofMembers = true)
    (hTerms : terms ∈ context.terms scope) :
    (scope, terms) ∈ context.courseMemberships.map CourseMembership.entry ∨ (scope, terms) ∈
      context.projectMemberships.map entry := by
  cases scope with
  | course courseId =>
    rcases mem_map.mp hTerms with ⟨membership, hMember, rfl⟩
    rcases mem_filter.mp hMember with ⟨hListed, hCourse⟩
    refine .inl (mem_map.mpr ⟨membership, hListed, ?_⟩)
    rw [CourseMembership.entry, of_decide_eq_true hCourse]
  | project courseId projectId =>
    rcases mem_map.mp hTerms with ⟨membership, hMember, rfl⟩
    rcases mem_filter.mp hMember with ⟨hListed, hProject⟩
    rcases of_decide_eq_true hProject with ⟨rfl, rfl⟩
    exact .inr (mem_map.mpr ⟨membership, hListed, rfl⟩)
  | global | environment _ _ _ | service _ => cases hMembers

/- What a scope is denied with if no membership counts for it. -/
def AuthorizationScope.denial : AuthorizationScope → AuthorizationError
| .project _ _ => .projectScopeDenied
| _ => .courseScopeDenied

/- The validities that a scope may get, from all memberships of it that count. -/
def AuthorizationContext.offers (requiredRoles : Finset PlatformRole) :
    AuthorizationScope → List (Revision × UtcTimestamp)
| .global | .service _ => [(.one, context.actor.expiresAt)]
| scope =>
  ((context.terms scope).filter (fun terms => terms.Live context.actor.actorId context.now ∧
    terms.role ∈ requiredRoles)).map
    (fun terms => (terms.revision, earliest context.actor.expiresAt terms.expiresAt))

variable {requiredRoles : Finset PlatformRole} {offer : Revision × UtcTimestamp}

section

variable {context : AuthorizationContext}

/- The membership that is found makes the first offer. -/
theorem require_offer {μ : Type} {memberships : List μ} {toTerms : μ → MembershipTerms}
    {within found : μ → Prop} [DecidablePred within] [DecidablePred found]
    {error : AuthorizationError} (hFound : ∀ membership, found membership ↔ within membership ∧
      (toTerms membership).Live context.actor.actorId context.now ∧
      (toTerms membership).role ∈ requiredRoles) :
    (do
      let membership ← require (memberships.find? (fun membership => found membership)) error
      .ok ((toTerms membership).revision,
        earliest context.actor.expiresAt (toTerms membership).expiresAt)) =
      require ((((memberships.filter (fun membership => within membership)).map toTerms).filter
        (fun terms => terms.Live context.actor.actorId context.now ∧
          terms.role ∈ requiredRoles)).map
        (fun terms => (terms.revision,
          earliest context.actor.expiresAt terms.expiresAt))).head? error := by
  have hSame : (fun membership => decide (found membership)) = fun membership =>
      decide (within membership ∧ (toTerms membership).Live context.actor.actorId context.now ∧
        (toTerms membership).role ∈ requiredRoles) :=
    funext fun membership => decide_eq_decide.mpr (hFound membership)
  rw [List.head?_map, List.head?_filter, List.find?_map, List.find?_filter, hSame]
  simp only [Function.comp_apply, decide_eq_true_eq]
  cases memberships.find? _ <;> rfl

theorem scopeValidity_eq : scopeValidity context requiredRoles scope =
    require (context.offers requiredRoles scope).head? scope.denial := by
  cases scope with
  | course _ | environment _ _ _ | project _ _ =>
    refine require_offer ?_
    intro membership
    simp only [MembershipTerms.Live]
    tauto
  | global | service _ => rfl

theorem offer_valid (hOffer : offer ∈ context.offers requiredRoles scope)
    (hCurrent : context.now < .ofTimestamp context.actor.expiresAt) :
    context.now < .ofTimestamp offer.2 := by
  cases scope with
  | course _ | environment _ _ _ | project _ _ =>
    rcases mem_map.mp hOffer with ⟨terms, hTerms, rfl⟩
    have hCounts := of_decide_eq_true (mem_filter.mp hTerms).2
    exact earliest_after hCurrent hCounts.1.2.2
  | global | service _ =>
    rwa [mem_singleton.mp hOffer]

theorem exists_offer_iff (hMembers : scope.ofMembers = true) :
    (∃ offer, offer ∈ context.offers requiredRoles scope) ↔ ∃ terms ∈ context.terms scope,
      terms.Live context.actor.actorId context.now ∧ terms.role ∈ requiredRoles := by
  cases scope with
  | course _ | project _ _ => simp [AuthorizationContext.offers]
  | global | environment _ _ _ | service _ => cases hMembers

/- What `authorize` decides about a course or a project. -/
theorem exists_authorize_iff (hMembers : scope.ofMembers = true) :
    (∃ decision, authorize context scope requiredRoles = .ok decision) ↔
      context.Permits scope requiredRoles := by
  simp only [authorize, scopeValidity_eq, steps_eq_ok, Prod.exists]
  constructor
  · rintro ⟨decision, hRole, revision, validUntil, hFirst, ⟨hCurrent, _⟩, _⟩
    exact ⟨hCurrent, hRole.2, (exists_offer_iff hMembers).mp ⟨_, mem_of_head? hFirst⟩⟩
  · rintro ⟨hCurrent, ⟨role, hRole, hRequired⟩, hMembership⟩
    rcases (exists_offer_iff hMembers).mpr hMembership with ⟨offer, hOffer⟩
    rcases exists_cons_of_ne_nil (ne_nil_of_mem hOffer) with ⟨first, rest, hFirst⟩
    have hValid := offer_valid (hFirst ▸ mem_cons_self) hCurrent
    exact ⟨_, ⟨Finset.ne_empty_of_mem hRequired, role, hRole, hRequired⟩, first.1, first.2,
      congrArg List.head? hFirst, ⟨hCurrent, hValid⟩, rfl⟩

end

/- If the actor is granted a course or a project, the session shows it, and a live membership has an
  allowed and verified role. -/
def AuthorizationContext.Agrees (scope : AuthorizationScope) (requiredRoles : Finset PlatformRole)
    (initialRevision : Revision) (initialExpiry : UtcTimestamp) : Prop :=
  scope.ofMembers = true →
  ∀ decision, authorize context scope requiredRoles = .ok decision → (∃ session,
    effectiveSessionScopes context.actor context.courseMemberships context.projectMemberships
      initialRevision initialExpiry context.now =
      .ok session ∧
    scope ∈ session.scopes) ∧ context.Verified scope requiredRoles

/- The two agree exactly if the role for which a membership is granted, or that of another
  membership of the scope, is verified. -/
theorem authorization_agrees_iff (context : AuthorizationContext) (scope : AuthorizationScope)
    (requiredRoles : Finset PlatformRole) (initialRevision : Revision)
    (initialExpiry : UtcTimestamp) :
    context.Agrees scope requiredRoles initialRevision initialExpiry ↔ (scope.ofMembers = true →
      context.Permits scope requiredRoles → context.Verified scope requiredRoles) := by
  constructor
  · intro hAgrees hMembers hPermits
    rcases (exists_authorize_iff hMembers).mpr hPermits with ⟨decision, hDecision⟩
    exact (hAgrees hMembers decision hDecision).2
  · intro hVerified hMembers decision hDecision
    have hPermits := (exists_authorize_iff hMembers).mp ⟨decision, hDecision⟩
    have hBacked := hVerified hMembers hPermits
    refine ⟨?_, hBacked⟩
    rcases hBacked with ⟨terms, hTerms, hLive, _, hRole⟩
    rcases exists_effectiveSessionScopes context initialRevision initialExpiry with
      ⟨session, hSession, hListed⟩
    exact ⟨session, hSession, hListed scope terms (AuthorizationContext.entry_of_mem_terms hMembers
      hTerms) hLive hRole⟩

/- An actor with the verified role of a student and the membership of a teacher. -/
def unverifiedTeacher : AuthorizationContext where
  actor := ⟨⟨1⟩, [.student], 2⟩
  courseMemberships := [⟨⟨⟨1⟩, .teacher, .active, .one, none⟩, ⟨7⟩⟩]
  projectMemberships := []
  now := 0

/- The course is granted, but the session does not show it. -/
theorem authorization_disagrees : ¬unverifiedTeacher.Agrees (.course ⟨7⟩)
    {.student, .teacher} .one 2 := by
  intro hAgrees
  have hGranted : ∃ decision, authorize unverifiedTeacher (.course ⟨7⟩)
      {.student, .teacher} = .ok decision :=
    ⟨⟨⟨⟨1⟩, [.student], 2⟩, .course ⟨7⟩, .one, .one, 2, none⟩, by decide⟩
  have hHidden : effectiveSessionScopes unverifiedTeacher.actor unverifiedTeacher.courseMemberships
      unverifiedTeacher.projectMemberships .one 2
      unverifiedTeacher.now =
      .ok ⟨[.global], .one, 2⟩ := by
    decide
  rcases hGranted with ⟨decision, hDecision⟩
  rcases (hAgrees rfl decision hDecision).1 with ⟨session, hSession, hListed⟩
  cases hHidden.symm.trans hSession
  simp at hListed

-- The Order Of Memberships

inductive DecisionApiError where
| forbidden (diagnostic : String)

/- The observed revisions of a request, against the decision about it. That of an environment
  replaces the scope revision before. -/
def validateObservedRevisions (authorizationRevision scopeRevision : Option Revision)
    (decision : AuthorizationDecision) : Except DecisionApiError Unit :=
  ensure (authorizationRevision.all (·.get ≤ decision.authorizationRevision.get) ∧
    scopeRevision.all (·.get ≤ decision.scopeRevision.get)) (.forbidden "LW_AUTH_SCOPE_DENIED")

namespace AuthorizationContext

/- The memberships of the actor are read again, now or later, in some order. -/
structure Reread (context later : AuthorizationContext) : Prop where
  actor : later.actor = context.actor
  courses : later.courseMemberships.Perm context.courseMemberships
  projects : later.projectMemberships.Perm context.projectMemberships
  now : context.now ≤ later.now

variable (scope) (requiredRoles)

/- The decision does not depend on the order, and its revision is accepted with every later one. -/
def OrderFree : Prop :=
  ∀ later, context.Reread later →
    (later.now = context.now →
      authorize later scope requiredRoles = authorize context scope requiredRoles) ∧
    ∀ first second, authorize context scope requiredRoles = .ok first →
      authorize later scope requiredRoles = .ok second →
      validateObservedRevisions first.authorizationRevision first.scopeRevision second = .ok ()

/- The memberships that count for a decision that is not denied for other reasons offer the same. -/
def Uniform : Prop :=
  context.now < .ofTimestamp context.actor.expiresAt →
  (∃ role ∈ context.actor.roles, role ∈ requiredRoles) →
  ∀ first ∈ context.offers requiredRoles scope, ∀ second ∈ context.offers requiredRoles scope,
    first = second

variable {requiredRoles}

variable {scope}

variable {context} {later : AuthorizationContext}

theorem Reread.offers (hReread : context.Reread later)
    (hOffer : offer ∈ later.offers requiredRoles scope) :
    offer ∈ context.offers requiredRoles scope := by
  cases scope with
  | course _ | environment _ _ _ | project _ _ =>
    simp only [AuthorizationContext.offers, AuthorizationContext.terms, mem_map,
      mem_filter, hReread.actor, hReread.courses.mem_iff, hReread.projects.mem_iff,
      decide_eq_true_eq] at hOffer ⊢
    rcases hOffer with ⟨terms, ⟨hTerms, hLive, hRole⟩, rfl⟩
    refine ⟨terms, ⟨hTerms, ⟨hLive.1, hLive.2.1, ?_⟩, hRole⟩, rfl⟩
    cases hEnd : terms.expiresAt with
    | none => rfl
    | some expiry =>
      rw [MembershipTerms.Live, hEnd] at hLive
      exact decide_eq_true (Int.lt_of_le_of_lt hReread.now (of_decide_eq_true hLive.2.2))
  | global | service _ =>
    rwa [AuthorizationContext.offers, hReread.actor] at hOffer

/- A list can be reordered such that the image of a selected element comes first. -/
theorem exists_perm_first {μ ν : Type} {xs : List μ} {p : μ → Bool} {f : μ → ν} {y : ν}
    (hMember : y ∈ (xs.filter p).map f) :
    ∃ ys rest, List.Perm ys xs ∧ (ys.filter p).map f = y :: rest := by
  rcases mem_map.mp hMember with ⟨x, hSelected, rfl⟩
  rcases mem_filter.mp hSelected with ⟨hListed, hSelects⟩
  rcases append_of_mem hListed with ⟨before, after, rfl⟩
  refine ⟨x :: (before ++ after), ((before ++ after).filter p).map f, perm_middle.symm, ?_⟩
  rw [filter_cons_of_pos hSelects, map_cons]

theorem exists_offered_first (hOffer : offer ∈ context.offers requiredRoles scope) :
    ∃ courseMemberships projectMemberships,
      context.Reread { context with courseMemberships, projectMemberships } ∧
      ({ context with courseMemberships, projectMemberships }.offers requiredRoles scope).head? =
        some offer := by
  have hSelf : context.Reread context := ⟨rfl, .rfl, .rfl, Int.le_refl _⟩
  cases scope with
  | course _ | environment _ _ _ | project _ _ =>
    rcases mem_map.mp hOffer with ⟨terms, hTerms, rfl⟩
    rcases mem_filter.mp hTerms with ⟨hListed, hCounts⟩
    rcases exists_perm_first hListed with ⟨memberships, rest, hPerm, hFirst⟩
    first
    | refine ⟨memberships, _, { hSelf with courses := hPerm }, ?_⟩
    | refine ⟨_, memberships, { hSelf with projects := hPerm }, ?_⟩
    simp only [AuthorizationContext.offers, AuthorizationContext.terms, hFirst, filter_cons,
      hCounts, if_true, map_cons, List.head?_cons]
  | global | service _ => exact ⟨_, _, hSelf, congrArg some (mem_singleton.mp hOffer).symm⟩

end AuthorizationContext

open AuthorizationContext

/- A decision does not depend on the order of the memberships exactly if all that count offer the
  same revision and end. -/
theorem order_free_iff (context : AuthorizationContext) (scope : AuthorizationScope)
    (requiredRoles : Finset PlatformRole) :
    context.OrderFree scope requiredRoles ↔ context.Uniform scope requiredRoles := by
  constructor
  · rintro hFree hCurrent ⟨role, hRole, hRequired⟩
    have hDecided : ∀ offer ∈ context.offers requiredRoles scope,
        authorize context scope requiredRoles =
          .ok ⟨context.actor, scope, offer.1, offer.1, offer.2, none⟩ := by
      intro offer hOffer
      rcases exists_offered_first hOffer with ⟨_, _, hReread, hFirst⟩
      rw [← (hFree _ hReread).1 rfl]
      simp only [authorize, scopeValidity_eq, steps_eq_ok, Prod.exists]
      exact ⟨⟨Finset.ne_empty_of_mem hRequired, role, hRole, hRequired⟩, offer.1, offer.2, hFirst,
        ⟨hCurrent, offer_valid hOffer hCurrent⟩, rfl⟩
    rintro ⟨revision, validUntil⟩ hFirst ⟨revision', validUntil'⟩ hSecond
    have hSame := (hDecided _ hFirst).symm.trans (hDecided _ hSecond)
    cases hSame
    rfl
  · intro hUniform later hReread
    constructor
    · intro hNow
      have hBack : later.Reread context :=
        ⟨hReread.actor.symm, hReread.courses.symm, hReread.projects.symm, Int.le_of_eq hNow⟩
      simp only [authorize, scopeValidity_eq, hReread.actor, hNow]
      cases hSecond : (later.offers requiredRoles scope).head? with
      | none =>
        have hNone : context.offers requiredRoles scope = [] := by
          refine eq_nil_iff_forall_not_mem.mpr ?_
          intro offer hOffer
          have hOffered := hBack.offers hOffer
          rw [List.head?_eq_none_iff.mp hSecond] at hOffered
          cases hOffered
        rw [hNone, List.head?_nil]
      | some second =>
        have hOffered := hReread.offers (mem_of_head? hSecond)
        rcases exists_cons_of_ne_nil (ne_nil_of_mem hOffered) with ⟨first, rest, hFirst⟩
        rw [hFirst, List.head?_cons]
        by_cases hCurrent : context.now < .ofTimestamp context.actor.expiresAt
        · by_cases hRole : ∃ role ∈ context.actor.roles, role ∈ requiredRoles
          · rw [hUniform hCurrent hRole second hOffered first (hFirst ▸ mem_cons_self)]
          · simp only [hRole, and_false, ensure, if_false]
            rfl
        · simp only [hCurrent, false_and, ensure, if_false]
          rfl
    · intro first second hFirst hSecond
      simp only [authorize, scopeValidity_eq, steps_eq_ok, Prod.exists] at hFirst hSecond
      rcases hFirst with ⟨hRole, revision, validUntil, hFirst, ⟨hCurrent, _⟩, rfl⟩
      rcases hSecond with ⟨_, revision', validUntil', hSecond, _, rfl⟩
      cases hUniform hCurrent hRole.2 _ (mem_of_head? hFirst) _
        (hReread.offers (mem_of_head? hSecond))
      simp [validateObservedRevisions]

def teachingStudent (memberships : List CourseMembership) : AuthorizationContext where
  actor := ⟨⟨1⟩, [.student, .teacher], 2⟩
  courseMemberships := memberships
  projectMemberships := []
  now := 0

/- What the actor has seen as a student is ahead of what they may see as a teacher. -/
theorem order_not_free : ¬ ∀ context scope requiredRoles,
    AuthorizationContext.OrderFree context scope requiredRoles := by
  intro hFree
  let student : CourseMembership := ⟨⟨⟨1⟩, .student, .active, ⟨2, by decide, by decide⟩, none⟩, ⟨7⟩⟩
  let teacher : CourseMembership := ⟨⟨⟨1⟩, .teacher, .active, .one, none⟩, ⟨7⟩⟩
  have hReread : (teachingStudent [student, teacher]).Reread (teachingStudent [teacher, student]) :=
    ⟨rfl, .swap _ _ _, .rfl, Int.le_refl _⟩
  have hAccepted := (hFree _ (.course ⟨7⟩) {.student, .teacher} _ hReread).2 _ _ rfl rfl
  cases hAccepted

end Auth

end LabWeaver
