import LabWeaver.Access.GatewaySessions
import LabWeaver.Environment.EndpointResolver

/-
  This file joins the Environment service and the database of the Access service. Before a command
  that takes an environment away, Environment asks Access to revoke its grants, and before a grant
  becomes active, Access asks Environment whether its endpoints are eligible. The revocation
  sweeps the grants of that moment, and the revision that makes later grants ineligible moves only
  when the command commits.

  Main declarations: `revoked_before_mutation`, `grant_survives_mutation`.
-/

namespace LabWeaver

open Outcome ReadCommitted System Option

-- Two Services

/- A call to revoke the grants of an environment, with the revision it has read and the transaction
  of Access that serves it. -/
structure Exchange where
  environmentId : EnvironmentId
  environmentRevision : Revision
  transaction : Nat

open Exchange

structure EligibilityAnswer where
  grantId : AccessGrantId
  eligibility : EnvironmentEndpointEligibility

structure JointState (δ : Type) where
  environment : ServiceState δ
  access : AccessSystem
  exchanges : List Exchange
  answers : List EligibilityAnswer

/- The commands that revoke access before they commit. -/
def EnvironmentOperationKind.revokesFirst : EnvironmentOperationKind → Bool
| .stop | .restart | .reset | .expire | .delete => true
| _ => false

/- The commands that revoke have an exchange of their own. -/
def ServiceAction.revokesFirst : ServiceAction → Bool
| .command _ accepted _ _ _ _ => accepted.kind.revokesFirst
| _ => false

variable (exchange : Exchange)

/- The revision that Access replies with, once committed. -/
def Exchange.reply (access : AccessSystem) : Option Revision :=
  match access.transactions[exchange.transaction]? with
  | none => none
  | some tx =>
    match tx.status, tx.locals with
    | .committed, .finished revision => revision
    | _, _ => none

def Exchange.Carries (revision : Revision) (command : EnvironmentLifecycleCommand) : Prop :=
  command.kind.revokesFirst = true ∧ command.environmentId = exchange.environmentId ∧
  command.expectedRevision = exchange.environmentRevision ∧
  command.accessRevocationRevision = some revision
deriving Decidable

inductive JointAction where
| environment (action : ServiceAction)
| access (action : Action AccessLocals)
| resolve (grantId : AccessGrantId) (now : UtcTimestamp)
| revoke (environmentId : EnvironmentId)
| giveUp (exchange : Nat)
| mutate (exchange : Nat) (idempotencyKey : String) (command : EnvironmentLifecycleCommand)
    (leaseAuthorization : Option EnvironmentLeaseAuthorization) (courseId : Option CourseId)
    (operationId : OperationId)

variable {δ : Type}

namespace JointState

/- An activation has its answer from Environment. -/
def answered (s : JointState δ) : Action AccessLocals → Bool
| .begin (.activateGrant call) =>
  s.answers.any (fun answer => answer.grantId = call.lease.grantId &&
    answer.eligibility.eligibilityExpiresAt = call.eligibilityExpiresAt &&
    answer.eligibility.endpoints = call.endpoints.map NewEndpointGrant.endpoint)
| _ => true

def resolve (s : JointState δ) (grantId : AccessGrantId)
    (now : UtcTimestamp) : Option (JointState δ) := do
  let grant ← requestedGrant? grantId s.access.committed
  let env ← s.environment.tables.instances grant.request.environmentId
  match authorizeEndpointEligibility env grant.eligibilityRequest now with
  | .error _ => none
  | .ok eligibility =>
    some
      { s with answers := { grantId, eligibility } :: s.answers }

/- Environment reads an environment and calls Access. -/
def revoke (s : JointState δ) (environmentId : EnvironmentId) : Option (JointState δ) := do
  let env ← s.environment.tables.instances environmentId
  let access ← accessProtocol.step s.access (.begin (.revokeEnvironmentGrants environmentId))
  some
    { s with
      access
      exchanges :=
        { environmentId, environmentRevision := env.revision,
          transaction := s.access.transactions.length } ::
        s.exchanges }

variable [DecidableEq δ] (hash : RequestDocument → δ)

/- A command that revokes first waits for the reply of its exchange, and the handler may give up at
  any time. -/
def step (s : JointState δ) : JointAction → Option (JointState δ)
| .environment action =>
  if action.revokesFirst then none
  else (s.environment.step hash action).map (fun environment => { s with environment })
| .access action =>
  if s.answered action then
    (accessProtocol.step s.access action).map (fun access => { s with access })
  else none
| .resolve grantId now => s.resolve grantId now
| .revoke environmentId => s.revoke environmentId
| .giveUp exchange => some { s with exchanges := s.exchanges.eraseIdx exchange }
| .mutate index idempotencyKey command leaseAuthorization courseId operationId => do
    let exchange ← s.exchanges[index]?
    let revision ← exchange.reply s.access
    if exchange.Carries revision command then
      (s.environment.step hash (.command idempotencyKey command none
        leaseAuthorization courseId operationId)).map
        (fun environment => { s with environment, exchanges := s.exchanges.eraseIdx index })
    else none

end JointState

/- The two services from safe rows of Access. -/
def jointServices {δ : Type} [DecidableEq δ] (hash : RequestDocument → δ) :
    Machine (JointState δ) JointAction where
  init := fun s => s.environment.initial ∧ GatewaySafe s.access.committed ∧
    s.access.transactions = [] ∧ s.exchanges = [] ∧ s.answers = []
  step := JointState.step hash

-- Late Activations

/- An active grant that the command of an exchange ends. -/
def Exchange.Exposed (grant : AccessGrantRow) : Prop :=
  grant.environmentId = exchange.environmentId ∧
  grant.environmentRevision.get ≤ exchange.environmentRevision.get ∧ grant.state = .active
deriving Decidable

def activatedGrants (committed : AccessStore) (tx : AccessTransaction) : List AccessGrantRow :=
  tx.writes.rows .grants (fun id grant =>
    if grant.state = .active ∧ (committed.row ⟨.grants, id⟩).all (fun (old : AccessGrantRow) =>
      old.state ≠ .active) = true then
      some grant
    else none)

/- The UPDATE of the exchange has taken its snapshot. -/
def Exchange.begun (tx : AccessTransaction) : Bool :=
  tx.locals ≠ .revokeEnvironmentGrants exchange.environmentId || tx.snapshot.isSome

/- From the UPDATE of the revocation on, until the command is committed or given up, no grant that
  it is to end becomes active. -/
def noLateActivation {δ : Type} (s : JointState δ) : JointAction → Prop
| .access (.commit i) =>
  ∀ tx ∈ s.access.running i, ∀ exchange ∈ s.exchanges, ∀ revocation ∈
    s.access.transactions[exchange.transaction]?, exchange.begun revocation = true →
    ∀ grant ∈ activatedGrants s.access.committed tx, ¬exchange.Exposed grant
| _ => True

/- No grant of the environment from an older revision is active, and no gateway session under
  one. -/
structure AccessRevoked (store : AccessStore) (environmentId : EnvironmentId)
    (revision : Revision) : Prop where
  grants : ∀ id (grant : AccessGrantRow), store.row ⟨.grants, id⟩ = some grant →
    grant.environmentId = environmentId → grant.environmentRevision.get < revision.get →
    grant.state ≠ .active
  sessions : ∀ id (session : GatewaySessionRow) (grant : AccessGrantRow),
    store.row ⟨.gatewaySessions, id⟩ = some session →
    store.row ⟨.grants, session.grantId⟩ = some grant → grant.environmentId = environmentId →
    grant.environmentRevision.get < revision.get → session.state ≠ .active

-- Grants Keep Their Environment

variable {committed snapshot written : AccessStore} {statement : AccessStep} {l' : AccessLocals}

section

variable {tx other committer : AccessTransaction}

/- A written grant is of the committed one's environment. -/
def GrantsKept (committed : AccessStore) (tx : AccessTransaction) : Prop :=
  ∀ id (row old : AccessGrantRow), tx.writes.row ⟨.grants, id⟩ = some row →
    committed.row ⟨.grants, id⟩ = some old →
    row.environmentId = old.environmentId ∧ row.environmentRevision = old.environmentRevision

theorem GrantsKept.finished (hKept : GrantsKept committed tx)
    (hCommand : accessCommand tx.locals = .execute statement)
    (hRun : tx.Runs statement committed snapshot l' written) :
    GrantsKept committed (tx.after hRun) := by
  intro id row old hRow hOld
  rcases Store.overlay_cases hRow with hWritten | ⟨_, hRow⟩
  · have hChange := grant_changes hCommand hRun hWritten
    rcases hChange.scope with hNone | ⟨seen, hSeen, hEnvironment, hRevision⟩
    · -- a new grant has no committed row
      cases (hRun.not_committed hWritten hNone).symm.trans hOld
    · rw [hEnvironment, hRevision]
      rcases hRun.own_or_committed hWritten hSeen with hOwn | hCommitted
      · exact hKept id seen old hOwn hOld
      · cases hOld.symm.trans hCommitted
        exact ⟨rfl, rfl⟩
  · exact hKept id row old hRow hOld

theorem GrantsKept.stable (hKept : GrantsKept committed tx)
    (hCompatible : committer.locks.Compatible tx.locks) :
    GrantsKept (committer.writes.overlay committed) tx := by
  intro id row old hRow hOld
  have hWrites : tx.locks.Writes ⟨.grants, id⟩ := by
    apply tx.covered
    rw [hRow]
    exact some_ne_none row
  rw [Transaction.overlay_row_of_protects hCompatible hWrites.protects] at hOld
  exact hKept id row old hRow hOld

theorem grants_kept (ok : AccessSystem → Action AccessLocals → Prop) :
    accessProtocol.Maintains ok (fun _ => True) GrantsKept (fun _ _ => True) where
  begin := by
    rintro s l _ _ _ id row old ⟨⟩
  start := by
    intro s i tx statement hSound _ hRunning _ _
    have hKept : GrantsKept s.committed tx := hSound.each hRunning
    exact hKept
  finish := by
    intro committed tx statement snapshot l written _ hKept hCommand _ hRun
    exact hKept.finished hCommand hRun
  stable := by
    intro committed tx other _ _ hKept _ hCompatible _
    exact hKept.stable hCompatible

end

-- Revocations In Progress

/- The grants are revoked and their sessions remain. -/
def AccessLocals.revoked : AccessLocals → Bool
| .terminateGatewaySessions _ _ _
| .terminateConsoleSessions _ _ _
| .selectMaximumRevision _ | .finished _ => true
| _ => false

theorem revoked_next {l l' : AccessLocals} (hNext : Successor l l') (hRevoked : l.revoked = true) :
    l'.revoked = true := by
  cases hNext <;>
    first
    | rfl
    | cases hRevoked

theorem writes_of_revoked {l : AccessLocals} (hRevoked : l.revoked = true) :
    l.writes ≠ some .grants := by
  cases l <;>
    first
    | simp [AccessLocals.writes]; done
    | cases hRevoked

/- The UPDATE of the grants is next, or it is done. -/
inductive Exchange.Sweeping (exchange : Exchange) (committed : AccessStore)
    (tx : AccessTransaction) : Prop where
| waiting (hLocals : tx.locals = .revokeEnvironmentGrants exchange.environmentId) (hSeen :
      ∀ snapshot, tx.snapshot = some snapshot → Seen committed tx snapshot .grants
        exchange.Exposed) :
    Sweeping exchange committed tx
| swept (hRevoked : tx.locals.revoked = true) (hSwept :
      Swept committed tx .grants exchange.Exposed) :
    Sweeping exchange committed tx

def Exchange.Achieved (committed : AccessStore) (tx : AccessTransaction) : Prop :=
  match tx.status with
  | .running => Closed tx .grants exchange.Exposed ∧ exchange.Sweeping committed tx
  | .committed =>
    exchange.begun tx = true ∧ ∀ id (grant : AccessGrantRow),
      committed.row ⟨.grants, id⟩ = some grant → ¬exchange.Exposed grant
  | .aborted => True

def Exchange.Kept (s : AccessSystem) : Prop :=
  ∃ tx, s.transactions[exchange.transaction]? = some tx ∧ exchange.Achieved s.committed tx

variable {exchange : Exchange}

section

variable {tx committer : AccessTransaction}

theorem begun_of_revoked (hRevoked : tx.locals.revoked = true) : exchange.begun tx = true := by
  unfold begun
  cases hLocals : tx.locals with
  | revokeEnvironmentGrants environmentId =>
    rw [hLocals] at hRevoked
    cases hRevoked
  | _ => simp

theorem not_exposed_of_revoked {grant revoked : AccessGrantRow}
    (hMove : grant.moveTo .revoked = some revoked) : ¬exchange.Exposed revoked := by
  intro hExposed
  cases hExposed.2.2.symm.trans ((AccessGrantRow.moveTo_eq_some hMove).1)

/- One statement of the revocation. -/
theorem Exchange.Sweeping.finished (hClosed : Closed tx .grants exchange.Exposed)
    (hSweeping : exchange.Sweeping committed tx)
    (hCommand : accessCommand tx.locals = .execute statement)
    (hSnapshot : tx.snapshot = some snapshot)
    (hRun : tx.Runs statement committed snapshot l' written) :
    Closed (tx.after hRun) .grants exchange.Exposed ∧
      exchange.Sweeping committed (tx.after hRun) := by
  have hNext := successor_of_run hCommand hRun
  cases hSweeping with
  | waiting hLocals hSeen =>
    have hStatement : statement = revokeEnvironmentGrants exchange.environmentId := by
      rw [hLocals] at hCommand
      exact (Command.execute.inj hCommand).symm
    rw [hLocals] at hNext
    refine ⟨?_, .swept ?_ ?_⟩
    · -- the revocation itself writes no exposed grant
      intro id row hRow
      rcases Store.overlay_cases hRow with hWritten | ⟨_, hRow⟩
      · subst hStatement
        rcases Statement.updateTable_row hRun hWritten with ⟨_, _, _, hMove⟩
        exact not_exposed_of_revoked hMove
      · exact hClosed id row hRow
    · cases hNext <;> rfl
    · -- the UPDATE reaches every grant that is exposed
      refine swept_of_update hStatement ?_ ?_ (hSeen snapshot hSnapshot) hClosed hRun
      · intro id grant hExposed
        have hLive : grant.state.live = true := by
          rw [hExposed.2.2]
          rfl
        exact decide_eq_true ⟨hExposed.1, hLive⟩
      · intro grant revoked hMove
        exact not_exposed_of_revoked hMove
  | swept hRevoked hSwept =>
    have hNone : ∀ id, written.row ⟨.grants, id⟩ = none := by
      intro id
      exact row_of_other_table hCommand hRun (writes_of_revoked hRevoked)
    constructor
    · intro id row hRow
      exact hClosed id row ((Store.overlay_row_of_none (hNone id)).symm.trans hRow)
    · refine .swept (revoked_next hNext hRevoked) ?_
      refine hSwept.finished ?_ _
      intro id row old hRow
      cases (hNone id).symm.trans hRow

/- Others do not expose a grant when none becomes active. -/
theorem opensNone_of_quiet (hKept : GrantsKept committed committer)
    (hQuiet : ∀ grant ∈ activatedGrants committed committer, ¬exchange.Exposed grant) :
    OpensNone committed committer .grants exchange.Exposed := by
  intro id row hRow hExposed
  by_contra hNone
  have hActivated : row ∈ activatedGrants committed committer := by
    refine Store.mem_rows.mpr ⟨id, row, hRow, ?_⟩
    rw [if_pos]
    refine ⟨hExposed.2.2, ?_⟩
    rw [all_eq_true]
    intro old hOld
    apply decide_eq_true
    intro hActive
    -- the grant was active, and of the same environment
    rcases hKept id row old hRow hOld with ⟨hEnvironment, hRevision⟩
    refine hNone ⟨old, hOld, ?_, ?_, hActive⟩
    · rw [← hEnvironment]
      exact hExposed.1
    · rw [← hRevision]
      exact hExposed.2.1
  exact hQuiet row hActivated hExposed

/- The commit of another transaction. -/
theorem Exchange.Achieved.stable (hAchieved : exchange.Achieved committed tx)
    (hOpens : exchange.begun tx = true → OpensNone committed committer .grants exchange.Exposed) :
    exchange.Achieved (committer.writes.overlay committed) tx := by
  unfold Achieved at hAchieved ⊢
  cases hStatus : tx.status with
  | running =>
    rw [hStatus] at hAchieved
    rcases hAchieved with ⟨hClosed, hSweeping⟩
    refine ⟨hClosed, ?_⟩
    cases hSweeping with
    | waiting hLocals hSeen =>
      refine .waiting hLocals ?_
      intro snapshot hSnapshot
      have hBegun : exchange.begun tx = true := by
        unfold begun
        rw [hSnapshot]
        simp
      exact (hSeen snapshot hSnapshot).stable (hOpens hBegun)
    | swept hRevoked hSwept =>
      exact .swept hRevoked (hSwept.stable (hOpens (begun_of_revoked hRevoked)))
  | committed =>
    rw [hStatus] at hAchieved
    rcases hAchieved with ⟨hBegun, hNone⟩
    refine ⟨hBegun, ?_⟩
    intro id grant hGrant hExposed
    rcases (hOpens hBegun).before hGrant hExposed with ⟨old, hOld, hOldExposed⟩
    exact hNone id old hOld hOldExposed
  | aborted => trivial

/- The commit of the revocation. -/
theorem Exchange.Achieved.publish (hRunning : tx.status = .running)
    (hAchieved : exchange.Achieved committed tx) (hCommand : accessCommand tx.locals = .commit) :
    exchange.Achieved (tx.writes.overlay committed) (tx.ended .committed) := by
  unfold Achieved at hAchieved
  rw [hRunning] at hAchieved
  rcases hAchieved with ⟨hClosed, hSweeping⟩
  cases hSweeping with
  | waiting hLocals _ =>
    rw [hLocals] at hCommand
    cases hCommand
  | swept hRevoked hSwept =>
    refine ⟨begun_of_revoked hRevoked, ?_⟩
    intro id grant hGrant hExposed
    rcases Store.overlay_cases hGrant with hWritten | ⟨hWritten, hGrant⟩
    · exact hClosed id grant hWritten hExposed
    · rcases hSwept id grant hGrant hExposed with ⟨row, hRow, _⟩
      cases hWritten.symm.trans hRow

end

-- Exchanges Over Runs

section

variable {s s' : AccessSystem} {action : Action AccessLocals} {tx : AccessTransaction}

/- Another transaction takes a step without a commit. -/
theorem Exchange.Kept.replace_of_ne {i : Nat} (hKept : exchange.Kept s)
    (hNe : i ≠ exchange.transaction) : exchange.Kept (s.replace i tx) := by
  rcases hKept with ⟨revocation, hGet, hAchieved⟩
  refine ⟨revocation, ?_, hAchieved⟩
  simp only [replace]
  rwa [List.getElem?_set_ne hNe]

/- The revocation takes a step without a commit. -/
theorem Exchange.Kept.replace_self {tx' : AccessTransaction}
    (hRunning : s.running exchange.transaction = some tx)
    (hAchieved : exchange.Achieved s.committed tx') :
    exchange.Kept (s.replace exchange.transaction tx') := by
  have hGet := (running_eq_some.mp hRunning).1
  rcases List.getElem?_eq_some_iff.mp hGet with ⟨hBound, _⟩
  refine ⟨tx', ?_, hAchieved⟩
  simp only [replace]
  rw [List.getElem?_set_self hBound]

theorem Exchange.Achieved.of_running {committed : AccessStore} (hStatus : tx.status = .running)
    (hClosed : Closed tx .grants exchange.Exposed) (hSweeping : exchange.Sweeping committed tx) :
    exchange.Achieved committed tx := by
  unfold Achieved
  rw [hStatus]
  exact ⟨hClosed, hSweeping⟩

section

variable (hKept : exchange.Kept s) (hRunning : s.running exchange.transaction = some tx)

include hKept hRunning

theorem Exchange.Kept.achieved : tx.status = .running ∧ exchange.Achieved s.committed tx := by
  rcases running_eq_some.mp hRunning with ⟨hGet, hStatus⟩
  rcases hKept with ⟨revocation, hFound, hAchieved⟩
  cases hGet.symm.trans hFound
  exact ⟨hStatus, hAchieved⟩

/- The same, without the match on the status. -/
theorem Exchange.Kept.sweeping :
    Closed tx .grants exchange.Exposed ∧ exchange.Sweeping s.committed tx := by
  rcases hKept.achieved hRunning with ⟨hStatus, hAchieved⟩
  unfold Achieved at hAchieved
  rwa [hStatus] at hAchieved

/- The snapshot of the revocation has all exposed grants. -/
theorem Exchange.Kept.started : exchange.Achieved s.committed (tx.started s.committed) := by
  have hStatus := (hKept.achieved hRunning).1
  rcases hKept.sweeping hRunning with ⟨hClosed, hSweeping⟩
  refine .of_running hStatus hClosed ?_
  cases hSweeping with
  | waiting hLocals _ =>
    refine .waiting hLocals ?_
    rintro snapshot ⟨⟩
    exact seen_of_start hClosed
  | swept hRevoked hSwept => exact .swept hRevoked hSwept

end

/- One step of the database. -/
theorem Exchange.Kept.step (hKept : exchange.Kept s)
    (hSound : Protocol.Sound (fun _ => True) GrantsKept (fun _ _ => True) s)
    (hQuiet : ∀ i, action = .commit i → ∀ tx ∈ s.running i, ∀ revocation ∈
      s.transactions[exchange.transaction]?, exchange.begun revocation = true →
      ∀ grant ∈ activatedGrants s.committed tx, ¬exchange.Exposed grant)
    (hStep : accessProtocol.step s action = some s') : exchange.Kept s' := by
  cases Protocol.step_cases hStep with
  | began hEntry =>
    rcases hKept with ⟨tx, hGet, hAchieved⟩
    rcases List.getElem?_eq_some_iff.mp hGet with ⟨hBound, _⟩
    refine ⟨tx, ?_, hAchieved⟩
    rwa [List.getElem?_append_left hBound]
  | @started i tx statement hRunning hCommand hIdle =>
    by_cases hSelf : i = exchange.transaction
    · subst hSelf
      exact .replace_self hRunning (hKept.started hRunning)
    · exact hKept.replace_of_ne hSelf
  | @finished i tx statement snapshot l written hRunning hCommand hSnapshot hFree hRun =>
    by_cases hSelf : i = exchange.transaction
    · subst hSelf
      have hStatus := (hKept.achieved hRunning).1
      rcases hKept.sweeping hRunning with ⟨hClosed, hSweeping⟩
      rcases hSweeping.finished hClosed hCommand hSnapshot hRun with ⟨hClosed', hSweeping'⟩
      exact .replace_self hRunning (.of_running hStatus hClosed' hSweeping')
    · exact hKept.replace_of_ne hSelf
  | @committed i tx hRunning hCommand =>
    by_cases hSelf : i = exchange.transaction
    · subst hSelf
      rcases hKept.achieved hRunning with ⟨hStatus, hAchieved⟩
      have hGet := (running_eq_some.mp hRunning).1
      rcases List.getElem?_eq_some_iff.mp hGet with ⟨hBound, _⟩
      refine ⟨_, ?_, hAchieved.publish hStatus hCommand⟩
      simp only [publish]
      rw [List.getElem?_set_self hBound]
    · rcases hKept with ⟨revocation, hGet, hAchieved⟩
      refine ⟨revocation, ?_, hAchieved.stable ?_⟩
      · simp only [publish]
        rwa [List.getElem?_set_ne hSelf]
      · intro hBegun
        exact opensNone_of_quiet (hSound.each hRunning)
          (hQuiet i rfl tx hRunning revocation hGet hBegun)
  | @aborted i tx _ hRunning =>
    by_cases hSelf : i = exchange.transaction
    · subst hSelf
      exact .replace_self hRunning trivial
    · exact hKept.replace_of_ne hSelf

end

section

variable [DecidableEq δ] {hash : RequestDocument → δ} {s s' : JointState δ} {action : JointAction}

inductive JointStep (hash : RequestDocument → δ) (s : JointState δ) :
    JointAction → JointState δ → Prop where
| environment {action : ServiceAction} {environment : ServiceState δ}
    (hOther : action.revokesFirst = false)
    (hStep : s.environment.step hash action = some environment) :
    JointStep hash s (.environment action) { s with environment }
| access {action : Action AccessLocals} {access : AccessSystem}
    (hAnswered : s.answered action = true)
    (hStep : accessProtocol.step s.access action = some access) :
    JointStep hash s (.access action) { s with access }
| resolved {grantId : AccessGrantId} {now : UtcTimestamp} {answers : List EligibilityAnswer} :
    JointStep hash s (.resolve grantId now) { s with answers }
| asked {environmentId : EnvironmentId} {env : EnvironmentInstance} {access : AccessSystem}
    (hEnv : s.environment.tables.instances environmentId = some env)
    (hStep : accessProtocol.step s.access (.begin (.revokeEnvironmentGrants environmentId)) =
      some access) :
    JointStep hash s (.revoke environmentId)
      { s with
        access
        exchanges :=
          { environmentId, environmentRevision := env.revision,
            transaction := s.access.transactions.length } ::
          s.exchanges }
| givenUp (index : Nat) : JointStep hash s (.giveUp index)
      { s with exchanges := s.exchanges.eraseIdx index }
| mutated {index : Nat} {idempotencyKey : String} {command : EnvironmentLifecycleCommand}
    {leaseAuthorization : Option EnvironmentLeaseAuthorization} {courseId : Option CourseId}
    {operationId : OperationId} {exchange : Exchange} {revision : Revision}
    {environment : ServiceState δ} (hExchange : s.exchanges[index]? = some exchange)
    (hReply : exchange.reply s.access = some revision)
    (hCarries : exchange.Carries revision command)
    (hStep : s.environment.step hash (.command idempotencyKey command none
      leaseAuthorization courseId operationId) =
      some environment) :
    JointStep hash s (.mutate index idempotencyKey command
      leaseAuthorization courseId operationId)
      { s with environment, exchanges := s.exchanges.eraseIdx index }

theorem JointState.step_cases (hStep : s.step hash action = some s') :
    JointStep hash s action s' := by
  cases action with
  | environment action =>
    simp only [step] at hStep
    split at hStep
    · cases hStep
    · rename_i hOther
      rcases map_eq_some_iff.mp hStep with ⟨environment, hService, rfl⟩
      exact .environment (Bool.eq_false_iff.mpr hOther) hService
  | access action =>
    simp only [step] at hStep
    split at hStep
    · rename_i hAnswered
      rcases map_eq_some_iff.mp hStep with ⟨access, hDatabase, rfl⟩
      exact .access hAnswered hDatabase
    · cases hStep
  | resolve grantId now =>
    simp only [step, resolve, bind_eq_bind, bind_eq_some_iff] at hStep
    rcases hStep with ⟨grant, _, env, _, hAnswer⟩
    split at hAnswer
    · cases hAnswer
    · cases hAnswer
      exact .resolved
  | revoke environmentId =>
    simp only [step, revoke, bind_eq_bind, bind_eq_some_iff] at hStep
    rcases hStep with ⟨env, hEnv, access, hBegin, ⟨⟩⟩
    exact .asked hEnv hBegin
  | giveUp index =>
    cases hStep
    exact .givenUp index
  | mutate index idempotencyKey command leaseAuthorization courseId operationId =>
    simp only [step, bind_eq_bind, bind_eq_some_iff] at hStep
    rcases hStep with ⟨exchange, hExchange, revision, hReply, hCommit⟩
    split at hCommit
    · rename_i hCarries
      rcases map_eq_some_iff.mp hCommit with ⟨environment, hService, rfl⟩
      exact .mutated hExchange hReply hCarries hService
    · cases hCommit

/- The database of Access only takes its own steps. -/
theorem access_reachable {ok : JointState δ → JointAction → Prop}
    (hRun : (jointServices hash).Run ok s) : (accessDatabase GatewaySafe).Reachable s.access := by
  induction hRun with
  | start hInit =>
    rcases hInit with ⟨_, hSafe, hNone, _⟩
    exact .start ⟨hSafe, hNone⟩
  | next _ _ hStep ih =>
    cases JointState.step_cases hStep with
    | access _ hDatabase => exact .next ih trivial hDatabase
    | asked _ hDatabase =>
      exact .next (a := .begin (.revokeEnvironmentGrants _)) ih trivial hDatabase
    | _ => exact ih

/- While no grant becomes active too late, every exchange that is answered has ended all grants it
  is about. -/
theorem exchanges_swept (hRun : (jointServices hash).Run noLateActivation s) :
    ∀ exchange ∈ s.exchanges, exchange.Kept s.access := by
  induction hRun with
  | start hInit =>
    rcases hInit with ⟨_, _, _, hNone, _⟩
    rw [hNone]
    rintro exchange ⟨⟩
  | @next s s' action hRun hOk hStep ih =>
    have hSound := (grants_kept _).run (fun _ _ => trivial) (access_reachable hRun)
    cases JointState.step_cases hStep with
    | environment _ _ => exact ih
    | access _ hDatabase =>
      intro exchange hMember
      refine (ih exchange hMember).step hSound ?_ hDatabase
      intro i hCommit tx hRunning
      subst hCommit
      exact hOk tx hRunning exchange hMember
    | resolved => exact ih
    | asked _ hDatabase =>
      intro exchange hMember
      rcases List.mem_cons.mp hMember with hNew | hOld
      · subst hNew
        cases hDatabase
        refine ⟨.fresh (.revokeEnvironmentGrants _), List.getElem?_concat_length .., .of_running rfl
          ?_ ?_⟩
        · nofun
        · refine .waiting rfl ?_
          rintro snapshot ⟨⟩
      · refine (ih exchange hOld).step hSound ?_ hDatabase
        rintro i ⟨⟩
    | givenUp index | mutated _ _ _ _ =>
      intro exchange hMember
      exact ih exchange (List.mem_of_mem_eraseIdx hMember)

/- The reply to an exchange comes from a commit. -/
theorem not_exposed_of_reply {access : AccessSystem} {exchange : Exchange} {revision : Revision}
    {id : AccessGrantId} {grant : AccessGrantRow} (hKept : exchange.Kept access)
    (hReply : exchange.reply access = some revision)
    (hGrant : access.committed.row ⟨.grants, id⟩ = some grant) : ¬exchange.Exposed grant := by
  rcases hKept with ⟨tx, hGet, hAchieved⟩
  unfold reply at hReply
  rw [hGet] at hReply
  simp only at hReply
  split at hReply
  · rename_i hStatus _
    unfold Achieved at hAchieved
    rw [hStatus] at hAchieved
    exact hAchieved.2 id grant hGrant
  · cases hReply

theorem revision_of_command {idempotencyKey : String} {command : EnvironmentLifecycleCommand}
    {leaseAuthorization : Option EnvironmentLeaseAuthorization} {courseId : Option CourseId}
    {operationId : OperationId} {service service' : ServiceState δ} (hKind : command.kind ≠ .create)
    (hNew : service.tables.ledger (operationName command.kind, idempotencyKey) = none)
    (hStep : service.step hash (.command idempotencyKey command none
      leaseAuthorization courseId operationId) = some service') :
    ∃ env, service'.tables.instances command.environmentId = some env ∧ env.revision.get =
      command.expectedRevision.get + 1 := by
  simp only [ServiceState.step] at hStep
  split at hStep
  · rename_i accepted tables hAccept
    cases hStep
    rcases (acceptCommandInTransaction_eq_ok hKind).mp hAccept with ⟨_, _, ⟨hStored, _⟩ |
        ⟨_, current, planned, fenced, hApplied, _, _, hTables⟩⟩
    · cases hNew.symm.trans hStored
    · rw [hTables]
      exact ⟨fenced, commandTables_revision hKind hApplied⟩
  · cases hStep

/- A command that revokes first finds the grants of older revisions ended when it commits, if no
  such grant becomes active after the revocation has looked for them. -/
theorem revoked_before_mutation {index : Nat} {idempotencyKey : String}
    {command : EnvironmentLifecycleCommand}
    {leaseAuthorization : Option EnvironmentLeaseAuthorization} {courseId : Option CourseId}
    {operationId : OperationId} (hRun : (jointServices hash).Run noLateActivation s)
    (hNew : s.environment.tables.ledger (operationName command.kind, idempotencyKey) = none)
    (hStep : (jointServices hash).step s (.mutate index idempotencyKey command
      leaseAuthorization courseId operationId) = some s') :
    ∃ env, s'.environment.tables.instances command.environmentId = some env ∧
      AccessRevoked s'.access.committed command.environmentId env.revision := by
  have hSafe : GatewaySafe s.access.committed := ((gateway_maintains _).run (fun _ hSafe => hSafe)
    (access_reachable hRun)).store
  have hJoint : JointStep hash s (.mutate index idempotencyKey command
      leaseAuthorization courseId operationId) s' :=
    JointState.step_cases hStep
  cases hJoint with
  | mutated hExchange hReply hCarries hCommit =>
    rename_i exchange revision environment
    rcases hCarries with ⟨hFirst, hId, hExpected, _⟩
    have hKind : command.kind ≠ .create := by
      intro hCreate
      rw [hCreate] at hFirst
      cases hFirst
    rcases revision_of_command hKind hNew hCommit with ⟨env, hEnv, hRevision⟩
    have hKept := exchanges_swept hRun exchange (List.mem_of_getElem? hExchange)
    have hOlder : ∀ id (grant : AccessGrantRow), s.access.committed.row ⟨.grants, id⟩ = some grant →
        grant.environmentId = command.environmentId →
        grant.environmentRevision.get < env.revision.get → grant.state ≠ .active := by
      intro id grant hGrant hSame hBefore hActive
      refine not_exposed_of_reply hKept hReply hGrant ⟨hSame.trans hId, ?_, hActive⟩
      rw [← hExpected]
      omega
    refine ⟨env, hEnv, hOlder, ?_⟩
    intro id session grant hSession hGrant hSame hBefore hActive
    -- an active session has an active grant
    rcases (hSafe id session hSession hActive).1 with ⟨found, hFound, hFoundActive⟩
    cases hGrant.symm.trans hFound
    exact hOlder session.grantId grant hGrant hSame hBefore hFoundActive

end

-- A Sample Of Both Services

namespace JointSample

def now : OffsetDateTime := 8000000000
def later : OffsetDateTime := 900000000000

def endpoint : EnvironmentEndpoint where
  id := ⟨9⟩
  protocol := .ssh
  revision := Sample.revision 5
  health := .healthy
  observedAt := 7000

/- A course member with a key and an authorization. -/
def store : AccessStore :=
  Store.overlay (.single ⟨.memberships, (Sample.courseId, Sample.actorId, .student)⟩
    { courseId := Sample.courseId, actorId := Sample.actorId, role := .student, state := .active,
      expiresAt := none })
    (Store.overlay (.single ⟨.sshKeys, ⟨6⟩⟩
      { actorId := Sample.actorId, revision := Revision.one, revokedAt := none })
      (.single ⟨.authorizations, 7⟩ { AccessSample.authorization with actorId := Sample.actorId }))

abbrev services : Machine (JointState RequestDocument) JointAction := jointServices id

def start : JointState RequestDocument where
  environment := Sample.start
  access := { committed := store, transactions := [] }
  exchanges := []
  answers := []

def provisioned : List JointAction :=
  ([Sample.create] ++ Sample.pass 1000 ⟨1⟩ (Sample.progress .validating) ++
    Sample.pass 3000 ⟨1⟩ (Sample.progress .building) ++
    Sample.pass 5000 ⟨1⟩ (Sample.progress .provisioning) ++
    Sample.pass 7000 ⟨1⟩ (.answered (.ok
      { nextState := .ready, endpoints := [endpoint], cleanupEvidence := none
        operationComplete := true })) ++
    [ServiceAction.tick 8000]).map .environment

variable (i : Nat)

def transaction (l : AccessLocals) (count : Nat) : List JointAction :=
  (Action.begin l :: AccessSample.statements i count ++ [Action.commit i]).map .access

def lease : ActivationLease where
  grantId := AccessSample.grantId
  token := 1
  time := now

/- A grant is requested and its activation is leased. -/
def requested : List JointAction :=
  transaction i (.createAccessGrant
    { grantId := AccessSample.grantId, actorId := Sample.actorId
      request :=
        { courseId := Sample.courseId, environmentId := Sample.environmentId,
          environmentRevision := Sample.revision 5, endpointIds := [⟨9⟩], expiresAt := none }
      role := .student, now, expiry := later }) 2 ++
    transaction (i + 1) (.leaseActivationJob lease 60) 1

def activated : List JointAction :=
  .resolve AccessSample.grantId 8000 :: transaction i (.activateGrant
    { lease, eligibilityExpiresAt := 1000000
      endpoints := [{ id := ⟨5⟩, sshAlias := some AccessSample.serviceAlias, endpoint }], now }) 5

def connected : List JointAction :=
  transaction i (.createGatewaySession
    { AccessSample.gatewayCall with
      eligibility := { eligibilityExpiresAt := 1000000, endpoints := [endpoint] }, now }) 4

def revoked (i count : Nat) : List JointAction :=
  .revoke Sample.environmentId :: (AccessSample.statements i count ++ [Action.commit i]).map .access

variable (revision : Revision)

def stopCommand : EnvironmentLifecycleCommand :=
  { Sample.command .stop (Sample.revision 5) 8000 with accessRevocationRevision := some revision }

/- The environment is stopped. -/
def stop : JointAction :=
  .mutate 0 "key-stop" (stopCommand revision) none (some Sample.courseId) ⟨2⟩

theorem start_initial : services.init start := by
  refine ⟨Sample.start_initial, ?_, rfl, rfl, rfl⟩
  rintro id session ⟨⟩

variable (s : JointState RequestDocument)

/- Nothing is activated while an exchange is open. -/
def onTime : JointAction → Bool
| .access (.commit i) =>
  s.exchanges.isEmpty || (s.access.running i).all (fun tx =>
    (activatedGrants s.access.committed tx).isEmpty)
| _ => true

theorem noLateActivation_of_onTime (action : JointAction) (hOnTime : onTime s action = true) :
    noLateActivation s action := by
  unfold noLateActivation
  split
  · rename_i i
    intro tx hRunning exchange hMember _ _ _ grant hGrant
    simp only [onTime, Bool.or_eq_true, List.isEmpty_iff] at hOnTime
    rcases hOnTime with hNone | hQuiet
    · rw [hNone] at hMember
      cases hMember
    · rw [all_eq_true] at hQuiet
      have hEmpty := List.isEmpty_iff.mp (hQuiet tx hRunning)
      rw [hEmpty] at hGrant
      cases hGrant
  · trivial

end JointSample

open JointSample

/- A grant and a session that the revocation finds are ended before the environment is stopped. -/
theorem revoked_before_mutation_sample : ∃ s s' : JointState RequestDocument,
    services.Run noLateActivation s ∧ services.step s (stop (Sample.revision 3)) = some s' ∧
    AccessSample.grantState s'.access = some .revoked ∧
    AccessSample.gatewayState s'.access = some .terminating ∧
    ∃ env, s'.environment.tables.instances Sample.environmentId = some env ∧
      AccessRevoked s'.access.committed Sample.environmentId env.revision := by
  have hFound : ∃ s, services.Run noLateActivation s ∧
      s.environment.tables.ledger (operationName .stop, "key-stop") = none ∧
      ∃ s', services.step s (stop (Sample.revision 3)) = some s' ∧
        AccessSample.grantState s'.access = some .revoked ∧
        AccessSample.gatewayState s'.access = some .terminating :=
    Machine.exists_run_of_guarded (provisioned ++ requested 0 ++
      activated 2 ++ connected 3 ++ revoked 4 4)
      start_initial noLateActivation_of_onTime (by decide)
  rcases hFound with ⟨s, hRun, hNew, s', hStep, hGrant, hSession⟩
  exact ⟨s, s', hRun, hStep, hGrant, hSession, revoked_before_mutation hRun hNew hStep⟩

/- A grant that is requested after the revocation becomes active, because the environment still has
  its revision. When the environment is stopped, the grant and a gateway session are active. -/
theorem grant_survives_mutation : ∃ s s' : JointState RequestDocument, services.Reachable s ∧
    s.environment.tables.ledger (operationName .stop, "key-stop") = none ∧
    services.step s (stop Revision.one) = some s' ∧
    ∃ (env : EnvironmentInstance) (grant : AccessGrantRow) (session : GatewaySessionRow),
      s'.environment.tables.instances Sample.environmentId = some env ∧
      s'.access.committed.row ⟨.grants, AccessSample.grantId⟩ = some grant ∧
      s'.access.committed.row ⟨.gatewaySessions, AccessSample.gatewaySessionId⟩ = some session ∧
      grant.environmentId = Sample.environmentId ∧
      grant.environmentRevision.get < env.revision.get ∧ grant.state = .active ∧
      session.grantId = AccessSample.grantId ∧ session.state = .active := by
  simp only [exists_and_left]
  exact Machine.exists_reachable (provisioned ++ revoked 0 2 ++
    requested 1 ++ activated 3 ++ connected 4)
    start_initial (by decide)

end LabWeaver
