import LabWeaver.Environment.Service
import Mathlib.Data.Fintype.Basic
import Mathlib.Data.List.Nodup

/-
  This file studies the fence between an operation that is superseded by a cleanup command and its
  successor. The lease of the Provider call that may still be running is carried only by the time
  of the next attempt of the newest operation.

  Main declaration: `claim_after_superseded_leases`.
-/

namespace LabWeaver

open Function List

-- Operation Rows

/- The identifier is the primary key of the rows. -/
def UniqueIds (rows : List OperationRow) : Prop := (rows.map (·.operationId)).Nodup

variable {operationId : OperationId} {f : OperationRow → OperationRow}

section

variable {rows : List OperationRow} {row row' : OperationRow}

theorem UniqueIds.eq_of_id (hUnique : UniqueIds rows) (hRow : row ∈ rows) (hRow' : row' ∈ rows)
    (hId : row.operationId = row'.operationId) : row = row' :=
  inj_on_of_nodup_map hUnique hRow hRow' hId

def KeepsKeys (f : OperationRow → OperationRow) : Prop :=
  ∀ row, (f row).operationId = row.operationId ∧ (f row).environmentId = row.environmentId

theorem mem_mapOperation : row' ∈ mapOperation operationId f rows ↔ ∃ row ∈ rows, row' =
    if row.operationId = operationId then f row
    else row := by
  simp [mapOperation, eq_comm]

theorem UniqueIds.map (hUnique : UniqueIds rows) (hKeys : KeepsKeys f) :
    UniqueIds (mapOperation operationId f rows) := by
  have hSame : (mapOperation operationId f rows).map (·.operationId) =
      rows.map (·.operationId) := by
    simp only [mapOperation, map_map]
    apply map_congr_left
    intro row _
    simp only [comp_apply]
    split
    · exact (hKeys row).1
    · rfl
  unfold UniqueIds
  rwa [hSame]

theorem UniqueIds.findOperation (hUnique : UniqueIds rows) (hRow : row ∈ rows) :
    findOperation rows row.operationId = some row := by
  cases hFind : LabWeaver.findOperation rows row.operationId with
  | none =>
    have hNone := List.find?_eq_none.mp hFind row hRow
    simp at hNone
  | some found =>
    have hMember := mem_of_find?_eq_some hFind
    have hId := List.find?_some hFind
    rw [hUnique.eq_of_id hMember hRow (of_decide_eq_true hId)]

theorem findOperation_some (hFind : findOperation rows operationId = some row) :
    row ∈ rows ∧ row.operationId = operationId := by
  unfold findOperation at hFind
  refine ⟨mem_of_find?_eq_some hFind, ?_⟩
  simpa using List.find?_some hFind

end

-- The Fence

/- The row of the current operation of an environment. An operation that has ended has given its
  lease back. -/
structure CurrentRow (environmentId : EnvironmentId) (env : EnvironmentInstance)
    (rows : List OperationRow) (current : OperationRow) : Prop where
  member : current ∈ rows
  id : current.operationId = env.operation.id
  owner : current.environmentId = environmentId
  active : current.state.active = env.operation.state.active
  released : current.state.active = false → current.lease = none

/- A lease on a superseded row has expired, or ends before the current operation, which nobody has
  claimed yet, can be claimed. -/
def behindFence (clock : UtcTimestamp) (current : OperationRow) (expiresAt : UtcTimestamp) : Prop :=
  expiresAt ≤ clock ∨ current.state.active = true ∧ current.lease = none ∧
    expiresAt ≤ current.nextAttemptAt

structure FencedBy (clock : UtcTimestamp) (environmentId : EnvironmentId)
    (env : EnvironmentInstance) (rows : List OperationRow) (current : OperationRow) : Prop where
  row : CurrentRow environmentId env rows current
  ended : ∀ row ∈ rows, row.environmentId = environmentId → row.operationId ≠ current.operationId →
    row.state.active = false
  behind : ∀ row ∈ rows, row.environmentId = environmentId → row.operationId ≠ current.operationId →
    ∀ lease ∈ row.lease, behindFence clock current lease.expiresAt

def Fenced (clock : UtcTimestamp) (environmentId : EnvironmentId) (env : EnvironmentInstance)
    (rows : List OperationRow) : Prop :=
  ∃ current, FencedBy clock environmentId env rows current

/- The invariant of the operation rows of the service. -/
structure ServiceState.Fenced {δ : Type} (s : ServiceState δ) : Prop where
  unique : UniqueIds s.tables.operations
  owned : ∀ row ∈ s.tables.operations, s.tables.instances row.environmentId ≠ none
  fenced : ∀ environmentId env, s.tables.instances environmentId = some env →
    LabWeaver.Fenced s.clock environmentId env s.tables.operations

section

variable {clock : UtcTimestamp} {environmentId : EnvironmentId} {env env' : EnvironmentInstance}
  {rows rows' : List OperationRow} {current row : OperationRow}

/- Time does not move a lease out from behind the fence. -/
theorem behindFence.later {now expiresAt : UtcTimestamp} (hLater : clock ≤ now)
    (hBehind : behindFence clock current expiresAt) : behindFence now current expiresAt := by
  rcases hBehind with hExpired | hFenced
  · exact .inl (le_trans hExpired hLater)
  · exact .inr hFenced

/- Rows of other environments play no part in the fence. -/
theorem Fenced.congr (hRows : ∀ row, row.environmentId = environmentId → (row ∈ rows' ↔ row ∈ rows))
    (hFenced : Fenced clock environmentId env rows) : Fenced clock environmentId env rows' := by
  rcases hFenced with ⟨current, hCurrent, hEnded, hBehind⟩
  refine ⟨current, ⟨(hRows current hCurrent.owner).mpr hCurrent.member,
    hCurrent.id, hCurrent.owner, hCurrent.active, hCurrent.released⟩, ?_, ?_⟩
  · intro row hRow hOwner
    exact hEnded row ((hRows row hOwner).mp hRow) hOwner
  · intro row hRow hOwner
    exact hBehind row ((hRows row hOwner).mp hRow) hOwner

section

variable (hFenced : FencedBy clock environmentId env rows current)

include hFenced

theorem FencedBy.eq_current (hUnique : UniqueIds rows) (hRow : row ∈ rows)
    (hOwner : row.environmentId = environmentId) (hActive : row.state.active = true) :
    row = current := by
  by_contra hNe
  have hId : row.operationId ≠ current.operationId := fun hId =>
    hNe (hUnique.eq_of_id hRow hFenced.row.member hId)
  cases hActive.symm.trans (hFenced.ended row hRow hOwner hId)

/- Once the current operation is leased or can be claimed, the others are over. -/
theorem FencedBy.expired (hTaken : current.lease ≠ none ∨ current.nextAttemptAt ≤ clock) :
    ∀ row ∈ rows, row.environmentId = environmentId → row.operationId ≠ current.operationId →
      ∀ lease ∈ row.lease, lease.expiresAt ≤ clock := by
  intro row hRow hOwner hId lease hLease
  rcases hFenced.behind row hRow hOwner hId lease hLease with hExpired | ⟨_, hNone, hNext⟩
  · exact hExpired
  · rcases hTaken with hLeased | hDue
    · exact absurd hNone hLeased
    · exact le_trans hNext hDue

/- Updating the current row keeps the fence once it is leased or can be claimed. -/
theorem FencedBy.updateCurrent (hKeys : KeepsKeys f)
    (hOperation : env'.operation.id = env.operation.id)
    (hActive : (f current).state.active = env'.operation.state.active)
    (hReleased : (f current).state.active = false → (f current).lease = none)
    (hTaken : current.lease ≠ none ∨ current.nextAttemptAt ≤ clock) :
    Fenced clock environmentId env' (mapOperation current.operationId f rows) := by
  have hOther : ∀ row ∈ mapOperation current.operationId f rows,
      row.operationId ≠ (f current).operationId →
      row ∈ rows ∧ row.operationId ≠ current.operationId := by
    intro row hRow hId
    rw [(hKeys current).1] at hId
    rcases mem_mapOperation.mp hRow with ⟨old, hOld, hEq⟩
    split at hEq
    · rename_i hSame
      rw [hEq, (hKeys old).1] at hId
      exact absurd hSame hId
    · rw [hEq]
      rw [hEq] at hId
      exact ⟨hOld, hId⟩
  refine ⟨f current, ⟨?_, ?_, ?_, hActive, hReleased⟩, ?_, ?_⟩
  · refine mem_mapOperation.mpr ⟨current, hFenced.row.member, ?_⟩
    rw [if_pos rfl]
  · rw [(hKeys current).1, hOperation]
    exact hFenced.row.id
  · rw [(hKeys current).2]
    exact hFenced.row.owner
  · intro row hRow hOwner hId
    rcases hOther row hRow hId with ⟨hOld, hNe⟩
    exact hFenced.ended row hOld hOwner hNe
  · intro row hRow hOwner hId lease hLease
    rcases hOther row hRow hId with ⟨hOld, hNe⟩
    exact .inl (hFenced.expired hTaken row hOld hOwner hNe lease hLease)

end

theorem mem_mapOperation_of_ne {other : OperationRow} (hUnique : UniqueIds rows)
    (hKeys : KeepsKeys f) (hRow : row ∈ rows) (hNe : other.environmentId ≠ row.environmentId) :
    other ∈ mapOperation row.operationId f rows ↔ other ∈ rows := by
  rw [mem_mapOperation]
  constructor
  · rintro ⟨old, hOld, hEq⟩
    split at hEq
    · rename_i hSame
      rw [hEq, (hKeys old).2, hUnique.eq_of_id hOld hRow hSame] at hNe
      exact absurd rfl hNe
    · rwa [hEq]
  · intro hMember
    refine ⟨other, hMember, ?_⟩
    rw [if_neg]
    intro hSame
    rw [hUnique.eq_of_id hMember hRow hSame] at hNe
    exact hNe rfl

end

-- Every Transaction Keeps The Fence

/- A cleanup command that supersedes an operation without a lease finds the leases of the older
  operations expired, or ending before its own first attempt. -/
def fencedSupersession {δ : Type} (s : ServiceState δ) (action : ServiceAction) : Prop :=
  match action with
  | .command idempotencyKey command _ _ _ _ =>
    s.tables.ledger (operationName command.kind, idempotencyKey) = none →
      ∀ env ∈ s.tables.instances command.environmentId, env.operation.state.active = true →
      supersededLease s.tables env command.kind = none →
      ∀ row ∈ s.tables.operations, row.environmentId = command.environmentId →
        row.operationId ≠ env.operation.id →
        ∀ lease ∈ row.lease, lease.expiresAt ≤ s.clock ∨ lease.expiresAt ≤ command.acceptedAt
  | _ => True

instance {δ : Type} (s : ServiceState δ) (action : ServiceAction) :
    Decidable (fencedSupersession s action) := by
  unfold fencedSupersession
  rcases action <;> infer_instance

section

variable {δ : Type} {hash : RequestDocument → δ} {s s' : ServiceState δ} {action : ServiceAction}
  {row : OperationRow}

theorem ServiceState.Fenced.activeRow (hFenced : s.Fenced) (hRow : row ∈ s.tables.operations)
    (hActive : row.state.active = true) :
    ∃ env, s.tables.instances row.environmentId = some env ∧ FencedBy s.clock row.environmentId env
      s.tables.operations row := by
  rcases Option.ne_none_iff_exists'.mp (hFenced.owned row hRow) with ⟨env, hEnv⟩
  rcases hFenced.fenced _ env hEnv with ⟨current, hBy⟩
  have hEq := hBy.eq_current hFenced.unique hRow rfl hActive
  rw [← hEq] at hBy
  exact ⟨env, hEnv, hBy⟩

variable {env : EnvironmentInstance}

/- The fences of the other environments stay if their rows do. -/
private theorem ServiceState.Fenced.replace {environmentId : EnvironmentId} (hFenced : s.Fenced)
    (hUnique : UniqueIds s'.tables.operations) (hClock : s'.clock = s.clock)
    (hRows : ∀ row, row.environmentId ≠ environmentId →
      (row ∈ s'.tables.operations ↔ row ∈ s.tables.operations))
    (hOthers : ∀ other, other ≠ environmentId →
      s'.tables.instances other = s.tables.instances other)
    (hOwn : s'.tables.instances environmentId = some env)
    (hBy : LabWeaver.Fenced s.clock environmentId env s'.tables.operations) : s'.Fenced := by
  refine ⟨hUnique, ?_, ?_⟩
  · intro row hRow
    by_cases hSame : row.environmentId = environmentId
    · rw [hSame, hOwn]
      exact Option.some_ne_none env
    · rw [hOthers _ hSame]
      exact hFenced.owned row ((hRows row hSame).mp hRow)
  · intro other stored hStored
    rw [hClock]
    by_cases hSame : other = environmentId
    · subst hSame
      cases hOwn.symm.trans hStored
      exact hBy
    · rw [hOthers other hSame] at hStored
      refine (hFenced.fenced other stored hStored).congr ?_
      rintro row rfl
      exact hRows row hSame

/- Replacing the current row of one environment, and the aggregate with it, keeps the fence. -/
private theorem replaceCurrent {f : OperationRow → OperationRow} {env' : EnvironmentInstance}
    (hFenced : s.Fenced) (hKeys : KeepsKeys f)
    (hBy : FencedBy s.clock row.environmentId env s.tables.operations row)
    (hClock : s'.clock = s.clock)
    (hRows : s'.tables.operations = mapOperation row.operationId f s.tables.operations)
    (hOthers : ∀ environmentId, environmentId ≠ row.environmentId →
      s'.tables.instances environmentId = s.tables.instances environmentId)
    (hOwn : s'.tables.instances row.environmentId = some env')
    (hOperation : env'.operation.id = env.operation.id)
    (hActive : (f row).state.active = env'.operation.state.active)
    (hReleased : (f row).state.active = false → (f row).lease = none)
    (hTaken : row.lease ≠ none ∨ row.nextAttemptAt ≤ s.clock) : s'.Fenced := by
  refine hFenced.replace ?_ hClock ?_ hOthers hOwn ?_
  · rw [hRows]
    exact hFenced.unique.map hKeys
  · intro other hNe
    rw [hRows]
    exact mem_mapOperation_of_ne hFenced.unique hKeys hBy.row.member hNe
  · rw [hRows]
    exact hBy.updateCurrent hKeys hOperation hActive hReleased hTaken

variable {startedAt : UtcTimestamp} {lease : LeasedEnvironment} {leases : List LeasedEnvironment}
  {expiresAt : UtcTimestamp}

private theorem fenced_claimed {leaseDuration : Nat} {candidate : OperationId} (hFenced : s.Fenced)
    (hStarted : startedAt ≤ s.clock)
    (hGranted : ClaimGranted s.tables startedAt leaseDuration candidate row lease) :
    ServiceState.Fenced
      { s with
        tables :=
          { s.tables with
            operations := mapOperation candidate (claimedRow lease expiresAt) s.tables.operations }
        leases } := by
  rcases findOperation_some hGranted.found with ⟨hRow, rfl⟩
  rcases hFenced.activeRow hRow hGranted.due.1 with ⟨env, hEnv, hBy⟩
  refine replaceCurrent hFenced
    (show KeepsKeys (claimedRow lease expiresAt) from fun _ => ⟨rfl, rfl⟩)
    hBy rfl rfl (fun _ _ => rfl) hEnv rfl ?_ ?_ ?_
  · rw [← hBy.row.active]
    exact hGranted.due.1.symm
  · rintro ⟨⟩
  · exact .inr (le_trans hGranted.due.2.1 hStarted)

private theorem fenced_renewed {leaseDuration : Nat} (hFenced : s.Fenced)
    (hRenewed : LeaseRenewed s.tables startedAt leaseDuration lease row) :
    ServiceState.Fenced
      { s with
        tables :=
          { s.tables with
            operations := mapOperation lease.env.operation.id (leasedRow lease expiresAt)
              s.tables.operations } } := by
  rcases findOperation_some hRenewed.found with ⟨hRow, hId⟩
  have hActive : row.state.active = true := by
    rw [hRenewed.running]
    rfl
  have hLeased : row.lease ≠ none := by
    rcases hRenewed.current with ⟨held, hHeld, _⟩
    intro hNone
    cases hNone.symm.trans hHeld
  rcases hFenced.activeRow hRow hActive with ⟨env, hEnv, hBy⟩
  rw [← hId]
  refine replaceCurrent hFenced
    (show KeepsKeys (leasedRow lease expiresAt) from fun _ => ⟨rfl, rfl⟩)
    hBy rfl rfl (fun _ _ => rfl) hEnv rfl hBy.row.active ?_ (.inl hLeased)
  intro hIdle
  change row.state.active = false at hIdle
  cases hActive.symm.trans hIdle

private theorem fenced_saved {stored updated : EnvironmentInstance}
    (hCoherent : s.Coherent) (hFenced : s.Fenced)
    (hSaved : ReconciledSaved s.tables startedAt lease stored updated row) :
    ServiceState.Fenced
      { s with tables := savedTables s.tables s.clock stored updated, leases } := by
  rcases findOperation_some hSaved.found with ⟨hRow, hId⟩
  have hKey := hCoherent.key _ _ hSaved.loaded
  rcases hFenced.fenced _ stored hSaved.loaded with ⟨current, hBy⟩
  have hEq : current = row := hFenced.unique.eq_of_id hBy.row.member hRow
    (hBy.row.id.trans hId.symm)
  subst hEq
  have hLeased : current.lease ≠ none := by
    rcases hSaved.current with ⟨held, hHeld, _⟩
    intro hNone
    cases hNone.symm.trans hHeld
  have hOwner : current.environmentId = stored.id := hBy.row.owner.trans hKey.symm
  rw [← hKey, ← hOwner] at hBy
  refine replaceCurrent hFenced (show KeepsKeys (savedRow updated) from fun _ => ⟨rfl, rfl⟩)
    hBy rfl ?_ ?_ ?_ hSaved.sameOperation rfl (fun _ => rfl)
    (.inl hLeased)
  · simp only [savedTables]
    rw [hId]
  · intro environmentId hNe
    rw [hOwner] at hNe
    exact update_of_ne hNe _ _
  · rw [hOwner]
    exact update_self _ _ _

/- A new row keeps the fence when all rows of its environment are behind it. -/
private theorem openRow {rows : List OperationRow} (hFenced : s.Fenced) (hUnique : UniqueIds rows)
    (hFresh : ∀ row ∈ rows, row.operationId ≠ env.operation.id)
    (hOthers : ∀ row, row.environmentId ≠ env.id → (row ∈ rows ↔ row ∈ s.tables.operations))
    (hBehind : ∀ row ∈ rows, row.environmentId = env.id → row.state.active = false ∧
      ∀ lease ∈ row.lease, behindFence s.clock (operationRow env) lease.expiresAt)
    (hClock : s'.clock = s.clock) (hRows : s'.tables.operations = operationRow env :: rows)
    (hInstances : s'.tables.instances = Function.update s.tables.instances env.id (some env)) :
    s'.Fenced := by
  have hOlder : ∀ row ∈ operationRow env :: rows, row.operationId ≠ env.operation.id →
      row ∈ rows := by
    intro row hRow hId
    exact mem_of_ne_of_mem (fun hNew => hId (congrArg OperationRow.operationId hNew)) hRow
  refine hFenced.replace ?_ hClock ?_ ?_ (hInstances ▸ update_self _ _ _) ?_
  · rw [hRows]
    refine nodup_cons.mpr ⟨?_, hUnique⟩
    intro hMember
    rcases mem_map.mp hMember with ⟨row, hRow, hId⟩
    exact hFresh row hRow hId
  · intro row hNe
    rw [hRows, mem_cons, hOthers row hNe]
    exact or_iff_right fun hNew => hNe (congrArg OperationRow.environmentId hNew)
  · intro other hNe
    rw [hInstances, update_of_ne hNe]
  · rw [hRows]
    refine ⟨operationRow env, ⟨mem_cons_self, rfl, rfl, rfl, fun _ => rfl⟩, ?_, ?_⟩
    · intro row hRow hOwner hId
      exact (hBehind row (hOlder row hRow hId) hOwner).1
    · intro row hRow hOwner hId
      exact (hBehind row (hOlder row hRow hId) hOwner).2

/- A creation opens the first row of its environment. -/
private theorem fenced_created {idempotencyKey : String} (hFenced : s.Fenced)
    (hInserted : EnvironmentInserted s.tables env) :
    ServiceState.Fenced
      { s with tables := insertedTables hash s.tables idempotencyKey env } := by
  refine openRow hFenced hFenced.unique hInserted.operation.fresh (fun _ _ => Iff.rfl) ?_
    rfl rfl rfl
  intro row hRow hOwner
  apply absurd hInserted.absent
  rw [← hOwner]
  exact hFenced.owned row hRow

variable {current : EnvironmentInstance}

private theorem mem_supersededRows {kind : EnvironmentOperationKind}
    (hRow : row ∈ supersededRows s.tables current kind) :
    ∃ old ∈ s.tables.operations, row.operationId = old.operationId ∧
      row.environmentId = old.environmentId ∧ row.lease = old.lease ∧
      (row = old ∨ row.state = .cancelled) ∧
      (kind.destructive = true → current.operation.state.active = true →
        old.operationId = current.operation.id → row.state = .cancelled) := by
  unfold supersededRows at hRow
  split at hRow
  · rcases mem_mapOperation.mp hRow with ⟨old, hOld, hEq⟩
    refine ⟨old, hOld, ?_⟩
    split at hEq
    · subst hEq
      exact ⟨rfl, rfl, rfl, .inr rfl, fun _ _ _ => rfl⟩
    · rename_i hOther
      subst hEq
      exact ⟨rfl, rfl, rfl, .inl rfl, fun _ _ h => absurd h hOther⟩
  · rename_i hNot
    exact ⟨row, hRow, rfl, rfl, rfl, .inl rfl, fun hKind hActive _ => absurd ⟨hKind, hActive⟩ hNot⟩

/- What the fence needs to know of an applied command. -/
private structure NewOperation (tables : EnvironmentTables δ)
    (command : EnvironmentLifecycleCommand) (current fenced : EnvironmentInstance) : Prop where
  id : fenced.id = current.id
  active : fenced.operation.state.active = true
  destructive : current.operation.state.active = true → command.kind.destructive = true
  accepted : command.acceptedAt ≤ fenced.operation.nextAttemptAt
  lease : ∀ expiresAt, supersededLease tables current command.kind = some expiresAt →
    expiresAt ≤ fenced.operation.nextAttemptAt

private theorem newOperation {clock : UtcTimestamp} {command : EnvironmentLifecycleCommand}
    {leaseAuthorization : Option EnvironmentLeaseAuthorization} {operationId : OperationId}
    {planned fenced : EnvironmentInstance}
    (hApplied : CommandApplied s.tables clock command leaseAuthorization operationId current planned
      fenced) : NewOperation s.tables command current fenced := by
  rcases planCommandAuthorized_eq_ok.mp hApplied.plan with ⟨_, _, _, _, hAccepted, hPlanned, _⟩
  have hFence := hApplied.fence
  subst hPlanned
  rw [hFence]
  refine ⟨rfl, ?_, hAccepted.supersedes, ?_, ?_⟩
  · simp only [EnvironmentInstance.withNextAttempt, plannedInstance, plannedOperation]
    split <;> rfl
  · exact le_max_left _ _
  · intro expiresAt hLease
    rw [hLease]
    exact le_max_right _ _

section

variable {idempotencyKey : String} {command : EnvironmentLifecycleCommand}
  {create : Option EnvironmentCreateSpec}
  {leaseAuthorization : Option EnvironmentLeaseAuthorization} {courseId : Option CourseId}
  {current planned fenced : EnvironmentInstance}

section

variable (hBy : FencedBy s.clock command.environmentId current s.tables.operations row)
  (hFenced : s.Fenced)

include hBy hFenced

variable (hNew : NewOperation s.tables command current fenced)

include hNew

/- The lease of the row that a command supersedes ends before the new operation is due. -/
private theorem superseded_behind :
    ∀ lease ∈ row.lease, lease.expiresAt ≤ fenced.operation.nextAttemptAt := by
  intro lease hLease
  apply hNew.lease
  have hActive : current.operation.state.active = true := by
    rw [← hBy.row.active]
    by_contra hIdle
    cases (hBy.row.released (by simpa using hIdle)).symm.trans hLease
  unfold supersededLease
  rw [if_pos ⟨hNew.destructive hActive, hActive⟩, ← hBy.row.id,
    hFenced.unique.findOperation hBy.row.member]
  simp only [Option.bind_some]
  rw [Option.mem_def.mp hLease]
  rfl

/- By the fence when the row of the current operation is leased, and by the side condition
  otherwise. -/
private theorem older_behind
    (hStored : s.tables.instances command.environmentId = some current)
    (hFree : s.tables.ledger (operationName command.kind, idempotencyKey) = none)
    (hOk : fencedSupersession s (.command idempotencyKey command create
      leaseAuthorization courseId operationId)) :
    ∀ other ∈ s.tables.operations, other.environmentId = command.environmentId →
      other.operationId ≠ row.operationId →
      ∀ lease ∈ other.lease, lease.expiresAt ≤ s.clock ∨ lease.expiresAt ≤
        fenced.operation.nextAttemptAt := by
  intro other hOther hOwner hId lease hLease
  rcases hBy.behind other hOther hOwner hId lease hLease with hExpired | ⟨hActive, hNone, _⟩
  · exact .inl hExpired
  · rw [hBy.row.active] at hActive
    have hUnleased : supersededLease s.tables current command.kind = none := by
      unfold supersededLease
      split
      · rw [← hBy.row.id, hFenced.unique.findOperation hBy.row.member]
        simp [hNone]
      · rfl
    rw [hBy.row.id] at hId
    rcases hOk hFree current hStored hActive hUnleased other hOther hOwner hId lease hLease with
      hExpired | hBefore
    · exact .inl hExpired
    · exact .inr (le_trans hBefore hNew.accepted)

private theorem superseded_ended :
    ∀ other ∈ supersededRows s.tables current command.kind,
      other.environmentId = command.environmentId → other.state.active = false := by
  intro other hOther hOwner
  rcases mem_supersededRows hOther with ⟨old, hOld, _, hOldOwner, _, hState, hCancelled⟩
  rw [hOldOwner] at hOwner
  by_cases hActive : old.state.active = true
  · -- Only the current row is active, and it is cancelled.
    have hEq := hBy.eq_current hFenced.unique hOld hOwner hActive
    rw [hEq, hBy.row.active] at hActive
    rw [hCancelled (hNew.destructive hActive) hActive (hEq ▸ hBy.row.id)]
    rfl
  · rcases hState with hSame | hEnded
    · rw [hSame]
      simpa using hActive
    · rw [hEnded]
      rfl

end

/- A command opens a new row in front of the fence. -/
private theorem fenced_commanded (hCoherent : s.Coherent) (hFenced : s.Fenced)
    (hFree : s.tables.ledger (operationName command.kind, idempotencyKey) = none)
    (hOk : fencedSupersession s (.command idempotencyKey command create
      leaseAuthorization courseId operationId)) (hApplied : CommandApplied s.tables s.clock command
      leaseAuthorization operationId current planned fenced) :
    ServiceState.Fenced
      { s with tables := commandTables hash s.tables idempotencyKey command current fenced } := by
  have hNew := newOperation hApplied
  have hKey := hCoherent.key _ _ hApplied.stored
  rcases hFenced.fenced _ current hApplied.stored with ⟨row, hBy⟩
  have hId : fenced.id = command.environmentId := hNew.id.trans hKey
  refine openRow hFenced ?_ hApplied.fresh ?_ ?_ rfl rfl ?_
  · unfold supersededRows
    split
    · exact hFenced.unique.map fun _ => ⟨rfl, rfl⟩
    · exact hFenced.unique
  · intro other hOwner
    rw [hId, ← hBy.row.owner] at hOwner
    unfold supersededRows
    split
    · rw [← hBy.row.id]
      exact mem_mapOperation_of_ne hFenced.unique (fun _ => ⟨rfl, rfl⟩) hBy.row.member hOwner
    · exact Iff.rfl
  · intro other hOther hOwner
    rw [hId] at hOwner
    refine ⟨superseded_ended hBy hFenced hNew other hOther hOwner, ?_⟩
    intro lease hLease
    rcases mem_supersededRows hOther with ⟨old, hOld, _, hOldOwner, hOldLease, _⟩
    rw [hOldOwner] at hOwner
    rw [hOldLease] at hLease
    by_cases hRow : old.operationId = row.operationId
    · have hEq := hFenced.unique.eq_of_id hOld hBy.row.member hRow
      rw [hEq] at hLease
      exact .inr ⟨hNew.active, rfl, superseded_behind hBy hFenced hNew lease hLease⟩
    · rcases older_behind hBy hFenced hNew hApplied.stored hFree hOk old hOld hOwner hRow lease
        hLease with hExpired | hBefore
      · exact .inl hExpired
      · exact .inr ⟨hNew.active, rfl, hBefore⟩
  · rw [hNew.id]
    rfl

end

/- A refresh keeps the operation of the aggregate. -/
private theorem fenced_refreshed {environmentId : EnvironmentId}
    {authorization : EnvironmentLeaseAuthorization} {revision : Revision} (hCoherent : s.Coherent)
    (hFenced : s.Fenced)
    (hRefreshed : LeaseRefreshed s.tables environmentId authorization current revision) :
    ServiceState.Fenced
      { s with
        tables := refreshedTables s.tables current (refreshedInstance current authorization
          revision) } := by
  have hKey := hCoherent.key _ _ hRefreshed.stored
  refine hFenced.replace hFenced.unique rfl (fun _ _ => Iff.rfl)
    (fun _ hNe => update_of_ne hNe _ _) (update_self _ _ _) ?_
  rw [hKey]
  rcases hFenced.fenced _ current hRefreshed.stored with ⟨row, hBy⟩
  exact ⟨row, ⟨hBy.row.member, hBy.row.id, hBy.row.owner, hBy.row.active, hBy.row.released⟩,
    hBy.ended, hBy.behind⟩

private theorem fenced_ticked {now : UtcTimestamp} (hFenced : s.Fenced) (hLater : s.clock ≤ now) :
    ServiceState.Fenced { s with clock := now } := by
  refine ⟨hFenced.unique, hFenced.owned, ?_⟩
  intro environmentId env hEnv
  rcases hFenced.fenced environmentId env hEnv with ⟨row, hBy⟩
  refine ⟨row, hBy.row, hBy.ended, ?_⟩
  intro other hOther hOwner hId lease hLease
  exact (hBy.behind other hOther hOwner hId lease hLease).later hLater

/- Every transaction keeps the fence. -/
theorem ServiceStep.fenced (hCoherent : s.Coherent) (hFenced : s.Fenced)
    (hOk : fencedSupersession s action) (hStep : ServiceStep hash s action s') : s'.Fenced := by
  cases hStep with
  | ticked hLater => exact fenced_ticked hFenced hLater
  | replayed _ => exact hFenced
  | created _ _ _ _ hInserted => exact fenced_created hFenced hInserted
  | commanded _ hApplied hFree => exact fenced_commanded hCoherent hFenced hFree hOk hApplied
  | claimed hStarted hGranted => exact fenced_claimed hFenced hStarted hGranted
  | renewed _ _ hRenewed => exact fenced_renewed hFenced hRenewed
  | saved _ _ _ hSaved => exact fenced_saved hCoherent hFenced hSaved
  | crashed _ => exact ⟨hFenced.unique, hFenced.owned, hFenced.fenced⟩
  | refreshed hRefreshed => exact fenced_refreshed hCoherent hFenced hRefreshed

end

-- Claims Wait For Superseded Leases

theorem environmentService_fenced {δ : Type} [DecidableEq δ] {hash : RequestDocument → δ}
    {s : ServiceState δ} (hRun : (environmentService hash).Run fencedSupersession s) :
    s.Fenced := by
  induction hRun with
  | start hInit =>
    rcases hInit with ⟨hInstances, hRows, _, _, _⟩
    refine ⟨?_, ?_, ?_⟩
    · rw [hRows]
      exact nodup_nil
    · intro row hRow
      rw [hRows] at hRow
      cases hRow
    · intro environmentId env hEnv
      rw [hInstances] at hEnv
      cases hEnv
  | next hBefore hOk hNext ih =>
    exact (ServiceState.step_cases hNext).fenced (environmentService_coherent hBefore) ih hOk

/- If all cleanup commands meet the side condition, a claim hands out an operation only when the
  leases of all other operations of its environment have expired. -/
theorem claim_after_superseded_leases {δ : Type} [DecidableEq δ] {hash : RequestDocument → δ}
    {s s' : ServiceState δ} (hRun : (environmentService hash).Run fencedSupersession s)
    {startedAt : UtcTimestamp} {workerId : String} {leaseDuration : Nat} {leaseToken : BitVec 128}
    {candidate : OperationId}
    (hStep : s.step hash (.claim startedAt workerId leaseDuration leaseToken candidate) = some s')
    {row other : OperationRow} (hRow : row ∈ s.tables.operations)
    (hCandidate : row.operationId = candidate) (hOther : other ∈ s.tables.operations)
    (hOwner : other.environmentId = row.environmentId) (hId : other.operationId ≠ candidate) :
    ∀ lease ∈ other.lease, lease.expiresAt ≤ s.clock := by
  have hFenced := environmentService_fenced hRun
  cases ServiceState.step_cases hStep with
  | replayed hRequest | created hRequest _ _ _ _ => cases hRequest
  | claimed hStarted hGranted =>
    rename_i found _
    rcases findOperation_some hGranted.found with ⟨hFound, hFoundId⟩
    have hEq : found = row := hFenced.unique.eq_of_id hFound hRow (hFoundId.trans hCandidate.symm)
    subst hEq
    rcases hFenced.activeRow hRow hGranted.due.1 with ⟨env, _, hBy⟩
    rw [← hCandidate] at hId
    exact hBy.expired (.inr (le_trans hGranted.due.2.1 hStarted)) other hOther hOwner hId

namespace Sample

def claim (now : UtcTimestamp) (operationId : OperationId) : ServiceAction :=
  .claim now "worker" 5000 8 operationId

/- The creation is claimed until `6000`, and then superseded by a deletion. -/
def supersededCreation : List ServiceAction :=
  [create, .tick 1000, claim 1000 ⟨1⟩, request "key-delete" .delete (revision 1) 1000 ⟨2⟩]

/- The claim of an operation succeeds, and another row of its environment has a lease that meets
  `p`. -/
def claimsBeside (now : UtcTimestamp) (operationId : OperationId) (p : UtcTimestamp → Prop)
    (s : ServiceState RequestDocument) : Prop :=
  (s.step id (claim now operationId)).isSome = true ∧ ∃ row ∈ s.tables.operations,
    row.operationId = operationId ∧
    ∃ other ∈ s.tables.operations, other.environmentId = row.environmentId ∧
      other.operationId ≠ operationId ∧ ∃ lease ∈ other.lease, p lease.expiresAt

instance (now : UtcTimestamp) (operationId : OperationId) (p : UtcTimestamp → Prop)
    [DecidablePred p] (s : ServiceState RequestDocument) :
    Decidable (claimsBeside now operationId p s) :=
  inferInstanceAs (Decidable (_ ∧ _))

end Sample

open Sample

/- The deletion is claimed once the creation's lease is over. -/
theorem claim_after_superseded_leases_sample : ∃ s,
    (environmentService id).Run fencedSupersession s ∧
    claimsBeside 6000 ⟨2⟩ (fun expiresAt => expiresAt = 6000 ∧ expiresAt ≤ s.clock) s := by
  have hFound : ∃ s, (environmentService id).Run fencedSupersession s ∧
      claimsBeside 6000 ⟨2⟩ (fun expiresAt => expiresAt = 6000) s :=
    Machine.exists_run (supersededCreation ++ [.tick 6000]) start_initial (by decide)
  rcases hFound with ⟨s, hRun, hClaim, row, hRow, hId, other, hOther, hOwner, hNe, lease, hLease,
    hExpires⟩
  rcases Option.isSome_iff_exists.mp hClaim with ⟨s', hStep⟩
  have hOver := claim_after_superseded_leases hRun hStep hRow hId hOther hOwner hNe lease hLease
  exact ⟨s, hRun, hClaim, row, hRow, hId, other, hOther,
    hOwner, hNe, lease, hLease, hExpires, hOver⟩

/- A second deletion supersedes the first before it was claimed. The third operation is claimed
  while the lease on the creation runs until `6000`. -/
theorem second_deletion_claimed_early : ∃ s, (environmentService id).Reachable s ∧
    claimsBeside 1000 ⟨3⟩ (fun expiresAt => s.clock < expiresAt) s := by
  exact Machine.exists_reachable (supersededCreation ++
    [request "key-again" .delete (revision 2) 1000 ⟨3⟩])
    start_initial (by decide)

end LabWeaver
