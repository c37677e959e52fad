import LabWeaver.Base.FenceToken
import LabWeaver.Environment.Phases
import LabWeaver.Environment.Provider

/-
  This file models the container executor: the requests that a worker sends, the ledger of the
  highest fence admitted for each environment, and the service and its executor running together.

  Main declaration: `executor_admits_current_operation`.
-/

namespace LabWeaver

open Outcome FenceToken EnvironmentInstance

-- Requests And Responses

/- A backend action, over the type `π` of resource plans. -/
inductive ContainerExecutorRequest (π : Type) where
| apply (plan : π)
| observe (plan : π)
| scale (plan : π) (replicas : Nat)
| restart (plan : π) (operationRevision : Revision)
| deleteNamespace (plan : π)
deriving DecidableEq

namespace ContainerExecutorRequest

variable {π : Type}

def matchesAction : ContainerExecutorRequest π → ReconcileAction → Bool
| .apply _, .provision | .apply _, .reset => true
| .observe _, .observe => true
| .scale _ 0, .stop => true
| .scale _ _, .start => true
| .restart _ _, .restart => true
| .deleteNamespace _, .cleanup => true
| _, _ => false

def plan : ContainerExecutorRequest π → π
| .apply plan | .observe plan | .scale plan _
| .restart plan _ | .deleteNamespace plan => plan

end ContainerExecutorRequest

inductive ContainerExecutorResponse (δ : Type) where
| observed (planSha256 : δ) (observation : ContainerApplyObservation)
| deleted (planSha256 : δ) (cleanupEvidence : ArtifactRef)
| failed (failure : ProviderFailure)

def ContainerExecutorResponse.isDeleted {δ : Type} : ContainerExecutorResponse δ → Bool
| .deleted _ _ => true
| .observed _ _ | .failed _ => false

structure ContainerExecutorRequestEnvelope (δ π : Type) where
  fence : BackendFence δ
  request : ContainerExecutorRequest π

/- The document whose hash identifies a request. -/
structure ExecutorDocument (π : Type) where
  fence : FenceDocument
  deadlineAt : UtcTimestamp
  request : ContainerExecutorRequest π
deriving DecidableEq

inductive ContainerExecutorFenceError where
| configurationInvalid
| identityMismatch
| deadlineExceeded
| staleGeneration
| tombstoned
| inProgress
| database
| transport
deriving DecidableEq

-- The Fence Ledger

/- The position of a fence in the order of the executor. -/
def BackendFence.token {δ : Type} (fence : BackendFence δ) : FenceToken OperationId where
  generation := fence.generation
  holder := fence.operationId
  step := fence.providerStep
  attempt := fence.attempt

/- The row of the fence ledger for one environment. -/
structure ExecutorFenceRow (δ : Type) where
  token : FenceToken OperationId
  tombstoned : Bool
  lastAction : ReconcileAction
  lastRequestId : δ
  lastResponse : Option (ContainerExecutorResponse δ)
  deadlineAt : UtcTimestamp

abbrev ExecutorFences (δ : Type) := EnvironmentId → Option (ExecutorFenceRow δ)

inductive ContainerExecutorAdmission (δ : Type) where
| execute (remaining : Int)
| replay (response : ContainerExecutorResponse δ)

/- The parameters of an executor: the hash of a request and the environment that a plan names. -/
structure ContainerExecutor (δ π : Type) where
  digest : ExecutorDocument π → δ
  planEnvironment : π → EnvironmentId

variable {δ π : Type}

namespace ContainerExecutor

variable [DecidableEq δ] (executor : ContainerExecutor δ π) (fence : BackendFence δ)
  (request : ContainerExecutorRequest π)

def requestId : δ :=
  executor.digest { fence := fence.document, deadlineAt := fence.deadlineAt, request }

def bindRequest : BackendFence δ :=
  { fence with requestId := executor.requestId fence request }

def validateRequest (envelope : ContainerExecutorRequestEnvelope δ π) :
    Except ContainerExecutorFenceError Unit :=
  ensure (envelope.fence.protocolVersion = containerBackendProtocolVersion ∧
    envelope.fence.generation ≠ 0 ∧
    envelope.fence.requestId = executor.requestId envelope.fence envelope.request ∧
    envelope.request.matchesAction envelope.fence.action = true ∧
    executor.planEnvironment envelope.request.plan = envelope.fence.environmentId)
    .identityMismatch

variable (fences : ExecutorFences δ) (clock : UtcTimestamp) (fence : BackendFence δ)

def writeFence :
    Except ContainerExecutorFenceError (ContainerExecutorAdmission δ × ExecutorFences δ) := do
  ensure (fence.generation ≤ maxI64 ∧ fence.providerStep ≤ maxI32 ∧ fence.attempt ≤ maxI32)
    .identityMismatch
  .ok (.execute (fence.deadlineAt - clock), Function.update fences fence.environmentId (some
    { token := fence.token, tombstoned := false, lastAction := fence.action,
      lastRequestId := fence.requestId, lastResponse := none,
      deadlineAt := fence.deadlineAt }))

def admitAgainst (row : ExecutorFenceRow δ) :
    Except ContainerExecutorFenceError (ContainerExecutorAdmission δ × ExecutorFences δ) :=
  if row.lastRequestId = fence.requestId then
    match row.lastResponse with
    | some response => .ok (.replay response, fences)
    | none => .error .inProgress
  else if row.lastResponse.isNone ∧ clock < row.deadlineAt then .error .inProgress
  else
    match row.tombstoned, row.lastResponse.filter (·.isDeleted) with
    | true, some response =>
      if fence.action = .cleanup then .ok (.replay response, fences) else .error .tombstoned
    | _, _ =>
      if stale row.token fence.token then .error .staleGeneration
      else if foreign row.token fence.token then .error .identityMismatch
      else writeFence fences clock fence

variable (envelope : ContainerExecutorRequestEnvelope δ π)

/- `admit` at the time `clock` of the database. -/
def admitRequest :
    Except ContainerExecutorFenceError (ContainerExecutorAdmission δ × ExecutorFences δ) := do
  executor.validateRequest envelope
  ensure (clock < envelope.fence.deadlineAt) .deadlineExceeded
  match fences envelope.fence.environmentId with
  | some row => admitAgainst fences clock envelope.fence row
  | none => writeFence fences clock envelope.fence

variable (response : ContainerExecutorResponse δ)

/- `complete`: the response of the request that holds the row. Only a cleanup leaves a tombstone. -/
def complete : Except ContainerExecutorFenceError (ExecutorFences δ) := do
  let row ← require (fences fence.environmentId) .staleGeneration
  ensure (row.token = fence.token ∧ row.lastRequestId = fence.requestId ∧
    row.lastResponse.isNone = true)
    .staleGeneration
  ensure (response.isDeleted = true → row.lastAction = .cleanup) .database
  .ok (Function.update fences fence.environmentId (some
    { row with lastResponse := some response, tombstoned := row.tombstoned || response.isDeleted }))

/- `FencedContainerExecutor::execute`, where `response` is what the backend answers in time. -/
def execute :
    Except ContainerExecutorFenceError (ContainerExecutorResponse δ × ExecutorFences δ) := do
  let (admission, admitted) ← executor.admitRequest fences clock envelope
  match admission with
  | .execute _ => do
      let completed ← complete admitted envelope.fence response
      .ok (response, completed)
  | .replay stored => .ok (stored, admitted)

end ContainerExecutor

-- What The Executor Writes

open ContainerExecutor

variable {executor : ContainerExecutor δ π} {clock : UtcTimestamp}

section

variable [DecidableEq δ] {fences fences' : ExecutorFences δ}
  {envelope : ContainerExecutorRequestEnvelope δ π}
  {admission : ContainerExecutorAdmission δ}

/- The rows hold the tokens they held, or a new fence. -/
def FencesAdvance (fence : BackendFence δ) (fences fences' : ExecutorFences δ) : Prop :=
  ∀ environmentId row, fences' environmentId = some row → (∃ old, fences environmentId = some old ∧
    row.token = old.token) ∨ environmentId = fence.environmentId ∧ row.token = fence.token

omit [DecidableEq δ] in
/- A row that is written keeps its token or takes that of the fence. -/
theorem advances_update {fence : BackendFence δ} {written : ExecutorFenceRow δ}
    (hToken : (∃ old, fences fence.environmentId = some old ∧ written.token = old.token) ∨
      written.token = fence.token) :
    FencesAdvance fence fences (Function.update fences fence.environmentId (some written)) := by
  intro environmentId row hRow
  by_cases hSame : environmentId = fence.environmentId
  · subst hSame
    rw [Function.update_self] at hRow
    cases hRow
    exact hToken.imp_right fun hNew => ⟨rfl, hNew⟩
  · rw [Function.update_of_ne hSame] at hRow
    exact .inl ⟨row, hRow, rfl⟩

omit [DecidableEq δ] in
theorem writeFence_advances {fence : BackendFence δ}
    (hWrite : writeFence fences clock fence = .ok (admission, fences')) :
    FencesAdvance fence fences fences' := by
  simp only [writeFence, steps_eq_ok] at hWrite
  rcases hWrite with ⟨_, ⟨⟩⟩
  exact advances_update (.inr rfl)

theorem admit_advances
    (hAdmit : executor.admitRequest fences clock envelope = .ok (admission, fences')) :
    FencesAdvance envelope.fence fences fences' := by
  have hKept : FencesAdvance envelope.fence fences fences := fun _ row hRow => .inl ⟨row, hRow, rfl⟩
  simp only [ContainerExecutor.admitRequest, bind_eq_ok] at hAdmit
  rcases hAdmit with ⟨_, _, _, _, hRest⟩
  split at hRest
  · unfold admitAgainst at hRest
    repeat' split at hRest
    -- the request is refused, the row is kept, or the fence is written
    all_goals
      first
      | exact writeFence_advances hRest
      | cases hRest <;> exact hKept
  · exact writeFence_advances hRest

variable {response : ContainerExecutorResponse δ}

theorem complete_advances {fence : BackendFence δ}
    (hComplete : ContainerExecutor.complete fences fence response = .ok fences') :
    FencesAdvance fence fences fences' := by
  simp only [ContainerExecutor.complete, steps_eq_ok] at hComplete
  rcases hComplete with ⟨held, hHeld, _, _, rfl⟩
  exact advances_update (.inl ⟨held, hHeld, rfl⟩)

/- A call of the executor writes at most its own fence. -/
theorem execute_advances {answer : ContainerExecutorResponse δ}
    (hExecute : executor.execute fences clock envelope response = .ok (answer, fences')) :
    FencesAdvance envelope.fence fences fences' := by
  simp only [execute, bind_eq_ok, Prod.exists] at hExecute
  rcases hExecute with ⟨admission, admitted, hAdmit, hRest⟩
  have hAdmitted := admit_advances hAdmit
  split at hRest
  · simp only [bind_eq_ok] at hRest
    rcases hRest with ⟨completed, hComplete, ⟨⟩⟩
    intro environmentId row hRow
    rcases complete_advances hComplete environmentId row hRow with ⟨old, hOld, hToken⟩ | hNew
    · rw [hToken]
      exact hAdmitted environmentId old hOld
    · exact .inr hNew
  · cases hRest
    exact hAdmitted

end

-- The Service And Its Executor

structure ExecutionState (δ : Type) where
  service : ServiceState δ
  fences : ExecutorFences δ

/- A transaction of the service, or a request of a worker with the answer of the backend. The
  request is admitted, carried out and completed before the next step. -/
inductive ExecutionAction (δ π : Type) where
| service (action : ServiceAction)
| request (holder : Nat) (now : UtcTimestamp) (request : ContainerExecutorRequest π)
    (response : ContainerExecutorResponse δ)

section

variable [DecidableEq δ]

def requestEnvelope (executor : ContainerExecutor δ π) (digest : FenceDocument → δ)
    (env : EnvironmentInstance) (action : ReconcileAction) (request : ContainerExecutorRequest π) :
    ContainerExecutorRequestEnvelope δ π where
  fence := executor.bindRequest (.forAction digest containerBackendProtocolVersion env action)
    request
  request := request

variable (hash : RequestDocument → δ) (digest : FenceDocument → δ)

def ExecutionState.step (executor : ContainerExecutor δ π) (s : ExecutionState δ) :
    ExecutionAction δ π → Option (ExecutionState δ)
| .service action => (s.service.step hash action).map (fun service => { s with service })
| .request holder now request response =>
  match s.service.leases[holder]? with
  | none => none
  | some lease =>
    match nextAction lease.env now with
    | .error _ => none
    | .ok action =>
      match executor.execute s.fences s.service.clock
        (requestEnvelope executor digest lease.env action request)
        response with
      | .ok (_, fences) => some { s with fences }
      | .error _ => none

def containerExecution (executor : ContainerExecutor δ π) :
    Machine (ExecutionState δ) (ExecutionAction δ π) where
  init := fun s => s.service.initial ∧ ∀ environmentId, s.fences environmentId = none
  step := ExecutionState.step hash digest executor

theorem containerExecution_request {hash : RequestDocument → δ} {digest : FenceDocument → δ}
    {executor : ContainerExecutor δ π} {s s' : ExecutionState δ} {holder : Nat} {now : UtcTimestamp}
    {request : ContainerExecutorRequest π} {response : ContainerExecutorResponse δ}
    (hStep : (containerExecution hash digest executor).step s
      (.request holder now request response) = some s') :
    ∃ lease action answer fences, lease ∈ s.service.leases ∧ nextAction lease.env now = .ok action ∧
      executor.execute s.fences s.service.clock (requestEnvelope executor digest lease.env action
        request) response = .ok (answer, fences) ∧ s' = { s with fences } := by
  simp only [containerExecution, ExecutionState.step] at hStep
  split at hStep
  · cases hStep
  · rename_i lease hLease
    split at hStep
    · cases hStep
    · rename_i action hAction
      split at hStep
      · rename_i answer fences hExecuted
        cases hStep
        exact ⟨lease, action, answer, fences, List.mem_of_getElem? hLease, hAction, hExecuted, rfl⟩
      · cases hStep

end

-- The Order Of The Fences

/- The position of an aggregate in the order of the executor. -/
def EnvironmentInstance.fenceToken (env : EnvironmentInstance) : FenceToken OperationId where
  generation := env.generation
  holder := env.operation.id
  step := env.operation.providerStep
  attempt := env.operation.attempt

section

variable {env updated : EnvironmentInstance}

/- The steps of a worker move an aggregate up. -/
theorem ReconcileStep.fenceToken_below (hStep : ReconcileStep env updated) :
    Below env.fenceToken updated.fenceToken := by
  cases hStep with
  | cleanup hCleanup =>
    rcases beginTimeoutCleanup_eq_ok.mp hCleanup with ⟨_, generation, step, hBegun, hEq, _⟩
    have hGeneration := hBegun.generation
    unfold cleanupGeneration at hGeneration
    subst hEq
    split at hGeneration
    · cases hGeneration
      refine .inr ⟨rfl, rfl, .inl ?_⟩
      have hNext := hBegun.step
      simp only [fenceToken, cleanupInstance]
      omega
    · rw [require_eq_ok, checkedAdd_eq_some] at hGeneration
      left
      simp only [fenceToken, cleanupInstance]
      omega
  | observation _ hApplied _ =>
    rcases applyProviderObservation_eq_ok.mp hApplied with ⟨_, step, hObserved, hEq, _⟩
    have hNext := hObserved.providerStep
    unfold observedProviderStep at hNext
    subst hEq
    split at hNext
    · cases hNext
      exact .inr ⟨rfl, rfl, .inr ⟨rfl, Nat.le_refl _⟩⟩
    · rw [require_eq_ok, checkedAdd_eq_some] at hNext
      refine .inr ⟨rfl, rfl, .inl ?_⟩
      simp only [fenceToken, withNextAttempt, observedInstance]
      omega
  | retry hRetry =>
    rcases applyRetry_eq_ok.mp hRetry with ⟨_, _, rfl, _⟩
    exact .inr ⟨rfl, rfl, .inr ⟨rfl, Nat.le_succ _⟩⟩
  | failure hFailure =>
    rcases applyProviderFailure_eq_ok.mp hFailure with ⟨_, _, rfl, _⟩
    exact .inr ⟨rfl, rfl, .inr ⟨rfl, Nat.le_refl _⟩⟩

/- Every lifecycle step moves an aggregate up, a freeze apart: it opens an operation in the
  generation of the operation before. -/
theorem InstanceStep.fenceToken_below
    {okCommand : EnvironmentInstance → EnvironmentLifecycleCommand → Prop}
    (hStep : InstanceStep okCommand env updated) :
    Below env.fenceToken updated.fenceToken ∨ ∃ command, okCommand env command ∧
      command.kind = .freeze ∧ command.environmentId = env.id ∧
      updated.generation = env.generation := by
  cases hStep with
  | command hOk _ hPlan =>
    rcases planCommandAuthorized_eq_ok.mp hPlan with ⟨_, _, _, generation, hAccepted, hEq, _⟩
    have hGeneration := hAccepted.generation
    unfold nextGeneration at hGeneration
    subst hEq
    split at hGeneration
    · rw [require_eq_ok, checkedAdd_eq_some] at hGeneration
      left
      left
      simp only [fenceToken, withNextAttempt, plannedInstance]
      omega
    · rename_i hFreeze
      cases hGeneration
      right
      refine ⟨_, hOk, ?_, hAccepted.environmentId.symm, rfl⟩
      simpa [incrementsGeneration] using hFreeze
  | reconcile hReconcile => exact .inl hReconcile.fenceToken_below
  | refresh _ _ => exact .inl (below_refl _)

end

/- A freeze that is not answered from the ledger finds no fence and no worker of the current
  generation of its environment. -/
def freezesFresh {δ π : Type} (s : ExecutionState δ) (action : ExecutionAction δ π) : Prop :=
  match action with
  | .service (.command idempotencyKey command _ _ _ _) =>
    command.kind = .freeze → s.service.tables.ledger (operationName command.kind,
      idempotencyKey) = none → ∀ env ∈ s.service.tables.instances command.environmentId,
      (∀ row ∈ s.fences command.environmentId, row.token.generation < env.generation) ∧
      ∀ lease ∈ s.service.leases, lease.env.id = command.environmentId →
        lease.env.generation < env.generation
  | _ => True

instance {δ π : Type} (s : ExecutionState δ) (action : ExecutionAction δ π) :
    Decidable (freezesFresh s action) := by
  unfold freezesFresh
  split <;> infer_instance

/- The fences of the executor and the claims of the workers are below the stored aggregates. -/
structure ExecutionState.Ordered {δ : Type} (s : ExecutionState δ) : Prop where
  fence : ∀ environmentId row, s.fences environmentId = some row → ∃ env,
    s.service.tables.instances environmentId = some env ∧ Below row.token env.fenceToken
  lease : ∀ lease ∈ s.service.leases, ∃ env, s.service.tables.instances lease.env.id = some env ∧
    Below lease.env.fenceToken env.fenceToken

section

variable [DecidableEq δ] {hash : RequestDocument → δ} {digest : FenceDocument → δ}
  {s : ExecutionState δ}

/- The side condition of a freeze, for one environment. -/
private def freezeOk (s : ExecutionState δ) (env : EnvironmentInstance)
    (command : EnvironmentLifecycleCommand) : Prop :=
  command.kind = .freeze → (∀ row ∈ s.fences command.environmentId,
    row.token.generation < env.generation) ∧
    ∀ lease ∈ s.service.leases, lease.env.id = command.environmentId →
      lease.env.generation < env.generation

private theorem below_effect {okCommand : EnvironmentInstance → EnvironmentLifecycleCommand → Prop}
    {environmentId : EnvironmentId} {token : FenceToken OperationId} {env : EnvironmentInstance}
    {row : Option EnvironmentInstance}
    (hEffect : InstanceEffect okCommand environmentId (some env) row)
    (hBelow : Below token env.fenceToken)
    (hFreeze : ∀ command, okCommand env command → command.kind = .freeze →
      command.environmentId = env.id → token.generation < env.generation) :
    ∃ updated, row = some updated ∧ Below token updated.fenceToken := by
  cases hEffect with
  | unchanged => exact ⟨env, rfl, hBelow⟩
  | stepped hStep _ =>
    refine ⟨_, rfl, ?_⟩
    rcases hStep.fenceToken_below with hUp | ⟨command, hOk, hKind, hId, hSame⟩
    · exact below_trans hBelow hUp
    · left
      have hLess := hFreeze command hOk hKind hId
      rwa [← hSame] at hLess

private theorem ordered_service {action : ServiceAction} {service : ServiceState δ}
    (hCoherent : s.service.Coherent) (hOrdered : s.Ordered)
    (hOk : freezesFresh s (.service action : ExecutionAction δ π))
    (hStep : s.service.step hash action = some service) :
    ExecutionState.Ordered { s with service } := by
  have hCases := ServiceState.step_cases hStep
  have hMeets : commandsMeet (freezeOk s) s.service action := by
    cases action with
    | command _ command _ _ _ _ =>
      intro hFree env hEnv hFreeze
      exact hOk hFreeze hFree env hEnv
    | _ => trivial
  have hEffect := ServiceState.step_effect hCoherent hMeets hCases
  refine ⟨?_, ?_⟩
  · intro environmentId row hRow
    rcases hOrdered.fence environmentId row hRow with ⟨env, hEnv, hBelow⟩
    have hKey := hCoherent.key _ _ hEnv
    have hAt := hEffect environmentId
    rw [hEnv] at hAt
    refine below_effect hAt hBelow ?_
    intro command hFresh hKind hId
    rw [hKey] at hId
    refine (hFresh hKind).1 row ?_
    rwa [hId]
  · intro lease hLease
    rcases ServiceState.step_leases hCoherent hCases lease hLease with hOld | hNew
    · rcases hOrdered.lease lease hOld with ⟨env, hEnv, hBelow⟩
      have hKey := hCoherent.key _ _ hEnv
      have hAt := hEffect lease.env.id
      rw [hEnv] at hAt
      refine below_effect hAt hBelow ?_
      intro command hFresh hKind hId
      exact (hFresh hKind).2 lease hOld (hKey.symm.trans hId.symm)
    · exact ⟨lease.env, hNew, below_refl _⟩

/- An admitted request of a worker keeps the order. -/
private theorem ordered_request {clock : UtcTimestamp} {lease : LeasedEnvironment}
    {action : ReconcileAction} {request : ContainerExecutorRequest π}
    {response answer : ContainerExecutorResponse δ} {fences : ExecutorFences δ}
    (hOrdered : s.Ordered) (hLease : lease ∈ s.service.leases)
    (hExecuted : executor.execute s.fences clock (requestEnvelope executor digest lease.env action
      request) response = .ok (answer, fences)) : ExecutionState.Ordered { s with fences } := by
  refine ⟨?_, hOrdered.lease⟩
  intro environmentId row hRow
  rcases execute_advances hExecuted environmentId row hRow with ⟨old, hOld, hToken⟩ | ⟨hId, hToken⟩
  · rw [hToken]
    exact hOrdered.fence environmentId old hOld
  · rw [hToken, hId]
    exact hOrdered.lease lease hLease

theorem containerExecution_service {ok : ExecutionState δ → ExecutionAction δ π → Prop}
    (hRun : (containerExecution hash digest executor).Run ok s) :
    (environmentService hash).Reachable s.service := by
  refine Machine.Run.invariant (I := fun s => (environmentService hash).Reachable s.service)
    ?_ ?_ hRun
  · intro start hInit
    exact .start hInit.1
  · intro before action after hReached _ hStep
    cases action with
    | service action =>
      rcases Option.map_eq_some_iff.mp hStep with ⟨service, hService, rfl⟩
      exact .next hReached trivial hService
    | request holder now request response =>
      rcases containerExecution_request hStep with ⟨_, _, _, _, _, _, _, rfl⟩
      exact hReached

/- In a run whose freezes come before the generation reaches the executor, no fence is ahead of its
  aggregate. -/
theorem containerExecution_ordered
    (hRun : (containerExecution hash digest executor).Run freezesFresh s) : s.Ordered := by
  induction hRun with
  | start hInit =>
    rcases hInit with ⟨hService, hFences⟩
    refine ⟨?_, ?_⟩
    · intro environmentId row hRow
      rw [hFences] at hRow
      cases hRow
    · intro lease hLease
      rw [hService.leases] at hLease
      cases hLease
  | @next _ _ action hBefore hOk hStep ih =>
    cases action with
    | service action =>
      rcases Option.map_eq_some_iff.mp hStep with ⟨service, hService, rfl⟩
      have hCoherent := environmentService_coherent (containerExecution_service hBefore)
      exact ordered_service hCoherent ih hOk hService
    | request holder now request response =>
      rcases containerExecution_request hStep with ⟨_, _, _, _, hLease, _, hExecuted, rfl⟩
      exact ordered_request ih hLease hExecuted

end

-- Admission Of The Current Operation

section

variable [DecidableEq δ] {fences : ExecutorFences δ}

/- The numbers of a fence fit the columns of its row. -/
abbrev BackendFence.Fits (fence : BackendFence δ) : Prop :=
  fence.generation ≤ maxI64 ∧ fence.providerStep ≤ maxI32 ∧ fence.attempt ≤ maxI32

/- Neither refusal that blames the presented fence. -/
def ContainerExecutorAdmission.current (result : Except ContainerExecutorFenceError
        (ContainerExecutorAdmission δ × ExecutorFences δ)) :
    Prop :=
  result ≠ .error .staleGeneration ∧ result ≠ .error .identityMismatch

open ContainerExecutorAdmission

omit [DecidableEq δ] in
private theorem current_error {error : ContainerExecutorFenceError}
    (hStale : error ≠ .staleGeneration) (hMismatch : error ≠ .identityMismatch) :
    @current δ (.error error) := by
  refine ⟨?_, ?_⟩
  · rintro ⟨⟩
    exact hStale rfl
  · rintro ⟨⟩
    exact hMismatch rfl

omit [DecidableEq δ] in
private theorem current_ok {result : ContainerExecutorAdmission δ × ExecutorFences δ} :
    current (.ok result) := by
  refine ⟨?_, ?_⟩ <;> (intro hEq; cases hEq)

omit [DecidableEq δ] in
private theorem writeFence_current {fence : BackendFence δ} (hFits : fence.Fits) : current
    (writeFence fences clock fence) := by
  unfold writeFence
  rw [ensure_bind_of hFits]
  exact current_ok

/- A fence above the row is not refused for its order. -/
private theorem admitAgainst_current {fence : BackendFence δ} {row : ExecutorFenceRow δ}
    (hFits : fence.Fits) (hBelow : Below row.token fence.token) :
    current (admitAgainst fences clock fence row) := by
  rcases below_iff.mp hBelow with ⟨hStale, hForeign⟩
  unfold admitAgainst
  split
  · split
    · exact current_ok
    · exact current_error (by decide) (by decide)
  · split
    · exact current_error (by decide) (by decide)
    · split
      · split
        · exact current_ok
        · exact current_error (by decide) (by decide)
      · exact writeFence_current hFits

theorem admit_current {envelope : ContainerExecutorRequestEnvelope δ π}
    (hValid : executor.validateRequest envelope = .ok ()) (hFits : envelope.fence.Fits)
    (hBelow : ∀ row ∈ fences envelope.fence.environmentId, Below row.token envelope.fence.token) :
    current (executor.admitRequest fences clock envelope) := by
  unfold ContainerExecutor.admitRequest
  rw [bind_of_ok hValid]
  by_cases hOpen : clock < envelope.fence.deadlineAt
  · rw [ensure_bind_of hOpen]
    split
    · rename_i row hRow
      exact admitAgainst_current hFits (hBelow row hRow)
    · exact writeFence_current hFits
  · rw [ensure, if_neg hOpen]
    exact current_error (by decide) (by decide)

end

/- In every run whose freezes come before the generation reaches the executor, the request for a
  stored aggregate is refused neither as stale nor as foreign, as long as its step and attempt fit
  the columns. -/
theorem executor_admits_current_operation {δ π : Type} [DecidableEq δ] {hash : RequestDocument → δ}
    {digest : FenceDocument → δ} {executor : ContainerExecutor δ π} {s : ExecutionState δ}
    {environmentId : EnvironmentId} {env : EnvironmentInstance} {action : ReconcileAction}
    {request : ContainerExecutorRequest π}
    (hRun : (containerExecution hash digest executor).Run freezesFresh s)
    (hEnv : s.service.tables.instances environmentId = some env)
    (hMatches : request.matchesAction action = true)
    (hPlan : executor.planEnvironment request.plan = env.id)
    (hStep : env.operation.providerStep ≤ maxI32) (hAttempt : env.operation.attempt ≤ maxI32)
    (clock : UtcTimestamp) :
    ContainerExecutorAdmission.current (executor.admitRequest s.fences clock
      (requestEnvelope executor digest env action request)) := by
  have hService := containerExecution_service hRun
  have hStorable := (environmentService_phases hService hEnv).2
  have hKey := (environmentService_coherent hService).key _ _ hEnv
  apply admit_current
  · exact ensure_eq_ok.mpr ⟨rfl, hStorable.valid.generation_ne_zero, rfl, hMatches, hPlan⟩
  · exact ⟨hStorable.generation, hStep, hAttempt⟩
  · intro row hRow
    rcases (containerExecution_ordered hRun).fence _ row hRow with ⟨stored, hStored, hBelow⟩
    have hSame : stored = env := by
      change s.service.tables.instances env.id = _ at hStored
      rw [hKey, hEnv] at hStored
      exact (Option.some.inj hStored).symm
    rwa [hSame] at hBelow

namespace Sample

/- Digests under which no two documents collide. -/
inductive Digest where
| request (document : RequestDocument)
| fence (document : FenceDocument)
| execution (document : ExecutorDocument Unit)
deriving DecidableEq

def containerExecutor : ContainerExecutor Digest Unit where
  digest := .execution
  planEnvironment := fun _ => environmentId

def execution : Machine (ExecutionState Digest) (ExecutionAction Digest Unit) :=
  containerExecution .request .fence containerExecutor

def executionStart : ExecutionState Digest where
  service := .empty
  fences := fun _ => none

theorem executionStart_initial : execution.init executionStart :=
  ⟨ServiceState.empty_initial, fun _ => rfl⟩

/- The creation is worked off up to its last phase, whose request has reached the executor. -/
def provisioned : List (ExecutionAction Digest Unit) :=
  ([create] ++ pass 1000 ⟨1⟩ (progress .validating) ++ pass 3000 ⟨1⟩ (progress .building) ++
    pass 5000 ⟨1⟩ (progress .provisioning)).map
    .service ++
    [.service (.tick 7000), .service (.claim 7000 "worker" 5000 7 ⟨1⟩)] ++
    [.request 0 7000 (.apply ()) (.observed (.fence ⟨0, environmentId, ⟨1⟩, 0, 0, 0,
      .provision⟩) ⟨true, 7000⟩)]

/- The environment becomes Ready and is frozen. -/
def frozen : List (ExecutionAction Digest Unit) :=
  provisioned ++ [.service (.heartbeat 7000 0 5000), .service (.reconcile 7000 0 worker 7000
    (.answered (.ok
      { nextState := .ready
        endpoints :=
          [{ id := ⟨9⟩, protocol := .http, revision := revision 5, health := .healthy,
             observedAt := 7000 }]
        cleanupEvidence := none, operationComplete := true }))),
    .service (.tick 8000), .service (request "key-freeze" .freeze (revision 5) 8000 ⟨2⟩)]

end Sample

open Sample

/- The executor still admits the creation after its request of the last phase. -/
theorem executor_admits_current_operation_sample : ∃ s env, execution.Run freezesFresh s ∧
    s.service.tables.instances environmentId = some env ∧ (s.fences env.id).isSome = true ∧
    nextAction env 8000 = .ok .provision ∧
    ContainerExecutorAdmission.current (containerExecutor.admitRequest s.fences 8000
      (requestEnvelope containerExecutor .fence env .provision (.apply ()))) := by
  have hFound : ∃ s, execution.Run freezesFresh s ∧ ∃ env,
      s.service.tables.instances environmentId = some env ∧
      (s.fences env.id).isSome = true ∧ nextAction env 8000 = .ok .provision ∧
      environmentId = env.id ∧ env.operation.providerStep ≤ maxI32 ∧
      env.operation.attempt ≤ maxI32 :=
    Machine.exists_run provisioned executionStart_initial (by decide)
  rcases hFound with ⟨s, hRun, env, hEnv, hFence, hAction, hPlan, hStep, hAttempt⟩
  exact ⟨s, env, hRun, hEnv, hFence, hAction, executor_admits_current_operation hRun hEnv rfl hPlan
    hStep hAttempt 8000⟩

/- A freeze starts a new operation at step one inside a generation of which the executor has seen
  step four. -/
theorem freeze_refused_as_stale : ∃ s env, execution.Reachable s ∧
    s.service.tables.instances environmentId = some env ∧
    nextAction env 8000 = .ok .observe ∧ containerExecutor.admitRequest s.fences 8000
      (requestEnvelope containerExecutor .fence env .observe (.observe ())) =
      .error .staleGeneration := by
  simp only [exists_and_left]
  exact Machine.exists_reachable frozen executionStart_initial (by decide)

-- Tombstones

section

variable [DecidableEq δ] {fences later : ExecutorFences δ} {row next : ExecutorFenceRow δ}
  {fence : BackendFence δ} {envelope : ContainerExecutorRequestEnvelope δ π}
  {admission : ContainerExecutorAdmission δ} {response : ContainerExecutorResponse δ}
  {environmentId : EnvironmentId}

/- An admission or a completion, of any request at any time. -/
inductive ExecutorCall (δ π : Type) where
| admitRequest (clock : UtcTimestamp) (envelope : ContainerExecutorRequestEnvelope δ π)
| complete (fence : BackendFence δ) (response : ContainerExecutorResponse δ)

def fenceLedger (executor : ContainerExecutor δ π) :
    Machine (ExecutorFences δ) (ExecutorCall δ π) where
  init := fun fences => ∀ environmentId, fences environmentId = none
  step := fun fences => fun
  | .admitRequest clock envelope => (executor.admitRequest fences clock envelope).toOption.map (·.2)
  | .complete fence response => (ContainerExecutor.complete fences fence response).toOption

/- The tombstone of a row answers every later request. -/
def ExecutorFenceRow.Buried (row : ExecutorFenceRow δ) : Prop :=
  row.tombstoned = true ∧ (row.lastResponse.filter (·.isDeleted)).isSome = true
deriving Decidable

/- What becomes of the rows: their tokens do not go back, and tombstones stay. -/
def FencesKept (fences later : ExecutorFences δ) : Prop :=
  ∀ environmentId row, fences environmentId = some row → ∃ next, later environmentId = some next ∧
    Below row.token next.token ∧ (row.Buried → next = row)

omit [DecidableEq δ] in
theorem fencesKept_refl (fences : ExecutorFences δ) : FencesKept fences fences :=
  fun _ row hRow => ⟨row, hRow, below_refl _, fun _ => rfl⟩

omit [DecidableEq δ] in
theorem fencesKept_update (hNext : ∀ row, fences environmentId = some row →
      Below row.token next.token ∧ ¬row.Buried) :
    FencesKept fences (Function.update fences environmentId (some next)) := by
  intro other row hRow
  by_cases hSame : other = environmentId
  · subst hSame
    rcases hNext row hRow with ⟨hBelow, hOpen⟩
    exact ⟨next, Function.update_self .., hBelow, fun hBuried => absurd hBuried hOpen⟩
  · refine ⟨row, ?_, below_refl _, fun _ => rfl⟩
    rwa [Function.update_of_ne hSame]

/- A request is replayed, or it is executed under a token above the one held, and never over a
  tombstone. -/
theorem admitAgainst_cases (hAdmit : admitAgainst fences clock fence row = .ok (admission, later)) :
    (∃ response, admission = .replay response) ∧ later = fences ∨
    Below row.token fence.token ∧ ¬row.Buried ∧
      writeFence fences clock fence = .ok (admission, later) := by
  unfold admitAgainst at hAdmit
  split at hAdmit
  · split at hAdmit <;> cases hAdmit
    exact .inl ⟨⟨_, rfl⟩, rfl⟩
  split at hAdmit
  · cases hAdmit
  split at hAdmit
  · split at hAdmit <;> cases hAdmit
    exact .inl ⟨⟨_, rfl⟩, rfl⟩
  · rename_i hOpen
    split at hAdmit
    · cases hAdmit
    split at hAdmit
    · cases hAdmit
    rename_i hFresh hOwn
    refine .inr ⟨below_iff.mpr ⟨hFresh, hOwn⟩, ?_, hAdmit⟩
    rintro ⟨hTombstone, hDeleted⟩
    rcases Option.isSome_iff_exists.mp hDeleted with ⟨response, hResponse⟩
    exact hOpen response hTombstone hResponse

theorem admit_kept (hAdmit : executor.admitRequest fences clock envelope = .ok (admission, later)) :
    FencesKept fences later := by
  simp only [ContainerExecutor.admitRequest, bind_eq_ok] at hAdmit
  rcases hAdmit with ⟨_, _, _, _, hRest⟩
  have hWritten : (∀ row, fences envelope.fence.environmentId = some row →
      Below row.token envelope.fence.token ∧ ¬row.Buried) →
      writeFence fences clock envelope.fence = .ok (admission, later) →
      FencesKept fences later := by
    intro hNext hWrite
    simp only [writeFence, steps_eq_ok] at hWrite
    rcases hWrite with ⟨_, ⟨⟩⟩
    exact fencesKept_update hNext
  split at hRest
  · rename_i held hHeld
    rcases admitAgainst_cases hRest with ⟨_, rfl⟩ | ⟨hBelow, hOpen, hWrite⟩
    · exact fencesKept_refl _
    · refine hWritten ?_ hWrite
      intro row hRow
      cases hHeld.symm.trans hRow
      exact ⟨hBelow, hOpen⟩
  · rename_i hNone
    refine hWritten ?_ hRest
    intro row hRow
    cases hNone.symm.trans hRow

theorem complete_kept (hComplete : ContainerExecutor.complete fences fence response = .ok later) :
    FencesKept fences later := by
  simp only [ContainerExecutor.complete, steps_eq_ok] at hComplete
  rcases hComplete with ⟨held, hHeld, ⟨_, _, hOpen⟩, _, rfl⟩
  refine fencesKept_update ?_
  intro row hRow
  rw [hHeld] at hRow
  cases hRow
  refine ⟨below_refl _, ?_⟩
  rintro ⟨_, hDeleted⟩
  rw [Option.isNone_iff_eq_none.mp hOpen] at hDeleted
  cases hDeleted

theorem fencesKept_leads (hLeads : (fenceLedger executor).Leads fences later) :
    FencesKept fences later := by
  refine Machine.Leads.invariant (I := FencesKept fences) ?_ (fencesKept_refl fences) hLeads
  intro before call after hBefore hStep
  have hAfter : FencesKept before after := by
    cases call with
    | admitRequest clock envelope =>
      rcases Option.map_eq_some_iff.mp hStep with ⟨⟨admission, _⟩, hAdmit, rfl⟩
      exact admit_kept (eq_ok_of_toOption hAdmit)
    | complete fence response => exact complete_kept (eq_ok_of_toOption hStep)
  intro environmentId row hRow
  rcases hBefore environmentId row hRow with ⟨middle, hMiddle, hBelow, hSame⟩
  rcases hAfter environmentId middle hMiddle with ⟨next, hNext, hAbove, hStays⟩
  refine ⟨next, hNext, below_trans hBelow hAbove, ?_⟩
  intro hBuried
  cases hSame hBuried
  exact hStays hBuried

/- The fence of an environment never goes back, and once its deletion is recorded nothing is
  executed for it again. -/
theorem executor_tombstone_final (hLeads : (fenceLedger executor).Leads fences later)
    (hRow : fences environmentId = some row) :
    ∃ next, later environmentId = some next ∧ Below row.token next.token ∧ (row.Buried →
      next = row ∧ ∀ clock envelope remaining after, envelope.fence.environmentId = environmentId →
        executor.admitRequest later clock envelope ≠ .ok (.execute remaining, after)) := by
  rcases fencesKept_leads hLeads environmentId row hRow with ⟨next, hNext, hBelow, hSame⟩
  refine ⟨next, hNext, hBelow, ?_⟩
  intro hBuried
  cases hSame hBuried
  refine ⟨rfl, ?_⟩
  intro clock envelope remaining after hId hAdmit
  simp only [ContainerExecutor.admitRequest, bind_eq_ok, hId, hNext] at hAdmit
  rcases hAdmit with ⟨_, _, _, _, hRest⟩
  rcases admitAgainst_cases hRest with ⟨⟨_, hReplay⟩, _⟩ | ⟨_, hOpen, _⟩
  · cases hReplay
  · exact hOpen hBuried

end

/- The request that deletes the namespace of the environment. -/
def Sample.deletion : BackendFence Digest :=
  containerExecutor.bindRequest
    { protocolVersion := containerBackendProtocolVersion, environmentId, operationId := ⟨1⟩,
      providerStep := 1, generation := 1, attempt := 1, action := .cleanup,
      requestId := .fence ⟨0, environmentId, ⟨1⟩, 0, 0, 0, .cleanup⟩, traceId := "trace",
      deadlineAt := 1000 }
    (.deleteNamespace ())

theorem executor_tombstone_final_deleted : ∃ fences,
    (fenceLedger containerExecutor).Reachable fences ∧ fences environmentId ≠ none ∧
    ∀ clock envelope remaining after, envelope.fence.environmentId = environmentId →
      containerExecutor.admitRequest fences clock envelope ≠ .ok (.execute remaining, after) := by
  have hFound : ∃ fences, (fenceLedger containerExecutor).Reachable fences ∧
      ∃ row, fences environmentId = some row ∧ row.Buried :=
    Machine.exists_reachable [.admitRequest 0 ⟨deletion, .deleteNamespace ()⟩,
      .complete deletion (.deleted deletion.requestId ⟨⟨1⟩, "store", "1", 1, "text/plain"⟩)]
      (s := fun _ => none) (fun _ => rfl) (by decide)
  rcases hFound with ⟨fences, hReach, row, hRow, hBuried⟩
  have hSelf : (fenceLedger containerExecutor).Leads fences fences := .refl
  rcases executor_tombstone_final hSelf hRow with ⟨_, _, _, hFinal⟩
  refine ⟨fences, hReach, ?_, (hFinal hBuried).2⟩
  rw [hRow]
  exact Option.some_ne_none row

end LabWeaver
