import LabWeaver.Environment.Histories
import LabWeaver.Environment.Provider

/-
  This file follows the lease of a Work environment through later commands. The authorization is
  part of the current operation, and a command that needs no lease takes it away, so that a
  redelivered update is refused and a Ready environment can be without its fence. An update also
  moves the eligibility, even of a deleted environment, and the revision that the requests of a
  Restart carry.

  Main declarations: `redelivery_unchanged`, `deleted_row_kept_iff`, `eligibility_bounded`,
  `ready_work_fenced`, `restart_requests_agree`.
-/

namespace LabWeaver

open Outcome Sample Machine

variable {δ : Type} [DecidableEq δ] {hash : RequestDocument → δ} {s s' : ServiceState δ}
  {env updated : EnvironmentInstance} {authorization : EnvironmentLeaseAuthorization}

-- The Same Update Again

/- The lease, its revision and its expiry are the same. -/
def sameLease (authorization value : EnvironmentLeaseAuthorization) : Bool :=
  value.leaseId == authorization.leaseId && value.leaseRevision == authorization.leaseRevision &&
    value.expiresAt == authorization.expiresAt

/- All later commands that are not answered from the ledger, and all later refreshes, bring the same
  authorization. -/
def keepsLease {δ : Type} (environmentId : EnvironmentId)
    (authorization : EnvironmentLeaseAuthorization) (s : ServiceState δ) : ServiceAction → Prop
| .command idempotencyKey command _ lease _ _ =>
  command.environmentId = environmentId →
    s.tables.ledger (operationName command.kind, idempotencyKey) = none →
    lease.any (sameLease authorization) = true
| .refresh refreshed value => refreshed = environmentId → sameLease authorization value = true
| _ => True

instance {δ : Type} {environmentId : EnvironmentId} {s : ServiceState δ} {action} :
    Decidable (keepsLease environmentId authorization s action) := by
  unfold keepsLease
  rcases action <;> infer_instance

section

variable {environmentId : EnvironmentId}

/- A delivery succeeds, and changes nothing, exactly if the current operation holds its
  authorization. -/
theorem delivery_unchanged_iff (hReach : (environmentService hash).Reachable s)
    (hEnv : s.tables.instances environmentId = some env) :
    refreshWorkLease s.tables environmentId authorization = .ok (env, s.tables) ↔
      leaseUnchanged env authorization := by
  constructor
  · intro hRefresh
    rcases refreshWorkLease_eq_ok.mp hRefresh with ⟨_, _, hSame, _⟩ | ⟨current, _, _, _, hTables⟩
    · exact hSame
    · -- a new event would be in the Outbox
      have hOutbox := congrArg (List.length ∘ EnvironmentTables.outbox) hTables
      simp [refreshedTables] at hOutbox
  · intro hSame
    have hValid := (environmentService_phases hReach hEnv).2.valid
    exact refreshWorkLease_eq_ok.mpr (.inl ⟨hEnv, hValid, hSame, rfl⟩)

/- After an accepted update the operation holds its authorization. -/
theorem leaseUnchanged_refreshed (hCoherent : s.Coherent)
    (hStep : s.step hash (.refresh environmentId authorization) = some s') :
    ∃ env, s'.tables.instances environmentId = some env ∧ leaseUnchanged env authorization := by
  simp only [ServiceState.step] at hStep
  split at hStep
  · rename_i result tables hRefresh
    cases hStep
    rcases refreshWorkLease_eq_ok.mp hRefresh with ⟨hStored, _, hSame, rfl⟩ |
      ⟨current, revision, hRefreshed, rfl, rfl⟩
    · exact ⟨result, hStored, hSame⟩
    · refine ⟨refreshedInstance current authorization revision, ?_, ?_⟩
      · rw [refreshedTables, hCoherent.key _ _ hRefreshed.stored]
        exact Function.update_self ..
      · simp [leaseUnchanged, refreshedInstance]
  · cases hStep

/- A step that keeps the lease leaves the authorization with the operation. -/
theorem leaseUnchanged_step {action : ServiceAction} (hCoherent : s.Coherent)
    (hOk : keepsLease environmentId authorization s action) (hStep : s.step hash action = some s')
    (hEnv : s.tables.instances environmentId = some env)
    (hSame : leaseUnchanged env authorization) :
    ∃ next, s'.tables.instances environmentId = some next ∧ leaseUnchanged next authorization := by
  rcases ServiceState.step_stored hCoherent hStep hEnv with ⟨next, hNext, rfl | hMove⟩
  · exact ⟨next, hNext, hSame⟩
  refine ⟨next, hNext, ?_⟩
  have hKey := hCoherent.key _ _ hEnv
  cases hMove with
  | commanded _ hApplied hFree =>
    -- the operation of a command carries the lease of the command
    have hTarget := (hCoherent.key _ _ hApplied.stored).symm.trans hKey
    rcases planCommandAuthorized_eq_ok.mp hApplied.plan with ⟨_, _, _, _, _, hPlanned, _⟩
    rw [hApplied.fence, hPlanned]
    exact hOk hTarget hFree
  | saved _ _ hReconcile =>
    rwa [leaseUnchanged, (ReconcileWorker.reconcile_step hReconcile).kept.lease.1]
  | refreshed hRefreshed =>
    exact hOk ((hCoherent.key _ _ hRefreshed.stored).symm.trans hKey)

/- An applied update succeeds again and changes nothing, whatever else the service has done, if no
  later command or update replaces the authorization. -/
theorem redelivery_unchanged {applied : ServiceState δ}
    (hReach : (environmentService hash).Reachable s)
    (hApplied : s.step hash (.refresh environmentId authorization) = some applied)
    (hRun : ((environmentService hash).startingAt applied).Run
      (keepsLease environmentId authorization) s') :
    ∃ env, s'.tables.instances environmentId = some env ∧
      refreshWorkLease s'.tables environmentId authorization = .ok (env, s'.tables) := by
  have hKept : (environmentService hash).Reachable s' ∧ ∃ env,
      s'.tables.instances environmentId = some env ∧ leaseUnchanged env authorization := by
    induction hRun with
    | start hInit =>
      rw [hInit]
      exact ⟨.next (a := .refresh environmentId authorization) hReach trivial hApplied,
        leaseUnchanged_refreshed (environmentService_coherent hReach) hApplied⟩
    | next _ hOk hStep ih =>
      rcases ih with ⟨hBefore, env, hEnv, hSame⟩
      exact ⟨.next hBefore trivial hStep,
        leaseUnchanged_step (environmentService_coherent hBefore) hOk hStep hEnv hSame⟩
  rcases hKept with ⟨hReach', env, hEnv, hSame⟩
  exact ⟨env, hEnv, (delivery_unchanged_iff hReach' hEnv).mpr hSame⟩

end

namespace Sample

def renew : ServiceAction := .refresh environmentId renewedAuthorization

/- The creation fails and is retried under the renewed lease. -/
def retryRenewed : List ServiceAction :=
  pass 1000 ⟨1⟩ rejected ++
    [renew, .tick 2000, .command "key-retry" (command .retry (revision 3) 2000) none
    (some renewedAuthorization) (some courseId) ⟨2⟩] ++ pass 3000 ⟨2⟩ (progress .validating)

end Sample

/- The update is delivered again before and after a Retry. -/
theorem redelivery_unchanged_retried : ∃ (applied s : ServiceState RequestDocument)
    (env : EnvironmentInstance), ((environmentService id).startingAt applied).Run
      (keepsLease environmentId renewedAuthorization) s ∧
    s.tables.instances environmentId = some env ∧ env.revision.get = 5 ∧
    refreshWorkLease s.tables environmentId renewedAuthorization = .ok (env, s.tables) := by
  have hFound : ∃ s, (environmentService (id : RequestDocument → _)).Reachable s ∧ ∃ applied,
      s.step id renew = some applied ∧
      ((((environmentService id).startingAt applied).guarded fun s action => decide
        (keepsLease environmentId renewedAuthorization s action)).exec applied
          retryRenewed).any (fun s => decide (∃ env,
            s.tables.instances environmentId = some env ∧ env.revision.get = 5)) = true :=
    exists_reachable [createWork] start_initial (by decide)
  rcases hFound with ⟨s, hReach, applied, hApplied, hTest⟩
  rcases exists_run retryRenewed rfl hTest with ⟨s', hRun, env, hEnv, hRevision⟩
  rcases redelivery_unchanged hReach hApplied hRun with ⟨found, hFound, hSame⟩
  cases hEnv.symm.trans hFound
  exact ⟨applied, s', env, hRun, hEnv, hRevision, hSame⟩

/- The lease is renewed, the environment becomes Ready and is stopped. -/
theorem redelivery_refused : ∃ s, (environmentService (id : RequestDocument → _)).Reachable s ∧
    refreshWorkLease s.tables environmentId renewedAuthorization =
      .error .leaseAuthorizationInvalid := by
  exact exists_reachable ([createWork, renew] ++ pass 1000 ⟨1⟩ (progress .validating) ++
    pass 3000 ⟨1⟩ (progress .building) ++
    pass 5000 ⟨1⟩ (progress .provisioning) ++
    pass 7000 ⟨1⟩ (ready (revision 6)) ++
    [request "key-stop" .stop (revision 6) 8000 ⟨2⟩])
    start_initial (by decide)

-- Deleted Environments

/- Neither a command nor a worker moves a deleted environment. -/
theorem not_step_of_deleted (hPhase : PhaseInvariant env)
    (hDeleted : env.observedState = .deleted) :
    (∀ command operationId authorization now next,
      planCommandAuthorized env command operationId authorization now ≠ .ok next) ∧
    ∀ updated, ¬ReconcileStep env updated := by
  constructor
  · intro command operationId authorization now next hPlan
    rcases planCommandAuthorized_eq_ok.mp hPlan with ⟨_, _, _, _, hAccepted, _⟩
    have hAllowed := hAccepted.allowed
    rw [hDeleted] at hAllowed
    cases hKind : command.kind <;> simp [hKind, EnvironmentInstance.operationAllowed] at hAllowed
  · intro updated hStep
    have hActive := hPhase.active hStep.kept.active
    rw [hDeleted] at hActive
    cases hActive

/- A transaction leaves the row of a deleted environment alone exactly if it is not an update of
  the lease. -/
theorem deleted_row_kept_iff {environmentId : EnvironmentId} {action : ServiceAction}
    (hReach : (environmentService hash).Reachable s)
    (hEnv : s.tables.instances environmentId = some env) (hDeleted : env.observedState = .deleted)
    (hStep : s.step hash action = some s') :
    s'.tables.instances environmentId = some env ↔
      ∀ authorization, action = .refresh environmentId authorization →
        leaseUnchanged env authorization := by
  have hCoherent := environmentService_coherent hReach
  have hMoves := not_step_of_deleted (environmentService_phases hReach hEnv).1 hDeleted
  constructor
  · rintro hKept authorization rfl
    rcases leaseUnchanged_refreshed hCoherent hStep with ⟨next, hNext, hSame⟩
    cases hKept.symm.trans hNext
    exact hSame
  · intro hKept
    rcases ServiceState.step_stored hCoherent hStep hEnv with ⟨next, hNext, rfl | hMove⟩
    · exact hNext
    · exfalso
      cases hMove with
      | commanded _ hApplied _ => exact hMoves.1 _ _ _ _ _ hApplied.plan
      | saved _ _ hReconcile => exact hMoves.2 _ (ReconcileWorker.reconcile_step hReconcile)
      | refreshed hRefreshed =>
        have hKey := (hCoherent.key _ _ hRefreshed.stored).symm.trans (hCoherent.key _ _ hEnv)
        subst hKey
        exact hRefreshed.changed (hKept _ rfl)

namespace Sample

def deleteWork : List ServiceAction :=
  [createWork, request "key-delete" .delete (revision 1) 0 ⟨2⟩] ++ pass 1000 ⟨2⟩ (.answered (.ok
      { nextState := .deleted, endpoints := [],
        cleanupEvidence := some ⟨⟨1⟩, "store", "1", 1, "text/plain"⟩, operationComplete := true }))

end Sample

/- A renewal of its lease is delivered again. -/
theorem deleted_row_kept_redelivered : ∃ (s s' : ServiceState RequestDocument)
    (env : EnvironmentInstance), (environmentService id).Reachable s ∧
    env.observedState = .deleted ∧ s.step id renew = some s' ∧
    s'.tables.instances environmentId = some env := by
  have hFound : ∃ s, (environmentService id).Reachable s ∧ (∃ env,
      s.tables.instances environmentId = some env ∧ env.observedState = .deleted ∧
      leaseUnchanged env renewedAuthorization) ∧ (s.step id renew).isSome = true :=
    exists_reachable (deleteWork ++ [renew]) start_initial (by decide)
  rcases hFound with ⟨s, hReach, ⟨env, hEnv, hDeleted, hSame⟩, hSome⟩
  rcases Option.isSome_iff_exists.mp hSome with ⟨s', hStep⟩
  refine ⟨s, s', env, hReach, hDeleted, hStep,
    (deleted_row_kept_iff hReach hEnv hDeleted hStep).mpr ?_⟩
  rintro authorization ⟨⟩
  exact hSame

/- The lease of the deleted environment is renewed. -/
theorem deleted_row_changed : ∃ s, (environmentService (id : RequestDocument → _)).Reachable s ∧
    (∃ env, s.tables.instances environmentId = some env ∧ env.observedState = .deleted) ∧
    ∃ s', s.step id renew = some s' ∧
      s'.tables.instances environmentId ≠ s.tables.instances environmentId := by
  exact exists_reachable deleteWork start_initial (by decide)

-- Eligibility

/- A Work environment from its creation under a retention bound, with the expiry of the last
  accepted lease. In a `limited` run a refresh stays within the bound, and the lease of a command
  outlasts the eligibility. -/
inductive WorkRun (limited : Prop) (retention : UtcTimestamp) :
    EnvironmentInstance → UtcTimestamp → Prop where
| created {env : EnvironmentInstance} {command : EnvironmentLifecycleCommand}
    {spec : EnvironmentCreateSpec} {lease : EnvironmentLeaseAuthorization} {now : UtcTimestamp}
    {courseId : CourseId} {operationId : OperationId} (hWork : spec.environmentClass = .work)
    (hRetention : spec.eligibilityExpiresAt = retention)
    (hBuild : buildCreateInstance command spec (some lease) now courseId operationId = .ok env) :
    WorkRun limited retention env lease.expiresAt
| commanded {env planned : EnvironmentInstance} {last now nextAttemptAt : UtcTimestamp}
    {command : EnvironmentLifecycleCommand} {operationId : OperationId}
    {lease : Option EnvironmentLeaseAuthorization} (hRun : WorkRun limited retention env last)
    (hPlan : planCommandAuthorized env command operationId lease now = .ok planned)
    (hLimit : limited → ∀ value ∈ lease, env.eligibilityExpiresAt ≤ value.expiresAt) :
    WorkRun limited retention (planned.withNextAttempt nextAttemptAt)
      ((lease.map (·.expiresAt)).getD last)
| reconciled {env updated : EnvironmentInstance} {last : UtcTimestamp}
    (hRun : WorkRun limited retention env last) (hStep : ReconcileStep env updated) :
    WorkRun limited retention updated last
| refreshed {env : EnvironmentInstance} {last : UtcTimestamp}
    {lease : EnvironmentLeaseAuthorization} {revision : Revision}
    (hRun : WorkRun limited retention env last) (hExtends : extendsLease env lease)
    (hRevision : revision.get = env.revision.get + 1)
    (hLimit : limited → lease.expiresAt ≤ retention) :
    WorkRun limited retention (refreshedInstance env lease revision) lease.expiresAt

/- In every limited run the eligibility ends with the retention bound and with the last accepted
  lease. -/
theorem eligibility_bounded {retention last : UtcTimestamp}
    (hRun : WorkRun True retention env last) : env.eligibilityExpiresAt ≤ min retention last := by
  induction hRun with
  | created hWork hRetention hBuild =>
    simp only [buildCreateInstance, createEligibility, hWork, steps_eq_ok, Option.some.injEq,
      exists_eq_left'] at hBuild
    rcases hBuild with ⟨_, _, ⟨_, ⟨⟩⟩, _, _, ⟨⟩⟩
    rw [← hRetention]
    exact Int.le_refl _
  | @commanded _ _ _ _ _ _ _ lease _ hPlan hLimit ih =>
    rcases planCommandAuthorized_eq_ok.mp hPlan with ⟨_, _, _, _, _, rfl, _⟩
    rcases Int.le_min.mp ih with ⟨hRetained, hLeased⟩
    refine Int.le_min.mpr ⟨hRetained, ?_⟩
    cases lease with
    | none => exact hLeased
    | some value => exact hLimit trivial value rfl
  | reconciled _ hStep ih =>
    rw [hStep.kept.lease.2]
    exact ih
  | refreshed _ _ _ hLimit _ => exact Int.le_min.mpr ⟨hLimit trivial, Int.le_refl _⟩

/- Environments are created by commands, with a specification. -/
def createdByCommand {δ : Type} (_ : ServiceState δ) : ServiceAction → Prop
| .create _ _ => False
| _ => True

/- What a command has built from the specification of a Work environment. -/
theorem WorkRun.built {command : EnvironmentLifecycleCommand} {spec : EnvironmentCreateSpec}
    {lease : Option EnvironmentLeaseAuthorization} {now : UtcTimestamp} {courseId : CourseId}
    {operationId : OperationId} (hWork : env.environmentClass = .work)
    (hBuild : buildCreateInstance command spec lease now courseId operationId = .ok env) :
    ∃ last, WorkRun False spec.eligibilityExpiresAt env last := by
  have hSteps := hBuild
  simp only [buildCreateInstance, createEligibility, steps_eq_ok] at hSteps
  rcases hSteps with ⟨_, _, hEligible, _, _, hReturn⟩
  have hClass : spec.environmentClass = .work := by
    cases hReturn
    exact hWork
  rw [hClass] at hEligible
  simp only [steps_eq_ok] at hEligible
  rcases hEligible with ⟨value, rfl, _⟩
  exact ⟨_, .created hClass rfl hBuild⟩

/- Every Work environment that the service stores has such a run. -/
theorem environmentService_workRun {environmentId : EnvironmentId}
    (hRun : (environmentService hash).Run createdByCommand s)
    (hEnv : s.tables.instances environmentId = some env) (hWork : env.environmentClass = .work) :
    ∃ retention last, WorkRun False retention env last := by
  induction hRun generalizing env with
  | start hInit =>
    rw [hInit.instances] at hEnv
    cases hEnv
  | @next s _ action hBefore hOk hNext ih =>
    have hRow := ServiceState.step_rows (environmentService_coherent hBefore)
      (ServiceState.step_cases hNext) environmentId
    rw [hEnv] at hRow
    generalize hOld : s.tables.instances environmentId = row at hRow
    cases hRow with
    | unchanged => exact ih hOld hWork
    | created _ hCreates _ _ =>
      cases action with
      | command _ request given lease courseId operationId =>
        rcases hCreates with ⟨spec, course, _, _, hBuild⟩
        exact ⟨_, WorkRun.built hWork hBuild⟩
      | create _ _ => cases hOk
      | _ => cases hCreates
    | stepped hMove _ =>
      have hSame := (hMove.instanceStep (commandsMeet_true _ _)).identity_eq
      rcases ih hOld ((congrArg (·.2.2.2.1) hSame).symm.trans hWork) with ⟨retention, last, hWas⟩
      cases hMove with
      | commanded _ hApplied _ =>
        rw [hApplied.fence]
        exact ⟨retention, _, .commanded hWas hApplied.plan False.elim⟩
      | saved _ _ hReconcile =>
        exact ⟨retention, _, .reconciled hWas (ReconcileWorker.reconcile_step hReconcile)⟩
      | refreshed hRefreshed =>
        exact ⟨retention, _, .refreshed hWas hRefreshed.extendsHeld hRefreshed.nextRevision
          False.elim⟩

namespace Sample

/- A Work environment under the retention bound `1500000` with a lease until `1000000`. -/
def work : EnvironmentInstance :=
  createdInstance (command .create Revision.one 0)
    { workSpec with eligibilityExpiresAt := 1500000 } (some leaseAuthorization) 1000000 ⟨1⟩

theorem work_created (limited : Prop) : WorkRun limited 1500000 work 1000000 := by
  have hBuild : buildCreateInstance (command .create Revision.one 0)
      { workSpec with eligibilityExpiresAt := 1500000 } (some leaseAuthorization) 0 courseId ⟨1⟩ =
        .ok work := by
    decide
  exact .created rfl rfl hBuild

theorem work_refreshed {limited : Prop} {expiresAt : UtcTimestamp} (hLater : 1000000 < expiresAt)
    (hLimit : limited → expiresAt ≤ 1500000) :
    WorkRun limited 1500000 (refreshedInstance work { renewedAuthorization with expiresAt }
      (revision 2)) expiresAt := by
  have hRevision : (heldLeaseRevision work).get < renewedAuthorization.leaseRevision.get := by
    decide
  exact .refreshed (work_created limited) ⟨rfl, rfl, rfl, rfl, rfl, hRevision, hLater⟩ (by decide)
    hLimit

/- Its lease is renewed until the bound, its creation fails and is retried under that lease. -/
def workRetried : Except LifecycleError EnvironmentInstance := do
  let lease := { renewedAuthorization with expiresAt := 1500000 }
  let failed ← applyProviderFailure (refreshedInstance work lease (revision 2)) ⟨1⟩
    ProviderFailureCode.rejected.diagnosticCode
  planCommandAuthorized failed (command .retry (revision 3) 2000) ⟨2⟩ (some lease) 2000

end Sample

theorem eligibility_bounded_retried : ∃ env, workRetried = .ok env ∧
    WorkRun True 1500000 env 1500000 ∧ env.eligibilityExpiresAt ≤ min 1500000 1500000 := by
  have hRetried : workRetried.isOk = true := by
    decide
  rcases isOk_iff.mp hRetried with ⟨env, hOk⟩
  have hSteps := hOk
  simp only [workRetried, bind_eq_ok] at hSteps
  rcases hSteps with ⟨failed, hFailed, hPlan⟩
  have hStep : ReconcileStep _ failed := .failure hFailed
  have hRun : WorkRun True 1500000 env 1500000 := by
    refine .commanded (.reconciled (work_refreshed (by decide) (fun _ => by decide)) hStep) hPlan ?_
    rintro _ value ⟨⟩
    rw [hStep.kept.lease.2]
    exact Int.le_refl _
  exact ⟨env, hOk, hRun, eligibility_bounded hRun⟩

/- The lease is renewed beyond the retention bound. -/
theorem eligibility_exceeds_retention : ∃ env last, WorkRun False 1500000 env last ∧
    1500000 < env.eligibilityExpiresAt := by
  exact ⟨_, 2000000, work_refreshed (by decide) False.elim, by decide⟩

-- Ready Environments

variable (env)

/- `resolve_console_eligibility` finds a Work environment without its lease fence. -/
def fenceMissing : Prop :=
  env.environmentClass = .work ∧ env.operation.leaseAuthorization = none
deriving Decidable

/- What `authorize_console_instance` asks of the state. -/
def consoleAvailable (now : UtcTimestamp) : Prop :=
  env.desiredState = .running ∧ env.observedState = .ready ∧ now < env.eligibilityExpiresAt
deriving Decidable

/- A Work environment is neither restarted nor frozen. -/
def keepsFence (command : EnvironmentLifecycleCommand) : Prop :=
  env.environmentClass = .work → command.kind ≠ .restart ∧ command.kind ≠ .freeze

/- The operations that neither carry a lease nor end in Ready. -/
def EnvironmentOperationKind.windsDown : EnvironmentOperationKind → Bool
| .stop | .cancel | .expire | .delete | .cleanup => true
| _ => false

/- An environment without its fence is wound down. -/
def WoundDown : Prop :=
  fenceMissing env → env.operation.kind.windsDown = true ∧ env.observedState ≠ .ready

variable {env}

theorem WoundDown.reconciled (hBefore : WoundDown env) (hStep : ReconcileStep env updated) :
    WoundDown updated := by
  intro hMissing
  have hKept := hStep.kept
  have hClass : updated.environmentClass = env.environmentClass :=
    congrArg (·.2.2.2.1) hKept.identity
  rw [fenceMissing, hClass, hKept.lease.1] at hMissing
  rcases hBefore hMissing with ⟨hKind, hReady⟩
  refine ⟨hKept.operation.2 ▸ hKind, ?_⟩
  cases hStep with
  | cleanup hCleanup =>
    rcases beginTimeoutCleanup_eq_ok.mp hCleanup with ⟨_, _, _, _, rfl, _⟩
    exact fun hNow => by cases hNow
  | observation _ hApplied _ =>
    rcases applyProviderObservation_eq_ok.mp hApplied with ⟨_, _, hObserved, rfl, _⟩
    have hMatch := hObserved.allowed.1
    intro hNow
    simp only [EnvironmentInstance.withNextAttempt, observedInstance] at hNow
    rw [hNow] at hMatch
    cases hWinds : env.operation.kind <;> cases hState : env.observedState <;>
      simp_all [EnvironmentOperationKind.windsDown, transitionMatchesOperation]
  | retry hRetry =>
    rcases applyRetry_eq_ok.mp hRetry with ⟨_, _, rfl, _⟩
    exact hReady
  | failure hFailure =>
    rcases applyProviderFailure_eq_ok.mp hFailure with ⟨_, _, rfl, _⟩
    exact fun hNow => by cases hNow

theorem WoundDown.step (hBefore : WoundDown env) (hStep : InstanceStep keepsFence env updated) :
    WoundDown updated := by
  cases hStep with
  | @command command _ lease _ _ _ hKeeps hKind hPlan =>
    rcases planCommandAuthorized_eq_ok.mp hPlan with ⟨_, _, observed, _, hAccepted, rfl, _⟩
    rintro ⟨hWork, hNone⟩
    change env.environmentClass = .work at hWork
    change lease = none at hNone
    change command.kind.windsDown = true ∧ observed ≠ .ready
    rcases hKeeps hWork with ⟨hRestart, hFreeze⟩
    have hLease := hAccepted.lease
    have hTarget := hAccepted.target
    rw [leaseAuthorized, hWork, hNone] at hLease
    cases hCommand : command.kind <;>
      simp_all [EnvironmentOperationKind.needsEligibility, acceptedTarget,
        EnvironmentOperationKind.windsDown] <;>
      subst hTarget <;> decide
  | reconcile hReconcile => exact hBefore.reconciled hReconcile
  | refresh _ _ =>
    rintro ⟨_, ⟨⟩⟩

/- A Work environment whose console is available has its lease fence, if no Work environment is
  restarted or frozen. -/
theorem ready_work_fenced {environmentId : EnvironmentId} {now : UtcTimestamp}
    (hRun : (environmentService hash).Run (commandsMeet keepsFence) s)
    (hEnv : s.tables.instances environmentId = some env) (hAvailable : consoleAvailable env now) :
    ¬fenceMissing env := by
  have hDown : WoundDown env := environmentService_instances
    (fun env hFresh _ hMissing => absurd hMissing.2
      (hFresh.leased hMissing.1))
    (fun env updated hBefore hStep _ => hBefore.step hStep) hRun environmentId env hEnv
  intro hMissing
  exact (hDown hMissing).2 hAvailable.2.1

theorem ready_work_fenced_created : ∃ (s : ServiceState RequestDocument)
    (env : EnvironmentInstance), (environmentService id).Run (commandsMeet keepsFence) s ∧
    s.tables.instances environmentId = some env ∧ consoleAvailable env 8000 ∧
    ¬fenceMissing env := by
  have hOk : ∀ action ∈ readyWork, ∀ s : ServiceState RequestDocument,
      commandsMeet keepsFence s action := by
    simp [readyWork, createWork, Sample.pass, command, commandsMeet, keepsFence]
  have hFound : ∃ s, (environmentService id).Run (commandsMeet keepsFence) s ∧
      ∃ env, s.tables.instances environmentId = some env ∧ consoleAvailable env 8000 :=
    exists_run_of_exec _ start_initial hOk (by decide)
  rcases hFound with ⟨s, hRun, env, hEnv, hAvailable⟩
  exact ⟨s, env, hRun, hEnv, hAvailable, ready_work_fenced hRun hEnv hAvailable⟩

theorem ready_work_unfenced : ∃ s, (environmentService (id : RequestDocument → _)).Reachable s ∧
    ∃ env, s.tables.instances environmentId = some env ∧ consoleAvailable env s.clock ∧
      fenceMissing env := by
  exact exists_reachable (readyWork ++ request "key-freeze" .freeze (revision 5) 8000 ⟨2⟩ ::
      pass 9000 ⟨2⟩ (ready (revision 7)))
    start_initial (by decide)

-- Restarts

variable (worker : ReconcileWorker)

/- A failure is not tried again: the attempts are used up, or the next one is after the deadline. -/
def lastAttempt (env : EnvironmentInstance) (now : UtcTimestamp) : Prop :=
  env.operation.attempt < env.operation.maxAttempts →
    ∀ retryAt ∈ addDuration now worker.retryDelay, env.operation.deadlineAt < retryAt
deriving Decidable

/- The Provider does not answer that the environment is still `Provisioning`, and a failure is
  final. -/
def settles (env : EnvironmentInstance) (now : UtcTimestamp) : ProviderAnswer → Prop
| .answered (.ok observation) => observation.nextState ≠ .provisioning
| .answered (.error failure) => failure.retryable = true → lastAttempt worker env now
| _ => lastAttempt worker env now

instance {worker : ReconcileWorker} {now : UtcTimestamp} {answer} :
    Decidable (settles worker env now answer) := by
  unfold settles
  split <;> infer_instance

/- Every answer to a Restart in `Provisioning` settles it or is late, and no lease is refreshed
  before the Restart has ended. -/
def settlesRestarts {δ : Type} (s : ServiceState δ) : ServiceAction → Prop
| .reconcile _ holder worker now answer =>
  ∀ lease ∈ s.leases[holder]?, lease.env.operation.kind = .restart →
    lease.env.observedState = .provisioning →
    lease.env.operation.deadlineAt < now ∧ lease.env.operation.cleanupStartedAt = none ∨
      settles worker lease.env now answer
| .refresh environmentId _ =>
  ∀ env ∈ s.tables.instances environmentId, env.operation.kind = .restart →
    env.operation.state.active = false
| _ => True

instance {δ : Type} {s : ServiceState δ} {action} : Decidable (settlesRestarts s action) := by
  unfold settlesRestarts
  rcases action <;> infer_instance

/- A Restart that is worked off stands at the revision it was accepted at. -/
def RestartAsAccepted (env : EnvironmentInstance) : Prop :=
  env.operation.kind = .restart → env.operation.state.active = true →
    env.observedState = .provisioning → env.revision = env.operation.acceptedRevision

section

variable {worker : ReconcileWorker} {now : UtcTimestamp}

/- An observation of a Restart leads to `Provisioning` from there alone. -/
theorem recorded_observation {observation : ProviderObservation}
    (hRecord : worker.recordObservation env now observation = .ok updated)
    (hState : updated.observedState = .provisioning) (hKind : env.operation.kind = .restart) :
    observation.nextState = .provisioning ∧ env.observedState = .provisioning := by
  unfold ReconcileWorker.recordObservation at hRecord
  split at hRecord
  · rename_i applied hApplied
    rcases applyProviderObservation_eq_ok.mp hApplied with ⟨_, _, hObserved, hEq, hValid⟩
    rcases ReconcileWorker.deferNonTerminalObservation_eq_ok hValid hRecord with ⟨_, rfl, _⟩
    rw [hEq] at hState
    change observation.nextState = .provisioning at hState
    have hMatch := hObserved.allowed.1
    rw [hState, hKind] at hMatch
    refine ⟨hState, ?_⟩
    cases hWas : env.observedState <;> simp_all [transitionMatchesOperation]
  · rcases applyProviderFailure_eq_ok.mp (mapError_eq_ok.mp hRecord) with ⟨_, _, rfl, _⟩
    cases hState
  · cases hRecord

/- A failure leaves `Provisioning` to another attempt alone. -/
theorem recorded_error {error : ReconcileError}
    (hRecord : worker.recordError env now error = .ok updated)
    (hState : updated.observedState = .provisioning) :
    error.retryable = true ∧ ¬lastAttempt worker env now ∧ env.observedState = .provisioning := by
  have hFailed : ∀ code, ReconcileWorker.recordFailure env code ≠ .ok updated := by
    intro code hFailure
    rcases applyProviderFailure_eq_ok.mp (mapError_eq_ok.mp hFailure) with ⟨_, _, rfl, _⟩
    cases hState
  unfold ReconcileWorker.recordError at hRecord
  split at hRecord
  · rename_i hAgain
    simp only [steps_eq_ok] at hRecord
    rcases hRecord with ⟨retryAt, hRetryAt, hRest⟩
    split at hRest
    · rename_i hTimely
      rcases applyRetry_eq_ok.mp (mapError_eq_ok.mp hRest) with ⟨_, _, rfl, _⟩
      refine ⟨hAgain.1, ?_, hState⟩
      intro hLast
      exact absurd hTimely (Int.not_le.mpr (hLast hAgain.2 retryAt hRetryAt))
    · exact absurd hRest (hFailed _)
  · exact absurd hRecord (hFailed _)

/- A settled Restart is not worked off again. -/
theorem restart_settled {answer : ProviderAnswer}
    (hSettles : env.operation.kind = .restart → env.observedState = .provisioning →
      env.operation.deadlineAt < now ∧ env.operation.cleanupStartedAt = none ∨
        settles worker env now answer)
    (hReconcile : worker.reconcile env now answer = .ok updated) : RestartAsAccepted updated := by
  intro hKind _ hState
  have hKept := (ReconcileWorker.reconcile_step hReconcile).kept
  rw [hKept.operation.2] at hKind
  exfalso
  unfold ReconcileWorker.reconcile at hReconcile
  split at hReconcile
  · -- a timeout leads to the cleanup
    simp only [bind_eq_ok] at hReconcile
    rcases hReconcile with ⟨_, _, hCleanup⟩
    rcases beginTimeoutCleanup_eq_ok.mp (mapError_eq_ok.mp hCleanup) with ⟨_, _, _, _, rfl, _⟩
    cases hState
  · rename_i hTimely
    have hAnswer := fun hWas => (hSettles hKind hWas).resolve_left hTimely
    cases hNext : nextAction env now with
    | error failure =>
      simp only [executeOnce, hNext] at hReconcile
      rcases recorded_error hReconcile hState with ⟨_, _, hWas⟩
      rw [nextAction_eq env now hKept.active] at hNext
      simp [actionFor, hKind, hWas] at hNext
    | ok action =>
      simp only [executeOnce, hNext] at hReconcile
      cases answer with
      | unregistered | timedOut =>
        rcases recorded_error hReconcile hState with ⟨_, hMore, hWas⟩
        exact hMore (hAnswer hWas)
      | answered result =>
        cases result with
        | error failure =>
          rcases recorded_error hReconcile hState with ⟨hRetryable, hMore, hWas⟩
          exact hMore (hAnswer hWas hRetryable)
        | ok observation =>
          rcases recorded_observation hReconcile hState hKind with ⟨hSame, hWas⟩
          exact hAnswer hWas hSame

end

theorem restarts_as_accepted (hRun : (environmentService hash).Run settlesRestarts s) :
    (∀ environmentId env, s.tables.instances environmentId = some env → RestartAsAccepted env) ∧
    ∀ lease ∈ s.leases, RestartAsAccepted lease.env := by
  induction hRun with
  | start hInit =>
    constructor
    · intro environmentId env hEnv
      rw [hInit.instances] at hEnv
      cases hEnv
    · intro lease hLease
      rw [hInit.leases] at hLease
      cases hLease
  | @next s s' action hBefore hOk hNext ih =>
    have hCoherent := environmentService_coherent hBefore
    have hCases := ServiceState.step_cases hNext
    have hStored : ∀ environmentId env, s'.tables.instances environmentId = some env →
        RestartAsAccepted env := by
      intro environmentId env hEnv
      have hRow := ServiceState.step_rows hCoherent hCases environmentId
      rw [hEnv] at hRow
      generalize hOld : s.tables.instances environmentId = row at hRow
      cases hRow with
      | unchanged => exact ih.1 environmentId env hOld
      | created _ _ hFresh _ =>
        intro hKind
        cases hFresh.1.symm.trans hKind
      | stepped hMove _ =>
        cases hMove with
        | commanded _ hApplied _ =>
          rcases planCommandAuthorized_eq_ok.mp hApplied.plan with ⟨_, _, _, _, _, hPlanned, _⟩
          rw [hApplied.fence, hPlanned]
          exact fun _ _ _ => rfl
        | saved hHeld hLease hReconcile =>
          subst hLease
          exact restart_settled (hOk _ hHeld) hReconcile
        | refreshed hRefreshed =>
          intro hKind hActive
          have hEnded := hOk _ hRefreshed.stored hKind
          exact absurd (hActive.symm.trans hEnded) (by decide)
    refine ⟨hStored, ?_⟩
    intro lease hLease
    rcases ServiceState.step_leases hCoherent hCases lease hLease with hOld | hNew
    · exact ih.2 lease hOld
    · exact hStored _ _ hNew

/- Every Restart request carries the revision at which its command was accepted, in the runs whose
  answers settle every Restart. -/
theorem restart_requests_agree {ε ρ π : Type} {provider : ContainerProvider ε ρ π}
    {fence : BackendFence ε} {plan : π} {lease : LeasedEnvironment} {now : UtcTimestamp}
    (hRun : (environmentService hash).Run settlesRestarts s) (hLease : lease ∈ s.leases)
    (hAction : nextAction lease.env now = .ok .restart) :
    provider.callRunning lease.env fence plan .restart =
      provider.backend.restart fence plan lease.env.operation.acceptedRevision := by
  rcases nextAction_eq_ok.mp hAction with ⟨hActive, hAction⟩
  have hRestart : lease.env.operation.kind = .restart ∧
      lease.env.observedState = .provisioning := by
    unfold actionFor at hAction
    split at hAction <;> try split at hAction
    all_goals simp_all
  unfold ContainerProvider.callRunning
  rw [(restarts_as_accepted hRun).2 lease hLease hRestart.1 hActive hRestart.2]

namespace Sample

def restart : List ServiceAction :=
  readyWork ++ [.command "key-restart"
    { command .restart (revision 5) 7000 with preserveMutableDisk := true } none none
    (some courseId) ⟨2⟩]

def claimRestart (now : UtcTimestamp) (leaseToken : BitVec 128) : List ServiceAction :=
  [.tick now, .claim now "worker" 5000 leaseToken ⟨2⟩]

end Sample

/- A first worker is slow, a second one asks for the Restart and finds the environment ready. -/
theorem restart_requests_agree_ready : ∃ (s : ServiceState RequestDocument)
    (env : EnvironmentInstance) (lease : LeasedEnvironment),
    (environmentService id).Run settlesRestarts s ∧
    s.tables.instances environmentId = some env ∧ env.observedState = .ready ∧
    lease ∈ s.leases ∧ nextAction lease.env 20000 = .ok .restart ∧
    ∀ (provider : ContainerProvider Nat Nat Nat) fence plan,
      provider.callRunning lease.env fence plan .restart =
        provider.backend.restart fence plan lease.env.operation.acceptedRevision := by
  have hFound : ∃ s, (environmentService (id : RequestDocument → _)).Run settlesRestarts s ∧
      (∃ env, s.tables.instances environmentId = some env ∧ env.observedState = .ready) ∧
      ∃ lease ∈ s.leases, nextAction lease.env 20000 = .ok .restart :=
    exists_run (restart ++ claimRestart 9000 7 ++ pass 20000 ⟨2⟩ (ready (revision 7)))
      start_initial (by decide)
  rcases hFound with ⟨s, hRun, ⟨env, hEnv, hReady⟩, lease, hLease, hAction⟩
  exact ⟨s, env, lease, hRun, hEnv, hReady, hLease, hAction,
    fun _ _ _ => restart_requests_agree hRun hLease hAction⟩

/- A second worker reports that the environment is not ready, and a third one asks for the same
  Restart at the next revision. -/
theorem restart_requests_differ : ∃ s, (environmentService (id : RequestDocument → _)).Reachable s ∧
    ∃ first ∈ s.leases, ∃ second ∈ s.leases, first.env.operation.id = second.env.operation.id ∧
      nextAction first.env 30000 = .ok .restart ∧ nextAction second.env 30000 = .ok .restart ∧
      first.env.revision ≠ second.env.revision := by
  exact exists_reachable (restart ++ claimRestart 9000 7 ++
    pass 20000 ⟨2⟩ (progress .provisioning) ++ claimRestart 30000 8)
    start_initial (by decide)

end LabWeaver
