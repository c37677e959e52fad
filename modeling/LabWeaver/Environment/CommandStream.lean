import LabWeaver.Environment.Messaging

/-
  This file determines when the consumer of lifecycle commands gets past a message. The watermark
  moves in the transaction that applies a message, so that a message terminated without being
  applied leaves later messages behind a gap.

  Main declaration: `next_message_not_gap_iff`.
-/

namespace LabWeaver

open Outcome Sample

-- One Delivery

namespace JetStreamCommandConsumer

variable {δ : Type} {payloadHash : InboundDocument → δ} {consumer : JetStreamCommandConsumer}
  {w : CommandWorld δ} {delivery : CommandDelivery δ}

/- The environment of a message, as the inbox knows it. -/
def aggregate (consumer : JetStreamCommandConsumer) (environmentId : EnvironmentId) :
    String × EnvironmentId :=
  (consumer.consumerName, environmentId)

variable (payloadHash) (consumer)

/- A delivered message, as the inbox knows it. -/
def event (message : LifecycleCommandMessage) :
    InboxEvent (String × EventId) (String × EnvironmentId) δ where
  eventId := (consumer.consumerName, message.id)
  aggregate := consumer.aggregate message.data.command.environmentId
  sequence := message.aggregateSequence.get
  payloadHash := payloadHash
    { idempotencyKey := message.data.idempotencyKey, command := message.data.command,
      create := message.data.create }

/- A consumer asks the inbox under a name that it takes. -/
theorem tokenValid : consumerTokenValid consumer.consumerName := by
  have hToken := consumer.valid
  refine ⟨trimIsEmpty_of_validToken hToken, ?_, anyControl_of_validToken hToken⟩
  simp only [validToken, Bool.and_eq_true, decide_eq_true_eq] at hToken
  omega

variable {consumer}

variable {inbound : InboundLifecycleCommand}

/- The checks pass the identity of the message on. -/
theorem event_of_inbound (hInbound : consumer.inbound w delivery = .ok inbound) :
    inbound.consumer = consumer.consumerName ∧ inbound.inboxEvent payloadHash =
      consumer.event payloadHash delivery.message := by
  simp only [JetStreamCommandConsumer.inbound, steps_eq_ok] at hInbound
  rcases hInbound with ⟨-, -, -, authorization, -, rfl⟩
  exact ⟨rfl, rfl⟩

variable {payloadHash}

@[simp] theorem reject_inbox (eventId : Option EventId) (diagnosticCode : String) :
    (consumer.reject w delivery eventId diagnosticCode).2.inbox = w.inbox := by
  unfold reject
  split <;> rfl

variable {outcome : CommandConsumeOutcome}

/- A message that is to be delivered again is not done. -/
theorem settle_deferred (hSettle : settle delivery .deferred = .ok outcome) :
    outcome.terminal = false := by
  simp only [settle, steps_eq_ok] at hSettle
  cases hSettle.2
  rfl

@[simp] theorem refuse_inbox (error : EnvironmentStoreError) :
    (consumer.refuse w delivery error).2.inbox = w.inbox := by
  unfold refuse
  split
  · rfl
  · exact reject_inbox _ _

variable [DecidableEq δ] {hash : RequestDocument → δ}

/- A creation has its specification, any other command has none and is applied to the stored
  aggregate. A completed key is answered from the ledger. -/
def CommandAcceptable (hash : RequestDocument → δ) (tables : EnvironmentTables δ)
    (clock : UtcTimestamp) (message : LifecycleCommandMessage)
    (lease : Option EnvironmentLeaseAuthorization) (operationId : OperationId) : Prop :=
  let command := message.data.command
  let key := message.data.idempotencyKey
  IdempotencyKey.parses key = true ∧
  if command.kind = .create then
    ∃ spec env, message.data.create = some spec ∧
      buildCreateInstance command spec lease clock message.courseId operationId = .ok env ∧
      env.Valid ∧ freshAggregate env ∧
      (tables.ledger ("create", key) = none ∧ EnvironmentInserted tables env ∨
        ∃ accepted, tables.ledger ("create", key) = some
          { requestHash := hash (.create (createDocument env)), result := some accepted })
  else
    message.data.create = none ∧
    (tables.ledger (operationName command.kind, key) = none ∧ (∃ current planned fenced,
      CommandApplied tables clock command lease operationId current planned fenced ∧
        message.courseId = current.courseId) ∨
      ∃ accepted, tables.ledger (operationName command.kind, key) = some
        { requestHash := hash (.command command), result := some accepted })

/- The checks on a message and on the state before it that lead to its command being applied. -/
structure Applies (hash : RequestDocument → δ) (payloadHash : InboundDocument → δ)
    (consumer : JetStreamCommandConsumer) (w : CommandWorld δ)
    (delivery : CommandDelivery δ) : Prop where
  size : delivery.payloadSize ≤ maxCommandBytes
  decodes : delivery.decodes = true
  contract : delivery.message.Valid environmentLifecycleRequested
  revision : delivery.message.aggregateRevision = delivery.message.data.command.expectedRevision
  unknown : w.inbox.find (consumer.consumerName, delivery.message.id) = none
  next : delivery.message.aggregateSequence.get =
    w.inbox.expected (consumer.aggregate delivery.message.data.command.environmentId)
  free : ¬w.inbox.Taken (consumer.event payloadHash delivery.message)
  command : ∃ lease, resolveLeaseAuthorization w.service.tables delivery = .ok lease ∧
    CommandAcceptable hash w.service.tables w.service.clock delivery.message lease
      delivery.operationId
  answered : delivery.fate = .answered

theorem commandAcceptable_iff {tables : EnvironmentTables δ} {clock : UtcTimestamp}
    {message : LifecycleCommandMessage} {lease : Option EnvironmentLeaseAuthorization}
    {operationId : OperationId} :
    CommandAcceptable hash tables clock message lease operationId ↔ ∃ result,
      acceptCommandInTransaction hash tables clock message.data.idempotencyKey message.data.command
        message.data.create lease (some message.courseId) operationId = .ok result := by
  unfold CommandAcceptable
  by_cases hKind : message.data.command.kind = .create
  · simp only [acceptCommandInTransaction, if_pos hKind, steps_eq_ok, Prod.exists,
      createInTransaction_eq_ok]
    constructor
    · rintro ⟨hKey, spec, env, hSpec, hBuild, hValid, hFresh, ⟨hFree, hInserted⟩ | ⟨accepted, hOld⟩⟩
      · exact ⟨_, _, spec, hSpec, _, rfl, env, hBuild, hKey, hValid, hFresh,
          .inr ⟨hFree, hInserted, rfl, rfl⟩⟩
      · exact ⟨accepted, _, spec, hSpec, _, rfl, env, hBuild, hKey, hValid, hFresh,
          .inl ⟨hOld, rfl⟩⟩
    · rintro ⟨accepted, _, spec, hSpec, _, ⟨⟩, env, hBuild, hKey, hValid, hFresh, hLedger⟩
      refine ⟨hKey, spec, env, hSpec, hBuild, hValid, hFresh, ?_⟩
      rcases hLedger with ⟨hOld, _⟩ | ⟨hFree, hInserted, _⟩
      · exact .inr ⟨accepted, hOld⟩
      · exact .inl ⟨hFree, hInserted⟩
  · simp only [if_neg hKind, Prod.exists, acceptCommandInTransaction_eq_ok hKind, Option.mem_def,
      Option.some.injEq, forall_eq']
    constructor
    · rintro ⟨hKey, hNone, ⟨hFree, current, planned, fenced, hApplied, hCourse⟩ | ⟨accepted, hOld⟩⟩
      · exact ⟨_, _, hNone, hKey, .inr ⟨hFree, current, planned, fenced, hApplied, hCourse,
          rfl, rfl⟩⟩
      · exact ⟨accepted, _, hNone, hKey, .inl ⟨hOld, rfl⟩⟩
    · rintro ⟨accepted, _, hNone, hKey, hLedger⟩
      refine ⟨hKey, hNone, ?_⟩
      rcases hLedger with ⟨hOld, _⟩ | ⟨hFree, current, planned, fenced, hApplied, hCourse, _⟩
      · exact .inr ⟨accepted, hOld⟩
      · exact .inl ⟨hFree, current, planned, fenced, hApplied, hCourse⟩

/- An accepted event is entered together with the effects of its command. -/
theorem acceptInboundCommand_applied {stored : CommandTables δ} {clock : UtcTimestamp}
    {operationId : OperationId} {accepted : EnvironmentOperationAccepted}
    {tables : EnvironmentTables δ} {inbox : CommandInbox δ}
    (hRevision : inbound.aggregateRevision = inbound.command.expectedRevision)
    (hEntered : inboxAccept stored.inbox inbound.consumer (inbound.inboxEvent payloadHash) =
      .ok (.accepted, inbox))
    (hAccept : acceptCommandInTransaction hash stored.tables clock inbound.idempotencyKey
      inbound.command inbound.create inbound.leaseAuthorization (some inbound.courseId)
      operationId = .ok (accepted, tables)) :
    acceptInboundCommand hash payloadHash stored clock inbound operationId .answered =
      (.ok (.applied accepted), ⟨tables, inbox⟩) := by
  have hTransaction : inboundTransaction hash payloadHash stored clock inbound operationId =
      .ok (.applied accepted, ⟨tables, inbox⟩) := by
    simp only [inboundTransaction, steps_eq_ok]
    exact ⟨_, hEntered, bind_eq_ok.mpr ⟨_, hAccept, rfl⟩⟩
  unfold acceptInboundCommand
  rw [if_neg (not_not.mpr hRevision), hTransaction]

/- A message that meets the checks is applied, and no other. -/
theorem applies_iff : consumer.Applies hash payloadHash w delivery ↔ ∃ inbound accepted after,
    consumer.inbound w delivery = .ok inbound ∧
    acceptInboundCommand hash payloadHash ⟨w.service.tables, w.inbox⟩ w.service.clock inbound
      delivery.operationId delivery.fate =
      (.ok (.applied accepted), after) := by
  constructor
  · intro hApplies
    rcases hApplies.command with ⟨lease, hLease, hCommand⟩
    rcases commandAcceptable_iff.mp hCommand with ⟨⟨accepted, tables⟩, hAccept⟩
    have hLimit : delivery.message.aggregateSequence.get ≤ maxI64 := by
      rw [hApplies.next]
      exact Nat.min_le_right _ _
    have hInbox := Inbox.accept_eq_accepted_iff.mpr
      ⟨hApplies.unknown, hApplies.next, hApplies.free, hLimit, rfl⟩
    rcases hApplies.contract with ⟨-, -, -, -, -, -, hNonzero, -⟩
    have hEntered := inboxAccept_eq_ok.mpr ⟨consumer.tokenValid, hLimit, hNonzero, hInbox⟩
    simp only [JetStreamCommandConsumer.inbound, steps_eq_ok]
    refine ⟨_, accepted, ⟨tables, w.inbox.record (consumer.event payloadHash delivery.message)
      hLimit⟩, ⟨hApplies.size, hApplies.decodes, hApplies.contract, lease, hLease, rfl⟩, ?_⟩
    rw [hApplies.answered]
    exact acceptInboundCommand_applied hApplies.revision hEntered hAccept
  · rintro ⟨inbound, accepted, after, hInbound, hAccept⟩
    simp only [JetStreamCommandConsumer.inbound, steps_eq_ok] at hInbound
    rcases hInbound with ⟨hSize, hDecodes, hContract, lease, hLease, rfl⟩
    unfold acceptInboundCommand at hAccept
    split at hAccept
    · cases hAccept
    · rename_i hRevision
      split at hAccept
      · rename_i hFate hTransaction
        cases hAccept
        simp only [inboundTransaction, steps_eq_ok] at hTransaction
        rcases hTransaction with ⟨⟨verdict, inbox⟩, hInbox, hRest⟩
        cases verdict with
        | accepted =>
          simp only [bind_eq_ok] at hRest
          rcases hRest with ⟨result, hCommand, _⟩
          rcases Inbox.accept_eq_accepted_iff.mp (inboxAccept_eq_ok.mp hInbox).2.2.2 with
            ⟨hUnknown, hNext, hFree, _⟩
          exact ⟨hSize, hDecodes, hContract, not_not.mp hRevision, hUnknown, hNext, hFree,
            ⟨lease, hLease, commandAcceptable_iff.mpr ⟨result, hCommand⟩⟩, hFate⟩
        | duplicate | stale | gap => cases hRest
      · cases hAccept
      · cases hAccept
      · cases hAccept

theorem apply_inbox (inbound : InboundLifecycleCommand) :
    (consumer.apply hash payloadHash w delivery inbound).2.inbox =
      (acceptInboundCommand hash payloadHash ⟨w.service.tables, w.inbox⟩ w.service.clock inbound
        delivery.operationId delivery.fate).2.inbox := by
  unfold apply
  split
  · rename_i hAccept
    rw [hAccept]
    rfl
  · rename_i hAccept
    rw [hAccept, refuse_inbox]
    rfl

variable (hash)

/- A delivery enters the next message or nothing. -/
theorem processNext_inbox (payloadHash : InboundDocument → δ) (consumer : JetStreamCommandConsumer)
    (w : CommandWorld δ) (delivery : CommandDelivery δ) :
    let event := consumer.event payloadHash delivery.message
    let after := (consumer.processNext hash payloadHash w delivery).2.inbox
    after = w.inbox ∨ (event.sequence = w.inbox.expected event.aggregate ∧
      ∃ hLimit, after = w.inbox.record event hLimit) := by
  dsimp only
  unfold processNext
  split
  · exact .inl rfl
  · exact .inl (reject_inbox _ _)
  · rename_i inbound hInbound
    have hEffect := acceptInboundCommand_effect hash payloadHash
      ⟨w.service.tables, w.inbox⟩ w.service.clock inbound
      delivery.operationId delivery.fate
    rw [apply_inbox]
    rw [(event_of_inbound payloadHash hInbound).2] at hEffect
    generalize acceptInboundCommand hash payloadHash _ _ _ _ _ = result at hEffect ⊢
    cases hEffect with
    | applied hNext hLimit hInbox | unheard hNext hLimit hInbox =>
      exact .inr ⟨hNext, hLimit, hInbox⟩
    | unchanged _ hInbox => exact .inl hInbox

theorem processNext_watermark (payloadHash : InboundDocument → δ)
    (consumer : JetStreamCommandConsumer) (w : CommandWorld δ) (delivery : CommandDelivery δ)
    (aggregate : String × EnvironmentId) : w.inbox.watermark aggregate ≤
      (consumer.processNext hash payloadHash w delivery).2.inbox.watermark aggregate := by
  rcases processNext_inbox hash payloadHash consumer w delivery with
    hSame | ⟨hNext, hLimit, hRecord⟩
  · exact Nat.le_of_eq (congrArg (·.watermark aggregate) hSame).symm
  · rw [hRecord]
    exact Inbox.watermark_le_record hLimit hNext aggregate

variable {hash}

/- A delivery that finishes its message enters it exactly if it applies it. -/
theorem inbox_of_terminal {w' : CommandWorld δ}
    (hProcess : consumer.processNext hash payloadHash w delivery = (.ok outcome, w'))
    (hTerminal : outcome.terminal = true) :
    (consumer.Applies hash payloadHash w delivery ∧ ∃ hLimit, w'.inbox = w.inbox.record
      (consumer.event payloadHash delivery.message)
      hLimit) ∨ (¬consumer.Applies hash payloadHash w delivery ∧ w'.inbox = w.inbox) := by
  have hAfter := congrArg Prod.snd hProcess
  have hAnswer := congrArg Prod.fst hProcess
  dsimp only at hAfter hAnswer
  unfold processNext at hAfter hAnswer
  cases hInbound : consumer.inbound w delivery with
  | error stop =>
    have hNot : ¬consumer.Applies hash payloadHash w delivery := by
      intro hApplies
      rcases applies_iff.mp hApplies with ⟨inbound, accepted, after, hOk, -⟩
      cases hInbound.symm.trans hOk
    rw [hInbound] at hAfter hAnswer
    cases stop with
    | deferred =>
      cases (settle_deferred hAnswer).symm.trans hTerminal
    | rejected eventId diagnosticCode =>
      refine .inr ⟨hNot, ?_⟩
      rw [← hAfter]
      exact reject_inbox _ _
  | ok inbound =>
    rw [hInbound] at hAfter hAnswer
    have hEffect := acceptInboundCommand_effect hash payloadHash
      ⟨w.service.tables, w.inbox⟩ w.service.clock
      inbound delivery.operationId delivery.fate
    rw [(event_of_inbound payloadHash hInbound).2] at hEffect
    have hInbox : w'.inbox = (acceptInboundCommand hash payloadHash
        ⟨w.service.tables, w.inbox⟩ w.service.clock
        inbound delivery.operationId
        delivery.fate).2.inbox := by
      rw [← hAfter]
      exact apply_inbox inbound
    simp only [apply] at hAnswer
    generalize hAccept : acceptInboundCommand hash payloadHash
      ⟨w.service.tables, w.inbox⟩ w.service.clock
      inbound delivery.operationId delivery.fate =
      result at hEffect hInbox hAnswer
    cases hEffect with
    | applied hNext hLimit hRecord =>
      exact .inl ⟨applies_iff.mpr ⟨inbound, _, _, hInbound, hAccept⟩, hLimit,
        hInbox.trans hRecord⟩
    | unheard hNext hLimit hRecord =>
      have hDeferred := settle_deferred hAnswer
      cases hDeferred.symm.trans hTerminal
    | unchanged hOther hSame =>
      refine .inr ⟨?_, hInbox.trans hSame⟩
      intro hApplies
      rcases applies_iff.mp hApplies with ⟨inbound', accepted, after, hOk, hApplied⟩
      cases hInbound.symm.trans hOk
      cases hAccept.symm.trans hApplied
      exact hOther accepted rfl

/- The decision about a message that passes the checks. -/
theorem classify_of_inbound (hInbound : consumer.inbound w delivery = .ok inbound)
    (hRevision : inbound.aggregateRevision = inbound.command.expectedRevision) :
    consumer.classify payloadHash w delivery = (inboxAccept w.inbox consumer.consumerName
      (consumer.event payloadHash delivery.message)).toOption.map Prod.fst := by
  have hEvent := event_of_inbound payloadHash hInbound
  simp only [classify, hInbound, hRevision, ne_eq, not_true, if_false, hEvent.1, hEvent.2]

/- A delivered message is a gap exactly if it reaches the inbox, is unknown there, and is not
  next. -/
theorem classify_eq_gap_iff : consumer.classify payloadHash w delivery = some .gap ↔ (∃ inbound,
      consumer.inbound w delivery = .ok inbound ∧
      inbound.aggregateRevision = inbound.command.expectedRevision) ∧
    let event := consumer.event payloadHash delivery.message
    event.sequence ≤ maxI64 ∧ event.sequence ≠ 0 ∧ w.inbox.find event.eventId = none ∧
    w.inbox.expected event.aggregate < event.sequence := by
  dsimp only
  constructor
  · intro hGap
    have hChecked : ∃ inbound, consumer.inbound w delivery = .ok inbound ∧
        inbound.aggregateRevision = inbound.command.expectedRevision := by
      unfold classify at hGap
      cases hInbound : consumer.inbound w delivery with
      | error stop =>
        rw [hInbound] at hGap
        cases hGap
      | ok inbound =>
        refine ⟨inbound, rfl, ?_⟩
        by_contra hRevision
        simp only [hInbound, ne_eq, hRevision, not_false_eq_true, if_true] at hGap
        cases hGap
    refine ⟨hChecked, ?_⟩
    rcases hChecked with ⟨inbound, hInbound, hRevision⟩
    rw [classify_of_inbound hInbound hRevision] at hGap
    cases hAccept : inboxAccept w.inbox consumer.consumerName
      (consumer.event payloadHash delivery.message) with
    | error error =>
      rw [hAccept] at hGap
      cases hGap
    | ok result =>
      rw [hAccept] at hGap
      rcases result with ⟨decision, inbox⟩
      cases hGap
      rcases inboxAccept_eq_ok.mp hAccept with ⟨-, hLimit, hNonzero, hDecision⟩
      exact ⟨hLimit, hNonzero, Inbox.accept_eq_gap_iff.mp ⟨inbox, hDecision⟩⟩
  · rintro ⟨⟨inbound, hInbound, hRevision⟩, hLimit, hNonzero, hGap⟩
    rcases Inbox.accept_eq_gap_iff.mpr hGap with ⟨inbox, hDecision⟩
    have hAccept := inboxAccept_eq_ok.mpr ⟨consumer.tokenValid, hLimit, hNonzero, hDecision⟩
    rw [classify_of_inbound hInbound hRevision, hAccept]
    rfl

end JetStreamCommandConsumer

open JetStreamCommandConsumer

-- The Message After A Finished One

section

variable {δ : Type}

/- A stop command that follows the delivery in the stream of its environment, with an envelope that
  passes every check. -/
def follower (delivery : CommandDelivery δ) (eventId : EventId)
    (aggregateSequence : Sequence) : CommandDelivery δ :=
  let contract := environmentLifecycleRequested
  { delivery with
    payloadSize := 0, decodes := true
    message :=
      { delivery.message with
        specversion := "1.0", id := eventId, source := contract.source
        eventType := contract.eventType, subject := contract.subject
        datacontenttype := "application/json", dataschema := contract.dataSchema
        aggregateRevision := delivery.message.data.command.expectedRevision
        aggregateSequence, traceId := "trace"
        data :=
          { delivery.message.data with
            command := { delivery.message.data.command with kind := .stop } } } }

/- The follower reaches the inbox in every state. -/
theorem follower_inbound (consumer : JetStreamCommandConsumer) (w : CommandWorld δ)
    (delivery : CommandDelivery δ) (eventId : EventId) (aggregateSequence : Sequence)
    (hNonzero : aggregateSequence.get ≠ 0) :
    ∃ inbound, consumer.inbound w (follower delivery eventId aggregateSequence) = .ok inbound ∧
      inbound.aggregateRevision = inbound.command.expectedRevision := by
  have hTrace : trimIsEmpty "trace" = false := by decide
  have hValid : (follower delivery eventId aggregateSequence).message.Valid
      environmentLifecycleRequested :=
    ⟨rfl, rfl, rfl, rfl, rfl, rfl, hNonzero, hTrace⟩
  simp only [inbound, steps_eq_ok]
  exact ⟨_, ⟨Nat.zero_le _, rfl, hValid, none, rfl, rfl⟩, rfl⟩

variable [DecidableEq δ] {hash : RequestDocument → δ} {payloadHash : InboundDocument → δ}
  {consumer : JetStreamCommandConsumer} {w : CommandWorld δ}

/- No step of a run lowers a watermark. -/
theorem watermark_le_of_leads {w' : CommandWorld δ} (aggregate : String × EnvironmentId)
    (hLeads : (commandWorld hash payloadHash consumer).Leads w w') :
    w.inbox.watermark aggregate ≤ w'.inbox.watermark aggregate := by
  refine Machine.Leads.invariant
    (I := fun later => w.inbox.watermark aggregate ≤ later.inbox.watermark aggregate) ?_
    (Nat.le_refl _) hLeads
  intro s action s' hLe hStep
  cases action with
  | service action =>
    simp only [commandWorld, Option.map_eq_some_iff] at hStep
    rcases hStep with ⟨service, -, rfl⟩
    exact hLe
  | deliver delivery =>
    cases hStep
    exact Nat.le_trans hLe (consumer.processNext_watermark hash payloadHash s delivery aggregate)

/- Below a message that the watermark has not reached, there is a message with the next number that
  is a gap. -/
theorem follower_gap (payloadHash : InboundDocument → δ) {delivery : CommandDelivery δ}
    {eventId : EventId} (hFresh : w.inbox.find (consumer.consumerName, eventId) = none)
    (hLimit : delivery.message.aggregateSequence.get < maxI64)
    (hAbove : w.inbox.watermark (consumer.aggregate delivery.message.data.command.environmentId) <
      delivery.message.aggregateSequence.get) :
    ∃ next : CommandDelivery δ,
      next.message.data.command.environmentId = delivery.message.data.command.environmentId ∧
      next.message.aggregateSequence.get = delivery.message.aggregateSequence.get + 1 ∧
      consumer.classify payloadHash w next = some .gap := by
  have hBound : delivery.message.aggregateSequence.get + 1 ≤ maxU64 := by
    simp only [maxI64, maxU64] at hLimit ⊢
    omega
  refine ⟨follower delivery eventId ⟨_, hBound⟩, rfl, rfl, ?_⟩
  have hChecked := follower_inbound consumer w delivery eventId ⟨_, hBound⟩ (Nat.succ_ne_zero _)
  have hGap : w.inbox.expected (consumer.aggregate delivery.message.data.command.environmentId) <
      delivery.message.aggregateSequence.get + 1 :=
    Nat.lt_of_le_of_lt (Nat.min_le_left _ _) (Nat.succ_lt_succ hAbove)
  exact classify_eq_gap_iff.mpr ⟨hChecked, hLimit, Nat.succ_ne_zero _, hFresh, hGap⟩

/- A message is no gap once the watermark has reached the message before it. -/
theorem not_gap_of_watermark {next : CommandDelivery δ} {sequence : Nat}
    (hSequence : next.message.aggregateSequence.get = sequence + 1)
    (hReached : sequence ≤ w.inbox.watermark (consumer.aggregate
      next.message.data.command.environmentId)) :
    consumer.classify payloadHash w next ≠ some .gap := by
  intro hGap
  rcases classify_eq_gap_iff.mp hGap with ⟨-, hLimit, -, -, hNotNext⟩
  simp only [event, hSequence, Inbox.expected] at hLimit hNotNext
  omega

/- After a delivery has finished a message, no message with the next number is a gap, exactly if the
  message meets the checks and is applied, or is not above the watermark, or there is no next
  number. Some event identifier is still unknown to the consumer. -/
theorem next_message_not_gap_iff {w w' : CommandWorld δ} {delivery : CommandDelivery δ}
    {outcome : CommandConsumeOutcome} {eventId : EventId}
    (hFresh : w.inbox.find (consumer.consumerName, eventId) = none)
    (hProcess : consumer.processNext hash payloadHash w delivery = (.ok outcome, w'))
    (hTerminal : outcome.terminal = true) :
    let environmentId := delivery.message.data.command.environmentId
    let sequence := delivery.message.aggregateSequence.get
    (∀ later, (commandWorld hash payloadHash consumer).Leads w' later → ∀ next : CommandDelivery δ,
      next.message.data.command.environmentId = environmentId →
      next.message.aggregateSequence.get = sequence + 1 →
      consumer.classify payloadHash later next ≠ some .gap) ↔
      (consumer.Applies hash payloadHash w delivery ∨ sequence ≤ w.inbox.watermark
        (consumer.aggregate environmentId) ∨ maxI64 ≤ sequence) := by
  dsimp only
  have hFinished := inbox_of_terminal hProcess hTerminal
  constructor
  · intro hNever
    by_contra hNone
    simp only [not_or, Nat.not_le] at hNone
    rcases hNone with ⟨hApplies, hAbove, hLimit⟩
    rcases hFinished with ⟨hApplied, -⟩ | ⟨-, hSame⟩
    · exact hApplies hApplied
    rw [← hSame] at hAbove hFresh
    rcases follower_gap payloadHash hFresh hLimit hAbove with ⟨next, hEnvironment, hSequence, hGap⟩
    exact hNever w' .refl next hEnvironment hSequence hGap
  · intro hCondition later hLeads next hEnvironment hSequence
    have hLater := watermark_le_of_leads (consumer.aggregate
      delivery.message.data.command.environmentId) hLeads
    rcases hCondition with hApplies | hReached | hLast
    · rcases hFinished with ⟨-, hLimit, hRecord⟩ | ⟨hNot, -⟩
      · refine not_gap_of_watermark hSequence ?_
        rw [hRecord] at hLater
        rw [hEnvironment]
        have hEntered := Inbox.watermark_record_self w.inbox hLimit
        exact Nat.le_trans (Nat.le_of_eq hEntered.symm) hLater
      · exact absurd hApplies hNot
    · refine not_gap_of_watermark hSequence ?_
      have hStep := consumer.processNext_watermark hash payloadHash w delivery
        (consumer.aggregate delivery.message.data.command.environmentId)
      rw [hProcess] at hStep
      rw [hEnvironment]
      exact Nat.le_trans hReached (Nat.le_trans hStep hLater)
    · intro hGap
      have hLimit := (classify_eq_gap_iff.mp hGap).2.1
      simp only [event, hSequence] at hLimit
      omega

/- As long as no message with a number up to `sequence` is delivered, a watermark below `sequence`
  does not move. -/
theorem watermark_stays {w' : CommandWorld δ} {environmentId : EnvironmentId} {sequence : Nat}
    (hBelow : w.inbox.watermark (consumer.aggregate environmentId) < sequence)
    (hRun : ((commandWorld hash payloadHash consumer).startingAt w).Run (fun _ action =>
      ∀ next : CommandDelivery δ, action = .deliver next →
        next.message.data.command.environmentId = environmentId →
        sequence < next.message.aggregateSequence.get) w') :
    w'.inbox.watermark (consumer.aggregate environmentId) = w.inbox.watermark
      (consumer.aggregate environmentId) := by
  refine Machine.Run.invariant (I := fun later => later.inbox.watermark
      (consumer.aggregate environmentId) =
    w.inbox.watermark (consumer.aggregate environmentId))
    ?_ ?_ hRun
  · rintro later rfl
    rfl
  intro s action s' hSame hOk hStep
  cases action with
  | service action =>
    simp only [Machine.startingAt, commandWorld, Option.map_eq_some_iff] at hStep
    rcases hStep with ⟨service, -, rfl⟩
    exact hSame
  | deliver next =>
    cases hStep
    rcases consumer.processNext_inbox hash payloadHash s next with
      hUnchanged | ⟨hNext, hLimit, hRecord⟩
    · rwa [hUnchanged]
    rw [hRecord]
    by_cases hEnvironment : next.message.data.command.environmentId = environmentId
    · -- the next number is not above `sequence`
      have hAbove := hOk next rfl hEnvironment
      subst hEnvironment
      simp only [event, Inbox.expected, hSame] at hNext
      omega
    · rw [Inbox.watermark_record_of_ne]
      · exact hSame
      · intro hAggregate
        exact hEnvironment (Prod.mk.inj hAggregate).2.symm

end

-- Examples

namespace CommandSample

def consumer : JetStreamCommandConsumer where
  consumerName := "environment-commands"
  valid := by decide

/- No other service is asked. -/
def api : EnvironmentApi where
  resolve := fun _ _ => .error .notFound
  now := 0
  leaseBypass := false
  leaseReply := fun _ => .error .leaseRequestFailed
  revocationReply := fun _ => .error .requestFailed

def sequence (n : Nat) : Sequence where
  get := min n maxU64
  bounded := Nat.min_le_right n maxU64

def message (eventId : EventId) (number : Nat) (kind : EnvironmentOperationKind)
    (create : Option EnvironmentCreateSpec) : LifecycleCommandMessage where
  specversion := "1.0"
  id := eventId
  source := environmentLifecycleRequested.source
  eventType := environmentLifecycleRequested.eventType
  subject := environmentLifecycleRequested.subject
  datacontenttype := "application/json"
  dataschema := environmentLifecycleRequested.dataSchema
  courseId := courseId
  aggregateRevision := Revision.one
  aggregateSequence := sequence number
  traceId := "trace"
  data :=
    { idempotencyKey := "key-command", command := command kind Revision.one 0, create }

/- A delivery in which every collaborator answers. -/
def delivery (message : LifecycleCommandMessage) :
    CommandDelivery (RequestDocument ⊕ InboundDocument) where
  message := message
  sourceSubject := message.subject
  payloadSize := 1000
  payloadHash := .inr
    { idempotencyKey := message.data.idempotencyKey, command := message.data.command,
      create := message.data.create }
  decodes := true
  loads := true
  readsClock := true
  api := api
  operationId := ⟨1⟩
  fate := .answered
  quarantines := true
  acknowledges := true

def create : CommandDelivery (RequestDocument ⊕ InboundDocument) :=
  delivery (message ⟨1⟩ 1 .create (some spec))

def unknown : CommandDelivery (RequestDocument ⊕ InboundDocument) :=
  delivery (message ⟨1⟩ 1 .start none)

/- The second message creates the environment. -/
def second : CommandDelivery (RequestDocument ⊕ InboundDocument) :=
  delivery (message ⟨2⟩ 2 .create (some spec))

/- The service and its consumer before the first message. -/
def start : CommandWorld (RequestDocument ⊕ InboundDocument) where
  service := .empty
  inbox := .empty
  quarantine := []

def after (delivery : CommandDelivery (RequestDocument ⊕ InboundDocument)) :
    CommandWorld (RequestDocument ⊕ InboundDocument) :=
  (consumer.processNext .inl .inr start delivery).2

theorem start_initial : (commandWorld .inl .inr consumer).init start :=
  ⟨ServiceState.empty_initial, rfl, rfl⟩

end CommandSample

section

open CommandSample

/- After a create message that is applied, no second message of the environment is a gap. -/
theorem next_message_not_gap_sample : (consumer.processNext .inl .inr start create).1 =
      .ok .applied ∧ ∀ later, (commandWorld .inl .inr consumer).Leads (after create) later →
      ∀ next : CommandDelivery _, next.message.data.command.environmentId = environmentId →
        next.message.aggregateSequence.get = 2 → consumer.classify .inr later next ≠ some .gap := by
  have hOutcome : (consumer.processNext .inl .inr start create).1 = .ok .applied := by
    decide
  have hProcess : consumer.processNext .inl .inr start create = (.ok .applied, after create) :=
    Prod.ext hOutcome rfl
  have hFresh : start.inbox.find (consumer.consumerName, ⟨9⟩) = none := rfl
  refine ⟨hOutcome, ?_⟩
  refine (next_message_not_gap_iff hFresh hProcess rfl).mpr ?_
  rcases inbox_of_terminal hProcess rfl with ⟨hApplies, -⟩ | ⟨-, hSame⟩
  · exact .inl hApplies
  · have hMoved : (after create).inbox.watermark (consumer.aggregate environmentId) = 1 := by
      decide
    rw [hSame] at hMoved
    cases hMoved

/- The first message is quarantined and terminated because its command is refused. The second is
  then a gap, and as long as the first is not delivered again the watermark stays. -/
theorem terminated_message_leaves_gap : (commandWorld .inl .inr consumer).Reachable start ∧
    unknown.message.data.command.environmentId = second.message.data.command.environmentId ∧
    second.message.aggregateSequence.get = unknown.message.aggregateSequence.get + 1 ∧
    (consumer.processNext .inl .inr start unknown).1 = .ok .rejected ∧
    consumer.classify .inr (after unknown) second = some .gap ∧
    ∀ later, ((commandWorld .inl .inr consumer).startingAt (after unknown)).Run (fun _ action =>
      ∀ next : CommandDelivery _, action = .deliver next →
        next.message.data.command.environmentId = environmentId →
        1 < next.message.aggregateSequence.get)
      later → later.inbox.watermark (consumer.aggregate environmentId) = 0 := by
  refine ⟨.start start_initial, rfl, by decide, by decide, by decide, ?_⟩
  intro later hRun
  have hZero : (after unknown).inbox.watermark (consumer.aggregate environmentId) = 0 := by
    decide
  have hBelow : (after unknown).inbox.watermark (consumer.aggregate environmentId) < 1 := by
    rw [hZero]
    exact Nat.one_pos
  exact (watermark_stays hBelow hRun).trans hZero

end

end LabWeaver
