import LabWeaver.Base.Inbox
import LabWeaver.Environment.Api
import LabWeaver.Environment.Service

/-
  This file models the consumer of lifecycle commands: a message is checked, passes the lease
  gate, and is applied in one transaction with the inbox.
-/

namespace LabWeaver

open Outcome

-- Event Envelopes

/- The number of an event among those of its aggregate. -/
@[ext]
structure Sequence where
  get : Nat
  bounded : get ≤ maxU64

instance Sequence.decidableEq : DecidableEq Sequence :=
  fun a b => decidable_of_iff (a.get = b.get) Sequence.ext_iff.symm

structure CloudEvent (τ : Type) where
  specversion : String
  id : EventId
  (source eventType subject datacontenttype dataschema : String)
  courseId : CourseId
  aggregateRevision : Revision
  aggregateSequence : Sequence
  traceId : String
  data : τ

/- What the catalogue says about one kind of event. -/
structure EventContract where
  (subject eventType schemaName : String)

namespace EventContract

variable (contract : EventContract)

def startsWith (start : String) : Bool :=
  start.toList.isPrefixOf contract.subject.toList

def dataSchema : String :=
  "https://schemas.labweaver.io/contracts/v1/events/" ++ contract.schemaName ++ ".schema.json"

/- The service that owns the subject. -/
def source : String :=
  if contract.startsWith "labweaver.agent." then "urn:labweaver:agent-service"
  else if contract.startsWith "labweaver.environment." then "urn:labweaver:environment-service"
  else if contract.startsWith "labweaver.access." then "urn:labweaver:access-service"
  else if contract.startsWith "labweaver.evaluation." then "urn:labweaver:evaluation-service"
  else if contract.startsWith "labweaver.resource." then "urn:labweaver:resource-service"
  else "urn:labweaver:control-service"

end EventContract

def CloudEvent.Valid {τ : Type} (event : CloudEvent τ) (contract : EventContract) : Prop :=
  event.specversion = "1.0" ∧ event.datacontenttype = "application/json" ∧
  event.eventType = contract.eventType ∧ event.subject = contract.subject ∧
  event.dataschema = contract.dataSchema ∧ event.source = contract.source ∧
  event.aggregateSequence.get ≠ 0 ∧ trimIsEmpty event.traceId = false
deriving Decidable

def environmentLifecycleRequested : EventContract where
  subject := "labweaver.environment.instance.lifecycle_requested.v1"
  eventType := "labweaver.environment.instance.lifecycle_requested.v1"
  schemaName := "environment-lifecycle-requested"

-- Messages

structure EnvironmentLifecycleCommandData where
  idempotencyKey : String
  command : EnvironmentLifecycleCommand
  create : Option EnvironmentCreateSpec

abbrev LifecycleCommandMessage := CloudEvent EnvironmentLifecycleCommandData

/- The document whose hash the inbox stores. -/
structure InboundDocument where
  idempotencyKey : String
  command : EnvironmentLifecycleCommand
  create : Option EnvironmentCreateSpec
deriving DecidableEq

/- A checked message on its way to the store. -/
structure InboundLifecycleCommand where
  consumer : String
  eventId : EventId
  courseId : CourseId
  aggregateRevision : Revision
  aggregateSequence : Sequence
  idempotencyKey : String
  command : EnvironmentLifecycleCommand
  create : Option EnvironmentCreateSpec
  leaseAuthorization : Option EnvironmentLeaseAuthorization

/- It runs and commits, the database fails before it commits, or it commits and the answer is
  lost. -/
inductive TransactionFate where
| answered
| failed
| unheard

/- The published message, its payload as it arrives, and what the collaborators answer while it is
  processed. -/
structure CommandDelivery (δ : Type) where
  message : LifecycleCommandMessage
  sourceSubject : String
  payloadSize : Nat
  payloadHash : δ
  (decodes loads readsClock : Bool)
  api : EnvironmentApi
  operationId : OperationId
  fate : TransactionFate
  (quarantines acknowledges : Bool)

/- What the quarantine stream keeps of a message. -/
structure QuarantineRecord (δ : Type) where
  version : Nat
  (consumer sourceSubject : String)
  eventId : Option EventId
  payloadSha256 : δ
  sizeBytes : Nat
  diagnosticCode : String

inductive CommandConsumeOutcome where
| applied
| ignored
| deferred
| rejected
deriving DecidableEq

/- The message is acknowledged or terminated, so that it is not delivered again. -/
def CommandConsumeOutcome.terminal : CommandConsumeOutcome → Bool
| .applied | .ignored | .rejected => true
| .deferred => false

-- The Lease Gate

inductive LeaseGateFailure where
| retryable
| rejected

def NatsMessagingError.leaseRetryable : NatsMessagingError → Bool
| .leaseRequestTimeout | .leaseRequestFailed => true
| _ => false

def leaseRequestFromCreate (environmentId : EnvironmentId) (spec : EnvironmentCreateSpec) :
    Except LeaseGateFailure (Option EnvironmentLeaseVerificationRequest) :=
  if spec.environmentClass = .experiment then do
    ensure (spec.leaseId = none ∧ spec.capacityBinding = none) .rejected
    return none
  else do
    let leaseId ← require spec.leaseId .rejected
    let capacityBinding ← require spec.capacityBinding .rejected
    return some
      { version := 1, leaseId, environmentId, courseId := spec.courseId,
        ownerActorId := spec.ownerActorId, capacityBinding }

/- The kinds of commands that need the lease of a work environment. -/
def EnvironmentOperationKind.leaseGated : EnvironmentOperationKind → Bool
| .start | .retry | .recover | .reset => true
| _ => false

/- What is asked about the lease of a stored environment. -/
def leaseRequestOf (env : EnvironmentInstance) : Except LeaseGateFailure
    (Option EnvironmentLeaseVerificationRequest) :=
  if env.environmentClass = .experiment then .ok none
  else do
    let leaseId ← require env.leaseId .rejected
    let capacityBinding ← require env.capacityBinding .rejected
    return some
      { version := 1, leaseId, environmentId := env.id, courseId := env.courseId,
        ownerActorId := env.ownerId, capacityBinding }

section

variable {δ : Type} (tables : EnvironmentTables δ) (delivery : CommandDelivery δ)

/- The request that a message sends to the Resource service, if it needs one. -/
def leaseRequest : Except LeaseGateFailure (Option EnvironmentLeaseVerificationRequest) :=
  let data := delivery.message.data
  if data.command.kind = .create then do
    let spec ← require data.create .rejected
    leaseRequestFromCreate data.command.environmentId spec
  else if data.command.kind.leaseGated then do
    ensure (delivery.loads = true) .retryable
    match tables.instances data.command.environmentId with
    | none => .ok none
    | some env => leaseRequestOf env
  else .ok none

def resolveLeaseAuthorization : Except LeaseGateFailure (Option EnvironmentLeaseAuthorization) := do
  match ← leaseRequest tables delivery with
  | none => .ok none
  | some request => do
      ensure (delivery.readsClock = true) .retryable
      match delivery.api.verifyLease request delivery.api.now with
      | .ok authorization => .ok (some authorization)
      | .error error => if error.leaseRetryable then .error .retryable else .error .rejected

end

-- The Store

abbrev CommandInbox (δ : Type) := Inbox maxI64 (String × EventId) (String × EnvironmentId) δ

inductive InboundCommandDecision where
| applied (accepted : EnvironmentOperationAccepted)
| duplicate
| stale
| gap

def EnvironmentStoreError.retryable : EnvironmentStoreError → Bool
| .idempotencyInProgress => true
| .database => true
| .persistence .database => true
| _ => false

/- The `?` on the inbox. -/
def InboxFault.toPersistence : InboxFault → PersistenceError
| .mismatch => .identityMismatch "duplicate event ID has a different payload hash"
| .taken => .database

section

variable {δ : Type} [DecidableEq δ]

/- The event of a command as the inbox knows it. -/
def InboundLifecycleCommand.inboxEvent (payloadHash : InboundDocument → δ)
    (inbound : InboundLifecycleCommand) :
    InboxEvent (String × EventId) (String × EnvironmentId) δ where
  eventId := (inbound.consumer, inbound.eventId)
  aggregate := (inbound.consumer, inbound.command.environmentId)
  sequence := inbound.aggregateSequence.get
  payloadHash := payloadHash
    { idempotencyKey := inbound.idempotencyKey, command := inbound.command,
      create := inbound.create }

/- `validate_token` of the persistence layer. -/
def consumerTokenValid (consumer : String) : Prop :=
  trimIsEmpty consumer = false ∧ consumer.utf8ByteSize ≤ 512 ∧ anyControl consumer = false
deriving Decidable

def inboxAccept (inbox : CommandInbox δ) (consumer : String)
    (event : InboxEvent (String × EventId) (String × EnvironmentId) δ) :
    Except PersistenceError (InboxDecision × CommandInbox δ) := do
  ensure (consumerTokenValid consumer) (.configuration
    ("consumer is empty, oversized, or contains control characters"))
  ensure (event.sequence ≤ maxI64) (.configuration "Inbox sequence exceeds BIGINT")
  ensure (event.sequence ≠ 0) (.configuration "Inbox sequence must be non-zero")
  (inbox.accept event).mapError InboxFault.toPersistence

structure CommandTables (δ : Type) where
  tables : EnvironmentTables δ
  inbox : CommandInbox δ

variable (hash : RequestDocument → δ) (payloadHash : InboundDocument → δ) (stored : CommandTables δ)
  (clock : UtcTimestamp) (inbound : InboundLifecycleCommand) (operationId : OperationId)

/- The transaction of `accept_inbound_command`: the inbox and the command change together or not at
  all. -/
def inboundTransaction : StoreResult (InboundCommandDecision × CommandTables δ) := do
  let (decision, inbox) ← (inboxAccept stored.inbox inbound.consumer
      (inbound.inboxEvent payloadHash)).mapError .persistence
  match decision with
  | .accepted => do
      let (accepted, tables) ← acceptCommandInTransaction hash stored.tables clock
          inbound.idempotencyKey inbound.command
          inbound.create inbound.leaseAuthorization
          (some inbound.courseId) operationId
      .ok (.applied accepted, ⟨tables, inbox⟩)
  | .duplicate => .ok (.duplicate, ⟨stored.tables, inbox⟩)
  | .stale => .ok (.stale, ⟨stored.tables, inbox⟩)
  | .gap => .ok (.gap, ⟨stored.tables, inbox⟩)

variable (fate : TransactionFate)

/- `accept_inbound_command`, and the tables it leaves. -/
def acceptInboundCommand : StoreResult InboundCommandDecision × CommandTables δ :=
  if inbound.aggregateRevision ≠ inbound.command.expectedRevision then
    (.error .inboundMetadataInvalid, stored)
  else
    match fate, inboundTransaction hash payloadHash stored clock inbound operationId with
    | .answered, .ok (decision, after) => (.ok decision, after)
    | .unheard, .ok (_, after) => (.error .database, after)
    | .failed, _ => (.error .database, stored)
    | _, .error error => (.error error, stored)

/- The inbox takes an event that passes the checks. -/
theorem inboxAccept_eq_ok {inbox : CommandInbox δ} {consumer : String}
    {event : InboxEvent (String × EventId) (String × EnvironmentId) δ}
    {result : InboxDecision × CommandInbox δ} :
    inboxAccept inbox consumer event = .ok result ↔ consumerTokenValid consumer ∧
      event.sequence ≤ maxI64 ∧ event.sequence ≠ 0 ∧ inbox.accept event = .ok result := by
  simp only [inboxAccept, ensure_bind_eq_ok, mapError_eq_ok]

/- `accept_inbound_command` applies the next message, or leaves the inbox alone, or the answer of
  the database is lost. -/
inductive InboundEffect (inbox : CommandInbox δ) (event : InboxEvent (String × EventId)
        (String × EnvironmentId) δ) :
    StoreResult InboundCommandDecision × CommandTables δ → Prop where
| applied {accepted : EnvironmentOperationAccepted} {after : CommandTables δ} (hNext :
      event.sequence = inbox.expected event.aggregate)
    (hLimit : event.sequence ≤ maxI64) (hInbox : after.inbox = inbox.record event hLimit) :
    InboundEffect inbox event (.ok (.applied accepted), after)
| unheard {after : CommandTables δ} (hNext : event.sequence = inbox.expected event.aggregate)
    (hLimit : event.sequence ≤ maxI64) (hInbox : after.inbox = inbox.record event hLimit) :
    InboundEffect inbox event (.error .database, after)
| unchanged {answer : StoreResult InboundCommandDecision} {after : CommandTables δ}
    (hAnswer : ∀ accepted, answer ≠ .ok (.applied accepted)) (hInbox : after.inbox = inbox) :
    InboundEffect inbox event (answer, after)

theorem inboundTransaction_effect {hash : RequestDocument → δ} {payloadHash : InboundDocument → δ}
    {stored : CommandTables δ} {clock : UtcTimestamp} {inbound : InboundLifecycleCommand}
    {operationId : OperationId} {decision : InboundCommandDecision} {after : CommandTables δ}
    (hOk : inboundTransaction hash payloadHash stored clock
      inbound operationId = .ok (decision, after)) :
    InboundEffect stored.inbox (inbound.inboxEvent payloadHash) (.ok decision, after) := by
  simp only [inboundTransaction, steps_eq_ok] at hOk
  rcases hOk with ⟨⟨verdict, inbox⟩, hInbox, hRest⟩
  have hAccept := (inboxAccept_eq_ok.mp hInbox).2.2.2
  rcases Inbox.accept_eq_ok hAccept with ⟨hOther, hSame⟩ | ⟨hAccepted, hNext, hLimit, hRecord⟩
  · cases verdict with
    | accepted => exact absurd rfl hOther
    | duplicate | stale | gap =>
      cases hRest
      exact .unchanged (fun _ h => by cases h) hSame
  · cases hAccepted
    simp only [bind_eq_ok] at hRest
    rcases hRest with ⟨⟨accepted, tables⟩, -, ⟨⟩⟩
    exact .applied hNext hLimit hRecord

theorem acceptInboundCommand_effect :
    InboundEffect stored.inbox (inbound.inboxEvent payloadHash)
      (acceptInboundCommand hash payloadHash stored clock inbound operationId fate) := by
  unfold acceptInboundCommand
  split
  · exact .unchanged nofun rfl
  cases hRun : inboundTransaction hash payloadHash stored clock inbound operationId with
  | error error =>
    cases fate with
    | answered | failed | unheard => exact .unchanged nofun rfl
  | ok result =>
    rcases result with ⟨decision, after⟩
    have hEffect := inboundTransaction_effect hRun
    cases fate with
    | answered => exact hEffect
    | failed => exact .unchanged nofun rfl
    | unheard =>
      cases hEffect with
      | applied hNext hLimit hInbox => exact .unheard hNext hLimit hInbox
      | unchanged _ hInbox => exact .unchanged nofun hInbox

end

-- The Consumer

/- A payload of more bytes is not read. -/
def maxCommandBytes : Nat := 1024 * 1024

/- A consumer is bound under a name that is a token. -/
structure JetStreamCommandConsumer where
  consumerName : String
  valid : validToken consumerName = true

/- Why a message does not get as far as the store. -/
inductive CommandStop where
| deferred
| rejected (eventId : Option EventId) (diagnosticCode : String)

structure CommandWorld (δ : Type) where
  service : ServiceState δ
  inbox : CommandInbox δ
  quarantine : List (QuarantineRecord δ)

namespace JetStreamCommandConsumer

section

variable {δ : Type} [DecidableEq δ] (hash : RequestDocument → δ) (payloadHash : InboundDocument → δ)
  (consumer : JetStreamCommandConsumer)

def gateStop (eventId : EventId) : LeaseGateFailure → CommandStop
| .retryable => .deferred
| .rejected => .rejected (some eventId) "LW_ENVIRONMENT_LEASE_VERIFICATION_REJECTED"

variable (w : CommandWorld δ) (delivery : CommandDelivery δ)

/- The checks of `process_next` before the store. -/
def inbound : Except CommandStop InboundLifecycleCommand := do
  ensure (delivery.payloadSize ≤ maxCommandBytes) (.rejected none
    "LW_ENVIRONMENT_COMMAND_PAYLOAD_TOO_LARGE")
  ensure (delivery.decodes = true) (.rejected none "LW_ENVIRONMENT_COMMAND_PAYLOAD_INVALID")
  let message := delivery.message
  ensure (message.Valid environmentLifecycleRequested) (.rejected (some message.id)
    "LW_ENVIRONMENT_COMMAND_CONTRACT_INVALID")
  let leaseAuthorization ← (resolveLeaseAuthorization w.service.tables
      delivery).mapError (gateStop message.id)
  .ok
    { consumer := consumer.consumerName, eventId := message.id, courseId := message.courseId,
      aggregateRevision := message.aggregateRevision,
      aggregateSequence := message.aggregateSequence, idempotencyKey := message.data.idempotencyKey,
      command := message.data.command, create := message.data.create,
      leaseAuthorization }

def committed (stored : CommandTables δ) : CommandWorld δ :=
  { w with service := { w.service with tables := stored.tables }, inbox := stored.inbox }

/- Acknowledge a message, or ask for its redelivery. -/
def settle (outcome : CommandConsumeOutcome) : Except NatsMessagingError CommandConsumeOutcome := do
  ensure (delivery.acknowledges = true) .acknowledge
  return outcome

variable (eventId : Option EventId) (diagnosticCode : String)

def quarantineRecord : QuarantineRecord δ where
  version := 1
  consumer := consumer.consumerName
  sourceSubject := delivery.sourceSubject
  eventId := eventId
  payloadSha256 := delivery.payloadHash
  sizeBytes := delivery.payloadSize
  diagnosticCode := diagnosticCode

def reject : Except NatsMessagingError CommandConsumeOutcome × CommandWorld δ :=
  if delivery.quarantines then
    (settle delivery .rejected,
      { w with
        quarantine := consumer.quarantineRecord delivery eventId diagnosticCode :: w.quarantine })
  else (.error .quarantine, w)

/- How a message that the store decided about is settled. -/
def decided : InboundCommandDecision → CommandConsumeOutcome
| .applied _ => .applied
| .duplicate | .stale => .ignored
| .gap => .deferred

/- A message whose transaction failed. -/
def refuse (error : EnvironmentStoreError) :
    Except NatsMessagingError CommandConsumeOutcome × CommandWorld δ :=
  if error.retryable then (settle delivery .deferred, w)
  else consumer.reject w delivery (some delivery.message.id) "LW_ENVIRONMENT_COMMAND_REJECTED"

def apply (inbound : InboundLifecycleCommand) :
    Except NatsMessagingError CommandConsumeOutcome × CommandWorld δ :=
  match acceptInboundCommand hash payloadHash ⟨w.service.tables, w.inbox⟩ w.service.clock inbound
    delivery.operationId delivery.fate with
  | (.ok decision, stored) => (settle delivery (decided decision), committed w stored)
  | (.error error, stored) => consumer.refuse (committed w stored) delivery error

/- `process_next` on one delivered message. -/
def processNext : Except NatsMessagingError CommandConsumeOutcome × CommandWorld δ :=
  match consumer.inbound w delivery with
  | .error .deferred => (settle delivery .deferred, w)
  | .error (.rejected eventId diagnosticCode) => consumer.reject w delivery eventId diagnosticCode
  | .ok inbound => consumer.apply hash payloadHash w delivery inbound

/- The decision of the inbox about a delivered message, if the message gets that far. -/
def classify : Option InboxDecision :=
  match consumer.inbound w delivery with
  | .error _ => none
  | .ok inbound =>
    if inbound.aggregateRevision ≠ inbound.command.expectedRevision then none
    else
      (inboxAccept w.inbox inbound.consumer (inbound.inboxEvent payloadHash)).toOption.map Prod.fst

end

end JetStreamCommandConsumer

/- Between deliveries the service takes any of its own steps. -/
inductive CommandAction (δ : Type) where
| service (action : ServiceAction)
| deliver (delivery : CommandDelivery δ)

/- A consumer of lifecycle commands and its service. -/
def commandWorld {δ : Type} [DecidableEq δ] (hash : RequestDocument → δ)
    (payloadHash : InboundDocument → δ) (consumer : JetStreamCommandConsumer) :
    Machine (CommandWorld δ) (CommandAction δ) where
  init := fun w => w.service.initial ∧ w.inbox = .empty ∧ w.quarantine = []
  step := fun w => fun
    | .service action => (w.service.step hash action).map (fun service => { w with service })
    | .deliver delivery => some (consumer.processNext hash payloadHash w delivery).2

end LabWeaver
