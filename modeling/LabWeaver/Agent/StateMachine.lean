import LabWeaver.Base.Machine
import LabWeaver.Contracts.Foundation

/-
  This file models the states of one run of the Agent with its record of accepted transitions, and
  shows what the record of a completed run contains and that every run comes to an end.

  Main declarations: `completed_run_approved`, `agent_run_bookkeeping`.
-/

namespace LabWeaver

open Outcome List

-- States And Events

inductive AgentState where
| parse
| retrieveCapabilities
| plan
| generate
| schemaValidate
| policyValidate
| executeValidation
| verify
| repair
| awaitingExecutionApproval
| awaitingReleaseApproval
| completed
| failed
| cancelled
deriving DecidableEq

def AgentState.isTerminal : AgentState → Bool
| .completed | .failed | .cancelled => true
| _ => false

inductive AgentEvent where
| parsed
| capabilitiesRetrieved
| planCreated
| candidateGenerated
| schemaValid
| schemaInvalid
| policyAllowed
| approvalRequired
| validationExecuted
| verificationPassed
| verificationFailed
| repairReady
| teacherApproved
| teacherRejected
| cancel
| failureRecorded
deriving DecidableEq

inductive TransitionOutcome where
| advanced
| repairBudgetExhausted
| approvalHandedOff
| cancelled
| failedFast
deriving DecidableEq

def TransitionOutcome.diagnosticCode : TransitionOutcome → Option String
| .advanced | .approvalHandedOff | .failedFast => none
| .repairBudgetExhausted => some "LW_AGENT_REPAIR_BUDGET_EXHAUSTED"
| .cancelled => some "LW_AGENT_RUN_CANCELLED"

inductive AgentStateError where
| invalidRunId
| invalidTransition (source : AgentState) (event : AgentEvent)
| transitionSequenceOverflow
| invalidFailureDiagnostic (diagnosticCode : String)
deriving DecidableEq

structure TransitionRecord where
  sequence : Nat
  source : AgentState
  event : AgentEvent
  target : AgentState
  outcome : TransitionOutcome
  diagnosticCode : Option String
deriving DecidableEq

-- Runs

def maxAutomaticRepairs : Nat := 2

structure AgentRun where
  runId : String
  state : AgentState
  automaticRepairs : Nat
  history : List TransitionRecord
deriving DecidableEq

open AgentRun

def isStableDiagnostic (value : String) : Bool :=
  "LW_".toList.isPrefixOf value.toList && value.toList.drop 3 != [] && (value.toList.drop 3).all
    (fun c => c.isUpper || c.isDigit || c == '_')

namespace AgentRun

def new (runId : String) : Except AgentStateError AgentRun := do
  ensure (trimIsEmpty runId = false) .invalidRunId
  .ok ⟨runId, .parse, 0, []⟩

variable (run : AgentRun)

/- `AgentRun::next`: the state, the repairs and the outcome after an event. -/
def next (event : AgentEvent) : Except AgentStateError (AgentState × Nat × TransitionOutcome) :=
  if event = .cancel ∧ run.state.isTerminal = false then
    .ok (.cancelled, run.automaticRepairs, .cancelled)
  else
    let advanced (state : AgentState) := .ok (state, run.automaticRepairs, .advanced)
    match run.state, event with
    | .parse, .parsed => advanced .retrieveCapabilities
    | .retrieveCapabilities, .capabilitiesRetrieved => advanced .plan
    | .plan, .planCreated => advanced .generate
    | .generate, .candidateGenerated => advanced .schemaValidate
    | .schemaValidate, .schemaValid => advanced .policyValidate
    | .schemaValidate, .schemaInvalid
    | .verify, .verificationFailed
    | .awaitingExecutionApproval, .teacherRejected
    | .awaitingReleaseApproval, .teacherRejected => advanced .repair
    | .policyValidate, .policyAllowed
    | .awaitingExecutionApproval, .teacherApproved => advanced .executeValidation
    | .policyValidate, .approvalRequired => advanced .awaitingExecutionApproval
    | .verify, .verificationPassed => advanced .awaitingReleaseApproval
    | .executeValidation, .validationExecuted => advanced .verify
    | .repair, .repairReady =>
      if run.automaticRepairs < maxAutomaticRepairs then
        .ok (.generate, run.automaticRepairs + 1, .advanced)
      else .ok (.failed, run.automaticRepairs, .repairBudgetExhausted)
    | .awaitingReleaseApproval, .teacherApproved =>
      .ok (.completed, run.automaticRepairs, .approvalHandedOff)
    | state, event => .error (.invalidTransition state event)

end AgentRun

/- A call changes the run in place, and what it has changed stays if it fails. -/
abbrev AgentCall := ExceptT AgentStateError (StateM AgentRun)

namespace AgentCall

variable (event : AgentEvent)

def commitTransition (state : AgentState) (repairs : Nat) (outcome : TransitionOutcome)
    (diagnosticCode : Option String) : AgentCall TransitionRecord := do
  let run ← get
  let sequence ← require (checkedAdd maxU64 run.history.length 1)
    AgentStateError.transitionSequenceOverflow
  let record := ⟨sequence, run.state, event, state, outcome, diagnosticCode⟩
  modify fun run => { run with history := run.history ++ [record] }
  modify fun run => { run with state }
  modify fun run => { run with automaticRepairs := repairs }
  return record

def apply : AgentCall TransitionRecord := do
  let (state, repairs, outcome) ← (← get).next event
  commitTransition event state repairs outcome outcome.diagnosticCode

def applyFailure (diagnosticCode : String) : AgentCall TransitionRecord := do
  ensure (isStableDiagnostic diagnosticCode = true)
    (AgentStateError.invalidFailureDiagnostic diagnosticCode)
  let run ← get
  ensure (run.state.isTerminal = false)
    (AgentStateError.invalidTransition run.state .failureRecorded)
  commitTransition .failureRecorded .failed run.automaticRepairs .failedFast (some diagnosticCode)

end AgentCall

/- The calls on a run. -/
inductive AgentRun.Action where
| apply (event : AgentEvent)
| applyFailure (diagnosticCode : String)

def AgentRun.perform (run : AgentRun) :
    Action → Except AgentStateError TransitionRecord × AgentRun
| .apply event => (AgentCall.apply event).run run
| .applyFailure diagnosticCode => (AgentCall.applyFailure diagnosticCode).run run

/- The calls on a new run, in any order. -/
def agentMachine : Machine AgentRun Action where
  init run := ∃ runId, new runId = .ok run
  step run action := some (run.perform action).2

-- Progress

/- The events that lead from the generation of a candidate to a state, without a repair. -/
inductive Progress : AgentState → List AgentEvent → Prop where
| generate : Progress .generate []
| generated {events : List AgentEvent} (h : Progress .generate events) : Progress .schemaValidate
      (events ++ [.candidateGenerated])
| schemaValid {events : List AgentEvent} (h : Progress .schemaValidate events) :
    Progress .policyValidate (events ++ [.schemaValid])
| policyAllowed {events : List AgentEvent} (h : Progress .policyValidate events) :
    Progress .executeValidation (events ++ [.policyAllowed])
| approvalRequired {events : List AgentEvent} (h : Progress .policyValidate events) :
    Progress .awaitingExecutionApproval (events ++ [.approvalRequired])
| executionApproved {events : List AgentEvent} (h : Progress .awaitingExecutionApproval events) :
    Progress .executeValidation (events ++ [.teacherApproved])
| executed {events : List AgentEvent} (h : Progress .executeValidation events) :
    Progress .verify (events ++ [.validationExecuted])
| verified {events : List AgentEvent} (h : Progress .verify events) :
    Progress .awaitingReleaseApproval (events ++ [.verificationPassed])
| released {events : List AgentEvent} (h : Progress .awaitingReleaseApproval events) :
    Progress .completed (events ++ [.teacherApproved])

/- The events before the decision on execution. -/
theorem Progress.policyValidate_events {events : List AgentEvent}
    (hProgress : Progress .policyValidate events) :
    events = [.candidateGenerated, .schemaValid] := by
  cases hProgress with
  | schemaValid hSchema =>
    cases hSchema with
    | generated hGenerated =>
      cases hGenerated
      rfl

/- The whole chain, with either decision. -/
theorem Progress.completed_events {events : List AgentEvent}
    (hProgress : Progress .completed events) :
    ∃ decision, (decision = [.policyAllowed] ∨ decision = [.approvalRequired, .teacherApproved]) ∧
      events = [.candidateGenerated, .schemaValid] ++ decision ++
        [.validationExecuted, .verificationPassed, .teacherApproved] := by
  rcases hProgress with _ | _ | _ | _ | _ | _ | _ | _ | hVerified
  rcases hVerified with _ | _ | _ | _ | _ | _ | _ | hExecuted
  rcases hExecuted with _ | _ | _ | _ | _ | _ | hDecided
  cases hDecided with
  | policyAllowed hPolicy =>
    rw [hPolicy.policyValidate_events]
    exact ⟨_, .inl rfl, rfl⟩
  | executionApproved hRequired =>
    cases hRequired with
    | approvalRequired hPolicy =>
      rw [hPolicy.policyValidate_events]
      exact ⟨_, .inr rfl, rfl⟩

-- The Record Of A Run

/- The states between generation and completion. -/
def AgentState.followsGeneration : AgentState → Bool
| .generate | .schemaValidate | .policyValidate
| .awaitingExecutionApproval | .executeValidation
| .verify | .awaitingReleaseApproval | .completed => true
| _ => false

namespace AgentRun

variable {run : AgentRun} {event : AgentEvent}

/- An event enters generation, or it continues the chain that began there. -/
theorem next_progress {state : AgentState} {repairs : Nat} {outcome : TransitionOutcome}
    (hNext : run.next event = .ok (state, repairs, outcome))
    (hFollows : state.followsGeneration = true) :
    state = .generate ∨ run.state.followsGeneration = true ∧ state ≠ .generate ∧ state ≠ .repair ∧
    ∀ events, Progress run.state events → Progress state (events ++ [event]) := by
  rcases run with ⟨runId, source, automaticRepairs, history⟩
  unfold next at hNext
  dsimp only at hNext
  repeat' split at hNext
  all_goals cases hNext
  -- the other states do not follow generation
  all_goals cases hFollows
  · exact .inl rfl
  · exact .inr ⟨rfl, nofun, nofun, fun _ => .generated⟩
  · exact .inr ⟨rfl, nofun, nofun, fun _ => .schemaValid⟩
  · exact .inr ⟨rfl, nofun, nofun, fun _ => .policyAllowed⟩
  · exact .inr ⟨rfl, nofun, nofun, fun _ => .executionApproved⟩
  · exact .inr ⟨rfl, nofun, nofun, fun _ => .approvalRequired⟩
  · exact .inr ⟨rfl, nofun, nofun, fun _ => .verified⟩
  · exact .inr ⟨rfl, nofun, nofun, fun _ => .executed⟩
  · exact .inl rfl
  · exact .inr ⟨rfl, nofun, nofun, fun _ => .released⟩

variable (run)

/- The history of a run after its last generation. -/
def Tracked : Prop :=
  run.state.followsGeneration = true →
  ∃ before entry chain, run.history = before ++ entry :: chain ∧ entry.target = .generate ∧
    (∀ record ∈ chain, record.target ≠ .generate ∧ record.target ≠ .repair) ∧
    Progress run.state (chain.map (·.event))

def transition (event : AgentEvent) (state : AgentState) (outcome : TransitionOutcome)
    (diagnosticCode : Option String) : TransitionRecord :=
  ⟨run.history.length + 1, run.state, event, state, outcome, diagnosticCode⟩

/- The run after an accepted transition. -/
def recorded (event : AgentEvent) (state : AgentState) (repairs : Nat) (outcome : TransitionOutcome)
    (diagnosticCode : Option String) : AgentRun :=
  { run with
    state, automaticRepairs := repairs
    history := run.history ++ [run.transition event state outcome diagnosticCode] }

/- What is accepted: an event that has a next state, or a failure of a run that is not over. -/
inductive Accepts (run : AgentRun) :
    AgentEvent → AgentState → Nat → TransitionOutcome → Prop where
| event {event : AgentEvent} {state : AgentState} {repairs : Nat} {outcome : TransitionOutcome}
    (hNext : run.next event = .ok (state, repairs, outcome)) :
    Accepts run event state repairs outcome
| failure (hLive : run.state.isTerminal = false) :
    Accepts run .failureRecorded .failed run.automaticRepairs .failedFast

/- A call fails and leaves the run as it is, or records a transition that is accepted. -/
def Settles (result : Except AgentStateError TransitionRecord × AgentRun) : Prop :=
  (∃ error, result = (.error error, run)) ∨
  ∃ event state repairs outcome diagnosticCode, run.Accepts event state repairs outcome ∧
    result = (.ok (run.transition event state outcome diagnosticCode),
      run.recorded event state repairs outcome diagnosticCode)

variable {run}

theorem settles_get {rest : AgentRun → AgentCall TransitionRecord}
    (hRest : run.Settles ((rest run).run run)) : run.Settles (ExceptT.run (get >>= rest) run) :=
  hRest

theorem settles_check {α : Type} {check : Except AgentStateError α}
    {rest : α → AgentCall TransitionRecord}
    (hRest : ∀ value, check = .ok value → run.Settles ((rest value).run run)) :
    run.Settles (ExceptT.run ((liftM check : AgentCall α) >>= rest) run) := by
  cases check with
  | error error => exact .inl ⟨error, rfl⟩
  | ok value => exact hRest value rfl

theorem settles_commitTransition {state : AgentState} {repairs : Nat} {outcome : TransitionOutcome}
    (hAccepts : run.Accepts event state repairs outcome) (diagnosticCode : Option String) :
    run.Settles
      ((AgentCall.commitTransition event state repairs outcome diagnosticCode).run run) := by
  refine settles_get (settles_check ?_)
  intro sequence hSequence
  obtain ⟨-, rfl⟩ := checkedAdd_eq_some.mp (require_eq_ok.mp hSequence)
  exact .inr ⟨_, _, _, _, diagnosticCode, hAccepts, rfl⟩

theorem settles_perform (run : AgentRun) (action : Action) : run.Settles (run.perform action) := by
  cases action with
  | apply event =>
    refine settles_get (settles_check ?_)
    intro next hNext
    exact settles_commitTransition (.event hNext) _
  | applyFailure diagnosticCode =>
    refine settles_check ?_
    intro _ _
    refine settles_get (settles_check ?_)
    intro _ hLive
    exact settles_commitTransition (.failure (ensure_eq_ok.mp hLive)) _

theorem tracked_recorded {state : AgentState} {repairs : Nat} {outcome : TransitionOutcome}
    {diagnosticCode : Option String} (hTracked : run.Tracked)
    (hAccepts : run.Accepts event state repairs outcome) :
    (run.recorded event state repairs outcome diagnosticCode).Tracked := by
  intro hFollows
  cases hAccepts with
  | failure _ => cases hFollows
  | event hNext =>
    rcases next_progress hNext hFollows with hEntered | ⟨hBefore, hGenerate, hRepair, hProgress⟩
    · refine ⟨run.history, _, [], rfl, hEntered, by simp, ?_⟩
      rw [recorded, hEntered]
      exact .generate
    · rcases hTracked hBefore with ⟨before, entry, chain, hHistory, hEntry, hChain, hEvents⟩
      refine ⟨before, entry, _, by rw [recorded, hHistory, append_assoc, cons_append], hEntry,
        ?_, ?_⟩
      · intro passed hPassed
        rcases mem_append.mp hPassed with hOld | hNew
        · exact hChain passed hOld
        · rw [mem_singleton.mp hNew]
          exact ⟨hGenerate, hRepair⟩
      · rw [map_append, map_singleton]
        exact hProgress _ hEvents

theorem invariant_of_calls {Holds : AgentRun → Prop} (hNew : ∀ runId, Holds ⟨runId, .parse, 0, []⟩)
    (hCalls : ∀ {run event state repairs outcome diagnosticCode}, Holds run →
      run.Accepts event state repairs outcome →
      Holds (run.recorded event state repairs outcome diagnosticCode))
    (hRun : agentMachine.Reachable run) : Holds run := by
  refine hRun.invariant ?_ ?_
  · rintro start ⟨runId, hStart⟩
    simp only [new, ensure_bind_eq_ok] at hStart
    cases hStart.2
    exact hNew runId
  · rintro before action after hBefore _ ⟨⟩
    rcases before.settles_perform action with ⟨_, hSame⟩ | ⟨_, _, _, _, _, hAccepts, hAfter⟩
    · rwa [hSame]
    · rw [hAfter]
      exact hCalls hBefore hAccepts

end AgentRun

/- Whatever is called on a new run: if it is completed, the records after its last entry into
  generation are a generated candidate, a valid schema, a policy decision that allows execution or
  is approved by a teacher, an executed validation, a passed verification and the approval of a
  teacher, and no repair. -/
theorem completed_run_approved (run : AgentRun) (hRun : agentMachine.Reachable run)
    (hCompleted : run.state = .completed) :
    ∃ before entry chain decision, run.history = before ++ entry :: chain ∧
      entry.target = .generate ∧
      (∀ record ∈ chain, record.target ≠ .generate ∧ record.target ≠ .repair) ∧
      (decision = [.policyAllowed] ∨ decision = [.approvalRequired, .teacherApproved]) ∧
      chain.map (·.event) = [.candidateGenerated, .schemaValid] ++ decision ++
        [.validationExecuted, .verificationPassed, .teacherApproved] := by
  have hTracked : run.Tracked := by
    refine invariant_of_calls ?_ tracked_recorded hRun
    rintro runId ⟨⟩
  have hFollows : run.state.followsGeneration = true := by
    rw [hCompleted]
    rfl
  rcases hTracked hFollows with ⟨before, entry, chain, hHistory, hEntry, hChain, hEvents⟩
  rw [hCompleted] at hEvents
  rcases hEvents.completed_events with ⟨decision, hDecision, hAll⟩
  exact ⟨before, entry, chain, decision, hHistory, hEntry, hChain, hDecision, hAll⟩

namespace AgentSample

/- A run whose first candidate is repaired. -/
def actions : List Action :=
  [.apply .parsed, .apply .capabilitiesRetrieved, .apply .planCreated, .apply .candidateGenerated,
    .apply .schemaInvalid, .apply .repairReady, .apply .candidateGenerated, .apply .schemaValid,
    .apply .approvalRequired, .apply .teacherApproved,
    .apply .validationExecuted, .apply .verificationPassed, .apply .teacherApproved]

def start : AgentRun := ⟨"run", .parse, 0, []⟩

theorem completed_reached : ∃ run, agentMachine.Reachable run ∧ run.state = .completed := by
  have hStart : agentMachine.init start := by
    refine ⟨"run", ?_⟩
    decide
  exact Machine.exists_reachable actions hStart (by decide)

end AgentSample

/- A repaired candidate passes the whole chain again. -/
theorem completed_run_approved_repaired : ∃ run, agentMachine.Reachable run ∧
    run.state = .completed ∧
    ∃ before entry chain, run.history = before ++ entry :: chain ∧ entry.target = .generate := by
  rcases AgentSample.completed_reached with ⟨run, hRun, hCompleted⟩
  rcases completed_run_approved run hRun hCompleted with
    ⟨before, entry, chain, _, hHistory, hEntry, _⟩
  exact ⟨run, hRun, hCompleted, before, entry, chain, hHistory, hEntry⟩

-- Bookkeeping

/- The most transitions that can follow a state before its next repair. -/
def AgentState.remaining : AgentState → Nat
| .parse => 11
| .retrieveCapabilities => 10
| .plan => 9
| .generate => 8
| .schemaValidate => 7
| .policyValidate => 6
| .awaitingExecutionApproval => 5
| .executeValidation => 4
| .verify => 3
| .awaitingReleaseApproval => 2
| .repair => 1
| .completed | .failed | .cancelled => 0

/- An accepted advance out of repair. -/
def TransitionRecord.isRepair (record : TransitionRecord) : Bool :=
  record.event = .repairReady ∧ record.outcome = .advanced

namespace AgentRun

/- What can still follow: a repair leads back to generation. -/
def budget (state : AgentState) (repairs : Nat) : Nat :=
  state.remaining + 8 * (maxAutomaticRepairs - repairs)

variable {run after : AgentRun} {event : AgentEvent}

/- What an accepted event does to the counter and to the budget. -/
structure Advances (run : AgentRun) (event : AgentEvent) (state : AgentState) (repairs : Nat)
    (outcome : TransitionOutcome) : Prop where
  live : run.state.isTerminal = false
  counted : repairs = run.automaticRepairs +
    (if event = .repairReady ∧ outcome = .advanced then 1 else 0)
  limited : run.automaticRepairs ≤ maxAutomaticRepairs → repairs ≤ maxAutomaticRepairs
  lowers : budget state repairs < budget run.state run.automaticRepairs

theorem remaining_pos {state : AgentState} (hLive : state.isTerminal = false) :
    0 < state.remaining := by
  cases state
  all_goals cases hLive
  all_goals decide

theorem next_advances {state : AgentState} {repairs : Nat} {outcome : TransitionOutcome}
    (hNext : run.next event = .ok (state, repairs, outcome)) :
    run.Advances event state repairs outcome := by
  rcases run with ⟨runId, source, automaticRepairs, history⟩
  unfold next at hNext
  dsimp only at hNext
  split at hNext
  · rename_i hCancel
    cases hNext
    have hPos := remaining_pos hCancel.2
    refine ⟨hCancel.2, ?_, id, ?_⟩
    · simp
    · simp [budget, AgentState.remaining]
      exact hPos
  · repeat' split at hNext
    all_goals cases hNext
    all_goals
      constructor
      all_goals simp_all [budget, AgentState.remaining, maxAutomaticRepairs, AgentState.isTerminal]
    all_goals omega

theorem Accepts.advances {state : AgentState} {repairs : Nat} {outcome : TransitionOutcome}
    (hAccepts : run.Accepts event state repairs outcome) :
    run.Advances event state repairs outcome := by
  cases hAccepts with
  | event hNext => exact next_advances hNext
  | failure hLive => exact ⟨hLive, rfl, id, Nat.add_lt_add_right (remaining_pos hLive) _⟩

/- The record of a run agrees with its state and its counter. -/
structure Kept (run : AgentRun) : Prop where
  numbered : run.history.map (·.sequence) = List.range' 1 run.history.length
  chained : run.history.map (·.source) ++ [run.state] = .parse :: run.history.map (·.target)
  repairs : run.automaticRepairs = run.history.countP (·.isRepair)
  limited : run.automaticRepairs ≤ maxAutomaticRepairs
  bounded : run.history.length + budget run.state run.automaticRepairs ≤ 27

theorem kept_recorded {state : AgentState} {repairs : Nat} {outcome : TransitionOutcome}
    {diagnosticCode : Option String} (hKept : run.Kept)
    (hAccepts : run.Accepts event state repairs outcome) :
    (run.recorded event state repairs outcome diagnosticCode).Kept := by
  have hAdvances := hAccepts.advances
  constructor
  · simp [recorded, transition, hKept.numbered, range'_concat, Nat.add_comm]
  · simp [recorded, transition, hKept.chained]
  · rw [recorded, countP_append, ← hKept.repairs]
    simpa [transition, TransitionRecord.isRepair, countP_cons] using hAdvances.counted
  · exact hAdvances.limited hKept.limited
  · have hLowers := hAdvances.lowers
    have hBounded := hKept.bounded
    simp only [recorded, length_append, length_singleton]
    omega

end AgentRun

/- Whatever is called on a new run: a call either fails and leaves the run as it is, or adds one
  record; the records are numbered from one, each begins where the one before ended and the last
  ends in the state of the run; the counter is the number of accepted repairs, at most two; a
  terminal state accepts no call; and at most 27 calls are ever accepted. -/
theorem agent_run_bookkeeping (run : AgentRun) (hRun : agentMachine.Reachable run) :
    (∀ action, (∃ error, run.perform action = (.error error, run)) ∨
      run.state.isTerminal = false ∧ ∃ record, (run.perform action).1 = .ok record ∧
        (run.perform action).2.history = run.history ++ [record]) ∧
    run.history.map (·.sequence) = List.range' 1 run.history.length ∧
    run.history.map (·.source) ++ [run.state] = .parse :: run.history.map (·.target) ∧
    run.automaticRepairs = run.history.countP (·.isRepair) ∧
    run.automaticRepairs ≤ maxAutomaticRepairs ∧ run.history.length ≤ 27 := by
  have hKept : run.Kept := by
    refine invariant_of_calls ?_ kept_recorded hRun
    intro runId
    exact ⟨rfl, rfl, rfl, Nat.zero_le _, Nat.le_refl _⟩
  have hLength := Nat.le_of_add_right_le hKept.bounded
  refine ⟨?_, hKept.numbered, hKept.chained, hKept.repairs, hKept.limited, hLength⟩
  intro action
  rcases run.settles_perform action with hFailed | ⟨_, _, _, _, _, hAccepts, hAfter⟩
  · exact .inl hFailed
  · rw [hAfter]
    exact .inr ⟨hAccepts.advances.live, _, rfl, rfl⟩

theorem agent_run_bookkeeping_repaired : ∃ run, agentMachine.Reachable run ∧
    run.state = .completed ∧ run.history.length ≤ 27 := by
  rcases AgentSample.completed_reached with ⟨run, hRun, hCompleted⟩
  obtain ⟨_, _, _, _, _, hLength⟩ := agent_run_bookkeeping run hRun
  exact ⟨run, hRun, hCompleted, hLength⟩

end LabWeaver
