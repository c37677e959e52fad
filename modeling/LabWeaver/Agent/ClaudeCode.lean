import LabWeaver.Base.Decimal
import LabWeaver.Contracts.Environment

/-
  This file models the generation of one candidate with the Claude Code process: its output is
  parsed, the reported usage is compared with the budget of the policy, and a candidate without
  the expected form is asked for again.

  Main declaration: `llm_budget_iff`.
-/

namespace LabWeaver

open Outcome

-- JSON

inductive Json where
| null
| bool (value : Bool)
| number (text : String)
| string (value : String)
| array (values : List Json)
| object (fields : List (String × Json))

namespace Json

variable (key : String)

def get : Json → Option Json
| .object fields => (fields.find? (fun field => field.1 == key)).map (·.2)
| _ => none

/- `value.get(key).and_then(Value::as_str)`. -/
def text (value : Json) : Option String :=
  match value.get key with
  | some (.string text) => some text
  | _ => none

/- The fields that only the platform may set. -/
def protectedFields : List String :=
  ["approval", "approved", "release", "releasestate",
    "deterministicscore", "finalscore", "gateresult"]

def normalizedKey : String :=
  String.ofList ((key.toList.filter Char.isAlphanum).map Char.toLower)

mutual

def containsProtectedField : Json → Bool
| .object fields => anyField fields
| .array values => anyValue values
| _ => false

def anyField : List (String × Json) → Bool
| [] => false
| (key, value) :: rest =>
  protectedFields.contains (normalizedKey key) || containsProtectedField value || anyField rest

def anyValue : List Json → Bool
| [] => false
| value :: rest => containsProtectedField value || anyValue rest

end

end Json

-- Errors

inductive ClaudeCodeRuntimeError where
| configurationInvalid
| inputLimitExceeded
| runtimeUnavailable
| executionFailed
| protocolInvalid
| schemaInvalid
| environmentClassMismatch
| protectedField
| toolDenied
| budgetExceeded
| outputLimitExceeded
| timedOut
| cancelled
| rateLimited
| refused
| upstreamUnavailable
deriving DecidableEq

def ClaudeCodeRuntimeError.diagnosticCode : ClaudeCodeRuntimeError → String
| .configurationInvalid => "LW_INVALID_REQUEST"
| .inputLimitExceeded | .budgetExceeded
| .outputLimitExceeded => "LW_RESOURCE_EXHAUSTED"
| .runtimeUnavailable | .executionFailed | .toolDenied
| .upstreamUnavailable => "LW_PROVIDER_UNAVAILABLE"
| .protocolInvalid | .schemaInvalid
| .environmentClassMismatch => "LW_EVIDENCE_INVALID"
| .protectedField => "LW_ACCESS_DENIED"
| .timedOut => "LW_PROVIDER_TIMEOUT"
| .cancelled => "LW_CONFLICT"
| .rateLimited => "LW_RATE_LIMITED"
| .refused => "LW_PROVIDER_REJECTED"

inductive ClaudeCodeProcessError where
| unavailable
| io
| cancelled
| timedOut
| outputLimitExceeded

/- How `generate_for_class` reports a failed process. -/
def ClaudeCodeProcessError.runtimeError : ClaudeCodeProcessError → ClaudeCodeRuntimeError
| .unavailable => .runtimeUnavailable
| .timedOut => .timedOut
| .cancelled => .cancelled
| .outputLimitExceeded => .outputLimitExceeded
| .io => .executionFailed

/- The classes of failures found in the error output. -/
inductive RuntimeFailureClass where
| refused
| rateLimited
| upstreamUnavailable

def RuntimeFailureClass.runtimeError : RuntimeFailureClass → ClaudeCodeRuntimeError
| .refused => .refused
| .rateLimited => .rateLimited
| .upstreamUnavailable => .upstreamUnavailable

-- Usage And Budget

structure LlmUsage where
  (inputTokens outputTokens requests costMicrousd : Nat)
deriving DecidableEq

open LlmUsage

namespace LlmUsage

def zero : LlmUsage := ⟨0, 0, 0, 0⟩

/- The usage of two invocations together. -/
def add (first second : LlmUsage) : LlmUsage where
  inputTokens := first.inputTokens + second.inputTokens
  outputTokens := first.outputTokens + second.outputTokens
  requests := first.requests + second.requests
  costMicrousd := first.costMicrousd + second.costMicrousd

def total : List LlmUsage → LlmUsage
| [] => zero
| usage :: rest => usage.add (total rest)

@[simp] theorem add_zero (usage : LlmUsage) : usage.add zero = usage := rfl

end LlmUsage

structure LlmBudget where
  (maxInputTokens maxOutputTokens maxRequests maxCostMicrousd maxSchemaRepairs : Nat)

def LlmUsage.Within (usage : LlmUsage) (budget : LlmBudget) : Prop :=
  usage.inputTokens ≤ budget.maxInputTokens ∧ usage.outputTokens ≤ budget.maxOutputTokens ∧
  usage.requests ≤ budget.maxRequests ∧ usage.costMicrousd ≤ budget.maxCostMicrousd
deriving Decidable

def enforceBudget (budget : LlmBudget) (usage : LlmUsage) : Except ClaudeCodeRuntimeError Unit :=
  ensure (usage.Within budget) .budgetExceeded

-- Amounts Of Money

/- The parts before and after the first matching character. -/
def splitOnce (p : Char → Bool) : List Char → Option (List Char × List Char)
| [] => none
| c :: cs =>
  if p c then some ([], cs) else (splitOnce p cs).map (fun (before, after) => (c :: before, after))

def boundedBy (limit value : Nat) : Option Nat := if value ≤ limit then some value else none

def boundedI32 (value : Int) : Option Int :=
  if -2147483648 ≤ value ∧ value < 2147483648 then some value else none

def parseI32 (chars : List Char) : Option Int :=
  let (negative, digits) :=
    match chars with
    | '-' :: rest => (true, rest)
    | '+' :: rest => (false, rest)
    | _ => (false, chars)
  if digits.isEmpty || !digits.all Char.isDigit then none
  else
    let value : Int := Decimal.value digits
    boundedI32 (if negative then -value else value)

def maxU128 : Nat := 2 ^ 128 - 1

/- What `decimal_to_microusd` does after it has read the exponent. -/
def mantissaToMicrousd (mantissa : List Char) (exponent : Int) : Option Nat := do
  let (whole, fraction) := (splitOnce (· == '.') mantissa).getD (mantissa, [])
  if whole.isEmpty || !whole.all Char.isDigit || !fraction.all Char.isDigit then none
  let digits ← boundedBy maxU128 (Decimal.value (whole ++ fraction))
  let length ← boundedI32 fraction.length
  let shifted ← boundedI32 (exponent + 6)
  let power ← boundedI32 (shifted - length)
  let scaled ←
    if 0 ≤ power then do
      let factor ← boundedBy maxU128 (10 ^ power.toNat)
      boundedBy maxU128 (digits * factor)
    else do
      let divisor ← boundedBy maxU128 (10 ^ (-power).toNat)
      boundedBy maxU128 (digits / divisor + if digits % divisor = 0 then 0 else 1)
  boundedBy maxU64 scaled

/- `decimal_to_microusd`: a decimal number of dollars in millionths, rounded up. -/
def decimalToMicrousd (value : String) : Option Nat :=
  if value.toList.head? = some '-' then none
  else
    match splitOnce (fun c => c == 'e' || c == 'E') value.toList with
    | some (mantissa, exponent) => (parseI32 exponent).bind (mantissaToMicrousd mantissa)
    | none => mantissaToMicrousd value.toList 0

-- The Output Stream

structure ModelUsage where
  (inputTokens outputTokens : Nat)

/- The last line of the output. -/
structure ClaudeCodeResultEnvelope where
  (kind subtype : String)
  isError : Bool
  sessionId : String
  numTurns : Nat
  totalCostUsd : String
  usage : ModelUsage
  modelUsage : List (String × ModelUsage)
  permissionDenials : List Json
  apiErrorStatus : Option Nat
  terminalReason : Option String

namespace ClaudeCodeResultEnvelope

def sumTokens (counts : List Nat) : Option Nat := counts.foldlM (checkedAdd maxU64) 0

variable (envelope : ClaudeCodeResultEnvelope)

/- `usage()`: what the envelope reports. -/
def llmUsage : Except ClaudeCodeRuntimeError LlmUsage := do
  let requests := max envelope.numTurns 1
  ensure (requests ≤ maxU32) .budgetExceeded
  let costMicrousd ← require (decimalToMicrousd envelope.totalCostUsd) .protocolInvalid
  let modelInput ← require (sumTokens (envelope.modelUsage.map (·.2.inputTokens))) .budgetExceeded
  let modelOutput ← require (sumTokens (envelope.modelUsage.map (·.2.outputTokens))) .budgetExceeded
  .ok
    { inputTokens :=
      max envelope.usage.inputTokens modelInput
      outputTokens := max envelope.usage.outputTokens modelOutput, requests
      costMicrousd }

/- `runtime_error()`: the failure that is reported. -/
def runtimeError : Option ClaudeCodeRuntimeError :=
  if envelope.subtype = "error_max_budget_usd" ∨ envelope.subtype = "error_max_turns" then
    some .budgetExceeded
  else if envelope.apiErrorStatus = some 429 then some .rateLimited
  else if (envelope.apiErrorStatus.any (fun status => 500 ≤ status && status ≤ 599)) ∨
    envelope.terminalReason = some "model_error" then
    some .upstreamUnavailable
  else
    match envelope.terminalReason with
    | some "max_turns" | some "blocking_limit"
    | some "prompt_too_long" => some .budgetExceeded
    | some "refusal" | some "refused" => some .refused
    | _ => none

end ClaudeCodeResultEnvelope

/- The two candidate documents of a run. -/
inductive AgentTrackKind where
| environment
| evaluation

inductive CandidateDocument where
| environment (environmentClass : EnvironmentClass)
| evaluation

def CandidateDocument.ofClass (expected : EnvironmentClass) : CandidateDocument → Bool
| .environment environmentClass => environmentClass = expected
| .evaluation => true

/- The libraries that the runtime calls: UUIDs, the decoding of texts and values, and hashes. -/
structure RuntimeLibraries (δ : Type) where
  isUuid : String → Bool
  parseJson : String → Option Json
  decodeEnvelope : Json → Option ClaudeCodeResultEnvelope
  decodeDocument : AgentTrackKind → Json → Option CandidateDocument
  hashJson : Json → Option δ
  hashText : String → δ

/- The output of a process: `none` if it is not UTF-8, otherwise its lines that are not blank, each
  a JSON value or not. -/
abbrev ProcessStdout := Option (List (Option Json))

structure ClaudeCodeProcessOutput (δ : Type) where
  exitCode : Option Int
  stdout : ProcessStdout
  stderrSha256 : Option δ
  failureClass : Option RuntimeFailureClass

variable {δ : Type}

namespace ClaudeCodeProcessOutput

variable (output : ClaudeCodeProcessOutput δ)

def isSuccess : Bool := output.exitCode = some 0

def classifiedError : Option ClaudeCodeRuntimeError :=
  output.failureClass.map RuntimeFailureClass.runtimeError

end ClaudeCodeProcessOutput

/- What has been read of the output. -/
structure StreamState where
  candidate : String
  envelope : Option ClaudeCodeResultEnvelope

def assistantBlock (candidate : String) (block : Json) : Except ClaudeCodeRuntimeError String :=
  match block.text "type" with
  | some "thinking" => .ok candidate
  | some "text" => do
      let text ← require (block.text "text") .protocolInvalid
      return candidate ++ text
  | some "tool_use" => .error .toolDenied
  | _ => .error .protocolInvalid

def assistantText (candidate : String) (event : Json) : Except ClaudeCodeRuntimeError String :=
  match event.get "message" with
  | some (.object fields) => do
      let message := Json.object fields
      ensure (message.text "role" = some "assistant") .protocolInvalid
      match message.get "content" with
      | some (.array content) => content.foldlM assistantBlock candidate
      | _ => .error .protocolInvalid
  | _ => .error .protocolInvalid

def validSyntheticUserEvent (event : Json) : Bool :=
  match event.get "message" with
  | some (.object fields) =>
    let message := Json.object fields
    (match event.get "isSynthetic" with
      | some (.bool true) => true
      | _ => false) &&
      message.text "role" == some "user" &&
      (match message.get "content" with
        | some (.array content) =>
          content.all (fun block => block.text "type" == some "text" && (block.text "text").isSome)
        | _ => false)
  | _ => false

variable (libraries : RuntimeLibraries δ)

def streamLine (sessionId : String) (state : StreamState) (line : Option Json) :
    Except ClaudeCodeRuntimeError StreamState := do
  ensure (state.envelope.isNone = true) .protocolInvalid
  let event ← require line .protocolInvalid
  ensure (event.text "session_id" = some sessionId) .protocolInvalid
  match event.text "type" with
  | some "system" => do
      let subtype ← require (event.text "subtype") .protocolInvalid
      ensure (subtype ≠ "" ∧ subtype ≠ "init") .protocolInvalid
      return state
  | some "assistant" => do
      let candidate ← assistantText state.candidate event
      return { state with candidate }
  | some "user" => do
      ensure (validSyntheticUserEvent event = true) .protocolInvalid
      return state
  | some "result" => do
      let envelope ← require (libraries.decodeEnvelope event) .protocolInvalid
      return { state with envelope := some envelope }
  | _ => .error .protocolInvalid

structure ParsedClaudeCodeStream where
  envelope : ClaudeCodeResultEnvelope
  candidate : Option String

def parseStreamOutput (stdout : ProcessStdout) : Except ClaudeCodeRuntimeError
    ParsedClaudeCodeStream := do
  let lines ← require stdout .protocolInvalid
  let first ← require lines.head? .protocolInvalid
  let init ← require first .protocolInvalid
  ensure (init.text "type" = some "system" ∧ init.text "subtype" = some "init") .protocolInvalid
  let sessionId ← require ((init.text "session_id").filter libraries.isUuid) .protocolInvalid
  let state ← lines.tail.foldlM (streamLine libraries sessionId)
      { candidate := "", envelope := none }
  let envelope ← require state.envelope .protocolInvalid
  .ok
    { envelope
      candidate := if state.candidate = "" then none else some state.candidate }

-- One Invocation

inductive RuntimeAuditOutcome where
| succeeded
| failed
| cancelled

structure ClaudeCodeAudit (δ : Type) where
  track : AgentTrackKind
  promptSha256 : δ
  outputSha256 : Option δ
  sessionId : Option String
  usage : LlmUsage
  usageObserved : Bool
  stderrSha256 : Option δ
  outcome : RuntimeAuditOutcome
  diagnosticCode : Option String

structure ClaudeCodeExecution (δ : Type) where
  document : CandidateDocument
  audit : ClaudeCodeAudit δ

structure ClaudeCodeFailure (δ : Type) where
  error : ClaudeCodeRuntimeError
  audit : ClaudeCodeAudit δ

abbrev ClaudeCodeResult (δ : Type) := Except (ClaudeCodeFailure δ) (ClaudeCodeExecution δ)

/- The audit that a call leaves. -/
def auditOf {δ : Type} : ClaudeCodeResult δ → ClaudeCodeAudit δ
| .ok execution => execution.audit
| .error failure => failure.audit

def failureWithAudit {δ : Type} (error : ClaudeCodeRuntimeError)
    (audit : ClaudeCodeAudit δ) : ClaudeCodeFailure δ where
  error := error
  audit :=
    { audit with
      outcome := if error = .cancelled then .cancelled else .failed
      diagnosticCode := some error.diagnosticCode }

/- A runtime is bound to the budget of a policy; a call is made for one track and one class of
  environments. -/
structure ClaudeCodeRuntime (δ : Type) where
  libraries : RuntimeLibraries δ
  budget : LlmBudget
  track : AgentTrackKind
  expectedEnvironmentClass : EnvironmentClass

open ClaudeCodeRuntime

namespace ClaudeCodeRuntime

variable (runtime : ClaudeCodeRuntime δ)

def audit (prompt : String) (output : Option (ClaudeCodeProcessOutput δ))
    (sessionId : Option String) (usage : LlmUsage) (usageObserved : Bool) : ClaudeCodeAudit δ where
  track := runtime.track
  promptSha256 := runtime.libraries.hashText prompt
  outputSha256 := none
  sessionId := sessionId
  usage := usage
  usageObserved := usageObserved
  stderrSha256 := output.bind (·.stderrSha256)
  outcome := .failed
  diagnosticCode := none

/- A failure before any usage was observed. -/
def failure (prompt : String) (error : ClaudeCodeRuntimeError)
    (output : Option (ClaudeCodeProcessOutput δ)) : ClaudeCodeFailure δ :=
  failureWithAudit error (runtime.audit prompt output none .zero false)

def parseCandidate (audit : ClaudeCodeAudit δ) (candidate : Option String) :
    Except (ClaudeCodeFailure δ) (ClaudeCodeExecution δ) := do
  let text ← require candidate (failureWithAudit .schemaInvalid audit)
  let output ← require (runtime.libraries.parseJson text) (failureWithAudit .schemaInvalid audit)
  ensure (output.containsProtectedField = false) (failureWithAudit .protectedField audit)
  let document ← require (runtime.libraries.decodeDocument runtime.track output)
      (failureWithAudit .schemaInvalid audit)
  ensure (document.ofClass runtime.expectedEnvironmentClass = true)
    (failureWithAudit .environmentClassMismatch audit)
  let outputSha256 ← require (runtime.libraries.hashJson output)
      (failureWithAudit .protocolInvalid audit)
  .ok
    { document
      audit :=
        { audit with
          outputSha256 := some outputSha256, outcome := .succeeded, diagnosticCode := none } }

/- An envelope whose usage could be read. -/
def parseEnvelope (output : ClaudeCodeProcessOutput δ) (audit : ClaudeCodeAudit δ)
    (stream : ParsedClaudeCodeStream) (usage : LlmUsage) :
    Except (ClaudeCodeFailure δ) (ClaudeCodeExecution δ) := do
  let envelope := stream.envelope
  ensure (output.isSuccess = true ∧ envelope.isError = false) (failureWithAudit
    ((envelope.runtimeError.or output.classifiedError).getD .executionFailed)
    audit)
  ensure (envelope.kind = "result" ∧ envelope.subtype = "success" ∧ audit.sessionId.isSome = true)
    (failureWithAudit .protocolInvalid audit)
  ensure (envelope.permissionDenials.isEmpty = true) (failureWithAudit .toolDenied audit)
  (enforceBudget runtime.budget usage).mapError (fun error => failureWithAudit error audit)
  runtime.parseCandidate audit stream.candidate

def parseResult (prompt : String) (output : ClaudeCodeProcessOutput δ) : ClaudeCodeResult δ :=
  match parseStreamOutput runtime.libraries output.stdout with
  | .error parseError =>
    .error (runtime.failure prompt (output.classifiedError.getD (if output.isSuccess then parseError
      else .executionFailed))
      (some output))
  | .ok stream =>
    match stream.envelope.llmUsage with
    | .error error => .error (runtime.failure prompt error (some output))
    | .ok usage =>
      runtime.parseEnvelope output (runtime.audit prompt (some output)
        (if runtime.libraries.isUuid stream.envelope.sessionId then some stream.envelope.sessionId
        else none)
        usage true)
        stream usage

-- The Repair Loop

/- What is added to the prompt of a repair. -/
def repairHint : String :=
  "\n\nThe previous response was rejected because it did not match the exact JSON Schema " ++
    "(LLM_SCHEMA_INVALID). Return only a corrected single JSON object that strictly " ++
    "satisfies the schema above; do not explain or repeat prior content."

/- The result of a call and the outputs it has consumed. -/
structure Call (δ : Type) where
  result : ClaudeCodeResult δ
  outputs : List (ClaudeCodeProcessOutput δ)

/- The loop of `generate_for_class`: the invocation with the given number, with some repairs
  left. -/
def generateFrom (process : Nat → Except ClaudeCodeProcessError (ClaudeCodeProcessOutput δ)) :
    Nat → Nat → String → Call δ
| left, repairs, prompt =>
  match process repairs with
  | .error error =>
    { result :=
      .error (runtime.failure prompt error.runtimeError none)
      outputs := [] }
  | .ok output =>
    match runtime.parseResult prompt output with
    | .ok execution => { result := .ok execution, outputs := [output] }
    | .error failure =>
      if failure.error = .schemaInvalid then
        match left with
        | 0 => { result := .error failure, outputs := [output] }
        | left + 1 =>
          let rest := generateFrom process left (repairs + 1) (prompt ++ repairHint)
          { result := rest.result, outputs := output :: rest.outputs }
      else { result := .error failure, outputs := [output] }

/- `generate_for_class`. The steps before the first invocation may already fail. -/
def generateForClass (start : Except ClaudeCodeRuntimeError Unit)
    (process : Nat → Except ClaudeCodeProcessError (ClaudeCodeProcessOutput δ)) (prompt : String) :
    Call δ :=
  match start with
  | .error error => { result := .error (runtime.failure prompt error none), outputs := [] }
  | .ok () => runtime.generateFrom process runtime.budget.maxSchemaRepairs 0 prompt

end ClaudeCodeRuntime

-- Errors That Are Not Repaired

/- A computation that does not report a wrong schema. -/
abbrev Readable {α : Type} (x : Except ClaudeCodeRuntimeError α) : Prop :=
  Meets (fun error => error = .schemaInvalid) (fun _ => True) x

theorem assistantBlock_readable (candidate : String) (block : Json) :
    Readable (assistantBlock candidate block) := by
  unfold assistantBlock
  split
  · exact .ok trivial
  · exact .bind (.require nofun) (fun _ _ => .ok trivial)
  · exact .error nofun
  · exact .error nofun

theorem assistantText_readable (candidate : String) (event : Json) :
    Readable (assistantText candidate event) := by
  unfold assistantText
  split
  · refine .bind (.ensure nofun) (fun _ _ => ?_)
    split
    · exact .foldlM (fun text block _ => assistantBlock_readable text block) trivial _
    · exact .error nofun
  · exact .error nofun

theorem streamLine_readable (sessionId : String) (state : StreamState) (line : Option Json) :
    Readable (streamLine libraries sessionId state line) := by
  unfold streamLine
  refine .bind (.ensure nofun) (fun _ _ => ?_)
  refine .bind (.require nofun) (fun event _ => ?_)
  refine .bind (.ensure nofun) (fun _ _ => ?_)
  split
  · refine .bind (.require nofun) (fun _ _ => ?_)
    exact .bind (.ensure nofun) (fun _ _ => .ok trivial)
  · exact .bind (assistantText_readable _ _) (fun _ _ => .ok trivial)
  · exact .bind (.ensure nofun) (fun _ _ => .ok trivial)
  · exact .bind (.require nofun) (fun _ _ => .ok trivial)
  · exact .error nofun

/- A stream that cannot be read is not a wrong schema. -/
theorem parseStreamOutput_readable (stdout : ProcessStdout) :
    Readable (parseStreamOutput libraries stdout) := by
  unfold parseStreamOutput
  refine .bind (.require nofun) (fun lines _ => ?_)
  refine .bind (.require nofun) (fun first _ => ?_)
  refine .bind (.require nofun) (fun init _ => ?_)
  refine .bind (.ensure nofun) (fun _ _ => ?_)
  refine .bind (.require nofun) (fun sessionId _ => ?_)
  refine .bind (.foldlM (fun state line _ => streamLine_readable libraries sessionId state line)
    trivial _)
    (fun state _ => ?_)
  exact .bind (.require nofun) (fun _ _ => .ok trivial)

/- Usage that cannot be read is not a wrong schema, and usage that can be read is of at least one
  request. -/
theorem llmUsage_meets (envelope : ClaudeCodeResultEnvelope) :
    Meets (fun error => error = .schemaInvalid) (fun usage => 0 < usage.requests)
      envelope.llmUsage := by
  unfold ClaudeCodeResultEnvelope.llmUsage
  refine .bind (.ensure nofun) (fun _ _ => ?_)
  refine .bind (.require nofun) (fun _ _ => ?_)
  refine .bind (.require nofun) (fun _ _ => ?_)
  refine .bind (.require nofun) (fun _ _ => ?_)
  exact .ok (Nat.lt_of_lt_of_le Nat.one_pos (Nat.le_max_right _ _))

-- The Usage Of An Invocation

namespace ClaudeCodeRuntime

variable {runtime : ClaudeCodeRuntime δ} {prompt : String} {output : ClaudeCodeProcessOutput δ}

def reported (runtime : ClaudeCodeRuntime δ) (output : ClaudeCodeProcessOutput δ) : LlmUsage :=
  match parseStreamOutput runtime.libraries output.stdout with
  | .error _ => .zero
  | .ok stream =>
    match stream.envelope.llmUsage with
    | .error _ => .zero
    | .ok usage => usage

/- Whatever is returned has an audit with this usage. -/
abbrev Audits (usage : LlmUsage) (result : ClaudeCodeResult δ) : Prop :=
  Meets (fun failure => failure.audit.usage ≠ usage)
    (fun execution => execution.audit.usage = usage) result

theorem auditOf_of_audits {usage : LlmUsage} {result : ClaudeCodeResult δ}
    (hAudits : Audits usage result) : (auditOf result).usage = usage := by
  cases hAudits with
  | ok hUsage => exact hUsage
  | error hUsage => exact not_not.mp hUsage

variable (audit : ClaudeCodeAudit δ)

theorem parseCandidate_audits (candidate : Option String) :
    Audits audit.usage (runtime.parseCandidate audit candidate) := by
  have hKept : ∀ error, ¬(failureWithAudit error audit).audit.usage ≠ audit.usage :=
    fun _ hOther => hOther rfl
  unfold parseCandidate
  refine .bind (.require (hKept _)) (fun _ _ => ?_)
  refine .bind (.require (hKept _)) (fun _ _ => ?_)
  refine .bind (.ensure (hKept _)) (fun _ _ => ?_)
  refine .bind (.require (hKept _)) (fun _ _ => ?_)
  refine .bind (.ensure (hKept _)) (fun _ _ => ?_)
  exact .bind (.require (hKept _)) (fun _ _ => .ok rfl)

theorem parseEnvelope_audits (stream : ParsedClaudeCodeStream) (usage : LlmUsage) :
    Audits audit.usage (runtime.parseEnvelope output audit stream usage) := by
  have hKept : ∀ error, ¬(failureWithAudit error audit).audit.usage ≠ audit.usage :=
    fun _ hOther => hOther rfl
  unfold parseEnvelope
  refine .bind (.ensure (hKept _)) (fun _ _ => ?_)
  refine .bind (.ensure (hKept _)) (fun _ _ => ?_)
  refine .bind (.ensure (hKept _)) (fun _ _ => ?_)
  refine .bind (.mapError (.ensure (hKept _))) (fun _ _ => ?_)
  exact parseCandidate_audits audit stream.candidate

theorem parseResult_usage (prompt : String) (output : ClaudeCodeProcessOutput δ) :
    (auditOf (runtime.parseResult prompt output)).usage = runtime.reported output := by
  unfold parseResult reported
  split
  · rfl
  · split
    · rfl
    · exact auditOf_of_audits (parseEnvelope_audits (runtime.audit prompt (some output) _ _ true)
        _ _)

theorem within_of_parseResult {execution : ClaudeCodeExecution δ}
    (hOk : runtime.parseResult prompt output = .ok execution) :
    (runtime.reported output).Within runtime.budget := by
  unfold parseResult at hOk
  unfold reported
  split at hOk
  · cases hOk
  · split at hOk
    · cases hOk
    · rename_i usage hUsage
      simp only [parseEnvelope, enforceBudget, steps_eq_ok] at hOk
      rcases hOk with ⟨-, -, -, hWithin, -⟩
      exact hWithin

/- A candidate of the wrong form comes with an envelope that reports at least one request. -/
theorem requests_pos_of_schemaInvalid {failure : ClaudeCodeFailure δ}
    (hError : runtime.parseResult prompt output = .error failure)
    (hInvalid : failure.error = .schemaInvalid) : 0 < (runtime.reported output).requests := by
  unfold parseResult at hError
  unfold reported
  have hReadable := parseStreamOutput_readable runtime.libraries output.stdout
  split at hError
  · rename_i parseError hStream
    rw [hStream] at hReadable
    cases hError
    exfalso
    cases hClass : output.failureClass with
    | none =>
      simp only [failure, failureWithAudit, ClaudeCodeProcessOutput.classifiedError, hClass,
        Option.map_none, Option.getD_none] at hInvalid
      split at hInvalid
      · cases hReadable with
        | error hGood => exact hGood hInvalid
      · cases hInvalid
    | some failureClass =>
      simp only [failure, failureWithAudit, ClaudeCodeProcessOutput.classifiedError, hClass,
        Option.map_some, Option.getD_some] at hInvalid
      cases failureClass <;> cases hInvalid
  · rename_i stream hStream
    have hUsage := llmUsage_meets stream.envelope
    split at hError
    · rename_i error hLlm
      rw [hLlm] at hUsage
      cases hError
      cases hUsage with
      | error hGood => exact absurd hInvalid hGood
    · rename_i usage hLlm
      exact hUsage.result hLlm

-- The Usage Of A Call

variable (runtime)

def reportedTotal (call : Call δ) : LlmUsage :=
  .total (call.outputs.map runtime.reported)

/- The usage is recorded in full, and a successful call is within the budget. -/
def WithinBudget (call : Call δ) : Prop :=
  (auditOf call.result).usage = runtime.reportedTotal call ∧
  ∀ execution, call.result = .ok execution → (runtime.reportedTotal call).Within runtime.budget

variable {runtime}

variable {process : Nat → Except ClaudeCodeProcessError (ClaudeCodeProcessOutput δ)}

/- A call that ends with its first output. -/
theorem withinBudget_of_single {result : ClaudeCodeResult δ}
    (hParse : runtime.parseResult prompt output = result) :
    runtime.WithinBudget { result, outputs := [output] } := by
  subst hParse
  have hTotal : runtime.reportedTotal
      { result := runtime.parseResult prompt output, outputs := [output] } =
      runtime.reported output :=
    add_zero _
  rw [WithinBudget, hTotal]
  exact ⟨parseResult_usage prompt output, fun _ hOk => within_of_parseResult hOk⟩

/- A call that fails before it reads an output. -/
theorem withinBudget_of_none (error : ClaudeCodeRuntimeError) : runtime.WithinBudget
    { result := .error (runtime.failure prompt error none)
      outputs := [] } :=
  ⟨rfl, nofun⟩

def Repairs (runtime : ClaudeCodeRuntime δ)
    (process : Nat → Except ClaudeCodeProcessError (ClaudeCodeProcessOutput δ)) (repairs : Nat)
    (prompt : String) : Prop :=
  ∃ output failure, process repairs = .ok output ∧
    runtime.parseResult prompt output = .error failure ∧ failure.error = .schemaInvalid

/- A loop that does not repair ends with its first output. -/
theorem generateFrom_of_not_repairs (left repairs : Nat) (prompt : String)
    (hNot : left = 0 ∨ ¬runtime.Repairs process repairs prompt) :
    runtime.WithinBudget (runtime.generateFrom process left repairs prompt) := by
  unfold generateFrom
  cases hProcess : process repairs with
  | error error => exact withinBudget_of_none _
  | ok output =>
    cases hParse : runtime.parseResult prompt output with
    | ok execution =>
      simp only [hParse]
      exact withinBudget_of_single hParse
    | error failure =>
      simp only [hParse]
      split
      · rename_i hInvalid
        cases left with
        | zero => exact withinBudget_of_single hParse
        | succ left =>
          rcases hNot with hZero | hNot
          · cases hZero
          · exact absurd ⟨output, failure, hProcess, hParse, hInvalid⟩ hNot
      · exact withinBudget_of_single hParse

/- A loop that repairs goes on with the next output. -/
theorem generateFrom_of_repairs (left : Nat) {repairs : Nat}
    (hRepairs : runtime.Repairs process repairs prompt) :
    ∃ output, 0 < (runtime.reported output).requests ∧
      runtime.generateFrom process (left + 1) repairs prompt =
        { result :=
          (runtime.generateFrom process left (repairs + 1) (prompt ++ repairHint)).result
          outputs := output :: (runtime.generateFrom process left (repairs + 1)
            (prompt ++ repairHint)).outputs } := by
  rcases hRepairs with ⟨output, failure, hProcess, hParse, hInvalid⟩
  refine ⟨output, requests_pos_of_schemaInvalid hParse hInvalid, ?_⟩
  rw [generateFrom, hProcess]
  dsimp only
  rw [hParse]
  dsimp only
  rw [if_pos hInvalid]

/- By induction on the repairs that are left: the audit is that of the last output. -/
theorem requests_le_total (runtime : ClaudeCodeRuntime δ)
    (process : Nat → Except ClaudeCodeProcessError (ClaudeCodeProcessOutput δ)) (left repairs : Nat)
    (prompt : String) :
    (auditOf (runtime.generateFrom process left repairs prompt).result).usage.requests ≤
      (runtime.reportedTotal (runtime.generateFrom process left repairs prompt)).requests := by
  induction left generalizing repairs prompt with
  | zero =>
    have hSingle : runtime.WithinBudget (runtime.generateFrom process 0 repairs prompt) :=
      generateFrom_of_not_repairs 0 repairs prompt (.inl rfl)
    exact Nat.le_of_eq (congrArg requests hSingle.1)
  | succ left ih =>
    by_cases hRepairs : runtime.Repairs process repairs prompt
    · rcases generateFrom_of_repairs left hRepairs with ⟨output, -, hCall⟩
      rw [hCall]
      exact Nat.le_trans (ih (repairs + 1) _) (Nat.le_add_left _ _)
    · have hSingle := generateFrom_of_not_repairs (left + 1) repairs prompt (.inr hRepairs)
      exact Nat.le_of_eq (congrArg requests hSingle.1)

end ClaudeCodeRuntime

/- A call records the usage of all its outputs and succeeds only within the budget, exactly if it
  makes no repair: it may make none, it fails before the first invocation, or the first candidate
  is not of the wrong form. -/
theorem llm_budget_iff {δ : Type} (runtime : ClaudeCodeRuntime δ)
    (start : Except ClaudeCodeRuntimeError Unit)
    (process : Nat → Except ClaudeCodeProcessError (ClaudeCodeProcessOutput δ)) (prompt : String) :
    runtime.WithinBudget (runtime.generateForClass start process prompt) ↔
      runtime.budget.maxSchemaRepairs = 0 ∨ start ≠ .ok () ∨ ¬runtime.Repairs process 0 prompt := by
  unfold generateForClass
  cases start with
  | error error =>
    constructor
    · intro _
      exact .inr (.inl nofun)
    · intro _
      exact withinBudget_of_none error
  | ok start =>
    constructor
    · intro hWithin
      by_contra hNone
      simp only [not_or, not_not] at hNone
      rcases hNone with ⟨hLeft, -, hRepairs⟩
      rcases Nat.exists_eq_succ_of_ne_zero hLeft with ⟨left, hSucc⟩
      rcases generateFrom_of_repairs left hRepairs with ⟨output, hPos, hCall⟩
      have hLe := runtime.requests_le_total process left (0 + 1) (prompt ++ repairHint)
      have hUsage := congrArg requests hWithin.1
      dsimp only at hUsage
      rw [hSucc, hCall] at hUsage
      simp only [reportedTotal, List.map_cons, total, add]
        at hUsage hLe
      omega
    · intro hCondition
      refine generateFrom_of_not_repairs _ _ _ ?_
      rcases hCondition with hZero | hStart | hNot
      · exact .inl hZero
      · exact absurd rfl hStart
      · exact .inr hNot

namespace ClaudeCodeSample

/- Every invocation reports one request. -/
def envelope : ClaudeCodeResultEnvelope where
  kind := "result"
  subtype := "success"
  isError := false
  sessionId := "session"
  numTurns := 1
  totalCostUsd := "0.01"
  usage := { inputTokens := 10, outputTokens := 5 }
  modelUsage := []
  permissionDenials := []
  apiErrorStatus := none
  terminalReason := none

/- Only the text `valid` is a document. -/
def runtime : ClaudeCodeRuntime Nat where
  libraries :=
    { isUuid := fun _ => true
      parseJson := fun text => if text = "valid" then some (.object []) else none
      decodeEnvelope := fun _ => some envelope
      decodeDocument := fun _ _ => some .evaluation
      hashJson := fun _ => some 0
      hashText := String.length }
  budget :=
    { maxInputTokens := 1000, maxOutputTokens := 1000, maxRequests := 1, maxCostMicrousd := 1000000,
      maxSchemaRepairs := 1 }
  track := .evaluation
  expectedEnvironmentClass := .experiment

def line (kind : String) (fields : List (String × Json)) : Option Json :=
  some (.object (("type", .string kind) :: ("session_id", .string "session") :: fields))

def output (text : String) : ClaudeCodeProcessOutput Nat where
  exitCode := some 0
  stdout := some [line "system" [("subtype", .string "init")], line "assistant" [("message", .object
    [("role", .string "assistant"), ("content", .array [.object [("type", .string "text"),
      ("text", .string text)]])])],
    line "result" []]
  stderrSha256 := none
  failureClass := none

/- The first candidate is repaired by the second. -/
def process (invocation : Nat) : Except ClaudeCodeProcessError (ClaudeCodeProcessOutput Nat) :=
  .ok (output (if invocation = 0 then "draft" else "valid"))

def call : Call Nat := runtime.generateForClass (.ok ()) process "prompt"

end ClaudeCodeSample

open ClaudeCodeSample

/- The budget allows one request. The first candidate has the wrong form: the call succeeds after
  two requests, and records one. -/
theorem repaired_call_exceeds_budget : call.result.isOk = true ∧
    (auditOf call.result).usage = ⟨10, 5, 1, 10000⟩ ∧
    runtime.reportedTotal call = ⟨20, 10, 2, 20000⟩ ∧ ¬(runtime.reportedTotal call).Within
      runtime.budget := by
  decide

end LabWeaver
