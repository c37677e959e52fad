import Mathlib.Algebra.Group.Nat.Defs
import Mathlib.Data.Int.Order.Basic
import LabWeaver.Base.Outcome

/-
  This file models the scalar contracts shared by all services: typed identifiers, revisions,
  timestamps, and the checks of texts.

  Key definitions: `TypedId`, `Revision`.
-/

namespace LabWeaver

-- Identifiers

/- The aggregates that own an identifier type. -/
inductive IdKind where
| environment
| operation
| course
| actor
| release
| lease
| endpoint
| artifact
| accessGrant
| endpointGrant
| sshPublicKey
| gatewaySession
| consoleCapability
| consoleSession
| bffSession
| resourceRequest
| resourceApproval
| capacityClaim
| project
| event
| buildRequest
| candidate
| approval
| imageArtifact
| evaluationRelease
| evaluationRun
| evaluationStepRun
| frozenSubmission

/- A typed identifier is a UUID. Identifiers of different aggregates have different types. -/
structure TypedId (kind : IdKind) where
  uuid : BitVec 128
deriving DecidableEq

abbrev EnvironmentId := TypedId .environment
abbrev OperationId := TypedId .operation
abbrev CourseId := TypedId .course
abbrev ActorId := TypedId .actor
abbrev ReleaseId := TypedId .release
abbrev LeaseId := TypedId .lease
abbrev EndpointId := TypedId .endpoint
abbrev ArtifactId := TypedId .artifact
abbrev AccessGrantId := TypedId .accessGrant
abbrev EndpointGrantId := TypedId .endpointGrant
abbrev SshPublicKeyId := TypedId .sshPublicKey
abbrev GatewaySessionId := TypedId .gatewaySession
abbrev ConsoleCapabilityId := TypedId .consoleCapability
abbrev ConsoleSessionId := TypedId .consoleSession
abbrev BffSessionId := TypedId .bffSession
abbrev ResourceRequestId := TypedId .resourceRequest
abbrev ResourceApprovalId := TypedId .resourceApproval
abbrev CapacityClaimId := TypedId .capacityClaim
abbrev ProjectId := TypedId .project
abbrev EventId := TypedId .event
abbrev BuildRequestId := TypedId .buildRequest
abbrev CandidateId := TypedId .candidate
abbrev ApprovalId := TypedId .approval
abbrev ImageArtifactId := TypedId .imageArtifact
abbrev EvaluationReleaseId := TypedId .evaluationRelease
abbrev EvaluationRunId := TypedId .evaluationRun
abbrev EvaluationStepRunId := TypedId .evaluationStepRun
abbrev FrozenSubmissionId := TypedId .frozenSubmission

instance EvaluationRunId.lawfulBEq : LawfulBEq EvaluationRunId := inferInstance

instance EvaluationStepRunId.lawfulBEq : LawfulBEq EvaluationStepRunId := inferInstance

/- The failures of the shared persistence operations. -/
inductive PersistenceError where
| configuration (reason : String)
| identityMismatch (reason : String)
| attemptReused
| releaseBlocked (reason : String)
| database
deriving DecidableEq

-- Machine Integers

/- The largest values of the integer types of the source. -/
def maxU32 : Nat := 2 ^ 32 - 1
def maxI32 : Nat := 2 ^ 31 - 1
def maxU64 : Nat := 2 ^ 64 - 1
def maxI64 : Nat := 2 ^ 63 - 1

/- Addition that reports leaving the range `[0, limit]`. -/
def checkedAdd (limit : Nat) (value increment : Nat) : Option Nat :=
  if value + increment ≤ limit then some (value + increment) else none

theorem checkedAdd_eq_some {limit value increment result : Nat} :
    checkedAdd limit value increment = some result ↔ value + increment ≤ limit ∧
      result = value + increment := by
  unfold checkedAdd
  by_cases h : value + increment ≤ limit
  · simp [h, eq_comm]
  · simp [h]

-- Revisions

/- A monotonic aggregate revision. Zero is never a persisted revision, and the value is a `u64`. -/
structure Revision where
  get : Nat
  nonzero : 0 < get
  bounded : get ≤ maxU64
deriving DecidableEq

namespace Revision

theorem ext_get {r r' : Revision} (h : r.get = r'.get) : r = r' := by
  cases r
  cases r'
  cases h
  rfl

/- The first revision of every aggregate. -/
def one : Revision := ⟨1, by decide, by decide⟩

def new (value : Nat) : Option Revision :=
  if h : 0 < value ∧ value ≤ maxU64 then some ⟨value, h.1, h.2⟩ else none

/- `Revision::next`: one more, or `none` on overflow. -/
def next (r : Revision) : Option Revision :=
  if h : r.get + 1 ≤ maxU64 then some ⟨r.get + 1, Nat.succ_pos _, h⟩ else none

theorem next_eq_some {r r' : Revision} : r.next = some r' ↔ r'.get = r.get + 1 := by
  unfold next
  split
  · rename_i h
    constructor
    · rintro ⟨⟩
      rfl
    · intro hGet
      exact congrArg some (ext_get hGet.symm)
  · rename_i h
    constructor
    · rintro ⟨⟩
    · intro hGet
      exact absurd r'.bounded (by omega)

end Revision

-- Timestamps

/- A UTC timestamp with millisecond precision, counted in milliseconds from the Unix epoch. -/
abbrev UtcTimestamp := Int

/- The last representable millisecond: the date library stops at the end of the year 9999. -/
def latestTimestamp : UtcTimestamp := 253402300799999

def fiveMinutes : Nat := 5 * 60 * 1000

/- Adding a duration in milliseconds fails past the last representable millisecond. -/
def addDuration (timestamp : UtcTimestamp) (duration : Nat) : Option UtcTimestamp :=
  if timestamp + duration ≤ latestTimestamp then some (timestamp + duration) else none

theorem addDuration_eq_some {timestamp result : UtcTimestamp} {duration : Nat} :
    addDuration timestamp duration = some result ↔ timestamp + duration ≤ latestTimestamp ∧
      result = timestamp + duration := by
  unfold addDuration
  by_cases h : timestamp + duration ≤ latestTimestamp
  · simp [h, eq_comm]
  · simp [h]

-- Text

/- The Unicode `White_Space` characters. -/
def isWhiteSpace (c : Char) : Bool :=
  let n := c.toNat
  (9 ≤ n && n ≤ 13) || n == 0x20 || n == 0x85 || n == 0xA0 || n == 0x1680 ||
    (0x2000 ≤ n && n ≤ 0x200A) || n == 0x2028 ||
    n == 0x2029 || n == 0x202F || n == 0x205F ||
    n == 0x3000

/- The control characters (general category `Cc`). -/
def isControl (c : Char) : Bool := c.toNat ≤ 0x1F || (0x7F ≤ c.toNat && c.toNat ≤ 0x9F)

/- The five bytes that `u8::is_ascii_whitespace` accepts. -/
def isAsciiWhitespace (c : Char) : Bool :=
  c == ' ' || c == '\t' || c == '\n' || c == '\x0c' || c == '\r'

variable (value : String)

def trimIsEmpty : Bool := value.toList.all isWhiteSpace

def anyControl : Bool := value.toList.any isControl

/- ASCII letters and digits, and the bytes of `-_.:`. A character outside ASCII has none of these
  bytes, so that the check by characters agrees. -/
def tokenText : Bool :=
  value.toList.all (fun c => c.isAlphanum || c == '-' || c == '_' || c == '.' || c == ':')

/- A non-empty token of at most 128 bytes: the check shared by trace identifiers and capacity
  bindings. -/
def validToken : Bool := !value.isEmpty && value.utf8ByteSize ≤ 128 && tokenText value

/- The characters of tokens are printable. -/
theorem token_range {c : Char}
    (hToken : (c.isAlphanum || c == '-' || c == '_' || c == '.' || c == ':') = true) :
    45 ≤ c.toNat ∧ c.toNat ≤ 122 := by
  delta Char.isAlphanum Char.isAlpha Char.isUpper Char.isLower Char.isDigit at hToken
  simp only [Bool.or_eq_true, Bool.and_eq_true, decide_eq_true_eq, beq_iff_eq,
    UInt32.le_iff_toNat_le, ge_iff_le] at hToken
  rcases hToken with (((hAlphanum | hEq) | hEq) | hEq) | hEq
  · rcases hAlphanum with (hRange | hRange) | hRange <;> (simp at hRange; omega)
  all_goals
    subst hEq
    decide

/- A token is more than white space. -/
theorem trimIsEmpty_of_validToken {value : String} (hToken : validToken value = true) :
    trimIsEmpty value = false := by
  simp only [validToken, tokenText, Bool.and_eq_true, List.all_eq_true] at hToken
  rcases hToken with ⟨⟨hEmpty, _⟩, hText⟩
  rw [trimIsEmpty, List.all_eq_false]
  have hChars : value.toList ≠ [] := by
    intro hNil
    rw [String.toList_eq_nil_iff] at hNil
    subst hNil
    simp at hEmpty
  rcases List.exists_mem_of_ne_nil _ hChars with ⟨c, hChar⟩
  have hRange := token_range (hText c hChar)
  refine ⟨c, hChar, ?_⟩
  simp [isWhiteSpace]
  omega

theorem anyControl_of_validToken {value : String} (hToken : validToken value = true) :
    anyControl value = false := by
  simp only [validToken, tokenText, Bool.and_eq_true, List.all_eq_true] at hToken
  rw [anyControl, List.any_eq_false]
  intro c hChar
  have hRange := token_range (hToken.2 c hChar)
  simp [isControl]
  omega

def boundedText (limit : Nat) (value : String) : Prop :=
  value.isEmpty = false ∧ value.utf8ByteSize ≤ limit
deriving Decidable

/- A UUID in its hyphenated form. -/
def uuidText (uuid : BitVec 128) : String :=
  let digits := (List.range 32).map (fun i => Nat.digitChar (uuid.toNat / 16 ^ (31 - i) % 16))
  let groups := [digits.take 8, (digits.drop 8).take 4,
    (digits.drop 12).take 4, (digits.drop 16).take 4, digits.drop 20]
  "-".intercalate (groups.map String.ofList)

def IdempotencyKey.parses : Bool :=
  8 ≤ value.utf8ByteSize && value.utf8ByteSize ≤ 128 && tokenText value

def DiagnosticCode.parses : Bool :=
  4 ≤ value.utf8ByteSize && value.utf8ByteSize ≤ 96 && value.toList.take 3 == ['L', 'W', '_'] &&
    value.toList.all (fun c => c.isUpper || c.isDigit || c == '_')

structure ArtifactRef where
  artifactId : ArtifactId
  (storeBinding objectVersion : String)
  sizeBytes : Nat
  mediaType : String
deriving DecidableEq

end LabWeaver
