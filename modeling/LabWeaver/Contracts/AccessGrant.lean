import LabWeaver.Contracts.Environment
import Mathlib.Data.List.Nodup

/-
  This file models the contract of an access grant: what a grant and its public snapshot must look
  like, and what Environment answers about its endpoints.
-/

namespace LabWeaver

open Outcome List

-- Memberships And Grants

inductive PlatformRole where
| teacher
| student
| platformAdmin
deriving DecidableEq

inductive EnvironmentAccessSubjectKind where
| owner
| courseTeacher
deriving DecidableEq

inductive MembershipState where
| active
| suspended
| revoked
deriving DecidableEq

inductive AccessGrantState where
| requested
| active
| denied
| expired
| revoked
deriving DecidableEq

def AccessGrantState.live : AccessGrantState → Bool
| .requested | .active => true
| .denied | .expired | .revoked => false

/- A point in time of the Access service, counted in nanoseconds from the Unix epoch. -/
abbrev OffsetDateTime := Int

namespace OffsetDateTime

variable (time : OffsetDateTime)

/- `utc_timestamp`: cut off below the millisecond. -/
def utcTimestamp : UtcTimestamp := time / 1000000

def ofTimestamp (timestamp : UtcTimestamp) : OffsetDateTime := timestamp * 1000000

/- The database keeps microseconds. -/
def column : Int := time / 1000

def addSeconds (seconds : Nat) : OffsetDateTime :=
  time + seconds * 1000000000

end OffsetDateTime

structure CourseMembership where
  courseId : CourseId
  actorId : ActorId
  role : PlatformRole
  state : MembershipState
  expiresAt : Option OffsetDateTime
deriving DecidableEq

structure CreateAccessGrantRequest where
  courseId : CourseId
  environmentId : EnvironmentId
  environmentRevision : Revision
  endpointIds : List EndpointId
  expiresAt : Option UtcTimestamp
deriving DecidableEq

/- A grant without the endpoints, which are added when it becomes active. -/
structure AccessGrant where
  id : AccessGrantId
  actorId : ActorId
  courseId : CourseId
  environmentId : EnvironmentId
  environmentRevision : Revision
  state : AccessGrantState
  revision : Revision
  (issuedAt expiresAt : UtcTimestamp)
  revokedAt : Option UtcTimestamp
  reasonCode : Option String

structure EnvironmentEndpointEligibilityRequest where
  environmentId : EnvironmentId
  courseId : CourseId
  actorId : ActorId
  subjectKind : EnvironmentAccessSubjectKind
  expectedRevision : Revision
  endpointIds : List EndpointId

structure EnvironmentEndpointEligibility where
  environmentId : EnvironmentId
  courseId : CourseId
  ownerActorId : ActorId
  environmentRevision : Revision
  eligibilityExpiresAt : UtcTimestamp
  endpoints : List EnvironmentEndpoint

def EnvironmentEndpointEligibility.ValidFor (eligibility : EnvironmentEndpointEligibility)
    (request : EnvironmentEndpointEligibilityRequest) (now : UtcTimestamp) : Prop :=
  request.endpointIds ≠ [] ∧ request.endpointIds.Nodup ∧
  eligibility.environmentId = request.environmentId ∧ eligibility.courseId = request.courseId ∧
  (request.subjectKind = .owner → eligibility.ownerActorId = request.actorId) ∧
  eligibility.environmentRevision = request.expectedRevision ∧
  now < eligibility.eligibilityExpiresAt ∧
  (∀ id ∈ request.endpointIds, id ∈ eligibility.endpoints.map EnvironmentEndpoint.id) ∧
  (∀ endpoint ∈ eligibility.endpoints, endpoint.id ∈ request.endpointIds) ∧
  ∀ endpoint ∈ eligibility.endpoints, endpoint.health = .healthy
deriving Decidable

-- Texts

inductive AccessError where
| invalidGrant
| endpointUnhealthy
| invalidConnectUrl
| invalidGatewayEndpoint
| invalidAlias
| invalidGrantSnapshot

/- The texts below are checked by bytes. A character outside ASCII fails the check either way, so
  that counting characters is enough. -/

def validDnsLabel (label : List Char) : Bool :=
  !label.isEmpty && label.length ≤ 63 && label.head? != some '-' && label.getLast? != some '-' &&
    label.all (fun c => c.isLower || c.isDigit || c == '-')

def validDnsName (value : String) : Bool :=
  value.length ≤ 253 && value.toList.contains '.' && (value.toList.splitOn '.').all validDnsLabel

/- An OpenSSH fingerprint of 43 digits in base 64. -/
def validHostKeyFingerprint (value : String) : Bool :=
  value.length == 50 && "SHA256:".toList.isPrefixOf value.toList && (value.toList.drop 7).all
    (fun c => c.isAlphanum || c == '+' || c == '/')

def aliasLetter (c : Char) : Bool := c.isLower || (50 ≤ c.toNat && c.toNat ≤ 55)

def validAlias (value : String) : Bool :=
  value.length == 23 && "lw-".toList.isPrefixOf value.toList &&
    (value.toList.drop 3).all aliasLetter

/- The entry point of a browser for an endpoint grant. -/
def connectUrl (id : EndpointGrantId) : String := "/connect/" ++ uuidText id.uuid ++ "/"

-- Aliases

def aliasAlphabet : List Char := "abcdefghijklmnopqrstuvwxyz234567".toList

/- The bytes of an identifier, the most significant first. -/
def uuidBytes (uuid : BitVec 128) : List (BitVec 8) :=
  (List.range 16).map (fun i => (uuid >>> (8 * (15 - i))).setWidth 8)

/- The inner loop of `ssh_alias`: a letter for five bits, as long as there are five bits and room
  for a letter. -/
def aliasLetters (acc : BitVec 32) : Nat → Nat → List Char → Nat × List Char
| 0, bits, out => (bits, out)
| fuel + 1, bits, out =>
  if 5 ≤ bits ∧ out.length < 23 then
    aliasLetters acc fuel (bits - 5) (out ++ [aliasAlphabet.getD
      ((acc >>> (bits - 5)) &&& 31).toNat 'a'])
  else (bits, out)

/- The outer loop of `ssh_alias`, over the bytes. -/
def aliasBytes : List (BitVec 8) → BitVec 32 → Nat → List Char → List Char
| [], _, _, out => out
| byte :: rest, acc, bits, out =>
  let acc := (acc <<< 8) ||| byte.setWidth 32
  let left := aliasLetters acc (bits + 8) (bits + 8) out
  aliasBytes rest acc left.1 left.2

def sshAlias (id : EndpointGrantId) : String :=
  let out := aliasBytes (uuidBytes id.uuid) 0 0 "lw-".toList
  String.ofList (out ++ List.replicate (23 - out.length) 'a')

/- The letters of `n` in base 32 as RFC 4648 has them, in lower case: five bits a letter, the most
  significant first. -/
def base32 : Nat → Nat → List Char
| 0, _ => []
| count + 1, n => base32 count (n / 32) ++ [aliasAlphabet.getD (n % 32) 'a']

theorem length_base32 (count n : Nat) : (base32 count n).length = count := by
  induction count generalizing n with
  | zero => rfl
  | succ count ih => simp [base32, ih]

theorem base32_letters (count n : Nat) : ∀ c ∈ base32 count n, aliasLetter c = true := by
  have hAlphabet : ∀ i < 32, aliasLetter (aliasAlphabet.getD i 'a') = true := by
    decide
  induction count generalizing n with
  | zero => simp [base32]
  | succ count ih =>
    rw [base32, forall_mem_append, forall_mem_singleton]
    exact ⟨ih _, hAlphabet _ (Nat.mod_lt n (by decide))⟩

theorem base32_inj {count n n' : Nat} (hBound : n < 32 ^ count) (hBound' : n' < 32 ^ count) :
    base32 count n = base32 count n' ↔ n = n' := by
  have hLetters : ∀ i < 32, ∀ j < 32,
      aliasAlphabet.getD i 'a' = aliasAlphabet.getD j 'a' → i = j := by
    decide +kernel
  induction count generalizing n n' with
  | zero => simp_all
  | succ count ih =>
    rw [Nat.pow_succ] at hBound hBound'
    refine ⟨fun hEqual => ?_, fun hEqual => hEqual ▸ rfl⟩
    have hParts := append_inj' hEqual rfl
    have hHigh := (ih (by omega) (by omega)).mp hParts.1
    have hLow := hLetters _ (Nat.mod_lt n (by decide)) _ (Nat.mod_lt n' (by decide))
      (cons.inj hParts.2).1
    omega

/- The loops of `ssh_alias` after `k` bytes of `n`, with `m` letters written and `bits` bits left.
  The accumulator is never masked. -/
structure AliasRun (n k : Nat) (acc : BitVec 32) (bits m : Nat) (out : List Char) : Prop where
  bytes : k ≤ 16
  acc : acc.toNat = n / 2 ^ (128 - 8 * k) % 2 ^ 32
  room : m ≤ 20
  bits : bits + 5 * m = 8 * k
  letters : out = "lw-".toList ++ base32 m (n / 2 ^ (128 - 5 * m))

section

variable {n k bits m : Nat} {out : List Char} {acc : BitVec 32} {uuid : BitVec 128}

namespace AliasRun

theorem length (hRun : AliasRun n k acc bits m out) : out.length = 3 + m := by
  rw [hRun.letters, length_append, length_base32]
  rfl

/- The bits of the next letter are still among the low 32 bits. -/
theorem letter (hRun : AliasRun n k acc bits m out) (hBits : 5 ≤ bits) (hFew : bits ≤ 12)
    (hRoom : m < 20) :
    AliasRun n k acc (bits - 5) (m + 1)
      (out ++ [aliasAlphabet.getD ((acc >>> (bits - 5)) &&& 31).toNat 'a']) := by
  have hSum := hRun.bits
  have hBytes := hRun.bytes
  have hLetter : ((acc >>> (bits - 5)) &&& 31).toNat = n / 2 ^ (128 - 5 * (m + 1)) % 32 := by
    have hExponent : 128 - 5 * (m + 1) = 128 - 8 * k + (bits - 5) := by
      omega
    have hSplit : 2 ^ 32 = 2 ^ (bits - 5) * 2 ^ (37 - bits) := by
      rw [← Nat.pow_add]
      congr 1
      omega
    have hDvd : 2 ^ 5 ∣ 2 ^ (37 - bits) := Nat.pow_dvd_pow 2 (by omega)
    rw [BitVec.toNat_and, BitVec.toNat_ushiftRight]
    refine (Nat.and_two_pow_sub_one_eq_mod _ 5).trans ?_
    rw [Nat.shiftRight_eq_div_pow, hRun.acc, hSplit, Nat.mod_mul_right_div_self,
      Nat.mod_mod_of_dvd _ hDvd, Nat.div_div_eq_div_mul, ← Nat.pow_add, hExponent]
    rfl
  have hHigher : n / 2 ^ (128 - 5 * (m + 1)) / 32 = n / 2 ^ (128 - 5 * m) := by
    rw [Nat.div_div_eq_div_mul, show 32 = 2 ^ 5 from rfl, ← Nat.pow_add]
    congr 2
    omega
  refine ⟨hBytes, hRun.acc, hRoom, by omega, ?_⟩
  rw [hLetter, hRun.letters, base32, hHigher, append_assoc]

theorem aliasLetters {fuel : Nat} (hRun : AliasRun n k acc bits m out) (hFuel : bits ≤ fuel)
    (hFew : bits ≤ 12 ∨ m = 20) :
    let left := LabWeaver.aliasLetters acc fuel bits out
    ∃ m', AliasRun n k acc left.1 m' left.2 ∧ (left.1 < 5 ∨ m' = 20) := by
  induction fuel generalizing bits out m with
  | zero => exact ⟨m, hRun, Or.inl (Nat.lt_of_le_of_lt hFuel (by decide))⟩
  | succ fuel ih =>
    have hLength := hRun.length
    have hRoom := hRun.room
    unfold LabWeaver.aliasLetters
    split
    · exact ih (hRun.letter (by omega) (by omega) (by omega)) (by omega) (by omega)
    · exact ⟨m, hRun, by omega⟩

/- One more byte is shifted in. -/
theorem byte (hRun : AliasRun uuid.toNat k acc bits m out) (hByte : k < 16) :
    AliasRun uuid.toNat (k + 1)
      ((acc <<< 8) ||| ((uuid >>> (8 * (15 - k))).setWidth 8).setWidth 32) (bits + 8) m out := by
  have hAcc := hRun.acc
  have hBits := hRun.bits
  rw [show 128 - 8 * k = 8 * (15 - k) + 8 by omega, Nat.pow_add, ← Nat.div_div_eq_div_mul] at hAcc
  refine ⟨hByte, ?_, hRun.room, by omega, hRun.letters⟩
  rw [show 128 - 8 * (k + 1) = 8 * (15 - k) by omega]
  simp only [BitVec.toNat_or, BitVec.toNat_shiftLeft, BitVec.toNat_setWidth,
    BitVec.toNat_ushiftRight, Nat.shiftRight_eq_div_pow, hAcc]
  generalize uuid.toNat / 2 ^ (8 * (15 - k)) = high
  have hLow : high % 2 ^ 8 % 2 ^ 32 < 2 ^ 8 := by
    omega
  have hHigh : (high / 2 ^ 8 % 2 ^ 32) <<< 8 % 2 ^ 32 = (high / 2 ^ 8 % 2 ^ 24) <<< 8 := by
    simp only [Nat.shiftLeft_eq]
    omega
  rw [hHigh, ← Nat.shiftLeft_add_eq_or_of_lt hLow, Nat.shiftLeft_eq]
  omega

theorem aliasBytes {left : Nat} (hRun : AliasRun uuid.toNat k acc bits m out)
    (hLeft : k + left = 16) (hDone : bits < 5 ∨ m = 20) :
    LabWeaver.aliasBytes ((range' k left).map (fun i => (uuid >>> (8 * (15 - i))).setWidth 8))
      acc bits out = "lw-".toList ++ base32 20 (uuid.toNat / 2 ^ 28) := by
  induction left generalizing k acc bits out m with
  | zero =>
    have hBits := hRun.bits
    have hRoom := hRun.room
    have hFull : m = 20 := by
      omega
    subst hFull
    exact hRun.letters
  | succ left ih =>
    have hNext := hRun.byte (by omega)
    rcases hNext.aliasLetters (Nat.le_refl _) (by omega) with ⟨m', hRun', hDone'⟩
    exact ih hRun' (by omega) hDone'

end AliasRun

end

theorem sshAlias_toList (id : EndpointGrantId) :
    (sshAlias id).toList = "lw-".toList ++ base32 20 (id.uuid.toNat / 2 ^ 28) := by
  have hStart : AliasRun id.uuid.toNat 0 0 0 0 "lw-".toList := by
    refine ⟨by decide, ?_, by decide, rfl, rfl⟩
    rw [Nat.div_eq_of_lt id.uuid.isLt]
    rfl
  have hOut := hStart.aliasBytes (Nat.zero_add 16) (Or.inl (by decide))
  unfold sshAlias uuidBytes
  rw [range_eq_range', hOut]
  simp [length_base32]

theorem validAlias_sshAlias (id : EndpointGrantId) : validAlias (sshAlias id) = true := by
  unfold validAlias
  rw [← String.length_toList, sshAlias_toList]
  generalize id.uuid.toNat / 2 ^ 28 = first
  simpa [length_base32] using base32_letters 20 first

/- The alias is the first 100 bits of the identifier. -/
theorem sshAlias_base32 (id : EndpointGrantId) :
    validAlias (sshAlias id) = true ∧
      (sshAlias id).toList = "lw-".toList ++ base32 20 (id.uuid.toNat / 2 ^ 28) ∧
      ∀ id' : EndpointGrantId,
        sshAlias id = sshAlias id' ↔ id.uuid.toNat / 2 ^ 28 = id'.uuid.toNat / 2 ^ 28 := by
  have hFirst (uuid : BitVec 128) : uuid.toNat / 2 ^ 28 < 32 ^ 20 :=
    Nat.div_lt_of_lt_mul uuid.isLt
  refine ⟨validAlias_sshAlias id, sshAlias_toList id, fun id' => ?_⟩
  rw [← String.toList_inj, sshAlias_toList, sshAlias_toList, append_cancel_left_eq,
    base32_inj (hFirst _) (hFirst _)]

-- Endpoint Grants

structure EndpointGrant where
  id : EndpointGrantId
  accessGrantId : AccessGrantId
  endpointId : EndpointId
  endpointRevision : Revision
  protocol : EndpointProtocol
  health : EndpointHealth
  (sshAlias connectUrl sshGatewayHostname : Option String)
  sshGatewayPort : Option Nat
  sshGatewayHostKeyFingerprint : Option String
  expiresAt : UtcTimestamp

namespace EndpointGrant

variable (grant : EndpointGrant)

def validate : Except AccessError Unit := do
  ensure (grant.health = .healthy) .endpointUnhealthy
  match grant.protocol with
  | .ssh => do
      ensure (grant.connectUrl = none) .invalidConnectUrl
      let hostname ← require grant.sshGatewayHostname .invalidGatewayEndpoint
      ensure (validDnsName hostname = true ∧ grant.sshGatewayPort = some 2222 ∧
        grant.sshGatewayHostKeyFingerprint.any validHostKeyFingerprint = true)
        .invalidGatewayEndpoint
      let found ← require grant.sshAlias .invalidAlias
      ensure (validAlias found = true) .invalidAlias
  | .http | .https => do
      ensure (grant.sshAlias = none) .invalidAlias
      ensure (grant.sshGatewayHostname = none ∧ grant.sshGatewayPort = none ∧
        grant.sshGatewayHostKeyFingerprint = none)
        .invalidGatewayEndpoint
      ensure (grant.connectUrl = some (LabWeaver.connectUrl grant.id)) .invalidConnectUrl

/- The entry points that a protocol must have. -/
def Reachable : Prop :=
  match grant.protocol with
  | .ssh =>
    grant.connectUrl = none ∧ grant.sshGatewayHostname.any validDnsName = true ∧
    grant.sshGatewayPort = some 2222 ∧
    grant.sshGatewayHostKeyFingerprint.any validHostKeyFingerprint = true ∧
    grant.sshAlias.any validAlias = true
  | .http | .https =>
    grant.sshAlias = none ∧ grant.sshGatewayHostname = none ∧ grant.sshGatewayPort = none ∧
    grant.sshGatewayHostKeyFingerprint = none ∧
    grant.connectUrl = some (LabWeaver.connectUrl grant.id)

theorem validate_eq_ok {grant : EndpointGrant} : grant.validate = .ok () ↔
    grant.health = .healthy ∧ grant.Reachable := by
  unfold validate Reachable
  cases grant.protocol with
  | ssh =>
    simp only [steps_eq_ok, Option.any_eq_true]
    constructor
    · rintro ⟨hHealth, hUrl, hostname, hSome, ⟨hName, hPort, hKey⟩, hAlias⟩
      exact ⟨hHealth, hUrl, ⟨hostname, hSome, hName⟩, hPort, hKey, hAlias⟩
    · rintro ⟨hHealth, hUrl, ⟨hostname, hSome, hName⟩, hPort, hKey, hAlias⟩
      exact ⟨hHealth, hUrl, hostname, hSome, ⟨hName, hPort, hKey⟩, hAlias⟩
  | http | https => simp [bind_eq_ok, and_assoc]

end EndpointGrant

-- Grants

def AccessGrantState.needsEndpoints : AccessGrantState → Bool
| .active | .expired => true
| .requested | .denied | .revoked => false

def AccessGrantState.terminal : AccessGrantState → Bool
| .denied | .expired | .revoked => true
| .requested | .active => false

/- `grant_state_str`. -/
def AccessGrantState.text : AccessGrantState → String
| .requested => "requested"
| .active => "active"
| .denied => "denied"
| .expired => "expired"
| .revoked => "revoked"

/- A text is there and is not empty. -/
def given (text : Option String) : Prop := ∃ value ∈ text, value ≠ ""

instance {text} : Decidable (given text) :=
  match text with
  | none => isFalse (by simp [given])
  | some value => decidable_of_iff (value ≠ "") (by simp [given])

structure LoadedGrant extends AccessGrant where
  endpointGrants : List EndpointGrant

namespace LoadedGrant

/- The loop over the endpoints, with the two sets it fills. -/
def validateEndpoints (grant : LoadedGrant) : List EndpointGrant → List EndpointId →
    List EndpointGrantId → Except AccessError Unit
| [], _, _ => .ok ()
| endpoint :: rest, endpointIds, endpointGrantIds => do
    ensure (endpoint.accessGrantId = grant.id ∧ endpoint.expiresAt ≤ grant.expiresAt) .invalidGrant
    ensure (endpointIds.contains endpoint.endpointId = false ∧
      endpointGrantIds.contains endpoint.id = false)
      .invalidGrant
    endpoint.validate
    grant.validateEndpoints rest (endpoint.endpointId :: endpointIds)
      (endpoint.id :: endpointGrantIds)

variable (grant : LoadedGrant)

/- What a state says about the end of a grant. -/
def TerminalFacts : Prop :=
  match grant.state with
  | .denied | .revoked => grant.revokedAt ≠ none ∧ given grant.reasonCode
  | .expired => grant.reasonCode = some "expired"
  | .requested | .active => grant.revokedAt = none

instance (grant : LoadedGrant) : Decidable grant.TerminalFacts := by
  unfold TerminalFacts
  cases grant.state <;> infer_instance

def validate : Except AccessError Unit := do
  ensure (grant.issuedAt < grant.expiresAt ∧ (grant.state.needsEndpoints = true →
    grant.endpointGrants ≠ []))
    .invalidGrant
  grant.validateEndpoints grant.endpointGrants [] []
  ensure grant.TerminalFacts .invalidGrant

structure Fits (endpoint : EndpointGrant) : Prop where
  grantId : endpoint.accessGrantId = grant.id
  expiresAt : endpoint.expiresAt ≤ grant.expiresAt
  healthy : endpoint.health = .healthy
  reachable : endpoint.Reachable

theorem validateEndpoints_eq_ok {grant : LoadedGrant} {endpoints : List EndpointGrant}
    {endpointIds : List EndpointId} {endpointGrantIds : List EndpointGrantId} :
    grant.validateEndpoints endpoints endpointIds endpointGrantIds = .ok () ↔
      (∀ endpoint ∈ endpoints, grant.Fits endpoint) ∧
      (endpoints.map EndpointGrant.endpointId).Nodup ∧ (endpoints.map EndpointGrant.id).Nodup ∧
      (∀ endpoint ∈ endpoints, endpoint.endpointId ∉ endpointIds ∧
        endpoint.id ∉ endpointGrantIds) := by
  induction endpoints generalizing endpointIds endpointGrantIds with
  | nil => simp [validateEndpoints]
  | cons endpoint rest ih =>
    simp only [validateEndpoints, check_bind_eq_ok, ensure_eq_ok, EndpointGrant.validate_eq_ok, ih,
      map_cons, nodup_cons, mem_cons, mem_map, contains_eq_mem,
      decide_eq_false_iff_not, forall_eq_or_imp, not_or, not_exists, not_and]
    constructor
    · rintro ⟨⟨hId, hExpiry⟩, hNew, ⟨hHealthy, hReach⟩, hFits, hEndpoints, hIds, hApart⟩
      refine ⟨⟨⟨hId, hExpiry, hHealthy, hReach⟩, hFits⟩, ⟨?_, hEndpoints⟩, ⟨?_, hIds⟩, hNew, ?_⟩
      · intro other hOther
        exact (hApart other hOther).1.1
      · intro other hOther
        exact (hApart other hOther).2.1
      · intro other hOther
        exact ⟨(hApart other hOther).1.2, (hApart other hOther).2.2⟩
    · rintro ⟨⟨hFit, hFits⟩, ⟨hFirst, hEndpoints⟩, ⟨hFirstId, hIds⟩, hNew, hApart⟩
      refine ⟨⟨hFit.grantId, hFit.expiresAt⟩, hNew,
        ⟨hFit.healthy, hFit.reachable⟩, hFits, hEndpoints, hIds, ?_⟩
      intro other hOther
      exact ⟨⟨hFirst other hOther, (hApart other hOther).1⟩,
        hFirstId other hOther, (hApart other hOther).2⟩

structure Valid : Prop where
  period : grant.issuedAt < grant.expiresAt
  endpoints : grant.state.needsEndpoints = true → grant.endpointGrants ≠ []
  fits : ∀ endpoint ∈ grant.endpointGrants, grant.Fits endpoint
  endpointIds : (grant.endpointGrants.map EndpointGrant.endpointId).Nodup
  endpointGrantIds : (grant.endpointGrants.map EndpointGrant.id).Nodup
  terminal : grant.TerminalFacts

theorem validate_eq_ok {grant : LoadedGrant} : grant.validate = .ok () ↔ grant.Valid := by
  simp only [validate, check_bind_eq_ok, ensure_eq_ok, validateEndpoints_eq_ok]
  constructor
  · rintro ⟨⟨hPeriod, hSome⟩, ⟨hFits, hIds, hGrantIds, _⟩, hTerminal⟩
    exact ⟨hPeriod, hSome, hFits, hIds, hGrantIds, hTerminal⟩
  · rintro ⟨hPeriod, hSome, hFits, hIds, hGrantIds, hTerminal⟩
    refine ⟨⟨hPeriod, hSome⟩, ⟨hFits, hIds, hGrantIds, ?_⟩, hTerminal⟩
    intro endpoint _
    exact ⟨not_mem_nil, not_mem_nil⟩

end LoadedGrant

-- Snapshots

inductive AuthorizationDecision where
| allow
| deny
| terminal
deriving DecidableEq

structure AuthorizationDecisionSummary where
  decision : AuthorizationDecision
  reasonCode : String
  evaluatedAt : UtcTimestamp

inductive EndpointGrantSnapshotState where
| active
| unhealthy
| expired
| revoked

structure EndpointGrantSnapshot where
  id : EndpointGrantId
  endpointId : EndpointId
  endpointRevision : Revision
  protocol : EndpointProtocol
  sshAlias : Option String
  state : EndpointGrantSnapshotState
  expiresAt : UtcTimestamp

structure AccessGrantSnapshot where
  id : AccessGrantId
  environmentId : EnvironmentId
  environmentRevision : Revision
  state : AccessGrantState
  revision : Revision
  endpointGrants : List EndpointGrantSnapshot
  (issuedAt expiresAt : UtcTimestamp)
  revokedAt : Option UtcTimestamp
  reasonCode : Option String
  decision : AuthorizationDecisionSummary
  lastChangedStreamSequence : Nat

namespace AccessGrantSnapshot

variable (snapshot : AccessGrantSnapshot)

def WellFormed : Prop :=
  snapshot.issuedAt < snapshot.expiresAt ∧
  (snapshot.state.needsEndpoints = true → snapshot.endpointGrants ≠ []) ∧
  snapshot.lastChangedStreamSequence ≠ 0 ∧ trimIsEmpty snapshot.decision.reasonCode = false ∧
  ∀ endpoint ∈ snapshot.endpointGrants, endpoint.expiresAt ≤ snapshot.expiresAt
deriving Decidable

/- What a snapshot says about the end of its grant. -/
def TerminalFacts : Prop :=
  (snapshot.state.terminal = true ↔ snapshot.decision.decision = .terminal) ∧
  (snapshot.state = .revoked ↔ snapshot.revokedAt ≠ none) ∧
  (snapshot.state = .denied ∨ snapshot.state = .revoked → given snapshot.reasonCode) ∧
  (snapshot.state = .expired → snapshot.reasonCode = some "expired")
deriving Decidable

def validate : Except AccessError Unit := do
  ensure snapshot.WellFormed .invalidGrantSnapshot
  ensure snapshot.TerminalFacts .invalidGrantSnapshot

theorem validate_eq_ok {snapshot : AccessGrantSnapshot} : snapshot.validate = .ok () ↔
    snapshot.WellFormed ∧ snapshot.TerminalFacts := by
  simp only [validate, check_bind_eq_ok, ensure_eq_ok]

end AccessGrantSnapshot

end LabWeaver
