import LabWeaver.Base.Sql
import LabWeaver.Contracts.AccessGrant

/-
  This file models the transactions that create a browser session, load it, and revoke the
  sessions of a provider session, statement by statement.
-/

namespace LabWeaver

namespace Auth

open ReadCommitted Statement Transaction Option

-- Tables

structure BffSessionRow (δ : Type) where
  actorId : ActorId
  platformRoles : List PlatformRole
  oidcSidSha256 : Option δ
  authorizationRevision : Nat
  (issuedAt expiresAt idleExpiresAt : OffsetDateTime)
  revokedAt : Option OffsetDateTime
  revokeDiagnostic : Option String

open LabWeaver.Auth.BffSessionRow

structure LogoutEventRow where
  (receivedAt expiresAt : OffsetDateTime)

inductive AuthTable where
| bffSessions
| logoutEvents
deriving DecidableEq

open AuthTable

namespace AuthTable

abbrev Id (δ : Type) : AuthTable → Type
| .bffSessions => BffSessionId
| .logoutEvents => String × δ

abbrev Row (δ : Type) : AuthTable → Type
| .bffSessions => BffSessionRow δ
| .logoutEvents => LogoutEventRow

instance {δ : Type} [DecidableEq δ] : (t : AuthTable) → DecidableEq (t.Id δ)
| .bffSessions | .logoutEvents => inferInstance

end AuthTable

section

variable {δ : Type}

abbrev AuthKey (δ : Type) := Key (Id δ)

abbrev AuthRows (δ : Type) := Store (AuthKey δ) (Cell (Row δ))

abbrev sessionKey (id : BffSessionId) : AuthKey δ := ⟨.bffSessions, id⟩

/- The condition of the SELECT that loads a session. -/
def BffSessionRow.live (row : BffSessionRow δ) (now : OffsetDateTime) : Bool :=
  row.revokedAt.isNone && now < row.expiresAt && now < row.idleExpiresAt

-- Calls

structure LogoutRequest where
  (issuer jti sid : String)
  (expiresAt now : OffsetDateTime)

structure SessionLookup where
  sessionId : BffSessionId
  idleTtl : Int
  now : OffsetDateTime

/- `create_bff_session`, `consume_backchannel_logout` and `load_bff_session`, before each of their
  statements and before the commit. -/
inductive AuthCall (δ : Type) where
| creating (id : BffSessionId) (row : BffSessionRow δ)
| created (id : BffSessionId) (row : BffSessionRow δ)
| reserving (request : LogoutRequest)
| revoking (request : LogoutRequest)
| revoked (request : LogoutRequest) (rows : Nat)
| selecting (search : SessionLookup)
| renewing (search : SessionLookup) (row : BffSessionRow δ)
| accepted (search : SessionLookup) (row : BffSessionRow δ)

namespace AuthCall

variable [DecidableEq δ] (hash : String → δ)

def revokeSessions (request : LogoutRequest) : Statement (AuthKey δ) (Cell (Row δ)) (AuthCall δ) :=
  .updateTable .bffSessions (fun _ row => row.oidcSidSha256 = some (hash request.sid) ∧
    row.revokedAt = none)
    (fun row => some
      { row with
        revokedAt := some request.now, revokeDiagnostic := some "LW_AUTH_SESSION_REVOKED" })
    (fun ids => some (.revoked request ids.length))

/- A replayed logout is an error, and so is a session that is not live; both roll back. -/
def command : AuthCall δ → Command (AuthKey δ) (Cell (Row δ)) (AuthCall δ)
| .creating id row => .execute (.insert (sessionKey id) (fun _ => some row) [] (.created id row))
| .created _ _ => .commit
| .reserving request =>
  .execute (.insertMissing ⟨.logoutEvents, (request.issuer, hash request.jti)⟩
    (⟨request.now, request.expiresAt⟩ : LogoutEventRow)
    (fun inserted => if inserted then some (.revoking request) else none))
| .revoking request => .execute (revokeSessions hash request)
| .revoked _ _ => .commit
| .selecting search =>
  .execute (.selectForUpdate (sessionKey search.sessionId) (fun row => live row search.now)
    (fun row => some (.renewing search row)))
| .renewing search row =>
  .execute (.updateTable .bffSessions (fun id _ => id = search.sessionId) (fun current => some
    { current with idleExpiresAt := min (search.now + search.idleTtl) row.expiresAt })
    (fun _ => some (.accepted search row)))
| .accepted _ _ => .commit

/- The state in which a transaction begins. -/
def entry : AuthCall δ → Bool
| .creating _ _ | .reserving _ | .selecting _ => true
| _ => false

end AuthCall

def authProtocol [DecidableEq δ] (hash : String → δ) : Protocol (AuthKey δ) (Cell (Row δ))
    (AuthCall δ) where
  entry := AuthCall.entry
  command := AuthCall.command hash

abbrev AuthTransaction (δ : Type) := Transaction (AuthKey δ) (Cell (Row δ)) (AuthCall δ)

abbrev AuthSystem (δ : Type) := System (AuthKey δ) (Cell (Row δ)) (AuthCall δ)

end

section

variable {δ : Type} {committed committed' writes : AuthRows δ} {locks : Locks (AuthKey δ)}

-- What A Transaction Has Written

/- The transaction has written no session. -/
def NoSession (writes : AuthRows δ) : Prop := ∀ id, writes.row (sessionKey id) = none

variable (committed writes)

/- Sessions are rewritten for the same provider session, and a revoked one stays revoked. -/
def Rewrites : Prop :=
  ∀ id (row' : BffSessionRow δ), writes.row (sessionKey id) = some row' → ∃ row : BffSessionRow δ,
    committed.row (sessionKey id) = some row ∧ row'.oidcSidSha256 = row.oidcSidSha256 ∧
    (row.revokedAt ≠ none → row'.revokedAt ≠ none)

structure Revokes : Prop where
  rewrites : Rewrites committed writes
  revoked : ∀ id (row : BffSessionRow δ), writes.row (sessionKey id) = some row →
    row.revokedAt ≠ none

structure Creates (id : BffSessionId) (row : BffSessionRow δ)
    (committed writes : AuthRows δ) : Prop where
  written : writes.row (sessionKey id) = some row
  only : ∀ other, other ≠ id → writes.row (sessionKey other) = none
  fresh : committed.row (sessionKey id) = none

/- The session is locked as it was found, not revoked. -/
structure Holds (search : SessionLookup) (row : BffSessionRow δ) (committed : AuthRows δ)
    (locks : Locks (AuthKey δ)) : Prop where
  locked : locks.Protects (sessionKey search.sessionId)
  current : committed.row (sessionKey search.sessionId) = some row
  unrevoked : row.revokedAt = none

def AuthCall.Sound (locks : Locks (AuthKey δ)) : AuthCall δ → Prop
| .created id row => Creates id row committed writes
| .revoked _ _ => Revokes committed writes
| .renewing search row => NoSession writes ∧ Holds search row committed locks
| .accepted search row => Rewrites committed writes ∧ Holds search row committed locks
| .creating _ _ | .reserving _ | .revoking _
| .selecting _ => NoSession writes

variable {committed writes}

/- A transaction depends only on the rows it protects. -/
theorem AuthCall.Sound.stable {call : AuthCall δ}
    (hCovered : ∀ k, writes.row k ≠ none → locks.Writes k)
    (hSame : ∀ k, locks.Protects k → committed'.row k = committed.row k)
    (hSound : call.Sound committed writes locks) : call.Sound committed' writes locks := by
  have hWritten : ∀ k, writes.row k ≠ none → committed'.row k = committed.row k :=
    fun k hRow => hSame k (hCovered k hRow).protects
  have hRewrites : Rewrites committed writes → Rewrites committed' writes := by
    intro hRewrites id row' hRow
    rw [hWritten _ (by rw [hRow]; exact some_ne_none _)]
    exact hRewrites id row' hRow
  have hHolds : ∀ {search row}, Holds search row committed locks →
      Holds search row committed' locks := by
    intro search row hHolds
    refine ⟨hHolds.locked, ?_, hHolds.unrevoked⟩
    rw [hSame _ hHolds.locked]
    exact hHolds.current
  cases call with
  | created id row =>
    refine ⟨hSound.written, hSound.only, ?_⟩
    rw [hWritten _ (by
      rw [hSound.written]
      exact some_ne_none _)]
    exact hSound.fresh
  | revoked request rows => exact ⟨hRewrites hSound.rewrites, hSound.revoked⟩
  | renewing search row => exact ⟨hSound.1, hHolds hSound.2⟩
  | accepted search row => exact ⟨hRewrites hSound.1, hHolds hSound.2⟩
  | creating _ _ | reserving _ | revoking _ | selecting _ => exact hSound

-- Statements

section

variable [DecidableEq δ] {hash : String → δ} {tx : AuthTransaction δ} {snapshot : AuthRows δ}
  {result : AuthCall δ}

theorem created_sound {id : BffSessionId} {row : BffSessionRow δ} (hNone : NoSession tx.writes)
    (hRun : (insert (sessionKey id) (fun _ => some row) [] (.created id row)).run
      (tx.view committed snapshot locks) locks =
      some (result, writes)) (hLocked : locks.Writes (sessionKey id)) :
    result = .created id row ∧ Creates id row committed (writes.overlay tx.writes) := by
  rcases insert_run hRun with ⟨rfl, hNew, _, value, ⟨⟩, rfl⟩
  rw [view_row_of_writes hLocked, Store.overlay_row_eq_none] at hNew
  refine ⟨rfl, Store.single_overlay_row _ _ _, ?_, hNew.2⟩
  intro other hOther
  rw [Store.single_overlay_row_of_ne _ _ (by
    simpa using Ne.symm hOther)]
  exact hNone other

theorem rewrites_of_update {condition : BffSessionId → BffSessionRow δ → Bool}
    {change : BffSessionRow δ → Option (BffSessionRow δ)}
    {next : List BffSessionId → Option (AuthCall δ)} (hNone : NoSession tx.writes)
    (hChange : ∀ row row', change row = some row' → row'.oidcSidSha256 = row.oidcSidSha256 ∧
      (row.revokedAt ≠ none → row'.revokedAt ≠ none)) (hRun :
    (.updateTable .bffSessions condition change next :
      Statement (AuthKey δ) (Cell (Row δ)) (AuthCall δ)).run
      (tx.view committed snapshot locks) locks =
      some (result, writes)) : Rewrites committed (writes.overlay tx.writes) := by
  rcases updateTable_run hRun with ⟨ids, _, hUpdated⟩
  intro id row' hRow
  rcases Store.overlay_cases hRow with hWritten | ⟨_, hRow⟩
  · rcases hUpdated.changed hWritten with ⟨hMember, row, hView, _, hChanged⟩
    have hLocked := (hUpdated.returned.mp hMember).1
    rcases own_or_committed hLocked hView with hOwn | hCommitted
    · cases (hNone id).symm.trans hOwn
    · exact ⟨row, hCommitted, hChange row _ hChanged⟩
  · cases (hNone id).symm.trans hRow

/- Every statement keeps what its transaction relies on. -/
theorem AuthCall.Sound.statement
    {statement : Statement (AuthKey δ) (Cell (Row δ)) (AuthCall δ)}
    (hSound : tx.locals.Sound committed tx.writes tx.locks)
    (hCommand : tx.locals.command hash = .execute statement)
    (hRun : tx.Runs statement committed snapshot result writes) :
    result.Sound committed (writes.overlay tx.writes) (statement.scan snapshot ++ tx.locks) := by
  cases hCall : tx.locals with
  | creating id row =>
    rw [hCall] at hSound hCommand
    cases hCommand
    have hLocked : Locks.Writes ((insert (sessionKey id) (fun _ => some row) []
          (AuthCall.created id row)).scan snapshot)
        (sessionKey id) :=
      ⟨.update, List.mem_cons_self, rfl⟩
    rcases created_sound hSound hRun hLocked with ⟨rfl, hCreates⟩
    exact hCreates
  | reserving request =>
    rw [hCall] at hSound hCommand
    cases hCommand
    rcases insertMissing_run hRun with ⟨hNext, _⟩ | ⟨hNext, _, _, hWrites⟩
    · cases hNext
    · cases hNext
      intro id
      rw [hWrites, Store.single_overlay_row_of_ne _ _ (fun hKey => by cases hKey)]
      exact hSound id
  | revoking request =>
    rw [hCall] at hSound hCommand
    cases hCommand
    rcases updateTable_run hRun with ⟨ids, hNext, hUpdated⟩
    have hRewrites := rewrites_of_update hSound (fun row row' hChange => by
      cases hChange
      exact ⟨rfl, fun _ => some_ne_none _⟩)
      hRun
    cases hNext
    refine ⟨hRewrites, ?_⟩
    intro id row' hRow
    rcases Store.overlay_cases hRow with hWritten | ⟨_, hRow⟩
    · rcases hUpdated.changed hWritten with ⟨_, _, _, _, ⟨⟩⟩
      exact some_ne_none _
    · rw [hSound id] at hRow
      cases hRow
  | selecting search =>
    rw [hCall] at hSound hCommand
    cases hCommand
    rcases selectForUpdate_run hRun with ⟨hWrites, hLocked, row, hRow, hLive, ⟨⟩⟩
    rw [Store.overlay_row_of_none (hSound _)] at hRow
    refine ⟨?_, hLocked.protects.append_left _, hRow, ?_⟩
    · rwa [hWrites]
    · simp only [live, Bool.and_eq_true, isNone_iff_eq_none] at hLive
      exact hLive.1.1
  | renewing search row =>
    rw [hCall] at hSound hCommand
    cases hCommand
    rcases updateTable_run hRun with ⟨ids, hNext, _⟩
    have hRewrites := rewrites_of_update hSound.1 (fun row row' hChange => by
      cases hChange
      exact ⟨rfl, fun hRevoked => hRevoked⟩)
      hRun
    cases hNext
    refine ⟨hRewrites, ?_, hSound.2.current, hSound.2.unrevoked⟩
    exact hSound.2.locked.append_right _
  | created _ _ | revoked _ _ | accepted _ _ =>
    rw [hCall] at hCommand
    cases hCommand

/- Every transaction on sessions is sound in every run. -/
theorem authProtocol_maintains (hash : String → δ) : (authProtocol hash).Maintains (fun _ _ => True)
    (fun _ => True) (fun committed tx => tx.locals.Sound committed tx.writes tx.locks)
    (fun _ _ => True) where
  begin := by
    intro s call _ _ hEntry
    cases call with
    | creating _ _ | reserving _ | selecting _ => exact fun _ => rfl
    | created _ _ | revoking _ | revoked _ _ | renewing _ _
    | accepted _ _ => cases hEntry
  start := by
    intro s i tx statement hSound _ hRunning _ _
    have hEach := hSound.each hRunning
    exact hEach
  finish := fun _ hSound hCommand _ hRun => hSound.statement hCommand hRun
  stable := by
    intro committed tx other _ _ hOther _ hCompatible _
    refine hOther.stable other.covered ?_
    intro k hProtects
    exact overlay_row_of_protects hCompatible hProtects

end

end

end Auth

end LabWeaver
