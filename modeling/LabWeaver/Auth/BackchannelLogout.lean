import LabWeaver.Auth.Sessions

/-
  This file models logins and back-channel logouts side by side. A logout is final if no session
  of the provider session is committed after the logout has read the sessions it revokes.

  Main declaration: `backchannel_logout_final`.
-/

namespace LabWeaver

namespace Auth

open ReadCommitted Statement System Option AuthCall

-- Logins

structure OidcTransactionRow where
  state : String
  expiresAt : OffsetDateTime
  consumedAt : Option OffsetDateTime

/- What the code exchange returns, with the platform roles that its claims map to. -/
structure VerifiedIdentity where
  sid : Option String
  roles : List PlatformRole
  expiresAt : OffsetDateTime

inductive CallbackPhase where
| consumed
| exchanged (identity : VerifiedIdentity)
| finished

/- A callback reads the clock once. -/
structure Callback where
  now : OffsetDateTime
  phase : CallbackPhase

structure SessionConfig where
  (sessionTtl idleTtl : Int)

def consumeOidcTransaction (transactions : List OidcTransactionRow) (state : String)
    (now : OffsetDateTime) : Option (List OidcTransactionRow) :=
  if transactions.any (fun row => row.state = state ∧ row.consumedAt = none ∧
    now < row.expiresAt) then
    some (transactions.map (fun row =>
      if row.state = state then { row with consumedAt := some now } else row))
  else none

def createBffSession {δ : Type} (hash : String → δ) (config : SessionConfig) (actorId : ActorId)
    (identity : VerifiedIdentity) (now : OffsetDateTime) : Option (BffSessionRow δ) :=
  let expiresAt := min identity.expiresAt (now + config.sessionTtl)
  let idleExpiresAt := min (now + config.idleTtl) expiresAt
  if expiresAt ≤ now ∨ idleExpiresAt ≤ now ∨ identity.roles = [] then none
  else
    some
      { actorId, platformRoles := identity.roles, oidcSidSha256 := identity.sid.map hash,
        authorizationRevision := 1, issuedAt := now, expiresAt,
        idleExpiresAt, revokedAt := none, revokeDiagnostic := none }

-- The World

/- The logins and callbacks, the provider sessions that have ended, those whose logout has been
  committed, and the database. -/
structure LogoutWorld (δ : Type) where
  transactions : List OidcTransactionRow
  callbacks : List Callback
  (issued loggedOut : List String)
  database : AuthSystem δ

inductive LogoutAction (δ : Type) where
| login (state : String) (expiresAt : OffsetDateTime)
| consume (state : String) (now : OffsetDateTime)
| exchange (callback : Nat) (identity : VerifiedIdentity)
| create (callback : Nat) (actorId : ActorId) (sessionId : BffSessionId)
| issueLogout (sid : String)
| logout (request : LogoutRequest)
| load (search : SessionLookup)
| execute (action : ReadCommitted.Action (AuthCall δ))

section

variable {δ : Type} [DecidableEq δ]

/- The provider session whose logout a step commits. -/
def loggedOutBy (database : AuthSystem δ) : ReadCommitted.Action (AuthCall δ) → List String
| .commit i =>
  match database.running i with
  | some tx =>
    match tx.locals with
    | .revoked request _ => [request.sid]
    | _ => []
  | none => []
| _ => []

variable (hash : String → δ) (world : LogoutWorld δ)

def LogoutWorld.begin (call : AuthCall δ) : Option (LogoutWorld δ) :=
  ((authProtocol hash).step world.database (.begin call)).map
    (fun database => { world with database })

variable (config : SessionConfig)

/- The provider returns no code for a session that it has ended, and a logout token is verified to
  be one that it has issued. -/
def LogoutWorld.step (world : LogoutWorld δ) : LogoutAction δ → Option (LogoutWorld δ)
| .login state expiresAt =>
  if world.transactions.any (fun row => row.state = state) then none
  else some { world with transactions := ⟨state, expiresAt, none⟩ :: world.transactions }
| .consume state now =>
  (consumeOidcTransaction world.transactions state now).map (fun transactions =>
    { world with transactions, callbacks := world.callbacks ++ [⟨now, .consumed⟩] })
| .exchange index identity =>
  match world.callbacks[index]? with
  | some ⟨now, .consumed⟩ =>
    if identity.sid.any (fun sid => sid ∈ world.issued) then none
    else some { world with callbacks := world.callbacks.set index ⟨now, .exchanged identity⟩ }
  | _ => none
| .create index actorId sessionId =>
  match world.callbacks[index]? with
  | some ⟨now, .exchanged identity⟩ =>
    match createBffSession hash config actorId identity now with
    | some row =>
      { world with callbacks := world.callbacks.set index ⟨now, .finished⟩ }.begin hash
        (.creating sessionId row)
    | none => none
  | _ => none
| .issueLogout sid => some { world with issued := sid :: world.issued }
| .logout request =>
  if request.sid ∈ world.issued ∧ request.issuer ≠ "" ∧ request.jti ≠ "" ∧
    request.sid ≠ "" ∧ request.now < request.expiresAt then
    world.begin hash (.reserving request)
  else none
| .load search => world.begin hash (.selecting search)
| .execute (.begin _) => none
| .execute action =>
  ((authProtocol hash).step world.database action).map (fun database =>
    { world with database, loggedOut := loggedOutBy world.database action ++ world.loggedOut })

def LogoutWorld.initial : LogoutWorld δ where
  transactions := []
  callbacks := []
  issued := []
  loggedOut := []
  database := ⟨.empty, []⟩

def logoutMachine : Machine (LogoutWorld δ) (LogoutAction δ) where
  init := fun world => world = .initial
  step := LogoutWorld.step hash config

/- A transaction that commits creates no session of a provider session whose sessions a logout has
  read. -/
def InTime (s : AuthSystem δ) (loggedOut : List String) (tx : AuthTransaction δ) : Prop :=
  ∀ id row sid, tx.locals = .created id row → row.oidcSidSha256 = some (hash sid) →
    (∀ other ∈ loggedOut, hash other ≠ hash sid) ∧
    ∀ j other, s.running j = some other → (∀ request, other.locals = .revoking request →
      hash request.sid = hash sid → other.snapshot = none) ∧
      ∀ request rows, other.locals = .revoked request rows → hash request.sid ≠ hash sid

/- No session is committed for a provider session after a logout of it has read the sessions. -/
def CreatedInTime : LogoutAction δ → Prop
| .execute (.commit i) =>
  ∀ tx, world.database.running i = some tx → InTime hash world.database world.loggedOut tx
| _ => True

/- No session of a provider session that was logged out is accepted. -/
def LogoutFinal : Prop :=
  ∀ sid ∈ world.loggedOut, ∀ i tx search row, world.database.running i = some tx →
    tx.locals = .accepted search row → row.oidcSidSha256 ≠ some (hash sid)

end

-- Revoked Sessions

section

variable {δ : Type} {hash : String → δ} {s s' : AuthSystem δ} {loggedOut : List String}

structure Unrevoked (rows : AuthRows δ) (sid : δ) (id : BffSessionId) : Prop where
  exists_row : ∃ row : BffSessionRow δ, rows.row (sessionKey id) = some row ∧
    row.oidcSidSha256 = some sid ∧ row.revokedAt = none

/- The sessions of a logged out provider session are revoked, a logout that has read has seen the
  others, and one that has written has revoked them. -/
structure Revocation (hash : String → δ) (s : AuthSystem δ) (loggedOut : List String) : Prop where
  sound : Protocol.Sound (fun _ => True) (fun committed tx =>
    tx.locals.Sound committed tx.writes tx.locks)
    (fun _ _ => True)
    s
  final : ∀ sid ∈ loggedOut, ∀ id, ¬Unrevoked s.committed (hash sid) id
  seen : ∀ i tx request snapshot, s.running i = some tx → tx.locals = .revoking request →
    tx.snapshot = some snapshot →
    ∀ id, Unrevoked s.committed (hash request.sid) id → Unrevoked snapshot (hash request.sid) id
  covers : ∀ i tx request rows, s.running i = some tx → tx.locals = .revoked request rows → ∀ id,
    Unrevoked s.committed (hash request.sid) id → tx.writes.row (sessionKey id) ≠ none

variable {writes : AuthRows δ} {call : AuthCall δ} {id : BffSessionId} {locks : Locks (AuthKey δ)}
  {committed : AuthRows δ}

/- A commit adds no session that is not revoked, unless it creates one. -/
theorem unrevoked_of_publish {sid : δ} (hSound : call.Sound committed writes locks)
    (hAfter : Unrevoked (writes.overlay committed) sid id) :
    (∃ row, call = .created id row ∧ row.oidcSidSha256 = some sid) ∨
    Unrevoked committed sid id := by
  rcases hAfter with ⟨row', hRow', hSid, hUnrevoked⟩
  rcases Store.overlay_cases hRow' with hWritten | ⟨_, hRow'⟩
  · have hOld : Rewrites committed writes → Unrevoked committed sid id := by
      intro hRewrites
      rcases hRewrites id row' hWritten with ⟨old, hOld, hSame, hStays⟩
      refine ⟨old, hOld, ?_, ?_⟩
      · rwa [← hSame]
      · by_contra hRevoked
        exact hStays hRevoked hUnrevoked
    cases call with
    | created other row =>
      left
      have hSameId : id = other := by
        by_contra hNe
        cases (hSound.only id hNe).symm.trans hWritten
      subst hSameId
      cases hSound.written.symm.trans hWritten
      exact ⟨row', rfl, hSid⟩
    | revoked request rows => exact .inr (hOld hSound.rewrites)
    | accepted search row => exact .inr (hOld hSound.1)
    | renewing search row =>
      cases (hSound.1 id).symm.trans hWritten
    | creating _ _ | reserving _ | revoking _
    | selecting _ =>
      cases (hSound id).symm.trans hWritten
  · exact .inr ⟨row', hRow', hSid, hUnrevoked⟩

variable {i : Nat} {tx : AuthTransaction δ}

/- What a commit in time leaves not revoked was so before. -/
theorem Revocation.unrevoked_before {sid : String} (hRevocation : Revocation hash s loggedOut)
    (hRunning : s.running i = some tx)
    (hAfter : Unrevoked (tx.writes.overlay s.committed) (hash sid) id) :
    (∃ row, tx.locals = .created id row ∧ row.oidcSidSha256 = some (hash sid)) ∨
    Unrevoked s.committed (hash sid) id :=
  unrevoked_of_publish (hRevocation.sound.each hRunning) hAfter

/- What holds of the transactions after a replacement that commits nothing. -/
theorem Revocation.replace (hRevocation : Revocation hash s loggedOut)
    (hSound : Protocol.Sound (fun _ => True) (fun committed tx =>
      tx.locals.Sound committed tx.writes tx.locks) (fun _ _ => True) (s.replace i tx))
    (hSeen : ∀ request snapshot, tx.locals = .revoking request → tx.snapshot = some snapshot → ∀ id,
      Unrevoked s.committed (hash request.sid) id → Unrevoked snapshot (hash request.sid) id)
    (hCovers : ∀ request rows, tx.status = .running → tx.locals = .revoked request rows → ∀ id,
      Unrevoked s.committed (hash request.sid) id → tx.writes.row (sessionKey id) ≠ none) :
    Revocation hash (s.replace i tx) loggedOut where
  sound := hSound
  final := hRevocation.final
  seen := by
    intro j other request snapshot hRunning hCall hSnapshot
    rcases running_replace hRunning with ⟨_, rfl⟩ | ⟨_, hBefore⟩
    · exact hSeen request snapshot hCall hSnapshot
    · exact hRevocation.seen j other request snapshot hBefore hCall hSnapshot
  covers := by
    intro j other request rows hRunning hCall
    have hStatus := (running_eq_some.mp hRunning).2
    rcases running_replace hRunning with ⟨_, rfl⟩ | ⟨_, hBefore⟩
    · exact hCovers request rows hStatus hCall
    · exact hRevocation.covers j other request rows hBefore hCall

theorem Revocation.commit (hRevocation : Revocation hash s loggedOut)
    (hRunning : s.running i = some tx) (hInTime : InTime hash s loggedOut tx)
    (hSound : Protocol.Sound (fun _ => True) (fun committed tx =>
      tx.locals.Sound committed tx.writes tx.locks) (fun _ _ => True) (s.publish i tx)) :
    Revocation hash (s.publish i tx) (loggedOutBy s (.commit i) ++ loggedOut) where
  sound := hSound
  final := by
    intro sid hSid id hAfter
    rcases List.mem_append.mp hSid with hNew | hOld
    · -- the logout of `sid` itself is committed
      simp only [loggedOutBy, hRunning] at hNew
      split at hNew
      · rename_i request rows hCall
        rw [List.mem_singleton] at hNew
        subst hNew
        rcases hRevocation.unrevoked_before hRunning hAfter with ⟨row, hCreated, _⟩ | hBefore
        · cases hCall.symm.trans hCreated
        · have hWritten := hRevocation.covers i tx request rows hRunning hCall id hBefore
          rcases ne_none_iff_exists'.mp hWritten with ⟨row, hRow⟩
          rcases hAfter with ⟨row', hRow', _, hUnrevoked⟩
          have hRow' : (tx.writes.overlay s.committed).row (sessionKey id) = some row' := hRow'
          cases (Store.overlay_row_of_some hRow).symm.trans hRow'
          have hTx := hRevocation.sound.each hRunning
          rw [hCall] at hTx
          exact hTx.revoked id row hRow hUnrevoked
      · cases hNew
    · rcases hRevocation.unrevoked_before hRunning hAfter with ⟨row, hCreated, hRowSid⟩ | hBefore
      · exact (hInTime id row sid hCreated hRowSid).1 sid hOld rfl
      · exact hRevocation.final sid hOld id hBefore
  seen := by
    intro j other request snapshot hOther hCall hSnapshot id hAfter
    rcases running_publish hOther with ⟨_, hOther⟩
    rcases hRevocation.unrevoked_before hRunning hAfter with ⟨row, hCreated, hRowSid⟩ | hBefore
    · have hIdle := ((hInTime id row request.sid hCreated hRowSid).2 j
        other hOther).1 request hCall rfl
      cases hSnapshot.symm.trans hIdle
    · exact hRevocation.seen j other request snapshot hOther hCall hSnapshot id hBefore
  covers := by
    intro j other request rows hOther hCall id hAfter
    rcases running_publish hOther with ⟨_, hOther⟩
    rcases hRevocation.unrevoked_before hRunning hAfter with ⟨row, hCreated, hRowSid⟩ | hBefore
    · exact absurd rfl (((hInTime id row request.sid hCreated hRowSid).2 j
        other hOther).2 request rows hCall)
    · exact hRevocation.covers j other request rows hOther hCall id hBefore

variable [DecidableEq δ] {request : LogoutRequest}

/- The update of a logout writes every session that it has seen and that is still not revoked. -/
theorem covers_of_update {snapshot : AuthRows δ} {result : AuthCall δ} (hNone : NoSession tx.writes)
    (hRun : (revokeSessions hash request).run (tx.view committed snapshot
      ((revokeSessions hash request).scan snapshot))
      ((revokeSessions hash request).scan snapshot) = some (result, writes))
    (hSeen : Unrevoked snapshot (hash request.sid) id)
    (hCurrent : Unrevoked committed (hash request.sid) id) :
    (writes.overlay tx.writes).row (sessionKey id) ≠ none := by
  rcases updateTable_run hRun with ⟨ids, _, hUpdated⟩
  rcases hSeen with ⟨old, hOld, hOldSid, hOldUnrevoked⟩
  rcases hCurrent with ⟨row, hRow, hSid, hUnrevoked⟩
  have hLocked : Locks.Writes ((revokeSessions hash request).scan snapshot) (sessionKey id) :=
    updateTable_scan_writes.mpr ⟨old, hOld, decide_eq_true ⟨hOldSid, hOldUnrevoked⟩⟩
  have hView : (tx.view committed snapshot ((revokeSessions hash request).scan
      snapshot)).row (sessionKey id) = some row := by
    rwa [Transaction.view_row_of_writes hLocked, Store.overlay_row_of_none (hNone id)]
  have hMember := hUpdated.returned.mpr ⟨hLocked, row, hView, decide_eq_true ⟨hSid, hUnrevoked⟩⟩
  rcases hUpdated.total hMember with ⟨row', hRow'⟩
  rw [Store.overlay_row_of_some hRow']
  exact some_ne_none _

/- Only the update of a logout ends as revoked. -/
theorem revoking_of_revoked
    {statement : Statement (AuthKey δ) (Cell (AuthTable.Row δ)) (AuthCall δ)} {view : AuthRows δ}
    {rows : Nat} (hCommand : call.command hash = .execute statement)
    (hRun : statement.run view locks = some (.revoked request rows, writes)) :
    call = .revoking request ∧ statement = revokeSessions hash request := by
  cases call with
  | creating id row =>
    cases hCommand
    cases (insert_run hRun).1
  | reserving request =>
    cases hCommand
    rcases insertMissing_run hRun with ⟨hNext, _⟩ | ⟨hNext, _⟩ <;> cases hNext
  | revoking other =>
    cases hCommand
    rcases updateTable_run hRun with ⟨ids, hNext, _⟩
    cases hNext
    exact ⟨rfl, rfl⟩
  | selecting search =>
    cases hCommand
    rcases bind_eq_some_iff.mp (query_run hRun).1 with ⟨row, _, hNext⟩
    cases hNext
  | renewing search row =>
    cases hCommand
    rcases updateTable_run hRun with ⟨ids, hNext, _⟩
    cases hNext
  | created _ _ | revoked _ _ | accepted _ _ => cases hCommand

-- Steps

/- A step that commits nothing keeps the invariant. -/
theorem Revocation.step {action : ReadCommitted.Action (AuthCall δ)}
    (hRevocation : Revocation hash s loggedOut) (hOther : ∀ i, action ≠ .commit i)
    (hStep : (authProtocol hash).step s action = some s') : Revocation hash s' loggedOut := by
  have hSound := (authProtocol_maintains hash).step hRevocation.sound trivial hStep
  cases Protocol.step_cases hStep with
  | committed hRunning hCommand => exact absurd rfl (hOther _)
  | @began call hEntry =>
    refine ⟨hSound, hRevocation.final, ?_, ?_⟩
    · intro j other request snapshot hRunning hCall hSnapshot
      rcases running_begin hRunning with hBefore | ⟨_, rfl⟩
      · exact hRevocation.seen j other request snapshot hBefore hCall hSnapshot
      · cases hSnapshot
    · intro j other request rows hRunning hCall
      rcases running_begin hRunning with hBefore | ⟨_, rfl⟩
      · exact hRevocation.covers j other request rows hBefore hCall
      · have hRevoked : call = .revoked request rows := hCall
        rw [hRevoked] at hEntry
        cases hEntry
  | @started i tx statement hRunning hCommand hIdle =>
    have hTx := hRevocation.sound.each hRunning
    refine hRevocation.replace hSound ?_ ?_
    · intro request snapshot hCall hSnapshot id hUnrevoked
      cases hSnapshot
      have hRevoking : tx.locals = .revoking request := hCall
      rw [hRevoking] at hTx
      rcases hUnrevoked with ⟨row, hRow, hRest⟩
      refine ⟨row, ?_, hRest⟩
      rwa [Store.overlay_row_of_none (hTx id)]
    · intro request rows hStatus hCall
      exact hRevocation.covers i tx request rows hRunning hCall
  | @finished i tx statement snapshot result writes hRunning hCommand hSnapshot hFree hRun =>
    have hTx := hRevocation.sound.each hRunning
    refine hRevocation.replace hSound ?_ ?_
    · rintro request snapshot' hCall ⟨⟩
    · intro request rows _ hCall id hUnrevoked
      have hResult : result = .revoked request rows := hCall
      subst hResult
      rcases revoking_of_revoked hCommand hRun with ⟨hRevoking, rfl⟩
      rw [hRevoking] at hTx
      have hSeen := hRevocation.seen i tx request snapshot hRunning
        hRevoking hSnapshot id hUnrevoked
      exact covers_of_update hTx hRun hSeen hUnrevoked
  | @aborted i tx _ hRunning =>
    refine hRevocation.replace hSound ?_ ?_
    · rintro request snapshot hCall ⟨⟩
    · rintro request rows ⟨⟩

-- Runs

variable {config : SessionConfig} {world world' : LogoutWorld δ}

theorem Revocation.begin (hRevocation : Revocation hash world.database world.loggedOut)
    (hStep : world.begin hash call = some world') :
    Revocation hash world'.database world'.loggedOut := by
  rcases map_eq_some_iff.mp hStep with ⟨database, hBegin, rfl⟩
  exact hRevocation.step (fun _ h => by cases h) hBegin

/- Every step of the world keeps the invariant if sessions are created in time. -/
theorem Revocation.world_step {action : LogoutAction δ}
    (hRevocation : Revocation hash world.database world.loggedOut)
    (hInTime : CreatedInTime hash world action)
    (hStep : world.step hash config action = some world') :
    Revocation hash world'.database world'.loggedOut := by
  cases action with
  | login state expiresAt =>
    simp only [LogoutWorld.step] at hStep
    split at hStep
    · cases hStep
    · cases hStep
      exact hRevocation
  | consume state now =>
    rcases map_eq_some_iff.mp hStep with ⟨_, _, rfl⟩
    exact hRevocation
  | exchange index identity =>
    simp only [LogoutWorld.step] at hStep
    split at hStep
    · split at hStep
      · cases hStep
      · cases hStep
        exact hRevocation
    · cases hStep
  | create index actorId sessionId =>
    simp only [LogoutWorld.step] at hStep
    split at hStep
    · split at hStep
      · refine Revocation.begin ?_ hStep
        exact hRevocation
      · cases hStep
    · cases hStep
  | issueLogout sid =>
    cases hStep
    exact hRevocation
  | logout request =>
    simp only [LogoutWorld.step] at hStep
    split at hStep
    · exact hRevocation.begin hStep
    · cases hStep
  | load search => exact hRevocation.begin hStep
  | execute action =>
    cases action with
    | begin call => cases hStep
    | commit i =>
      rcases map_eq_some_iff.mp hStep with ⟨database, hCommit, rfl⟩
      have hSound := (authProtocol_maintains hash).step hRevocation.sound trivial hCommit
      rcases Protocol.step_commit_eq_some hCommit with ⟨tx, hRunning, _, rfl⟩
      exact hRevocation.commit hRunning (hInTime tx hRunning) hSound
    | start i | finish i | abort i =>
      rcases map_eq_some_iff.mp hStep with ⟨database, hTaken, rfl⟩
      exact hRevocation.step (fun _ h => by cases h) hTaken

theorem revocation_of_run (hRun : (logoutMachine hash config).Run (CreatedInTime hash) world) :
    Revocation hash world.database world.loggedOut := by
  refine Machine.Run.invariant (I := fun world => Revocation hash world.database world.loggedOut)
    ?_ ?_ hRun
  · rintro world rfl
    have hInit : ((authProtocol hash).machine (fun _ => True)).init ⟨.empty, []⟩ := ⟨trivial, rfl⟩
    have hSound := (authProtocol_maintains hash).run (fun _ _ => trivial) (.start hInit)
    have hNone : ∀ i tx, (LogoutWorld.initial : LogoutWorld δ).database.running i ≠ some tx := by
      intro i tx hRunning
      rw [running_eq_some] at hRunning
      simp [LogoutWorld.initial] at hRunning
    refine ⟨hSound, ?_, ?_, ?_⟩
    · rintro sid ⟨⟩
    · intro i tx _ _ hRunning
      exact absurd hRunning (hNone i tx)
    · intro i tx _ _ hRunning
      exact absurd hRunning (hNone i tx)
  · intro world action world' hRevocation hInTime hStep
    exact hRevocation.world_step hInTime hStep

/- A logout is final in every run in which sessions are created in time. -/
theorem backchannel_logout_final (hRun : (logoutMachine hash config).Run (CreatedInTime hash)
        world) :
    LogoutFinal hash world := by
  intro sid hSid i tx search row hRunning hAccepted hRow
  have hRevocation := revocation_of_run hRun
  have hTx := hRevocation.sound.each hRunning
  rw [hAccepted] at hTx
  rcases hTx with ⟨_, _, hCurrent, hUnrevoked⟩
  exact hRevocation.final sid hSid search.sessionId ⟨row, hCurrent, hRow, hUnrevoked⟩

end

-- Two Orders Of One Logout

namespace LogoutSample

def config : SessionConfig := ⟨100, 50⟩

def machine : Machine (LogoutWorld String) (LogoutAction String) :=
  logoutMachine (fun sid => sid) config

/- A callback up to the code exchange, and the provider's logout after it. -/
def exchanged : List (LogoutAction String) :=
  [.login "state" 20, .consume "state" 1, .exchange 0 ⟨some "sid", [.student], 200⟩,
    .issueLogout "sid"]

variable (i : Nat)

/- Two statements of a transaction. -/
def statements : List (LogoutAction String) :=
  [.execute (.start i), .execute (.finish i), .execute (.start i), .execute (.finish i)]

def create : List (LogoutAction String) :=
  [.create 0 ⟨1⟩ ⟨7⟩, .execute (.start i), .execute (.finish i), .execute (.commit i)]

def logout : List (LogoutAction String) :=
  .logout ⟨"issuer", "jti", "sid", 100, 2⟩ :: statements i ++ [.execute (.commit i)]

def load : List (LogoutAction String) := .load ⟨⟨7⟩, 50, 3⟩ :: statements i

variable (world : LogoutWorld String)

/- The logout of the provider session is committed, and a session of it is accepted. -/
def acceptedAfter : Bool :=
  world.loggedOut = ["sid"] &&
    match (world.database.running 2).map (fun tx : AuthTransaction String => tx.locals) with
    | some (.accepted _ row) => row.oidcSidSha256 = some "sid"
    | _ => false

/- No logout has read the sessions yet. -/
def quiet : Bool :=
  world.loggedOut = [] && world.database.transactions.all (fun tx =>
    match tx.locals with
    | .revoking _ | .revoked _ _ => false
    | _ => true)

/- A session is committed only if no logout has read. -/
def quietCreation : LogoutAction String → Bool
| .execute (.commit i) =>
  match (world.database.running i).map (fun tx : AuthTransaction String => tx.locals) with
  | some (.created _ _) => quiet world
  | _ => true
| _ => true

theorem createdInTime_of_quiet (action : LogoutAction String)
    (hQuiet : quietCreation world action = true) : CreatedInTime (fun sid => sid) world action := by
  cases action with
  | execute action =>
    cases action with
    | commit i =>
      intro tx hRunning id row sid hCreated hRow
      simp only [quietCreation, hRunning, map_some, hCreated, quiet, Bool.and_eq_true,
        decide_eq_true_eq, List.all_eq_true] at hQuiet
      refine ⟨?_, ?_⟩
      · intro other hOther
        rw [hQuiet.1] at hOther
        cases hOther
      · intro j other hOther
        have hIdle := hQuiet.2 other (List.mem_of_getElem? (running_eq_some.mp hOther).1)
        refine ⟨?_, ?_⟩
        · intro request hCall
          rw [hCall] at hIdle
          cases hIdle
        · intro request rows hCall
          rw [hCall] at hIdle
          cases hIdle
    | begin _ | start _ | finish _ | abort _ => trivial
  | login _ _ | consume _ _ | exchange _ _ | create _ _ _
  | issueLogout _ | logout _ | load _ => trivial

end LogoutSample

open LogoutSample

/- The session that is created before the logout is not accepted after it. -/
theorem backchannel_logout_final_created_before : ∃ world, machine.Run
      (CreatedInTime (fun sid => sid)) world ∧
    world.loggedOut = ["sid"] ∧ LogoutFinal (fun sid => sid) world := by
  have hFound : ∃ world, machine.Run (CreatedInTime (fun sid => sid)) world ∧
      world.loggedOut = ["sid"] :=
    Machine.exists_run_of_guarded (exchanged ++ create 0 ++ logout 1)
      (s := LogoutWorld.initial) rfl createdInTime_of_quiet (by decide)
  rcases hFound with ⟨world, hRun, hLoggedOut⟩
  exact ⟨world, hRun, hLoggedOut, backchannel_logout_final hRun⟩

/- The session that is created after the logout is accepted, although the code was exchanged
  before. -/
theorem backchannel_logout_not_final : ∃ world, machine.Reachable world ∧
    ¬LogoutFinal (fun sid => sid) world := by
  have hFound : ∃ world, machine.Reachable world ∧ acceptedAfter world = true :=
    Machine.exists_reachable (exchanged ++ logout 0 ++
      create 1 ++ load 2) (s := LogoutWorld.initial) rfl (by decide)
  rcases hFound with ⟨world, hReach, hAccepted⟩
  refine ⟨world, hReach, ?_⟩
  intro hFinal
  simp only [acceptedAfter, Bool.and_eq_true, decide_eq_true_eq] at hAccepted
  rcases hAccepted with ⟨hLoggedOut, hRow⟩
  split at hRow
  · rename_i search row hCall
    rcases map_eq_some_iff.mp hCall with ⟨tx, hRunning, hAccepted⟩
    have hSid : "sid" ∈ world.loggedOut := by
      rw [hLoggedOut]
      exact List.mem_singleton.mpr rfl
    exact hFinal "sid" hSid 2 tx search row hRunning hAccepted (of_decide_eq_true hRow)
  · cases hRow

end Auth

end LabWeaver
