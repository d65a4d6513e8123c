import Mathlib
import PropertyTax.Sessions.SessionStore

/-! The calls of the session service as they run when no other call comes between
their accesses, and that the accesses in turn come to the same. -/
namespace PropertyTax
open KeyedTable Runs

/-- A character of the `base64url` alphabet. -/
def isBase64Url (c : Char) : Bool := c.isAlphanum || c == '-' || c == '_'

/-- `randomBytes(32).toString("base64url")` -/
structure SessionToken where
  raw : String
  base64url : raw.toList.all isBase64Url = true
  length : raw.toList.length = 43

theorem isSpace_of_isBase64Url {c : Char} (h : isBase64Url c = true) : Js.isSpace c = false := by
  have hRange : 48 ≤ c.toNat ∧ c.toNat ≤ 122 ∨ c.toNat = 45 := by
    simp only [isBase64Url, Char.isAlphanum, Char.isAlpha, Char.isUpper, Char.isLower,
      Char.isDigit, Bool.or_eq_true, Bool.and_eq_true, decide_eq_true_eq, beq_iff_eq, ge_iff_le,
      UInt32.le_iff_toNat_le] at h
    rcases h with (((h | h) | h) | rfl) | rfl
    · exact .inl ⟨le_trans (by decide) h.1, le_trans h.2 (by decide)⟩
    · exact .inl ⟨le_trans (by decide) h.1, le_trans h.2 (by decide)⟩
    · exact .inl ⟨le_trans (by decide) h.1, le_trans h.2 (by decide)⟩
    · exact .inr rfl
    · exact .inl ⟨by decide, by decide⟩
  simp only [Js.isSpace]
  rcases hRange with hRange | hRange
  · simp
    omega
  · simp
    omega

/-- A raw token has no white space. -/
theorem SessionToken.isSpace_raw (token : SessionToken) :
    ∀ c ∈ token.raw.toList, Js.isSpace c = false :=
  fun c hc => isSpace_of_isBase64Url (List.all_eq_true.mp token.base64url c hc)

/-- Nothing of a token is trimmed away. -/
theorem SessionToken.trim_raw (token : SessionToken) : Js.trim token.raw = token.raw := by
  apply Js.trim_eq_self
  · cases hHead : token.raw.toList.head? with
    | none => rfl
    | some c => exact token.isSpace_raw c (List.mem_of_mem_head? hHead)
  · cases hLast : token.raw.toList.getLast? with
    | none => rfl
    | some c => exact token.isSpace_raw c (List.mem_of_getLast? hLast)

theorem SessionToken.ne_empty (token : SessionToken) : token.raw ≠ "" := by
  intro hEmpty
  have hLength := token.length
  rw [hEmpty] at hLength
  cases hLength

namespace SessionCalls
variable (env : SessionEnv)

def createSession (id userId : Id) (token : SessionToken) (ipAddress userAgent : Option String)
    (now : Timestamp) (state : SessionState) : Except Refusal SessionRecord × SessionState :=
  let tokenHash := env.hashSessionToken token.raw
  let row : SessionRow :=
    { id
      tokenHash
      userId
      expiresAt := now + SESSION_TTL_SECONDS * 1000
      lastActiveAt := now
      createdAt := now
      ipAddress
      userAgent }
  match state.sessions.insert row with
  | .error refusal => (.error refusal, state)
  | .ok sessions =>
      let record := row.toRecord token.raw
      (.ok record,
        SessionState.writeCache env now record
          { state with sessions, issued := (id, tokenHash) :: state.issued })

/-- An expired session is revoked when it is found. -/
def findValidSession (rawToken : Option String) (now : Timestamp) (state : SessionState) :
    Option SessionRecord × SessionState :=
  match SessionService.presented rawToken with
  | none => (none, state)
  | some raw =>
      let tokenHash := env.hashSessionToken raw
      match state.cached? tokenHash now with
      | some entry =>
          if env.isExpired now entry.expiresAt entry.lastActivityAt entry.createdAt then
            (none, (state.deleteCache tokenHash).revokeWhere
              (fun row => row.id = entry.sessionId) now)
          else (some (entry.toRecord (Js.trim raw)), state)
      | none =>
          match state.byTokenHash? tokenHash with
          | none => (none, state)
          | some row =>
              if row.revokedAt.isSome then (none, state)
              else if env.isExpired now row.expiresAt row.lastActiveAt row.createdAt then
                (none, state.revokeWhere (fun other => other.id = row.id) now)
              else
                let record := row.toRecord (Js.trim raw)
                (some record, state.writeCache env now record)

def touchSession (record : SessionRecord) (now : Timestamp) (state : SessionState) :
    SessionState :=
  (state.writeCache env now { record with lastActiveAt := now }).touchRow record.id now

/-- The new record, if the token was rotated. -/
def refreshSessionIfNeeded (record : SessionRecord) (token : SessionToken) (now : Timestamp)
    (state : SessionState) : Except Refusal (Option SessionRecord) × SessionState :=
  if needsRefresh now record then
    let tokenHash := env.hashSessionToken token.raw
    match state.sessions.update record.id (SessionState.rotateRow tokenHash now) with
    | .error refusal => (.error refusal, state)
    | .ok sessions =>
        match sessions.find? record.id with
        | none => (.error .recordNotFound, state)
        | some row =>
            let updated : SessionState :=
              { state with sessions, issued := (record.id, tokenHash) :: state.issued }
            let next := row.toRecord token.raw
            (.ok (some next), (updated.deleteCache (env.hashSessionToken record.rawToken)).writeCache
              env now next)
  else (.ok none, touchSession env record now state)

/-- What the guard does with a session that it found: the new record, if its token
was rotated. -/
def keepAlive (record : SessionRecord) (token : SessionToken) (now : Timestamp)
    (state : SessionState) : Option SessionRecord × SessionState :=
  match refreshSessionIfNeeded env record token now state with
  | (.error _, refused) => (none, refused)
  | (.ok (some next), rotated) => (some next, rotated)
  | (.ok none, touched) => (none, touchSession env record now touched)

/-- What the guard does with a request. -/
def authenticate (rawToken : Option String) (token : SessionToken) (now : Timestamp)
    (state : SessionState) : Option SessionRecord × SessionState :=
  match findValidSession env rawToken now state with
  | (none, refused) => (none, refused)
  | (some record, found) => keepAlive env record token now found

def deleteSessionByToken (rawToken : Option String) (now : Timestamp) (state : SessionState) :
    SessionState :=
  match SessionService.presented rawToken with
  | none => state
  | some raw =>
      let tokenHash := env.hashSessionToken raw
      (state.deleteCache tokenHash).revokeWhere (fun row => row.tokenHash = tokenHash) now

def deleteSessionById (sessionId userId : Id) (now : Timestamp) (state : SessionState) :
    Bool × SessionState :=
  match state.sessions.findFirst? fun row =>
      row.id = sessionId ∧ row.userId = userId ∧ row.revokedAt = none with
  | none => (false, state)
  | some row => (true, (state.deleteCache row.tokenHash).revokeById sessionId now)

/-- The sessions that `revokeAllUserSessions` is about. -/
def ofUser (userId : Id) (exceptSessionId : Option Id) (row : SessionRow) : Bool :=
  row.userId = userId ∧ some row.id ≠ exceptSessionId

def revokeAllUserSessions (userId : Id) (exceptSessionId : Option Id) (now : Timestamp)
    (state : SessionState) : Nat × SessionState :=
  let rows := state.sessions.rows.filter fun row =>
    row.userId = userId ∧ row.revokedAt = none ∧ some row.id ≠ exceptSessionId
  let emptied := (rows.map SessionRow.tokenHash).foldl (fun state hash => state.deleteCache hash) state
  (rows.length, emptied.revokeWhere (ofUser userId exceptSessionId) now)

end SessionCalls

/-! ### One access after the other -/

section Alone
variable {env : SessionEnv} {call : SessionCall} {now : Timestamp} {state final : SessionState}

/-- The next access of a call that nothing comes between, all at one time. -/
def access (env : SessionEnv) (call : SessionCall) (now : Timestamp)
    (place : SessionProgress × SessionState) : SessionProgress × SessionState :=
  sessionStep env (fun _ : Unit => call) now () place.1 place.2

/-- The accesses come to an end, in this state. -/
def Settles (env : SessionEnv) (call : SessionCall) (now : Timestamp) (progress : SessionProgress)
    (state final : SessionState) : Prop :=
  ∃ accesses, (access env call now)^[accesses] (progress, state) = (.finished, final)

/-- A finished call has settled. -/
theorem settles_finished : Settles env call now .finished state state := ⟨0, rfl⟩

/-- A call that settles after a step settles before it. -/
theorem Settles.before {progress p : SessionProgress} {state' : SessionState}
    (hStep : access env call now (progress, state) = (p, state'))
    (h : Settles env call now p state' final) :
    Settles env call now progress state final := by
  obtain ⟨accesses, hRun⟩ := h
  refine ⟨accesses + 1, ?_⟩
  rw [Function.iterate_succ_apply, hStep]
  exact hRun

/-- Deleting the entries goes on to the revocation. -/
theorem deleting_settles (tokenHashes : List String) :
    Settles env call now (.deleting tokenHashes) state (SessionService.revoke env call now
      (tokenHashes.foldl (fun state hash => state.deleteCache hash) state)) := by
  induction tokenHashes generalizing state with
  | nil => exact settles_finished.before rfl
  | cons tokenHash rest ih => exact ih.before rfl

theorem deleteSessionByToken_settles (rawToken : Option String) :
    Settles env (.deleteSessionByToken rawToken) now .waiting state
      (SessionCalls.deleteSessionByToken env rawToken now state) := by
  unfold SessionCalls.deleteSessionByToken
  cases hPresented : SessionService.presented rawToken with
  | none =>
      apply settles_finished.before
      simp only [access, sessionStep, SessionService.beginRevocation, hPresented]
  | some raw =>
      have hBegin : access env (.deleteSessionByToken rawToken) now (.waiting, state) =
          (.deleting [], state.deleteCache (env.hashSessionToken raw)) := by
        simp only [access, sessionStep, SessionService.beginRevocation, hPresented]
      have hRest := @deleting_settles env (.deleteSessionByToken rawToken) now
        (state.deleteCache (env.hashSessionToken raw)) []
      simp only [SessionService.revoke, hPresented, List.foldl_nil] at hRest
      exact hRest.before hBegin

theorem deleteSessionById_settles (sessionId userId : Id) :
    Settles env (.deleteSessionById sessionId userId) now .waiting state
      (SessionCalls.deleteSessionById sessionId userId now state).2 := by
  unfold SessionCalls.deleteSessionById
  cases hFound : state.sessions.findFirst? fun row =>
      row.id = sessionId ∧ row.userId = userId ∧ row.revokedAt = none with
  | none =>
      apply settles_finished.before
      simp only [access, sessionStep, SessionService.beginRevocation, hFound]
  | some row =>
      have hBegin : access env (.deleteSessionById sessionId userId) now (.waiting, state) =
          (.deleting [row.tokenHash], state) := by
        simp only [access, sessionStep, SessionService.beginRevocation, hFound]
      exact (deleting_settles [row.tokenHash]).before hBegin

theorem revokeAllUserSessions_settles (userId : Id) (exceptSessionId : Option Id) :
    Settles env (.revokeAllUserSessions userId exceptSessionId) now .waiting state
      (SessionCalls.revokeAllUserSessions userId exceptSessionId now state).2 :=
  (deleting_settles _).before rfl

/-- A retouched session settles as touched. -/
theorem retouch_settles (record : SessionRecord) : Settles env call now (.retouch record) state
    (SessionCalls.touchSession env record now state) :=
  (settles_finished.before rfl).before rfl

/-- The accesses after the session was found. -/
theorem found_settles {rawToken : Option String} (record : SessionRecord) (token : SessionToken) :
    Settles env (.authenticate rawToken token.raw) now (.found record) state
      (SessionCalls.keepAlive env record token now state).2 := by
  unfold SessionCalls.keepAlive SessionCalls.refreshSessionIfNeeded
  by_cases hNeeds : needsRefresh now record = true
  · rw [if_pos hNeeds]
    dsimp only
    cases hUpdate : state.sessions.update record.id
        (SessionState.rotateRow (env.hashSessionToken token.raw) now) with
    | error refusal =>
        apply settles_finished.before
        simp only [access, sessionStep, SessionService.refreshSessionIfNeeded, if_pos hNeeds, hUpdate]
    | ok sessions =>
        dsimp only
        cases hRow : sessions.find? record.id with
        | none =>
            apply settles_finished.before
            simp only [access, sessionStep, SessionService.refreshSessionIfNeeded, if_pos hNeeds,
              hUpdate, hRow]
        | some row =>
            refine ((settles_finished.before rfl).before rfl).before
              (p := .rotated (env.hashSessionToken record.rawToken) (row.toRecord token.raw)) ?_
            simp only [access, sessionStep, SessionService.refreshSessionIfNeeded, if_pos hNeeds,
              hUpdate, hRow]
  · rw [if_neg hNeeds]
    have hTouch : access env (.authenticate rawToken token.raw) now (.found record, state) =
        (.touched record now false, state.writeCache env now { record with lastActiveAt := now }) := by
      simp only [access, sessionStep, SessionService.refreshSessionIfNeeded, if_neg hNeeds,
        SessionService.touchSession]
    exact ((retouch_settles record).before rfl).before hTouch

/-- A request that no other call comes between is the guard's. -/
theorem authenticate_settles (rawToken : Option String) (token : SessionToken) :
    Settles env (.authenticate rawToken token.raw) now .waiting state
      (SessionCalls.authenticate env rawToken token now state).2 := by
  unfold SessionCalls.authenticate SessionCalls.findValidSession
  cases hPresented : SessionService.presented rawToken with
  | none =>
      apply settles_finished.before
      simp only [access, sessionStep, SessionService.lookUp, hPresented]
  | some raw =>
      dsimp only
      cases hCached : state.cached? (env.hashSessionToken raw) now with
      | some entry =>
          dsimp only
          split_ifs with hExpired
          · refine ((settles_finished.before rfl).before rfl).before
              (p := .expiredInCache (env.hashSessionToken raw) entry.sessionId) ?_
            simp only [access, sessionStep, SessionService.lookUp, hPresented, hCached,
              if_pos hExpired]
          · apply (found_settles (entry.toRecord (Js.trim raw)) token).before
            simp only [access, sessionStep, SessionService.lookUp, hPresented, hCached,
              if_neg hExpired]
      | none =>
          have hMissed : access env (.authenticate rawToken token.raw) now (.waiting, state) =
              (.missed raw, state) := by
            simp only [access, sessionStep, SessionService.lookUp, hPresented, hCached]
          refine Settles.before hMissed ?_
          dsimp only
          cases hRow : state.byTokenHash? (env.hashSessionToken raw) with
          | none =>
              apply settles_finished.before
              simp only [access, sessionStep, SessionService.readRow, hRow]
          | some row =>
              dsimp only
              split_ifs with hRevoked hExpired
              · apply settles_finished.before
                simp only [access, sessionStep, SessionService.readRow, hRow, if_pos hRevoked]
              · refine (settles_finished.before rfl).before (p := .expiredRow row.id) ?_
                simp only [access, sessionStep, SessionService.readRow, hRow, if_neg hRevoked,
                  if_pos hExpired]
              · refine ((found_settles (row.toRecord (Js.trim raw)) token).before rfl).before
                  (p := .caching (row.toRecord (Js.trim raw))) ?_
                simp only [access, sessionStep, SessionService.readRow, hRow, if_neg hRevoked,
                  if_neg hExpired]

end Alone
end PropertyTax
