import PropertyTax.Library.JsText
import PropertyTax.Library.Runs
import PropertyTax.Store

/-! Sessions of the staff portal: the rows of the database, the cache in front of
them, and the calls of the session service cut into the single accesses that other
calls can come between. -/
namespace PropertyTax
open KeyedTable Runs

/-- `createHmac("sha256", secret).update(text).digest("hex")` -/
abbrev HmacSha256Hex := String → String

def hashOpaqueToken (hmac : HmacSha256Hex) (raw purpose : String) : String :=
  hmac (purpose ++ ":" ++ Js.trim raw)

structure SessionRow where
  id : Id
  tokenHash : String
  userId : Id
  expiresAt : Timestamp
  lastActiveAt : Timestamp
  createdAt : Timestamp
  revokedAt : Option Timestamp := none
  ipAddress : Option String := none
  userAgent : Option String := none
deriving DecidableEq

instance : KeyedRow SessionRow Id where
  key := SessionRow.id
  clash s t := decide (s.id = t.id) || decide (s.tokenHash = t.tokenHash)
  clash_symm s t := by simp only [eq_comm]
  clash_of_key s t h := by simp [h]

/-- An entry of the cache, with the end of its `EX` time. -/
structure CachedSession where
  sessionId : Id
  userId : Id
  createdAt : Timestamp
  lastActivityAt : Timestamp
  expiresAt : Timestamp
  evictedAt : ℤ

structure SessionRecord where
  id : Id
  rawToken : String
  userId : Id
  expiresAt : Timestamp
  lastActiveAt : Timestamp
  createdAt : Timestamp
  ipAddress : Option String
  userAgent : Option String

/-- The environment of the service: the key of the hash, and the two timeouts. -/
structure SessionEnv where
  hmac : HmacSha256Hex
  idleTimeoutSeconds : ℚ
  absoluteTimeoutSeconds : ℚ

def SESSION_TTL_SECONDS : Nat := 60 * 60 * 24 * 7
def SESSION_REFRESH_THRESHOLD_SECONDS : Nat := 60 * 60 * 24

namespace SessionEnv
variable (env : SessionEnv)

def hashSessionToken (raw : String) : String := hashOpaqueToken env.hmac raw "session"

def isIdleExpired (now lastActiveAt : Timestamp) : Bool :=
  (lastActiveAt : ℚ) + env.idleTimeoutSeconds * 1000 ≤ now

def isAbsoluteExpired (now createdAt : Timestamp) : Bool :=
  (createdAt : ℚ) + env.absoluteTimeoutSeconds * 1000 ≤ now

def isExpired (now expiresAt lastActiveAt createdAt : Timestamp) : Bool :=
  expiresAt ≤ now || env.isIdleExpired now lastActiveAt || env.isAbsoluteExpired now createdAt

def redisTtlSeconds (now expiresAt lastActiveAt : Timestamp) : ℤ :=
  let idleRemaining := (lastActiveAt : ℚ) + env.idleTimeoutSeconds * 1000 - now
  let absoluteRemaining := (expiresAt : ℚ) - now
  max 1 ⌊min idleRemaining absoluteRemaining / 1000⌋

end SessionEnv

def needsRefresh (now : Timestamp) (record : SessionRecord) : Bool :=
  (record.expiresAt : ℤ) - now < SESSION_REFRESH_THRESHOLD_SECONDS * 1000

/-- The cache and the database. `issued` lists the token hashes that a session ever
had: no call reads it. -/
structure SessionState where
  cache : String → Option CachedSession
  sessions : KeyedTable SessionRow
  issued : List (Id × String)

namespace SessionState

/-- `cache.get` -/
def cached? (state : SessionState) (tokenHash : String) (now : Timestamp) : Option CachedSession :=
  (state.cache tokenHash).filter fun entry => now < entry.evictedAt

def writeCache (env : SessionEnv) (now : Timestamp) (record : SessionRecord)
    (state : SessionState) : SessionState :=
  { state with
    cache := Function.update state.cache (env.hashSessionToken record.rawToken) (some
      { sessionId := record.id
        userId := record.userId
        createdAt := record.createdAt
        lastActivityAt := record.lastActiveAt
        expiresAt := record.expiresAt
        evictedAt := now + env.redisTtlSeconds now record.expiresAt record.lastActiveAt * 1000 }) }

def deleteCache (tokenHash : String) (state : SessionState) : SessionState :=
  { state with cache := Function.update state.cache tokenHash none }

def byTokenHash? (state : SessionState) (tokenHash : String) : Option SessionRow :=
  state.sessions.findFirst? fun row => row.tokenHash = tokenHash

def touch (lastActiveAt : Timestamp) (row : SessionRow) : SessionRow := { row with lastActiveAt }

/-- The update of `touchSession`, whose failure is ignored. -/
def touchRow (id : Id) (lastActiveAt : Timestamp) (state : SessionState) : SessionState :=
  match state.sessions.update id (touch lastActiveAt) with
  | .ok sessions => { state with sessions }
  | .error _ => state

/-- `updateMany({ where: { …, revokedAt: null }, data: { revokedAt } })` -/
def revokeIf (p : SessionRow → Bool) (now : Timestamp) (row : SessionRow) : SessionRow :=
  if p row ∧ row.revokedAt = none then { row with revokedAt := some now } else row

/-- A revocation keeps which sessions clash. -/
theorem revokeIf_clash (p : SessionRow → Bool) (now : Timestamp) (s t : SessionRow) :
    KeyedRow.clash (revokeIf p now s) (revokeIf p now t) = KeyedRow.clash s t := by
  unfold revokeIf
  split <;> split <;> rfl

def revokeWhere (p : SessionRow → Bool) (now : Timestamp) (state : SessionState) : SessionState :=
  { state with sessions := state.sessions.mapRows (revokeIf p now) (revokeIf_clash p now) }

/-- The update of `deleteSessionById`, on a row that it read. -/
def revokeById (id : Id) (now : Timestamp) (state : SessionState) : SessionState :=
  match state.sessions.update id fun row => { row with revokedAt := some now } with
  | .ok sessions => { state with sessions }
  | .error _ => state

def rotateRow (tokenHash : String) (now : Timestamp) (row : SessionRow) : SessionRow :=
  { row with tokenHash, expiresAt := now + SESSION_TTL_SECONDS * 1000, lastActiveAt := now }

end SessionState

def SessionRow.toRecord (row : SessionRow) (rawToken : String) : SessionRecord where
  id := row.id
  rawToken := rawToken
  userId := row.userId
  expiresAt := row.expiresAt
  lastActiveAt := row.lastActiveAt
  createdAt := row.createdAt
  ipAddress := row.ipAddress
  userAgent := row.userAgent

def CachedSession.toRecord (entry : CachedSession) (rawToken : String) : SessionRecord where
  id := entry.sessionId
  rawToken := rawToken
  userId := entry.userId
  expiresAt := entry.expiresAt
  lastActiveAt := entry.lastActivityAt
  createdAt := entry.createdAt
  ipAddress := none
  userAgent := none

/-! ### Calls -/

/-- A request that the guard authenticates, with the token that a rotation would
generate, or a revocation. `consumePasswordResetToken` ends with
`revokeAllUserSessions` and no exception. -/
inductive SessionCall where
  | authenticate (rawToken : Option String) (generated : String)
  | deleteSessionByToken (rawToken : Option String)
  | deleteSessionById (sessionId userId : Id)
  | revokeAllUserSessions (userId : Id) (exceptSessionId : Option Id)

/-- Where a call stands: what it holds, and so which access comes next. -/
inductive SessionProgress where
  | waiting
  | missed (rawToken : String)
  | expiredInCache (tokenHash : String) (sessionId : Id)
  | expiredRow (sessionId : Id)
  | caching (record : SessionRecord)
  | found (record : SessionRecord)
  | touched (record : SessionRecord) (lastActiveAt : Timestamp) (last : Bool)
  | retouch (record : SessionRecord)
  | rotated (previousHash : String) (record : SessionRecord)
  | recaching (record : SessionRecord)
  | deleting (tokenHashes : List String)
  | finished

namespace SessionService

/-- The text that the service takes for a token at all. -/
def presented (rawToken : Option String) : Option String :=
  rawToken.filter fun raw => !Js.isBlank raw

/-- `findValidSession`, up to its first access: the cache. -/
def lookUp (env : SessionEnv) (rawToken : Option String) (now : Timestamp) (state : SessionState) :
    SessionProgress :=
  match presented rawToken with
  | none => .finished
  | some raw =>
      let tokenHash := env.hashSessionToken raw
      match state.cached? tokenHash now with
      | none => .missed raw
      | some entry =>
          if env.isExpired now entry.expiresAt entry.lastActivityAt entry.createdAt then
            .expiredInCache tokenHash entry.sessionId
          else .found (entry.toRecord (Js.trim raw))

/-- Its second: the database. -/
def readRow (env : SessionEnv) (raw : String) (now : Timestamp) (state : SessionState) :
    SessionProgress :=
  match state.byTokenHash? (env.hashSessionToken raw) with
  | none => .finished
  | some row =>
      if row.revokedAt.isSome then .finished
      else if env.isExpired now row.expiresAt row.lastActiveAt row.createdAt then
        .expiredRow row.id
      else .caching (row.toRecord (Js.trim raw))

/-- The first access of `touchSession`. -/
def touchSession (env : SessionEnv) (record : SessionRecord) (last : Bool) (now : Timestamp)
    (state : SessionState) : SessionProgress × SessionState :=
  (.touched record now last, state.writeCache env now { record with lastActiveAt := now })

/-- The first access of `refreshSessionIfNeeded`. -/
def refreshSessionIfNeeded (env : SessionEnv) (generated : String) (record : SessionRecord)
    (now : Timestamp) (state : SessionState) : SessionProgress × SessionState :=
  if needsRefresh now record then
    let tokenHash := env.hashSessionToken generated
    match state.sessions.update record.id (SessionState.rotateRow tokenHash now) with
    | .error _ => (.finished, state)
    | .ok sessions =>
        match sessions.find? record.id with
        | none => (.finished, state)
        | some row =>
            (.rotated (env.hashSessionToken record.rawToken) (row.toRecord generated),
              { state with sessions, issued := (record.id, tokenHash) :: state.issued })
  else touchSession env record false now state

/-- The first access of a revocation. -/
def beginRevocation (env : SessionEnv) (call : SessionCall) (state : SessionState) :
    SessionProgress × SessionState :=
  match call with
  | .authenticate _ _ => (.finished, state)
  | .deleteSessionByToken rawToken =>
      match presented rawToken with
      | none => (.finished, state)
      | some raw => (.deleting [], state.deleteCache (env.hashSessionToken raw))
  | .deleteSessionById sessionId userId =>
      match state.sessions.findFirst? fun row =>
          row.id = sessionId ∧ row.userId = userId ∧ row.revokedAt = none with
      | none => (.finished, state)
      | some row => (.deleting [row.tokenHash], state)
  | .revokeAllUserSessions userId exceptSessionId =>
      (.deleting ((state.sessions.rows.filter fun row =>
        row.userId = userId ∧ row.revokedAt = none ∧ some row.id ≠ exceptSessionId).map
          SessionRow.tokenHash), state)

/-- The last access of a revocation. -/
def revoke (env : SessionEnv) (call : SessionCall) (now : Timestamp) (state : SessionState) :
    SessionState :=
  match call with
  | .authenticate _ _ => state
  | .deleteSessionByToken rawToken =>
      match presented rawToken with
      | none => state
      | some raw => state.revokeWhere (fun row => row.tokenHash = env.hashSessionToken raw) now
  | .deleteSessionById sessionId _ => state.revokeById sessionId now
  | .revokeAllUserSessions userId exceptSessionId =>
      state.revokeWhere (fun row => row.userId = userId ∧ some row.id ≠ exceptSessionId) now

end SessionService

/-! ### Interleavings -/

variable {Process : Type}

/-- The next access of a call, at some time. -/
def sessionStep (env : SessionEnv) (calls : Process → SessionCall) (now : Timestamp)
    (process : Process) (progress : SessionProgress) (state : SessionState) :
    SessionProgress × SessionState :=
  match progress with
  | .waiting =>
      match calls process with
      | .authenticate rawToken _ => (SessionService.lookUp env rawToken now state, state)
      | call => SessionService.beginRevocation env call state
  | .missed raw => (SessionService.readRow env raw now state, state)
  | .expiredInCache tokenHash sessionId => (.expiredRow sessionId, state.deleteCache tokenHash)
  | .expiredRow sessionId => (.finished, state.revokeWhere (fun row => row.id = sessionId) now)
  | .caching record => (.found record, state.writeCache env now record)
  | .found record =>
      match calls process with
      | .authenticate _ generated =>
          SessionService.refreshSessionIfNeeded env generated record now state
      | _ => (.finished, state)
  | .touched record lastActiveAt last =>
      (if last then .finished else .retouch record, state.touchRow record.id lastActiveAt)
  | .retouch record => SessionService.touchSession env record true now state
  | .rotated previousHash record => (.recaching record, state.deleteCache previousHash)
  | .recaching record => (.finished, state.writeCache env now record)
  | .deleting (tokenHash :: rest) => (.deleting rest, state.deleteCache tokenHash)
  | .deleting [] => (.finished, SessionService.revoke env (calls process) now state)
  | .finished => (.finished, state)

/-- The step of a process at a time. -/
structure SessionTurn (Process : Type) where
  process : Process
  now : Timestamp

def takeTurn [DecidableEq Process] (env : SessionEnv) (calls : Process → SessionCall)
    (system : System Process SessionProgress SessionState) (turn : SessionTurn Process) :
    System Process SessionProgress SessionState :=
  fire (sessionStep env calls turn.now) system turn.process

end PropertyTax
