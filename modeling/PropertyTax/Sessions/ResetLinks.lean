import PropertyTax.Sessions.SessionStore

/-! Password reset links. An administrator issues them and whoever has the link
sets a password with it. Issuing is three statements of the database, and using a
link is a read and, after the hashing of the password, one transaction. -/
namespace PropertyTax
open KeyedTable Runs

structure UserAccount where
  id : Id
  passwordHash : Option String
deriving DecidableEq

structure PasswordResetToken where
  id : Id
  userId : Id
  tokenHash : String
  expiresAt : Timestamp
  usedAt : Option Timestamp := none
  failedAttempts : Nat := 0
deriving DecidableEq

instance : KeyedRow UserAccount Id where
  key := UserAccount.id
  clash u v := decide (u.id = v.id)
  clash_symm u v := by simp only [eq_comm]
  clash_of_key u v h := by simp [h]

instance : KeyedRow PasswordResetToken Id where
  key := PasswordResetToken.id
  clash r s := decide (r.id = s.id) || decide (r.tokenHash = s.tokenHash)
  clash_symm r s := by simp only [eq_comm]
  clash_of_key r s h := by simp [h]

structure ResetDb where
  users : KeyedTable UserAccount
  tokens : KeyedTable PasswordResetToken
  nextId : Id

def PASSWORD_RESET_TOKEN_PURPOSE : String := "password-reset"
def PASSWORD_RESET_TTL_SECONDS : Nat := 30 * 60
def PASSWORD_RESET_MAX_ATTEMPTS : Nat := 5

/-- A call, with the random token and the clock that it reads. -/
inductive ResetCall where
  | issue (userId : Id) (rawToken : String) (now : Timestamp)
  | consume (rawToken passwordHash : String) (now usedAt : Timestamp)

namespace SessionService

/-- The first statement of `createPasswordResetTokenForUser`. -/
def mayReset (db : ResetDb) (userId : Id) : Bool :=
  match db.users.find? userId with
  | some user => user.passwordHash.any fun hash => hash ≠ ""
  | none => false

/-- Its second statement. -/
def deleteUnusedTokens (db : ResetDb) (userId : Id) : ResetDb :=
  { db with tokens := db.tokens.restrict fun r => !decide (r.userId = userId ∧ r.usedAt = none) }

def newToken (hmac : HmacSha256Hex) (id userId : Id) (rawToken : String) (now : Timestamp) :
    PasswordResetToken where
  id := id
  userId := userId
  tokenHash := hashOpaqueToken hmac rawToken PASSWORD_RESET_TOKEN_PURPOSE
  expiresAt := now + PASSWORD_RESET_TTL_SECONDS * 1000

/-- Its last statement. -/
def createToken (hmac : HmacSha256Hex) (db : ResetDb) (userId : Id) (rawToken : String)
    (now : Timestamp) : Except Refusal ResetDb := do
  let tokens ← db.tokens.insert (newToken hmac db.nextId userId rawToken now)
  return { db with tokens, nextId := db.nextId + 1 }

/-- The read of `consumePasswordResetToken`, with its checks. -/
def readToken (hmac : HmacSha256Hex) (db : ResetDb) (rawToken : String) (now : Timestamp) :
    Except String PasswordResetToken :=
  if Js.trim rawToken = "" then .error "RESET_TOKEN_INVALID"
  else
    let tokenHash := hashOpaqueToken hmac (Js.trim rawToken) PASSWORD_RESET_TOKEN_PURPOSE
    match db.tokens.findFirst? fun r => r.tokenHash = tokenHash with
    | none => .error "RESET_TOKEN_INVALID"
    | some record =>
        if record.usedAt.isSome ∨ record.expiresAt ≤ now then .error "RESET_TOKEN_INVALID"
        else if record.failedAttempts ≥ PASSWORD_RESET_MAX_ATTEMPTS then .error "TOO_MANY_ATTEMPTS"
        else .ok record

def use (usedAt : Timestamp) (row : PasswordResetToken) : PasswordResetToken :=
  { row with usedAt := some usedAt }

def useUnused (userId : Id) (usedAt : Timestamp) (row : PasswordResetToken) : PasswordResetToken :=
  if row.userId = userId ∧ row.usedAt = none then use usedAt row else row

/-- Marking tokens as used keeps which of them clash. -/
theorem useUnused_clash (userId : Id) (usedAt : Timestamp) (r s : PasswordResetToken) :
    KeyedRow.clash (useUnused userId usedAt r) (useUnused userId usedAt s) = KeyedRow.clash r s := by
  unfold useUnused
  split <;> split <;> rfl

/-- Its transaction. -/
def setPassword (db : ResetDb) (record : PasswordResetToken) (passwordHash : String)
    (usedAt : Timestamp) : Except Refusal ResetDb := do
  let users ← db.users.update record.userId fun u => { u with passwordHash := some passwordHash }
  let tokens ← db.tokens.update record.id (use usedAt)
  return { db with
    users
    tokens := tokens.mapRows (useUnused record.userId usedAt)
      (useUnused_clash record.userId usedAt) }

end SessionService

/-! ### Interleavings -/

/-- What happened to the links, for the statements: no call reads it. -/
inductive ResetEvent where
  | issued (userId tokenId : Id)
  | reset (userId tokenId : Id)
deriving DecidableEq

namespace ResetEvent

def userId : ResetEvent → Id
  | issued userId _ => userId
  | reset userId _ => userId

def tokenId : ResetEvent → Id
  | issued _ tokenId => tokenId
  | reset _ tokenId => tokenId

end ResetEvent

/-- The database, and the events so far, the latest first. -/
structure ResetState where
  db : ResetDb
  history : List ResetEvent

inductive ResetProgress where
  | waiting
  | deleting
  | creating
  | hashing (record : PasswordResetToken)
  | finished
deriving DecidableEq

variable {Process : Type}

/-- The next statement of a call. -/
def resetStep (hmac : HmacSha256Hex) (calls : Process → ResetCall) (process : Process)
    (progress : ResetProgress) (state : ResetState) : ResetProgress × ResetState :=
  match calls process, progress with
  | .issue userId _ _, .waiting =>
      (if SessionService.mayReset state.db userId then .deleting else .finished, state)
  | .issue userId _ _, .deleting =>
      (.creating, { state with db := SessionService.deleteUnusedTokens state.db userId })
  | .issue userId rawToken now, .creating =>
      match SessionService.createToken hmac state.db userId rawToken now with
      | .ok db => (.finished, ⟨db, .issued userId state.db.nextId :: state.history⟩)
      | .error _ => (.finished, state)
  | .consume rawToken _ now _, .waiting =>
      match SessionService.readToken hmac state.db rawToken now with
      | .ok record => (.hashing record, state)
      | .error _ => (.finished, state)
  | .consume _ passwordHash _ usedAt, .hashing record =>
      match SessionService.setPassword state.db record passwordHash usedAt with
      | .ok db => (.finished, ⟨db, .reset record.userId record.id :: state.history⟩)
      | .error _ => (.finished, state)
  | _, _ => (.finished, state)

/-- A token is created where its user has no unused one, and is used up where it
is unused still, or gone. -/
def LinkStillOpen (calls : Process → ResetCall) (system : System Process ResetProgress ResetState)
    (process : Process) : Prop :=
  match calls process, system.locals process with
  | .issue userId _ _, .creating =>
      ∀ row ∈ system.shared.db.tokens.rows, row.userId = userId → row.usedAt ≠ none
  | .consume _ _ _ _, .hashing record =>
      ∀ row ∈ system.shared.db.tokens.rows, row.id = record.id → row.usedAt = none
  | _, _ => True

/-! ### Orderly histories -/

/-- Tokens are issued before they are used, once, and a password is set with the
token that the latest event of the user issued. -/
structure Orderly (history : List ResetEvent) : Prop where
  fresh : history.Pairwise fun newer older =>
    ∀ userId tokenId, newer = .issued userId tokenId → older.tokenId ≠ tokenId
  owner : ∀ event ∈ history, ∀ event' ∈ history, event.tokenId = event'.tokenId →
    event.userId = event'.userId
  latest : ∀ newer older userId tokenId, history = newer ++ .reset userId tokenId :: older →
    older.find? (fun event => event.userId = userId) = some (.issued userId tokenId)

namespace Orderly
variable {history : List ResetEvent} {userId tokenId : Id}

/-- A newly issued link keeps the history in order. -/
theorem cons_issued (h : Orderly history) (hFresh : ∀ event ∈ history, event.tokenId ≠ tokenId) :
    Orderly (.issued userId tokenId :: history) where
  fresh := by
    refine List.pairwise_cons.mpr ⟨fun event hEvent u t hIssued => ?_, h.fresh⟩
    cases hIssued
    exact hFresh event hEvent
  owner := by
    intro event hEvent event' hEvent' hToken
    rcases List.mem_cons.mp hEvent with rfl | hOld
    · rcases List.mem_cons.mp hEvent' with rfl | hOld'
      · rfl
      · exact absurd hToken.symm (hFresh event' hOld')
    · rcases List.mem_cons.mp hEvent' with rfl | hOld'
      · exact absurd hToken (hFresh event hOld)
      · exact h.owner event hOld event' hOld' hToken
  latest := by
    intro newer older u t hSplit
    rcases newer with _ | ⟨event, newer⟩
    · cases (List.cons.inj hSplit).1
    · exact h.latest newer older u t (List.cons.inj hSplit).2

/-- A reset by the latest link keeps the history in order. -/
theorem cons_reset (h : Orderly history)
    (hLatest : history.find? (fun event => event.userId = userId) =
      some (.issued userId tokenId)) : Orderly (.reset userId tokenId :: history) where
  fresh := List.pairwise_cons.mpr ⟨fun _ _ _ _ hIssued => (by cases hIssued), h.fresh⟩
  owner := by
    have hIssued := List.mem_of_find?_eq_some hLatest
    have hOwner : ∀ event ∈ history, event.tokenId = tokenId → event.userId = userId :=
      fun event hEvent hToken => h.owner event hEvent _ hIssued hToken
    intro event hEvent event' hEvent' hToken
    rcases List.mem_cons.mp hEvent with rfl | hOld
    · rcases List.mem_cons.mp hEvent' with rfl | hOld'
      · rfl
      · exact (hOwner event' hOld' hToken.symm).symm
    · rcases List.mem_cons.mp hEvent' with rfl | hOld'
      · exact hOwner event hOld hToken
      · exact h.owner event hOld event' hOld' hToken
  latest := by
    intro newer older u t hSplit
    rcases newer with _ | ⟨event, newer⟩
    · obtain ⟨hReset, rfl⟩ := List.cons.inj hSplit
      cases hReset
      exact hLatest
    · exact h.latest newer older u t (List.cons.inj hSplit).2

/-- A token sets no password after another event of its user. -/
theorem not_sublist (h : Orderly history) {event : ResetEvent} (hUser : event.userId = userId) :
    ¬ [.reset userId tokenId, event, .issued userId tokenId].Sublist history := by
  intro hSub
  obtain ⟨newer, rest, rfl, hNewer, hRest⟩ := List.cons_sublist_iff.mp hSub
  obtain ⟨front, back, rfl⟩ := List.append_of_mem hNewer
  have hSplit : front ++ .reset userId tokenId :: back ++ rest =
      front ++ .reset userId tokenId :: (back ++ rest) := List.append_assoc _ _ _
  have hOlder : [event, .issued userId tokenId].Sublist (back ++ rest) :=
    hRest.trans (List.sublist_append_right _ _)
  have hLatest := h.latest front (back ++ rest) userId tokenId hSplit
  have hFresh := (List.pairwise_append.mp (hSplit ▸ h.fresh)).2.1.of_cons
  obtain ⟨-, before, after, hBack, hBefore⟩ := List.find?_eq_some_iff_append.mp hLatest
  rw [hBack] at hOlder hFresh
  -- the two events are of the user, and nothing before the issue is
  have hUsers := hOlder.filter fun e => decide (e.userId = userId)
  have hNone : before.filter (fun e => decide (e.userId = userId)) = [] :=
    List.filter_eq_nil_iff.mpr fun e he => by simpa using hBefore e he
  rw [List.filter_append, hNone, List.nil_append, List.filter_cons_of_pos (by simp [hUser]),
    List.filter_cons_of_pos (by simp [ResetEvent.userId]),
    List.filter_cons_of_pos (by simp [ResetEvent.userId])] at hUsers
  have hAgain : ResetEvent.issued userId tokenId ∈ after := by
    rcases List.sublist_cons_iff.mp hUsers with hTail | ⟨tail, hTail, hSub⟩
    · exact (List.mem_filter.mp (hTail.subset (List.mem_cons_of_mem _ List.mem_cons_self))).1
    · cases hTail
      exact (List.mem_filter.mp (hSub.subset List.mem_cons_self)).1
  exact (List.pairwise_cons.mp (List.pairwise_append.mp hFresh).2.1).1 _ hAgain _ _ rfl rfl

/-- A token sets a password once. -/
theorem reset_once (h : Orderly history) {userId' : Id} :
    ¬ [.reset userId tokenId, .reset userId' tokenId].Sublist history := by
  intro hSub
  obtain ⟨newer, rest, rfl, hNewer, hRest⟩ := List.cons_sublist_iff.mp hSub
  have hReset : ResetEvent.reset userId' tokenId ∈ newer ++ rest :=
    List.mem_append_right _ (hRest.subset List.mem_cons_self)
  obtain rfl : userId = userId' := h.owner _ (List.mem_append_left _ hNewer) _ hReset rfl
  obtain ⟨between, older, rfl⟩ := List.append_of_mem (hRest.subset List.mem_cons_self)
  have hIssued := List.mem_of_find?_eq_some
    (h.latest (newer ++ between) older userId tokenId (List.append_assoc _ _ _).symm)
  have hLast : [.reset userId tokenId, .issued userId tokenId].Sublist
      (between ++ .reset userId tokenId :: older) :=
    ((List.singleton_sublist.mpr hIssued).cons_cons _).trans (List.sublist_append_right _ _)
  have hTwice : [.reset userId tokenId, .reset userId tokenId, .issued userId tokenId].Sublist
      (newer ++ (between ++ .reset userId tokenId :: older)) :=
    (List.singleton_sublist.mpr hNewer).append hLast
  exact absurd hTwice (h.not_sublist rfl)

end Orderly

/-! ### What a statement does to the tokens -/

section Statements
variable {hmac : HmacSha256Hex} {db db' : ResetDb}

/-- A created token is stored with an id drawn for it. -/
theorem createToken_added {userId : Id} {rawToken : String} {now : Timestamp}
    (h : SessionService.createToken hmac db userId rawToken now = .ok db') :
    Added db.tokens db'.tokens (SessionService.newToken hmac db.nextId userId rawToken now) ∧
      db'.nextId = db.nextId + 1 := by
  obtain ⟨tokens, hInsert, hReturn⟩ := bind_ok h
  cases hReturn
  exact ⟨added_of_insert hInsert, rfl⟩

/-- Every token was there before, under the same user, and the unused ones are as
they were and not of the user whose password is set. -/
theorem setPassword_tokens {record : PasswordResetToken} {passwordHash : String}
    {usedAt : Timestamp}
    (h : SessionService.setPassword db record passwordHash usedAt = .ok db') :
    db'.nextId = db.nextId ∧ (∃ row ∈ db.tokens.rows, row.id = record.id) ∧
      ∀ row' ∈ db'.tokens.rows, ∃ row ∈ db.tokens.rows, row'.id = row.id ∧
        row'.userId = row.userId ∧
        (row'.usedAt = none → row.usedAt = none ∧ row.userId ≠ record.userId) := by
  obtain ⟨users, -, hTokens⟩ := bind_ok h
  obtain ⟨tokens, hUpdate, hReturn⟩ := bind_ok hTokens
  cases hReturn
  refine ⟨rfl, exists_of_update hUpdate, fun row' hRow' => ?_⟩
  obtain ⟨middle, hMiddle, rfl⟩ := List.mem_map.mp hRow'
  have hOld : ∃ row ∈ db.tokens.rows, middle.id = row.id ∧ middle.userId = row.userId ∧
      (middle.usedAt = none → row.usedAt = none) := by
    rcases (mem_update hUpdate middle).mp hMiddle with ⟨hOld, -⟩ | ⟨row, hRow, -, rfl⟩
    · exact ⟨middle, hOld, rfl, rfl, id⟩
    · exact ⟨row, hRow, rfl, rfl, fun hUsed => (by cases hUsed)⟩
  obtain ⟨row, hRow, hId, hUser, hUnused⟩ := hOld
  refine ⟨row, hRow, ?_⟩
  unfold SessionService.useUnused
  split_ifs with hMark
  · exact ⟨hId, hUser, fun hUsed => (by cases hUsed)⟩
  · refine ⟨hId, hUser, fun hNone => ⟨hUnused hNone, fun hSame => ?_⟩⟩
    exact hMark ⟨hUser.trans hSame, hNone⟩

end Statements

/-- What a step of a call can be: a read, or one of the three writes. -/
inductive ResetStepKind (hmac : HmacSha256Hex) (state : ResetState) :
    ResetCall → ResetProgress → ResetProgress × ResetState → Prop where
  | silent {call : ResetCall} {progress next : ResetProgress}
      (h : ∀ record, next ≠ .hashing record) : ResetStepKind hmac state call progress (next, state)
  | read {rawToken passwordHash : String} {now usedAt : Timestamp} {record : PasswordResetToken}
      (h : SessionService.readToken hmac state.db rawToken now = .ok record) :
      ResetStepKind hmac state (.consume rawToken passwordHash now usedAt) .waiting
        (.hashing record, state)
  | deleted {userId : Id} {rawToken : String} {now : Timestamp} :
      ResetStepKind hmac state (.issue userId rawToken now) .deleting
        (.creating, { state with db := SessionService.deleteUnusedTokens state.db userId })
  | created {userId : Id} {rawToken : String} {now : Timestamp} {db : ResetDb}
      (h : SessionService.createToken hmac state.db userId rawToken now = .ok db) :
      ResetStepKind hmac state (.issue userId rawToken now) .creating
        (.finished, ⟨db, .issued userId state.db.nextId :: state.history⟩)
  | used {rawToken passwordHash : String} {now usedAt : Timestamp} {record : PasswordResetToken}
      {db : ResetDb}
      (h : SessionService.setPassword state.db record passwordHash usedAt = .ok db) :
      ResetStepKind hmac state (.consume rawToken passwordHash now usedAt) (.hashing record)
        (.finished, ⟨db, .reset record.userId record.id :: state.history⟩)

/-- Every step is of one of these kinds. -/
theorem resetStep_kind (hmac : HmacSha256Hex) (calls : Process → ResetCall) (process : Process)
    (progress : ResetProgress) (state : ResetState) :
    ResetStepKind hmac state (calls process) progress
      (resetStep hmac calls process progress state) := by
  unfold resetStep
  cases calls process with
  | issue userId rawToken now =>
      cases progress with
      | waiting => exact .silent fun record => by split <;> simp
      | deleting => exact .deleted
      | creating =>
          cases hCreate : SessionService.createToken hmac state.db userId rawToken now with
          | ok db => simpa only [hCreate] using .created hCreate
          | error refusal => simpa only [hCreate] using .silent nofun
      | hashing record => exact .silent nofun
      | finished => exact .silent nofun
  | consume rawToken passwordHash now usedAt =>
      cases progress with
      | waiting =>
          cases hRead : SessionService.readToken hmac state.db rawToken now with
          | ok record => simpa only [hRead] using .read hRead
          | error message => simpa only [hRead] using .silent nofun
      | deleting => exact .silent nofun
      | creating => exact .silent nofun
      | hashing record =>
          cases hSet : SessionService.setPassword state.db record passwordHash usedAt with
          | ok db => simpa only [hSet] using .used hSet
          | error refusal => simpa only [hSet] using .silent nofun
      | finished => exact .silent nofun

/-! ### The invariant -/

/-- An unused token is the one that the latest event of its user issued. -/
structure LinksInOrder (state : ResetState) : Prop where
  orderly : Orderly state.history
  idsBelow : ∀ row ∈ state.db.tokens.rows, row.id < state.db.nextId
  eventsBelow : ∀ event ∈ state.history, event.tokenId < state.db.nextId
  latest : ∀ row ∈ state.db.tokens.rows, row.usedAt = none →
    state.history.find? (fun event => event.userId = row.userId) =
      some (.issued row.userId row.id)

namespace LinksInOrder
variable {hmac : HmacSha256Hex} {state : ResetState} {db : ResetDb}

/-- A user has at most one unused token. -/
theorem unused_eq (h : LinksInOrder state) {row row' : PasswordResetToken}
    (hRow : row ∈ state.db.tokens.rows) (hRow' : row' ∈ state.db.tokens.rows)
    (hUser : row.userId = row'.userId) (hUnused : row.usedAt = none)
    (hUnused' : row'.usedAt = none) : row = row' := by
  have hLatest := h.latest row hRow hUnused
  rw [hUser, h.latest row' hRow' hUnused'] at hLatest
  exact eq_of_key hRow hRow' (ResetEvent.issued.inj (Option.some.inj hLatest)).2.symm

/-- Deleting unused tokens keeps the links in order. -/
theorem deleted (h : LinksInOrder state) (userId : Id) :
    LinksInOrder { state with db := SessionService.deleteUnusedTokens state.db userId } where
  orderly := h.orderly
  idsBelow row hRow := h.idsBelow row (List.mem_of_mem_filter hRow)
  eventsBelow := h.eventsBelow
  latest row hRow := h.latest row (List.mem_of_mem_filter hRow)

/-- A new token for a user without an unused one keeps the links in order. -/
theorem created (h : LinksInOrder state) {userId : Id} {rawToken : String} {now : Timestamp}
    (hCreate : SessionService.createToken hmac state.db userId rawToken now = .ok db)
    (hOpen : ∀ row ∈ state.db.tokens.rows, row.userId = userId → row.usedAt ≠ none) :
    LinksInOrder ⟨db, .issued userId state.db.nextId :: state.history⟩ := by
  obtain ⟨hAdded, hNext⟩ := createToken_added hCreate
  refine ⟨?_, ?_, ?_, ?_⟩
  · exact h.orderly.cons_issued fun event hEvent => (h.eventsBelow event hEvent).ne
  · rw [hNext]
    exact hAdded.forall_rows (fun row hRow => (h.idsBelow row hRow).trans (Nat.lt_succ_self _))
      (Nat.lt_succ_self _)
  · rw [hNext]
    exact List.forall_mem_cons.mpr ⟨Nat.lt_succ_self _,
      fun event hEvent => (h.eventsBelow event hEvent).trans (Nat.lt_succ_self _)⟩
  · refine hAdded.forall_rows (fun row hRow hUnused => ?_) fun _ => ?_
    · have hOther : userId ≠ row.userId := fun hUser => hOpen row hRow hUser.symm hUnused
      rw [List.find?_cons_of_neg (by simp [ResetEvent.userId, hOther])]
      exact h.latest row hRow hUnused
    · exact List.find?_cons_of_pos (by simp [ResetEvent.userId, SessionService.newToken])

/-- Setting the password by an unused token keeps the links in order. -/
theorem used (h : LinksInOrder state) {record : PasswordResetToken} {passwordHash : String}
    {usedAt : Timestamp}
    (hSet : SessionService.setPassword state.db record passwordHash usedAt = .ok db)
    (hUser : ∀ row ∈ state.db.tokens.rows, row.id = record.id → row.userId = record.userId)
    (hOpen : ∀ row ∈ state.db.tokens.rows, row.id = record.id → row.usedAt = none) :
    LinksInOrder ⟨db, .reset record.userId record.id :: state.history⟩ := by
  obtain ⟨hNext, ⟨token, hToken, hId⟩, hRows⟩ := setPassword_tokens hSet
  have hLatest := h.latest token hToken (hOpen token hToken hId)
  rw [hUser token hToken hId, hId] at hLatest
  refine ⟨h.orderly.cons_reset hLatest, fun row' hRow' => ?_, ?_, fun row' hRow' hUnused => ?_⟩
  · obtain ⟨row, hRow, hSame, -⟩ := hRows row' hRow'
    rw [hSame, hNext]
    exact h.idsBelow row hRow
  · rw [hNext]
    refine List.forall_mem_cons.mpr ⟨?_, h.eventsBelow⟩
    rw [ResetEvent.tokenId, ← hId]
    exact h.idsBelow token hToken
  · obtain ⟨row, hRow, hSame, hSameUser, hStill⟩ := hRows row' hRow'
    obtain ⟨hNone, hOther⟩ := hStill hUnused
    rw [hSame, hSameUser,
      List.find?_cons_of_neg (by simp [ResetEvent.userId, Ne.symm hOther])]
    exact h.latest row hRow hNone

end LinksInOrder

section Steps
variable {hmac : HmacSha256Hex} {calls : Process → ResetCall}
  {system : System Process ResetProgress ResetState}

/-- The token that a call read is stored under the same user, or deleted. -/
def TokenAsRead (db : ResetDb) (record : PasswordResetToken) : Prop :=
  record.id < db.nextId ∧ ∀ row ∈ db.tokens.rows, row.id = record.id → row.userId = record.userId

def TokensAsRead (system : System Process ResetProgress ResetState) : Prop :=
  ∀ process record, system.locals process = .hashing record → TokenAsRead system.shared.db record

theorem tokenAsRead_step {call : ResetCall} {progress : ResetProgress} {state : ResetState}
    {next : ResetProgress × ResetState} (h : ResetStepKind hmac state call progress next)
    {record : PasswordResetToken} (hRead : TokenAsRead state.db record) :
    TokenAsRead next.2.db record := by
  cases h with
  | silent => exact hRead
  | read => exact hRead
  | deleted => exact ⟨hRead.1, fun row hRow => hRead.2 row (List.mem_of_mem_filter hRow)⟩
  | created hCreate =>
      obtain ⟨hAdded, hNext⟩ := createToken_added hCreate
      refine ⟨hNext ▸ hRead.1.trans (Nat.lt_succ_self _), hAdded.forall_rows hRead.2 fun hId => ?_⟩
      exact absurd hId hRead.1.ne'
  | used hSet =>
      obtain ⟨hNext, -, hRows⟩ := setPassword_tokens hSet
      refine ⟨hNext ▸ hRead.1, fun row' hRow' hId => ?_⟩
      obtain ⟨row, hRow, hSame, hUser, -⟩ := hRows row' hRow'
      rw [hUser]
      exact hRead.2 row hRow (hSame ▸ hId)

theorem readToken_mem {db : ResetDb} {rawToken : String} {now : Timestamp}
    {record : PasswordResetToken}
    (h : SessionService.readToken hmac db rawToken now = .ok record) :
    record ∈ db.tokens.rows ∧ record.usedAt = none := by
  unfold SessionService.readToken at h
  by_cases hTrim : Js.trim rawToken = ""
  · rw [if_pos hTrim] at h
    cases h
  · rw [if_neg hTrim] at h
    dsimp only at h
    split at h
    · cases h
    · rename_i found hFound
      by_cases hInvalid : found.usedAt.isSome ∨ found.expiresAt ≤ now
      · rw [if_pos hInvalid] at h
        cases h
      · rw [if_neg hInvalid] at h
        split_ifs at h
        cases h
        exact ⟨List.mem_of_find?_eq_some hFound, by simpa using (not_or.mp hInvalid).1⟩

variable [DecidableEq Process]

theorem TokensAsRead.step (h : TokensAsRead system) (hOrder : LinksInOrder system.shared)
    (process : Process) : TokensAsRead (fire (resetStep hmac calls) system process) := by
  have hKind := resetStep_kind hmac calls process (system.locals process) system.shared
  intro other record hLocal
  rw [fire_shared]
  by_cases hOther : other = process
  · subst hOther
    rw [fire_locals_self] at hLocal
    generalize resetStep hmac calls other (system.locals other) system.shared = next at hKind hLocal
    generalize system.locals other = progress at hKind
    generalize calls other = call at hKind
    cases hKind with
    | silent hNot => exact absurd hLocal (hNot record)
    | read hRead =>
        cases hLocal
        obtain ⟨hMem, -⟩ := readToken_mem hRead
        exact ⟨hOrder.idsBelow record hMem, fun row hRow hId => by rw [eq_of_key hRow hMem hId]⟩
    | deleted => cases hLocal
    | created => cases hLocal
    | used => cases hLocal
  · rw [fire_locals_of_ne system hOther] at hLocal
    exact tokenAsRead_step hKind (h other record hLocal)

theorem LinksInOrder.step (h : LinksInOrder system.shared) (hRead : TokensAsRead system)
    {process : Process} (hOpen : LinkStillOpen calls system process) :
    LinksInOrder (fire (resetStep hmac calls) system process).shared := by
  have hKind := resetStep_kind hmac calls process (system.locals process) system.shared
  rw [fire_shared]
  unfold LinkStillOpen at hOpen
  have hTokens := hRead process
  generalize resetStep hmac calls process (system.locals process) system.shared = next at hKind
  generalize system.locals process = progress at hKind hOpen hTokens
  generalize calls process = call at hKind hOpen
  cases hKind with
  | silent => exact h
  | read => exact h
  | deleted => exact h.deleted _
  | created hCreate => exact h.created hCreate hOpen
  | used hSet => exact h.used hSet (hTokens _ rfl).2 hOpen

/-! ### Runs -/

/-- At most one unused token a user. -/
def OneUnused (db : ResetDb) : Prop :=
  ∀ row ∈ db.tokens.rows, ∀ row' ∈ db.tokens.rows, row.userId = row'.userId →
    row.usedAt = none → row'.usedAt = none → row = row'

/-- The tokens of a database count as issued, the used ones first. -/
def issuedTokens (db : ResetDb) : List ResetEvent :=
  ((db.tokens.rows.filter fun row => row.usedAt.isNone) ++
    db.tokens.rows.filter fun row => row.usedAt.isSome).map fun row => .issued row.userId row.id

def noResetCall (db : ResetDb) : System Process ResetProgress ResetState :=
  { shared := ⟨db, issuedTokens db⟩, locals := fun _ => .waiting }

/-- What counts as issued before are the stored tokens. -/
theorem mem_issuedTokens {db : ResetDb} {event : ResetEvent} (h : event ∈ issuedTokens db) :
    ∃ row ∈ db.tokens.rows, event = .issued row.userId row.id := by
  obtain ⟨row, hRow, rfl⟩ := List.mem_map.mp h
  rcases List.mem_append.mp hRow with hFilter | hFilter
  · exact ⟨row, List.mem_of_mem_filter hFilter, rfl⟩
  · exact ⟨row, List.mem_of_mem_filter hFilter, rfl⟩

/-- A table with one unused token a user starts in order. -/
theorem linksInOrder_issuedTokens {db : ResetDb}
    (hBelow : ∀ row ∈ db.tokens.rows, row.id < db.nextId) (hOne : OneUnused db) :
    LinksInOrder ⟨db, issuedTokens db⟩ where
  orderly := {
    fresh := by
      have hIds : db.tokens.rows.Pairwise fun row row' => row.id ≠ row'.id :=
        db.tokens.apart.imp fun hApart hId => by
          rw [KeyedRow.clash_of_key _ _ hId] at hApart
          cases hApart
      have hOrder : ((db.tokens.rows.filter fun row => row.usedAt.isNone) ++
          db.tokens.rows.filter fun row => row.usedAt.isSome).Pairwise
            fun row row' => row.id ≠ row'.id := by
        refine List.pairwise_append.mpr ⟨hIds.filter _, hIds.filter _, fun row hRow row' hRow' => ?_⟩
        obtain ⟨hMem, hUnused⟩ := List.mem_filter.mp hRow
        obtain ⟨hMem', hUsed⟩ := List.mem_filter.mp hRow'
        intro hId
        rw [eq_of_key hMem hMem' hId, Option.isNone_iff_eq_none] at hUnused
        rw [hUnused] at hUsed
        cases hUsed
      refine List.pairwise_map.mpr (hOrder.imp fun hId userId tokenId hIssued => ?_)
      cases hIssued
      exact hId.symm
    owner := by
      intro event hEvent event' hEvent' hToken
      obtain ⟨row, hRow, rfl⟩ := mem_issuedTokens hEvent
      obtain ⟨row', hRow', rfl⟩ := mem_issuedTokens hEvent'
      rw [eq_of_key hRow hRow' hToken]
    latest := by
      intro newer older userId tokenId hSplit
      have hReset : ResetEvent.reset userId tokenId ∈ issuedTokens db := by
        rw [show issuedTokens db = _ from hSplit]
        simp
      obtain ⟨row, -, hIssued⟩ := mem_issuedTokens hReset
      cases hIssued }
  idsBelow := hBelow
  eventsBelow := by
    intro event hEvent
    obtain ⟨row, hRow, rfl⟩ := mem_issuedTokens hEvent
    exact hBelow row hRow
  latest := by
    intro row hRow hUnused
    have hFirst : db.tokens.findFirst? (fun r => r.usedAt.isNone ∧ r.userId = row.userId) =
        some row := by
      refine findFirst?_eq_some_of_mem hRow (by simp [hUnused]) fun other hOther hUser => ?_
      have hBoth : other.usedAt = none ∧ other.userId = row.userId := by simpa using hUser
      exact hOne other hOther row hRow hBoth.2 hBoth.1 hUnused
    rw [issuedTokens, List.find?_map, List.find?_append, List.find?_filter]
    have hFound : db.tokens.rows.find? (fun r => r.usedAt.isNone ∧
        ((fun event : ResetEvent => decide (event.userId = row.userId)) ∘
          fun r => .issued r.userId r.id) r) = some row := by
      rw [← hFirst]
      refine congrArg (List.find? · _) (funext fun r => ?_)
      simp only [Function.comp, ResetEvent.userId]
      exact decide_eq_decide.mpr (and_congr_right fun _ => decide_eq_true_iff)
    rw [hFound]
    rfl

end Steps

/-- Where each token is created with no unused one beside it and used up while it
is unused, a token sets a password once, none after its user had another event,
and no user has two unused tokens. -/
theorem reset_link_works_once [DecidableEq Process] (hmac : HmacSha256Hex)
    (calls : Process → ResetCall) (db : ResetDb)
    (hBelow : ∀ row ∈ db.tokens.rows, row.id < db.nextId) (hOne : OneUnused db)
    (schedule : List Process)
    (hAlong : Along (fire (resetStep hmac calls)) (LinkStillOpen calls) (noResetCall db) schedule) :
    let final := run (fire (resetStep hmac calls)) (noResetCall db) schedule
    (∀ userId userId' tokenId,
      ¬ [.reset userId tokenId, .reset userId' tokenId].Sublist final.shared.history) ∧
    (∀ userId tokenId later,
      ¬ [.reset userId tokenId, .issued userId later, .issued userId tokenId].Sublist
        final.shared.history) ∧
    (∀ userId tokenId other,
      ¬ [.reset userId tokenId, .reset userId other, .issued userId tokenId].Sublist
        final.shared.history) ∧
    OneUnused final.shared.db := by
  intro final
  have hRun : LinksInOrder final.shared ∧ TokensAsRead final :=
    run_invariant_along (fun system => LinksInOrder system.shared ∧ TokensAsRead system)
      (fun system process h hOpen => ⟨h.1.step h.2 hOpen, h.2.step h.1 process⟩)
      ⟨linksInOrder_issuedTokens hBelow hOne, fun _ _ hLocal => by cases hLocal⟩ hAlong
  obtain ⟨hOrder, -⟩ := hRun
  refine ⟨fun _ _ _ => hOrder.orderly.reset_once, fun _ _ _ => hOrder.orderly.not_sublist rfl,
    fun _ _ _ => hOrder.orderly.not_sublist rfl, fun row hRow row' hRow' hUser hUnused hUnused' => ?_⟩
  exact hOrder.unused_eq hRow hRow' hUser hUnused hUnused'

namespace Sample

/-- One account, with no link. -/
def accountDb : ResetDb where
  users := ⟨[⟨1, some "old"⟩], List.pairwise_singleton _ _⟩
  tokens := ⟨[], List.Pairwise.nil⟩
  nextId := 7

/-- A link is issued, and used with two passwords. -/
def resetCalls : Nat → ResetCall
  | 0 => .issue 1 "link" 1000
  | 1 => .consume "link" "first" 2000 2001
  | _ => .consume "link" "second" 2000 2002

/-- The calls after some steps. -/
def resetAfter (schedule : List Nat) : System Nat ResetProgress ResetState :=
  run (fire (resetStep id resetCalls)) (noResetCall accountDb) schedule

end Sample

theorem reset_link_works_once_used :
    (Sample.resetAfter [0, 0, 0, 1, 1, 2]).shared.history = [.reset 1 7, .issued 1 7] ∧
    (∀ userId userId' tokenId, ¬ [.reset userId tokenId, .reset userId' tokenId].Sublist
      (Sample.resetAfter [0, 0, 0, 1, 1, 2]).shared.history) ∧
    (∀ userId tokenId later,
      ¬ [.reset userId tokenId, .issued userId later, .issued userId tokenId].Sublist
        (Sample.resetAfter [0, 0, 0, 1, 1, 2]).shared.history) ∧
    (∀ userId tokenId other,
      ¬ [.reset userId tokenId, .reset userId other, .issued userId tokenId].Sublist
        (Sample.resetAfter [0, 0, 0, 1, 1, 2]).shared.history) ∧
    OneUnused (Sample.resetAfter [0, 0, 0, 1, 1, 2]).shared.db := by
  refine ⟨by decide, reset_link_works_once id Sample.resetCalls Sample.accountDb nofun nofun
    [0, 0, 0, 1, 1, 2] ⟨trivial, trivial, nofun, trivial, ?_, trivial, trivial⟩⟩
  intro row hRow _
  obtain rfl := List.mem_singleton.mp hRow
  rfl

/-- Both calls read the link before either sets its password. -/
theorem reset_link_used_twice :
    OneUnused Sample.accountDb ∧
      [.reset 1 7, .reset 1 7].Sublist
        (Sample.resetAfter [0, 0, 0, 1, 2, 1, 2]).shared.history := by
  have hHistory : (Sample.resetAfter [0, 0, 0, 1, 2, 1, 2]).shared.history =
      [.reset 1 7, .reset 1 7, .issued 1 7] := by decide
  rw [hHistory]
  exact ⟨nofun, List.sublist_append_left _ [ResetEvent.issued 1 7]⟩

end PropertyTax
