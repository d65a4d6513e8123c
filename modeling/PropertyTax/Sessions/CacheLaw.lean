import PropertyTax.Sessions.Revocation
import PropertyTax.Sessions.SessionCalls

/-! The cache in front of the sessions is transparent: while calls do not overlap, a
live entry mirrors the row under its token, so that a token is good for what its
row says. -/
namespace PropertyTax
open KeyedTable Runs

/-- A call that no other overlaps, time that passes, or an eviction. -/
inductive SessionEvent where
  | login (id userId : Id) (token : SessionToken) (ipAddress userAgent : Option String)
  | request (rawToken : Option String) (token : SessionToken)
  | logout (rawToken : Option String)
  | deleteSessionById (sessionId userId : Id)
  | revokeAllUserSessions (userId : Id) (exceptSessionId : Option Id)
  | wait (milliseconds : Nat)
  | evict (evicted : String → Bool)

/-- The clock, the stores, and the tokens that were handed out, the last one first:
no call reads these. -/
structure SessionWorld where
  now : Timestamp
  store : SessionState
  handedOut : List (Id × String)

def SessionState.evict (evicted : String → Bool) (state : SessionState) : SessionState :=
  { state with cache := fun tokenHash => if evicted tokenHash then none else state.cache tokenHash }

namespace SessionWorld

/-- A new token goes to the client. -/
def handOut (record : SessionRecord) (world : SessionWorld) : SessionWorld :=
  { world with handedOut := (record.id, record.rawToken) :: world.handedOut }

/-- The most recently issued token of a session. -/
def lastIssued? (world : SessionWorld) (id : Id) : Option String :=
  (world.handedOut.find? fun pair => pair.1 = id).map Prod.snd

def happen (env : SessionEnv) (world : SessionWorld) : SessionEvent → SessionWorld
  | .login id userId token ipAddress userAgent =>
      let created :=
        SessionCalls.createSession env id userId token ipAddress userAgent world.now world.store
      created.1.toOption.elim { world with store := created.2 } fun record =>
        handOut record { world with store := created.2 }
  | .request rawToken token =>
      let answered := SessionCalls.authenticate env rawToken token world.now world.store
      answered.1.elim { world with store := answered.2 } fun record =>
        handOut record { world with store := answered.2 }
  | .logout rawToken =>
      { world with store := SessionCalls.deleteSessionByToken env rawToken world.now world.store }
  | .deleteSessionById sessionId userId =>
      { world with
        store := (SessionCalls.deleteSessionById sessionId userId world.now world.store).2 }
  | .revokeAllUserSessions userId exceptSessionId =>
      { world with store := (SessionCalls.revokeAllUserSessions userId exceptSessionId world.now
          world.store).2 }
  | .wait milliseconds => { world with now := world.now + milliseconds }
  | .evict evicted => { world with store := world.store.evict evicted }

/-- No session, and nothing in the cache. -/
def empty (now : Timestamp) : SessionWorld := ⟨now, ⟨fun _ => none, .empty, []⟩, []⟩

/-- What `findValidSession` answers. -/
def found? (env : SessionEnv) (world : SessionWorld) (rawToken : Option String) :
    Option SessionRecord :=
  (SessionCalls.findValidSession env rawToken world.now world.store).1

/-- The text is the session's most recent token, and the session is alive. -/
structure IsGoodFor (env : SessionEnv) (world : SessionWorld) (token : String)
    (row : SessionRow) : Prop where
  mem : row ∈ world.store.sessions.rows
  latest : world.lastIssued? row.id = some token
  notRevoked : row.revokedAt = none
  notExpired : world.now < row.expiresAt
  active : (world.now : ℚ) < row.lastActiveAt + env.idleTimeoutSeconds * 1000
  young : (world.now : ℚ) < row.createdAt + env.absoluteTimeoutSeconds * 1000

/-- No token that was handed out has the hash of another text. -/
def NoCollision (env : SessionEnv) (world : SessionWorld) (raw : String) : Prop :=
  ∀ pair ∈ world.handedOut, env.hashSessionToken pair.2 = env.hashSessionToken raw →
    pair.2 = Js.trim raw

end SessionWorld

/-- The record without what the cache does not keep. -/
def SessionRecord.plain (record : SessionRecord) : SessionRecord :=
  { record with ipAddress := none, userAgent := none }

/-! ### The rows and the cache -/

/-- An entry of the cache says what the row says. -/
structure Mirrors (tokenHash : String) (entry : CachedSession) (row : SessionRow) : Prop where
  tokenHash : row.tokenHash = tokenHash
  id : entry.sessionId = row.id
  userId : entry.userId = row.userId
  createdAt : entry.createdAt = row.createdAt
  lastActiveAt : entry.lastActivityAt = row.lastActiveAt
  expiresAt : entry.expiresAt = row.expiresAt
  notRevoked : row.revokedAt = none

/-- The rows have the latest tokens, and the live entries mirror rows. -/
structure Coupled (env : SessionEnv) (last? : Id → Option String) (now : Timestamp)
    (state : SessionState) : Prop where
  tokens : ∀ row ∈ state.sessions.rows, ∃ raw, last? row.id = some raw ∧
    row.tokenHash = env.hashSessionToken raw
  cache : ∀ tokenHash entry, state.cached? tokenHash now = some entry →
    ∃ row ∈ state.sessions.rows, Mirrors tokenHash entry row

/-- The record is the row's, under its token, but for the time of the last request. -/
structure BelongsTo (env : SessionEnv) (record : SessionRecord) (row : SessionRow) : Prop where
  tokenHash : env.hashSessionToken record.rawToken = row.tokenHash
  id : record.id = row.id
  userId : record.userId = row.userId
  createdAt : record.createdAt = row.createdAt
  expiresAt : record.expiresAt = row.expiresAt
  notRevoked : row.revokedAt = none

section Coupled
variable {env : SessionEnv} {last? : Id → Option String} {now : Timestamp} {state : SessionState}
  {record : SessionRecord} {row : SessionRow} {tokenHash : String} {entry : CachedSession}

/-- A mirrored entry gives the record of its row. -/
theorem Mirrors.plain (h : Mirrors tokenHash entry row) (rawToken : String) :
    (entry.toRecord rawToken).plain = (row.toRecord rawToken).plain := by
  simp only [CachedSession.toRecord, SessionRow.toRecord, SessionRecord.plain, h.id, h.userId,
    h.createdAt, h.lastActiveAt, h.expiresAt]

/-- A deleted entry is gone, and the others stay. -/
theorem cached?_deleteCache (deleted : String) : (state.deleteCache deleted).cached? tokenHash now =
    if tokenHash = deleted then none else state.cached? tokenHash now := by
  unfold SessionState.cached? SessionState.deleteCache
  by_cases hSame : tokenHash = deleted
  · rw [if_pos hSame, hSame]
    simp
  · rw [if_neg hSame]
    simp [Function.update_of_ne hSame]

/-- A live entry is the one just written, or an older one under another token. -/
theorem cached?_writeCache (h : (state.writeCache env now record).cached? tokenHash now = some entry) :
    (tokenHash = env.hashSessionToken record.rawToken ∧ ∃ evictedAt, entry = ⟨record.id,
      record.userId, record.createdAt, record.lastActiveAt, record.expiresAt, evictedAt⟩) ∨
    tokenHash ≠ env.hashSessionToken record.rawToken ∧ state.cached? tokenHash now = some entry := by
  unfold SessionState.cached? SessionState.writeCache at h
  dsimp only at h
  by_cases hSame : tokenHash = env.hashSessionToken record.rawToken
  · left
    rw [hSame, Function.update_self] at h
    have hEntry := (Option.filter_eq_some_iff.mp h).1
    exact ⟨hSame, _, (Option.some.inj hEntry).symm⟩
  · right
    rw [Function.update_of_ne hSame] at h
    exact ⟨hSame, h⟩

/-- Deleting an entry keeps cache and rows coupled. -/
theorem Coupled.deleteCache (h : Coupled env last? now state) (deleted : String) :
    Coupled env last? now (state.deleteCache deleted) where
  tokens := h.tokens
  cache tokenHash entry hEntry := by
    rw [cached?_deleteCache] at hEntry
    split_ifs at hEntry
    exact h.cache tokenHash entry hEntry

/-- Evicting entries keeps cache and rows coupled. -/
theorem Coupled.evict (h : Coupled env last? now state) (evicted : String → Bool) :
    Coupled env last? now (state.evict evicted) where
  tokens := h.tokens
  cache tokenHash entry hEntry := by
    apply h.cache tokenHash entry
    unfold SessionState.cached? SessionState.evict at hEntry
    dsimp only at hEntry
    split_ifs at hEntry
    · cases hEntry
    · exact hEntry

/-- Entries only die as time passes. -/
theorem Coupled.wait (h : Coupled env last? now state) (milliseconds : Nat) :
    Coupled env last? (now + milliseconds) state where
  tokens := h.tokens
  cache tokenHash entry hEntry := by
    apply h.cache tokenHash entry
    obtain ⟨hCache, hLive⟩ := Option.filter_eq_some_iff.mp hEntry
    refine Option.filter_eq_some_iff.mpr ⟨hCache, decide_eq_true ?_⟩
    have hLater := of_decide_eq_true hLive
    push_cast at hLater
    omega

/-- Writing the record of a stored session keeps cache and rows coupled. -/
theorem Coupled.writeCache (h : Coupled env last? now state) (hRow : row ∈ state.sessions.rows)
    (hRecord : BelongsTo env record row) (hActive : record.lastActiveAt = row.lastActiveAt) :
    Coupled env last? now (state.writeCache env now record) where
  tokens := h.tokens
  cache tokenHash entry hEntry := by
    rcases cached?_writeCache hEntry with ⟨hSame, evictedAt, rfl⟩ | ⟨-, hOld⟩
    · exact ⟨row, hRow, (hSame.trans hRecord.tokenHash).symm, hRecord.id, hRecord.userId,
        hRecord.createdAt, hActive, hRecord.expiresAt, hRecord.notRevoked⟩
    · exact h.cache tokenHash entry hOld

/-- Rows without a live entry may be rewritten. -/
theorem Coupled.rewrite {last?' : Id → Option String} {data : SessionRow → SessionRow}
    {sessions : KeyedTable SessionRow} {issued : List (Id × String)}
    (h : Coupled env last? now state) (hRows : sessions.rows = state.sessions.rows.map data)
    (hTokens : ∀ row ∈ state.sessions.rows, ∃ raw, last?' (data row).id = some raw ∧
      (data row).tokenHash = env.hashSessionToken raw)
    (hLive : ∀ row ∈ state.sessions.rows,
      (state.cached? row.tokenHash now).isSome = true → data row = row) :
    Coupled env last?' now { state with sessions, issued } where
  tokens row' hRow' := by
    rw [hRows] at hRow'
    obtain ⟨row, hRow, rfl⟩ := List.mem_map.mp hRow'
    exact hTokens row hRow
  cache tokenHash entry hEntry := by
    obtain ⟨row, hRow, hMirrors⟩ := h.cache tokenHash entry hEntry
    have hSame : data row = row := by
      apply hLive row hRow
      rw [hMirrors.tokenHash]
      exact Option.isSome_iff_exists.mpr ⟨entry, hEntry⟩
    refine ⟨row, ?_, hMirrors⟩
    rw [hRows]
    exact List.mem_map.mpr ⟨row, hRow, hSame⟩

/-- A revocation keeps id and token. -/
theorem revokeIf_kept (p : SessionRow → Bool) (row : SessionRow) :
    (SessionState.revokeIf p now row).id = row.id ∧
      (SessionState.revokeIf p now row).tokenHash = row.tokenHash := by
  unfold SessionState.revokeIf
  split_ifs
  · exact ⟨rfl, rfl⟩
  · exact ⟨rfl, rfl⟩

/-- Revoking sessions that the cache no longer holds keeps cache and rows coupled. -/
theorem Coupled.revokeWhere {p : SessionRow → Bool} (h : Coupled env last? now state)
    (hDead : ∀ row ∈ state.sessions.rows, p row = true → row.revokedAt = none →
      state.cached? row.tokenHash now = none) :
    Coupled env last? now (state.revokeWhere p now) := by
  refine h.rewrite rfl (fun row hRow => ?_) fun row hRow hLive => ?_
  · obtain ⟨hId, hToken⟩ := @revokeIf_kept now p row
    rw [hId, hToken]
    exact h.tokens row hRow
  · apply if_neg
    rintro ⟨hMatch, hOpen⟩
    rw [hDead row hRow hMatch hOpen] at hLive
    cases hLive

/-- Revoking a session that the cache no longer holds keeps cache and rows coupled. -/
theorem Coupled.revokeById {id : Id} (h : Coupled env last? now state)
    (hDead : ∀ row ∈ state.sessions.rows, row.id = id → state.cached? row.tokenHash now = none) :
    Coupled env last? now (state.revokeById id now) := by
  unfold SessionState.revokeById
  cases hUpdate : state.sessions.update id fun row => { row with revokedAt := some now } with
  | error refusal => exact h
  | ok sessions =>
      refine h.rewrite (update_rows hUpdate) (fun row hRow => ?_) fun row hRow hLive => ?_
      · split_ifs
        · exact h.tokens row hRow
        · exact h.tokens row hRow
      · apply if_neg
        intro hId
        rw [hDead row hRow hId] at hLive
        cases hLive

/-- Two stored sessions with one token are one. -/
theorem eq_of_tokenHash {row' : SessionRow} (hRow : row ∈ state.sessions.rows)
    (hRow' : row' ∈ state.sessions.rows) (h : row.tokenHash = row'.tokenHash) : row = row' := by
  apply eq_of_clash hRow hRow'
  simp [KeyedRow.clash, h]

/-- A token finds the stored session that has it. -/
theorem byTokenHash?_iff : state.byTokenHash? tokenHash = some row ↔
    row ∈ state.sessions.rows ∧ row.tokenHash = tokenHash := by
  constructor
  · intro h
    have hFound := List.find?_some h
    exact ⟨List.mem_of_find?_eq_some h, of_decide_eq_true hFound⟩
  · rintro ⟨hRow, hToken⟩
    apply findFirst?_eq_some_of_mem hRow (decide_eq_true hToken)
    intro other hOther hSame
    exact eq_of_tokenHash hOther hRow ((of_decide_eq_true hSame).trans hToken.symm)

/-- A session is found as its row, and the stores stay coupled. -/
theorem Coupled.findValidSession (h : Coupled env last? now state) (rawToken : Option String) :
    Coupled env last? now (SessionCalls.findValidSession env rawToken now state).2 ∧
      ∀ record, (SessionCalls.findValidSession env rawToken now state).1 = some record →
        ∃ row ∈ (SessionCalls.findValidSession env rawToken now state).2.sessions.rows,
          BelongsTo env record row := by
  unfold SessionCalls.findValidSession
  cases SessionService.presented rawToken with
  | none => exact ⟨h, nofun⟩
  | some raw =>
      dsimp only
      cases hCached : state.cached? (env.hashSessionToken raw) now with
      | some entry =>
          obtain ⟨row, hRow, hMirrors⟩ := h.cache _ entry hCached
          dsimp only
          split_ifs with hExpired
          · refine ⟨(h.deleteCache _).revokeWhere fun other hOther hMatch _ => ?_, nofun⟩
            have hSame : other.id = row.id := (of_decide_eq_true hMatch).trans hMirrors.id
            obtain rfl := eq_of_key hOther hRow hSame
            rw [cached?_deleteCache, if_pos hMirrors.tokenHash]
          · refine ⟨h, fun record hRecord => ⟨row, hRow, ?_⟩⟩
            cases hRecord
            exact ⟨(hashSessionToken_trim raw).trans hMirrors.tokenHash.symm, hMirrors.id,
              hMirrors.userId, hMirrors.createdAt, hMirrors.expiresAt, hMirrors.notRevoked⟩
      | none =>
          dsimp only
          cases hFound : state.byTokenHash? (env.hashSessionToken raw) with
          | none => exact ⟨h, nofun⟩
          | some row =>
              obtain ⟨hRow, hToken⟩ := byTokenHash?_iff.mp hFound
              dsimp only
              split_ifs with hRevoked hExpired
              · exact ⟨h, nofun⟩
              · refine ⟨h.revokeWhere fun other hOther hMatch _ => ?_, nofun⟩
                obtain rfl := eq_of_key hOther hRow (of_decide_eq_true hMatch)
                rw [hToken]
                exact hCached
              · have hRecord : BelongsTo env (row.toRecord (Js.trim raw)) row :=
                  ⟨(hashSessionToken_trim raw).trans hToken.symm, rfl, rfl, rfl, rfl,
                    Option.not_isSome_iff_eq_none.mp hRevoked⟩
                refine ⟨h.writeCache hRow hRecord rfl, fun record hFoundRecord => ⟨row, hRow, ?_⟩⟩
                cases hFoundRecord
                exact hRecord

/-- A stored session can be touched. -/
theorem update_isOk_touch (hRow : row ∈ state.sessions.rows) (lastActiveAt : Timestamp) :
    ∃ sessions, state.sessions.update row.id (SessionState.touch lastActiveAt) = .ok sessions := by
  refine update_isOk hRow rfl fun other hOther hNe => ?_
  cases hClash : KeyedRow.clash other (SessionState.touch lastActiveAt row) with
  | false => rfl
  | true => exact absurd (eq_of_clash hOther hRow hClash) hNe

/-- The token may be touched in the cache and then in the row. -/
theorem Coupled.touchSession (h : Coupled env last? now state) (hRow : row ∈ state.sessions.rows)
    (hRecord : BelongsTo env record row) :
    Coupled env last? now (SessionCalls.touchSession env record now state) ∧
      ∃ row' ∈ (SessionCalls.touchSession env record now state).sessions.rows,
        BelongsTo env record row' := by
  obtain ⟨sessions, hUpdate⟩ := update_isOk_touch hRow now
  have hTouched : SessionState.touch now row ∈ sessions.rows :=
    (mem_update hUpdate _).mpr (.inr ⟨row, hRow, rfl, rfl⟩)
  have hBelongs : BelongsTo env record (SessionState.touch now row) :=
    ⟨hRecord.tokenHash, hRecord.id, hRecord.userId, hRecord.createdAt, hRecord.expiresAt,
      hRecord.notRevoked⟩
  -- The cache is emptied of the token, the row is touched, and the cache is written.
  have hOrder : SessionCalls.touchSession env record now state =
      SessionState.writeCache env now { record with lastActiveAt := now }
        { state.deleteCache row.tokenHash with sessions } := by
    simp only [SessionCalls.touchSession, SessionState.touchRow, SessionState.writeCache,
      SessionState.deleteCache, hRecord.id, hUpdate, hRecord.tokenHash, Function.update_idem]
  have hEmptied : Coupled env last? now { state.deleteCache row.tokenHash with sessions } := by
    refine (h.deleteCache row.tokenHash).rewrite (update_rows hUpdate) (fun other hOther => ?_)
      fun other hOther hLive => ?_
    · split_ifs
      · exact h.tokens other hOther
      · exact h.tokens other hOther
    · apply if_neg
      intro hId
      obtain rfl := eq_of_key hOther hRow hId
      rw [cached?_deleteCache, if_pos rfl] at hLive
      cases hLive
  rw [hOrder]
  refine ⟨hEmptied.writeCache hTouched ?_ rfl, _, hTouched, hBelongs⟩
  exact ⟨hBelongs.tokenHash, hBelongs.id, hBelongs.userId, hBelongs.createdAt, hBelongs.expiresAt,
    hBelongs.notRevoked⟩

/-- The tokens after another one was handed out. -/
abbrev issueTo (last? : Id → Option String) (record : SessionRecord) : Id → Option String :=
  Function.update last? record.id (some record.rawToken)

/-- A rotation replaces the token of the row, in the cache as well. -/
theorem Coupled.refreshSessionIfNeeded (h : Coupled env last? now state)
    (hRow : row ∈ state.sessions.rows) (hRecord : BelongsTo env record row) (token : SessionToken) :
    let answer := SessionCalls.refreshSessionIfNeeded env record token now state
    (∀ refusal, answer.1 = .error refusal → Coupled env last? now answer.2) ∧
    (answer.1 = .ok none → Coupled env last? now answer.2 ∧
      ∃ row' ∈ answer.2.sessions.rows, BelongsTo env record row') ∧
    ∀ next, answer.1 = .ok (some next) → next.rawToken = token.raw ∧
      Coupled env (issueTo last? next) now answer.2 := by
  unfold SessionCalls.refreshSessionIfNeeded
  by_cases hNeeds : needsRefresh now record = true
  · rw [if_pos hNeeds]
    dsimp only
    cases hUpdate : state.sessions.update record.id
        (SessionState.rotateRow (env.hashSessionToken token.raw) now) with
    | error refusal => exact ⟨fun _ _ => h, nofun, nofun⟩
    | ok sessions =>
        dsimp only
        cases hFound : sessions.find? record.id with
        | none => exact ⟨fun _ _ => h, nofun, nofun⟩
        | some rotated =>
            have hReplaced := replaced_of_update hUpdate hRow hRecord.id.symm rfl
            have hNew := hReplaced.find?_new
            change sessions.find? row.id = _ at hNew
            rw [← hRecord.id, hFound] at hNew
            obtain rfl := Option.some.inj hNew
            refine ⟨nofun, nofun, fun next hNext => ?_⟩
            cases hNext
            refine ⟨rfl, ?_⟩
            have hEmptied : Coupled env (issueTo last? ((SessionState.rotateRow
                (env.hashSessionToken token.raw) now row).toRecord token.raw)) now
                { state.deleteCache row.tokenHash with
                  sessions
                  issued := (record.id, env.hashSessionToken token.raw) :: state.issued } := by
              refine (h.deleteCache row.tokenHash).rewrite (update_rows hUpdate)
                (fun other hOther => ?_) fun other hOther hLive => ?_
              · by_cases hId : KeyedRow.key other = record.id
                · rw [if_pos hId]
                  refine ⟨token.raw, ?_, rfl⟩
                  have hSame : other.id = row.id := hId.trans hRecord.id
                  change issueTo last? _ other.id = _
                  rw [hSame]
                  exact Function.update_self _ _ _
                · rw [if_neg hId]
                  obtain ⟨raw, hLast, hToken⟩ := h.tokens other hOther
                  have hNe : other.id ≠ row.id := fun hSame => hId (hSame.trans hRecord.id.symm)
                  exact ⟨raw, (Function.update_of_ne hNe _ _).trans hLast, hToken⟩
              · apply if_neg
                intro hId
                obtain rfl := eq_of_key hOther hRow (hId.trans hRecord.id)
                rw [cached?_deleteCache, if_pos rfl] at hLive
                cases hLive
            rw [hRecord.tokenHash]
            exact hEmptied.writeCache hReplaced.mem_new
              ⟨rfl, rfl, rfl, rfl, rfl, hRecord.notRevoked⟩ rfl
  · rw [if_neg hNeeds]
    exact ⟨nofun, fun _ => h.touchSession hRow hRecord, nofun⟩

/-- What the guard does to a session it found. -/
theorem Coupled.keepAlive (h : Coupled env last? now state) (hRow : row ∈ state.sessions.rows)
    (hRecord : BelongsTo env record row) (token : SessionToken) :
    let answer := SessionCalls.keepAlive env record token now state
    (answer.1 = none → Coupled env last? now answer.2) ∧
    ∀ next, answer.1 = some next → next.rawToken = token.raw ∧
      Coupled env (issueTo last? next) now answer.2 := by
  obtain ⟨hRefused, hTouched, hRotated⟩ := h.refreshSessionIfNeeded hRow hRecord token
  unfold SessionCalls.keepAlive
  cases hAnswer : SessionCalls.refreshSessionIfNeeded env record token now state with
  | mk answer after =>
      rw [hAnswer] at hRefused hTouched hRotated
      cases answer with
      | error refusal => exact ⟨fun _ => hRefused refusal rfl, nofun⟩
      | ok refreshed =>
          cases refreshed with
          | none =>
              obtain ⟨hCoupled, row', hRow', hRecord'⟩ := hTouched rfl
              exact ⟨fun _ => (hCoupled.touchSession hRow' hRecord').1, nofun⟩
          | some rotated =>
              refine ⟨nofun, fun next hNext => ?_⟩
              cases hNext
              exact hRotated rotated rfl

/-- Presenting a token keeps cache and rows coupled. -/
theorem Coupled.authenticate (h : Coupled env last? now state) (rawToken : Option String)
    (token : SessionToken) :
    let answer := SessionCalls.authenticate env rawToken token now state
    (answer.1 = none → Coupled env last? now answer.2) ∧
    ∀ next, answer.1 = some next → next.rawToken = token.raw ∧
      Coupled env (issueTo last? next) now answer.2 := by
  obtain ⟨hCoupled, hRecord⟩ := h.findValidSession rawToken
  unfold SessionCalls.authenticate
  cases hFound : SessionCalls.findValidSession env rawToken now state with
  | mk found after =>
      rw [hFound] at hCoupled hRecord
      cases found with
      | none => exact ⟨fun _ => hCoupled, nofun⟩
      | some record =>
          obtain ⟨row, hRow, hBelongs⟩ := hRecord record rfl
          exact hCoupled.keepAlive hRow hBelongs token

/-- A new session keeps cache and rows coupled. -/
theorem Coupled.createSession (h : Coupled env last? now state) (id userId : Id)
    (token : SessionToken) (ipAddress userAgent : Option String) :
    let answer := SessionCalls.createSession env id userId token ipAddress userAgent now state
    (∀ refusal, answer.1 = .error refusal → Coupled env last? now answer.2) ∧
    ∀ record, answer.1 = .ok record → record.rawToken = token.raw ∧
      Coupled env (issueTo last? record) now answer.2 := by
  unfold SessionCalls.createSession
  dsimp only
  cases hInsert : state.sessions.insert (⟨id, env.hashSessionToken token.raw, userId,
      now + SESSION_TTL_SECONDS * 1000, now, now, none, ipAddress, userAgent⟩ : SessionRow) with
  | error refusal => exact ⟨fun _ _ => h, nofun⟩
  | ok sessions =>
      refine ⟨nofun, fun record hRecord => ?_⟩
      cases hRecord
      refine ⟨rfl, ?_⟩
      have hAdded := added_of_insert hInsert
      refine Coupled.writeCache ⟨?_, ?_⟩ hAdded.mem_row ⟨rfl, rfl, rfl, rfl, rfl, rfl⟩ rfl
      · intro row hRow
        rcases (hAdded.mem_iff row).mp hRow with hOther | rfl
        · obtain ⟨raw, hLast, hToken⟩ := h.tokens row hOther
          have hNe : row.id ≠ id := hAdded.key_ne hOther
          exact ⟨raw, (Function.update_of_ne hNe _ _).trans hLast, hToken⟩
        · exact ⟨token.raw, Function.update_self _ _ _, rfl⟩
      · intro tokenHash entry hEntry
        obtain ⟨row, hRow, hMirrors⟩ := h.cache tokenHash entry hEntry
        exact ⟨row, hAdded.mem_of_mem hRow, hMirrors⟩

/-! ### Revocations -/

/-- A logout keeps cache and rows coupled. -/
theorem Coupled.deleteSessionByToken (h : Coupled env last? now state) (rawToken : Option String) :
    Coupled env last? now (SessionCalls.deleteSessionByToken env rawToken now state) := by
  unfold SessionCalls.deleteSessionByToken
  cases SessionService.presented rawToken with
  | none => exact h
  | some raw =>
      refine (h.deleteCache _).revokeWhere fun row _ hMatch _ => ?_
      rw [cached?_deleteCache, if_pos (of_decide_eq_true hMatch)]

/-- Ending one session keeps cache and rows coupled. -/
theorem Coupled.deleteSessionById (h : Coupled env last? now state) (sessionId userId : Id) :
    Coupled env last? now (SessionCalls.deleteSessionById sessionId userId now state).2 := by
  unfold SessionCalls.deleteSessionById
  cases hFound : state.sessions.findFirst? fun row =>
      row.id = sessionId ∧ row.userId = userId ∧ row.revokedAt = none with
  | none => exact h
  | some row =>
      have hMatch := List.find?_some hFound
      obtain ⟨hId, -⟩ := of_decide_eq_true hMatch
      refine (h.deleteCache _).revokeById fun other hOther hOtherId => ?_
      obtain rfl := eq_of_key hOther (List.mem_of_find?_eq_some hFound) (hOtherId.trans hId.symm)
      rw [cached?_deleteCache, if_pos rfl]

/-- Deleting entries one after another deletes them all, and only empties the cache. -/
theorem Coupled.deleteAll (h : Coupled env last? now state) (tokenHashes : List String) :
    let emptied := tokenHashes.foldl (fun state hash => state.deleteCache hash) state
    Coupled env last? now emptied ∧ emptied.sessions = state.sessions ∧
      ∀ tokenHash, (tokenHash ∈ tokenHashes ∨ state.cached? tokenHash now = none) →
        emptied.cached? tokenHash now = none := by
  induction tokenHashes generalizing state with
  | nil =>
      refine ⟨h, rfl, fun tokenHash hNone => ?_⟩
      exact hNone.resolve_left List.not_mem_nil
  | cons deleted rest ih =>
      obtain ⟨hCoupled, hSessions, hNone⟩ := ih (h.deleteCache deleted)
      refine ⟨hCoupled, hSessions, fun tokenHash hGone => hNone tokenHash ?_⟩
      rw [cached?_deleteCache]
      rcases hGone with hMem | hGone
      · rcases List.mem_cons.mp hMem with rfl | hRest
        · exact .inr (if_pos rfl)
        · exact .inl hRest
      · right
        rw [hGone, ite_self]

/-- Ending the sessions of a user keeps cache and rows coupled. -/
theorem Coupled.revokeAllUserSessions (h : Coupled env last? now state) (userId : Id)
    (exceptSessionId : Option Id) : Coupled env last? now
      (SessionCalls.revokeAllUserSessions userId exceptSessionId now state).2 := by
  obtain ⟨hCoupled, hSessions, hNone⟩ := h.deleteAll ((state.sessions.rows.filter fun row =>
    row.userId = userId ∧ row.revokedAt = none ∧ some row.id ≠ exceptSessionId).map
      SessionRow.tokenHash)
  refine hCoupled.revokeWhere fun row hRow hMatch hOpen => hNone _ (.inl ?_)
  rw [hSessions] at hRow
  obtain ⟨hUser, hExcept⟩ := of_decide_eq_true hMatch
  exact List.mem_map_of_mem (List.mem_filter.mpr ⟨hRow, decide_eq_true ⟨hUser, hOpen, hExcept⟩⟩)

end Coupled

/-! ### Runs -/

section Runs
variable {env : SessionEnv} {world : SessionWorld} {raw : String} {row : SessionRow}

/-- The stores are coupled, and what was handed out are tokens. -/
structure InStep (env : SessionEnv) (world : SessionWorld) : Prop where
  coupled : Coupled env world.lastIssued? world.now world.store
  tokens : ∀ pair ∈ world.handedOut, ∃ token : SessionToken, pair.2 = token.raw

/-- A handed out token is the last one issued for its session. -/
theorem lastIssued?_handOut (record : SessionRecord) (world : SessionWorld) :
    (world.handOut record).lastIssued? = issueTo world.lastIssued? record := by
  funext id
  by_cases hSame : id = record.id
  · subst hSame
    simp [SessionWorld.lastIssued?, SessionWorld.handOut]
  · simp [SessionWorld.lastIssued?, SessionWorld.handOut, Function.update_of_ne hSame, Ne.symm hSame]

/-- Handing out a record keeps the world in step. -/
theorem InStep.handOut {store : SessionState} {record : SessionRecord} {token : SessionToken}
    (h : InStep env world) (hToken : record.rawToken = token.raw)
    (hCoupled : Coupled env (issueTo world.lastIssued? record) world.now store) :
    InStep env (SessionWorld.handOut record { world with store }) where
  coupled := by
    rw [lastIssued?_handOut]
    exact hCoupled
  tokens pair hPair := by
    rcases List.mem_cons.mp hPair with rfl | hOld
    · exact ⟨token, hToken⟩
    · exact h.tokens pair hOld

/-- Whatever happens keeps the world in step. -/
theorem InStep.happen (h : InStep env world) (event : SessionEvent) :
    InStep env (world.happen env event) := by
  cases event with
  | login id userId token ipAddress userAgent =>
      obtain ⟨hRefused, hCreated⟩ := h.coupled.createSession id userId token ipAddress userAgent
      unfold SessionWorld.happen
      dsimp only
      cases hAnswer : SessionCalls.createSession env id userId token ipAddress userAgent world.now
          world.store with
      | mk answer store =>
          rw [hAnswer] at hRefused hCreated
          cases answer with
          | error refusal => exact ⟨hRefused refusal rfl, h.tokens⟩
          | ok record =>
              obtain ⟨hToken, hCoupled⟩ := hCreated record rfl
              exact h.handOut hToken hCoupled
  | request rawToken token =>
      obtain ⟨hKept, hRotated⟩ := h.coupled.authenticate rawToken token
      unfold SessionWorld.happen
      dsimp only
      cases hAnswer : SessionCalls.authenticate env rawToken token world.now world.store with
      | mk answer store =>
          rw [hAnswer] at hKept hRotated
          cases answer with
          | none => exact ⟨hKept rfl, h.tokens⟩
          | some record =>
              obtain ⟨hToken, hCoupled⟩ := hRotated record rfl
              exact h.handOut hToken hCoupled
  | logout rawToken => exact ⟨h.coupled.deleteSessionByToken rawToken, h.tokens⟩
  | deleteSessionById sessionId userId =>
      exact ⟨h.coupled.deleteSessionById sessionId userId, h.tokens⟩
  | revokeAllUserSessions userId exceptSessionId =>
      exact ⟨h.coupled.revokeAllUserSessions userId exceptSessionId, h.tokens⟩
  | wait milliseconds => exact ⟨h.coupled.wait milliseconds, h.tokens⟩
  | evict evicted => exact ⟨h.coupled.evict evicted, h.tokens⟩

/-- The empty world is in step. -/
theorem inStep_empty (now : Timestamp) : InStep env (.empty now) where
  coupled :=
    { tokens := fun _ hRow => absurd hRow List.not_mem_nil
      cache := fun _ _ hEntry => by cases hEntry }
  tokens _ hPair := absurd hPair List.not_mem_nil

/-- The world is in step after any run. -/
theorem inStep_run (env : SessionEnv) (now : Timestamp) (events : List SessionEvent) :
    InStep env (run (SessionWorld.happen env) (.empty now) events) :=
  run_invariant (InStep env) (fun _ event h => h.happen event) (inStep_empty now) events

/-- What the checks of `findValidSession` leave. -/
theorem isExpired_eq_false_iff {now expiresAt lastActiveAt createdAt : Timestamp} :
    env.isExpired now expiresAt lastActiveAt createdAt = false ↔ now < expiresAt ∧
      (now : ℚ) < lastActiveAt + env.idleTimeoutSeconds * 1000 ∧
      (now : ℚ) < createdAt + env.absoluteTimeoutSeconds * 1000 := by
  simp [SessionEnv.isExpired, SessionEnv.isIdleExpired, SessionEnv.isAbsoluteExpired, and_assoc]

/-- A token that is good for a row leads to it. -/
theorem InStep.found_of_good (h : InStep env world) (hGood : world.IsGoodFor env (Js.trim raw) row) :
    (world.found? env (some raw)).map SessionRecord.plain =
      some (row.toRecord (Js.trim raw)).plain := by
  obtain ⟨hRow, hLatest, hOpen, hExpires, hActive, hYoung⟩ := hGood
  have hToken : row.tokenHash = env.hashSessionToken raw := by
    obtain ⟨latest, hLast, hToken⟩ := h.coupled.tokens row hRow
    rw [hToken, ← hashSessionToken_trim raw]
    exact congrArg env.hashSessionToken (Option.some.inj (hLast.symm.trans hLatest))
  have hPresented : SessionService.presented (some raw) = some raw := by
    obtain ⟨pair, hPair, hRaw⟩ := Option.map_eq_some_iff.mp hLatest
    obtain ⟨token, hIssued⟩ := h.tokens pair (List.mem_of_find?_eq_some hPair)
    have hText : Js.trim raw ≠ "" := by
      rw [← hRaw, hIssued]
      exact token.ne_empty
    simp [SessionService.presented, Js.isBlank, hText]
  have hAlive : env.isExpired world.now row.expiresAt row.lastActiveAt row.createdAt = false :=
    isExpired_eq_false_iff.mpr ⟨hExpires, hActive, hYoung⟩
  simp only [SessionWorld.found?, SessionCalls.findValidSession, hPresented]
  cases hCached : world.store.cached? (env.hashSessionToken raw) world.now with
  | some entry =>
      obtain ⟨other, hOther, hMirrors⟩ := h.coupled.cache _ entry hCached
      obtain rfl := eq_of_tokenHash hOther hRow (hMirrors.tokenHash.trans hToken.symm)
      rw [← hMirrors.plain]
      dsimp only
      rw [hMirrors.expiresAt, hMirrors.lastActiveAt, hMirrors.createdAt, if_neg (by simp [hAlive])]
      rfl
  | none =>
      dsimp only
      rw [byTokenHash?_iff.mpr ⟨hRow, hToken⟩]
      dsimp only
      rw [if_neg (by simp [hOpen]), if_neg (by simp [hAlive])]
      rfl

/-- What is found is the row that the token is good for. -/
theorem InStep.good_of_found (h : InStep env world) (hHash : world.NoCollision env raw)
    {record : SessionRecord} (hFound : world.found? env (some raw) = some record) :
    ∃ row, world.IsGoodFor env (Js.trim raw) row ∧ record.id = row.id := by
  -- A row under the hash of the text has the text for its latest token.
  have hLatest : ∀ row ∈ world.store.sessions.rows, row.tokenHash = env.hashSessionToken raw →
      world.lastIssued? row.id = some (Js.trim raw) := by
    intro row hRow hSame
    obtain ⟨latest, hLast, hToken⟩ := h.coupled.tokens row hRow
    obtain ⟨pair, hPair, hRaw⟩ := Option.map_eq_some_iff.mp hLast
    have hIssued := hHash pair (List.mem_of_find?_eq_some hPair)
      ((congrArg env.hashSessionToken hRaw).trans (hToken.symm.trans hSame))
    rw [hLast, ← hRaw, hIssued]
  simp only [SessionWorld.found?, SessionCalls.findValidSession] at hFound
  cases hPresented : SessionService.presented (some raw) with
  | none =>
      rw [hPresented] at hFound
      cases hFound
  | some given =>
      obtain ⟨hGiven, -⟩ := Option.filter_eq_some_iff.mp hPresented
      obtain rfl := Option.some.inj hGiven
      rw [hPresented] at hFound
      dsimp only at hFound
      cases hCached : world.store.cached? (env.hashSessionToken raw) world.now with
      | some entry =>
          obtain ⟨row, hRow, hMirrors⟩ := h.coupled.cache _ entry hCached
          rw [hCached] at hFound
          dsimp only at hFound
          split_ifs at hFound with hExpired
          rw [hMirrors.expiresAt, hMirrors.lastActiveAt, hMirrors.createdAt] at hExpired
          obtain ⟨hExpires, hActive, hYoung⟩ :=
            isExpired_eq_false_iff.mp (Bool.eq_false_iff.mpr hExpired)
          cases hFound
          exact ⟨row, ⟨hRow, hLatest row hRow hMirrors.tokenHash, hMirrors.notRevoked, hExpires,
            hActive, hYoung⟩, hMirrors.id⟩
      | none =>
          rw [hCached] at hFound
          dsimp only at hFound
          cases hRead : world.store.byTokenHash? (env.hashSessionToken raw) with
          | none =>
              rw [hRead] at hFound
              cases hFound
          | some row =>
              obtain ⟨hRow, hToken⟩ := byTokenHash?_iff.mp hRead
              rw [hRead] at hFound
              dsimp only at hFound
              split_ifs at hFound with hRevoked hExpired
              obtain ⟨hExpires, hActive, hYoung⟩ :=
                isExpired_eq_false_iff.mp (Bool.eq_false_iff.mpr hExpired)
              cases hFound
              exact ⟨row, ⟨hRow, hLatest row hRow hToken,
                Option.not_isSome_iff_eq_none.mp hRevoked, hExpires, hActive, hYoung⟩, rfl⟩

end Runs

/-- A text is taken for a token as if there were no cache. -/
structure IsTransparent (env : SessionEnv) (world : SessionWorld) (raw : String) : Prop where
  accepted_iff : (∃ record, world.found? env (some raw) = some record) ↔
    ∃ row, world.IsGoodFor env (Js.trim raw) row
  uncached : ∀ evicted, ((world.happen env (.evict evicted)).found? env (some raw)).map
    SessionRecord.plain = (world.found? env (some raw)).map SessionRecord.plain
  only : ∀ other record record', world.NoCollision env other →
    world.found? env (some raw) = some record → world.found? env (some other) = some record' →
    record'.id = record.id → Js.trim other = Js.trim raw

/-- After any calls that do not overlap, with time passing and entries of the cache
evicted in between: a text is accepted exactly if, without the blanks around it,
it is the most recent token of a session that is alive, with the cache or without;
and no two tokens are accepted for one session. -/
theorem session_cache_transparent (env : SessionEnv) (now : Timestamp) (events : List SessionEvent)
    (raw : String)
    (hHash : (run (SessionWorld.happen env) (.empty now) events).NoCollision env raw) :
    IsTransparent env (run (SessionWorld.happen env) (.empty now) events) raw := by
  have h := inStep_run env now events
  generalize run (SessionWorld.happen env) (.empty now) events = world at hHash h
  constructor
  · constructor
    · rintro ⟨record, hFound⟩
      obtain ⟨row, hGood, -⟩ := h.good_of_found hHash hFound
      exact ⟨row, hGood⟩
    · rintro ⟨row, hGood⟩
      obtain ⟨record, hFound, -⟩ := Option.map_eq_some_iff.mp (h.found_of_good hGood)
      exact ⟨record, hFound⟩
  · intro evicted
    have hEvicted := h.happen (.evict evicted)
    -- What a token is good for does not look at the cache.
    have hSame : ∀ row, (world.happen env (.evict evicted)).IsGoodFor env (Js.trim raw) row ↔
        world.IsGoodFor env (Js.trim raw) row :=
      fun row => ⟨fun hGood => ⟨hGood.1, hGood.2, hGood.3, hGood.4, hGood.5, hGood.6⟩,
        fun hGood => ⟨hGood.1, hGood.2, hGood.3, hGood.4, hGood.5, hGood.6⟩⟩
    by_cases hGood : ∃ row, world.IsGoodFor env (Js.trim raw) row
    · obtain ⟨row, hGood⟩ := hGood
      rw [h.found_of_good hGood, hEvicted.found_of_good ((hSame row).mpr hGood)]
    · have hNone : world.found? env (some raw) = none := by
        by_contra hSome
        obtain ⟨record, hFound⟩ := Option.ne_none_iff_exists'.mp hSome
        obtain ⟨row, hRow, -⟩ := h.good_of_found hHash hFound
        exact hGood ⟨row, hRow⟩
      have hNone' : (world.happen env (.evict evicted)).found? env (some raw) = none := by
        by_contra hSome
        obtain ⟨record, hFound⟩ := Option.ne_none_iff_exists'.mp hSome
        obtain ⟨row, hRow, -⟩ := hEvicted.good_of_found hHash hFound
        exact hGood ⟨row, (hSame row).mp hRow⟩
      rw [hNone, hNone']
  · intro other record record' hHash' hFound hFound' hSame
    obtain ⟨row, hGood, hId⟩ := h.good_of_found hHash hFound
    obtain ⟨row', hGood', hId'⟩ := h.good_of_found hHash' hFound'
    have hRows : row'.id = row.id := hId'.symm.trans (hSame.trans hId)
    have hLatest := hGood'.latest
    rw [hRows, hGood.latest] at hLatest
    exact (Option.some.inj hLatest).symm

namespace Sample

def firstToken : SessionToken :=
  ⟨"AAAAAAAAAAAAAAAAAAAAAAAAAAAAAAAAAAAAAAAAAAA", by decide, by decide⟩

/-- A login. -/
def loggedIn : SessionWorld :=
  run (SessionWorld.happen sessionEnv) (.empty 0) [.login 1 3 firstToken none none, .wait 1000]

end Sample

theorem session_cache_transparent_login :
    Sample.loggedIn.NoCollision Sample.sessionEnv Sample.firstToken.raw ∧
      IsTransparent Sample.sessionEnv Sample.loggedIn Sample.firstToken.raw := by
  have hHash : Sample.loggedIn.NoCollision Sample.sessionEnv Sample.firstToken.raw := by
    intro pair hPair _
    have hOnly : Sample.loggedIn.handedOut = [(1, Sample.firstToken.raw)] := by rfl
    rw [hOnly] at hPair
    obtain rfl := List.mem_singleton.mp hPair
    exact Sample.firstToken.trim_raw.symm
  exact ⟨hHash, session_cache_transparent Sample.sessionEnv 0 _ Sample.firstToken.raw hHash⟩

/-- A text that is not the token, with blanks around it, is accepted for it. -/
theorem padded_token_is_accepted :
    ¬ ((∃ record, Sample.loggedIn.found? Sample.sessionEnv
        (some (" " ++ Sample.firstToken.raw)) = some record) ↔
      ∃ row, Sample.loggedIn.IsGoodFor Sample.sessionEnv (" " ++ Sample.firstToken.raw) row) := by
  intro h
  have hFound : (Sample.loggedIn.found? Sample.sessionEnv
      (some (" " ++ Sample.firstToken.raw))).isSome = true := by decide +kernel
  obtain ⟨row, hGood⟩ := h.mp (Option.isSome_iff_exists.mp hFound)
  have hIssued : Sample.loggedIn.handedOut = [(1, Sample.firstToken.raw)] := by rfl
  obtain ⟨pair, hPair, hRaw⟩ := Option.map_eq_some_iff.mp hGood.latest
  have hMem := List.mem_of_find?_eq_some hPair
  rw [hIssued] at hMem
  obtain rfl := List.mem_singleton.mp hMem
  exact absurd hRaw (by decide)

end PropertyTax
