import PropertyTax.Sessions.SessionSteps

/-! What revoking a session guarantees. The cache is believed without a look at
`revokedAt`, so a session stays away only if nothing writes it to the cache behind
the back of a revocation. -/
namespace PropertyTax
open KeyedTable Runs

/-! ### The condition -/

/-- The call revokes the session of this row, if nothing comes between. -/
def SessionCall.Revokes (env : SessionEnv) (call : SessionCall) (row : SessionRow) : Prop :=
  row.revokedAt = none ∧
    match call with
    | .authenticate _ _ => False
    | .deleteSessionByToken rawToken =>
        ∃ raw, SessionService.presented rawToken = some raw ∧
          row.tokenHash = env.hashSessionToken raw
    | .deleteSessionById sessionId userId => row.id = sessionId ∧ row.userId = userId
    | .revokeAllUserSessions userId exceptSessionId =>
        row.userId = userId ∧ some row.id ≠ exceptSessionId

section Phases
variable {Process : Type} {env : SessionEnv} {calls : Process → SessionCall}
  {system : System Process SessionProgress SessionState} {turn : SessionTurn Process}

/-- No access for a session comes at the wrong moment of a revocation of it. -/
structure InTime (env : SessionEnv) (calls : Process → SessionCall)
    (system : System Process SessionProgress SessionState) (turn : SessionTurn Process) : Prop where
  /-- A cache entry is written under the current token of a row that is not revoked, and
  before a running revocation drops it. -/
  writes : ∀ record, (system.locals turn.process).writes? turn.now = some record →
    ∃ row ∈ system.shared.sessions.rows, row.id = record.id ∧ row.revokedAt = none ∧
      row.tokenHash = env.hashSessionToken record.rawToken ∧
      ∀ other pending, system.locals other = .deleting pending →
        (calls other).Revokes env row → row.tokenHash ∈ pending
  /-- No token is replaced during a revocation. -/
  rotates : ∀ record, (system.locals turn.process).rotates? turn.now = some record →
    ∀ row ∈ system.shared.sessions.rows, row.id = record.id →
      ∀ other pending, system.locals other = .deleting pending → ¬ (calls other).Revokes env row
  /-- A revocation begins when the only entry of the session is under its current token. -/
  begins : system.locals turn.process = .waiting → ∀ row ∈ system.shared.sessions.rows,
    (calls turn.process).Revokes env row → ∀ tokenHash entry,
      system.shared.cache tokenHash = some entry → entry.sessionId = row.id →
        tokenHash = row.tokenHash

/-- The revocation is under way: what it has not dropped yet are the only entries of
the session, and its last access will revoke the row, if nothing has. -/
def UnderWay (env : SessionEnv) (calls : Process → SessionCall) (process : Process) (id : Id)
    (system : System Process SessionProgress SessionState) : Prop :=
  ∃ pending, system.locals process = .deleting pending ∧
    (∃ row ∈ system.shared.sessions.rows, row.id = id ∧
      (row.revokedAt = none → (calls process).Revokes env row)) ∧
    ∀ tokenHash entry, system.shared.cache tokenHash = some entry → entry.sessionId = id →
      tokenHash ∈ pending

/-- The session is revoked, and not in the cache. -/
def Gone (id : Id) (state : SessionState) : Prop :=
  (∃ row ∈ state.sessions.rows, row.id = id ∧ row.revokedAt ≠ none) ∧
    ∀ tokenHash entry, state.cache tokenHash = some entry → entry.sessionId ≠ id

variable [DecidableEq Process]

/-- What a turn keeps of the sessions. -/
theorem takeTurn_kept (env : SessionEnv) (calls : Process → SessionCall)
    (system : System Process SessionProgress SessionState)
    (turn : SessionTurn Process) :
    StoreKept env (WritesNext turn.now (system.locals turn.process))
      (RotatesNext env (calls turn.process) turn.now (system.locals turn.process)) system.shared
      (takeTurn env calls system turn).shared :=
  sessionStep_kept turn.process (system.locals turn.process) system.shared

/-- What is gone stays gone: the row is not written to the cache again. -/
theorem Gone.step {id : Id} (h : Gone id system.shared) (hInTime : InTime env calls system turn) :
    Gone id (takeTurn env calls system turn).shared := by
  obtain ⟨⟨row, hRow, hId, hRevoked⟩, hCache⟩ := h
  have hKept := takeTurn_kept env calls system turn
  refine ⟨?_, fun tokenHash entry hEntry hSession => ?_⟩
  · obtain ⟨row', hRow', hSame⟩ := hKept.rows row hRow
    exact ⟨row', hRow', hSame.id.trans hId, hSame.revoked hRevoked⟩
  · rcases hKept.cache tokenHash entry hEntry with hOld | ⟨record, ⟨next, hNext, hNextId, -⟩, -, hOf⟩
    · exact hCache tokenHash entry hOld hSession
    · obtain ⟨current, hCurrent, hCurrentId, hNone, -⟩ := hInTime.writes next hNext
      have hSame : current = row := eq_of_key hCurrent hRow
        (hCurrentId.trans (hNextId.symm.trans (hOf.symm.trans (hSession.trans hId.symm))))
      exact hRevoked (hSame ▸ hNone)

/-- A call revokes a row as long as its id, user and token stay. -/
theorem SessionCall.Revokes.kept {call : SessionCall} {row row' : SessionRow}
    (h : call.Revokes env row) (hId : row'.id = row.id) (hUser : row'.userId = row.userId)
    (hToken : row'.tokenHash = row.tokenHash) (hNone : row'.revokedAt = none) :
    call.Revokes env row' := by
  refine ⟨hNone, ?_⟩
  rw [hId, hUser, hToken]
  exact h.2

omit [DecidableEq Process] in
/-- A session that is meant is revoked. -/
theorem mem_revokeWhere {state : SessionState} {p : SessionRow → Bool} {now : Timestamp}
    {row : SessionRow} (hRow : row ∈ state.sessions.rows) (hp : p row = true)
    (hNone : row.revokedAt = none) :
    { row with revokedAt := some now } ∈ (state.revokeWhere p now).sessions.rows := by
  refine List.mem_map.mpr ⟨row, hRow, ?_⟩
  exact if_pos ⟨hp, hNone⟩

/-- The last access of a revocation leaves the row revoked. -/
theorem revoke_revokes {call : SessionCall} {state : SessionState} {now : Timestamp}
    {row : SessionRow} (hRow : row ∈ state.sessions.rows) (h : call.Revokes env row) :
    ∃ row' ∈ (SessionService.revoke env call now state).sessions.rows,
      row'.id = row.id ∧ row'.revokedAt ≠ none := by
  obtain ⟨hNone, hCall⟩ := h
  cases call with
  | authenticate rawToken generated => exact hCall.elim
  | deleteSessionByToken rawToken =>
      obtain ⟨raw, hPresented, hToken⟩ := hCall
      rw [SessionService.revoke, hPresented]
      exact ⟨_, mem_revokeWhere hRow (decide_eq_true hToken) hNone, rfl, Option.some_ne_none _⟩
  | deleteSessionById sessionId userId =>
      obtain ⟨hId, -⟩ := hCall
      rw [SessionService.revoke, SessionState.revokeById]
      cases hUpdate : state.sessions.update sessionId
          (fun row => { row with revokedAt := some now }) with
      | error refusal =>
          have hApart : ∀ other ∈ state.sessions.rows, other ≠ row →
              KeyedRow.clash other { row with revokedAt := some now } = false := by
            intro other hOther hne
            by_contra hClash
            exact hne (eq_of_clash hOther hRow (Bool.not_eq_false _ ▸ hClash))
          obtain ⟨sessions, hOk⟩ := update_isOk (f := fun row : SessionRow =>
            { row with revokedAt := some now }) hRow hId hApart
          rw [hOk] at hUpdate
          cases hUpdate
      | ok sessions =>
          refine ⟨{ row with revokedAt := some now }, ?_, rfl, Option.some_ne_none _⟩
          exact (mem_update hUpdate _).mpr (.inr ⟨row, hRow, hId, rfl⟩)
  | revokeAllUserSessions userId exceptSessionId =>
      exact ⟨_, mem_revokeWhere hRow (decide_eq_true hCall) hNone, rfl, Option.some_ne_none _⟩

/-- A step of another call. -/
theorem UnderWay.step_other {process : Process} {id : Id} (h : UnderWay env calls process id system)
    (hInTime : InTime env calls system turn) (hOther : process ≠ turn.process) :
    UnderWay env calls process id (takeTurn env calls system turn) := by
  obtain ⟨pending, hLocal, ⟨row, hRow, rfl, hRevokes⟩, hCache⟩ := h
  have hKept := takeTurn_kept env calls system turn
  obtain ⟨row', hRow', hSame⟩ := hKept.rows row hRow
  refine ⟨pending, ?_, ⟨row', hRow', hSame.id, fun hNone => ?_⟩,
    fun tokenHash entry hEntry hSession => ?_⟩
  · rw [takeTurn, fire_locals_of_ne system hOther]
    exact hLocal
  · have hBefore := hRevokes (not_not.mp fun hRevoked => hSame.revoked hRevoked hNone)
    have hToken : row'.tokenHash = row.tokenHash := by
      rcases hSame.tokenHash with hToken | ⟨⟨record, _, _, hRotates, hRecord, _⟩, -⟩
      · exact hToken
      · exact absurd hBefore
          (hInTime.rotates record hRotates row hRow hRecord.symm process pending hLocal)
    exact hBefore.kept hSame.id hSame.userId hToken hNone
  · rcases hKept.cache tokenHash entry hEntry with
      hOld | ⟨record, ⟨next, hNext, hNextId, hRaw⟩, hHash, hOf⟩
    · exact hCache tokenHash entry hOld hSession
    · obtain ⟨current, hCurrent, hCurrentId, hNone, hToken, hPending⟩ := hInTime.writes next hNext
      obtain rfl : current = row := eq_of_key hCurrent hRow
        (hCurrentId.trans (hNextId.symm.trans (hOf.symm.trans hSession)))
      rw [hHash, hRaw, ← hToken]
      exact hPending process pending hLocal (hRevokes hNone)

/-- A step of the revocation itself. -/
theorem UnderWay.step_self {id : Id} (h : UnderWay env calls turn.process id system) :
    UnderWay env calls turn.process id (takeTurn env calls system turn) ∨
      Gone id (takeTurn env calls system turn).shared ∧
        (takeTurn env calls system turn).locals turn.process = .finished := by
  obtain ⟨pending, hLocal, ⟨row, hRow, rfl, hRevokes⟩, hCache⟩ := h
  cases pending with
  | cons dropped rest =>
      refine .inl ⟨rest, ?_, ?_, fun tokenHash entry hEntry hSession => ?_⟩
      · rw [takeTurn, fire_locals_self, hLocal, sessionStep]
      · rw [takeTurn, fire_shared, hLocal, sessionStep]
        exact ⟨row, hRow, rfl, hRevokes⟩
      · rw [takeTurn, fire_shared, hLocal, sessionStep] at hEntry
        by_cases hDropped : tokenHash = dropped
        · subst hDropped
          simp [SessionState.deleteCache] at hEntry
        · have hOld : system.shared.cache tokenHash = some entry := by
            simpa [SessionState.deleteCache, hDropped] using hEntry
          exact (List.mem_cons.mp (hCache tokenHash entry hOld hSession)).resolve_left hDropped
  | nil =>
      have hKept : StoreKept env (fun _ => False) (fun _ _ => False) system.shared
          (SessionService.revoke env (calls turn.process) turn.now system.shared) := revoke_kept _
      refine .inr ⟨⟨?_, fun tokenHash entry hEntry hSession => ?_⟩, ?_⟩
      · rw [takeTurn, fire_shared, hLocal, sessionStep]
        by_cases hNone : row.revokedAt = none
        · exact revoke_revokes hRow (hRevokes hNone)
        · obtain ⟨row', hRow', hSame⟩ := hKept.rows row hRow
          exact ⟨row', hRow', hSame.id, hSame.revoked hNone⟩
      · rw [takeTurn, fire_shared, hLocal, sessionStep] at hEntry
        rcases hKept.cache tokenHash entry hEntry with hOld | ⟨record, hFalse, -⟩
        · cases hCache tokenHash entry hOld hSession
        · exact hFalse
      · rw [takeTurn, fire_locals_self, hLocal, sessionStep]

/-- The first access of a revocation. -/
theorem underWay_of_begin {row : SessionRow} (hRow : row ∈ system.shared.sessions.rows)
    (hWaiting : system.locals turn.process = .waiting)
    (hRevokes : (calls turn.process).Revokes env row) (hInTime : InTime env calls system turn) :
    UnderWay env calls turn.process row.id (takeTurn env calls system turn) := by
  have hEntries := hInTime.begins hWaiting row hRow hRevokes
  have hTurn : takeTurn env calls system turn =
      ⟨(SessionService.beginRevocation env (calls turn.process) system.shared).2,
        Function.update system.locals turn.process
          (SessionService.beginRevocation env (calls turn.process) system.shared).1⟩ := by
    rw [takeTurn, fire, hWaiting, sessionStep]
    cases hCall : calls turn.process with
    | authenticate rawToken generated =>
        rw [hCall] at hRevokes
        exact hRevokes.2.elim
    | _ => rfl
  rw [hTurn]
  have hKept := hRevokes
  obtain ⟨hNone, hCovers⟩ := hRevokes
  cases hCall : calls turn.process with
  | authenticate rawToken generated =>
      rw [hCall] at hCovers
      exact hCovers.elim
  | deleteSessionByToken rawToken =>
      rw [hCall] at hCovers
      obtain ⟨raw, hPresented, hToken⟩ := hCovers
      simp only [SessionService.beginRevocation, hPresented]
      refine ⟨[], Function.update_self _ _ _, ⟨row, hRow, rfl, fun _ => hKept⟩,
        fun tokenHash entry hEntry hSession => ?_⟩
      by_cases hDropped : tokenHash = env.hashSessionToken raw
      · subst hDropped
        simp [SessionState.deleteCache] at hEntry
      · have hOld : system.shared.cache tokenHash = some entry := by
          simpa [SessionState.deleteCache, hDropped] using hEntry
        exact absurd ((hEntries tokenHash entry hOld hSession).trans hToken) hDropped
  | deleteSessionById sessionId userId =>
      rw [hCall] at hCovers
      have hFound : system.shared.sessions.findFirst? (fun r =>
          r.id = sessionId ∧ r.userId = userId ∧ r.revokedAt = none) = some row := by
        refine findFirst?_eq_some_of_mem hRow (by simp [hCovers, hNone]) fun other hOther hFits => ?_
        have hOtherId : other.id = sessionId := (of_decide_eq_true hFits).1
        exact eq_of_key hOther hRow (hOtherId.trans hCovers.1.symm)
      simp only [SessionService.beginRevocation, hFound]
      refine ⟨[row.tokenHash], Function.update_self _ _ _, ⟨row, hRow, rfl, fun _ => hKept⟩,
        fun tokenHash entry hEntry hSession => ?_⟩
      exact List.mem_singleton.mpr (hEntries tokenHash entry hEntry hSession)
  | revokeAllUserSessions userId exceptSessionId =>
      rw [hCall] at hCovers
      refine ⟨_, Function.update_self _ _ _, ⟨row, hRow, rfl, fun _ => hKept⟩,
        fun tokenHash entry hEntry hSession => ?_⟩
      rw [hEntries tokenHash entry hEntry hSession]
      refine List.mem_map_of_mem (List.mem_filter.mpr ⟨hRow, decide_eq_true ?_⟩)
      exact ⟨hCovers.1, hNone, hCovers.2⟩

end Phases

/-! ### Runs -/

/-- Tokens are issued for one session, and what the store and the calls hold was
issued. -/
structure TokensKnown (env : SessionEnv) {Process : Type}
    (system : System Process SessionProgress SessionState) : Prop where
  unique : ∀ id id' tokenHash, (id, tokenHash) ∈ system.shared.issued →
    (id', tokenHash) ∈ system.shared.issued → id = id'
  rows : ∀ row ∈ system.shared.sessions.rows, (row.id, row.tokenHash) ∈ system.shared.issued
  cache : ∀ tokenHash entry, system.shared.cache tokenHash = some entry →
    (entry.sessionId, tokenHash) ∈ system.shared.issued
  records : ∀ process record, (system.locals process).record? = some record →
    (record.id, env.hashSessionToken record.rawToken) ∈ system.shared.issued

/-- The generated token was never issued before. -/
def FreshToken (env : SessionEnv) {Process : Type} (calls : Process → SessionCall)
    (system : System Process SessionProgress SessionState) (turn : SessionTurn Process) : Prop :=
  ∀ id tokenHash, RotatesNext env (calls turn.process) turn.now (system.locals turn.process)
    id tokenHash → ∀ other, (other, tokenHash) ∉ system.shared.issued

section Runs
variable {Process : Type} [DecidableEq Process] {env : SessionEnv} {calls : Process → SessionCall}
  {system : System Process SessionProgress SessionState} {turn : SessionTurn Process}

/-- White space around a token does not count. -/
theorem hashSessionToken_trim (raw : String) :
    env.hashSessionToken (Js.trim raw) = env.hashSessionToken raw := by
  simp only [SessionEnv.hashSessionToken, hashOpaqueToken, Js.trim_trim]

/-- A turn rotates one session to one token. -/
theorem RotatesNext.unique {call : SessionCall} {now : Timestamp} {progress : SessionProgress}
    {id id' : Id} {tokenHash tokenHash' : String}
    (h : RotatesNext env call now progress id tokenHash)
    (h' : RotatesNext env call now progress id' tokenHash') : id = id' ∧ tokenHash = tokenHash' := by
  obtain ⟨record, rawToken, generated, hRecord, rfl, rfl, rfl⟩ := h
  obtain ⟨record', rawToken', generated', hRecord', rfl, hCall, rfl⟩ := h'
  rw [hRecord] at hRecord'
  cases hRecord'
  cases hCall
  exact ⟨rfl, rfl⟩

theorem TokensKnown.step (h : TokensKnown env system) (hFresh : FreshToken env calls system turn) :
    TokensKnown env (takeTurn env calls system turn) := by
  have hKept := takeTurn_kept env calls system turn
  refine ⟨fun id id' tokenHash hOf hOf' => ?_, fun row' hRow' => ?_,
    fun tokenHash entry hEntry => ?_, fun process record hRecord => ?_⟩
  · rcases hKept.newIssued _ hOf with hOld | hNew
    · rcases hKept.newIssued _ hOf' with hOld' | hNew'
      · exact h.unique id id' tokenHash hOld hOld'
      · exact absurd hOld (hFresh _ _ hNew' id)
    · rcases hKept.newIssued _ hOf' with hOld' | hNew'
      · exact absurd hOld' (hFresh _ _ hNew id')
      · exact (hNew.unique hNew').1
  · obtain ⟨row, hRow, hSame⟩ := hKept.oldRow row' hRow'
    rw [hSame.id]
    rcases hSame.tokenHash with hToken | ⟨-, hIssued⟩
    · rw [hToken]
      exact hKept.issued _ (h.rows row hRow)
    · exact hIssued
  · rcases hKept.cache tokenHash entry hEntry with
      hOld | ⟨record, ⟨next, hNext, hId, hRaw⟩, rfl, hOf⟩
    · exact hKept.issued _ (h.cache tokenHash entry hOld)
    · rw [hOf, hId, hRaw]
      exact hKept.issued _ (h.records turn.process next (SessionProgress.record?_of_writes? hNext))
  · by_cases hOther : process = turn.process
    · subst hOther
      rw [takeTurn, fire_locals_self] at hRecord
      cases sessionStep_origin hRecord with
      | held old hOld hId hRaw =>
          rw [hId, hRaw]
          exact hKept.issued _ (h.records turn.process old hOld)
      | cached raw entry _ hEntry hFrom =>
          rw [hFrom, CachedSession.toRecord, hashSessionToken_trim]
          exact hKept.issued _ (h.cache _ entry hEntry)
      | read raw row _ hRow hToken _ hFrom =>
          rw [hFrom, SessionRow.toRecord, hashSessionToken_trim, ← hToken]
          exact hKept.issued _ (h.rows row hRow)
      | rotated old _ _ hIssued => exact hIssued
    · rw [takeTurn, fire_locals_of_ne system hOther] at hRecord
      exact hKept.issued _ (h.records process record hRecord)

/-- Up to the end of `findValidSession`, a call works on the token it was given. -/
def TokenPresented (env : SessionEnv) (call : SessionCall) : SessionProgress → Prop
  | .missed raw => call.Presents raw
  | .caching record => ∃ raw, call.Presents raw ∧
      env.hashSessionToken record.rawToken = env.hashSessionToken raw
  | .found record => ∃ raw, call.Presents raw ∧
      env.hashSessionToken record.rawToken = env.hashSessionToken raw
  | _ => True

/-- Looking up holds the token that was presented. -/
theorem lookUp_presented {rawToken : Option String} {generated : String} {now : Timestamp}
    {state : SessionState} : TokenPresented env (.authenticate rawToken generated)
      (SessionService.lookUp env rawToken now state) := by
  unfold SessionService.lookUp
  split
  · trivial
  · rename_i raw hPresented
    have hGiven : (SessionCall.authenticate rawToken generated).Presents raw :=
      ⟨rawToken, generated, rfl, hPresented⟩
    dsimp only
    split
    · exact hGiven
    · split_ifs
      · trivial
      · exact ⟨raw, hGiven, hashSessionToken_trim raw⟩

/-- Reading the row holds the token that was presented. -/
theorem readRow_presented {call : SessionCall} {raw : String} {now : Timestamp}
    {state : SessionState} (h : call.Presents raw) :
    TokenPresented env call (SessionService.readRow env raw now state) := by
  unfold SessionService.readRow
  split
  · trivial
  · split_ifs
    · trivial
    · trivial
    · exact ⟨raw, h, hashSessionToken_trim raw⟩

/-- A revocation holds no token that was not presented. -/
theorem beginRevocation_presented {call : SessionCall} {state : SessionState} :
    TokenPresented env call (SessionService.beginRevocation env call state).1 := by
  unfold SessionService.beginRevocation
  split
  · trivial
  · split <;> trivial
  · split <;> trivial
  · trivial

/-- A refresh holds no token that was not presented. -/
theorem refresh_presented {call : SessionCall} {generated : String} {record : SessionRecord}
    {now : Timestamp} {state : SessionState} : TokenPresented env call
      (SessionService.refreshSessionIfNeeded env generated record now state).1 := by
  unfold SessionService.refreshSessionIfNeeded
  split_ifs
  · dsimp only
    split
    · trivial
    · split <;> trivial
  · trivial

omit [DecidableEq Process] in
/-- A step holds no token that was not presented. -/
theorem sessionStep_presented {process : Process} {progress : SessionProgress}
    {state : SessionState} {now : Timestamp} (h : TokenPresented env (calls process) progress) :
    TokenPresented env (calls process) (sessionStep env calls now process progress state).1 := by
  unfold sessionStep
  cases progress with
  | waiting =>
      dsimp only
      split
      · rename_i rawToken generated hCall
        rw [hCall]
        exact lookUp_presented
      · exact beginRevocation_presented
  | missed raw => exact readRow_presented h
  | caching record => exact h
  | found record =>
      dsimp only
      split
      · exact refresh_presented
      · trivial
  | touched record lastActiveAt last => cases last <;> trivial
  | deleting tokenHashes => cases tokenHashes <;> trivial
  | _ => trivial

/-- The call holds no record of this session, not even on its way to it. -/
def NotHeld (id : Id) (progress : SessionProgress) : Prop :=
  ∀ record, progress.record? = some record → record.id ≠ id

/-- Where the session is gone, no call finds it. -/
theorem NotHeld.step {id : Id} {process : Process} (h : NotHeld id (system.locals process))
    (hGone : Gone id system.shared) :
    NotHeld id ((takeTurn env calls system turn).locals process) := by
  intro record hRecord
  by_cases hOther : process = turn.process
  · subst hOther
    rw [takeTurn, fire_locals_self] at hRecord
    cases sessionStep_origin hRecord with
    | held old hOld hId _ => exact hId ▸ h old hOld
    | cached raw entry _ hEntry hFrom =>
        rw [hFrom]
        exact hGone.2 _ entry hEntry
    | read raw row _ hRow _ hNone hFrom =>
        rw [hFrom]
        intro hId
        obtain ⟨⟨stored, hStored, hStoredId, hRevoked⟩, -⟩ := hGone
        have hSame : row = stored := eq_of_key hRow hStored (hId.trans hStoredId.symm)
        exact hRevoked (hSame ▸ hNone)
    | rotated old hOld hId _ => exact hId ▸ h old hOld
  · rw [takeTurn, fire_locals_of_ne system hOther] at hRecord
    exact h record hRecord

/-- From its first access on, a revocation is under way or has ended with the session
gone. -/
theorem underWay_or_gone_run {process : Process} {id : Id} {turns : List (SessionTurn Process)}
    (hAlong : Along (takeTurn env calls) (InTime env calls) system turns)
    (hStart : UnderWay env calls process id system) :
    UnderWay env calls process id (run (takeTurn env calls) system turns) ∨
      Gone id (run (takeTurn env calls) system turns).shared := by
  refine run_invariant_along
    (fun system => UnderWay env calls process id system ∨ Gone id system.shared) ?_
    (.inl hStart) hAlong
  rintro system turn (hUnderWay | hGone) hInTime
  · by_cases hOther : process = turn.process
    · subst hOther
      exact hUnderWay.step_self.imp_right And.left
    · exact .inl (hUnderWay.step_other hInTime hOther)
  · exact .inr (hGone.step hInTime)

end Runs

/-- No call has begun. -/
def noSessionCall {Process : Type} (state : SessionState) :
    System Process SessionProgress SessionState :=
  { shared := state, locals := fun _ => .waiting }

/-- Along any run, a call holds no token that was not presented. -/
theorem tokenPresented_run {Process : Type} [DecidableEq Process] {env : SessionEnv}
    {calls : Process → SessionCall} {state : SessionState} (process : Process)
    (turns : List (SessionTurn Process)) : TokenPresented env (calls process)
      ((run (takeTurn env calls) (noSessionCall state) turns).locals process) := by
  have hStart : TokenPresented env (calls process)
      ((noSessionCall state : System Process SessionProgress SessionState).locals process) := trivial
  refine run_invariant
    (fun system : System Process SessionProgress SessionState =>
      TokenPresented env (calls process) (system.locals process))
    (fun system turn h => ?_) hStart turns
  by_cases hOther : process = turn.process
  · subst hOther
    rw [takeTurn, fire_locals_self]
    exact sessionStep_presented h
  · rw [takeTurn, fire_locals_of_ne system hOther]
    exact h

/-- What the store holds was issued, each token for one session. -/
structure SessionState.Issued (state : SessionState) : Prop where
  unique : ∀ id id' tokenHash, (id, tokenHash) ∈ state.issued → (id', tokenHash) ∈ state.issued →
    id = id'
  rows : ∀ row ∈ state.sessions.rows, (row.id, row.tokenHash) ∈ state.issued
  cache : ∀ tokenHash entry, state.cache tokenHash = some entry →
    (entry.sessionId, tokenHash) ∈ state.issued

/-- Where all accesses come in time, and no generated token repeats an earlier one: once
a revocation has returned, a request that begins later finds neither the session nor
anything under a token that was ever issued for it. -/
theorem revocation_is_final {Process : Type} [DecidableEq Process] (env : SessionEnv)
    (calls : Process → SessionCall) (state : SessionState) (hIssued : state.Issued)
    (before middle after : List (SessionTurn Process)) (turn : SessionTurn Process)
    (hAlong : Along (takeTurn env calls)
      (fun system turn => InTime env calls system turn ∧ FreshToken env calls system turn)
      (noSessionCall state) (before ++ turn :: middle ++ after))
    (row : SessionRow) :
    let begun := run (takeTurn env calls) (noSessionCall state) before
    let returned := run (takeTurn env calls) (noSessionCall state) (before ++ turn :: middle)
    let final := run (takeTurn env calls) (noSessionCall state) (before ++ turn :: middle ++ after)
    row ∈ begun.shared.sessions.rows → begun.locals turn.process = .waiting →
      (calls turn.process).Revokes env row → returned.locals turn.process = .finished →
      ∀ process, returned.locals process = .waiting →
        ∀ record, final.locals process = .found record →
          record.id ≠ row.id ∧ ∀ raw, (calls process).Presents raw →
            (row.id, env.hashSessionToken raw) ∉ final.shared.issued := by
  intro begun returned final hRow hWaiting hRevokes hReturned process hLater record hFound
  obtain ⟨hFirst, hAfter⟩ := Along.append.mp hAlong
  obtain ⟨-, hTurn, hMiddle⟩ := Along.append.mp hFirst
  have hGone : Gone row.id returned.shared := by
    have hRun := underWay_or_gone_run (hMiddle.mono fun _ _ h => h.1)
      (underWay_of_begin hRow hWaiting hRevokes hTurn.1)
    rw [← run_cons, ← run_append] at hRun
    rcases hRun with ⟨pending, hPending, -⟩ | hGone
    · exact absurd (hReturned.symm.trans hPending) nofun
    · exact hGone
  have hNotHeld : Gone row.id final.shared ∧ NotHeld row.id (final.locals process) := by
    have hStart : NotHeld row.id (returned.locals process) := by
      intro held hHeld
      rw [hLater] at hHeld
      cases hHeld
    have hRun := run_invariant_along
      (fun system => Gone row.id system.shared ∧ NotHeld row.id (system.locals process))
      (fun system turn h hGuard => ⟨h.1.step hGuard.1, h.2.step h.1⟩) ⟨hGone, hStart⟩ hAfter
    rw [← run_append] at hRun
    exact hRun
  have hKnown : TokensKnown env final :=
    run_invariant_along (TokensKnown env) (fun system turn h hGuard => h.step hGuard.2)
      ⟨hIssued.unique, hIssued.rows, hIssued.cache, fun _ _ hRecord => by cases hRecord⟩ hAlong
  have hPresented : TokenPresented env (calls process) (final.locals process) :=
    tokenPresented_run process _
  have hHeld : (final.locals process).record? = some record := by rw [hFound]; rfl
  refine ⟨hNotHeld.2 record hHeld, fun raw hRaw hEver => ?_⟩
  rw [hFound] at hPresented
  obtain ⟨raw', hRaw', hHash⟩ := hPresented
  have hRecord := hKnown.records process record hHeld
  rw [hHash, hRaw'.unique hRaw] at hRecord
  exact hNotHeld.2 record hHeld (hKnown.unique _ _ _ hRecord hEver)

namespace Sample

/-- Sessions last half an hour without use. -/
def sessionEnv : SessionEnv := ⟨id, 1800, 604800⟩

def sessionRow (id : Id) (tokenHash : String) : SessionRow where
  id := id
  tokenHash := tokenHash
  userId := 3
  expiresAt := 604800000
  lastActiveAt := 0
  createdAt := 0

/-- Two sessions of a user, with the tokens in the cache. -/
def signedIn : SessionState where
  cache := fun tokenHash =>
    if tokenHash = "session:token" then some ⟨1, 3, 0, 0, 604800000, 1800000⟩
    else if tokenHash = "session:kept" then some ⟨2, 3, 0, 0, 604800000, 1800000⟩
    else none
  sessions := ⟨[sessionRow 1 "session:token", sessionRow 2 "session:kept"], by decide⟩
  issued := [(1, "session:token"), (2, "session:kept")]

/-- A logout with the first token, a request with the second, and two with the
first. -/
def requestsAndLogout (process : Nat) : SessionCall :=
  if process = 0 then .deleteSessionByToken (some "token")
  else if process = 1 then .authenticate (some "kept") "next"
  else .authenticate (some "token") "next"

/-- The calls after some turns, all in one second. -/
def afterTurns (processes : List Nat) : System Nat SessionProgress SessionState :=
  run (takeTurn sessionEnv requestsAndLogout) (noSessionCall signedIn)
    (processes.map fun process => ⟨process, 1000⟩)

theorem signedIn_issued : signedIn.Issued where
  unique id id' tokenHash h h' := by
    simp only [signedIn, List.mem_cons, Prod.mk.injEq, List.not_mem_nil, or_false] at h h'
    rcases h with ⟨rfl, rfl⟩ | ⟨rfl, rfl⟩
    · have hSame : id' = 1 := by simpa using h'
      exact hSame.symm
    · have hSame : id' = 2 := by simpa using h'
      exact hSame.symm
  rows := by decide
  cache tokenHash entry h := by
    simp only [signedIn] at h
    split_ifs at h with hFirst hSecond
    · cases h
      simp [signedIn, hFirst]
    · cases h
      simp [signedIn, hSecond]

/-- Every entry is under the token of its session. -/
theorem signedIn_entry {row : SessionRow} (hRow : row ∈ signedIn.sessions.rows)
    {tokenHash : String} {entry : CachedSession} (hEntry : signedIn.cache tokenHash = some entry)
    (hSession : entry.sessionId = row.id) : tokenHash = row.tokenHash := by
  simp only [signedIn, List.mem_cons, List.not_mem_nil, or_false] at hRow
  simp only [signedIn] at hEntry
  rcases hRow with rfl | rfl
  · split_ifs at hEntry with hFirst hSecond
    · exact hFirst
    · cases hEntry
      cases hSession
  · split_ifs at hEntry with hFirst hSecond
    · cases hEntry
      cases hSession
    · exact hSecond

end Sample

theorem revocation_is_final_other_session :
    (Sample.afterTurns [0, 0]).locals 0 = .finished ∧
      ((Sample.afterTurns [0, 0, 1]).locals 1).record?.map SessionRecord.id = some 2 ∧
      ∀ record, (Sample.afterTurns [0, 0, 1]).locals 1 = .found record →
        record.id ≠ 1 ∧ ∀ raw, (Sample.requestsAndLogout 1).Presents raw →
          (1, Sample.sessionEnv.hashSessionToken raw) ∉
            (Sample.afterTurns [0, 0, 1]).shared.issued := by
  refine ⟨rfl, by decide +kernel, ?_⟩
  have hRevokes : (Sample.requestsAndLogout 0).Revokes Sample.sessionEnv
      (Sample.sessionRow 1 "session:token") :=
    ⟨rfl, "token", by decide, by decide⟩
  refine revocation_is_final Sample.sessionEnv Sample.requestsAndLogout Sample.signedIn
    Sample.signedIn_issued [] [⟨0, 1000⟩] [⟨1, 1000⟩] ⟨0, 1000⟩ ?_
    (Sample.sessionRow 1 "session:token") List.mem_cons_self rfl hRevokes rfl 1 rfl
  refine ⟨⟨⟨?_, ?_, ?_⟩, ?_⟩, ⟨⟨?_, ?_, ?_⟩, ?_⟩, ⟨⟨?_, ?_, ?_⟩, ?_⟩, trivial⟩
  -- the logout begins
  · exact fun _ hWrites => by cases hWrites
  · exact fun _ hRotates => by cases hRotates
  · intro _ row hRow _ tokenHash entry hEntry hSession
    exact Sample.signedIn_entry hRow hEntry hSession
  · rintro _ _ ⟨_, _, _, hRotates, -⟩
    cases hRotates
  -- it ends
  · exact fun _ hWrites => by cases hWrites
  · exact fun _ hRotates => by cases hRotates
  · exact fun hWaiting => by cases hWaiting
  · rintro _ _ ⟨_, _, _, hRotates, -⟩
    cases hRotates
  -- the request begins
  · exact fun _ hWrites => by cases hWrites
  · exact fun _ hRotates => by cases hRotates
  · exact fun _ _ _ hCovers => hCovers.2.elim
  · rintro _ _ ⟨_, _, _, hRotates, -⟩
    cases hRotates

/-- A request finds the session, the logout empties the cache, the request touches the
session and so writes it back, and the logout marks the row: a request that begins when
the logout has returned finds the session. -/
theorem logged_out_session_comes_back :
    (Sample.afterTurns [2, 0, 2, 0]).locals 0 = .finished ∧
      (Sample.afterTurns [2, 0, 2, 0]).shared.sessions.rows.map SessionRow.revokedAt =
        [some 1000, none] ∧
      ((Sample.afterTurns [2, 0, 2, 0, 3]).locals 3).record?.map SessionRecord.id = some 1 := by
  refine ⟨?_, by decide +kernel, by decide +kernel⟩
  rfl

end PropertyTax
