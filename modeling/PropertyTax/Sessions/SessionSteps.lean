import PropertyTax.Sessions.SessionStore

/-! What one access of a session call does to the rows, to the cache and to the call
itself. -/
namespace PropertyTax
open KeyedTable Runs

/-! ### What a step does, by what the call holds -/

namespace SessionProgress

/-- The record of a call that has found a session, or is about to. -/
def record? : SessionProgress → Option SessionRecord
  | caching record => some record
  | found record => some record
  | touched record _ _ => some record
  | retouch record => some record
  | rotated _ record => some record
  | recaching record => some record
  | _ => none

/-- The record that the next access writes to the cache. -/
def writes? (now : Timestamp) : SessionProgress → Option SessionRecord
  | caching record => some record
  | found record => if needsRefresh now record then none else some record
  | retouch record => some record
  | recaching record => some record
  | _ => none

/-- The record whose token the next access replaces. -/
def rotates? (now : Timestamp) : SessionProgress → Option SessionRecord
  | found record => if needsRefresh now record then some record else none
  | _ => none

end SessionProgress

/-- What is written is what is held. -/
theorem SessionProgress.record?_of_writes? {now : Timestamp} {progress : SessionProgress}
    {record : SessionRecord} (h : progress.writes? now = some record) :
    progress.record? = some record := by
  cases progress with
  | found old =>
      rw [SessionProgress.writes?] at h
      split_ifs at h
      exact h
  | caching old => exact h
  | retouch old => exact h
  | recaching old => exact h
  | _ => cases h

/-- A row keeps its identity and stays revoked, and changes its token only to one that
a rotation issues. -/
structure RowKept (rotated : Id → String → Prop) (issued : List (Id × String))
    (row row' : SessionRow) : Prop where
  id : row'.id = row.id
  userId : row'.userId = row.userId
  revoked : row.revokedAt ≠ none → row'.revokedAt ≠ none
  tokenHash : row'.tokenHash = row.tokenHash ∨
    rotated row.id row'.tokenHash ∧ (row.id, row'.tokenHash) ∈ issued

/-- The rows are kept, and the entries of the cache are old or of one record. -/
structure StoreKept (env : SessionEnv) (written : SessionRecord → Prop)
    (rotated : Id → String → Prop) (state state' : SessionState) : Prop where
  mapped : ∃ data : SessionRow → SessionRow,
    state'.sessions.rows = state.sessions.rows.map data ∧
      ∀ row, RowKept rotated state'.issued row (data row)
  issued : ∀ pair ∈ state.issued, pair ∈ state'.issued
  newIssued : ∀ pair ∈ state'.issued, pair ∈ state.issued ∨ rotated pair.1 pair.2
  cache : ∀ tokenHash entry, state'.cache tokenHash = some entry →
    state.cache tokenHash = some entry ∨ ∃ record, written record ∧
      tokenHash = env.hashSessionToken record.rawToken ∧ entry.sessionId = record.id

section Kept
variable {env : SessionEnv} {written : SessionRecord → Prop} {rotated : Id → String → Prop}
  {issued : List (Id × String)} {state state' : SessionState} {now : Timestamp}

theorem RowKept.refl (row : SessionRow) : RowKept rotated issued row row :=
  ⟨rfl, rfl, fun h => h, .inl rfl⟩

/-- Every row before is kept by a row after. -/
theorem StoreKept.rows (h : StoreKept env written rotated state state') :
    ∀ row ∈ state.sessions.rows, ∃ row' ∈ state'.sessions.rows,
      RowKept rotated state'.issued row row' := by
  obtain ⟨data, hRows, hData⟩ := h.mapped
  intro row hRow
  exact ⟨data row, hRows ▸ List.mem_map_of_mem hRow, hData row⟩

/-- Every row after keeps a row before. -/
theorem StoreKept.oldRow (h : StoreKept env written rotated state state') :
    ∀ row' ∈ state'.sessions.rows, ∃ row ∈ state.sessions.rows,
      RowKept rotated state'.issued row row' := by
  obtain ⟨data, hRows, hData⟩ := h.mapped
  intro row' hRow'
  rw [hRows] at hRow'
  obtain ⟨row, hRow, rfl⟩ := List.mem_map.mp hRow'
  exact ⟨row, hRow, hData row⟩

/-- Only the rows change, and no token. -/
theorem storeKept_of_rows {sessions : KeyedTable SessionRow} {data : SessionRow → SessionRow}
    (hRows : sessions.rows = state.sessions.rows.map data)
    (hData : ∀ row, (data row).id = row.id ∧ (data row).userId = row.userId ∧
      (row.revokedAt ≠ none → (data row).revokedAt ≠ none) ∧
      (data row).tokenHash = row.tokenHash) :
    StoreKept env written rotated state { state with sessions } where
  mapped := ⟨data, hRows, fun row => by
    obtain ⟨hId, hUser, hRevoked, hToken⟩ := hData row
    exact ⟨hId, hUser, hRevoked, .inl hToken⟩⟩
  issued _ hPair := hPair
  newIssued _ hPair := .inl hPair
  cache _ _ hEntry := .inl hEntry

theorem StoreKept.refl (state : SessionState) : StoreKept env written rotated state state where
  mapped := ⟨id, (List.map_id _).symm, .refl⟩
  issued _ hPair := hPair
  newIssued _ hPair := .inl hPair
  cache _ _ hEntry := .inl hEntry

/-- Only the cache changes. -/
theorem storeKept_of_cache {cache : String → Option CachedSession}
    (hCache : ∀ tokenHash entry, cache tokenHash = some entry →
      state.cache tokenHash = some entry ∨ ∃ record, written record ∧
        tokenHash = env.hashSessionToken record.rawToken ∧ entry.sessionId = record.id) :
    StoreKept env written rotated state { state with cache } where
  mapped := ⟨id, (List.map_id _).symm, .refl⟩
  issued _ hPair := hPair
  newIssued _ hPair := .inl hPair
  cache := hCache

/-- Deleting an entry keeps the store. -/
theorem deleteCache_kept (tokenHash : String) :
    StoreKept env written rotated state (state.deleteCache tokenHash) := by
  refine storeKept_of_cache fun other entry hEntry => .inl ?_
  by_cases hOther : other = tokenHash
  · subst hOther
    simp at hEntry
  · simpa [hOther] using hEntry

/-- Writing a record that may be written keeps the store. -/
theorem writeCache_kept {record : SessionRecord} (hWritten : written record) :
    StoreKept env written rotated state (state.writeCache env now record) := by
  refine storeKept_of_cache fun other entry hEntry => ?_
  by_cases hOther : other = env.hashSessionToken record.rawToken
  · subst hOther
    refine .inr ⟨record, hWritten, rfl, ?_⟩
    simp only [Function.update_self, Option.some.injEq] at hEntry
    rw [← hEntry]
  · refine .inl ?_
    simpa [hOther] using hEntry

/-- Revoking sessions keeps the store. -/
theorem revokeWhere_kept (p : SessionRow → Bool) :
    StoreKept env written rotated state (state.revokeWhere p now) := by
  refine storeKept_of_rows rfl fun row => ?_
  unfold SessionState.revokeIf
  split_ifs
  · exact ⟨rfl, rfl, fun _ => Option.some_ne_none _, rfl⟩
  · exact ⟨rfl, rfl, fun h => h, rfl⟩

/-- An update by id that keeps the tokens. -/
theorem update_kept {id : Id} {data : SessionRow → SessionRow} {sessions : KeyedTable SessionRow}
    (h : state.sessions.update id data = .ok sessions)
    (hData : ∀ row, (data row).id = row.id ∧ (data row).userId = row.userId ∧
      (row.revokedAt ≠ none → (data row).revokedAt ≠ none) ∧
      (data row).tokenHash = row.tokenHash) :
    StoreKept env written rotated state { state with sessions } := by
  refine storeKept_of_rows (update_rows h) fun row => ?_
  split_ifs
  · exact hData row
  · exact ⟨rfl, rfl, fun h => h, rfl⟩

/-- Touching a session keeps the store. -/
theorem touchRow_kept (id : Id) (lastActiveAt : Timestamp) :
    StoreKept env written rotated state (state.touchRow id lastActiveAt) := by
  unfold SessionState.touchRow
  cases hUpdate : state.sessions.update id (SessionState.touch lastActiveAt) with
  | error refusal => exact .refl state
  | ok sessions => exact update_kept hUpdate fun row => ⟨rfl, rfl, fun h => h, rfl⟩

/-- Revoking one session keeps the store. -/
theorem revokeById_kept (id : Id) :
    StoreKept env written rotated state (state.revokeById id now) := by
  unfold SessionState.revokeById
  cases hUpdate : state.sessions.update id
      (fun row => { row with revokedAt := some now }) with
  | error refusal => exact .refl state
  | ok sessions =>
      exact update_kept hUpdate fun row => ⟨rfl, rfl, fun _ => Option.some_ne_none _, rfl⟩

/-- The start of a revocation keeps the store. -/
theorem beginRevocation_kept (call : SessionCall) :
    StoreKept env written rotated state (SessionService.beginRevocation env call state).2 := by
  unfold SessionService.beginRevocation
  split
  · exact .refl state
  · split
    · exact .refl state
    · exact deleteCache_kept _
  · split <;> exact .refl state
  · exact .refl state

/-- A revocation keeps the store. -/
theorem revoke_kept (call : SessionCall) :
    StoreKept env written rotated state (SessionService.revoke env call now state) := by
  unfold SessionService.revoke
  split
  · exact .refl state
  · split
    · exact .refl state
    · exact revokeWhere_kept _
  · exact revokeById_kept _
  · exact revokeWhere_kept _

/-- A refresh keeps the store, but for the session that it rotates. -/
theorem refresh_kept {generated : String} {record : SessionRecord}
    (hWritten : needsRefresh now record = false → written { record with lastActiveAt := now })
    (hRotated : needsRefresh now record = true →
      rotated record.id (env.hashSessionToken generated)) :
    StoreKept env written rotated state
      (SessionService.refreshSessionIfNeeded env generated record now state).2 := by
  unfold SessionService.refreshSessionIfNeeded
  by_cases hRefresh : needsRefresh now record = true
  · rw [if_pos hRefresh]
    dsimp only
    cases hUpdate : state.sessions.update record.id
        (SessionState.rotateRow (env.hashSessionToken generated) now) with
    | error refusal => exact .refl state
    | ok sessions =>
        dsimp only
        cases sessions.find? record.id with
        | none => exact .refl state
        | some row =>
            refine ⟨⟨_, update_rows hUpdate, fun row => ?_⟩, fun _ => List.mem_cons_of_mem _,
              fun pair hPair => ?_, fun _ _ hEntry => .inl hEntry⟩
            · split_ifs with hId
              · refine ⟨rfl, rfl, fun h => h, .inr ?_⟩
                rw [show row.id = record.id from hId]
                exact ⟨hRotated hRefresh, List.mem_cons_self⟩
              · exact .refl row
            · rcases List.mem_cons.mp hPair with rfl | hOld
              · exact .inr (hRotated hRefresh)
              · exact .inl hOld
  · rw [if_neg hRefresh]
    exact writeCache_kept (hWritten (Bool.eq_false_iff.mpr hRefresh))

end Kept

section Steps
variable {Process : Type} {env : SessionEnv} {calls : Process → SessionCall} {now : Timestamp}

/-- The record with this id and token is written next. -/
def WritesNext (now : Timestamp) (progress : SessionProgress) (record : SessionRecord) : Prop :=
  ∃ next, progress.writes? now = some next ∧ record.id = next.id ∧ record.rawToken = next.rawToken

/-- The token of this session is replaced next, by the one with this hash. -/
def RotatesNext (env : SessionEnv) (call : SessionCall) (now : Timestamp)
    (progress : SessionProgress) (id : Id) (tokenHash : String) : Prop :=
  ∃ record rawToken generated, progress.rotates? now = some record ∧ record.id = id ∧
    call = .authenticate rawToken generated ∧ tokenHash = env.hashSessionToken generated

/-- What any step does to the rows and to the cache. -/
theorem sessionStep_kept (process : Process) (progress : SessionProgress) (state : SessionState) :
    StoreKept env (WritesNext now progress) (RotatesNext env (calls process) now progress) state
      (sessionStep env calls now process progress state).2 := by
  unfold sessionStep
  cases progress with
  | waiting =>
      dsimp only
      split
      · exact .refl state
      · exact beginRevocation_kept _
  | missed raw => exact .refl state
  | expiredInCache tokenHash sessionId => exact deleteCache_kept tokenHash
  | expiredRow sessionId => exact revokeWhere_kept _
  | caching record => exact writeCache_kept ⟨record, rfl, rfl, rfl⟩
  | found record =>
      dsimp only
      split
      · rename_i rawToken generated hCall
        refine refresh_kept (fun hFresh => ⟨record, ?_, rfl, rfl⟩)
          fun hRefresh => ⟨record, rawToken, generated, ?_, rfl, hCall, rfl⟩
        · simp [SessionProgress.writes?, hFresh]
        · simp [SessionProgress.rotates?, hRefresh]
      · exact .refl state
  | touched record lastActiveAt last => exact touchRow_kept _ _
  | retouch record => exact writeCache_kept ⟨record, rfl, rfl, rfl⟩
  | rotated previousHash record => exact deleteCache_kept previousHash
  | recaching record => exact writeCache_kept ⟨record, rfl, rfl, rfl⟩
  | deleting tokenHashes =>
      cases tokenHashes with
      | nil => exact revoke_kept _
      | cons tokenHash rest => exact deleteCache_kept tokenHash
  | finished => exact .refl state

end Steps

/-! ### The record that a call holds -/

/-- The call was given this token. -/
def SessionCall.Presents (call : SessionCall) (raw : String) : Prop :=
  ∃ rawToken generated, call = .authenticate rawToken generated ∧
    SessionService.presented rawToken = some raw

/-- Where the record of a call comes from. -/
inductive RecordOrigin (env : SessionEnv) (call : SessionCall) (progress : SessionProgress)
    (state state' : SessionState) (record : SessionRecord) : Prop where
  | held (old : SessionRecord) (h : progress.record? = some old) (hId : record.id = old.id)
      (hRaw : record.rawToken = old.rawToken)
  | cached (raw : String) (entry : CachedSession) (hCall : call.Presents raw)
      (hEntry : state.cache (env.hashSessionToken raw) = some entry)
      (hRecord : record = entry.toRecord (Js.trim raw))
  | read (raw : String) (row : SessionRow) (h : progress = .missed raw)
      (hRow : row ∈ state.sessions.rows) (hToken : row.tokenHash = env.hashSessionToken raw)
      (hNone : row.revokedAt = none) (hRecord : record = row.toRecord (Js.trim raw))
  | rotated (old : SessionRecord) (h : progress.record? = some old) (hId : record.id = old.id)
      (hIssued : (record.id, env.hashSessionToken record.rawToken) ∈ state'.issued)

/-- A call presents one token. -/
theorem SessionCall.Presents.unique {call : SessionCall} {raw raw' : String}
    (h : call.Presents raw) (h' : call.Presents raw') : raw = raw' := by
  obtain ⟨rawToken, generated, rfl, hRaw⟩ := h
  obtain ⟨rawToken', generated', hCall, hRaw'⟩ := h'
  cases hCall
  rw [hRaw] at hRaw'
  exact Option.some.inj hRaw'

section Tokens
variable {Process : Type} {env : SessionEnv} {calls : Process → SessionCall}
  {state : SessionState} {now : Timestamp}

/-- Where the record that looking up finds comes from. -/
theorem lookUp_origin {rawToken : Option String} {generated : String} {record : SessionRecord}
    {progress : SessionProgress}
    (h : (SessionService.lookUp env rawToken now state).record? = some record) :
    RecordOrigin env (.authenticate rawToken generated) progress state state record := by
  unfold SessionService.lookUp at h
  split at h
  · cases h
  · rename_i raw hPresented
    dsimp only at h
    split at h
    · cases h
    · rename_i entry hCached
      split_ifs at h
      · cases h
      · cases h
        exact .cached raw entry ⟨rawToken, generated, rfl, hPresented⟩
          (Option.filter_eq_some_iff.mp hCached).1 rfl

/-- Where the record that reading finds comes from. -/
theorem readRow_origin {call : SessionCall} {raw : String} {record : SessionRecord}
    (h : (SessionService.readRow env raw now state).record? = some record) :
    RecordOrigin env call (.missed raw) state state record := by
  unfold SessionService.readRow at h
  split at h
  · cases h
  · rename_i row hRow
    split_ifs at h with hRevoked
    · cases h
    · cases h
    · cases h
      have hFirst : state.sessions.rows.find? (fun r => r.tokenHash = env.hashSessionToken raw) =
        some row := hRow
      refine .read raw row rfl (List.mem_of_find?_eq_some hFirst) ?_ ?_ rfl
      · simpa using List.find?_some hFirst
      · simpa using hRevoked

/-- Where the record of a refresh comes from. -/
theorem refresh_origin {call : SessionCall} {generated : String} {old record : SessionRecord}
    (h : (SessionService.refreshSessionIfNeeded env generated old now state).1.record? =
      some record) :
    RecordOrigin env call (.found old) state
      (SessionService.refreshSessionIfNeeded env generated old now state).2 record := by
  unfold SessionService.refreshSessionIfNeeded at h ⊢
  by_cases hRefresh : needsRefresh now old = true
  · rw [if_pos hRefresh] at h ⊢
    dsimp only at h ⊢
    cases hUpdate : state.sessions.update old.id
        (SessionState.rotateRow (env.hashSessionToken generated) now) with
    | error refusal =>
        rw [hUpdate] at h
        cases h
    | ok sessions =>
        rw [hUpdate] at h
        dsimp only at h ⊢
        cases hRow : sessions.find? old.id with
        | none =>
            rw [hRow] at h
            cases h
        | some row =>
            rw [hRow] at h
            cases h
            have hId : row.id = old.id := (find?_eq_some_iff.mp hRow).2
            exact .rotated old rfl hId (hId ▸ List.mem_cons_self)
  · rw [if_neg hRefresh] at h ⊢
    cases h
    exact .held old rfl rfl rfl

/-- A revocation holds no record. -/
theorem beginRevocation_record {call : SessionCall} :
    (SessionService.beginRevocation env call state).1.record? = none := by
  unfold SessionService.beginRevocation
  split
  · rfl
  · split <;> rfl
  · split <;> rfl
  · rfl

/-- Where the record that a step holds comes from. -/
theorem sessionStep_origin {process : Process} {progress : SessionProgress}
    {record : SessionRecord}
    (h : (sessionStep env calls now process progress state).1.record? = some record) :
    RecordOrigin env (calls process) progress state
      (sessionStep env calls now process progress state).2 record := by
  unfold sessionStep at h ⊢
  cases progress with
  | waiting =>
      dsimp only at h ⊢
      split at h
      · rename_i rawToken generated hCall
        rw [hCall]
        exact lookUp_origin h
      · rw [beginRevocation_record] at h
        cases h
  | missed raw => exact readRow_origin h
  | expiredInCache tokenHash sessionId => cases h
  | expiredRow sessionId => cases h
  | caching old =>
      cases h
      exact .held _ rfl rfl rfl
  | found old =>
      dsimp only at h ⊢
      split at h
      · exact refresh_origin h
      · cases h
  | touched old lastActiveAt last =>
      cases last with
      | true => cases h
      | false =>
          cases h
          exact .held _ rfl rfl rfl
  | retouch old =>
      cases h
      exact .held _ rfl rfl rfl
  | rotated previousHash old =>
      cases h
      exact .held _ rfl rfl rfl
  | recaching old => cases h
  | deleting tokenHashes =>
      cases tokenHashes with
      | nil => cases h
      | cons tokenHash rest => cases h
  | finished => cases h

end Tokens

end PropertyTax
