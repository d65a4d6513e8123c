import PropertyTax.Library.Runs
import PropertyTax.Surveys.Imports
import PropertyTax.Surveys.Listing

/-! Every call of the survey endpoints and every import job is a chain of
commits. What a commit can be is said here once, with all that the code has
checked before it; invariants are proved of the commits. -/
namespace PropertyTax.Surveys
open KeyedTable Scripts SurveysService ImportsService

inductive SurveyOperation where
  | create (now : Timestamp) (dto : SurveyDto) (user : AuthUser)
  | findOne (key : SurveyKey) (user : AuthUser)
  | findAll (query : ListSurveysQuery) (user : AuthUser)
  | update (key : SurveyKey) (dto : SurveyDto) (user : AuthUser)
  | remove (now : Timestamp) (key : SurveyKey) (user : AuthUser)
  | importJob (job : ImportJob) (now : Timestamp) (pruneMissing : Bool) (sheet : Option Sheet)

/-- A call, and which of its statements are lost. -/
structure SurveyCall where
  operation : SurveyOperation
  outages : List Bool := []

variable (env : Env)

/-- The database after the call, however it ends. -/
def perform (db : SurveyDb) (call : SurveyCall) : SurveyDb :=
  let state : SurveyState := ⟨db, call.outages⟩
  match call.operation with
  | .create now dto user => ((SurveysService.create env now dto user).after state).db
  | .findOne key user => ((SurveysService.findOne env key user).after state).db
  | .findAll query user => ((SurveysService.findAll env query user).after state).db
  | .update key dto user => ((SurveysService.update env key dto user).after state).db
  | .remove now key user => ((SurveysService.remove env now key user).after state).db
  | .importJob job now pruneMissing sheet =>
      ((ImportsService.processJob env job now pruneMissing sheet).after state).db

/-- The rows of a sheet that name a Survey Id, as the job reads them. -/
def rowsOf (sheet : Option Sheet) (cells : RowCells) : Prop :=
  ∃ loaded, loadSurveySheet env sheet = .ok loaded ∧
    ∃ values ∈ loaded.2.rows, cells = readRow env loaded.1 values ∧
      cells .surveyId ≠ []

def SurveyOperation.rows : SurveyOperation → RowCells → Prop
  | .importJob _ _ _ sheet => rowsOf env sheet
  | _ => fun _ => False

/-- The body of the call. -/
def SurveyOperation.dtos : SurveyOperation → SurveyDto → Prop
  | .create _ dto _ => fun sent => sent = dto
  | .update _ dto _ => fun sent => sent = dto
  | _ => fun _ => False

/-! ### Commits -/

def withoutFloors (dto : SurveyDto) (id : Id) (db : SurveyDb) : SurveyDb :=
  if dto.text .floorsRaw = .undefined then db else db.deleteFloors id

omit env in
/-- Dropping floors leaves the surveys. -/
theorem withoutFloors_surveys (dto : SurveyDto) (id : Id) (db : SurveyDb) :
    (withoutFloors dto id db).surveys = db.surveys := by
  unfold withoutFloors
  split_ifs <;> rfl

/-- The database without what only the audit and the error pages read. -/
structure SameRecords (db db' : SurveyDb) : Prop where
  surveys : db'.surveys = db.surveys
  floors : db'.floors = db.floors
  nextId : db'.nextId = db.nextId

/-- One commit. The bodies come from `dtos`, the rows of an import from `rows`. -/
inductive Commit (dtos : SurveyDto → Prop) (rows : RowCells → Prop) :
    SurveyDb → SurveyDb → Prop where
  | logged {db db' : SurveyDb} (h : SameRecords db db') : Commit dtos rows db db'
  | created {db db' : SurveyDb} {survey : Survey} {now : Timestamp} {dto : SurveyDto}
      {user : AuthUser} {wardId : Id} {ward : Ward} {identity : ResolvedSurveyIdentity}
      {surveyedAt : Field ℤ} (hDto : dtos dto)
      (hWard : env.wards.find? wardId = some ward)
      (hIdentity : resolveSurveyIdentity env.ulbCode ward.number
        ⟨dto.surveyId.toOption, dto.parcelNo.toOption, dto.propertyNo.toOption,
          dto.gisUseCode.toOption⟩ none = .ok identity)
      (h : db.createSurvey (createData dto wardId identity surveyedAt user)
        (parseFloorsRaw (dto.text .floorsRaw).toOption) now = .ok (db', survey)) :
      Commit dtos rows db db'
  | repaired {db db' : SurveyDb} {old survey : Survey} {ward : Ward} {expected : Text}
      (hOld : old ∈ db.surveys.rows) (hWard : env.wards.find? old.wardId = some ward)
      (hNeeds : surveyIdNeedsRepair env.ulbCode old.record ward.number = true)
      (hExpected : getExpectedSurveyIdFromRecord env.ulbCode old.record ward.number = .ok expected)
      (h : db.updateSurvey old.id (repairData expected old) [] = .ok (db', survey)) :
      Commit dtos rows db db'
  | updated {db db' : SurveyDb} {old survey : Survey} {dto : SurveyDto} {user : AuthUser}
      {ward : Ward} {identity : ResolvedSurveyIdentity} {surveyedAt : Field ℤ} (hDto : dtos dto)
      (hOld : old ∈ db.surveys.rows) (hLive : old.isLive)
      (hWard : env.wards.find? (dto.wardId.toOption.getD old.wardId) = some ward)
      (hIdentity : resolveSurveyIdentity env.ulbCode ward.number
        (mergeIdentityInput dto old) (some old.record) = .ok identity)
      (hSurveyedAt : updatedSurveyedAt env dto.surveyedAt = .ok surveyedAt)
      (h : (withoutFloors dto old.id db).updateSurvey old.id
        (updateData dto old identity surveyedAt user) (updatedFloors dto) = .ok (db', survey)) :
      Commit dtos rows db db'
  | removed {db db' : SurveyDb} {old survey : Survey} {now : Timestamp} {user : AuthUser}
      (hOld : old ∈ db.surveys.rows) (hLive : old.isLive)
      (h : db.updateSurvey old.id (removeData now user) [] = .ok (db', survey)) :
      Commit dtos rows db db'
  | rewritten {db db' : SurveyDb} {old survey : Survey} {job : ImportJob}
      {cells : RowCells} {row : ImportRow} (hCells : rows cells)
      (hRow : parseRow env job cells = .ok row) (hOld : old ∈ db.surveys.rows)
      (h : (db.deleteFloors old.id).updateSurvey old.id
        (ImportRow.rewriteData row) row.floors = .ok (db', survey)) :
      Commit dtos rows db db'
  | inserted {db db' : SurveyDb} {survey : Survey} {now : Timestamp} {job : ImportJob}
      {cells : RowCells} {row : ImportRow} (hCells : rows cells)
      (hRow : parseRow env job cells = .ok row)
      (h : db.createSurvey row.payload row.floors now = .ok (db', survey)) :
      Commit dtos rows db db'
  | pruned {db : SurveyDb} (ids : List Id) (now : Timestamp) :
      Commit dtos rows db (deleteAll ids now db)

/-- Any number of commits. -/
abbrev Commits (dtos : SurveyDto → Prop) (rows : RowCells → Prop) :
    SurveyDb → SurveyDb → Prop :=
  Relation.ReflTransGen (Commit env dtos rows)

/-! ### Calls are chains of commits -/

section Chains
variable {env} {dtos : SurveyDto → Prop} {rows : RowCells → Prop} {start : SurveyDb}

/-- A statement that adds one commit to the chain. -/
theorem commit_statement {α : Type} (facts : SurveyDb → Prop)
    {run : SurveyDb → Except SurveyError (SurveyDb × α)} {post : α → SurveyDb → Prop}
    (h : ∀ db db' answer, facts db → run db = .ok (db', answer) →
      Commit env dtos rows db db' ∧ post answer db') :
    Meets (statement run) (OnDb fun db => facts db ∧ Commits env dtos rows start db)
      (fun answer => OnDb fun db => post answer db ∧ Commits env dtos rows start db)
      (OnDb (Commits env dtos rows start)) := by
  refine meets_statement (fun db hDb => hDb.2) fun db db' answer hDb hRun => ?_
  obtain ⟨hCommit, hPost⟩ := h db db' answer hDb.1 hRun
  exact ⟨hPost, hDb.2.tail hCommit⟩

/-- The same, where nothing is asked of the answer. -/
theorem commit_only {α : Type} {pre : SurveyDb → Prop}
    {run : SurveyDb → Except SurveyError (SurveyDb × α)}
    (hPre : ∀ db, pre db → Commits env dtos rows start db)
    (h : ∀ db db' answer, pre db → run db = .ok (db', answer) → Commit env dtos rows db db') :
    Meets (statement run) (OnDb pre) (fun _ => OnDb (Commits env dtos rows start))
      (OnDb (Commits env dtos rows start)) :=
  meets_statement hPre fun db db' answer hDb hRun =>
    (hPre db hDb).tail (h db db' answer hDb hRun)

/-- A write that is a commit is one more commit. -/
theorem commit_write {change : SurveyDb → SurveyDb} {pre : SurveyDb → Prop}
    (hPre : ∀ db, pre db → Commits env dtos rows start db)
    (h : ∀ db, Commit env dtos rows db (change db)) :
    Meets (write change) (OnDb pre) (fun _ => OnDb (Commits env dtos rows start))
      (OnDb (Commits env dtos rows start)) :=
  meets_write _ hPre fun db hDb => (hPre db hDb).tail (h db)

/-- A log entry is one more commit. -/
theorem commit_log {entry : AuditEntry} {pre : SurveyDb → Prop}
    (hPre : ∀ db, pre db → Commits env dtos rows start db) :
    Meets (write (SurveyDb.log entry)) (OnDb pre) (fun _ => OnDb (Commits env dtos rows start))
      (OnDb (Commits env dtos rows start)) :=
  commit_write hPre fun _ => .logged ⟨rfl, rfl, rfl⟩

/-- The repair of an id changes the id. -/
theorem repairData_applyTo {expected : Text} {survey : Survey} (h : survey.surveyId ≠ expected) :
    (repairData expected survey).applyTo survey = withSurveyId survey expected := by
  simp [repairData, SurveyData.applyTo, withSurveyId, h.symm, Field.map]

/-- A new id leaves whether a survey is live. -/
theorem withSurveyId_isLive (survey : Survey) (surveyId : Text) :
    (withSurveyId survey surveyId).isLive = survey.isLive := by
  unfold withSurveyId
  split_ifs <;> rfl

/-- The survey is stored as it is returned, and other surveys stay. -/
theorem commits_repair {survey : Survey} {ward : Ward} {others : List Survey}
    (hWard : env.wards.find? survey.wardId = some ward) (hOthers : ∀ o ∈ others, o.id ≠ survey.id) :
    Meets (repairSurveyIdIfNeeded env survey ward.number)
      (OnDb fun db => (survey ∈ db.surveys.rows ∧ ∀ o ∈ others, o ∈ db.surveys.rows) ∧
        Commits env dtos rows start db)
      (fun surveyId => OnDb fun db => (withSurveyId survey surveyId ∈ db.surveys.rows ∧
        ∀ o ∈ others, o ∈ db.surveys.rows) ∧ Commits env dtos rows start db)
      (OnDb (Commits env dtos rows start)) := by
  have hSelf : withSurveyId survey survey.surveyId = survey := if_pos rfl
  unfold repairSurveyIdIfNeeded
  split
  · exact Meets.pure fun state hState => by rwa [hSelf]
  next hNeeds =>
    have hNeeds : surveyIdNeedsRepair env.ulbCode survey.record ward.number = true := by
      simpa using hNeeds
    split
    · exact Meets.fail fun state hState => hState.2
    next expected hExpected =>
      have hChanged : survey.record.surveyId ≠ expected := by
        simpa [surveyIdNeedsRepair, hExpected] using hNeeds
      refine bind_read (fun db hDb => hDb.2) fun clash => ?_
      split
      · exact Meets.pure fun state hState => by rwa [hSelf]
      · refine Meets.seq (OnDb fun db =>
          (withSurveyId survey expected ∈ db.surveys.rows ∧ ∀ o ∈ others, o ∈ db.surveys.rows) ∧
            Commits env dtos rows start db) ?_ fun _ => Meets.pure fun _ h => h
        refine commit_statement (fun db => survey ∈ db.surveys.rows ∧
          ∀ o ∈ others, o ∈ db.surveys.rows) fun db db' updated hFacts hRun => ?_
        obtain ⟨hUpdated, hReplaced⟩ := SurveyDb.updateSurvey_of_mem hFacts.1 hRun
        rw [repairData_applyTo hChanged] at hUpdated
        refine ⟨.repaired hFacts.1 hWard hNeeds hExpected hRun, hUpdated ▸ hReplaced.mem_new, ?_⟩
        exact fun o ho => hReplaced.mem_of_ne (hFacts.2 o ho) (hOthers o ho)

theorem commits_ensure {survey : Survey} (others : List Survey)
    (hOthers : ∀ o ∈ others, o.id ≠ survey.id) :
    Meets (ensureCanonicalSurveyId env survey)
      (OnDb fun db => (survey ∈ db.surveys.rows ∧ ∀ o ∈ others, o ∈ db.surveys.rows) ∧
        Commits env dtos rows start db)
      (fun answer => OnDb fun db => ((answer.isLive = survey.isLive ∧ answer ∈ db.surveys.rows) ∧
        ∀ o ∈ others, o ∈ db.surveys.rows) ∧ Commits env dtos rows start db)
      (OnDb (Commits env dtos rows start)) := by
  unfold ensureCanonicalSurveyId
  split
  · exact Meets.fail fun state hState => hState.2
  next ward hWard =>
    refine Meets.bind (commits_repair hWard hOthers) fun surveyId => Meets.pure fun state hState => ?_
    exact ⟨⟨⟨withSurveyId_isLive survey surveyId, hState.1.1⟩, hState.1.2⟩, hState.2⟩

theorem commits_findOne {key : SurveyKey} {user : AuthUser} :
    Meets (findOne env key user) (OnDb (Commits env dtos rows start))
      (fun found => OnDb fun db => (found.survey.isLive ∧ found.survey ∈ db.surveys.rows) ∧
        Commits env dtos rows start db)
      (OnDb (Commits env dtos rows start)) := by
  unfold findOne
  refine Meets.bind (meets_read fun _ h => h) fun found => ?_
  cases found with
  | none => exact Meets.fail fun state hState => hState.2
  | some found =>
      have hFound : ∀ db : SurveyDb,
          ((db.surveys.findFirst? fun survey => key.names survey && survey.isLive).map
            fun survey => (⟨survey, db.floorsOf survey.id⟩ : SurveyWithFloors)) = some found →
          found.survey.isLive ∧ found.survey ∈ db.surveys.rows := by
        intro db hMap
        obtain ⟨survey, hSurvey, rfl⟩ := Option.map_eq_some_iff.mp hMap
        have hNamed := List.find?_some
          (show db.surveys.rows.find? (fun s => key.names s && s.isLive) = some survey from hSurvey)
        exact ⟨(Bool.and_eq_true_iff.mp hNamed).2, List.mem_of_find?_eq_some hSurvey⟩
      refine bind_orThrow (fun db hDb => hDb.2) fun _ _ => ?_
      by_cases hLive : found.survey.isLive
      · refine Meets.bind ((commits_ensure [] (by simp)).mono (fun state hState => ?_)
          (fun _ _ h => h) fun _ h => h) fun survey => Meets.pure fun state hState => ?_
        · exact ⟨⟨(hFound _ hState.1).2, by simp⟩, hState.2⟩
        · exact ⟨⟨by rw [hState.1.1.1]; exact hLive, hState.1.1.2⟩, hState.2⟩
      · exact fun state hState => absurd (hFound _ hState.1).1 hLive

theorem commits_ensureAll {surveys : List Survey} (hApart : (surveys.map Survey.id).Nodup) :
    Meets (ensureCanonicalSurveyIds env surveys)
      (OnDb fun db => (∀ survey ∈ surveys, survey ∈ db.surveys.rows) ∧
        Commits env dtos rows start db)
      (fun _ => OnDb (Commits env dtos rows start)) (OnDb (Commits env dtos rows start)) := by
  induction surveys with
  | nil => exact Meets.pure fun state hState => hState.2
  | cons survey surveys ih =>
      obtain ⟨hHead, hTail⟩ := List.nodup_cons.mp hApart
      refine Meets.bind ((commits_ensure surveys fun o ho hId => hHead
        (List.mem_map.mpr ⟨o, ho, hId⟩)).mono (fun state hState => ?_) (fun _ _ h => h)
          fun _ h => h) fun repaired => ?_
      · exact ⟨⟨hState.1 survey List.mem_cons_self,
          fun o ho => hState.1 o (List.mem_cons_of_mem _ ho)⟩, hState.2⟩
      · refine Meets.bind ((ih hTail).mono (fun state hState => ⟨hState.1.2, hState.2⟩)
          (fun _ _ h => h) fun _ h => h) fun others => Meets.pure fun _ h => h

theorem commits_findAll {query : ListSurveysQuery} {user : AuthUser} :
    Meets (findAll env query user) (OnDb (Commits env dtos rows start))
      (fun _ => OnDb (Commits env dtos rows start)) (OnDb (Commits env dtos rows start)) := by
  unfold findAll
  refine bind_orThrow (fun _ h => h) fun _ _ => ?_
  refine bind_orThrow (fun _ h => h) fun surveyedFrom _ => ?_
  refine bind_orThrow (fun _ h => h) fun surveyedTo _ => ?_
  refine bind_read (fun _ h => h) fun total => ?_
  refine Meets.bind (meets_read fun _ h => h) fun items => ?_
  have hItems : ∀ db : SurveyDb, pageOf env query surveyedFrom surveyedTo db = items →
      (∀ survey ∈ items, survey ∈ db.surveys.rows) ∧ (items.map Survey.id).Nodup := by
    intro db hPage
    obtain ⟨hRows, hApart⟩ := @pageOf_rows env query surveyedFrom surveyedTo db
    rw [hPage] at hRows hApart
    exact ⟨fun survey hSurvey => (hRows survey hSurvey).1, hApart⟩
  by_cases hApart : (items.map Survey.id).Nodup
  · refine Meets.bind ((commits_ensureAll hApart).mono
      (fun state hState => ⟨(hItems _ hState.1).1, hState.2⟩) (fun _ _ h => h)
        fun _ h => h) fun _ => Meets.pure fun _ h => h
  · exact fun state hState => absurd (hItems _ hState.1).2 hApart

theorem commits_create {now : Timestamp} {dto : SurveyDto} {user : AuthUser} (hDto : dtos dto) :
    Meets (create env now dto user) (OnDb (Commits env dtos rows start))
      (fun _ => OnDb (Commits env dtos rows start)) (OnDb (Commits env dtos rows start)) := by
  unfold create
  refine bind_orThrow (fun _ h => h) fun _ _ => ?_
  split
  · exact Meets.fail fun _ h => h
  next wardId hWardId =>
    refine bind_orThrow (fun _ h => h) fun _ _ => bind_lookup (fun _ h => h) ?_
    split
    · exact Meets.fail fun _ h => h
    next ward hWard =>
      refine bind_orThrow (fun _ h => h) fun identity hIdentity => ?_
      split_ifs
      · exact Meets.fail fun _ h => h
      · refine bind_read (fun _ h => h) fun existing => ?_
        split_ifs
        · exact Meets.fail fun _ h => h
        · refine bind_orThrow (fun _ h => h) fun surveyedAt _ => ?_
          refine Meets.bind (commit_only (fun _ h => h)
            fun db db' created hChain hRun => ?_) fun created => ?_
          · obtain ⟨result, hCreate, hFloors⟩ := map_ok hRun
            cases hFloors
            exact .created hDto hWard (mapError_ok hIdentity) hCreate
          · exact Meets.bind (commit_log fun _ h => h) fun _ => Meets.pure fun _ h => h

/-- The transaction of an update is one commit, floors and columns together. -/
theorem commits_updateInTransaction {dto : SurveyDto} {current : Survey} {ward : Ward}
    {identity : ResolvedSurveyIdentity} {user : AuthUser} (hDto : dtos dto)
    (hLive : current.isLive)
    (hWard : env.wards.find? (dto.wardId.toOption.getD current.wardId) = some ward)
    (hIdentity : resolveSurveyIdentity env.ulbCode ward.number
      (mergeIdentityInput dto current) (some current.record) = .ok identity) :
    Meets (transaction (updateInTransaction env dto current identity user))
      (OnDb fun db => current ∈ db.surveys.rows ∧ Commits env dtos rows start db)
      (fun _ => OnDb (Commits env dtos rows start)) (OnDb (Commits env dtos rows start)) := by
  refine meets_transaction (fun _ h => h.2) ?_
  unfold updateInTransaction
  have hAvailable : Meets (Script.when (identity.surveyId ≠ current.surveyId)
        (assertSurveyIdAvailable identity.surveyId current.id))
      (OnDb fun db => current ∈ db.surveys.rows ∧ Commits env dtos rows start db)
      (fun _ => OnDb fun db => current ∈ db.surveys.rows ∧ Commits env dtos rows start db)
      (OnDb fun _ => True) := by
    refine Meets.when (fun _ => bind_read (fun _ _ => trivial) fun clash => ?_) fun _ _ h => h
    split_ifs
    · exact Meets.fail fun _ _ => trivial
    · exact Meets.pure fun _ h => h
  have hFloors : Meets (Script.when (dto.text .floorsRaw ≠ .undefined)
        (write (SurveyDb.deleteFloors current.id)))
      (OnDb fun db => current ∈ db.surveys.rows ∧ Commits env dtos rows start db)
      (fun _ => OnDb fun db => ∃ before, db = withoutFloors dto current.id before ∧
        current ∈ before.surveys.rows ∧ Commits env dtos rows start before)
      (OnDb fun _ => True) := by
    refine Meets.when (fun hSent => meets_write _ (fun _ _ => trivial) fun db hDb => ?_)
      fun hKept state hState => ?_
    · exact ⟨db, (if_neg (of_decide_eq_true hSent)).symm, hDb⟩
    · exact ⟨state.db, (if_pos (by simpa using hKept)).symm, hState⟩
  refine Meets.bind hAvailable fun _ => Meets.bind hFloors fun _ => ?_
  refine bind_orThrow (fun _ _ => trivial) fun surveyedAt hSurveyedAt => ?_
  refine meets_statement (fun _ _ => trivial) fun db db' updated hDb hRun => ?_
  obtain ⟨before, rfl, hCurrent, hChain⟩ := hDb
  obtain ⟨result, hUpdate, hResult⟩ := map_ok hRun
  cases hResult
  exact hChain.tail (.updated hDto hCurrent hLive hWard hIdentity hSurveyedAt hUpdate)

theorem commits_update {key : SurveyKey} {dto : SurveyDto} {user : AuthUser} (hDto : dtos dto) :
    Meets (SurveysService.update env key dto user) (OnDb (Commits env dtos rows start))
      (fun _ => OnDb (Commits env dtos rows start)) (OnDb (Commits env dtos rows start)) := by
  unfold SurveysService.update
  refine Meets.bind commits_findOne fun found => ?_
  by_cases hLive : found.survey.isLive
  · refine bind_orThrow (fun _ h => h.2) fun _ _ => bind_lookup (fun _ h => h.2) ?_
    split
    · exact Meets.fail fun _ h => h.2
    next ward hWard =>
      refine bind_orThrow (fun _ h => h.2) fun identity hIdentity => ?_
      refine bind_orThrow (fun _ h => h.2) fun _ _ => ?_
      refine Meets.bind ((commits_updateInTransaction hDto hLive hWard (mapError_ok hIdentity)).mono
        (fun state hState => ⟨hState.1.2, hState.2⟩) (fun _ _ h => h) fun _ h => h) fun updated => ?_
      exact Meets.bind (Meets.when (fun _ => commit_log fun _ h => h) fun _ _ h => h)
        fun _ => Meets.pure fun _ h => h
  · exact fun state hState => absurd hState.1.1 hLive

theorem commits_remove {now : Timestamp} {key : SurveyKey} {user : AuthUser} :
    Meets (remove env now key user) (OnDb (Commits env dtos rows start))
      (fun _ => OnDb (Commits env dtos rows start)) (OnDb (Commits env dtos rows start)) := by
  unfold remove
  refine Meets.bind commits_findOne fun found => ?_
  refine bind_orThrow (fun _ h => h.2) fun _ _ => ?_
  refine Meets.bind (commit_only (fun _ h => h.2) fun db db' survey hDb hRun => ?_) fun survey => ?_
  · exact .removed hDb.1.2 hDb.1.1 hRun
  · exact Meets.bind (commit_log fun _ h => h) fun _ => Meets.pure fun _ h => h

/-! ### Imports -/

section Imports
variable {job : ImportJob} {cells : RowCells} {row : ImportRow}

theorem commits_rewrite {id : Id} (hCells : rows cells) (hRow : parseRow env job cells = .ok row) :
    Meets (rewrite id row)
      (OnDb fun db => (∃ old ∈ db.surveys.rows, old.id = id) ∧ Commits env dtos rows start db)
      (fun _ => OnDb (Commits env dtos rows start)) (OnDb (Commits env dtos rows start)) := by
  refine meets_transaction (fun _ h => h.2) ?_
  refine Meets.bind (meets_write (fun db => ∃ before, db = before.deleteFloors id ∧
    (∃ old ∈ before.surveys.rows, old.id = id) ∧ Commits env dtos rows start before)
      (fun _ _ => trivial) fun db hDb => ⟨db, rfl, hDb⟩) fun _ => ?_
  refine meets_statement (fun _ _ => trivial) fun db db' updated hDb hRun => ?_
  obtain ⟨before, rfl, ⟨old, hOld, rfl⟩, hChain⟩ := hDb
  exact hChain.tail (.rewritten hCells hRow hOld hRun)

theorem commits_insertRow {now : Timestamp} (hCells : rows cells)
    (hRow : parseRow env job cells = .ok row) :
    Meets (insertRow now row) (OnDb (Commits env dtos rows start))
      (fun _ => OnDb (Commits env dtos rows start)) (OnDb (Commits env dtos rows start)) := by
  unfold insertRow
  refine Meets.seq (OnDb (Commits env dtos rows start)) (Meets.attempt ?_) fun created => ?_
  · refine (commit_only (fun _ h => h) fun db db' survey hDb hRun => ?_).mono (fun _ h => h)
      (fun _ _ h => h) fun _ h _ => h
    exact .inserted hCells hRow hRun
  · split
    · exact Meets.pure fun _ h => h
    · refine Meets.bind (meets_read fun _ h => h) fun conflict => ?_
      split
      next conflict =>
        refine Meets.bind ((commits_rewrite hCells hRow).mono (fun state hState => ?_)
          (fun _ _ h => h) fun _ h => h) fun _ => Meets.pure fun _ h => h
        exact ⟨⟨conflict, List.mem_of_find?_eq_some hState.1, rfl⟩, hState.2⟩
      · exact Meets.fail fun _ h => h.2
    · exact Meets.fail fun _ h => h

/-- The survey that is found is one of the table. -/
theorem commits_findImportDuplicate :
    Meets (findImportDuplicate row) (OnDb (Commits env dtos rows start))
      (fun found => OnDb fun db => (∀ survey ∈ found, survey ∈ db.surveys.rows) ∧
        Commits env dtos rows start db) (OnDb (Commits env dtos rows start)) := by
  have hFound : ∀ (db : SurveyDb) (p : Survey → Bool) (found : Option Survey),
      db.surveys.findFirst? p = found → ∀ survey ∈ found, survey ∈ db.surveys.rows := by
    intro db p found hQuery survey hSurvey
    exact List.mem_of_find?_eq_some (hQuery.trans hSurvey)
  unfold findImportDuplicate
  refine Meets.bind (meets_read fun _ h => h) fun byCanonical => ?_
  split
  · exact Meets.pure fun state hState => ⟨hFound _ _ _ hState.1, hState.2⟩
  · have hRaw : Meets (findByRawId row) (OnDb (Commits env dtos rows start))
        (fun found => OnDb fun db => (∀ survey ∈ found, survey ∈ db.surveys.rows) ∧
          Commits env dtos rows start db) (OnDb (Commits env dtos rows start)) := by
      unfold findByRawId
      split_ifs
      · exact Meets.pure fun state hState => ⟨by simp, hState⟩
      · exact (meets_read fun _ h => h).mono (fun _ h => h)
          (fun _ state hState => ⟨hFound _ _ _ hState.1, hState.2⟩) fun _ h => h
    refine Meets.bind (hRaw.mono (fun _ h => h.2) (fun _ _ h => h) fun _ h => h) fun byRaw => ?_
    split
    · exact Meets.pure fun _ h => h
    · exact (meets_read fun _ h => h.2).mono (fun _ h => h)
        (fun _ state hState => ⟨hFound _ _ _ hState.1, hState.2.2⟩) fun _ h => h

theorem commits_storeRow {now : Timestamp} (hCells : rows cells)
    (hRow : parseRow env job cells = .ok row) :
    Meets (storeRow job now row) (OnDb (Commits env dtos rows start))
      (fun _ => OnDb (Commits env dtos rows start)) (OnDb (Commits env dtos rows start)) := by
  unfold storeRow
  refine Meets.bind commits_findImportDuplicate fun existing => ?_
  split
  · exact (commits_insertRow hCells hRow).mono (fun _ h => h.2) (fun _ _ h => h) fun _ h => h
  next existing =>
    split_ifs
    · exact Meets.pure fun _ h => h.2
    · exact Meets.pure fun _ h => h.2
    · refine Meets.bind ((commits_rewrite hCells hRow).mono (fun state hState => ?_)
        (fun _ _ h => h) fun _ h => h) fun updated => ?_
      · exact ⟨⟨existing, hState.1 existing rfl, rfl⟩, hState.2⟩
      · exact Meets.bind (Meets.when (fun _ => commit_log fun _ h => h) fun _ _ h => h)
          fun _ => Meets.pure fun _ h => h
    · exact (commits_insertRow hCells hRow).mono (fun _ h => h.2) (fun _ _ h => h) fun _ h => h

theorem commits_processRow {now : Timestamp} {map : ColumnMap} {progress : ImportProgress}
    {numbered : List ExcelValue × Nat}
    (hCells : readRow env map numbered.1 .surveyId ≠ [] → rows (readRow env map numbered.1)) :
    Meets (processRow env job now map progress numbered) (OnDb (Commits env dtos rows start))
      (fun _ => OnDb (Commits env dtos rows start)) (OnDb (Commits env dtos rows start)) := by
  unfold processRow
  dsimp only
  split_ifs with hEmpty
  · exact Meets.pure fun _ h => h
  · have hCells := hCells (by simpa using hEmpty)
    have hStored : Meets (do
          let row ← orThrow (parseRow env job (readRow env map numbered.1))
          let outcome ← storeRow job now row
          return (row.ward.id, outcome))
        (OnDb (Commits env dtos rows start)) (fun _ => OnDb (Commits env dtos rows start))
        (OnDb (Commits env dtos rows start)) := by
      refine bind_orThrow (fun _ h => h) fun row hRow => ?_
      exact Meets.bind (commits_storeRow hCells hRow) fun _ => Meets.pure fun _ h => h
    refine Meets.seq (OnDb (Commits env dtos rows start))
      (Meets.attempt (hStored.mono (fun _ h => h) (fun _ _ h => h) fun _ h _ => h)) fun stored => ?_
    split
    · exact Meets.pure fun _ h => h
    · exact Meets.bind (commit_write (fun _ h => h) fun _ => .logged ⟨rfl, rfl, rfl⟩)
        fun _ => Meets.pure fun _ h => h

theorem commits_pruneOrphans {now : Timestamp} {ward : Id} {keep : List Id} :
    Meets (pruneOrphans job now ward keep) (OnDb (Commits env dtos rows start))
      (fun _ => OnDb (Commits env dtos rows start)) (OnDb (Commits env dtos rows start)) := by
  have hLogs : ∀ orphans : List Survey, Meets (orphans.forM fun orphan =>
      write (SurveyDb.log (.pruned orphan.id job.createdById orphan.surveyId job.id)))
      (OnDb (Commits env dtos rows start)) (fun _ => OnDb (Commits env dtos rows start))
      (OnDb (Commits env dtos rows start)) := by
    intro orphans
    induction orphans with
    | nil => exact Meets.pure fun _ h => h
    | cons orphan orphans ih => exact Meets.bind (commit_log fun _ h => h) fun _ => ih
  unfold pruneOrphans
  refine bind_read (fun _ h => h) fun orphans => ?_
  split_ifs
  · refine Meets.bind (commit_write (fun _ h => h) fun _ => .pruned _ now) fun _ => ?_
    exact Meets.bind (hLogs orphans) fun _ => Meets.pure fun _ h => h
  · exact Meets.pure fun _ h => h

theorem commits_processJob {now : Timestamp} {pruneMissing : Bool} {sheet : Option Sheet} :
    Meets (processJob env job now pruneMissing sheet)
      (OnDb (Commits env dtos (rowsOf env sheet) start))
      (fun _ => OnDb (Commits env dtos (rowsOf env sheet) start))
      (OnDb (Commits env dtos (rowsOf env sheet) start)) := by
  unfold processJob
  refine bind_orThrow (fun _ h => h) fun loaded hLoaded => ?_
  have hBody : ∀ numbered rest progress, Meets (processRow env job now loaded.1 progress numbered)
      (OnDb fun db => (∀ n ∈ numbered :: rest, n.1 ∈ loaded.2.rows) ∧
        Commits env dtos (rowsOf env sheet) start db)
      (fun _ => OnDb fun db => (∀ n ∈ rest, n.1 ∈ loaded.2.rows) ∧
        Commits env dtos (rowsOf env sheet) start db)
      (OnDb (Commits env dtos (rowsOf env sheet) start)) := by
    intro numbered rest progress state hState
    have hRow : numbered.1 ∈ loaded.2.rows := hState.1 numbered List.mem_cons_self
    have hEnd : Ends (fun _ => OnDb (Commits env dtos (rowsOf env sheet) start))
        (OnDb (Commits env dtos (rowsOf env sheet) start))
        (processRow env job now loaded.1 progress numbered state) :=
      commits_processRow
        (fun hNamed => ⟨loaded, mapError_ok hLoaded, numbered.1, hRow, rfl, hNamed⟩) state hState.2
    exact hEnd.mono (fun _ _ hChain => ⟨fun n hn => hState.1 n (List.mem_cons_of_mem _ hn), hChain⟩)
      fun _ h => h
  refine Meets.bind ((Meets.foldlM (fun items _ => OnDb fun db =>
    (∀ n ∈ items, n.1 ∈ loaded.2.rows) ∧ Commits env dtos (rowsOf env sheet) start db) hBody _ _).mono
      (fun state hState => ⟨fun n hn => List.fst_mem_of_mem_zipIdx hn, hState⟩)
      (fun _ _ h => h) fun _ h => h) fun progress => ?_
  refine Meets.seq (OnDb (Commits env dtos (rowsOf env sheet) start)) ?_
    fun _ => Meets.pure fun _ h => h
  unfold reconcileWardOrphans
  split
  · exact commits_pruneOrphans.mono (fun _ h => h.2) (fun _ _ h => h) fun _ h => h
  · exact Meets.pure fun _ h => h.2

end Imports

/-- What a call does to the database is a chain of commits, however it ends. -/
theorem perform_commits (env : Env) (db : SurveyDb) (call : SurveyCall) :
    Commits env call.operation.dtos (call.operation.rows env) db (perform env db call) := by
  have hStart : ∀ dtos rows, OnDb (Commits env dtos rows db) ⟨db, call.outages⟩ :=
    fun _ _ => .refl
  unfold perform
  cases call.operation with
  | create now dto user =>
      have hSent : (SurveyOperation.create now dto user).dtos dto := rfl
      exact Ends.after (commits_create hSent _ (hStart _ _))
  | findOne key user =>
      change OnDb (Commits env _ _ db)
        ((SurveysService.findOne env key user).after ⟨db, call.outages⟩)
      exact Ends.after ((commits_findOne _ (hStart _ _)).mono (fun _ _ h => h.2) fun _ h => h)
  | findAll query user => exact Ends.after (commits_findAll _ (hStart _ _))
  | update key dto user =>
      have hSent : (SurveyOperation.update key dto user).dtos dto := rfl
      exact Ends.after (commits_update hSent _ (hStart _ _))
  | remove now key user => exact Ends.after (commits_remove _ (hStart _ _))
  | importJob job now pruneMissing sheet => exact Ends.after (commits_processJob _ (hStart _ _))

/-- The induction rule of the surveys: what every commit preserves, every run
of calls preserves. -/
theorem run_commit_invariant {invariant : SurveyDb → Prop} (guard : SurveyOperation → Prop)
    (hStep : ∀ (operation : SurveyOperation) db db', guard operation → invariant db →
      Commit env operation.dtos (operation.rows env) db db' → invariant db')
    (hStart : invariant start) {calls : List SurveyCall}
    (hGuard : ∀ call ∈ calls, guard call.operation) :
    invariant (Runs.run (perform env) start calls) := by
  have hAlong : Runs.Along (perform env) (fun _ (call : SurveyCall) => guard call.operation)
      start calls := Runs.along_of_forall _ hGuard
  refine Runs.run_invariant_along invariant ?_ hStart hAlong
  intro db call hDb hCall
  exact Runs.steps_invariant invariant
    (fun before after hBefore hCommit => hStep call.operation before after hCall hBefore hCommit)
    (perform_commits env db call) hDb

end Chains
namespace Sample

/-- The first ward only, and no date that can be read. -/
def firstWard : Env where
  ulbCodeSetting := none
  wards := ⟨[⟨1, 1, "Ward No. 1".toList⟩], by decide⟩
  parseDate _ := none
  toISOString _ := []
  foldCase := id
  collate _ _ := true

def importSheet (sheet : Sheet) : SurveyCall :=
  ⟨.importJob ⟨7, .update, none⟩ 0 false (some sheet), []⟩

end Sample
end PropertyTax.Surveys
