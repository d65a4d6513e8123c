import PropertyTax.Library.ScriptViews
import PropertyTax.Surveys.Endpoints

/-! The survey endpoints seen through a view of the Aadhaar column. No call reads
the column, so a call on what the view shows answers what the view shows of the
answer. -/
namespace PropertyTax.Surveys
open KeyedTable Scripts

/-! ### The view -/

section View
variable (seen : Text → Text)

def Survey.seenAs (survey : Survey) : Survey :=
  { survey with
    text := fun column =>
      if column = .ownerAadhaar then (survey.text column).map seen else survey.text column }

def SurveyData.seenAs (data : SurveyData) : SurveyData :=
  { data with
    text := fun column =>
      if column = .ownerAadhaar then (data.text column).map seen else data.text column }

def SurveyDto.seenAs (dto : SurveyDto) : SurveyDto :=
  { dto with
    text := fun column =>
      if column = .ownerAadhaar then (dto.text column).map seen else dto.text column }

def SurveyWithFloors.seenAs (found : SurveyWithFloors) : SurveyWithFloors :=
  { found with survey := found.survey.seenAs seen }

theorem Survey.clash_seenAs (s t : Survey) :
    KeyedRow.clash (s.seenAs seen) (t.seenAs seen) = KeyedRow.clash s t := rfl

def SurveyDb.seenAs (db : SurveyDb) : SurveyDb :=
  { db with surveys := db.surveys.mapRows (Survey.seenAs seen) (Survey.clash_seenAs seen) }

def SurveyState.seenAs (state : SurveyState) : SurveyState :=
  { state with db := state.db.seenAs seen }

end View

section Seen
variable {seen : Text → Text}

@[simp] theorem Survey.seenAs_id (survey : Survey) : (survey.seenAs seen).id = survey.id := rfl

@[simp] theorem Survey.seenAs_surveyId (survey : Survey) :
    (survey.seenAs seen).surveyId = survey.surveyId := rfl

@[simp] theorem Survey.seenAs_wardId (survey : Survey) :
    (survey.seenAs seen).wardId = survey.wardId := rfl

@[simp] theorem Survey.seenAs_createdById (survey : Survey) :
    (survey.seenAs seen).createdById = survey.createdById := rfl

@[simp] theorem Survey.seenAs_record (survey : Survey) :
    (survey.seenAs seen).record = survey.record := rfl

/-- The other columns are seen as they are. -/
theorem Survey.seenAs_text {column : TextColumn} (h : column ≠ .ownerAadhaar) (survey : Survey) :
    (survey.seenAs seen).text column = survey.text column := if_neg h

/-- The number is seen as it is shown. -/
theorem Survey.seenAs_aadhaar (survey : Survey) :
    (survey.seenAs seen).text .ownerAadhaar = (survey.text .ownerAadhaar).map seen := by
  simp only [Survey.seenAs, if_true]

/-- The other fields of a request are seen as they are. -/
theorem SurveyDto.seenAs_text {column : TextColumn} (h : column ≠ .ownerAadhaar)
    (dto : SurveyDto) : (dto.seenAs seen).text column = dto.text column := if_neg h

/-- A field is assigned before or after it is mapped. -/
theorem Field.assign_map {α β : Type} (f : α → β) (old : Option α) (field : Field α) :
    (field.map f).assign (old.map f) = (field.assign old).map f := by
  cases field <;> rfl

/-- A write to what is seen is seen as the write. -/
theorem SurveyData.applyTo_seenAs (data : SurveyData) (survey : Survey) :
    (data.seenAs seen).applyTo (survey.seenAs seen) = (data.applyTo survey).seenAs seen := by
  have hText : ∀ column,
      ((data.seenAs seen).text column).assign ((survey.seenAs seen).text column) =
      ((data.applyTo survey).seenAs seen).text column := by
    intro column
    by_cases hColumn : column = .ownerAadhaar
    · subst hColumn
      exact Field.assign_map seen _ _
    · simp only [SurveyData.seenAs, Survey.seenAs, SurveyData.applyTo, if_neg hColumn]
  exact congrArg (fun text => { data.applyTo survey with text }) (funext hText)

/-- Data that leave the column alone look the same. -/
theorem SurveyData.seenAs_of_undefined {data : SurveyData}
    (h : data.text .ownerAadhaar = .undefined) : data.seenAs seen = data := by
  have hText : ∀ column, (data.seenAs seen).text column = data.text column := by
    intro column
    by_cases hColumn : column = .ownerAadhaar
    · subst hColumn
      simp only [SurveyData.seenAs, if_true, h]
      rfl
    · exact if_neg hColumn
  exact congrArg (fun text => { data with text }) (funext hText)

/-- The audit log does not keep the column. -/
theorem diffSurveyChanges_seenAs (before after : Survey) :
    diffSurveyChanges (buildAuditState (before.seenAs seen)) (buildAuditState (after.seenAs seen)) =
      diffSurveyChanges (buildAuditState before) (buildAuditState after) := by
  have hState : ∀ survey : Survey, ∀ field ∈ SURVEY_AUDIT_FIELDS,
      buildAuditState (survey.seenAs seen) field = buildAuditState survey field := by
    intro survey field hField
    have hOther : field ≠ .text .ownerAadhaar := by
      rintro rfl
      exact absurd hField (by decide)
    cases field with
    | text column =>
        have hColumn : column ≠ .ownerAadhaar := fun h => hOther (congrArg AuditField.text h)
        simp only [buildAuditState, surveyToAuditSnapshot, Survey.seenAs_text hColumn]
    | _ => rfl
  unfold diffSurveyChanges
  refine List.filterMap_congr fun field hField => ?_
  rw [hState before field hField, hState after field hField]

/-! ### Statements -/

section Statements
variable (db : SurveyDb)

theorem SurveyDb.bySurveyId?_seenAs (surveyId : Text) :
    (db.seenAs seen).bySurveyId? surveyId = (db.bySurveyId? surveyId).map (Survey.seenAs seen) :=
  findFirst?_mapRows (Survey.clash_seenAs seen) db.surveys fun _ => rfl

theorem SurveyDb.createSurvey_seenAs (data : SurveyData) (floors : List ParsedFloor)
    (now : Timestamp) :
    (db.seenAs seen).createSurvey (data.seenAs seen) floors now =
      (db.createSurvey data floors now).map fun result =>
        (result.1.seenAs seen, result.2.seenAs seen) := by
  have hNew : ∀ surveyId wardId,
      (newSurvey db.nextId surveyId wardId now).seenAs seen =
        newSurvey db.nextId surveyId wardId now := by
    intro surveyId wardId
    simp only [Survey.seenAs, newSurvey, Option.map_none, ite_self]
  have hRow : ∀ surveyId wardId,
      (data.seenAs seen).applyTo (newSurvey db.nextId surveyId wardId now) =
        (data.applyTo (newSurvey db.nextId surveyId wardId now)).seenAs seen := by
    intro surveyId wardId
    rw [← data.applyTo_seenAs, hNew]
  have hInsert : ∀ survey : Survey, (db.seenAs seen).surveys.insert (survey.seenAs seen) =
      (db.surveys.insert survey).map fun surveys =>
        surveys.mapRows (Survey.seenAs seen) (Survey.clash_seenAs seen) :=
    insert_mapRows (Survey.clash_seenAs seen) db.surveys
  have hData : (data.seenAs seen).surveyId = data.surveyId ∧
      (data.seenAs seen).wardId = data.wardId ∧ (data.seenAs seen).isValid = data.isValid :=
    ⟨rfl, rfl, rfl⟩
  have hId : (db.seenAs seen).nextId = db.nextId := rfl
  unfold SurveyDb.createSurvey
  rw [hData.1, hData.2.1, hData.2.2, hId]
  cases data.surveyId with
  | value surveyId =>
      cases data.wardId with
      | value wardId =>
          simp only [hRow, hInsert]
          split_ifs with hTaken
          · cases db.surveys.insert (data.applyTo (newSurvey db.nextId surveyId wardId now)) with
            | error refusal => rfl
            | ok surveys => rfl
          · rfl
      | _ => rfl
  | _ => rfl

theorem SurveyDb.updateSurvey_seenAs (id : Id) (data : SurveyData) (floors : List ParsedFloor) :
    (db.seenAs seen).updateSurvey id (data.seenAs seen) floors =
      (db.updateSurvey id data floors).map fun result =>
        (result.1.seenAs seen, result.2.seenAs seen) := by
  have hFound : (db.seenAs seen).surveys.find? id =
      (db.surveys.find? id).map (Survey.seenAs seen) :=
    find?_of_rows_map (f := Survey.seenAs seen) (fun _ => rfl) rfl id
  have hUpdate : (db.seenAs seen).surveys.update id (data.seenAs seen).applyTo =
      (db.surveys.update id data.applyTo).map fun surveys =>
        surveys.mapRows (Survey.seenAs seen) (Survey.clash_seenAs seen) :=
    update_mapRows (Survey.clash_seenAs seen) db.surveys id (fun _ => rfl)
      fun survey => data.applyTo_seenAs survey
  have hValid : (data.seenAs seen).isValid = data.isValid := rfl
  unfold SurveyDb.updateSurvey
  rw [hFound, hUpdate, hValid]
  cases db.surveys.find? id with
  | none => rfl
  | some survey =>
      simp only [Option.map_some]
      split_ifs with hTaken
      · cases db.surveys.update id data.applyTo with
        | error refusal => rfl
        | ok surveys =>
            simp only [data.applyTo_seenAs]
            rfl
      · rfl

/-- So it is by data that leave the number alone. -/
theorem SurveyDb.updateSurvey_seenAs_of_undefined (id : Id) {data : SurveyData}
    (h : data.text .ownerAadhaar = .undefined) (floors : List ParsedFloor) :
    (db.seenAs seen).updateSurvey id data floors =
      (db.updateSurvey id data floors).map fun result =>
        (result.1.seenAs seen, result.2.seenAs seen) := by
  have hUpdate := @SurveyDb.updateSurvey_seenAs seen db id data floors
  rwa [data.seenAs_of_undefined h] at hUpdate

end Statements

/-! ### Scripts -/

section Rules
variable {α β : Type} {shown : α → β}

theorem shows_statement {run : SurveyDb → Except SurveyError (SurveyDb × α)}
    {run' : SurveyDb → Except SurveyError (SurveyDb × β)}
    (h : ∀ db, run' (db.seenAs seen) =
      (run db).map fun result => (result.1.seenAs seen, shown result.2)) :
    Shows (SurveyState.seenAs seen) shown (statement run) (statement run') := by
  intro state
  by_cases hLost : state.outages.headD false = true
  · simp only [statement, SurveyState.seenAs, hLost, if_true]
    rfl
  · cases hRun : run state.db with
    | error error =>
        simp only [statement, SurveyState.seenAs, if_neg hLost, h, hRun]
        rfl
    | ok result =>
        simp only [statement, SurveyState.seenAs, if_neg hLost, h, hRun]
        rfl

theorem shows_read {query : SurveyDb → α} {query' : SurveyDb → β}
    (h : ∀ db, query' (db.seenAs seen) = shown (query db)) :
    Shows (SurveyState.seenAs seen) shown (read query) (read query') := by
  refine shows_statement fun db => ?_
  rw [h]
  rfl

theorem shows_write {change : SurveyDb → SurveyDb}
    (h : ∀ db, change (db.seenAs seen) = (change db).seenAs seen) :
    Shows (SurveyState.seenAs seen) id (write change) (write change) := by
  refine shows_statement fun db => ?_
  rw [h]
  rfl

theorem shows_log (entry : AuditEntry) :
    Shows (SurveyState.seenAs seen) id (write (SurveyDb.log entry)) (write (SurveyDb.log entry)) :=
  shows_write fun _ => rfl

theorem shows_deleteFloors (surveyId : Id) :
    Shows (SurveyState.seenAs seen) id (write (SurveyDb.deleteFloors surveyId))
      (write (SurveyDb.deleteFloors surveyId)) :=
  shows_write fun _ => rfl

theorem shows_orThrow {result : Except SurveyError α} {result' : Except SurveyError β}
    (h : result' = result.map shown) :
    Shows (SurveyState.seenAs seen) shown (orThrow result) (orThrow result') := by
  subst h
  cases result with
  | ok answer => exact Shows.pure rfl
  | error error => exact Shows.fail error

/-- What does not speak of surveys is thrown or not. -/
theorem shows_check (result : Except SurveyError α) :
    Shows (SurveyState.seenAs seen) id (orThrow result) (orThrow result) :=
  shows_orThrow (by rw [Except.map_id]; rfl)

theorem shows_updateSurvey (id : Id) {data : SurveyData}
    (h : data.text .ownerAadhaar = .undefined) (floors : List ParsedFloor) :
    Shows (SurveyState.seenAs seen) (Survey.seenAs seen)
      (statement (SurveyDb.updateSurvey id data floors))
      (statement (SurveyDb.updateSurvey id data floors)) :=
  shows_statement fun db => db.updateSurvey_seenAs_of_undefined id h floors

theorem shows_transaction {body : SurveyScript α} {body' : SurveyScript β}
    (h : Shows (SurveyState.seenAs seen) shown body body') :
    Shows (SurveyState.seenAs seen) shown (transaction body) (transaction body') := by
  refine Shows.atomically (fun _ _ => rfl) ?_
  have hCommit : Shows (SurveyState.seenAs seen) id (write id) (write id) :=
    shows_write fun _ => rfl
  exact h.bind fun _ => hCommit.bind fun _ => Shows.pure rfl

end Rules

/-- What a condition on other columns finds is found alike. -/
theorem any_seenAs {p : Survey → Bool} (hp : ∀ survey : Survey, p (survey.seenAs seen) = p survey)
    (found : Option Survey) : (found.map (Survey.seenAs seen)).any p = found.any p := by
  cases found with
  | none => rfl
  | some survey => exact hp survey

namespace SurveysService
variable (env : Env)

theorem shows_repairSurveyIdIfNeeded (survey : Survey) (wardNumber : ℤ) :
    Shows (SurveyState.seenAs seen) id (repairSurveyIdIfNeeded env survey wardNumber)
      (repairSurveyIdIfNeeded env (survey.seenAs seen) wardNumber) := by
  unfold repairSurveyIdIfNeeded
  refine Shows.ite Iff.rfl (Shows.pure rfl) ?_
  rw [Survey.seenAs_record]
  cases getExpectedSurveyIdFromRecord env.ulbCode survey.record wardNumber with
  | error error => exact Shows.fail _
  | ok expected =>
      refine (shows_read fun db => db.bySurveyId?_seenAs expected).bind fun clash => ?_
      refine Shows.ite (by rw [any_seenAs fun _ => rfl]; rfl) (Shows.pure rfl) ?_
      have hData : repairData expected (survey.seenAs seen) = repairData expected survey := rfl
      rw [hData, Survey.seenAs_id]
      exact (shows_updateSurvey survey.id rfl []).bind fun _ => Shows.pure rfl

theorem withSurveyId_seenAs (survey : Survey) (surveyId : Text) :
    withSurveyId (survey.seenAs seen) surveyId = (withSurveyId survey surveyId).seenAs seen := by
  unfold withSurveyId
  change (if surveyId = survey.surveyId then _ else _) = _
  split_ifs <;> rfl

theorem shows_ensureCanonicalSurveyId (survey : Survey) :
    Shows (SurveyState.seenAs seen) (Survey.seenAs seen) (ensureCanonicalSurveyId env survey)
      (ensureCanonicalSurveyId env (survey.seenAs seen)) := by
  unfold ensureCanonicalSurveyId
  have hWard : (survey.seenAs seen).wardId = survey.wardId := rfl
  rw [hWard]
  cases env.wards.find? survey.wardId with
  | none => exact Shows.fail _
  | some ward =>
      refine (shows_repairSurveyIdIfNeeded env survey ward.number).bind fun surveyId => ?_
      exact Shows.pure (withSurveyId_seenAs survey surveyId)

theorem shows_assertSurveyIdAvailable (surveyId : Text) (excludeId : Id) :
    Shows (SurveyState.seenAs seen) id (assertSurveyIdAvailable surveyId excludeId)
      (assertSurveyIdAvailable surveyId excludeId) := by
  refine (shows_read fun db => db.bySurveyId?_seenAs surveyId).bind fun clash => ?_
  exact Shows.ite (by rw [any_seenAs fun _ => rfl]) (Shows.fail _) (Shows.pure rfl)

theorem shows_findOne (key : SurveyKey) (user : AuthUser) :
    Shows (SurveyState.seenAs seen) (SurveyWithFloors.seenAs seen) (findOne env key user)
      (findOne env key user) := by
  have hFound : ∀ db : SurveyDb,
      (((db.seenAs seen).surveys.findFirst? fun survey => key.names survey && survey.isLive).map
        fun survey => (⟨survey, (db.seenAs seen).floorsOf survey.id⟩ : SurveyWithFloors)) =
      Option.map (SurveyWithFloors.seenAs seen)
        ((db.surveys.findFirst? fun survey => key.names survey && survey.isLive).map
          fun survey => ⟨survey, db.floorsOf survey.id⟩) := by
    intro db
    have hRow : (db.seenAs seen).surveys.findFirst?
        (fun survey => key.names survey && survey.isLive) =
        (db.surveys.findFirst? fun survey => key.names survey && survey.isLive).map
          (Survey.seenAs seen) :=
      findFirst?_mapRows (Survey.clash_seenAs seen) db.surveys fun survey => by cases key <;> rfl
    rw [hRow, Option.map_map, Option.map_map]
    rfl
  refine (shows_read hFound).bind fun found => ?_
  cases found with
  | none => exact Shows.fail _
  | some found =>
      refine (shows_check _).bind fun _ => ?_
      exact (shows_ensureCanonicalSurveyId env found.survey).bind fun survey => Shows.pure rfl

theorem createData_seenAs (dto : SurveyDto) (wardId : Id) (identity : ResolvedSurveyIdentity)
    (surveyedAt : Field ℤ) (user : AuthUser) :
    createData (dto.seenAs seen) wardId identity surveyedAt user =
      (createData dto wardId identity surveyedAt user).seenAs seen := by
  have hMobile : (dto.seenAs seen).text .mobile = dto.text .mobile := dto.seenAs_text (by decide)
  unfold createData
  rw [hMobile]
  rfl

theorem shows_create (now : Timestamp) (dto : SurveyDto) (user : AuthUser) :
    Shows (SurveyState.seenAs seen) (SurveyWithFloors.seenAs seen) (create env now dto user)
      (create env now (dto.seenAs seen) user) := by
  have hFloors : (dto.seenAs seen).text .floorsRaw = dto.text .floorsRaw :=
    dto.seenAs_text (by decide)
  have hFields : (dto.seenAs seen).wardId = dto.wardId ∧
      (dto.seenAs seen).surveyId = dto.surveyId ∧ (dto.seenAs seen).parcelNo = dto.parcelNo ∧
      (dto.seenAs seen).propertyNo = dto.propertyNo ∧
      (dto.seenAs seen).gisUseCode = dto.gisUseCode ∧
      (dto.seenAs seen).surveyedAt = dto.surveyedAt ∧
      assertCreateIdentityFields (dto.seenAs seen) = assertCreateIdentityFields dto :=
    ⟨rfl, rfl, rfl, rfl, rfl, rfl, rfl⟩
  obtain ⟨hWardId, hSurveyId, hParcelNo, hPropertyNo, hGisUseCode, hSurveyedAt, hChecked⟩ := hFields
  unfold create
  rw [hFloors, hWardId, hSurveyId, hParcelNo, hPropertyNo, hGisUseCode, hSurveyedAt, hChecked]
  refine (shows_check _).bind fun _ => ?_
  cases dto.wardId.toOption with
  | none => exact Shows.fail _
  | some wardId =>
      refine (shows_check _).bind fun _ => ?_
      have hWard : Shows (SurveyState.seenAs seen) id (read fun _ => env.wards.find? wardId)
          (read fun _ => env.wards.find? wardId) := shows_read fun _ => rfl
      refine hWard.bind fun ward => ?_
      cases ward with
      | none => exact Shows.fail _
      | some ward =>
          refine (shows_check _).bind fun identity => ?_
          refine Shows.ite Iff.rfl (Shows.fail _) ?_
          refine (shows_read fun db => db.bySurveyId?_seenAs _).bind fun existing => ?_
          refine Shows.ite (by rw [any_seenAs fun _ => rfl]) (Shows.fail _) ?_
          refine (shows_check _).bind fun surveyedAt => ?_
          have hCreated : Shows (SurveyState.seenAs seen) (SurveyWithFloors.seenAs seen)
              (statement fun db => (db.createSurvey (createData dto wardId identity surveyedAt user)
                (parseFloorsRaw (dto.text .floorsRaw).toOption) now).map withFloors)
              (statement fun db => (db.createSurvey
                (createData (dto.seenAs seen) wardId identity surveyedAt user)
                (parseFloorsRaw (dto.text .floorsRaw).toOption) now).map withFloors) := by
            refine shows_statement fun db => ?_
            rw [createData_seenAs, db.createSurvey_seenAs]
            cases db.createSurvey (createData dto wardId identity surveyedAt user)
              (parseFloorsRaw (dto.text .floorsRaw).toOption) now with
            | error error => rfl
            | ok result => rfl
          refine hCreated.bind fun created => ?_
          exact (shows_log _).bind fun _ => Shows.pure rfl

theorem shows_updateInTransaction (dto : SurveyDto) (current : Survey)
    (identity : ResolvedSurveyIdentity) (user : AuthUser) :
    Shows (SurveyState.seenAs seen) (SurveyWithFloors.seenAs seen)
      (updateInTransaction env dto current identity user)
      (updateInTransaction env (dto.seenAs seen) (current.seenAs seen) identity user) := by
  have hFloors : (dto.seenAs seen).text .floorsRaw = dto.text .floorsRaw :=
    dto.seenAs_text (by decide)
  have hMobile : (dto.seenAs seen).text .mobile = dto.text .mobile := dto.seenAs_text (by decide)
  have hOldMobile : (current.seenAs seen).text .mobile = current.text .mobile :=
    current.seenAs_text (by decide)
  have hData : ∀ surveyedAt,
      updateData (dto.seenAs seen) (current.seenAs seen) identity surveyedAt user =
        (updateData dto current identity surveyedAt user).seenAs seen := by
    intro surveyedAt
    unfold updateData updatedDataQuality
    rw [hMobile, hOldMobile]
    rfl
  have hCreated : updatedFloors (dto.seenAs seen) = updatedFloors dto := by
    rw [updatedFloors, hFloors, updatedFloors]
  unfold updateInTransaction
  rw [hFloors, hCreated]
  refine (Shows.when (shows_assertSurveyIdAvailable _ _)).bind fun _ => ?_
  refine (Shows.when (shows_deleteFloors current.id)).bind fun _ => ?_
  refine (shows_check _).bind fun surveyedAt => ?_
  refine shows_statement fun db => ?_
  rw [id_eq, hData, Survey.seenAs_id, db.updateSurvey_seenAs]
  cases db.updateSurvey current.id (updateData dto current identity surveyedAt user)
    (updatedFloors dto) with
  | error error => rfl
  | ok result => rfl

theorem shows_update (key : SurveyKey) (dto : SurveyDto) (user : AuthUser) :
    Shows (SurveyState.seenAs seen) (SurveyWithFloors.seenAs seen) (update env key dto user)
      (update env key (dto.seenAs seen) user) := by
  refine (shows_findOne env key user).bind fun found => ?_
  refine (shows_check _).bind fun _ => ?_
  have hWard : Shows (SurveyState.seenAs seen) id
      (read fun _ => env.wards.find? (dto.wardId.toOption.getD found.survey.wardId))
      (read fun _ => env.wards.find? ((dto.seenAs seen).wardId.toOption.getD
        (found.seenAs seen).survey.wardId)) := shows_read fun _ => rfl
  refine hWard.bind fun ward => ?_
  cases ward with
  | none => exact Shows.fail _
  | some ward =>
      refine (shows_check _).bind fun identity => ?_
      refine (shows_check _).bind fun _ => ?_
      refine (shows_transaction (shows_updateInTransaction env dto found.survey identity user)).bind
        fun updated => ?_
      have hChanges : diffSurveyChanges (buildAuditState (found.seenAs seen).survey)
          (buildAuditState (updated.seenAs seen).survey) =
          diffSurveyChanges (buildAuditState found.survey) (buildAuditState updated.survey) :=
        diffSurveyChanges_seenAs _ _
      dsimp only
      rw [hChanges]
      exact (Shows.when (shows_log _)).bind fun _ => Shows.pure rfl

theorem shows_remove (now : Timestamp) (key : SurveyKey) (user : AuthUser) :
    Shows (SurveyState.seenAs seen) (Survey.seenAs seen) (remove env now key user)
      (remove env now key user) := by
  refine (shows_findOne env key user).bind fun found => ?_
  refine (shows_check _).bind fun _ => ?_
  refine (shows_updateSurvey found.survey.id rfl []).bind fun survey => ?_
  exact (shows_log _).bind fun _ => Shows.pure rfl

/-! ### Lists -/

theorem buildWhere_seenAs (query : ListSurveysQuery) (surveyedFrom surveyedTo : Option ℤ)
    (survey : Survey) : buildWhere env query surveyedFrom surveyedTo (survey.seenAs seen) =
      buildWhere env query surveyedFrom surveyedTo survey := rfl

theorem lexicographic_seenAs {comparisons : List (Survey → Survey → Bool)}
    (h : ∀ le ∈ comparisons, ∀ s t : Survey, le (s.seenAs seen) (t.seenAs seen) = le s t)
    (s t : Survey) : lexicographic comparisons (s.seenAs seen) (t.seenAs seen) =
      lexicographic comparisons s t := by
  induction comparisons with
  | nil => rfl
  | cons le rest ih =>
      unfold lexicographic
      rw [h le List.mem_cons_self, h le List.mem_cons_self,
        ih fun le' hMem => h le' (List.mem_cons_of_mem _ hMem)]

theorem orderBy_seenAs (query : ListSurveysQuery) :
    ∀ le ∈ orderBy env query, ∀ s t : Survey, le (s.seenAs seen) (t.seenAs seen) = le s t := by
  have hSort : ∀ (sortBy : SortBy) (s t : Survey),
      SortBy.le env sortBy (s.seenAs seen) (t.seenAs seen) = SortBy.le env sortBy s t := by
    intro sortBy s t
    cases sortBy <;> rfl
  have hDirected : ∀ (sortBy : SortBy) (s t : Survey),
      (if query.descending then SortBy.le env sortBy (t.seenAs seen) (s.seenAs seen)
        else SortBy.le env sortBy (s.seenAs seen) (t.seenAs seen)) =
      if query.descending then SortBy.le env sortBy t s else SortBy.le env sortBy s t := by
    intro sortBy s t
    rw [hSort, hSort]
  intro le hMem
  simp only [orderBy] at hMem
  by_cases hParcel : query.sortBy = .parcelNo
  · rw [if_pos hParcel] at hMem
    rcases List.mem_cons.mp hMem with rfl | hMem
    · exact fun _ _ => rfl
    · rcases List.mem_cons.mp hMem with rfl | hMem
      · exact hDirected .surveyId
      · obtain rfl := List.mem_singleton.mp hMem
        exact hDirected .parcelNo
  · rw [if_neg hParcel] at hMem
    obtain rfl := List.mem_singleton.mp hMem
    exact hDirected query.sortBy

/-- Rows that are chosen and sorted without the column are seen in the same order. -/
theorem filter_mergeSort_seenAs {condition : Survey → Bool} {le : Survey → Survey → Bool}
    (hCondition : ∀ survey : Survey, condition (survey.seenAs seen) = condition survey)
    (hLe : ∀ s t : Survey, le (s.seenAs seen) (t.seenAs seen) = le s t) (db : SurveyDb) :
    ((db.seenAs seen).surveys.rows.filter condition).mergeSort le =
      ((db.surveys.rows.filter condition).mergeSort le).map (Survey.seenAs seen) := by
  have hRows : condition ∘ Survey.seenAs seen = condition := funext hCondition
  change ((db.surveys.rows.map (Survey.seenAs seen)).filter condition).mergeSort le = _
  rw [List.filter_map, hRows, List.map_mergeSort fun s _ t _ => (hLe s t).symm]

theorem pageOf_seenAs (query : ListSurveysQuery) (surveyedFrom surveyedTo : Option ℤ)
    (db : SurveyDb) : pageOf env query surveyedFrom surveyedTo (db.seenAs seen) =
      (pageOf env query surveyedFrom surveyedTo db).map (Survey.seenAs seen) := by
  simp only [pageOf]
  rw [filter_mergeSort_seenAs (buildWhere_seenAs env query surveyedFrom surveyedTo)
    (lexicographic_seenAs (orderBy_seenAs env query)), List.map_take, List.map_drop]

theorem shows_ensureCanonicalSurveyIds (surveys : List Survey) :
    Shows (SurveyState.seenAs seen) (List.map (Survey.seenAs seen))
      (ensureCanonicalSurveyIds env surveys)
      (ensureCanonicalSurveyIds env (surveys.map (Survey.seenAs seen))) := by
  induction surveys with
  | nil => exact Shows.pure rfl
  | cons survey surveys ih =>
      refine (shows_ensureCanonicalSurveyId env survey).bind fun repaired => ?_
      exact ih.bind fun others => Shows.pure rfl

theorem shows_findAll (query : ListSurveysQuery) (user : AuthUser) :
    Shows (SurveyState.seenAs seen) (Prod.map (List.map (Survey.seenAs seen)) id)
      (findAll env query user) (findAll env query user) := by
  refine (shows_check _).bind fun _ => ?_
  refine (shows_check _).bind fun surveyedFrom => ?_
  refine (shows_check _).bind fun surveyedTo => ?_
  have hTotal : Shows (SurveyState.seenAs seen) id
      (read fun db => (db.surveys.rows.filter
        (buildWhere env query surveyedFrom surveyedTo)).length)
      (read fun db => (db.surveys.rows.filter
        (buildWhere env query surveyedFrom surveyedTo)).length) := by
    refine shows_read fun db => ?_
    change ((db.surveys.rows.map (Survey.seenAs seen)).filter _).length = _
    rw [List.filter_map, List.length_map]
    rfl
  refine hTotal.bind fun total => ?_
  refine (shows_read (pageOf_seenAs env query surveyedFrom surveyedTo)).bind fun items => ?_
  exact (shows_ensureCanonicalSurveyIds env items).bind fun canonicalItems => Shows.pure rfl

/-! ### Neighbors -/

theorem firstOf_seenAs {condition : Survey → Bool} {le : Survey → Survey → Bool}
    (hCondition : ∀ survey : Survey, condition (survey.seenAs seen) = condition survey)
    (hLe : ∀ s t : Survey, le (s.seenAs seen) (t.seenAs seen) = le s t) (db : SurveyDb) :
    firstOf condition le (db.seenAs seen) = firstOf condition le db := by
  unfold firstOf
  rw [filter_mergeSort_seenAs hCondition hLe, List.head?_map, Option.map_map]
  rfl

theorem shows_firstOf {condition : Survey → Bool} {le : Survey → Survey → Bool}
    (hCondition : ∀ survey : Survey, condition (survey.seenAs seen) = condition survey)
    (hLe : ∀ s t : Survey, le (s.seenAs seen) (t.seenAs seen) = le s t) :
    Shows (SurveyState.seenAs seen) id (read (firstOf condition le))
      (read (firstOf condition le)) :=
  shows_read (firstOf_seenAs hCondition hLe)

theorem shows_findNeighbors (survey : Survey) :
    Shows (SurveyState.seenAs seen) id (findNeighbors env survey)
      (findNeighbors env (survey.seenAs seen)) := by
  have hSame : findNeighbors env (survey.seenAs seen) = findNeighbors env survey := rfl
  rw [hSame]
  refine (shows_firstOf (fun _ => rfl) fun _ _ => rfl).bind fun previous => ?_
  exact (shows_firstOf (fun _ => rfl) fun _ _ => rfl).bind fun next => Shows.pure rfl

end SurveysService

theorem ImportsService.exportedSurveys_seenAs (env : Env) (filters : ExportFilters)
    (db : SurveyDb) : exportedSurveys env filters (db.seenAs seen) =
      (exportedSurveys env filters db).map (Survey.seenAs seen) := by
  have hLe : ∀ s t : Survey, SurveysService.lexicographic
      [SurveysService.wardLe env, SurveysService.SortBy.le env .parcelNo,
        SurveysService.SortBy.le env .surveyId] (s.seenAs seen) (t.seenAs seen) =
      SurveysService.lexicographic [SurveysService.wardLe env,
        SurveysService.SortBy.le env .parcelNo, SurveysService.SortBy.le env .surveyId] s t :=
    fun _ _ => rfl
  simp only [exportedSurveys]
  rw [SurveysService.filter_mergeSort_seenAs (fun _ => rfl) hLe, List.map_take]

end Seen
end PropertyTax.Surveys
