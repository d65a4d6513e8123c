import PropertyTax.Library.Columns
import PropertyTax.Surveys.HeldIds
import PropertyTax.Surveys.ImportRuns
import PropertyTax.Surveys.StoredValues

/-! The audit log as a history of the survey table: what an entry says of an edit,
and what the edit did. -/
namespace PropertyTax.Surveys
open KeyedTable Scripts ImportsService

/-! ### Columns and their values in the log -/

namespace AuditValue

def text? : AuditValue → Option Text
  | text value => some value
  | _ => none

def flag? : AuditValue → Option Bool
  | flag value => some value
  | _ => none

def count? : AuditValue → Option ℤ
  | number value => some value.num
  | _ => none

def decimal? : AuditValue → Option ℤ
  | decimal units => some units
  | _ => none

def reference? : AuditValue → Option Id
  | reference id => some id
  | _ => none

def status? : AuditValue → Option SurveyStatus
  | status value => some value
  | _ => none

@[simp] theorem text?_text (value : Text) : (text value).text? = some value := rfl
@[simp] theorem flag?_flag (value : Bool) : (flag value).flag? = some value := rfl
@[simp] theorem reference?_reference (id : Id) : (reference id).reference? = some id := rfl
@[simp] theorem status?_status (value : SurveyStatus) : (status value).status? = some value := rfl

@[simp] theorem text?_ofOption (a : Option Text) : (ofOption text a).text? = a := by
  cases a <;> rfl

@[simp] theorem flag?_ofOption (a : Option Bool) : (ofOption flag a).flag? = a := by
  cases a <;> rfl

@[simp] theorem decimal?_ofOption (a : Option ℤ) : (ofOption decimal a).decimal? = a := by
  cases a <;> rfl

@[simp] theorem count?_ofOption (a : Option ℤ) :
    (ofOption (fun count : ℤ => number count) a).count? = a := by
  cases a <;> rfl

end AuditValue

/-- Set a column to a value of the log. The letter of the id is no column. -/
def AuditField.write (value : AuditValue) (survey : Survey) : AuditField → Survey
  | surveyId => { survey with surveyId := value.text?.getD survey.surveyId }
  | parcelNo => { survey with parcelNo := value.text? }
  | propertyNo => { survey with propertyNo := value.text? }
  | gisUseCode => survey
  | wardId => { survey with wardId := value.reference?.getD survey.wardId }
  | status => { survey with status := value.status?.getD survey.status }
  | isSlum => { survey with isSlum := value.flag?.getD survey.isSlum }
  | totalWaterConnections => { survey with totalWaterConnections := value.count? }
  | text column => { survey with text := Function.update survey.text column value.text? }
  | flag column => { survey with flag := Function.update survey.flag column value.flag? }
  | area column => { survey with area := Function.update survey.area column value.decimal? }

/-- What the log would say of a column. -/
def columnValue (survey : Survey) (field : AuditField) : AuditValue :=
  (surveyToAuditSnapshot survey field).getD .null

/-- A written column has its new value, and the others stay. -/
theorem columnValue_write (source survey : Survey) (field other : AuditField) :
    columnValue (field.write (columnValue source field) survey) other =
      if other = field then columnValue source field else columnValue survey other := by
  cases field <;> cases other <;>
    simp [columnValue, surveyToAuditSnapshot, AuditField.write, Function.update_apply]
  all_goals split_ifs <;> simp

def surveyColumns : Columns Survey AuditField AuditValue where
  read := columnValue
  write field value survey := field.write value survey
  read_write := columnValue_write

/-! ### Replays -/

/-- The rows agree, but for the quality, the import job and the last editor. -/
def SameColumns (survey other : Survey) : Prop :=
  other = { survey with
    dataQualityStatus := other.dataQualityStatus
    importJobId := other.importJobId
    updatedById := other.updatedById }

/-- The columns that no entry of the log names. -/
def unloggedColumns (survey : Survey) : Id × Option ℤ × Option Id × Timestamp × Option Timestamp :=
  (survey.id, survey.surveyedAt, survey.createdById, survey.createdAt, survey.deletedAt)

/-- Write the values of a list of changes, the new ones or the old ones. -/
def replay (value : AuditChange → AuditValue) (changes : List AuditChange) (survey : Survey) :
    Survey :=
  changes.foldl (fun survey change => change.field.write (value change) survey) survey

/-- The changes tell the edit: they redo it, they undo it, and they are not missing. -/
structure ToldBy (changes : List AuditChange) (before after : Survey) : Prop where
  redo : SameColumns (replay AuditChange.new changes before) after
  undo : SameColumns (replay AuditChange.old changes after) before
  logged : ¬ SameColumns before after → changes ≠ []

/-- Surveys are the same in all columns when they are in those logged and those not. -/
theorem sameColumns_iff {survey other : Survey} : SameColumns survey other ↔
    (∀ field, columnValue survey field = columnValue other field) ∧
      unloggedColumns survey = unloggedColumns other := by
  constructor
  · intro h
    rw [h]
    exact ⟨fun field => by cases field <;> rfl, rfl⟩
  · rintro ⟨hValue, hRest⟩
    simp only [unloggedColumns, Prod.mk.injEq] at hRest
    obtain ⟨hId, hSurveyedAt, hCreatedBy, hCreatedAt, hDeletedAt⟩ := hRest
    have hText : survey.text = other.text := by
      funext column
      simpa [columnValue, surveyToAuditSnapshot] using congrArg AuditValue.text?
        (hValue (.text column))
    have hFlag : survey.flag = other.flag := by
      funext column
      simpa [columnValue, surveyToAuditSnapshot] using congrArg AuditValue.flag?
        (hValue (.flag column))
    have hArea : survey.area = other.area := by
      funext column
      simpa [columnValue, surveyToAuditSnapshot] using congrArg AuditValue.decimal?
        (hValue (.area column))
    have hSurveyId : survey.surveyId = other.surveyId := by
      simpa [columnValue, surveyToAuditSnapshot] using hValue .surveyId
    have hParcelNo : survey.parcelNo = other.parcelNo := by
      simpa [columnValue, surveyToAuditSnapshot] using congrArg AuditValue.text? (hValue .parcelNo)
    have hPropertyNo : survey.propertyNo = other.propertyNo := by
      simpa [columnValue, surveyToAuditSnapshot] using
        congrArg AuditValue.text? (hValue .propertyNo)
    have hWardId : survey.wardId = other.wardId := by
      simpa [columnValue, surveyToAuditSnapshot] using hValue .wardId
    have hStatus : survey.status = other.status := by
      simpa [columnValue, surveyToAuditSnapshot] using hValue .status
    have hIsSlum : survey.isSlum = other.isSlum := by
      simpa [columnValue, surveyToAuditSnapshot] using hValue .isSlum
    have hWater : survey.totalWaterConnections = other.totalWaterConnections := by
      simpa [columnValue, surveyToAuditSnapshot] using
        congrArg AuditValue.count? (hValue .totalWaterConnections)
    cases survey
    cases other
    simp_all [SameColumns]

/-- A logged column is none of the unlogged ones. -/
theorem unloggedColumns_write (field : AuditField) (value : AuditValue) (survey : Survey) :
    unloggedColumns (field.write value survey) = unloggedColumns survey := by
  cases field <;> rfl

/-- The letter of the id may be in the changes; nothing comes of it. -/
theorem replay_diff {before after source : Survey} {shownBefore shownAfter : AuditSnapshot}
    (hBefore : ∀ field, field ≠ .gisUseCode →
      shownBefore field = surveyToAuditSnapshot before field)
    (hAfter : ∀ field, field ≠ .gisUseCode →
      shownAfter field = surveyToAuditSnapshot after field)
    {value : AuditChange → AuditValue} (hValue : ∀ field,
      value ⟨field, columnValue before field, columnValue after field⟩ = columnValue source field)
    (row : Survey) :
    replay value (diffSurveyChanges shownBefore shownAfter) row =
      surveyColumns.overwrite (surveyColumns.changed SURVEY_AUDIT_FIELDS before after) source
        row := by
  unfold diffSurveyChanges
  generalize SURVEY_AUDIT_FIELDS = fields
  induction fields generalizing row with
  | nil => rfl
  | cons field fields ih =>
      rw [List.filterMap_cons]
      by_cases hLetter : field = .gisUseCode
      · subst hLetter
        have hSame : surveyColumns.changed (.gisUseCode :: fields) before after =
            surveyColumns.changed fields before after :=
          List.filter_cons_of_neg (by simp [surveyColumns, columnValue, surveyToAuditSnapshot])
        rw [hSame]
        split
        · exact ih row
        next change hChange =>
          have hField : change.field = .gisUseCode := by
            split_ifs at hChange
            cases hChange
            rfl
          simp only [replay, List.foldl_cons, hField, AuditField.write]
          exact ih row
      · have hSome : ∀ survey : Survey, (surveyToAuditSnapshot survey field).isNone = false := by
          intro survey
          cases field <;> first | rfl | exact absurd rfl hLetter
        rw [hBefore field hLetter, hAfter field hLetter, hSome, Bool.false_and,
          if_neg Bool.false_ne_true]
        by_cases hSame : columnValue before field = columnValue after field
        · have hSkipped : surveyColumns.changed (field :: fields) before after =
              surveyColumns.changed fields before after :=
            List.filter_cons_of_neg (by simp [surveyColumns, hSame])
          rw [hSkipped]
          unfold columnValue at hSame
          rw [if_pos hSame]
          exact ih row
        · have hListed : surveyColumns.changed (field :: fields) before after =
              field :: surveyColumns.changed fields before after :=
            List.filter_cons_of_pos (by simp [surveyColumns, hSame])
          have hWritten := hValue field
          unfold columnValue at hSame hWritten
          rw [hListed, if_neg hSame]
          simp only [replay, List.foldl_cons, hWritten]
          exact ih _

/-- The changes from `current` to `after` tell the edit of `before`, exactly when
`current` is `before` still and every changed column is a compared one. -/
theorem toldBy_iff {before current after : Survey} {shownBefore shownAfter : AuditSnapshot}
    (hBefore : ∀ field, field ≠ .gisUseCode →
      shownBefore field = surveyToAuditSnapshot current field)
    (hAfter : ∀ field, field ≠ .gisUseCode →
      shownAfter field = surveyToAuditSnapshot after field) :
    ToldBy (diffSurveyChanges shownBefore shownAfter) before after ↔
      (∀ field ∈ SURVEY_AUDIT_FIELDS, columnValue before field = columnValue current field) ∧
      (∀ field, field ∉ SURVEY_AUDIT_FIELDS →
        columnValue before field = columnValue after field) ∧
      unloggedColumns before = unloggedColumns after := by
  have hNew := @replay_diff current after after _ _ hBefore hAfter AuditChange.new
    (fun _ => rfl) before
  have hOld := @replay_diff current after current _ _ hBefore hAfter AuditChange.old
    (fun _ => rfl) after
  have hKept := fun source row => @Columns.overwrite_keeps _ _ _ _ surveyColumns
    (surveyColumns.changed SURVEY_AUDIT_FIELDS current after) _ unloggedColumns
    (fun field value survey => unloggedColumns_write field value survey) source row
  have hUndo := @Columns.undo_iff _ _ _ _ surveyColumns SURVEY_AUDIT_FIELDS _ before current
    after
  rw [← hOld] at hUndo
  constructor
  · intro h
    obtain ⟨hValues, hRest⟩ := sameColumns_iff.mp h.undo
    rw [hOld, hKept] at hRest
    obtain ⟨hListed, hOther⟩ := hUndo.mp hValues
    exact ⟨hListed, hOther, hRest.symm⟩
  · rintro ⟨hListed, hOther, hRest⟩
    have hRedone : SameColumns
        (replay AuditChange.new (diffSurveyChanges shownBefore shownAfter) before) after := by
      have hRedo := @Columns.redo_of_undo _ _ _ _ surveyColumns SURVEY_AUDIT_FIELDS _ before
        current after hListed hOther
      rw [hNew, sameColumns_iff, hKept]
      exact ⟨hRedo, hRest⟩
    refine ⟨hRedone, ?_, fun hChanged hNone => ?_⟩
    · rw [sameColumns_iff, hOld, hKept, ← hOld]
      exact ⟨hUndo.mpr ⟨hListed, hOther⟩, hRest.symm⟩
    · rw [hNone] at hRedone
      exact hChanged hRedone

/-! ### Edits of the table -/

namespace AuditEntry

/-- The changes of a SURVEY_UPDATED entry about the survey. -/
def changesOf (id : Id) : AuditEntry → List AuditChange
  | updated survey _ changes | imported survey _ changes _ => if survey = id then changes else []
  | _ => []

end AuditEntry

/-- What was logged between two states tells what became of the survey. -/
def Audited (db db' : SurveyDb) (id : Id) : Prop :=
  ∃ before after entries, db.surveys.find? id = some before ∧
    db'.surveys.find? id = some after ∧ db'.auditLog = db.auditLog ++ entries ∧
    ToldBy (entries.flatMap (AuditEntry.changesOf id)) before after

/-- One edit, with at most one entry. -/
theorem audited_iff {db db' : SurveyDb} {before after : Survey} {changes : List AuditChange}
    {entry : AuditEntry} (hBefore : db.surveys.find? before.id = some before)
    (hAfter : db'.surveys.find? before.id = some after)
    (hEntry : entry.changesOf before.id = changes)
    (hLog : db'.auditLog = (db.logChanges changes entry).auditLog) :
    Audited db db' before.id ↔ ToldBy changes before after := by
  obtain ⟨entries, hEntries, hChanges⟩ : ∃ entries, db'.auditLog = db.auditLog ++ entries ∧
      entries.flatMap (AuditEntry.changesOf before.id) = changes := by
    cases changes with
    | nil => exact ⟨[], hLog.trans (List.append_nil _).symm, rfl⟩
    | cons change changes => exact ⟨[entry], hLog, by simp [hEntry]⟩
  constructor
  · rintro ⟨first, last, others, hFirst, hLast, hOthers, hTold⟩
    obtain rfl := Option.some.inj (hBefore.symm.trans hFirst)
    obtain rfl := Option.some.inj (hAfter.symm.trans hLast)
    obtain rfl : entries = others := List.append_cancel_left (hEntries.symm.trans hOthers)
    rwa [hChanges] at hTold
  · exact fun hTold => ⟨before, after, entries, hBefore, hAfter, hEntries, hChanges.symm ▸ hTold⟩

namespace SurveysService
variable {env : Env} {db : SurveyDb}

/-- A plain update logs nothing. -/
theorem updateSurvey_auditLog {id : Id} {data : SurveyData} {floors : List ParsedFloor}
    {db' : SurveyDb} {survey : Survey} (h : db.updateSurvey id data floors = .ok (db', survey)) :
    db'.auditLog = db.auditLog := by
  unfold SurveyDb.updateSurvey at h
  split at h
  · cases h
  · split_ifs at h
    obtain ⟨surveys, -, hDb⟩ := bind_ok h
    cases hDb
    rfl

/-- A survey is repaired without an entry, into its canonical form. -/
theorem repair_canonical {survey : Survey} (hSurvey : survey ∈ db.surveys.rows) {ward : Ward}
    (hWard : env.wards.find? survey.wardId = some ward) :
    Meets (repairSurveyIdIfNeeded env survey ward.number) (OnDb fun start => start = db)
      (fun surveyId => OnDb fun db' => withSurveyId survey surveyId = canonical env db survey ∧
        canonical env db survey ∈ db'.surveys.rows ∧ db'.auditLog = db.auditLog)
      (OnDb fun _ => True) := by
  have hNeeds := needsRepair_of_target hWard
  have hSelf : withSurveyId survey survey.surveyId = survey := if_pos rfl
  unfold repairSurveyIdIfNeeded
  rw [hNeeds]
  cases hTarget : repairTarget env survey with
  | none =>
      refine Meets.pure fun state hState => ?_
      have hDb : state.db = db := hState
      have hSame : canonical env db survey = survey := by simp [canonical, hTarget]
      exact ⟨hSelf.trans hSame.symm, by rw [hSame, hDb]; exact hSurvey, by rw [hDb]⟩
  | some expected =>
      obtain ⟨hExpected, hChanged⟩ := repairTarget_eq_some hWard hTarget
      rw [hExpected]
      refine Meets.bind (meets_read fun _ _ => trivial) fun clash => ?_
      split
      next hClash =>
        refine Meets.pure fun state hState => ?_
        obtain ⟨hRead, hDb⟩ := hState
        have hSame : canonical env db survey = survey := by
          rw [hDb] at hRead
          cases hFound : db.bySurveyId? expected with
          | none =>
              rw [hFound] at hRead
              subst hRead
              cases hClash
          | some other => simp [canonical, hTarget, hFound]
        exact ⟨hSelf.trans hSame.symm, by rw [hSame, hDb]; exact hSurvey, by rw [hDb]⟩
      · have hWrite : Meets (statement (SurveyDb.updateSurvey survey.id
            (repairData expected survey) []))
            (OnDb fun start => start.bySurveyId? expected = clash ∧ start = db)
            (fun _ => OnDb fun db' => withSurveyId survey expected = canonical env db survey ∧
              canonical env db survey ∈ db'.surveys.rows ∧ db'.auditLog = db.auditLog)
            (OnDb fun _ => True) := by
          refine meets_statement (fun _ _ => trivial) fun start db' updated hStart hRun => ?_
          obtain ⟨-, rfl⟩ := hStart
          have hFree : start.bySurveyId? expected = none := by
            by_contra hHeld
            obtain ⟨other, hOther⟩ := Option.ne_none_iff_exists'.mp hHeld
            obtain ⟨hMem, hId⟩ := SurveyDb.of_bySurveyId? hOther
            have hNe : other.id ≠ survey.id := by
              intro hSame
              obtain rfl := eq_of_key hMem hSurvey hSame
              exact hChanged hId
            have hRefused : start.updateSurvey survey.id (repairData expected survey) [] =
                .error (.refused .uniqueViolation) :=
              SurveyDb.updateSurvey_refused hSurvey rfl rfl hMem hNe hId
            rw [hRefused] at hRun
            cases hRun
          have hCanonical : canonical env start survey = withSurveyId survey expected := by
            simp [canonical, hTarget, hFree]
          obtain ⟨hUpdated, hReplaced⟩ := SurveyDb.updateSurvey_of_mem hSurvey hRun
          rw [repairData_applyTo hChanged] at hUpdated
          rw [hCanonical]
          exact ⟨rfl, hUpdated ▸ hReplaced.mem_new, updateSurvey_auditLog hRun⟩
        exact Meets.bind hWrite fun _ => Meets.pure fun _ h => h

/-- Reading one survey answers with its canonical form, and logs nothing. -/
theorem findOne_canonical {key : SurveyKey} {user : AuthUser} :
    Meets (findOne env key user) (OnDb fun start => start = db)
      (fun found state => (∃ survey, db.addressed key = some survey ∧
          found.survey = canonical env db survey) ∧
        OnDb (fun db' => found.survey ∈ db'.surveys.rows ∧ db'.auditLog = db.auditLog) state)
      (OnDb fun _ => True) := by
  unfold findOne
  refine Meets.bind (meets_read fun _ _ => trivial) fun found => ?_
  intro state hState
  obtain ⟨hFound, hStart⟩ := hState
  cases hSurvey : db.addressed key with
  | none =>
      rw [hStart, ← SurveyDb.addressed, hSurvey] at hFound
      subst hFound
      trivial
  | some survey =>
      rw [hStart, ← SurveyDb.addressed, hSurvey] at hFound
      subst hFound
      have hMem := (addressed_live hSurvey).1
      have hRest : Meets (do
          orThrow ((assertSurveyAccess user survey.createdById .read).mapError .api)
          let canonical ← ensureCanonicalSurveyId env survey
          return (⟨canonical, db.floorsOf survey.id⟩ : SurveyWithFloors))
          (OnDb fun start => start = db)
          (fun found => OnDb fun db' => found.survey = canonical env db survey ∧
            found.survey ∈ db'.surveys.rows ∧ db'.auditLog = db.auditLog) (OnDb fun _ => True) := by
        refine bind_orThrow (fun _ _ => trivial) fun _ _ => ?_
        unfold ensureCanonicalSurveyId
        cases hWard : env.wards.find? survey.wardId with
        | none => exact Meets.fail fun _ _ => trivial
        | some ward =>
            have hEnsured : Meets (do
                let surveyId ← repairSurveyIdIfNeeded env survey ward.number
                return withSurveyId survey surveyId) (OnDb fun start => start = db)
                (fun answer => OnDb fun db' => answer = canonical env db survey ∧
                  answer ∈ db'.surveys.rows ∧ db'.auditLog = db.auditLog) (OnDb fun _ => True) := by
              refine Meets.bind (repair_canonical hMem hWard) fun surveyId => ?_
              exact Meets.pure fun _ h => ⟨h.1, h.1.symm ▸ h.2.1, h.2.2⟩
            exact Meets.bind hEnsured fun answer => Meets.pure fun _ h => h
      refine (hRest state hStart).mono (fun found after hEnd => ?_) fun _ _ => trivial
      exact ⟨⟨survey, rfl, hEnd.1⟩, hEnd.2⟩

/-- What an update stores. -/
theorem updateInTransaction_stored {dto : SurveyDto} {current : Survey}
    {identity : ResolvedSurveyIdentity} {user : AuthUser} {log : List AuditEntry} :
    Meets (transaction (updateInTransaction env dto current identity user))
      (OnDb fun start => current ∈ start.surveys.rows ∧ start.auditLog = log)
      (fun reply => OnDb fun db' => db'.auditLog = log ∧
        db'.surveys.find? current.id = some reply.survey ∧
        ∃ surveyedAt, updatedSurveyedAt env dto.surveyedAt = .ok surveyedAt ∧
          reply.survey = (updateData dto current identity surveyedAt user).applyTo current)
      (OnDb fun _ => True) := by
  refine meets_transaction (fun _ _ => trivial) ?_
  have hChecked : Meets (Script.when (identity.surveyId ≠ current.surveyId)
      (assertSurveyIdAvailable identity.surveyId current.id))
      (OnDb fun start => current ∈ start.surveys.rows ∧ start.auditLog = log)
      (fun _ => OnDb fun start => current ∈ start.surveys.rows ∧ start.auditLog = log)
      (OnDb fun _ => True) := by
    refine Meets.when (fun _ => bind_read (fun _ _ => trivial) fun clash => ?_) fun _ _ h => h
    split_ifs
    · exact Meets.fail fun _ _ => trivial
    · exact Meets.pure fun _ h => h
  have hFloors : Meets (Script.when (dto.text .floorsRaw ≠ .undefined)
      (write (SurveyDb.deleteFloors current.id)))
      (OnDb fun start => current ∈ start.surveys.rows ∧ start.auditLog = log)
      (fun _ => OnDb fun start => current ∈ start.surveys.rows ∧ start.auditLog = log)
      (OnDb fun _ => True) :=
    Meets.when (fun _ => meets_write _ (fun _ _ => trivial) fun _ h => h) fun _ _ h => h
  refine Meets.bind hChecked fun _ => Meets.bind hFloors fun _ => ?_
  refine bind_orThrow (fun _ _ => trivial) fun surveyedAt hSurveyedAt => ?_
  refine meets_statement (fun _ _ => trivial) fun start db' reply hStart hRun => ?_
  obtain ⟨hCurrent, hLog⟩ := hStart
  obtain ⟨result, hUpdate, hReply⟩ := map_ok hRun
  cases hReply
  obtain ⟨hUpdated, hReplaced⟩ := SurveyDb.updateSurvey_of_mem hCurrent hUpdate
  exact ⟨(updateSurvey_auditLog hUpdate).trans hLog, hReplaced.find?_new, surveyedAt, hSurveyedAt,
    hUpdated⟩

theorem canonical_id (survey : Survey) : (canonical env db survey).id = survey.id :=
  canonical_kept survey |>.2

/-- The fields that an update has changed since the repair. -/
def updateChanges (current updated : Survey) : List AuditChange :=
  diffSurveyChanges (buildAuditState current) (buildAuditState updated)

/-- What an update of `current` stores and logs. -/
structure StoresUpdate (env : Env) (dto : SurveyDto) (user : AuthUser) (db : SurveyDb)
    (current : Survey) (reply : SurveyWithFloors) (db' : SurveyDb) : Prop where
  found : db'.surveys.find? current.id = some reply.survey
  written : ∃ identity surveyedAt, updatedSurveyedAt env dto.surveyedAt = .ok surveyedAt ∧
    reply.survey = (updateData dto current identity surveyedAt user).applyTo current
  logged : db'.auditLog = (db.logChanges (updateChanges current reply.survey)
    (.updated reply.survey.id user.id (updateChanges current reply.survey))).auditLog

/-- What is logged goes on top of the log. -/
theorem auditLog_logChanges {db db' : SurveyDb} (h : db'.auditLog = db.auditLog)
    (changes : List AuditChange) (entry : AuditEntry) :
    (db'.logChanges changes entry).auditLog = (db.logChanges changes entry).auditLog := by
  cases changes with
  | nil => exact h
  | cons change changes => exact congrArg (· ++ [entry]) h

/-- An update stores what the request makes of the canonical form. -/
theorem update_stored {key : SurveyKey} {dto : SurveyDto} {user : AuthUser} :
    Meets (update env key dto user) (OnDb fun start => start = db)
      (fun reply => OnDb fun db' => ∃ survey, db.addressed key = some survey ∧
        StoresUpdate env dto user db (canonical env db survey) reply db')
      (OnDb fun _ => True) := by
  refine Meets.bind findOne_canonical fun found => Meets.given fun hFound => ?_
  obtain ⟨survey, hSurvey, hCanonical⟩ := hFound
  have hPost : ∀ (reply : SurveyWithFloors) (state : SurveyState),
      OnDb (StoresUpdate env dto user db found.survey reply) state →
      OnDb (fun db' => ∃ survey, db.addressed key = some survey ∧
        StoresUpdate env dto user db (canonical env db survey) reply db') state :=
    fun reply state h => ⟨survey, hSurvey, hCanonical ▸ h⟩
  refine Meets.mono ?_ (fun _ h => h) hPost fun _ h => h
  refine bind_orThrow (fun _ _ => trivial) fun _ _ => ?_
  refine bind_lookup (fun _ _ => trivial) ?_
  cases env.wards.find? (dto.wardId.toOption.getD found.survey.wardId) with
  | none => exact Meets.fail fun _ _ => trivial
  | some ward =>
      refine bind_orThrow (fun _ _ => trivial) fun identity _ => ?_
      refine bind_orThrow (fun _ _ => trivial) fun _ _ => ?_
      refine Meets.bind updateInTransaction_stored fun updated => ?_
      have hLogged : Meets (Script.when (!(updateChanges found.survey updated.survey).isEmpty)
          (write (SurveyDb.log (.updated updated.survey.id user.id
            (updateChanges found.survey updated.survey)))))
          (OnDb fun start => start.auditLog = db.auditLog ∧
            start.surveys.find? found.survey.id = some updated.survey ∧
            ∃ surveyedAt, updatedSurveyedAt env dto.surveyedAt = .ok surveyedAt ∧
              updated.survey = (updateData dto found.survey identity surveyedAt user).applyTo
                found.survey)
          (fun _ => OnDb (StoresUpdate env dto user db found.survey updated))
          (OnDb fun _ => True) := by
        refine Meets.when (fun hSome => meets_write _ (fun _ _ => trivial) fun start hStart => ?_)
          fun hNone state hState => ?_
        · obtain ⟨hLog, hStored, surveyedAt, hSurveyedAt, hUpdated⟩ := hStart
          refine ⟨hStored, ⟨identity, surveyedAt, hSurveyedAt, hUpdated⟩, ?_⟩
          rw [← auditLog_logChanges hLog, SurveyDb.logChanges, if_neg (by simpa using hSome)]
        · obtain ⟨hLog, hStored, surveyedAt, hSurveyedAt, hUpdated⟩ := hState
          refine ⟨hStored, ⟨identity, surveyedAt, hSurveyedAt, hUpdated⟩, ?_⟩
          rw [← auditLog_logChanges hLog, SurveyDb.logChanges, if_pos (by simpa using hNone)]
      exact Meets.bind hLogged fun _ => Meets.pure fun _ h => h

/-! ### When the trail is complete -/

/-- No repair is due, or another survey holds the id. -/
def Unrepaired (env : Env) (db : SurveyDb) (survey : Survey) : Prop :=
  ∀ expected, repairTarget env survey = some expected → (db.bySurveyId? expected).isSome

/-- Only the id and both numbers are repaired. -/
theorem canonical_columns (survey : Survey) : ∃ surveyId parcelNo propertyNo,
    canonical env db survey = { survey with surveyId, parcelNo, propertyNo } := by
  unfold canonical
  split
  · exact ⟨survey.surveyId, survey.parcelNo, survey.propertyNo, rfl⟩
  · split_ifs
    · exact ⟨survey.surveyId, survey.parcelNo, survey.propertyNo, rfl⟩
    · unfold withSurveyId
      split_ifs
      · exact ⟨survey.surveyId, survey.parcelNo, survey.propertyNo, rfl⟩
      · exact ⟨_, _, _, rfl⟩

/-- A survey is not repaired when its logged columns are canonical. -/
theorem unrepaired_iff {survey : Survey} : Unrepaired env db survey ↔
    ∀ field ∈ SURVEY_AUDIT_FIELDS,
      columnValue survey field = columnValue (canonical env db survey) field := by
  cases hTarget : repairTarget env survey with
  | none =>
      have hSame : canonical env db survey = survey := by simp [canonical, hTarget]
      simp [Unrepaired, hTarget, hSame]
  | some expected =>
      have hChanged : survey.surveyId ≠ expected := by
        cases hWard : env.wards.find? survey.wardId with
        | none => simp [repairTarget, hWard] at hTarget
        | some ward => exact (repairTarget_eq_some hWard hTarget).2
      cases hHeld : (db.bySurveyId? expected).isSome with
      | true =>
          have hSame : canonical env db survey = survey := by simp [canonical, hTarget, hHeld]
          simp [Unrepaired, hTarget, hHeld, hSame]
      | false =>
          have hNew : canonical env db survey = withSurveyId survey expected := by
            simp [canonical, hTarget, hHeld]
          refine iff_of_false (fun h => ?_) fun h => ?_
          · have hSome := h expected hTarget
            rw [hHeld] at hSome
            cases hSome
          · have hId := h .surveyId (by decide)
            rw [hNew] at hId
            simp [columnValue, surveyToAuditSnapshot, withSurveyId, hChanged.symm, hChanged] at hId

end SurveysService

/-- The columns outside the compared ones are left out of a write, or written as
they are. -/
structure KeepsUnaudited (surveyedAt : Field ℤ) (text : TextColumn → Field Text)
    (flag : FlagColumn → Field Bool) (survey : Survey) : Prop where
  surveyedAt : surveyedAt.assign survey.surveyedAt = survey.surveyedAt
  text : ∀ column, .text column ∉ SURVEY_AUDIT_FIELDS →
    (text column).assign (survey.text column) = survey.text column
  flag : ∀ column, .flag column ∉ SURVEY_AUDIT_FIELDS →
    (flag column).assign (survey.flag column) = survey.flag column

/-- A write over the survey, or over what a repair has made of it. -/
theorem keepsUnaudited_iff {data : SurveyData} {survey current : Survey}
    (hCurrent : ∃ surveyId parcelNo propertyNo,
      current = { survey with surveyId, parcelNo, propertyNo })
    (hCreatedBy : data.createdById = .undefined)
    (hDeletedAt : data.deletedAt.assign survey.deletedAt = survey.deletedAt) :
    ((∀ field, field ∉ SURVEY_AUDIT_FIELDS →
        columnValue survey field = columnValue (data.applyTo current) field) ∧
      unloggedColumns survey = unloggedColumns (data.applyTo current)) ↔
    KeepsUnaudited data.surveyedAt data.text data.flag survey := by
  obtain ⟨surveyId, parcelNo, propertyNo, rfl⟩ := hCurrent
  constructor
  · rintro ⟨hValues, hRest⟩
    refine ⟨?_, fun column hColumn => ?_, fun column hColumn => ?_⟩
    · simp only [unloggedColumns, SurveyData.applyTo, Prod.mk.injEq] at hRest
      exact hRest.2.1.symm
    · simpa [columnValue, surveyToAuditSnapshot, SurveyData.applyTo] using
        (congrArg AuditValue.text? (hValues _ hColumn)).symm
    · simpa [columnValue, surveyToAuditSnapshot, SurveyData.applyTo] using
        (congrArg AuditValue.flag? (hValues _ hColumn)).symm
  · intro h
    refine ⟨fun field hField => ?_, ?_⟩
    · cases field with
      | text column =>
          simp [columnValue, surveyToAuditSnapshot, SurveyData.applyTo, h.text column hField]
      | flag column =>
          simp [columnValue, surveyToAuditSnapshot, SurveyData.applyTo, h.flag column hField]
      | area column => exact absurd (by cases column <;> decide) hField
      | _ => exact absurd (by decide) hField
    · simp [unloggedColumns, SurveyData.applyTo, h.surveyedAt, hCreatedBy, hDeletedAt]

/-- The states that are compared are the snapshots, but for the use code. -/
theorem buildAuditState_eq (survey : Survey) (field : AuditField) (h : field ≠ .gisUseCode) :
    buildAuditState survey field = surveyToAuditSnapshot survey field := by
  cases field <;> first | rfl | exact absurd rfl h

section Calls
variable {env : Env} {db : SurveyDb}
open SurveysService

/-- The addressed survey is stored under its key. -/
theorem find?_of_addressed {key : SurveyKey} {survey : Survey}
    (h : db.addressed key = some survey) : db.surveys.find? survey.id = some survey :=
  find?_eq_some_iff.mpr ⟨(addressed_live h).1, rfl⟩

/-- An accepted update. -/
theorem update_audited_iff {key : SurveyKey} {dto : SurveyDto} {user : AuthUser} {survey : Survey}
    {outages : List Bool} {after : SurveyState} {reply : SurveyWithFloors}
    (hSurvey : db.addressed key = some survey)
    (hRun : update env key dto user ⟨db, outages⟩ = (after, .ok reply)) :
    Audited db after.db survey.id ↔ Unrepaired env db survey ∧
      ∀ surveyedAt, updatedSurveyedAt env dto.surveyedAt = .ok surveyedAt →
        KeepsUnaudited surveyedAt dto.text dto.flag survey := by
  have hEnd := @update_stored env db key dto user ⟨db, outages⟩ rfl
  rw [hRun] at hEnd
  obtain ⟨other, hOther, hStores⟩ := hEnd
  obtain rfl := Option.some.inj (hSurvey.symm.trans hOther)
  obtain ⟨identity, surveyedAt, hSurveyedAt, hReply⟩ := hStores.written
  have hFound := hStores.found
  rw [canonical_id] at hFound
  have hId : reply.survey.id = survey.id := (find?_eq_some_iff.mp hFound).2
  have hEntry : (AuditEntry.updated reply.survey.id user.id
      (updateChanges (canonical env db survey) reply.survey)).changesOf survey.id =
        updateChanges (canonical env db survey) reply.survey := if_pos hId
  have hTold := @toldBy_iff survey (canonical env db survey) reply.survey _ _
    (buildAuditState_eq _) (buildAuditState_eq _)
  rw [audited_iff (find?_of_addressed hSurvey) hFound hEntry hStores.logged, updateChanges, hTold,
    ← unrepaired_iff]
  refine and_congr_right fun _ => ?_
  have hKeeps := @keepsUnaudited_iff (updateData dto (canonical env db survey) identity surveyedAt user)
    survey _ (@canonical_columns env db survey) rfl rfl
  rw [hReply, hKeeps]
  constructor
  · intro h time hTime
    obtain rfl := Except.ok.inj (hSurveyedAt.symm.trans hTime)
    exact h
  · exact fun h => h surveyedAt hSurveyedAt

/-- An import row does not say who created a survey. -/
theorem parseRow_createdById {job : ImportJob} {cells : RowCells} {row : ImportRow}
    (h : parseRow env job cells = .ok row) : row.payload.createdById = .undefined := by
  obtain ⟨-, -, -, -, -, hPayload, -⟩ := parseRow_ok h
  rw [hPayload]
  rfl

/-- A row of an UPDATE import that has a match and is stored. -/
theorem importRow_audited_iff {job : ImportJob} {now : Timestamp} {cells : RowCells}
    {row : ImportRow} {existing : Survey} {after : SurveyState} {outcome : RowOutcome}
    (hUpdate : job.duplicateStrategy = .update) (hParse : parseRow env job cells = .ok row)
    (hMatch : matchOf row db = some existing)
    (hRun : storeRow job now row ⟨db, []⟩ = (after, .ok outcome)) :
    Audited db after.db existing.id ↔ isShortcut row existing = true ∨ existing.isLive = true ∧
      KeepsUnaudited row.payload.surveyedAt row.payload.text row.payload.flag existing := by
  have hFound := find?_of_matchOf hMatch
  rcases storeRow_ends job now row db with ⟨db', outcome', hDone, hRun'⟩ | ⟨error, -, hRun'⟩
  · obtain ⟨rfl, hOutcome⟩ := Prod.mk.inj (hRun.symm.trans hRun')
    cases hDone with
    | skipped _ hSkip =>
        rw [hUpdate] at hSkip
        cases hSkip
    | inserted hInsert =>
        rw [hInsert.eq_none hUpdate] at hMatch
        cases hMatch
    | collided hInsert =>
        rw [hInsert.eq_none hUpdate] at hMatch
        cases hMatch
    | unchanged hOther _ hShortcut =>
        obtain rfl := Option.some.inj (hMatch.symm.trans hOther)
        refine iff_of_true ⟨existing, existing, [], hFound, hFound, (List.append_nil _).symm,
          rfl, rfl, fun h => absurd rfl h⟩ (.inl hShortcut)
    | @rewritten db' _ _ hOther _ hShortcut hWritten =>
        obtain rfl := Option.some.inj (hMatch.symm.trans hOther)
        have hKept : existing ∈ (db.deleteFloors existing.id).surveys.rows := matchOf_mem hMatch
        obtain ⟨rfl, hReplaced⟩ := SurveyDb.updateSurvey_of_mem hKept hWritten
        have hAfter := hReplaced.find?_new
        rw [← SurveyDb.logChanges_surveys] at hAfter
        have hTold := @toldBy_iff existing existing ((ImportRow.rewriteData row).applyTo existing) _ _
          (fun _ _ => rfl) fun _ _ => rfl
        have hLog := updateSurvey_auditLog hWritten
        change db'.auditLog = db.auditLog at hLog
        have hEntry : (importEntry job existing ((ImportRow.rewriteData row).applyTo
            existing)).changesOf existing.id =
              importChanges existing ((ImportRow.rewriteData row).applyTo existing) := if_pos rfl
        rw [audited_iff hFound hAfter hEntry
          (auditLog_logChanges hLog _ _), importChanges, hTold,
          and_iff_right fun _ _ => rfl, hShortcut, or_iff_right Bool.false_ne_true]
        have hDeleted : existing.isLive = true ↔ existing.deletedAt = none := Option.isNone_iff_eq_none
        by_cases hLive : existing.isLive = true
        · rw [and_iff_right hLive]
          exact keepsUnaudited_iff ⟨_, _, _, rfl⟩ (parseRow_createdById hParse)
            (hDeleted.mp hLive).symm
        · refine iff_of_false (fun h => hLive (hDeleted.mpr ?_)) fun h => hLive h.1
          have hRest := h.2
          simp only [unloggedColumns, Prod.mk.injEq] at hRest
          exact hRest.2.2.2.2
  · cases congrArg Prod.snd (hRun.symm.trans hRun')

end Calls

/-- The entries tell an edit exactly when it starts with no repair, revives no
survey, and leaves the columns outside the compared ones as they are. -/
structure AuditTrail (env : Env) (db : SurveyDb) : Prop where
  update : ∀ {key : SurveyKey} {dto : SurveyDto} {user : AuthUser} {survey : Survey}
    {outages : List Bool} {after : SurveyState} {reply : SurveyWithFloors},
    db.addressed key = some survey →
    SurveysService.update env key dto user ⟨db, outages⟩ = (after, .ok reply) →
    (Audited db after.db survey.id ↔ SurveysService.Unrepaired env db survey ∧
      ∀ surveyedAt, SurveysService.updatedSurveyedAt env dto.surveyedAt = .ok surveyedAt →
        KeepsUnaudited surveyedAt dto.text dto.flag survey)
  importRow : ∀ {job : ImportJob} {now : Timestamp} {cells : RowCells} {row : ImportRow}
    {existing : Survey} {after : SurveyState} {outcome : RowOutcome},
    job.duplicateStrategy = .update → parseRow env job cells = .ok row →
    matchOf row db = some existing →
    storeRow job now row ⟨db, []⟩ = (after, .ok outcome) →
    (Audited db after.db existing.id ↔ isShortcut row existing = true ∨ existing.isLive = true ∧
      KeepsUnaudited row.payload.surveyedAt row.payload.text row.payload.flag existing)

/-- Exactly these edits, and exactly these import rows, are told by their entries. -/
theorem auditTrail_exact (env : Env) (db : SurveyDb) : AuditTrail env db where
  update := update_audited_iff
  importRow := importRow_audited_iff

namespace Sample

def surveyEditor : AuthUser := ⟨2, ["survey:read", "survey:update"], []⟩

def aadhaarDto : SurveyDto where
  text column := if column = .ownerAadhaar then .value "444455553333".toList else .undefined

/-- The body of the update names one column only. -/
theorem updated_aadhaar :
    ((withAadhaar "111122223333").addressed (.rowId 1)).map (fun survey =>
      (survey.id, survey.text .ownerAadhaar)) = some (1, some "111122223333".toList) ∧
    ((SurveysService.update firstWard (.rowId 1) aadhaarDto surveyEditor
      ⟨withAadhaar "111122223333", []⟩).2.toOption.map fun reply =>
        reply.survey.text .ownerAadhaar) = some (some "444455553333".toList) ∧
    (((SurveysService.update firstWard (.rowId 1) aadhaarDto surveyEditor
      ⟨withAadhaar "111122223333", []⟩).1.db.surveys.find? 1).map fun survey =>
        survey.text .ownerAadhaar) = some (some "444455553333".toList) ∧
    (SurveysService.update firstWard (.rowId 1) aadhaarDto surveyEditor
      ⟨withAadhaar "111122223333", []⟩).1.db.auditLog = [] := by
  decide

end Sample

/-- An accepted edit of an Aadhaar number is not logged. -/
theorem update_unlogged : ¬ ∀ (env : Env) (db : SurveyDb) (key : SurveyKey) (dto : SurveyDto)
    (user : AuthUser) (survey : Survey) (after : SurveyState) (reply : SurveyWithFloors),
    db.addressed key = some survey →
    SurveysService.update env key dto user ⟨db, []⟩ = (after, .ok reply) →
    Audited db after.db survey.id := by
  intro hLaw
  obtain ⟨hAddressed, hReply, hStored, hLog⟩ := Sample.updated_aadhaar
  obtain ⟨survey, hSurvey, hPair⟩ := Option.map_eq_some_iff.mp hAddressed
  obtain ⟨hId, hBefore⟩ := Prod.mk.inj hPair
  obtain ⟨reply, hReply, -⟩ := Option.map_eq_some_iff.mp hReply
  obtain ⟨before, after, entries, hFirst, hLast, hEntries, hTold⟩ := hLaw _ _ _ _ _ survey _ reply
    hSurvey (Prod.ext rfl (ok_of_toOption hReply))
  obtain rfl := Option.some.inj ((find?_of_addressed hSurvey).symm.trans hFirst)
  rw [hLog] at hEntries
  obtain rfl : entries = [] := (List.append_eq_nil_iff.mp hEntries.symm).2
  have hSame := congrArg Survey.text hTold.redo
  rw [hId] at hLast
  rw [hLast, Option.map_some, hSame] at hStored
  exact absurd (hBefore.symm.trans (Option.some.inj hStored)) (by decide)

namespace Sample

/-- The owner's name alone is edited, and comes to the log. -/
def renamedDto : SurveyDto where
  text column := if column = .ownerName then .value "Ravi".toList else .undefined

theorem updated_renamed :
    ((withAadhaar "111122223333").addressed (.rowId 1)).map (fun survey =>
      (survey.id, SurveysService.repairTarget firstWard survey)) = some (1, none) ∧
    (SurveysService.update firstWard (.rowId 1) renamedDto surveyEditor
      ⟨withAadhaar "111122223333", []⟩).2.toOption.isSome = true ∧
    (SurveysService.update firstWard (.rowId 1) renamedDto surveyEditor
      ⟨withAadhaar "111122223333", []⟩).1.db.auditLog.length = 1 := by
  decide

end Sample

/-- An accepted edit of the owner's name is told by its entry. -/
theorem auditTrail_exact_renamed : ∃ after reply,
    SurveysService.update Sample.firstWard (.rowId 1) Sample.renamedDto Sample.surveyEditor
      ⟨Sample.withAadhaar "111122223333", []⟩ = (after, .ok reply) ∧
    Audited (Sample.withAadhaar "111122223333") after.db 1 ∧ after.db.auditLog.length = 1 := by
  obtain ⟨hAddressed, hReply, hLog⟩ := Sample.updated_renamed
  obtain ⟨survey, hSurvey, hPair⟩ := Option.map_eq_some_iff.mp hAddressed
  obtain ⟨hId, hTarget⟩ := Prod.mk.inj hPair
  obtain ⟨reply, hReply⟩ := Option.isSome_iff_exists.mp hReply
  have hRun : SurveysService.update Sample.firstWard (.rowId 1) Sample.renamedDto
      Sample.surveyEditor ⟨Sample.withAadhaar "111122223333", []⟩ = (_, .ok reply) :=
    Prod.ext rfl (ok_of_toOption hReply)
  have hAudited := (auditTrail_exact Sample.firstWard (Sample.withAadhaar "111122223333")).update
    hSurvey hRun
  refine ⟨_, reply, hRun, hId ▸ hAudited.mpr ⟨fun expected hExpected => ?_, ?_⟩, hLog⟩
  · rw [hTarget] at hExpected
    cases hExpected
  · rintro surveyedAt hSurveyedAt
    cases hSurveyedAt
    refine ⟨rfl, fun column hColumn => ?_, fun _ _ => rfl⟩
    have hOther : column ≠ .ownerName := by
      rintro rfl
      exact hColumn (by decide)
    exact congrArg (fun field : Field Text => field.assign (survey.text column)) (if_neg hOther)

end PropertyTax.Surveys
