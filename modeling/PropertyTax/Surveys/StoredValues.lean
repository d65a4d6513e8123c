import PropertyTax.Surveys.AadhaarSecrecy
import PropertyTax.Surveys.ImportRuns
import PropertyTax.Surveys.Reprocess

/-! Which values of a file an UPDATE job stores: all of them, except where a
blank cell leaves the old value in place, and where nothing that is compared
has changed. -/
namespace PropertyTax.Surveys
open KeyedTable Runs ImportsService

/-- The columns of the row hold the values of the file, and nothing where its
cell is blank. -/
structure HoldsRow (row : ImportRow) (survey : Survey) : Prop where
  surveyId : survey.surveyId = row.surveyId
  wardId : survey.wardId = row.ward.id
  parcelNo : survey.parcelNo = some row.parcelNo
  propertyNo : survey.propertyNo = some row.propertyNo
  status : survey.status = .active
  isSlum : some survey.isSlum = row.payload.isSlum.toOption
  dataQuality : some survey.dataQualityStatus = row.payload.dataQualityStatus.toOption
  surveyedAt : survey.surveyedAt = row.payload.surveyedAt.toOption
  text : ∀ column, survey.text column = (row.payload.text column).toOption
  flag : ∀ column, survey.flag column = (row.payload.flag column).toOption
  area : ∀ column, (survey.area column).map (FixedPoint.toNumber AREA_SCALE) =
    (row.payload.area column).toOption
  totalWaterConnections : survey.totalWaterConnections.map (fun count : ℤ => (count : ℚ)) =
    row.payload.totalWaterConnections.toOption

/-! ### One row -/

/-- The areas of the row have no more than the four digits of their columns. -/
def AreasFit (row : ImportRow) : Prop :=
  ∀ column x, (row.payload.area column).toOption = some x →
    FixedPoint.toNumber AREA_SCALE (FixedPoint.store AREA_SCALE x) = x

/-- Where the row has no date, no answer or no number, the survey has none. -/
structure BlankWhereRowIs (row : ImportRow) (existing : Survey) : Prop where
  surveyedAt : row.payload.surveyedAt = .undefined → existing.surveyedAt = none
  flag : ∀ column, row.payload.flag column = .undefined → existing.flag column = none
  area : ∀ column, row.payload.area column = .undefined → existing.area column = none
  totalWaterConnections : row.payload.totalWaterConnections = .undefined →
    existing.totalWaterConnections = none

/-- The columns that no comparison looks at are those of the row already. -/
structure SameUnaudited (row : ImportRow) (existing : Survey) : Prop where
  dataQuality : some existing.dataQualityStatus = row.payload.dataQualityStatus.toOption
  surveyedAt : existing.surveyedAt = row.payload.surveyedAt.toOption
  text : ∀ column, .text column ∉ SURVEY_AUDIT_FIELDS →
    existing.text column = (row.payload.text column).toOption
  flag : ∀ column, .flag column ∉ SURVEY_AUDIT_FIELDS →
    existing.flag column = (row.payload.flag column).toOption

/-- What the row is stored over keeps nothing back. -/
structure WritesAll (row : ImportRow) (db : SurveyDb) : Prop where
  areas : AreasFit row
  rewritten : ∀ existing, matchOf row db = some existing → isShortcut row existing = false →
    BlankWhereRowIs row existing
  unchanged : ∀ existing, matchOf row db = some existing → isShortcut row existing = true →
    SameUnaudited row existing

/-- The reader of a row writes no null but over a text. -/
structure ImportRow.IsRead (row : ImportRow) : Prop where
  isParsed : row.IsParsed
  surveyedAt : row.payload.surveyedAt ≠ .null
  flag : ∀ column, row.payload.flag column ≠ .null
  area : ∀ column, row.payload.area column ≠ .null
  totalWaterConnections : row.payload.totalWaterConnections ≠ .null
  isSlum : ∃ isSlum, row.payload.isSlum = .value isSlum
  dataQuality : ∃ status, row.payload.dataQualityStatus = .value status

/-- A parsed row is read from its cells. -/
theorem parseRow_isRead {env : Env} {job : ImportJob} {cells : RowCells} {row : ImportRow}
    (h : parseRow env job cells = .ok row) : row.IsRead := by
  have hParsed := parseRow_isParsed h
  obtain ⟨-, -, -, -, -, hPayload, -⟩ := parseRow_ok h
  have hNotNull : ∀ {α : Type} (a : Option α), Field.orUndefined a ≠ .null := by
    intro α a
    cases a <;> simp [Field.orUndefined]
  refine ⟨hParsed, ?_, ?_, ?_, ?_, ?_, ?_⟩ <;> simp [hPayload, rowPayload, hNotNull]

namespace Field
variable {α : Type}

/-- A write leaves its value, unless it is no write and there is an old one. -/
theorem assign_eq_toOption_iff {field : Field α} {old : Option α} :
    field.assign old = field.toOption ↔ (field = .undefined → old = none) := by
  cases field <;> simp [assign, toOption]

end Field

/-- A stored measure reads as the cell when a blank one met none and a filled one fits the column.
-/
theorem toNumber_store_iff {field : Field ℚ} {old : Option ℤ} (hNull : field ≠ .null) :
    (((field.map (FixedPoint.store AREA_SCALE)).assign old).map (FixedPoint.toNumber AREA_SCALE) =
        field.toOption) ↔
      (field = .undefined → old = none) ∧ ∀ x, field.toOption = some x →
        FixedPoint.toNumber AREA_SCALE (FixedPoint.store AREA_SCALE x) = x := by
  cases field with
  | undefined => simp [Field.map, Field.assign, Field.toOption]
  | null => exact absurd rfl hNull
  | value x => simp [Field.map, Field.assign, Field.toOption]

/-- A stored count reads as the cell when a blank one met none. -/
theorem count_store_iff {field : Field ℚ} {old : Option ℤ} (hNull : field ≠ .null)
    (hFits : field.toOption.all fitsInt = true) :
    (((field.map Rat.num).assign old).map (fun count : ℤ => (count : ℚ)) = field.toOption) ↔
      (field = .undefined → old = none) := by
  cases field with
  | undefined => simp [Field.map, Field.assign, Field.toOption]
  | null => exact absurd rfl hNull
  | value x =>
      have hDen : x.den = 1 := by
        simp only [Field.toOption, Option.all_some, fitsInt, Bool.and_eq_true, beq_iff_eq] at hFits
        exact hFits.1.1
      simp [Field.map, Field.assign, Field.toOption, Rat.den_eq_one_iff x |>.mp hDen]

section Row
variable {now : Timestamp} {row : ImportRow} {db db' : SurveyDb} {id : Id}

/-- Writing the row stores its values but for the blank ones. -/
theorem holdsRow_rewrite_iff (hRead : row.IsRead) (hValid : (ImportRow.rewriteData row).isValid = true)
    (existing : Survey) : HoldsRow row ((ImportRow.rewriteData row).applyTo existing) ↔
      AreasFit row ∧ BlankWhereRowIs row existing := by
  have hParsed := hRead.isParsed
  have hFits : row.payload.totalWaterConnections.toOption.all fitsInt = true :=
    (Bool.and_eq_true_iff.mp hValid).2
  have hArea := fun column => @toNumber_store_iff (row.payload.area column) (existing.area column)
    (hRead.area column)
  have hCount := @count_store_iff row.payload.totalWaterConnections existing.totalWaterConnections
    hRead.totalWaterConnections hFits
  constructor
  · intro h
    refine ⟨fun column x hx => ((hArea column).mp (h.area column)).2 x hx, ?_, ?_, ?_, ?_⟩
    · exact Field.assign_eq_toOption_iff.mp h.surveyedAt
    · exact fun column => Field.assign_eq_toOption_iff.mp (h.flag column)
    · exact fun column => ((hArea column).mp (h.area column)).1
    · exact hCount.mp h.totalWaterConnections
  · rintro ⟨hFit, hBlank⟩
    obtain ⟨isSlum, hSlum⟩ := hRead.isSlum
    obtain ⟨quality, hQuality⟩ := hRead.dataQuality
    refine ⟨?_, ?_, ?_, ?_, rfl, ?_, ?_, ?_, ?_, ?_, ?_, ?_⟩
    · simp [ImportRow.rewriteData, SurveyData.applyTo, hParsed.surveyId]
    · simp [ImportRow.rewriteData, SurveyData.applyTo, hParsed.wardId]
    · simp [ImportRow.rewriteData, SurveyData.applyTo, hParsed.parcelNo]
    · simp [ImportRow.rewriteData, SurveyData.applyTo, hParsed.propertyNo]
    · simp [ImportRow.rewriteData, SurveyData.applyTo, hSlum]
    · simp [ImportRow.rewriteData, SurveyData.applyTo, hQuality]
    · exact Field.assign_eq_toOption_iff.mpr hBlank.surveyedAt
    · exact fun column => hParsed.text column _
    · exact fun column => Field.assign_eq_toOption_iff.mpr (hBlank.flag column)
    · exact fun column => (hArea column).mpr ⟨hBlank.area column, hFit column⟩
    · exact hCount.mpr hBlank.totalWaterConnections

/-- A stored decimal never equals a parsed number: no area stands unchanged. -/
theorem areas_of_isShortcut {existing : Survey} (hShortcut : isShortcut row existing = true)
    {column : AreaColumn} :
    existing.area column = none ∧ (row.payload.area column).toOption = none := by
  have h := eq_of_isShortcut hShortcut (.area column) (by cases column <;> decide)
  simp only [surveyToAuditSnapshot, proposedSnapshot, Option.getD_some] at h
  cases hOld : existing.area column with
  | some units =>
      cases hNew : (row.payload.area column).toOption <;> simp [hOld, hNew, AuditValue.ofOption] at h
  | none =>
      cases hNew : (row.payload.area column).toOption with
      | none => exact ⟨rfl, rfl⟩
      | some x => simp [hOld, hNew, AuditValue.ofOption] at h

/-- Where no compared field differs, the others decide. -/
theorem holdsRow_unchanged_iff (hRead : row.IsRead) {existing : Survey}
    (hShortcut : isShortcut row existing = true) :
    HoldsRow row existing ↔ AreasFit row ∧ SameUnaudited row existing := by
  have hSame := eq_of_isShortcut hShortcut
  have hArea := fun column => @areas_of_isShortcut row existing hShortcut column
  constructor
  · intro h
    refine ⟨fun column x hx => ?_, h.dataQuality, h.surveyedAt, fun column _ => h.text column,
      fun column _ => h.flag column⟩
    rw [(hArea column).2] at hx
    cases hx
  · rintro ⟨-, h⟩
    have hProperty := property_of_isShortcut hRead.isParsed hShortcut
    simp only [propertyOf, ImportRow.property, Prod.mk.injEq] at hProperty
    have hSurveyId := hSame .surveyId (by decide)
    have hStatus := hSame .status (by decide)
    have hSlum := hSame .isSlum (by decide)
    have hCount := hSame .totalWaterConnections (by decide)
    refine ⟨?_, hProperty.1, hProperty.2.1, hProperty.2.2, ?_, ?_, h.dataQuality, h.surveyedAt,
      fun column => ?_, fun column => ?_, fun column => ?_, ?_⟩
    · simpa [surveyToAuditSnapshot, proposedSnapshot, hRead.isParsed.surveyId,
        AuditValue.ofOption] using hSurveyId
    · simpa [surveyToAuditSnapshot, proposedSnapshot] using hStatus
    · obtain ⟨isSlum, hIsSlum⟩ := hRead.isSlum
      simpa [surveyToAuditSnapshot, proposedSnapshot, hIsSlum, AuditValue.ofOption] using hSlum
    · by_cases hColumn : .text column ∈ SURVEY_AUDIT_FIELDS
      · exact text_of_isShortcut hShortcut hColumn
      · exact h.text column hColumn
    · by_cases hColumn : .flag column ∈ SURVEY_AUDIT_FIELDS
      · exact AuditValue.ofOption_injective (fun _ _ => AuditValue.flag.inj) (fun _ => by simp)
          (hSame _ hColumn)
      · exact h.flag column hColumn
    · rw [(hArea column).1, (hArea column).2]
      rfl
    · apply AuditValue.ofOption_injective (fun _ _ => AuditValue.number.inj) (fun _ => by simp)
      rw [← AuditValue.ofOption_map]
      exact hCount

/-- A row that is stored leaves its values behind if nothing keeps them back. -/
theorem StoredRow.holdsRow_iff (h : StoredRow now row db db' id) (hRead : row.IsRead) :
    ∃ survey, db'.surveys.find? id = some survey ∧ (HoldsRow row survey ↔ WritesAll row db) := by
  cases h
  case unchanged existing hMatch hShortcut =>
    refine ⟨existing, find?_of_matchOf hMatch, ?_⟩
    rw [holdsRow_unchanged_iff hRead hShortcut]
    constructor
    · rintro ⟨hFit, hSame⟩
      refine ⟨hFit, fun other hOther hWritten => ?_, fun other hOther _ => ?_⟩
      · obtain rfl := Option.some.inj (hMatch.symm.trans hOther)
        rw [hShortcut] at hWritten
        cases hWritten
      · obtain rfl := Option.some.inj (hMatch.symm.trans hOther)
        exact hSame
    · exact fun h => ⟨h.areas, h.unchanged existing hMatch hShortcut⟩
  case rewritten db₁ existing updated hMatch hShortcut hRun hSurveys hFloors =>
    have hKept : existing ∈ (db.deleteFloors existing.id).surveys.rows := matchOf_mem hMatch
    have hValid := (SurveyDb.updateSurvey_valid hRun).1
    obtain ⟨rfl, hReplaced⟩ := SurveyDb.updateSurvey_of_mem hKept hRun
    refine ⟨_, by rw [hSurveys]; exact hReplaced.find?_new, ?_⟩
    rw [holdsRow_rewrite_iff hRead hValid]
    constructor
    · rintro ⟨hFit, hBlank⟩
      refine ⟨hFit, fun other hOther _ => ?_, fun other hOther hSame => ?_⟩
      · obtain rfl := Option.some.inj (hMatch.symm.trans hOther)
        exact hBlank
      · obtain rfl := Option.some.inj (hMatch.symm.trans hOther)
        rw [hShortcut] at hSame
        cases hSame
    · exact fun h => ⟨h.areas, h.rewritten existing hMatch hShortcut⟩
  case inserted survey hMatch hRun =>
    have hAccepted := isAccepted_of_payload (SurveyDb.createSurvey_valid hRun).1
      (SurveyDb.createSurvey_valid hRun).2
    obtain ⟨hAdded, -, -, surveyId, wardId, -, -, rfl⟩ := SurveyDb.createSurvey_ok hRun
    refine ⟨_, hAdded.find?_new, ?_⟩
    rw [← rewriteData_applyTo_new hRead.isParsed rfl, holdsRow_rewrite_iff hRead hAccepted.1]
    constructor
    · rintro ⟨hFit, -⟩
      refine ⟨hFit, fun other hOther => ?_, fun other hOther => ?_⟩
      · rw [hMatch] at hOther
        cases hOther
      · rw [hMatch] at hOther
        cases hOther
    · exact fun h => ⟨h.areas, fun _ => rfl, fun _ _ => rfl, fun _ _ => rfl, fun _ => rfl⟩

end Row

/-! ### The whole job -/

section Job
variable {env : Env} {job : ImportJob} {now : Timestamp}

/-- The line is matched with another survey, or with none. -/
def Misses (env : Env) (job : ImportJob) (map : ColumnMap) (id : Id) (state : JobState)
    (line : List ExcelValue × Nat) : Prop :=
  ∀ row, rowOf env job map line.1 = some row →
    ∀ existing, matchOf row state.db = some existing → existing.id ≠ id

/-- The row was stored in the survey `id`, out of the database `met`, and no
later line is matched with that survey. -/
structure LastStored (env : Env) (job : ImportJob) (now : Timestamp) (loaded : ColumnMap × Sheet)
    (db : SurveyDb) (row : ImportRow) (met : SurveyDb) (id : Id) : Prop where
  exists_split : ∃ before line later after outcome,
    loaded.2.rows.zipIdx 2 = before ++ line :: later ∧
    rowOf env job loaded.1 line.1 = some row ∧
    (run (lineStep env job now loaded.1) ⟨db, {}⟩ before).db = met ∧
    storeRow job now row ⟨met, []⟩ = (after, .ok outcome) ∧ outcome.survey = id ∧
    Along (lineStep env job now loaded.1) (Misses env job loaded.1 id)
      (run (lineStep env job now loaded.1) ⟨db, {}⟩ (before ++ [line])) later

/-- The row of a line is read from its cells. -/
theorem rowOf_isRead {map : ColumnMap} {values : List ExcelValue} {row : ImportRow}
    (h : rowOf env job map values = some row) : row.IsRead :=
  parseRow_isRead (parse_of_rowOf h).2

/-- What a stored line leaves. -/
theorem lineStep_of_stored {map : ColumnMap} {state : JobState} {line : List ExcelValue × Nat}
    {row : ImportRow} {after : SurveyState} {outcome : RowOutcome}
    (hRow : rowOf env job map line.1 = some row)
    (hRun : storeRow job now row ⟨state.db, []⟩ = (after, .ok outcome)) :
    lineStep env job now map state line = state.store after.db row.ward.id outcome := by
  obtain ⟨hNamed, hParse⟩ := parse_of_rowOf hRow
  simp only [lineStep, if_neg hNamed, hParse, hRun]

/-- Lines that miss a survey leave it alone. -/
theorem find?_of_misses {map : ColumnMap} {id : Id} {state : JobState}
    {lines : List (List ExcelValue × Nat)} (hUpdate : job.duplicateStrategy = .update)
    (hPresent : (state.db.surveys.find? id).isSome)
    (hMisses : Along (lineStep env job now map) (Misses env job map id) state lines) :
    (run (lineStep env job now map) state lines).db.surveys.find? id =
      state.db.surveys.find? id := by
  induction lines generalizing state with
  | nil => rfl
  | cons line lines ih =>
      have hStep : (lineStep env job now map state line).db.surveys.find? id =
          state.db.surveys.find? id := by
        have hMiss := hMisses.1
        generalize hNext : lineStep env job now map state line = next
        have hDone := @lineStep_done env job now map state line
        rw [hNext] at hDone
        cases hDone with
        | unnamed => rfl
        | unread => rfl
        | refused => rfl
        | stored hRow hRun h =>
            refine (h.stored hUpdate).find?_of_ne fun hId => ?_
            rcases (h.stored hUpdate).origin with ⟨existing, hMatch, hSame⟩ | ⟨-, hFresh⟩
            · exact hMiss _ hRow existing hMatch (hSame.trans hId.symm)
            · rw [← hId] at hFresh
              rw [hFresh] at hPresent
              cases hPresent
      rw [run_cons, ih (hStep ▸ hPresent) hMisses.2, hStep]

/-- The survey of a row that was stored last. -/
theorem LastStored.holdsRow_iff {loaded : ColumnMap × Sheet} {db met : SurveyDb} {row : ImportRow}
    {id : Id} (h : LastStored env job now loaded db row met id)
    (hUpdate : job.duplicateStrategy = .update) :
    id ∈ (jobRun env job now loaded db).progress.touchedSurveyIds ∧
      ∃ survey, (jobRun env job now loaded db).db.surveys.find? id = some survey ∧
        (HoldsRow row survey ↔ WritesAll row met) := by
  obtain ⟨before, line, later, after, outcome, hLines, hRow, rfl, hRun, rfl, hLater⟩ :=
    h.exists_split
  have hLine := lineStep_of_stored hRow hRun
  have hDone : RowDone job now row (run (lineStep env job now loaded.1) ⟨db, {}⟩ before).db
      after.db outcome := by
    rcases storeRow_ends job now row (run (lineStep env job now loaded.1) ⟨db, {}⟩ before).db with
      ⟨db', outcome', hDone, hRun'⟩ | ⟨error, -, hRun'⟩
    · obtain ⟨rfl, hOutcome⟩ := Prod.mk.inj (hRun.symm.trans hRun')
      obtain rfl := Except.ok.inj hOutcome
      exact hDone
    · cases congrArg Prod.snd (hRun.symm.trans hRun')
  obtain ⟨survey, hSurvey, hIff⟩ := (hDone.stored hUpdate).holdsRow_iff (rowOf_isRead hRow)
  rw [run_append, run_cons, run_nil, hLine] at hLater
  have hJob : jobRun env job now loaded db = run (lineStep env job now loaded.1)
      (JobState.store (run (lineStep env job now loaded.1) ⟨db, {}⟩ before) after.db row.ward.id
        outcome) later := by
    rw [jobRun, hLines, run_append, run_cons, hLine]
  rw [hJob]
  refine ⟨touched_run (List.mem_append_right _ (List.mem_singleton_self _)) later, survey, ?_, hIff⟩
  have hPresent : (after.db.surveys.find? outcome.survey).isSome := by
    rw [hSurvey]
    rfl
  exact (find?_of_misses hUpdate hPresent hLater).trans hSurvey

/-- An UPDATE job leaves the values of every stored row in its survey, unless a
later row is matched with it, exactly as far as nothing keeps them back. -/
theorem updateJob_stores_values_iff {pruneMissing : Bool} {sheet : Option Sheet} {db : SurveyDb}
    {after : SurveyState} {result : ImportResult} {loaded : ColumnMap × Sheet}
    (hUpdate : job.duplicateStrategy = .update) (hLoaded : loadSurveySheet env sheet = .ok loaded)
    (hJob : processJob env job now pruneMissing sheet ⟨db, []⟩ = (after, .ok result)) :
    (∀ row met id, LastStored env job now loaded db row met id →
      ∃ survey, after.db.surveys.find? id = some survey ∧ HoldsRow row survey) ↔
    ∀ row met id, LastStored env job now loaded db row met id → WritesAll row met := by
  obtain ⟨other, hOther, hProgress, -, hRows⟩ := exists_jobRun hJob
  obtain rfl := Except.ok.inj (hLoaded.symm.trans hOther)
  have hEach : ∀ row met id, LastStored env job now loaded db row met id →
      ((∃ survey, after.db.surveys.find? id = some survey ∧ HoldsRow row survey) ↔
        WritesAll row met) := by
    intro row met id h
    obtain ⟨hTouched, survey, hSurvey, hIff⟩ := h.holdsRow_iff hUpdate
    rw [find?_pruned hRows (hProgress ▸ hTouched), hSurvey, ← hIff]
    constructor
    · rintro ⟨other, hOther, hHolds⟩
      obtain rfl := Option.some.inj hOther
      exact hHolds
    · exact fun hHolds => ⟨survey, rfl, hHolds⟩
  constructor
  · exact fun h row met id hLast => (hEach row met id hLast).mp (h row met id hLast)
  · exact fun h row met id hLast => (hEach row met id hLast).mpr (h row met id hLast)

end Job
namespace Sample

/-- A line with a Survey Id and the Aadhaar number of the owner. -/
def aadhaarSheet (aadhaar : String) : Sheet where
  header := [.string "Survey Id".toList] ++ List.replicate 10 .null ++
    [.string "Owner Aadhaar Number".toList]
  rows := [[.string "249044-001-000001-001-R".toList] ++ List.replicate 10 .null ++
    [.string aadhaar.toList]]

theorem stored_aadhaarSheet :
    (loadSurveySheet firstWard (some (aadhaarSheet "444455553333"))).toOption.map (fun loaded =>
      loaded.2.rows.map fun values => (rowOf firstWard updateJob loaded.1 values).map fun row =>
        (row.payload.text .ownerAadhaar, (storeRow updateJob 0 row
          ⟨withAadhaar "111122223333", []⟩).2.toOption.map RowOutcome.survey)) =
      some [some (.value "444455553333".toList, some 1)] ∧
    (processJob firstWard updateJob 0 false (some (aadhaarSheet "444455553333"))
      ⟨withAadhaar "111122223333", []⟩).2.toOption.isSome = true ∧
    ((processJob firstWard updateJob 0 false (some (aadhaarSheet "444455553333"))
      ⟨withAadhaar "111122223333", []⟩).1.db.surveys.find? 1).map (fun survey =>
        survey.text .ownerAadhaar) = some (some "111122223333".toList) := by
  decide +kernel

end Sample

/-- A file that changes only an Aadhaar number changes nothing. -/
theorem updateJob_keeps_old_aadhaar : ¬ ∀ (env : Env) (job : ImportJob) (now : Timestamp)
    (pruneMissing : Bool) (sheet : Option Sheet) (db : SurveyDb) (after : SurveyState)
    (result : ImportResult) (loaded : ColumnMap × Sheet), job.duplicateStrategy = .update →
    loadSurveySheet env sheet = .ok loaded →
    processJob env job now pruneMissing sheet ⟨db, []⟩ = (after, .ok result) →
    ∀ row met id, LastStored env job now loaded db row met id →
      ∃ survey, after.db.surveys.find? id = some survey ∧ HoldsRow row survey := by
  intro hLaw
  obtain ⟨hRow, hResult, hKept⟩ := Sample.stored_aadhaarSheet
  obtain ⟨loaded, hLoaded, hRow⟩ := Option.map_eq_some_iff.mp hRow
  have hLoaded := ok_of_toOption hLoaded
  obtain ⟨values, hRows, hRow⟩ := List.map_eq_singleton_iff.mp hRow
  obtain ⟨row, hRow, hPair⟩ := Option.map_eq_some_iff.mp hRow
  obtain ⟨hAadhaar, hStored⟩ := Prod.mk.inj hPair
  obtain ⟨outcome, hOutcome, hSurvey⟩ := Option.map_eq_some_iff.mp hStored
  obtain ⟨result, hResult⟩ := Option.isSome_iff_exists.mp hResult
  have hLast : LastStored Sample.firstWard Sample.updateJob 0 loaded
      (Sample.withAadhaar "111122223333") row (Sample.withAadhaar "111122223333") 1 :=
    ⟨[], (values, 2), [], _, outcome, by rw [hRows]; rfl, hRow, rfl,
      Prod.ext rfl (ok_of_toOption hOutcome), hSurvey, trivial⟩
  obtain ⟨survey, hFound, hHolds⟩ := hLaw _ _ _ false _ _ _ result loaded rfl hLoaded
    (Prod.ext rfl (ok_of_toOption hResult)) row _ 1 hLast
  rw [hFound, Option.map_some, hHolds.text, hAadhaar] at hKept
  exact absurd hKept (by decide)

/-! ### What can be evaluated -/

section Decisions
variable {row : ImportRow} {db : SurveyDb} {existing : Survey}

instance : Decidable (AreasFit row) :=
  inferInstanceAs (Decidable (∀ column, ∀ x ∈ (row.payload.area column).toOption, _ = _))

instance : Decidable (BlankWhereRowIs row existing) :=
  decidable_of_iff
    ((row.payload.surveyedAt = .undefined → existing.surveyedAt = none) ∧
      (∀ column, row.payload.flag column = .undefined → existing.flag column = none) ∧
      (∀ column, row.payload.area column = .undefined → existing.area column = none) ∧
      (row.payload.totalWaterConnections = .undefined → existing.totalWaterConnections = none))
    ⟨fun h => ⟨h.1, h.2.1, h.2.2.1, h.2.2.2⟩,
      fun h => ⟨h.surveyedAt, h.flag, h.area, h.totalWaterConnections⟩⟩

instance : Decidable (SameUnaudited row existing) :=
  decidable_of_iff
    (some existing.dataQualityStatus = row.payload.dataQualityStatus.toOption ∧
      existing.surveyedAt = row.payload.surveyedAt.toOption ∧
      (∀ column, .text column ∉ SURVEY_AUDIT_FIELDS →
        existing.text column = (row.payload.text column).toOption) ∧
      ∀ column, .flag column ∉ SURVEY_AUDIT_FIELDS →
        existing.flag column = (row.payload.flag column).toOption)
    ⟨fun h => ⟨h.1, h.2.1, h.2.2.1, h.2.2.2⟩,
      fun h => ⟨h.dataQuality, h.surveyedAt, h.text, h.flag⟩⟩

instance : Decidable (WritesAll row db) :=
  decidable_of_iff
    (AreasFit row ∧
      (∀ existing ∈ matchOf row db, isShortcut row existing = false →
        BlankWhereRowIs row existing) ∧
      ∀ existing ∈ matchOf row db, isShortcut row existing = true → SameUnaudited row existing)
    ⟨fun h => ⟨h.1, h.2.1, h.2.2⟩, fun h => ⟨h.areas, h.rewritten, h.unchanged⟩⟩

end Decisions

namespace Sample

/-- The house that was imported before, with another owner, and a new house. -/
def renamedOwner : Sheet :=
  houses [("249044-001-000001-001-R", "Mohan"), ("249044-001-000002-001-R", "Ravi")]

/-- Every row of the sheet meets a table in which all its values are written. -/
def WritesEach (loaded : ColumnMap × Sheet) : Prop :=
  Along (lineStep firstWard updateJob 0 loaded.1)
    (fun state line => ∀ row ∈ rowOf firstWard updateJob loaded.1 line.1, WritesAll row state.db)
    ⟨importedBefore, {}⟩ (loaded.2.rows.zipIdx 2)

instance (loaded : ColumnMap × Sheet) : Decidable (WritesEach loaded) :=
  inferInstanceAs (Decidable (Along _ (fun _ _ => ∀ row ∈ rowOf _ _ _ _, WritesAll row _) _ _))

theorem writesEach_renamedOwner :
    (loadSurveySheet firstWard (some renamedOwner)).toOption.any
      (fun loaded => decide (WritesEach loaded)) = true ∧
    (processJob firstWard updateJob 0 false (some renamedOwner)
      ⟨importedBefore, []⟩).2.toOption.isSome = true := by
  decide +kernel

end Sample

/-- A live survey gets its new owner, and a new house is added. -/
theorem updateJob_stores_values_iff_renamed : ∃ after result loaded,
    loadSurveySheet Sample.firstWard (some Sample.renamedOwner) = .ok loaded ∧
    processJob Sample.firstWard Sample.updateJob 0 false (some Sample.renamedOwner)
      ⟨Sample.importedBefore, []⟩ = (after, .ok result) ∧
    ∀ row met id,
      LastStored Sample.firstWard Sample.updateJob 0 loaded Sample.importedBefore row met id →
        ∃ survey, after.db.surveys.find? id = some survey ∧ HoldsRow row survey := by
  obtain ⟨hWrites, hResult⟩ := Sample.writesEach_renamedOwner
  obtain ⟨loaded, hLoaded, hAlong⟩ := (Option.any_eq_true _ _).mp hWrites
  have hLoaded := ok_of_toOption hLoaded
  obtain ⟨result, hResult⟩ := Option.isSome_iff_exists.mp hResult
  have hJob : processJob Sample.firstWard Sample.updateJob 0 false (some Sample.renamedOwner)
      ⟨Sample.importedBefore, []⟩ = (_, .ok result) := Prod.ext rfl (ok_of_toOption hResult)
  refine ⟨_, result, loaded, hLoaded, hJob, ?_⟩
  refine (updateJob_stores_values_iff rfl hLoaded hJob).mpr fun row met id hLast => ?_
  obtain ⟨before, line, later, after, outcome, hLines, hRow, rfl, -⟩ := hLast.exists_split
  exact along_iff_forall.mp (of_decide_eq_true hAlong) before line later hLines row hRow

end PropertyTax.Surveys
