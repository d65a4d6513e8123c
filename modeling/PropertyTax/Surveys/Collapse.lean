import PropertyTax.Surveys.ImportRows

/-! Rows of different properties end in different surveys, each with the data
of its own rows, exactly when no row is matched with a survey that another
property was stored in before it. -/
namespace PropertyTax.Surveys
open KeyedTable Runs ImportsService

/-- Ward, parcel and property number. -/
def propertyOf (survey : Survey) : Id × Option Text × Option Text :=
  (survey.wardId, survey.parcelNo, survey.propertyNo)

def ImportRow.property (row : ImportRow) : Id × Option Text × Option Text :=
  (row.ward.id, some row.parcelNo, some row.propertyNo)

def OWNER_COLUMNS : List TextColumn := [.ownerName, .ownerFatherName, .mobile, .ownerAadhaar]

/-- The survey carries the owner data of the row. -/
def HasOwnerOf (row : ImportRow) (survey : Survey) : Prop :=
  ∀ column ∈ OWNER_COLUMNS, survey.text column = (row.payload.text column).toOption

/-- The rows of a file and the surveys they are stored in, as they should be. -/
structure RowsKept (rows : List ImportRow) (stored : List (ImportRow × Id)) (db : SurveyDb) :
    Prop where
  apart : ∀ e ∈ stored, ∀ e' ∈ stored, e.1.property ≠ e'.1.property → e.2 ≠ e'.2
  carried : ∀ e ∈ stored, ∃ survey, db.surveys.find? e.2 = some survey ∧
    propertyOf survey = e.1.property
  owned : ∀ before row later, rows = before ++ row :: later →
    (∀ r ∈ later, r.property ≠ row.property) → ∀ e ∈ stored, e.1.property = row.property →
      ∃ survey, db.surveys.find? e.2 = some survey ∧ HasOwnerOf row survey

/-! ### What a row writes -/

/-- The reader of a row writes these columns always. -/
structure ImportRow.IsParsed (row : ImportRow) : Prop where
  surveyId : row.payload.surveyId = .value row.surveyId
  wardId : row.payload.wardId = .value row.ward.id
  parcelNo : row.payload.parcelNo = .value row.parcelNo
  propertyNo : row.payload.propertyNo = .value row.propertyNo
  status : row.payload.status = .value .active
  deletedAt : row.payload.deletedAt = .undefined
  text : ∀ column old, (row.payload.text column).assign old = (row.payload.text column).toOption

/-- A row that is parsed is of the parser's form. -/
theorem parseRow_isParsed {env : Env} {job : ImportJob} {cells : RowCells} {row : ImportRow}
    (h : parseRow env job cells = .ok row) : row.IsParsed := by
  obtain ⟨-, -, -, -, -, hPayload, -⟩ := parseRow_ok h
  constructor <;> simp [hPayload, rowPayload]

/-- So are all rows of a file. -/
theorem fileRows_isParsed {env : Env} {job : ImportJob} {sheet : Option Sheet} :
    ∀ row ∈ fileRows env job sheet, row.IsParsed := by
  intro row hRow
  unfold fileRows at hRow
  split at hRow
  next loaded _ =>
    obtain ⟨values, -, hValues⟩ := List.mem_filterMap.mp hRow
    unfold rowOf at hValues
    split_ifs at hValues
    cases hParse : parseRow env job (readRow env loaded.1 values) with
    | error error =>
        rw [hParse] at hValues
        cases hValues
    | ok parsed =>
        rw [hParse] at hValues
        obtain rfl : parsed = row := Option.some.inj hValues
        exact parseRow_isParsed hParse
  · cases hRow

theorem ofOption_text_injective {a b : Option Text}
    (h : AuditValue.ofOption .text a = AuditValue.ofOption .text b) : a = b :=
  AuditValue.ofOption_injective (fun _ _ => AuditValue.text.inj) (fun _ => by simp) h

/-- No compared field differs. -/
theorem eq_of_isShortcut {row : ImportRow} {existing : Survey}
    (h : isShortcut row existing = true) (field : AuditField)
    (hField : field ∈ SURVEY_AUDIT_FIELDS) :
    (surveyToAuditSnapshot existing field).getD .null =
      (proposedSnapshot row.payload field).getD .null := by
  have hNone := (Bool.and_eq_true_iff.mp h).1
  rw [changesNothing, List.isEmpty_iff, diffSurveyChanges, List.filterMap_eq_nil_iff] at hNone
  have hField := hNone field hField
  split_ifs at hField with hMissing hSame
  · simp only [Bool.and_eq_true, Option.isNone_iff_eq_none] at hMissing
    rw [hMissing.1, hMissing.2]
  · exact hSame

/-- A row that is skipped is about the survey's property. -/
theorem property_of_isShortcut {row : ImportRow} {existing : Survey} (hParsed : row.IsParsed)
    (h : isShortcut row existing = true) : propertyOf existing = row.property := by
  have hWard := eq_of_isShortcut h .wardId (by decide)
  have hParcel := eq_of_isShortcut h .parcelNo (by decide)
  have hProperty := eq_of_isShortcut h .propertyNo (by decide)
  simp only [surveyToAuditSnapshot, proposedSnapshot, Option.getD_some, hParsed.wardId,
    hParsed.parcelNo, hParsed.propertyNo, Field.toOption_value] at hWard hParcel hProperty
  rw [propertyOf, ImportRow.property, ofOption_text_injective hParcel,
    ofOption_text_injective hProperty]
  simp [AuditValue.ofOption] at hWard
  rw [hWard]

/-- A row that is skipped has the survey's texts. -/
theorem text_of_isShortcut {row : ImportRow} {existing : Survey}
    (h : isShortcut row existing = true) {column : TextColumn}
    (hColumn : .text column ∈ SURVEY_AUDIT_FIELDS) :
    existing.text column = (row.payload.text column).toOption :=
  ofOption_text_injective (eq_of_isShortcut h _ hColumn)

section Row
variable {now : Timestamp} {row : ImportRow} {db db' : SurveyDb} {id : Id}

/-- Every other survey stays. -/
theorem StoredRow.find?_of_ne (h : StoredRow now row db db' id) {other : Id} (hne : other ≠ id) :
    db'.surveys.find? other = db.surveys.find? other := by
  cases h
  case unchanged => rfl
  case rewritten db₁ existing updated hMatch hShortcut hRun hSurveys hFloors =>
    have hKept : existing ∈ (db.deleteFloors existing.id).surveys.rows := matchOf_mem hMatch
    obtain ⟨-, hReplaced⟩ := SurveyDb.updateSurvey_of_mem hKept hRun
    rw [hSurveys, hReplaced.find?_of_ne hne]
    rfl
  case inserted survey hMatch hRun => exact (SurveyDb.createSurvey_ok hRun).1.find?_of_ne hne

/-- A row without a match ends in a survey that was not there. -/
theorem StoredRow.origin (h : StoredRow now row db db' id) :
    (∃ existing, matchOf row db = some existing ∧ existing.id = id) ∨
      matchOf row db = none ∧ db.surveys.find? id = none := by
  cases h
  case unchanged existing hMatch hShortcut => exact .inl ⟨existing, hMatch, rfl⟩
  case rewritten db₁ existing updated hMatch hShortcut hRun hSurveys hFloors =>
    exact .inl ⟨existing, hMatch, rfl⟩
  case inserted survey hMatch hRun =>
    refine .inr ⟨hMatch, find?_eq_none_iff.mpr fun other hOther => ?_⟩
    exact (SurveyDb.createSurvey_ok hRun).1.key_ne hOther

/-- A row's texts, applied, leave its owner. -/
theorem HasOwnerOf.of_applyTo (hParsed : row.IsParsed) {data : SurveyData}
    (hText : data.text = row.payload.text) (survey : Survey) :
    HasOwnerOf row (data.applyTo survey) := by
  intro column _
  simp only [SurveyData.applyTo, hText]
  exact hParsed.text column _

/-- The survey has the property of the row, and its owner data unless a stale
Aadhaar number is left behind. -/
theorem StoredRow.find?_self (h : StoredRow now row db db' id) (hParsed : row.IsParsed) :
    ∃ survey, db'.surveys.find? id = some survey ∧ propertyOf survey = row.property ∧
      (HasOwnerOf row survey ↔ ∀ existing, matchOf row db = some existing →
        isShortcut row existing = true →
          existing.text .ownerAadhaar = (row.payload.text .ownerAadhaar).toOption) := by
  cases h
  case unchanged existing hMatch hShortcut =>
    refine ⟨existing, find?_of_matchOf hMatch,
      property_of_isShortcut hParsed hShortcut, ?_⟩
    constructor
    · intro hOwner other hOther _
      obtain rfl := Option.some.inj (hMatch.symm.trans hOther)
      exact hOwner .ownerAadhaar (by decide)
    · intro hAadhaar column hColumn
      by_cases hCompared : .text column ∈ SURVEY_AUDIT_FIELDS
      · exact text_of_isShortcut hShortcut hCompared
      · obtain rfl : column = .ownerAadhaar := by
          simp only [OWNER_COLUMNS, List.mem_cons, List.not_mem_nil, or_false] at hColumn
          rcases hColumn with rfl | rfl | rfl | rfl
          · exact absurd (by decide) hCompared
          · exact absurd (by decide) hCompared
          · exact absurd (by decide) hCompared
          · rfl
        exact hAadhaar existing hMatch hShortcut
  case rewritten db₁ existing updated hMatch hShortcut hRun hSurveys hFloors =>
    have hKept : existing ∈ (db.deleteFloors existing.id).surveys.rows := matchOf_mem hMatch
    obtain ⟨rfl, hReplaced⟩ := SurveyDb.updateSurvey_of_mem hKept hRun
    refine ⟨_, by rw [hSurveys]; exact hReplaced.find?_new, ?_, ?_⟩
    · simp [propertyOf, ImportRow.property, SurveyData.applyTo, ImportRow.rewriteData,
        hParsed.wardId, hParsed.parcelNo, hParsed.propertyNo]
    · refine iff_of_true (.of_applyTo hParsed rfl existing) fun other hOther hSame => ?_
      obtain rfl := Option.some.inj (hMatch.symm.trans hOther)
      rw [hShortcut] at hSame
      cases hSame
  case inserted survey hMatch hRun =>
    obtain ⟨hAdded, -, -, surveyId, wardId, -, -, rfl⟩ := SurveyDb.createSurvey_ok hRun
    refine ⟨_, hAdded.find?_new, ?_, ?_⟩
    · simp [propertyOf, ImportRow.property, SurveyData.applyTo, hParsed.wardId, hParsed.parcelNo,
        hParsed.propertyNo]
    · refine iff_of_true (.of_applyTo hParsed rfl _) fun other hOther => ?_
      rw [hMatch] at hOther
      cases hOther

end Row

/-! ### Runs -/

/-- The row is not matched with a survey that another property was stored in. -/
def MeetsOwn (state : ImportState) (row : ImportRow) : Prop :=
  ∀ existing, matchOf row state.db = some existing →
    ∀ e ∈ state.done, e.2 = existing.id → e.1.property = row.property

/-- The owner data of the property is that of the row, once the row is stored. -/
structure OwnersUpToDate (state : ImportState) (row : ImportRow) : Prop where
  others : ∀ e ∈ state.done, e.1.property = row.property →
    (∀ existing, matchOf row state.db = some existing → e.2 ≠ existing.id) →
      ∃ survey, state.db.surveys.find? e.2 = some survey ∧ HasOwnerOf row survey
  own : ∀ existing, matchOf row state.db = some existing → isShortcut row existing = true →
    existing.text .ownerAadhaar = (row.payload.text .ownerAadhaar).toOption

/-- Every stored row is carried by its survey. -/
def Carried (state : ImportState) : Prop :=
  ∀ e ∈ state.done, ∃ survey, state.db.surveys.find? e.2 = some survey ∧
    propertyOf survey = e.1.property

/-- The row is stored, and apart from the rows of other properties. -/
structure StoredApart (job : ImportJob) (now : Timestamp) (state : ImportState) (row : ImportRow) :
    Prop where
  isStored : IsStored job now state row
  isParsed : row.IsParsed
  meetsOwn : MeetsOwn state row

section Run
variable {job : ImportJob} {now : Timestamp} {state : ImportState} {row : ImportRow}

/-- A survey that a row is stored in carries rows of one property. -/
theorem MeetsOwn.property_eq (hOwn : MeetsOwn state row) (hCarried : Carried state) {db' : SurveyDb}
    {id : Id} (h : StoredRow now row state.db db' id) :
    ∀ e ∈ state.done, e.2 = id → e.1.property = row.property := by
  intro e he hId
  rcases h.origin with ⟨existing, hMatch, rfl⟩ | ⟨-, hFresh⟩
  · exact hOwn existing hMatch e he hId
  · obtain ⟨survey, hSurvey, -⟩ := hCarried e he
    rw [hId, hFresh] at hSurvey
    cases hSurvey

variable (hUpdate : job.duplicateStrategy = .update)
include hUpdate

theorem Carried.step (hCarried : Carried state) (h : StoredApart job now state row) :
    Carried (importStep job now state row) := by
  obtain ⟨id, hDone, hStored⟩ := importStep_of_isStored hUpdate h.isStored
  obtain ⟨survey, hSurvey, hProperty, -⟩ := hStored.find?_self h.isParsed
  intro e he
  rw [hDone] at he
  rcases List.mem_append.mp he with hOld | hNew
  · by_cases hId : e.2 = id
    · rw [h.meetsOwn.property_eq hCarried hStored e hOld hId, hId]
      exact ⟨survey, hSurvey, hProperty⟩
    · rw [hStored.find?_of_ne hId]
      exact hCarried e hOld
  · obtain rfl := List.mem_singleton.mp hNew
    exact ⟨survey, hSurvey, hProperty⟩

/-- Rows are noted in their order. -/
theorem done_run {rows : List ImportRow}
    (hAlong : Along (importStep job now) (IsStored job now) state rows) :
    ∃ more, (run (importStep job now) state rows).done = state.done ++ more ∧
      more.map Prod.fst = rows := by
  induction rows generalizing state with
  | nil => exact ⟨[], (List.append_nil _).symm, rfl⟩
  | cons row rows ih =>
      obtain ⟨id, hDone, -⟩ := importStep_of_isStored hUpdate hAlong.1
      obtain ⟨more, hMore, hRows⟩ := ih hAlong.2
      refine ⟨(row, id) :: more, ?_, by rw [List.map_cons, hRows]⟩
      rw [run_cons, hMore, hDone, List.append_assoc]
      rfl

/-- Rows of other properties leave the survey of a stored row alone. -/
theorem find?_run {rows : List ImportRow}
    (hAlong : Along (importStep job now) (StoredApart job now) state rows) (hCarried : Carried state)
    {e : ImportRow × Id} (he : e ∈ state.done) (hOthers : ∀ r ∈ rows, r.property ≠ e.1.property) :
    (run (importStep job now) state rows).db.surveys.find? e.2 = state.db.surveys.find? e.2 := by
  induction rows generalizing state with
  | nil => rfl
  | cons row rows ih =>
      obtain ⟨h, hAlong⟩ := hAlong
      obtain ⟨id, hDone, hStored⟩ := importStep_of_isStored hUpdate h.isStored
      have hKept : e ∈ (importStep job now state row).done := by
        rw [hDone]
        exact List.mem_append_left _ he
      have hId : e.2 ≠ id := fun hId => hOthers row List.mem_cons_self
        (h.meetsOwn.property_eq hCarried hStored e he hId).symm
      rw [run_cons, ih hAlong (hCarried.step hUpdate h) hKept
        fun r hr => hOthers r (List.mem_cons_of_mem _ hr)]
      exact hStored.find?_of_ne hId

/-- Two properties in one survey: a row was matched with the survey of another. -/
theorem along_meetsOwn_of_apart {rows : List ImportRow}
    (hAlong : Along (importStep job now) (IsStored job now) state rows)
    (hApart : ∀ e ∈ (run (importStep job now) state rows).done,
      ∀ e' ∈ (run (importStep job now) state rows).done, e.2 = e'.2 →
        e.1.property = e'.1.property) :
    Along (importStep job now) MeetsOwn state rows := by
  induction rows generalizing state with
  | nil => trivial
  | cons row rows ih =>
      refine ⟨?_, ih hAlong.2 hApart⟩
      obtain ⟨id, hDone, hStored⟩ := importStep_of_isStored hUpdate hAlong.1
      obtain ⟨more, hMore, -⟩ := done_run hUpdate hAlong.2
      rw [run_cons, hMore, hDone] at hApart
      intro existing hMatch e he hId
      refine hApart e (by simp [he]) (row, id) (by simp) ?_
      rcases hStored.origin with ⟨other, hOther, rfl⟩ | ⟨hNone, -⟩
      · obtain rfl := Option.some.inj (hMatch.symm.trans hOther)
        exact hId
      · rw [hMatch] at hNone
        cases hNone

/-- A run of such rows keeps what was carried. -/
theorem carried_run {rows : List ImportRow} (hCarried : Carried state)
    (hAlong : Along (importStep job now) (StoredApart job now) state rows) :
    Carried (run (importStep job now) state rows) :=
  run_invariant_along Carried (fun _ _ h hRow => h.step hUpdate hRow) hCarried hAlong

/-- From the last row of a property on, its surveys stay as they are. -/
theorem owned_iff {before later : List ImportRow} (hCarried : Carried state)
    (hAlong : Along (importStep job now) (StoredApart job now) state (before ++ row :: later))
    (hLast : ∀ r ∈ later, r.property ≠ row.property) :
    (∀ e ∈ (run (importStep job now) state (before ++ row :: later)).done,
      e.1.property = row.property → ∃ survey,
        (run (importStep job now) state (before ++ row :: later)).db.surveys.find? e.2 =
          some survey ∧ HasOwnerOf row survey) ↔
      OwnersUpToDate (run (importStep job now) state before) row := by
  obtain ⟨hBefore, hRow, hLater⟩ := Along.append.mp hAlong
  have hMid := carried_run hUpdate hCarried hBefore
  have hMid' := hMid.step hUpdate hRow
  obtain ⟨id, hDone, hStored⟩ := importStep_of_isStored hUpdate hRow.isStored
  obtain ⟨more, hMore, hRows⟩ := done_run hUpdate (hLater.mono fun _ _ h => h.isStored)
  obtain ⟨survey, hSurvey, -, hOwner⟩ := hStored.find?_self hRow.isParsed
  have hStays : ∀ e ∈ (importStep job now (run (importStep job now) state before) row).done,
      e.1.property = row.property →
      (run (importStep job now) (importStep job now (run (importStep job now) state before) row)
        later).db.surveys.find? e.2 =
      (importStep job now (run (importStep job now) state before) row).db.surveys.find? e.2 :=
    fun e he hProperty => find?_run hUpdate hLater hMid' he fun r hr => hProperty ▸ hLast r hr
  rw [run_append, run_cons]
  constructor
  · intro hOwned
    constructor
    · intro e he hProperty hApart
      have hId : e.2 ≠ id := by
        rcases hStored.origin with ⟨existing, hMatch, rfl⟩ | ⟨-, hFresh⟩
        · exact hApart existing hMatch
        · intro hId
          obtain ⟨other, hOther, -⟩ := hMid e he
          rw [hId, hFresh] at hOther
          cases hOther
      have he' : e ∈ (importStep job now (run (importStep job now) state before) row).done := by
        rw [hDone]
        exact List.mem_append_left _ he
      have hEnd := hOwned e (by rw [hMore]; exact List.mem_append_left _ he') hProperty
      rwa [hStays e he' hProperty, hStored.find?_of_ne hId] at hEnd
    · have he' : (row, id) ∈
          (importStep job now (run (importStep job now) state before) row).done := by
        simp [hDone]
      obtain ⟨last, hFound, hLastOwner⟩ :=
        hOwned (row, id) (by rw [hMore]; exact List.mem_append_left _ he') rfl
      rw [hStays _ he' rfl, hSurvey] at hFound
      obtain rfl := Option.some.inj hFound
      exact hOwner.mp hLastOwner
  · intro hUpToDate e he hProperty
    have he' : e ∈ (importStep job now (run (importStep job now) state before) row).done := by
      rw [hMore] at he
      rcases List.mem_append.mp he with hOld | hNew
      · exact hOld
      · exact absurd hProperty (hLast e.1 (hRows ▸ List.mem_map_of_mem hNew))
    rw [hStays e he' hProperty]
    by_cases hId : e.2 = id
    · rw [hId]
      exact ⟨survey, hSurvey, hOwner.mpr hUpToDate.own⟩
    · rw [hStored.find?_of_ne hId]
      rw [hDone] at he'
      rcases List.mem_append.mp he' with hOld | hNew
      · refine hUpToDate.others e hOld hProperty fun existing hMatch => ?_
        rcases hStored.origin with ⟨other, hOther, rfl⟩ | ⟨hNone, -⟩
        · obtain rfl := Option.some.inj (hMatch.symm.trans hOther)
          exact hId
        · rw [hMatch] at hNone
          cases hNone
      · obtain rfl := List.mem_singleton.mp hNew
        exact absurd rfl hId

omit hUpdate in
/-- Rows that meet their own survey are stored apart. -/
theorem along_storedApart {rows : List ImportRow} (hParsed : ∀ r ∈ rows, r.IsParsed)
    (hStored : Along (importStep job now) (IsStored job now) state rows)
    (hOwn : Along (importStep job now) MeetsOwn state rows) :
    Along (importStep job now) (StoredApart job now) state rows :=
  ((along_of_forall _ hParsed).and (hStored.and hOwn)).mono fun _ _ h => ⟨h.2.1, h.1, h.2.2⟩

/-- No row meets a survey of another property, and the last row of each
property leaves no other owner data behind. -/
structure ImportsApart (job : ImportJob) (now : Timestamp) (db : SurveyDb) (rows : List ImportRow) :
    Prop where
  meetsOwn : Along (importStep job now) MeetsOwn ⟨db, []⟩ rows
  owners : ∀ before row later, rows = before ++ row :: later →
    (∀ r ∈ later, r.property ≠ row.property) →
      OwnersUpToDate (run (importStep job now) ⟨db, []⟩ before) row

/-- All rows are kept exactly when the file imports apart. -/
theorem rowsKept_iff {db : SurveyDb} {rows : List ImportRow} (hParsed : ∀ r ∈ rows, r.IsParsed)
    (hStored : Along (importStep job now) (IsStored job now) ⟨db, []⟩ rows) :
    RowsKept rows (run (importStep job now) ⟨db, []⟩ rows).done
      (run (importStep job now) ⟨db, []⟩ rows).db ↔ ImportsApart job now db rows := by
  have hStart : Carried ⟨db, []⟩ := fun e he => by cases he
  constructor
  · intro hKept
    have hOwn : Along (importStep job now) MeetsOwn ⟨db, []⟩ rows := by
      refine along_meetsOwn_of_apart hUpdate hStored fun e he e' he' hId => ?_
      by_contra hProperty
      exact hKept.apart e he e' he' hProperty hId
    have hApart := along_storedApart hParsed hStored hOwn
    refine ⟨hOwn, fun before row later hRows hLast => ?_⟩
    subst hRows
    exact (owned_iff hUpdate hStart hApart hLast).mp (hKept.owned before row later rfl hLast)
  · intro h
    have hApart := along_storedApart hParsed hStored h.meetsOwn
    have hCarried := carried_run hUpdate hStart hApart
    constructor
    · intro e he e' he' hProperty hId
      obtain ⟨survey, hSurvey, hOne⟩ := hCarried e he
      obtain ⟨survey', hSurvey', hOther⟩ := hCarried e' he'
      rw [hId, hSurvey'] at hSurvey
      obtain rfl := Option.some.inj hSurvey
      exact hProperty (hOne.symm.trans hOther)
    · exact hCarried
    · intro before row later hRows hLast
      subst hRows
      exact (owned_iff hUpdate hStart hApart hLast).mpr (h.owners before row later rfl hLast)

end Run

/-- Only the surveys of the rows are looked at. -/
theorem RowsKept.congr {rows : List ImportRow} {stored : List (ImportRow × Id)} {db db' : SurveyDb}
    (h : ∀ e ∈ stored, db'.surveys.find? e.2 = db.surveys.find? e.2) :
    RowsKept rows stored db' ↔ RowsKept rows stored db := by
  constructor
  · intro hKept
    refine ⟨hKept.apart, fun e he => h e he ▸ hKept.carried e he, ?_⟩
    exact fun before row later hRows hLast e he hProperty =>
      h e he ▸ hKept.owned before row later hRows hLast e he hProperty
  · intro hKept
    refine ⟨hKept.apart, fun e he => (h e he).symm ▸ hKept.carried e he, ?_⟩
    exact fun before row later hRows hLast e he hProperty =>
      (h e he).symm ▸ hKept.owned before row later hRows hLast e he hProperty

end PropertyTax.Surveys
