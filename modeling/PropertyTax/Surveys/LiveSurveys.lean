import PropertyTax.Surveys.StoredValues

/-! SKIP and CREATE jobs and the live surveys that were there before them. A SKIP
job leaves them alone. A CREATE job writes its rows over the surveys that hold
their Survey Ids, and adds the other rows whatever property they are of. -/
namespace PropertyTax.Surveys
open KeyedTable Runs ImportsService

/-- The live surveys of `start` are as they were, with their floors. -/
def KeepsLive (start final : SurveyDb) : Prop :=
  ∀ survey ∈ start.surveys.rows, survey.isLive = true →
    survey ∈ final.surveys.rows ∧ final.storedFloors survey.id = start.storedFloors survey.id

/-- No two live surveys are of one property. -/
def PropertiesApart (db : SurveyDb) : Prop :=
  ∀ survey ∈ db.surveys.rows, ∀ other ∈ db.surveys.rows, survey.isLive = true →
    other.isLive = true → propertyOf survey = propertyOf other → survey = other

/-- A Survey Id names one survey. -/
theorem eq_of_surveyId {db : SurveyDb} {survey other : Survey} (hSurvey : survey ∈ db.surveys.rows)
    (hOther : other ∈ db.surveys.rows) (h : survey.surveyId = other.surveyId) : survey = other :=
  eq_of_clash hSurvey hOther (by simp [KeyedRow.clash, h])

/-! ### What a row does to the live surveys -/

section Row
variable {job : ImportJob} {now : Timestamp} {row : ImportRow} {db db' : SurveyDb}
  {outcome : RowOutcome}

/-- A live survey stays, with its floors. -/
def Stays (db' : SurveyDb) (db : SurveyDb) (survey : Survey) : Prop :=
  survey ∈ db'.surveys.rows ∧ db'.storedFloors survey.id = db.storedFloors survey.id

/-- A rewrite of one survey leaves every other one alone. -/
theorem stays_of_rewrite {old updated survey : Survey} (hOld : old ∈ db.surveys.rows)
    (h : (db.deleteFloors old.id).updateSurvey old.id (ImportRow.rewriteData row) row.floors =
      .ok (db', updated)) (hSurvey : survey ∈ db.surveys.rows) (hNe : survey ≠ old) :
    Stays db' db survey := by
  have hId : survey.id ≠ old.id := fun hId => hNe (eq_of_key hSurvey hOld hId)
  have hKept : old ∈ (db.deleteFloors old.id).surveys.rows := hOld
  obtain ⟨-, hReplaced⟩ := SurveyDb.updateSurvey_of_mem hKept h
  obtain ⟨-, -, -, -, hFloors, -⟩ := SurveyDb.updateSurvey_ok h
  refine ⟨hReplaced.mem_of_ne hSurvey hId, ?_⟩
  rw [SurveyDb.storedFloors, hFloors, List.filter_append, filter_deleteFloors_of_ne hId,
    filter_toRow_of_ne hId, List.append_nil]

/-- An insert leaves every survey alone. -/
theorem stays_of_create {created survey : Survey}
    (h : db.createSurvey row.payload row.floors now = .ok (db', created))
    (hSurvey : survey ∈ db.surveys.rows) : Stays db' db survey := by
  obtain ⟨hAdded, hFloors, -, surveyId, wardId, -, -, rfl⟩ := SurveyDb.createSurvey_ok h
  have hId : survey.id ≠ db.nextId := hAdded.key_ne hSurvey
  refine ⟨hAdded.mem_of_mem hSurvey, ?_⟩
  rw [SurveyDb.storedFloors, hFloors, List.filter_append, filter_toRow_of_ne hId, List.append_nil,
    SurveyDb.storedFloors]

/-- New row ids stay new. -/
theorem fresh_of_rewrite {old updated : Survey} (hOld : old ∈ db.surveys.rows)
    (h : (db.deleteFloors old.id).updateSurvey old.id (ImportRow.rewriteData row) row.floors =
      .ok (db', updated)) (hFresh : ∀ survey ∈ db.surveys.rows, survey.id < db.nextId) :
    ∀ survey ∈ db'.surveys.rows, survey.id < db'.nextId := by
  have hKept : old ∈ (db.deleteFloors old.id).surveys.rows := hOld
  obtain ⟨rfl, hReplaced⟩ := SurveyDb.updateSurvey_of_mem hKept h
  obtain ⟨-, -, -, -, -, hNext⟩ := SurveyDb.updateSurvey_ok h
  intro survey hSurvey
  rw [hNext]
  rcases (hReplaced.mem_iff survey).mp hSurvey with ⟨hBefore, -⟩ | rfl
  · exact hFresh survey hBefore
  · exact hFresh old hOld

/-- After a survey is created, the next key is fresh. -/
theorem fresh_of_create {created : Survey}
    (h : db.createSurvey row.payload row.floors now = .ok (db', created))
    (hFresh : ∀ survey ∈ db.surveys.rows, survey.id < db.nextId) :
    ∀ survey ∈ db'.surveys.rows, survey.id < db'.nextId := by
  obtain ⟨hAdded, -, hNext, surveyId, wardId, -, -, rfl⟩ := SurveyDb.createSurvey_ok h
  intro survey hSurvey
  rw [hNext]
  rcases (hAdded.mem_iff survey).mp hSurvey with hBefore | rfl
  · exact Nat.lt_succ_of_lt (hFresh survey hBefore)
  · exact Nat.lt_succ_self _

/-- Logging draws no key. -/
theorem nextId_logChanges (changes : List AuditChange) (entry : AuditEntry) :
    (db'.logChanges changes entry).nextId = db'.nextId := by
  cases changes <;> rfl

/-- After a row, the next key is fresh. -/
theorem RowDone.fresh (h : RowDone job now row db db' outcome)
    (hFresh : ∀ survey ∈ db.surveys.rows, survey.id < db.nextId) :
    ∀ survey ∈ db'.surveys.rows, survey.id < db'.nextId := by
  cases h with
  | skipped => exact hFresh
  | unchanged => exact hFresh
  | rewritten hMatch _ _ hRun =>
      rw [SurveyDb.logChanges_surveys, nextId_logChanges]
      exact fresh_of_rewrite (matchOf_mem hMatch) hRun hFresh
  | inserted _ hCreate => exact fresh_of_create hCreate hFresh
  | collided _ _ hConflict hRun =>
      exact fresh_of_rewrite (bySurveyId?_eq_some hConflict).1 hRun hFresh

/-- A survey that stays does so when changes are logged. -/
theorem stays_logChanges {survey : Survey} {changes : List AuditChange} {entry : AuditEntry}
    (h : Stays db' db survey) : Stays (db'.logChanges changes entry) db survey := by
  unfold Stays SurveyDb.storedFloors at h ⊢
  rwa [SurveyDb.logChanges_surveys, SurveyDb.logChanges_floors]

/-- A row of a SKIP job leaves every live survey alone. -/
theorem RowDone.skip_stays (h : RowDone job now row db db' outcome)
    (hSkip : job.duplicateStrategy = .skip) {survey : Survey} (hSurvey : survey ∈ db.surveys.rows)
    (hLive : survey.isLive = true) : Stays db' db survey := by
  cases h with
  | skipped => exact ⟨hSurvey, rfl⟩
  | unchanged => exact ⟨hSurvey, rfl⟩
  | rewritten hMatch hRewrite _ hRun =>
      refine stays_logChanges (stays_of_rewrite (matchOf_mem hMatch) hRun hSurvey ?_)
      rintro rfl
      rcases hRewrite with hUpdate | hDeleted
      · rw [hSkip] at hUpdate
        cases hUpdate
      · rw [hLive] at hDeleted
        cases hDeleted
  | inserted _ hCreate => exact stays_of_create hCreate hSurvey
  | collided hInsert _ hConflict =>
      cases hMatch : matchOf row db with
      | none =>
          rw [bySurveyId?_of_matchOf hMatch] at hConflict
          cases hConflict
      | some existing =>
          have hCreate := (hInsert existing hMatch).1
          rw [hSkip] at hCreate
          cases hCreate

/-- What a stored row of a CREATE job leaves behind: a live survey under its id
and of its property; the live surveys under other ids are those of before. -/
structure Lands (row : ImportRow) (db db' : SurveyDb) : Prop where
  others : ∀ survey, survey.isLive = true → survey.surveyId ≠ row.surveyId →
    (survey ∈ db'.surveys.rows ↔ survey ∈ db.surveys.rows)
  otherFloors : ∀ survey ∈ db.surveys.rows, survey.isLive = true →
    survey.surveyId ≠ row.surveyId → db'.storedFloors survey.id = db.storedFloors survey.id
  holder : ∃ survey ∈ db'.surveys.rows, survey.isLive = true ∧ survey.surveyId = row.surveyId ∧
    propertyOf survey = row.property
  written : ∀ old ∈ db.surveys.rows, old.isLive = true → old.surveyId = row.surveyId →
    (ImportRow.rewriteData row).applyTo old ∈ db'.surveys.rows ∧
      db'.storedFloors old.id = row.floors.map (ParsedFloor.toRow old.id)
  fresh : (∀ survey ∈ db.surveys.rows, survey.id < db.nextId) →
    ∀ survey ∈ db'.surveys.rows, survey.id < db'.nextId

/-- A rewritten survey is live and has the row's id and property. -/
theorem property_rewrite (hParsed : row.IsParsed) (old : Survey) :
    ((ImportRow.rewriteData row).applyTo old).isLive = true ∧
      ((ImportRow.rewriteData row).applyTo old).surveyId = row.surveyId ∧
      propertyOf ((ImportRow.rewriteData row).applyTo old) = row.property := by
  refine ⟨rfl, ?_, ?_⟩
  · simp [ImportRow.rewriteData, SurveyData.applyTo, hParsed.surveyId]
  · simp [propertyOf, ImportRow.property, ImportRow.rewriteData, SurveyData.applyTo, hParsed.wardId,
      hParsed.parcelNo, hParsed.propertyNo]

/-- A rewrite of a deleted survey, or of the one that holds the id. -/
theorem lands_of_rewrite {old updated : Survey} (hParsed : row.IsParsed)
    (hOld : old ∈ db.surveys.rows) (hApart : old.isLive = true → old.surveyId = row.surveyId)
    (h : (db.deleteFloors old.id).updateSurvey old.id (ImportRow.rewriteData row) row.floors =
      .ok (db', updated)) : Lands row db db' := by
  have hKept : old ∈ (db.deleteFloors old.id).surveys.rows := hOld
  obtain ⟨rfl, hReplaced⟩ := SurveyDb.updateSurvey_of_mem hKept h
  obtain ⟨-, -, -, -, hFloors, -⟩ := SurveyDb.updateSurvey_ok h
  obtain ⟨hLive, hSurveyId, hProperty⟩ := property_rewrite hParsed old
  have hNew : (ImportRow.rewriteData row).applyTo old ∈ db'.surveys.rows := hReplaced.mem_new
  constructor
  · intro survey hSurveyLive hId
    constructor
    · intro hSurvey
      rcases (hReplaced.mem_iff survey).mp hSurvey with ⟨hBefore, -⟩ | rfl
      · exact hBefore
      · exact absurd hSurveyId hId
    · intro hSurvey
      refine (stays_of_rewrite hOld h hSurvey ?_).1
      rintro rfl
      exact hId (hApart hSurveyLive)
  · intro survey hSurvey hSurveyLive hId
    refine (stays_of_rewrite hOld h hSurvey ?_).2
    rintro rfl
    exact hId (hApart hSurveyLive)
  · exact ⟨_, hNew, hLive, hSurveyId, hProperty⟩
  · intro other hOther hOtherLive hId
    obtain rfl : other = old := by
      by_contra hNe
      have hStays := (stays_of_rewrite hOld h hOther hNe).1
      have hSame := eq_of_surveyId hStays hNew (hId.trans hSurveyId.symm)
      have hId : other.id = old.id := by rw [hSame]; rfl
      exact hNe (eq_of_key hOther hOld hId)
    refine ⟨hNew, ?_⟩
    rw [SurveyDb.storedFloors, hFloors, List.filter_append, filter_deleteFloors_self,
      filter_toRow_self, List.nil_append]
  · exact fresh_of_rewrite hOld h

/-- An insert, under an id that no survey holds. -/
theorem lands_of_create {created : Survey} (hParsed : row.IsParsed)
    (h : db.createSurvey row.payload row.floors now = .ok (db', created)) : Lands row db db' := by
  have hStays := fun (survey : Survey) (hSurvey : survey ∈ db.surveys.rows) =>
    stays_of_create h hSurvey
  obtain ⟨hAdded, -, -, surveyId, wardId, -, -, rfl⟩ := SurveyDb.createSurvey_ok h
  rw [← rewriteData_applyTo_new hParsed rfl] at hAdded
  obtain ⟨hLive, hSurveyId, hProperty⟩ := property_rewrite hParsed
    (SurveyDb.newSurvey db.nextId surveyId wardId now)
  constructor
  · intro survey _ hId
    constructor
    · intro hSurvey
      rcases (hAdded.mem_iff survey).mp hSurvey with hBefore | rfl
      · exact hBefore
      · exact absurd hSurveyId hId
    · exact fun hSurvey => (hStays survey hSurvey).1
  · exact fun survey hSurvey _ _ => (hStays survey hSurvey).2
  · exact ⟨_, hAdded.mem_row, hLive, hSurveyId, hProperty⟩
  · intro old hOld _ hId
    have hSame := eq_of_surveyId (hStays old hOld).1 hAdded.mem_row (hId.trans hSurveyId.symm)
    exact absurd (congrArg Survey.id hSame) (hAdded.key_ne hOld)
  · exact fresh_of_create h

/-- Where a row lands does not depend on what is logged. -/
theorem Lands.logChanges (h : Lands row db db') (changes : List AuditChange) (entry : AuditEntry) :
    Lands row db (db'.logChanges changes entry) := by
  obtain ⟨hOthers, hOtherFloors, hHolder, hOver, hFresh⟩ := h
  constructor
  · simpa using hOthers
  · simpa [SurveyDb.storedFloors] using hOtherFloors
  · simpa using hHolder
  · simpa [SurveyDb.storedFloors] using hOver
  · simpa [nextId_logChanges] using hFresh

/-- A row of a creating job lands in a survey. -/
theorem RowDone.lands (h : RowDone job now row db db' outcome)
    (hCreate : job.duplicateStrategy = .create) (hParsed : row.IsParsed) : Lands row db db' := by
  cases h with
  | skipped _ hSkip =>
      rw [hCreate] at hSkip
      cases hSkip
  | unchanged _ hUpdate =>
      rw [hCreate] at hUpdate
      cases hUpdate
  | rewritten hMatch hRewrite _ hRun =>
      refine (lands_of_rewrite hParsed (matchOf_mem hMatch) (fun hLive => ?_) hRun).logChanges _ _
      rcases hRewrite with hUpdate | hDeleted
      · rw [hCreate] at hUpdate
        cases hUpdate
      · rw [hLive] at hDeleted
        cases hDeleted
  | inserted _ hRun => exact lands_of_create hParsed hRun
  | collided _ _ hConflict hRun =>
      obtain ⟨hMem, hId⟩ := bySurveyId?_eq_some hConflict
      exact lands_of_rewrite hParsed hMem (fun _ => hId) hRun

/-- The database can store the row. -/
def ImportRow.isStorable (row : ImportRow) : Bool :=
  (ImportRow.rewriteData row).isValid && row.floors.all ParsedFloor.isStorable

/-- No live survey stands in for the row: it is written. -/
def IsWritten (job : ImportJob) (row : ImportRow) (db : SurveyDb) : Prop :=
  ∀ existing, matchOf row db = some existing →
    ¬ (job.duplicateStrategy = .skip ∧ existing.isLive = true) ∧
      ¬ (job.duplicateStrategy = .update ∧ isShortcut row existing = true)

/-- A creating job writes every row. -/
theorem isWritten_of_create (hCreate : job.duplicateStrategy = .create) : IsWritten job row db := by
  intro existing _
  simp [hCreate]

/-- What was written could be stored. -/
theorem RowDone.isStorable (h : RowDone job now row db db' outcome)
    (hWritten : IsWritten job row db) : row.isStorable = true := by
  cases h with
  | skipped hMatch hSkip hLive => exact absurd ⟨hSkip, hLive⟩ (hWritten _ hMatch).1
  | unchanged hMatch hUpdate hShortcut =>
      exact absurd ⟨hUpdate, hShortcut⟩ (hWritten _ hMatch).2
  | rewritten _ _ _ hRun => exact Bool.and_eq_true_iff.mpr (SurveyDb.updateSurvey_valid hRun)
  | inserted _ hRun =>
      obtain ⟨hValid, hFloors⟩ := SurveyDb.createSurvey_valid hRun
      exact Bool.and_eq_true_iff.mpr (isAccepted_of_payload hValid hFloors)
  | collided _ _ _ hRun => exact Bool.and_eq_true_iff.mpr (SurveyDb.updateSurvey_valid hRun)

/-- Only a row that is written can be refused. -/
theorem RowRefused.isWritten {error : SurveyError} (h : RowRefused job now row db error) :
    IsWritten job row db := by
  intro existing hExisting
  have hInsert : GoesToInsert job row db →
      ¬ (job.duplicateStrategy = .skip ∧ existing.isLive = true) ∧
        ¬ (job.duplicateStrategy = .update ∧ isShortcut row existing = true) := by
    intro hInsert
    simp [(hInsert existing hExisting).1]
  cases h with
  | rewrite hMatch hRewrite hShortcut =>
      obtain rfl := Option.some.inj (hMatch.symm.trans hExisting)
      refine ⟨?_, by simp [hShortcut]⟩
      rintro ⟨hSkip, hLive⟩
      rcases hRewrite with hUpdate | hDeleted
      · rw [hSkip] at hUpdate
        cases hUpdate
      · rw [hLive] at hDeleted
        cases hDeleted
  | insert hGoes => exact hInsert hGoes
  | collision hGoes => exact hInsert hGoes

/-- A storable row is stored, as long as new row ids are new. -/
theorem RowRefused.not_isStorable {error : SurveyError} (h : RowRefused job now row db error)
    (hParsed : row.IsParsed)
    (hFresh : ∀ survey ∈ db.surveys.rows, survey.id < db.nextId) : row.isStorable = false := by
  by_contra hStorable
  rw [Bool.not_eq_false, ImportRow.isStorable, Bool.and_eq_true_iff] at hStorable
  obtain ⟨hValid, hFloors⟩ := hStorable
  have hPayload : row.payload.isValid = (ImportRow.rewriteData row).isValid := by
    have hActive : decide (row.payload.status ≠ .null) = true := by simp [hParsed.status]
    unfold SurveyData.isValid
    rw [hActive]
    rfl
  have hRewritten : ∀ old ∈ db.surveys.rows,
      (∀ other ∈ db.surveys.rows, other.surveyId = row.surveyId → other = old) →
      ∃ result, (db.deleteFloors old.id).updateSurvey old.id (ImportRow.rewriteData row)
        row.floors = .ok result := by
    intro old hOld hFree
    have hKept : old ∈ (db.deleteFloors old.id).surveys.rows := hOld
    exact SurveyDb.updateSurvey_isOk hKept hValid hFloors fun other hOther hId =>
      hFree other hOther (by simpa [ImportRow.rewriteData, hParsed.surveyId] using hId)
  cases h with
  | rewrite hMatch _ _ hError =>
      obtain ⟨result, hOk⟩ := hRewritten _ (matchOf_mem hMatch) fun other => eq_of_matchOf hMatch
      rw [hError] at hOk
      cases hOk
  | insert _ hError hConflict =>
      cases hHeld : db.bySurveyId? row.surveyId with
      | none =>
          have hFree : ∀ other ∈ db.surveys.rows,
              other.id ≠ db.nextId ∧ other.surveyId ≠ row.surveyId := by
            intro other hOther
            refine ⟨Nat.ne_of_lt (hFresh other hOther), fun hId => ?_⟩
            simpa [hId] using List.find?_eq_none.mp hHeld other hOther
          obtain ⟨result, hOk⟩ := @SurveyDb.createSurvey_isOk _ _ now _ _ _ hParsed.surveyId
            hParsed.wardId (hPayload.trans hValid) hFloors hFree
          rw [hError] at hOk
          cases hOk
      | some holder =>
          obtain ⟨hMem, hId⟩ := bySurveyId?_eq_some hHeld
          have hRefused := @SurveyDb.createSurvey_refused _ _ now _ _ _ hParsed.surveyId
            hParsed.wardId (hPayload.trans hValid) hFloors _ hMem hId
          rw [hError] at hRefused
          rw [hConflict (Except.error.inj hRefused)] at hHeld
          cases hHeld
  | collision _ _ hConflict hError =>
      obtain ⟨hMem, hId⟩ := bySurveyId?_eq_some hConflict
      obtain ⟨result, hOk⟩ := hRewritten _ hMem fun other hOther hOtherId =>
        eq_of_surveyId hOther hMem (hOtherId.trans hId.symm)
      rw [hError] at hOk
      cases hOk

end Row

/-! ### A CREATE job -/

/-- The rows that are stored under the id, in order. -/
def rowsFor (surveyId : Text) (rows : List ImportRow) : List ImportRow :=
  rows.filter fun row => row.isStorable && row.surveyId = surveyId

/-- The columns after the rows were written over them, one after another. -/
def writtenOver (rows : List ImportRow) (survey : Survey) : Survey :=
  rows.foldl (fun survey row => (ImportRow.rewriteData row).applyTo survey) survey

/-- The floors of the last row, if there is one. -/
def floorsAfter (rows : List ImportRow) (id : Id) (before : List SurveyFloor) : List SurveyFloor :=
  (rows.getLast?.map fun row => row.floors.map (ParsedFloor.toRow id)).getD before

/-- The rows for a survey id are the storable ones that have it. -/
theorem mem_rowsFor {surveyId : Text} {rows : List ImportRow} {row : ImportRow} :
    row ∈ rowsFor surveyId rows ↔
      row ∈ rows ∧ row.isStorable = true ∧ row.surveyId = surveyId := by
  simp [rowsFor]

theorem rowsFor_self {rows : List ImportRow} {row : ImportRow} (h : row.isStorable = true) :
    rowsFor row.surveyId (rows ++ [row]) = rowsFor row.surveyId rows ++ [row] := by
  simp [rowsFor, h]

theorem rowsFor_of_ne {surveyId : Text} {rows : List ImportRow} {row : ImportRow}
    (h : row.surveyId ≠ surveyId) : rowsFor surveyId (rows ++ [row]) = rowsFor surveyId rows := by
  simp [rowsFor, h]

/-- A row that cannot be stored is for no id. -/
theorem rowsFor_of_not_storable {surveyId : Text} {rows : List ImportRow} {row : ImportRow}
    (h : row.isStorable = false) : rowsFor surveyId (rows ++ [row]) = rowsFor surveyId rows := by
  simp [rowsFor, h]

/-- The id stays, and so does the Survey Id if it is that of the rows. -/
theorem writtenOver_kept {rows : List ImportRow} {survey : Survey} (hLive : survey.isLive = true)
    (hRows : ∀ row ∈ rows, row.IsParsed ∧ row.surveyId = survey.surveyId) :
    (writtenOver rows survey).id = survey.id ∧
      (writtenOver rows survey).surveyId = survey.surveyId ∧
      (writtenOver rows survey).isLive = true := by
  induction rows generalizing survey with
  | nil => exact ⟨rfl, rfl, hLive⟩
  | cons row rows ih =>
      obtain ⟨⟨hParsed, hId⟩, hRows⟩ := List.forall_mem_cons.mp hRows
      obtain ⟨hNewLive, hSurveyId, -⟩ := property_rewrite hParsed survey
      have hNew := ih hNewLive fun other hOther =>
        ⟨(hRows other hOther).1, by rw [hSurveyId, (hRows other hOther).2, hId]⟩
      rw [hSurveyId, hId] at hNew
      exact hNew

/-- The table after the rows, as far as live surveys are concerned. -/
structure CreatedFrom (start : SurveyDb) (rows : List ImportRow) (db : SurveyDb) : Prop where
  parsed : ∀ row ∈ rows, row.IsParsed
  fresh : ∀ survey ∈ db.surveys.rows, survey.id < db.nextId
  others : ∀ survey, survey.isLive = true → rowsFor survey.surveyId rows = [] →
    (survey ∈ db.surveys.rows ↔ survey ∈ start.surveys.rows)
  holders : ∀ surveyId row, (rowsFor surveyId rows).getLast? = some row →
    ∃ survey ∈ db.surveys.rows, survey.isLive = true ∧ survey.surveyId = surveyId ∧
      propertyOf survey = row.property
  written : ∀ survey ∈ start.surveys.rows, survey.isLive = true →
    writtenOver (rowsFor survey.surveyId rows) survey ∈ db.surveys.rows ∧
      db.storedFloors survey.id =
        floorsAfter (rowsFor survey.surveyId rows) survey.id (start.storedFloors survey.id)

section Create
variable {start db db' : SurveyDb} {rows : List ImportRow} {row : ImportRow}

theorem createdFrom_start (hFresh : ∀ survey ∈ start.surveys.rows, survey.id < start.nextId) :
    CreatedFrom start [] start where
  parsed row hRow := by cases hRow
  fresh := hFresh
  others _ _ _ := Iff.rfl
  holders surveyId row hRow := by cases hRow
  written survey hSurvey _ := ⟨hSurvey, rfl⟩

/-- A row that lands is one more that the database is created from. -/
theorem CreatedFrom.lands (h : CreatedFrom start rows db) (hParsed : row.IsParsed)
    (hStorable : row.isStorable = true) (hLands : Lands row db db') :
    CreatedFrom start (rows ++ [row]) db' := by
  constructor
  · simpa [or_imp, forall_and] using ⟨h.parsed, hParsed⟩
  · exact hLands.fresh h.fresh
  · intro survey hLive hNone
    have hId : survey.surveyId ≠ row.surveyId := by
      intro hId
      rw [hId, rowsFor_self hStorable] at hNone
      simp at hNone
    rw [rowsFor_of_ne hId.symm] at hNone
    exact (hLands.others survey hLive hId).trans (h.others survey hLive hNone)
  · intro surveyId last hLast
    by_cases hId : row.surveyId = surveyId
    · subst hId
      rw [rowsFor_self hStorable, List.getLast?_append, List.getLast?_singleton] at hLast
      obtain rfl : row = last := Option.some.inj hLast
      exact hLands.holder
    · rw [rowsFor_of_ne hId] at hLast
      obtain ⟨survey, hSurvey, hLive, rfl, hProperty⟩ := h.holders surveyId last hLast
      exact ⟨survey, (hLands.others survey hLive (Ne.symm hId)).mpr hSurvey, hLive, rfl, hProperty⟩
  · intro survey hSurvey hLive
    obtain ⟨hCurrent, hFloors⟩ := h.written survey hSurvey hLive
    obtain ⟨hId, hSurveyId, hCurrentLive⟩ := @writtenOver_kept (rowsFor survey.surveyId rows)
      survey hLive fun other hOther =>
        ⟨h.parsed other (mem_rowsFor.mp hOther).1, (mem_rowsFor.mp hOther).2.2⟩
    by_cases hSame : row.surveyId = survey.surveyId
    · have hOver := hLands.written _ hCurrent hCurrentLive (hSurveyId.trans hSame.symm)
      rw [hId] at hOver
      rw [← hSame, rowsFor_self hStorable, hSame]
      refine ⟨?_, ?_⟩
      · rw [writtenOver, List.foldl_append]
        exact hOver.1
      · rw [floorsAfter, List.getLast?_append, List.getLast?_singleton]
        exact hOver.2
    · have hNe : (writtenOver (rowsFor survey.surveyId rows) survey).surveyId ≠ row.surveyId := by
        rw [hSurveyId]
        exact Ne.symm hSame
      have hStays := (hLands.others _ hCurrentLive hNe).mpr hCurrent
      have hKept := hLands.otherFloors _ hCurrent hCurrentLive hNe
      rw [hId] at hKept
      rw [rowsFor_of_ne hSame]
      exact ⟨hStays, hKept.trans hFloors⟩

/-- A row that is not stored leaves the tables as they were. -/
theorem CreatedFrom.skips (h : CreatedFrom start rows db) (hParsed : row.IsParsed)
    (hStorable : row.isStorable = false) : CreatedFrom start (rows ++ [row]) db := by
  obtain ⟨hRows, hFresh, hOthers, hHolders, hOver⟩ := h
  refine ⟨?_, hFresh, ?_, ?_, ?_⟩
  · simpa [or_imp, forall_and] using ⟨hRows, hParsed⟩
  · simpa only [rowsFor_of_not_storable hStorable] using hOthers
  · simpa only [rowsFor_of_not_storable hStorable] using hHolders
  · simpa only [rowsFor_of_not_storable hStorable] using hOver

variable {env : Env} {job : ImportJob} {now : Timestamp}

/-- An error that is recorded touches no survey. -/
theorem CreatedFrom.fail {state : JobState} (h : CreatedFrom start rows state.db)
    (error : ImportError) : CreatedFrom start rows (state.fail error).db where
  parsed := h.parsed
  fresh := h.fresh
  others := h.others
  holders := h.holders
  written := h.written

/-- The rows of the lines, one after another, are what the table comes from. -/
theorem createdFrom_run {map : ColumnMap} {state : JobState}
    (hCreate : job.duplicateStrategy = .create) (h : CreatedFrom start rows state.db)
    (lines : List (List ExcelValue × Nat)) :
    CreatedFrom start (rows ++ (lines.map Prod.fst).filterMap (rowOf env job map))
      (run (lineStep env job now map) state lines).db := by
  induction lines generalizing rows state with
  | nil =>
      rw [List.map_nil, List.filterMap_nil, List.append_nil]
      exact h
  | cons line lines ih =>
      rw [List.map_cons, run_cons]
      generalize hNext : lineStep env job now map state line = next
      have hDone := @lineStep_done env job now map state line
      rw [hNext] at hDone
      cases hDone with
      | unnamed hNamed =>
          have hNone : rowOf env job map line.1 = none := if_pos hNamed
          rw [List.filterMap_cons_none hNone]
          exact ih h
      | unread hNamed hError =>
          have hNone : rowOf env job map line.1 = none := by
            rw [rowOf, if_neg hNamed, hError]
            rfl
          rw [List.filterMap_cons_none hNone]
          exact ih (h.fail _)
      | refused hRow hRefused =>
          have hParsed := (rowOf_isRead hRow).isParsed
          have hSkipped := h.skips hParsed (hRefused.not_isStorable hParsed h.fresh)
          rw [List.filterMap_cons_some hRow, List.append_cons]
          exact ih (hSkipped.fail _)
      | stored hRow _ hStored =>
          have hParsed := (rowOf_isRead hRow).isParsed
          rw [List.filterMap_cons_some hRow, List.append_cons]
          exact ih (h.lands hParsed (hStored.isStorable (isWritten_of_create hCreate)) (hStored.lands hCreate hParsed))

/-- In the end a live survey has the Survey Id and is of the property: the last
row that was stored under the id names it, or it was there and no row was. -/
def EndsAs (start : SurveyDb) (rows : List ImportRow) (surveyId : Text)
    (property : Id × Option Text × Option Text) : Prop :=
  (∃ row, (rowsFor surveyId rows).getLast? = some row ∧ row.property = property) ∨
    (rowsFor surveyId rows = [] ∧ ∃ survey ∈ start.surveys.rows, survey.isLive = true ∧
      survey.surveyId = surveyId ∧ propertyOf survey = property)

/-- Which live surveys there are at the end. -/
theorem CreatedFrom.endsAs_iff (h : CreatedFrom start rows db) (surveyId : Text)
    (property : Id × Option Text × Option Text) :
    (∃ survey ∈ db.surveys.rows, survey.isLive = true ∧ survey.surveyId = surveyId ∧
      propertyOf survey = property) ↔ EndsAs start rows surveyId property := by
  cases hLast : (rowsFor surveyId rows).getLast? with
  | none =>
      have hNone : rowsFor surveyId rows = [] := List.getLast?_eq_none_iff.mp hLast
      constructor
      · rintro ⟨survey, hSurvey, hLive, rfl, hProperty⟩
        exact .inr ⟨hNone, survey, (h.others survey hLive hNone).mp hSurvey, hLive, rfl, hProperty⟩
      · rintro (⟨row, hRow, -⟩ | ⟨-, survey, hSurvey, hLive, rfl, hProperty⟩)
        · rw [hLast] at hRow
          cases hRow
        · exact ⟨survey, (h.others survey hLive hNone).mpr hSurvey, hLive, rfl, hProperty⟩
  | some last =>
      obtain ⟨holder, hHolder, hHolderLive, hHolderId, hHolderProperty⟩ :=
        h.holders surveyId last hLast
      constructor
      · rintro ⟨survey, hSurvey, -, hId, hProperty⟩
        obtain rfl := eq_of_surveyId hSurvey hHolder (hId.trans hHolderId.symm)
        exact .inl ⟨last, hLast, hHolderProperty.symm.trans hProperty⟩
      · rintro (⟨row, hRow, hProperty⟩ | ⟨hNone, -⟩)
        · obtain rfl := Option.some.inj (hLast.symm.trans hRow)
          exact ⟨holder, hHolder, hHolderLive, hHolderId, hHolderProperty.trans hProperty⟩
        · rw [hNone] at hLast
          cases hLast

/-- The rows for a live survey say what it holds, and every property is under
one Survey Id in the end. -/
structure LeavesLive (start : SurveyDb) (rows : List ImportRow) : Prop where
  unchanged : ∀ survey ∈ start.surveys.rows, survey.isLive = true →
    writtenOver (rowsFor survey.surveyId rows) survey = survey ∧
      floorsAfter (rowsFor survey.surveyId rows) survey.id (start.storedFloors survey.id) =
        start.storedFloors survey.id
  apart : ∀ surveyId otherId property, EndsAs start rows surveyId property →
    EndsAs start rows otherId property → surveyId = otherId

/-- When the rows keep the live surveys there were. -/
theorem CreatedFrom.keepsLive_iff (h : CreatedFrom start rows db) : KeepsLive start db ↔
    ∀ survey ∈ start.surveys.rows, survey.isLive = true →
      writtenOver (rowsFor survey.surveyId rows) survey = survey ∧
        floorsAfter (rowsFor survey.surveyId rows) survey.id (start.storedFloors survey.id) =
          start.storedFloors survey.id := by
  refine forall_congr' fun survey => forall_congr' fun hSurvey => forall_congr' fun hLive => ?_
  obtain ⟨hCurrent, hFloors⟩ := h.written survey hSurvey hLive
  obtain ⟨hId, -, -⟩ := @writtenOver_kept (rowsFor survey.surveyId rows) survey hLive
    fun other hOther => ⟨h.parsed other (mem_rowsFor.mp hOther).1, (mem_rowsFor.mp hOther).2.2⟩
  rw [hFloors]
  refine and_congr_left fun _ => ⟨fun hKept => eq_of_key hCurrent hKept hId, fun hSame => ?_⟩
  rw [← hSame]
  exact hCurrent

/-- When no two surveys end with one property. -/
theorem CreatedFrom.propertiesApart_iff (h : CreatedFrom start rows db) : PropertiesApart db ↔
    ∀ surveyId otherId property, EndsAs start rows surveyId property →
      EndsAs start rows otherId property → surveyId = otherId := by
  constructor
  · intro hApart surveyId otherId property hEnds hOtherEnds
    obtain ⟨survey, hSurvey, hLive, rfl, rfl⟩ := (h.endsAs_iff surveyId property).mpr hEnds
    obtain ⟨other, hOther, hOtherLive, rfl, hSame⟩ := (h.endsAs_iff otherId _).mpr hOtherEnds
    rw [hApart survey hSurvey other hOther hLive hOtherLive hSame.symm]
  · intro hApart survey hSurvey other hOther hLive hOtherLive hSame
    refine eq_of_surveyId hSurvey hOther (hApart _ _ (propertyOf survey) ?_ ?_)
    · exact (h.endsAs_iff _ _).mp ⟨survey, hSurvey, hLive, rfl, rfl⟩
    · exact (h.endsAs_iff _ _).mp ⟨other, hOther, hOtherLive, rfl, hSame.symm⟩

/-- A SKIP job leaves the live surveys alone, line by line. -/
theorem keepsLive_run {map : ColumnMap} {state : JobState} (hSkip : job.duplicateStrategy = .skip)
    (h : KeepsLive start state.db) (lines : List (List ExcelValue × Nat)) :
    KeepsLive start (run (lineStep env job now map) state lines).db := by
  refine run_invariant (fun state : JobState => KeepsLive start state.db)
    (fun state line hState => ?_) h lines
  generalize hNext : lineStep env job now map state line = next
  have hDone := @lineStep_done env job now map state line
  rw [hNext] at hDone
  cases hDone with
  | unnamed => exact hState
  | unread => exact hState
  | refused => exact hState
  | stored _ _ hStored =>
      intro survey hSurvey hLive
      obtain ⟨hMem, hFloors⟩ := hState survey hSurvey hLive
      obtain ⟨hStays, hKept⟩ := hStored.skip_stays hSkip hMem hLive
      exact ⟨hStays, hKept.trans hFloors⟩

/-- The job prunes only under UPDATE. -/
theorem prunedIds_of_ne {pruneMissing : Bool} {progress : ImportProgress}
    (h : job.duplicateStrategy ≠ .update) : prunedIds job pruneMissing progress db = [] := by
  have hNone : shouldReconcileWardAfterImport job pruneMissing progress = none := by
    simp [shouldReconcileWardAfterImport, h]
  simp only [prunedIds, hNone]

end Create

/-! ### The whole job -/

section Job
variable {env : Env} {job : ImportJob} {now : Timestamp} {pruneMissing : Bool}
  {sheet : Option Sheet} {db : SurveyDb} {after : SurveyState}
  {result : Except SurveyError ImportResult}

/-- A job of these strategies ends with its last line. -/
theorem processJob_unpruned (hStrategy : job.duplicateStrategy ≠ .update)
    (hJob : processJob env job now pruneMissing sheet ⟨db, []⟩ = (after, result)) :
    ∃ map lines, fileRows env job sheet = (lines.map Prod.fst).filterMap (rowOf env job map) ∧
      after.db.surveys.rows = (run (lineStep env job now map) ⟨db, {}⟩ lines).db.surveys.rows ∧
      after.db.floors = (run (lineStep env job now map) ⟨db, {}⟩ lines).db.floors := by
  cases hLoaded : loadSurveySheet env sheet with
  | error error =>
      unfold processJob at hJob
      rw [hLoaded] at hJob
      obtain rfl := congrArg Prod.fst hJob
      refine ⟨default, [], ?_, rfl, rfl⟩
      simp only [fileRows, hLoaded]
      rfl
  | ok loaded =>
      obtain ⟨db', pruned, hRun, hFloors, -, hRows⟩ := processJob_run hLoaded pruneMissing db
      obtain ⟨rfl, -⟩ := Prod.mk.inj (hJob.symm.trans hRun)
      rw [prunedIds_of_ne hStrategy, markDeleted_nil, List.map_id] at hRows
      refine ⟨loaded.1, loaded.2.rows.zipIdx 2, ?_, hRows, hFloors⟩
      have hLines : (loaded.2.rows.zipIdx 2).map Prod.fst = loaded.2.rows :=
        List.zipIdx_map_fst 2 _
      simp only [fileRows, hLoaded, hLines]

/-- A job that does not update leaves the live surveys alone, and apart if it
creates, exactly when it creates nothing or the rows agree with them. -/
theorem importJob_keepsLive_iff (hStrategy : job.duplicateStrategy ≠ .update)
    (hFresh : ∀ survey ∈ db.surveys.rows, survey.id < db.nextId)
    (hJob : processJob env job now pruneMissing sheet ⟨db, []⟩ = (after, result)) :
    (KeepsLive db after.db ∧ (job.duplicateStrategy = .create → PropertiesApart after.db)) ↔
      (job.duplicateStrategy = .create → LeavesLive db (fileRows env job sheet)) := by
  obtain ⟨map, lines, hFile, hRows, hFloors⟩ := processJob_unpruned hStrategy hJob
  have hKeeps : KeepsLive db after.db ↔
      KeepsLive db (run (lineStep env job now map) ⟨db, {}⟩ lines).db := by
    simp only [KeepsLive, SurveyDb.storedFloors, hRows, hFloors]
  have hApart : PropertiesApart after.db ↔
      PropertiesApart (run (lineStep env job now map) ⟨db, {}⟩ lines).db := by
    simp only [PropertiesApart, hRows]
  rw [hKeeps, hApart]
  cases hJobStrategy : job.duplicateStrategy with
  | update => exact absurd hJobStrategy hStrategy
  | skip =>
      have hKept := @keepsLive_run db env job now map ⟨db, {}⟩ hJobStrategy
        (fun survey hSurvey _ => ⟨hSurvey, rfl⟩) lines
      exact iff_of_true ⟨hKept, fun h => by cases h⟩ fun h => by cases h
  | create =>
      have hFrom := @createdFrom_run db [] env job now map ⟨db, {}⟩ hJobStrategy
        (createdFrom_start hFresh) lines
      rw [List.nil_append, ← hFile] at hFrom
      rw [hFrom.keepsLive_iff, hFrom.propertiesApart_iff]
      constructor
      · rintro ⟨hUnchanged, hApart⟩ -
        exact ⟨hUnchanged, hApart rfl⟩
      · intro h
        exact ⟨(h rfl).unchanged, fun _ => (h rfl).apart⟩

end Job

namespace Sample

def createJob : ImportJob := ⟨7, .create, none⟩

/-- The id that `oneProperty` names is that of a live survey. -/
def heldAlready : SurveyDb := { withAadhaar "111122223333" with nextId := 2 }

/-- The result, and the database it is reached in. -/
def created (db : SurveyDb) : SurveyState × Except SurveyError ImportResult :=
  processJob firstWard createJob 0 false (some oneProperty) ⟨db, []⟩

theorem created_oneProperty :
    (created heldAlready).1.db.surveys.rows.map (fun survey => survey.text .ownerName) =
      [some "Asha".toList] := by
  decide +kernel

end Sample

/-- A CREATE job writes its row over the live survey with the same id. -/
theorem createJob_overwrites : ¬ ∀ (env : Env) (job : ImportJob) (now : Timestamp)
    (pruneMissing : Bool) (sheet : Option Sheet) (db : SurveyDb) (after : SurveyState)
    (result : Except SurveyError ImportResult), job.duplicateStrategy ≠ .update →
    (∀ survey ∈ db.surveys.rows, survey.id < db.nextId) →
    processJob env job now pruneMissing sheet ⟨db, []⟩ = (after, result) →
    KeepsLive db after.db ∧ (job.duplicateStrategy = .create → PropertiesApart after.db) := by
  intro hLaw
  obtain ⟨hKept, -⟩ := hLaw Sample.firstWard Sample.createJob 0 false (some Sample.oneProperty)
    Sample.heldAlready (Sample.created Sample.heldAlready).1 (Sample.created Sample.heldAlready).2
    (by decide) (by decide) rfl
  obtain ⟨hSurvey, -⟩ := hKept _ (List.mem_singleton_self _) rfl
  have hName := List.mem_map_of_mem (f := fun survey : Survey => survey.text .ownerName) hSurvey
  rw [Sample.created_oneProperty] at hName
  exact absurd hName (by decide)

namespace Sample

/-- Another house of the ward. -/
def neighbour : SurveyDb :=
  { SurveyDb.empty with
    surveys := ⟨[{ SurveyDb.newSurvey 1 "249044-001-000009-001-R".toList 1 0 with
      parcelNo := some "000009".toList
      propertyNo := some "001".toList }], List.pairwise_singleton _ _⟩
    nextId := 2 }

theorem property_oneProperty :
    (fileRows firstWard createJob (some oneProperty)).map (fun row => (row.surveyId, row.property)) =
      [("249044-001-000001-001-R".toList, 1, some "000001".toList, some "001".toList)] := by
  decide

/-- In the end the new house and the other one have their own ids. -/
theorem endsAs_neighbour {surveyId : Text} {property : Id × Option Text × Option Text}
    (h : EndsAs neighbour (fileRows firstWard createJob (some oneProperty)) surveyId property) :
    (surveyId, property) =
        ("249044-001-000001-001-R".toList, 1, some "000001".toList, some "001".toList) ∨
      (surveyId, property) =
        ("249044-001-000009-001-R".toList, 1, some "000009".toList, some "001".toList) := by
  rcases h with ⟨row, hLast, rfl⟩ | ⟨-, survey, hSurvey, -, rfl, rfl⟩
  · obtain ⟨hRow, -, rfl⟩ := mem_rowsFor.mp (List.mem_of_getLast? hLast)
    have hPair := List.mem_map_of_mem (f := fun row => (row.surveyId, row.property)) hRow
    rw [property_oneProperty] at hPair
    exact .inl (List.mem_singleton.mp hPair)
  · obtain rfl := List.mem_singleton.mp hSurvey
    exact .inr rfl

end Sample

/-- A new property beside a live survey. -/
theorem importJob_keepsLive_iff_new : ∃ after result,
    processJob Sample.firstWard Sample.createJob 0 false (some Sample.oneProperty)
      ⟨Sample.neighbour, []⟩ = (after, result) ∧
    KeepsLive Sample.neighbour after.db ∧ PropertiesApart after.db := by
  have hLaw := @importJob_keepsLive_iff Sample.firstWard Sample.createJob 0 false
    (some Sample.oneProperty) Sample.neighbour _ _ (by decide) (by decide) rfl
  have hLeaves : LeavesLive Sample.neighbour
      (fileRows Sample.firstWard Sample.createJob (some Sample.oneProperty)) := by
    constructor
    · intro survey hSurvey _
      obtain rfl := List.mem_singleton.mp hSurvey
      have hNone : rowsFor "249044-001-000009-001-R".toList
          (fileRows Sample.firstWard Sample.createJob (some Sample.oneProperty)) = [] := by
        refine List.filter_eq_nil_iff.mpr fun row hRow hMeets => ?_
        have hPair := List.mem_map_of_mem (f := fun row => (row.surveyId, row.property)) hRow
        rw [Sample.property_oneProperty] at hPair
        obtain ⟨hId, -⟩ := Prod.mk.inj (List.mem_singleton.mp hPair)
        have hSame := of_decide_eq_true (Bool.and_eq_true_iff.mp hMeets).2
        exact absurd (hId.symm.trans hSame) (by decide)
      exact ⟨congrArg (fun rows => writtenOver rows _) hNone,
        congrArg (fun rows => floorsAfter rows _ _) hNone⟩
    · intro surveyId otherId property hEnds hOther
      rcases Sample.endsAs_neighbour hEnds with h | h <;>
        rcases Sample.endsAs_neighbour hOther with h' | h' <;>
        obtain ⟨rfl, rfl⟩ := Prod.mk.inj h <;> obtain ⟨rfl, hSame⟩ := Prod.mk.inj h'
      · rfl
      · exact absurd hSame (by decide)
      · exact absurd hSame (by decide)
      · rfl
  obtain ⟨hKept, hApart⟩ := hLaw.mpr fun _ => hLeaves
  exact ⟨_, _, rfl, hKept, hApart rfl⟩

end PropertyTax.Surveys
