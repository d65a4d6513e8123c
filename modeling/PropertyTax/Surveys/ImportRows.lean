import PropertyTax.Library.Runs
import PropertyTax.Surveys.Imports

/-! An import job as a run over the rows of its file. Each row is matched with
a survey of the table that the rows before it have left, and is stored there. -/
namespace PropertyTax.Surveys
open KeyedTable Scripts ImportsService

/-- The survey that a row is stored in, if the table has one for it. -/
def matchOf (row : ImportRow) (db : SurveyDb) : Option Survey :=
  match db.bySurveyId? row.surveyId with
  | some survey => some survey
  | none =>
      match (if row.rawSurveyId = row.surveyId then none else db.bySurveyId? row.rawSurveyId) with
      | some survey => some survey
      | none => db.surveys.findFirst? (isSameProperty row)

/-- The row is compared with a survey that is not deleted, and no compared
field differs: nothing is written. -/
def isShortcut (row : ImportRow) (existing : Survey) : Bool :=
  changesNothing row existing && existing.isLive

/-- What is found under a survey id is stored with it. -/
theorem bySurveyId?_eq_some {db : SurveyDb} {surveyId : Text} {survey : Survey}
    (h : db.bySurveyId? surveyId = some survey) :
    survey ∈ db.surveys.rows ∧ survey.surveyId = surveyId :=
  ⟨List.mem_of_find?_eq_some h, by simpa using List.find?_some h⟩

section Row
variable {row : ImportRow} {db db' : SurveyDb} {job : ImportJob} {now : Timestamp}

theorem matchOf_mem {survey : Survey} (h : matchOf row db = some survey) :
    survey ∈ db.surveys.rows := by
  unfold matchOf at h
  split at h
  next found hFound =>
    cases h
    exact (bySurveyId?_eq_some hFound).1
  · split at h
    next found hFound =>
      cases h
      split_ifs at hFound
      exact (bySurveyId?_eq_some hFound).1
    · exact List.mem_of_find?_eq_some h

/-- The survey matched is found under its key. -/
theorem find?_of_matchOf {survey : Survey} (h : matchOf row db = some survey) :
    db.surveys.find? survey.id = some survey :=
  find?_eq_some_iff.mpr ⟨matchOf_mem h, rfl⟩

/-- The canonical id comes first: no survey but the match can hold it. -/
theorem eq_of_matchOf {survey other : Survey} (h : matchOf row db = some survey)
    (hOther : other ∈ db.surveys.rows) (hId : other.surveyId = row.surveyId) : other = survey := by
  unfold matchOf at h
  split at h
  next found hFound =>
    obtain rfl := Option.some.inj h
    have hSame : found.surveyId = row.surveyId := (bySurveyId?_eq_some hFound).2
    refine eq_of_clash hOther (bySurveyId?_eq_some hFound).1 ?_
    simp [KeyedRow.clash, hId, hSame]
  next hNone =>
    have hNot := List.find?_eq_none.mp hNone other hOther
    simp [hId] at hNot

/-- A row without a match has an id that is free. -/
theorem bySurveyId?_of_matchOf (h : matchOf row db = none) : db.bySurveyId? row.surveyId = none := by
  unfold matchOf at h
  split at h
  · cases h
  next hNone => exact hNone

theorem findImportDuplicate_calm :
    findImportDuplicate row ⟨db, []⟩ = (⟨db, []⟩, .ok (matchOf row db)) := by
  unfold findImportDuplicate matchOf
  rw [Script.bind_of_ok (read_calm _)]
  cases db.bySurveyId? row.surveyId with
  | some survey => rfl
  | none =>
      have hRaw : findByRawId row ⟨db, []⟩ = (⟨db, []⟩, .ok
          (if row.rawSurveyId = row.surveyId then none else db.bySurveyId? row.rawSurveyId)) := by
        unfold findByRawId
        split_ifs <;> rfl
      simp only
      rw [Script.bind_of_ok hRaw]
      cases (if row.rawSurveyId = row.surveyId then none else db.bySurveyId? row.rawSurveyId) with
      | some survey => rfl
      | none => rfl

theorem rewrite_of_ok {id : Id} {updated : Survey}
    (h : (db.deleteFloors id).updateSurvey id (ImportRow.rewriteData row) row.floors =
      .ok (db', updated)) : rewrite id row ⟨db, []⟩ = (⟨db', []⟩, .ok updated) := by
  refine transaction_of_ok ?_
  rw [Script.bind_of_ok (write_calm _)]
  exact statement_of_ok h

theorem rewrite_of_error {id : Id} {error : SurveyError}
    (h : (db.deleteFloors id).updateSurvey id (ImportRow.rewriteData row) row.floors =
      .error error) : rewrite id row ⟨db, []⟩ = (⟨db, []⟩, .error error) := by
  apply transaction_of_error
  rw [Script.bind_of_ok (write_calm _)]
  exact statement_of_error h

theorem logChanges_calm (changes : List AuditChange) (entry : AuditEntry) (db : SurveyDb) :
    Script.when (!changes.isEmpty) (write (SurveyDb.log entry)) ⟨db, []⟩ =
      (⟨db.logChanges changes entry, []⟩, .ok ()) := by
  cases changes <;> rfl

/-- The strategy lets the row go to an insert. -/
def GoesToInsert (job : ImportJob) (row : ImportRow) (db : SurveyDb) : Prop :=
  ∀ existing, matchOf row db = some existing →
    job.duplicateStrategy = .create ∧ existing.isLive = true

/-- The strategy lets the row be written over its match. -/
def GoesToRewrite (job : ImportJob) (existing : Survey) : Prop :=
  job.duplicateStrategy = .update ∨ existing.isLive = false

/-- The fields that an import has changed. -/
def importChanges (existing updated : Survey) : List AuditChange :=
  diffSurveyChanges (surveyToAuditSnapshot existing) (surveyToAuditSnapshot updated)

/-- The entry of a row that was written over a survey. -/
def importEntry (job : ImportJob) (existing updated : Survey) : AuditEntry :=
  .imported existing.id job.createdById (importChanges existing updated) (!existing.isLive)

/-- What storing a row did, under any strategy. -/
inductive RowDone (job : ImportJob) (now : Timestamp) (row : ImportRow) (db : SurveyDb) :
    SurveyDb → RowOutcome → Prop where
  | skipped {existing : Survey} (hMatch : matchOf row db = some existing)
      (hSkip : job.duplicateStrategy = .skip) (hLive : existing.isLive = true) :
      RowDone job now row db db (.skipped existing.id)
  | unchanged {existing : Survey} (hMatch : matchOf row db = some existing)
      (hUpdate : job.duplicateStrategy = .update) (hShortcut : isShortcut row existing = true) :
      RowDone job now row db db (.unchanged existing.id)
  | rewritten {db' : SurveyDb} {existing updated : Survey}
      (hMatch : matchOf row db = some existing) (hRewrite : GoesToRewrite job existing)
      (hShortcut : isShortcut row existing = false)
      (h : (db.deleteFloors existing.id).updateSurvey existing.id (ImportRow.rewriteData row)
        row.floors = .ok (db', updated)) :
      RowDone job now row db
        (db'.logChanges (importChanges existing updated) (importEntry job existing updated))
        (.updated existing.id)
  | inserted {db' : SurveyDb} {survey : Survey} (hInsert : GoesToInsert job row db)
      (h : db.createSurvey row.payload row.floors now = .ok (db', survey)) :
      RowDone job now row db db' (.inserted survey.id)
  /-- The survey that holds the id is written over. -/
  | collided {db' : SurveyDb} {conflict updated : Survey} (hInsert : GoesToInsert job row db)
      (hRefused : db.createSurvey row.payload row.floors now = .error (.refused .uniqueViolation))
      (hConflict : db.bySurveyId? row.surveyId = some conflict)
      (h : (db.deleteFloors conflict.id).updateSurvey conflict.id (ImportRow.rewriteData row)
        row.floors = .ok (db', updated)) :
      RowDone job now row db db' (.updated conflict.id)

/-- Why a row is not stored. -/
inductive RowRefused (job : ImportJob) (now : Timestamp) (row : ImportRow) (db : SurveyDb) :
    SurveyError → Prop where
  | rewrite {existing : Survey} {error : SurveyError} (hMatch : matchOf row db = some existing)
      (hRewrite : GoesToRewrite job existing) (hShortcut : isShortcut row existing = false)
      (h : (db.deleteFloors existing.id).updateSurvey existing.id (ImportRow.rewriteData row)
        row.floors = .error error) : RowRefused job now row db error
  | insert {error : SurveyError} (hInsert : GoesToInsert job row db)
      (h : db.createSurvey row.payload row.floors now = .error error)
      (hConflict : error = .refused .uniqueViolation → db.bySurveyId? row.surveyId = none) :
      RowRefused job now row db error
  | collision {conflict : Survey} {error : SurveyError} (hInsert : GoesToInsert job row db)
      (hRefused : db.createSurvey row.payload row.floors now = .error (.refused .uniqueViolation))
      (hConflict : db.bySurveyId? row.surveyId = some conflict)
      (h : (db.deleteFloors conflict.id).updateSurvey conflict.id (ImportRow.rewriteData row)
        row.floors = .error error) : RowRefused job now row db error

/-- A row ends in a survey, or leaves the database as it was. -/
def RowEnds (job : ImportJob) (now : Timestamp) (row : ImportRow) (db : SurveyDb)
    (result : SurveyState × Except SurveyError RowOutcome) : Prop :=
  (∃ db' outcome, RowDone job now row db db' outcome ∧ result = (⟨db', []⟩, .ok outcome)) ∨
    ∃ error, RowRefused job now row db error ∧ result = (⟨db, []⟩, .error error)

/-- How the insertion of a row ends. -/
theorem insertRow_ends (hInsert : GoesToInsert job row db) :
    RowEnds job now row db (insertRow now row ⟨db, []⟩) := by
  unfold insertRow
  cases hCreate : db.createSurvey row.payload row.floors now with
  | ok result =>
      obtain ⟨db', survey⟩ := result
      have hAttempt : Script.attempt (statement (SurveyDb.createSurvey row.payload row.floors now))
          ⟨db, []⟩ = (⟨db', []⟩, .ok (.ok survey)) := by
        rw [Script.attempt, statement_of_ok hCreate]
      exact .inl ⟨db', .inserted survey.id, .inserted hInsert hCreate, Script.bind_of_ok hAttempt⟩
  | error error =>
      have hAttempt : Script.attempt (statement (SurveyDb.createSurvey row.payload row.floors now))
          ⟨db, []⟩ = (⟨db, []⟩, .ok (.error error)) := by
        rw [Script.attempt, statement_of_error hCreate]
      rw [Script.bind_of_ok hAttempt]
      by_cases hUnique : error = .refused .uniqueViolation
      · subst hUnique
        dsimp only
        rw [Script.bind_of_ok (read_calm _)]
        cases hConflict : db.bySurveyId? row.surveyId with
        | none => exact .inr ⟨_, .insert hInsert hCreate fun _ => hConflict, rfl⟩
        | some conflict =>
            dsimp only
            cases hRun : (db.deleteFloors conflict.id).updateSurvey conflict.id
                (ImportRow.rewriteData row) row.floors with
            | ok result =>
                obtain ⟨db', updated⟩ := result
                rw [Script.bind_of_ok (rewrite_of_ok hRun)]
                exact .inl ⟨db', _, .collided hInsert hCreate hConflict hRun, rfl⟩
            | error error =>
                rw [Script.bind_of_error (rewrite_of_error hRun)]
                exact .inr ⟨error, .collision hInsert hCreate hConflict hRun, rfl⟩
      · refine .inr ⟨error, .insert hInsert hCreate fun h => absurd h hUnique, ?_⟩
        cases error with
        | refused refusal =>
            cases refusal with
            | uniqueViolation => exact absurd rfl hUnique
            | recordNotFound => rfl
        | _ => rfl

/-- How the storing of a row ends. -/
theorem storeRow_ends (job : ImportJob) (now : Timestamp) (row : ImportRow) (db : SurveyDb) :
    RowEnds job now row db (storeRow job now row ⟨db, []⟩) := by
  unfold storeRow
  rw [Script.bind_of_ok findImportDuplicate_calm]
  cases hMatch : matchOf row db with
  | none => exact insertRow_ends fun existing h => by rw [hMatch] at h; cases h
  | some existing =>
      dsimp only
      by_cases hSkip : job.duplicateStrategy = .skip ∧ existing.isLive = true
      · rw [if_pos (by simpa using hSkip)]
        exact .inl ⟨db, _, .skipped hMatch hSkip.1 hSkip.2, rfl⟩
      rw [if_neg (by simpa using hSkip)]
      by_cases hRewrite : GoesToRewrite job existing
      · rw [if_pos (by simpa [GoesToRewrite] using hRewrite)]
        have hShortcutEq : (changesNothing row existing && existing.isLive) =
          isShortcut row existing := rfl
        rw [hShortcutEq]
        cases hShortcut : isShortcut row existing with
        | true =>
            have hLive := (Bool.and_eq_true_iff.mp hShortcut).2
            have hUpdate := hRewrite.resolve_right (by simp [hLive])
            rw [if_pos rfl]
            exact .inl ⟨db, _, .unchanged hMatch hUpdate hShortcut, rfl⟩
        | false =>
            rw [if_neg Bool.false_ne_true]
            cases hRun : (db.deleteFloors existing.id).updateSurvey existing.id
                (ImportRow.rewriteData row) row.floors with
            | error error =>
                rw [Script.bind_of_error (rewrite_of_error hRun)]
                exact .inr ⟨error, .rewrite hMatch hRewrite hShortcut hRun, rfl⟩
            | ok result =>
                obtain ⟨db', updated⟩ := result
                rw [Script.bind_of_ok (rewrite_of_ok hRun)]
                have hLog := logChanges_calm (importChanges existing updated)
                  (importEntry job existing updated) db'
                exact .inl ⟨_, _, .rewritten hMatch hRewrite hShortcut hRun,
                  Script.bind_of_ok hLog⟩
      · rw [if_neg (by simpa [GoesToRewrite] using hRewrite)]
        obtain ⟨hUpdate, hLive⟩ := not_or.mp hRewrite
        have hLive : existing.isLive = true := by simpa using hLive
        refine insertRow_ends fun other hOther => ?_
        obtain rfl := Option.some.inj (hMatch.symm.trans hOther)
        refine ⟨?_, hLive⟩
        cases hStrategy : job.duplicateStrategy with
        | skip => exact absurd ⟨hStrategy, hLive⟩ hSkip
        | update => exact absurd hStrategy hUpdate
        | create => rfl

/-- What storing a row under UPDATE did, and in which survey. -/
inductive StoredRow (now : Timestamp) (row : ImportRow) (db : SurveyDb) : SurveyDb → Id → Prop where
  | unchanged {existing : Survey} (hMatch : matchOf row db = some existing)
      (hShortcut : isShortcut row existing = true) : StoredRow now row db db existing.id
  | rewritten {db' db'' : SurveyDb} {existing updated : Survey}
      (hMatch : matchOf row db = some existing) (hShortcut : isShortcut row existing = false)
      (h : (db.deleteFloors existing.id).updateSurvey existing.id (ImportRow.rewriteData row)
        row.floors = .ok (db', updated))
      (hSurveys : db''.surveys = db'.surveys) (hFloors : db''.floors = db'.floors) :
      StoredRow now row db db'' existing.id
  | inserted {db' : SurveyDb} {survey : Survey} (hMatch : matchOf row db = none)
      (h : db.createSurvey row.payload row.floors now = .ok (db', survey)) :
      StoredRow now row db db' survey.id

/-- In an update, only a row without a match is inserted. -/
theorem GoesToInsert.eq_none (hUpdate : job.duplicateStrategy = .update)
    (h : GoesToInsert job row db) : matchOf row db = none := by
  cases hMatch : matchOf row db with
  | none => rfl
  | some existing =>
      have hCreate := (h existing hMatch).1
      rw [hUpdate] at hCreate
      cases hCreate

/-- Under UPDATE nothing is left out, and a row does not meet another in an
insert. -/
theorem RowDone.stored {outcome : RowOutcome} (hUpdate : job.duplicateStrategy = .update)
    (h : RowDone job now row db db' outcome) : StoredRow now row db db' outcome.survey := by
  cases h with
  | skipped hMatch hSkip hLive =>
      rw [hUpdate] at hSkip
      cases hSkip
  | unchanged hMatch hUpdate hShortcut => exact .unchanged hMatch hShortcut
  | rewritten hMatch hRewrite hShortcut hRun =>
      exact .rewritten hMatch hShortcut hRun (SurveyDb.logChanges_surveys ..)
        (SurveyDb.logChanges_floors ..)
  | inserted hInsert hCreate => exact .inserted (hInsert.eq_none hUpdate) hCreate
  | collided hInsert hRefused hConflict hRun =>
      rw [bySurveyId?_of_matchOf (hInsert.eq_none hUpdate)] at hConflict
      cases hConflict

/-- A row ends in a survey, or leaves the database as it was: with a match,
only when the write is refused. -/
theorem storeRow_calm (hUpdate : job.duplicateStrategy = .update) (now : Timestamp)
    (row : ImportRow) (db : SurveyDb) :
    (∃ db' outcome, StoredRow now row db db' outcome.survey ∧
      storeRow job now row ⟨db, []⟩ = (⟨db', []⟩, .ok outcome)) ∨
    ∃ error, storeRow job now row ⟨db, []⟩ = (⟨db, []⟩, .error error) ∧
      ∀ existing, matchOf row db = some existing → (db.deleteFloors existing.id).updateSurvey
        existing.id (ImportRow.rewriteData row) row.floors = .error error := by
  rcases storeRow_ends job now row db with ⟨db', outcome, hDone, hRun⟩ | ⟨error, hRefused, hRun⟩
  · exact .inl ⟨db', outcome, hDone.stored hUpdate, hRun⟩
  · refine .inr ⟨error, hRun, fun existing hMatch => ?_⟩
    cases hRefused with
    | rewrite hOther _ _ hError =>
        obtain rfl := Option.some.inj (hMatch.symm.trans hOther)
        exact hError
    | insert hInsert =>
        rw [hInsert.eq_none hUpdate] at hMatch
        cases hMatch
    | collision hInsert =>
        rw [hInsert.eq_none hUpdate] at hMatch
        cases hMatch

/-! ### The job as a run -/

/-- The table, and the rows that are stored with their surveys. -/
structure ImportState where
  db : SurveyDb
  done : List (ImportRow × Id) := []

/-- Store one row. A row that is refused leaves no trace here. -/
def importStep (job : ImportJob) (now : Timestamp) (state : ImportState) (row : ImportRow) :
    ImportState :=
  match storeRow job now row ⟨state.db, []⟩ with
  | (after, .ok outcome) => ⟨after.db, state.done ++ [(row, outcome.survey)]⟩
  | (after, .error _) => ⟨after.db, state.done⟩

/-- The row is not refused. -/
def IsStored (job : ImportJob) (now : Timestamp) (state : ImportState) (row : ImportRow) : Prop :=
  ∃ after outcome, storeRow job now row ⟨state.db, []⟩ = (after, .ok outcome)

/-- A stored row is noted with its survey. -/
theorem importStep_of_isStored {state : ImportState} (hUpdate : job.duplicateStrategy = .update)
    (h : IsStored job now state row) :
    ∃ id, (importStep job now state row).done = state.done ++ [(row, id)] ∧
      StoredRow now row state.db (importStep job now state row).db id := by
  obtain ⟨after, outcome, hRun⟩ := h
  rcases storeRow_calm hUpdate now row state.db with
    ⟨db', outcome', hStored, hRun'⟩ | ⟨error, hRun', -⟩
  · refine ⟨outcome'.survey, ?_⟩
    simp only [importStep, hRun', true_and]
    exact hStored
  · rw [hRun] at hRun'
    cases congrArg Prod.snd hRun'

end Row

section Job
variable (env : Env) (job : ImportJob) {now : Timestamp}

/-- The row that a line of the sheet stands for; a line without a Survey Id
stands for none. -/
def rowOf (map : ColumnMap) (values : List ExcelValue) : Option ImportRow :=
  if (readRow env map values .surveyId).isEmpty then none
  else (parseRow env job (readRow env map values)).toOption

/-- The rows of the file, in order. -/
def fileRows (sheet : Option Sheet) : List ImportRow :=
  match loadSurveySheet env sheet with
  | .ok loaded => loaded.2.rows.filterMap (rowOf env job loaded.1)
  | .error _ => []

/-- A line with a Survey Id has a ward and a property. -/
def LineParses (map : ColumnMap) (values : List ExcelValue) : Prop :=
  (readRow env map values .surveyId).isEmpty ∨
    ∃ row, parseRow env job (readRow env map values) = .ok row

def FileParses (sheet : Option Sheet) : Prop :=
  ∀ loaded, loadSurveySheet env sheet = .ok loaded →
    ∀ values ∈ loaded.2.rows, LineParses env job loaded.1 values

variable {env job}

/-- What became of one line. -/
inductive ProcessedLine (env : Env) (job : ImportJob) (now : Timestamp) (map : ColumnMap)
    (values : List ExcelValue) (progress : ImportProgress) (db : SurveyDb) :
    ImportProgress → SurveyDb → Prop where
  | unnamed (hParses : LineParses env job map values) (hRow : rowOf env job map values = none) :
      ProcessedLine env job now map values progress db progress db
  | stored {row : ImportRow} {db' : SurveyDb} {outcome : RowOutcome} {progress' : ImportProgress}
      (hParses : LineParses env job map values) (hRow : rowOf env job map values = some row)
      (h : storeRow job now row ⟨db, []⟩ = (⟨db', []⟩, .ok outcome))
      (hFailed : progress'.failed = progress.failed)
      (hTouched : progress'.touchedSurveyIds = progress.touchedSurveyIds ++ [outcome.survey])
      (hWards : progress'.wardIdsSeen = progress.wardIdsSeen ++ [row.ward.id]) :
      ProcessedLine env job now map values progress db progress' db'
  | failed {db' : SurveyDb} {progress' : ImportProgress}
      (hRefused : LineParses env job map values → ∃ row, rowOf env job map values = some row ∧
        ∀ after outcome, storeRow job now row ⟨db, []⟩ ≠ (after, .ok outcome))
      (hFailed : progress'.failed = progress.failed + 1)
      (hTouched : progress'.touchedSurveyIds = progress.touchedSurveyIds)
      (hWards : progress'.wardIdsSeen = progress.wardIdsSeen) :
      ProcessedLine env job now map values progress db progress' db'

/-- The attempt at a named row, without outages. -/
theorem attempt_calm (hUpdate : job.duplicateStrategy = .update) (now : Timestamp)
    (cells : RowCells) (db : SurveyDb) :
    (∃ row db' outcome, parseRow env job cells = .ok row ∧
      storeRow job now row ⟨db, []⟩ = (⟨db', []⟩, .ok outcome) ∧
      Script.attempt (do
        let row ← orThrow (parseRow env job cells)
        let outcome ← storeRow job now row
        return (row.ward.id, outcome)) ⟨db, []⟩ =
          (⟨db', []⟩, .ok (.ok (row.ward.id, outcome)))) ∨
    ∃ error, Script.attempt (do
        let row ← orThrow (parseRow env job cells)
        let outcome ← storeRow job now row
        return (row.ward.id, outcome)) ⟨db, []⟩ = (⟨db, []⟩, .ok (.error error)) ∧
      ∀ row, parseRow env job cells = .ok row →
        ∀ after outcome, storeRow job now row ⟨db, []⟩ ≠ (after, .ok outcome) := by
  unfold Script.attempt
  cases hParse : parseRow env job cells with
  | error error => exact .inr ⟨error, rfl, fun row h => by cases h⟩
  | ok row =>
      have hPure : (orThrow (.ok row) : SurveyScript ImportRow) ⟨db, []⟩ = (⟨db, []⟩, .ok row) := rfl
      rw [Script.bind_of_ok hPure]
      rcases storeRow_calm hUpdate now row db with ⟨db', outcome, -, hStore⟩ | ⟨error, hStore, -⟩
      · rw [Script.bind_of_ok hStore]
        exact .inl ⟨row, db', outcome, rfl, hStore, rfl⟩
      · rw [Script.bind_of_error hStore]
        refine .inr ⟨error, rfl, fun other hOther after outcome hOk => ?_⟩
        obtain rfl := Except.ok.inj hOther
        rw [hStore] at hOk
        cases congrArg Prod.snd hOk

theorem processRow_calm (hUpdate : job.duplicateStrategy = .update) (now : Timestamp)
    (map : ColumnMap) (progress : ImportProgress) (numbered : List ExcelValue × Nat) (db : SurveyDb) :
    ∃ progress' db', processRow env job now map progress numbered ⟨db, []⟩ =
        (⟨db', []⟩, .ok progress') ∧
      ProcessedLine env job now map numbered.1 progress db progress' db' := by
  unfold processRow
  dsimp only
  by_cases hNamed : (readRow env map numbered.1 .surveyId).isEmpty
  · rw [if_pos hNamed]
    exact ⟨progress, db, rfl, .unnamed (.inl hNamed) (if_pos hNamed)⟩
  · rw [if_neg hNamed]
    rcases attempt_calm hUpdate now (readRow env map numbered.1) db with
      ⟨row, db', outcome, hParse, hStore, hAttempt⟩ | ⟨error, hAttempt, hRefused⟩
    · rw [Script.bind_of_ok hAttempt]
      have hRow : rowOf env job map numbered.1 = some row := by
        rw [rowOf, if_neg hNamed, hParse]
        rfl
      exact ⟨_, db', rfl, .stored (.inr ⟨row, hParse⟩) hRow hStore rfl rfl rfl⟩
    · rw [Script.bind_of_ok hAttempt]
      dsimp only
      rw [Script.bind_of_ok (write_calm _)]
      refine ⟨_, _, rfl, .failed (fun hParses => ?_) rfl rfl rfl⟩
      obtain ⟨row, hParse⟩ := hParses.resolve_left hNamed
      refine ⟨row, ?_, hRefused row hParse⟩
      rw [rowOf, if_neg hNamed, hParse]
      rfl

/-- The counters are those of the run. -/
structure Tracks (progress : ImportProgress) (state : ImportState) : Prop where
  touched : progress.touchedSurveyIds = state.done.map Prod.snd
  wards : progress.wardIdsSeen = state.done.map fun stored => stored.1.ward.id

/-- The loop does not throw. No row of it fails when every row of the run is
stored, and then it is that run. -/
theorem foldlM_calm (hUpdate : job.duplicateStrategy = .update) (now : Timestamp) (map : ColumnMap)
    (lines : List (List ExcelValue × Nat)) (progress : ImportProgress) (state : ImportState)
    (hTracks : Tracks progress state) :
    ∃ progress' db', lines.foldlM (processRow env job now map) progress ⟨state.db, []⟩ =
        (⟨db', []⟩, .ok progress') ∧ progress.failed ≤ progress'.failed ∧
      (progress'.failed = progress.failed ↔ (∀ values ∈ lines.map Prod.fst,
          LineParses env job map values) ∧
        Runs.Along (importStep job now) (IsStored job now) state
          ((lines.map Prod.fst).filterMap (rowOf env job map))) ∧
      (progress'.failed = progress.failed →
        (Runs.run (importStep job now) state
          ((lines.map Prod.fst).filterMap (rowOf env job map))).db = db' ∧
        Tracks progress' (Runs.run (importStep job now) state
          ((lines.map Prod.fst).filterMap (rowOf env job map)))) := by
  induction lines generalizing progress state with
  | nil =>
      exact ⟨progress, state.db, rfl, le_rfl, iff_of_true rfl ⟨by simp, trivial⟩,
        fun _ => ⟨rfl, hTracks⟩⟩
  | cons line lines ih =>
      obtain ⟨progress', db', hLine, hDone⟩ := processRow_calm hUpdate now map progress
        line state.db
      rw [List.foldlM_cons, Script.bind_of_ok hLine, List.map_cons, List.forall_mem_cons]
      cases hDone with
      | unnamed hParses hRow =>
          rw [List.filterMap_cons_none hRow, and_iff_right hParses]
          exact ih progress state hTracks
      | @stored row _ outcome _ hParses hRow hStore hFailed hTouched hWards =>
          rw [List.filterMap_cons_some hRow, Runs.run_cons]
          have hStep : importStep job now state row =
              ⟨db', state.done ++ [(row, outcome.survey)]⟩ := by
            simp only [importStep, hStore]
          have hTracks' : Tracks progress' (importStep job now state row) := by
            rw [hStep]
            constructor
            · rw [hTouched, hTracks.touched, List.map_append]
              rfl
            · rw [hWards, hTracks.wards, List.map_append]
              rfl
          have hHead : IsStored job now state row := ⟨_, outcome, hStore⟩
          obtain ⟨final, db'', hRun, hLe, hNone, hTail⟩ := ih progress' _ hTracks'
          rw [hFailed] at hLe hNone hTail
          refine ⟨final, db'', ?_, hLe, hNone.trans ?_, hTail⟩
          · rw [hStep] at hRun
            exact hRun
          · rw [Runs.Along, and_iff_right hParses, and_iff_right hHead]
      | failed hRefused hFailed hTouched hWards =>
          have hTracks' : Tracks progress' ⟨db', state.done⟩ :=
            ⟨hTouched.trans hTracks.touched, hWards.trans hTracks.wards⟩
          obtain ⟨final, db'', hRun, hLe, -⟩ := ih progress' ⟨db', state.done⟩ hTracks'
          have hMore : final.failed ≠ progress.failed := by omega
          refine ⟨final, db'', hRun, by omega, iff_of_false hMore ?_, fun h => absurd h hMore⟩
          intro h
          obtain ⟨row, hRow, hNot⟩ := hRefused h.1.1
          rw [List.filterMap_cons_some hRow] at h
          obtain ⟨after, outcome, hStore⟩ := h.2.1
          exact hNot after outcome hStore

/-! ### Pruning -/

/-- The surveys that the job marks as deleted in the end. -/
def prunedIds (job : ImportJob) (pruneMissing : Bool) (progress : ImportProgress) (db : SurveyDb) :
    List Id :=
  match shouldReconcileWardAfterImport job pruneMissing progress with
  | none => []
  | some ward =>
      let orphans := db.surveys.rows.filter (isOrphan ward progress.touchedSurveyIds)
      if shouldPruneOrphanCount orphans.length progress.touchedSurveyIds.eraseDups.length then
        orphans.map Survey.id
      else []

/-- A survey that a row was stored in is not pruned. -/
theorem not_mem_prunedIds {pruneMissing : Bool} {progress : ImportProgress} {db : SurveyDb} {id : Id}
    (h : id ∈ progress.touchedSurveyIds) : id ∉ prunedIds job pruneMissing progress db := by
  unfold prunedIds
  split
  · simp
  · dsimp only
    split_ifs
    · intro hPruned
      obtain ⟨survey, hSurvey, rfl⟩ := List.mem_map.mp hPruned
      have hOrphan := (List.mem_filter.mp hSurvey).2
      simp [isOrphan, h] at hOrphan
    · simp

theorem markDeleted_nil (now : Timestamp) : markDeleted [] now = id := rfl

theorem logs_calm (entry : Survey → AuditEntry) (orphans : List Survey) (db : SurveyDb) :
    ∃ db', db'.surveys = db.surveys ∧ db'.floors = db.floors ∧
      db'.importErrors = db.importErrors ∧
      (orphans.forM fun orphan => write (SurveyDb.log (entry orphan)) : SurveyScript PUnit) ⟨db, []⟩ =
        (⟨db', []⟩, .ok ()) := by
  induction orphans generalizing db with
  | nil => exact ⟨db, rfl, rfl, rfl, rfl⟩
  | cons orphan orphans ih =>
      obtain ⟨db', hSurveys, hFloors, hErrors, hRun⟩ := ih (db.log (entry orphan))
      refine ⟨db', hSurveys, hFloors, hErrors, ?_⟩
      exact (Script.bind_of_ok (write_calm _)).trans hRun

theorem reconcileWardOrphans_calm (job : ImportJob) (now : Timestamp) (pruneMissing : Bool)
    (progress : ImportProgress) (db : SurveyDb) :
    ∃ db' pruned, reconcileWardOrphans job now pruneMissing progress ⟨db, []⟩ =
        (⟨db', []⟩, .ok pruned) ∧ db'.floors = db.floors ∧ db'.importErrors = db.importErrors ∧
      db'.surveys.rows =
        db.surveys.rows.map (markDeleted (prunedIds job pruneMissing progress db) now) := by
  unfold reconcileWardOrphans prunedIds
  cases shouldReconcileWardAfterImport job pruneMissing progress with
  | none => exact ⟨db, 0, rfl, rfl, rfl, by rw [markDeleted_nil, List.map_id]⟩
  | some ward =>
      dsimp only
      unfold pruneOrphans
      rw [Script.bind_of_ok (read_calm _)]
      by_cases hPrune : shouldPruneOrphanCount
          (db.surveys.rows.filter (isOrphan ward progress.touchedSurveyIds)).length
          progress.touchedSurveyIds.eraseDups.length
      · rw [if_pos hPrune, if_pos hPrune, Script.bind_of_ok (write_calm _)]
        obtain ⟨db', hSurveys, hFloors, hErrors, hRun⟩ := logs_calm
          (fun orphan => .pruned orphan.id job.createdById orphan.surveyId job.id) _ _
        rw [Script.bind_of_ok hRun]
        exact ⟨db', _, rfl, hFloors, hErrors, congrArg KeyedTable.rows hSurveys⟩
      · rw [if_neg hPrune, if_neg hPrune]
        exact ⟨db, 0, rfl, rfl, rfl, by rw [markDeleted_nil, List.map_id]⟩

/-! ### The job -/

/-- A job without outages ends without a failed row when every row of the run
is stored; it is that run then, and the pruning after it. -/
theorem processJob_calm {sheet : Option Sheet} {loaded : ColumnMap × Sheet}
    (hUpdate : job.duplicateStrategy = .update) (hLoaded : loadSurveySheet env sheet = .ok loaded)
    (now : Timestamp) (pruneMissing : Bool) (db : SurveyDb) :
    ∃ db' result, processJob env job now pruneMissing sheet ⟨db, []⟩ = (⟨db', []⟩, .ok result) ∧
      (result.progress.failed = 0 ↔ FileParses env job sheet ∧
        Runs.Along (importStep job now) (IsStored job now) ⟨db, []⟩ (fileRows env job sheet)) ∧
      (result.progress.failed = 0 →
        Tracks result.progress (Runs.run (importStep job now) ⟨db, []⟩ (fileRows env job sheet)) ∧
        db'.floors = (Runs.run (importStep job now) ⟨db, []⟩ (fileRows env job sheet)).db.floors ∧
        db'.surveys.rows =
          (Runs.run (importStep job now) ⟨db, []⟩ (fileRows env job sheet)).db.surveys.rows.map
            (markDeleted (prunedIds job pruneMissing result.progress
              (Runs.run (importStep job now) ⟨db, []⟩ (fileRows env job sheet)).db) now)) := by
  have hPure : (orThrow (.ok loaded) : SurveyScript (ColumnMap × Sheet)) ⟨db, []⟩ =
    (⟨db, []⟩, .ok loaded) := rfl
  obtain ⟨progress, db', hLoop, -, hNone, hRun⟩ := @foldlM_calm env job hUpdate now loaded.1
    (loaded.2.rows.zipIdx 2) {} ⟨db, []⟩ ⟨rfl, rfl⟩
  obtain ⟨db'', pruned, hReconcile, hFloors, -, hRows⟩ :=
    reconcileWardOrphans_calm job now pruneMissing progress db'
  have hLines : (loaded.2.rows.zipIdx 2).map Prod.fst = loaded.2.rows := List.zipIdx_map_fst 2 _
  have hFile : fileRows env job sheet = loaded.2.rows.filterMap (rowOf env job loaded.1) := by
    simp only [fileRows, hLoaded]
  have hParses : FileParses env job sheet ↔
      ∀ values ∈ loaded.2.rows, LineParses env job loaded.1 values := by
    simp [FileParses, hLoaded]
  rw [hLines, ← hFile] at hNone hRun
  rw [← hParses] at hNone
  refine ⟨db'', ⟨statusOf progress, progress, pruned⟩, ?_, hNone, fun hFailed => ?_⟩
  · unfold processJob
    rw [hLoaded, Except.mapError, Script.bind_of_ok hPure, Script.bind_of_ok hLoop,
      Script.bind_of_ok hReconcile]
    rfl
  · obtain ⟨rfl, hTracks⟩ := hRun hFailed
    exact ⟨hTracks, hFloors, hRows⟩

/-- Without a sheet that can be read there is no result. -/
theorem loaded_of_processJob {pruneMissing : Bool} {sheet : Option Sheet} {db : SurveyDb}
    {after : SurveyState} {result : ImportResult}
    (h : processJob env job now pruneMissing sheet ⟨db, []⟩ = (after, .ok result)) :
    ∃ loaded, loadSurveySheet env sheet = .ok loaded := by
  cases hLoaded : loadSurveySheet env sheet with
  | ok loaded => exact ⟨loaded, rfl⟩
  | error error =>
      unfold processJob at h
      rw [hLoaded] at h
      cases congrArg Prod.snd h

end Job
end PropertyTax.Surveys
