import PropertyTax.Surveys.ImportRows

/-! A job of any strategy as a run over the lines of its sheet: the table and
the counters, from line to line. -/
namespace PropertyTax.Surveys
open KeyedTable Scripts Runs ImportsService

/-- The table and the counters between two lines. -/
structure JobState where
  db : SurveyDb
  progress : ImportProgress := {}

namespace JobState

/-- A failed line leaves an error behind, and nothing else. -/
def fail (state : JobState) (error : ImportError) : JobState where
  db := state.db.createImportError error
  progress := { state.progress with
    processed := state.progress.processed + 1
    failed := state.progress.failed + 1 }

def store (state : JobState) (db : SurveyDb) (ward : Id) (outcome : RowOutcome) : JobState where
  db := db
  progress := ImportProgress.count
    { state.progress with processed := state.progress.processed + 1 } ward outcome

end JobState

section Line
variable (env : Env) (job : ImportJob) (now : Timestamp) (map : ColumnMap)

/-- One line of the sheet. -/
def lineStep (state : JobState) (numbered : List ExcelValue × Nat) : JobState :=
  let cells := readRow env map numbered.1
  if (cells .surveyId).isEmpty then state
  else
    match parseRow env job cells with
    | .error error => state.fail (importError env job numbered.2 cells error)
    | .ok row =>
        match storeRow job now row ⟨state.db, []⟩ with
        | (after, .ok outcome) => state.store after.db row.ward.id outcome
        | (_, .error error) => state.fail (importError env job numbered.2 cells error)

/-- What a line does. -/
inductive LineDone (state : JobState) (numbered : List ExcelValue × Nat) : JobState → Prop where
  | unnamed (h : (readRow env map numbered.1 .surveyId).isEmpty) : LineDone state numbered state
  | unread {error : SurveyError} (hNamed : ¬ (readRow env map numbered.1 .surveyId).isEmpty)
      (h : parseRow env job (readRow env map numbered.1) = .error error) :
      LineDone state numbered
        (state.fail (importError env job numbered.2 (readRow env map numbered.1) error))
  | refused {row : ImportRow} {error : SurveyError}
      (hRow : rowOf env job map numbered.1 = some row)
      (h : RowRefused job now row state.db error) : LineDone state numbered
        (state.fail (importError env job numbered.2 (readRow env map numbered.1) error))
  | stored {row : ImportRow} {db' : SurveyDb} {outcome : RowOutcome}
      (hRow : rowOf env job map numbered.1 = some row)
      (hRun : storeRow job now row ⟨state.db, []⟩ = (⟨db', []⟩, .ok outcome))
      (h : RowDone job now row state.db db' outcome) :
      LineDone state numbered (state.store db' row.ward.id outcome)

variable {env job now map}

/-- A named line that parses has a row. -/
theorem rowOf_of_parse {values : List ExcelValue} {row : ImportRow}
    (hNamed : ¬ (readRow env map values .surveyId).isEmpty)
    (h : parseRow env job (readRow env map values) = .ok row) :
    rowOf env job map values = some row := by
  rw [rowOf, if_neg hNamed, h]
  rfl

/-- A line with a row is named, and parses to it. -/
theorem parse_of_rowOf {values : List ExcelValue} {row : ImportRow}
    (h : rowOf env job map values = some row) :
    ¬ (readRow env map values .surveyId).isEmpty ∧
      parseRow env job (readRow env map values) = .ok row := by
  unfold rowOf at h
  split_ifs at h with hNamed
  cases hParse : parseRow env job (readRow env map values) with
  | error error =>
      rw [hParse] at h
      cases h
  | ok parsed =>
      rw [hParse] at h
      cases h
      exact ⟨hNamed, rfl⟩

/-- A step does what processing its line means. -/
theorem lineStep_done (state : JobState) (numbered : List ExcelValue × Nat) :
    LineDone env job now map state numbered (lineStep env job now map state numbered) := by
  unfold lineStep
  dsimp only
  by_cases hNamed : (readRow env map numbered.1 .surveyId).isEmpty
  · rw [if_pos hNamed]
    exact .unnamed hNamed
  rw [if_neg hNamed]
  cases hParse : parseRow env job (readRow env map numbered.1) with
  | error error => exact .unread hNamed hParse
  | ok row =>
      have hRow := rowOf_of_parse hNamed hParse
      dsimp only
      rcases storeRow_ends job now row state.db with
        ⟨db', outcome, hDone, hRun⟩ | ⟨error, hRefused, hRun⟩
      · rw [hRun]
        exact .stored hRow hRun hDone
      · rw [hRun]
        exact .refused hRow hRefused

/-- An attempt answers with the result. -/
theorem attempt_of {α : Type} {script : SurveyScript α} {state after : SurveyState}
    {result : Except SurveyError α} (h : script state = (after, result)) :
    Script.attempt script state = (after, .ok result) := by
  rw [Script.attempt, h]

/-- The loop body does what a line does. -/
theorem processRow_eq (state : JobState) (numbered : List ExcelValue × Nat) :
    processRow env job now map state.progress numbered ⟨state.db, []⟩ =
      (⟨(lineStep env job now map state numbered).db, []⟩,
        .ok (lineStep env job now map state numbered).progress) := by
  unfold processRow lineStep
  dsimp only
  by_cases hNamed : (readRow env map numbered.1 .surveyId).isEmpty
  · rw [if_pos hNamed, if_pos hNamed]
    rfl
  rw [if_neg hNamed, if_neg hNamed]
  cases hParse : parseRow env job (readRow env map numbered.1) with
  | error error =>
      have hThrown : (orThrow (.error error) : SurveyScript ImportRow) ⟨state.db, []⟩ =
        (⟨state.db, []⟩, .error error) := rfl
      rw [Script.bind_of_ok (attempt_of (Script.bind_of_error hThrown))]
      exact Script.bind_of_ok (write_calm _)
  | ok row =>
      have hPure : (orThrow (.ok row) : SurveyScript ImportRow) ⟨state.db, []⟩ =
        (⟨state.db, []⟩, .ok row) := rfl
      dsimp only
      rcases storeRow_ends job now row state.db with
        ⟨db', outcome, -, hRun⟩ | ⟨error, -, hRun⟩
      · have hStored : Script.attempt (do
            let row ← orThrow (.ok row)
            let outcome ← storeRow job now row
            return (row.ward.id, outcome)) ⟨state.db, []⟩ =
              (⟨db', []⟩, .ok (.ok (row.ward.id, outcome))) := by
          apply attempt_of
          rw [Script.bind_of_ok hPure, Script.bind_of_ok hRun]
          rfl
        rw [hRun, Script.bind_of_ok hStored]
        rfl
      · have hStored : Script.attempt (do
            let row ← orThrow (.ok row)
            let outcome ← storeRow job now row
            return (row.ward.id, outcome)) ⟨state.db, []⟩ =
              (⟨state.db, []⟩, .ok (.error error)) := by
          apply attempt_of
          rw [Script.bind_of_ok hPure, Script.bind_of_error hRun]
        rw [hRun, Script.bind_of_ok hStored]
        exact Script.bind_of_ok (write_calm _)

/-- Processing the lines is the run of their steps. -/
theorem foldlM_eq (lines : List (List ExcelValue × Nat)) (state : JobState) :
    lines.foldlM (processRow env job now map) state.progress ⟨state.db, []⟩ =
      (⟨(run (lineStep env job now map) state lines).db, []⟩,
        .ok (run (lineStep env job now map) state lines).progress) := by
  induction lines generalizing state with
  | nil => rfl
  | cons line lines ih =>
      rw [List.foldlM_cons, Script.bind_of_ok (processRow_eq state line), run_cons]
      exact ih _

end Line

section Job
variable (env : Env) (job : ImportJob) (now : Timestamp)

/-- The job up to the pruning. -/
def jobRun (loaded : ColumnMap × Sheet) (db : SurveyDb) : JobState :=
  run (lineStep env job now loaded.1) ⟨db, {}⟩ (loaded.2.rows.zipIdx 2)

variable {env job now}

/-- A job without outages runs over its lines and prunes then. -/
theorem processJob_run {sheet : Option Sheet} {loaded : ColumnMap × Sheet}
    (hLoaded : loadSurveySheet env sheet = .ok loaded) (pruneMissing : Bool) (db : SurveyDb) :
    ∃ db' pruned, processJob env job now pruneMissing sheet ⟨db, []⟩ =
        (⟨db', []⟩, .ok ⟨statusOf (jobRun env job now loaded db).progress,
          (jobRun env job now loaded db).progress, pruned⟩) ∧
      db'.floors = (jobRun env job now loaded db).db.floors ∧
      db'.importErrors = (jobRun env job now loaded db).db.importErrors ∧
      db'.surveys.rows = (jobRun env job now loaded db).db.surveys.rows.map
        (markDeleted (prunedIds job pruneMissing (jobRun env job now loaded db).progress
          (jobRun env job now loaded db).db) now) := by
  have hPure : (orThrow (.ok loaded) : SurveyScript (ColumnMap × Sheet)) ⟨db, []⟩ =
    (⟨db, []⟩, .ok loaded) := rfl
  have hLoop := @foldlM_eq env job now loaded.1 (loaded.2.rows.zipIdx 2) ⟨db, {}⟩
  obtain ⟨db', pruned, hReconcile, hFloors, hErrors, hRows⟩ := reconcileWardOrphans_calm job now
    pruneMissing (jobRun env job now loaded db).progress (jobRun env job now loaded db).db
  refine ⟨db', pruned, ?_, hFloors, hErrors, hRows⟩
  unfold processJob
  rw [hLoaded, Except.mapError, Script.bind_of_ok hPure, Script.bind_of_ok hLoop]
  exact Script.bind_of_ok hReconcile

/-- A job with a result has run over its lines. -/
theorem exists_jobRun {sheet : Option Sheet} {pruneMissing : Bool} {db : SurveyDb}
    {after : SurveyState} {result : ImportResult}
    (h : processJob env job now pruneMissing sheet ⟨db, []⟩ = (after, .ok result)) :
    ∃ loaded, loadSurveySheet env sheet = .ok loaded ∧
      result.progress = (jobRun env job now loaded db).progress ∧
      after.db.floors = (jobRun env job now loaded db).db.floors ∧
      after.db.surveys.rows = (jobRun env job now loaded db).db.surveys.rows.map
        (markDeleted (prunedIds job pruneMissing result.progress
          (jobRun env job now loaded db).db) now) := by
  obtain ⟨loaded, hLoaded⟩ := loaded_of_processJob h
  obtain ⟨db', pruned, hRun, hFloors, -, hRows⟩ := processJob_run hLoaded pruneMissing db
  obtain ⟨rfl, hResult⟩ := Prod.mk.inj (h.symm.trans hRun)
  obtain rfl := Except.ok.inj hResult
  exact ⟨loaded, hLoaded, rfl, hFloors, hRows⟩

/-- A survey that was met stays met. -/
theorem touched_run {map : ColumnMap} {id : Id} {state : JobState}
    (h : id ∈ state.progress.touchedSurveyIds) (lines : List (List ExcelValue × Nat)) :
    id ∈ (run (lineStep env job now map) state lines).progress.touchedSurveyIds := by
  refine run_invariant (fun state : JobState => id ∈ state.progress.touchedSurveyIds)
    (fun state line hState => ?_) h lines
  generalize hNext : lineStep env job now map state line = next
  have hDone := @lineStep_done env job now map state line
  rw [hNext] at hDone
  cases hDone with
  | unnamed => exact hState
  | unread => exact hState
  | refused => exact hState
  | stored => exact List.mem_append_left _ hState

end Job
end PropertyTax.Surveys
