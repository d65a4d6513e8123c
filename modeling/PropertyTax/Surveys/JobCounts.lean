import PropertyTax.Surveys.PreviewLaw

/-! What a job reports adds up, and agrees with what it left in the tables. -/
namespace PropertyTax.Surveys
open KeyedTable Scripts Runs ImportsService

section Rows
variable {job : ImportJob} {now : Timestamp} {row : ImportRow} {db db' : SurveyDb}

/-- The rows of a table are counted by a sum. -/
theorem length_eq_sumWhere (table : KeyedTable Survey) :
    (table.rows.length : ℤ) = table.sumWhere (fun _ => true) fun _ => 1 := by
  simp [KeyedTable.sumWhere]

/-- A rewrite keeps the number of surveys. -/
theorem length_rewrite {old updated : Survey} (hOld : old ∈ db.surveys.rows)
    (h : (db.deleteFloors old.id).updateSurvey old.id (ImportRow.rewriteData row) row.floors =
      .ok (db', updated)) : db'.surveys.rows.length = db.surveys.rows.length := by
  have hKept : old ∈ (db.deleteFloors old.id).surveys.rows := hOld
  obtain ⟨-, hReplaced⟩ := SurveyDb.updateSurvey_of_mem hKept h
  have hSum := hReplaced.sumWhere_eq (fun _ => true) fun _ => 1
  have hSame : (db.deleteFloors old.id).surveys = db.surveys := rfl
  rw [← length_eq_sumWhere, ← length_eq_sumWhere, hSame] at hSum
  simp only [if_true] at hSum
  omega

/-- Only an inserted row adds a survey. -/
theorem RowDone.length {outcome : RowOutcome} (h : RowDone job now row db db' outcome)
    (progress : ImportProgress) (ward : Id) :
    db'.surveys.rows.length + progress.inserted =
      db.surveys.rows.length + (ImportProgress.count progress ward outcome).inserted := by
  unfold ImportProgress.count
  cases h with
  | skipped => rfl
  | unchanged => rfl
  | rewritten hMatch _ _ hRun =>
      rw [SurveyDb.logChanges_surveys, length_rewrite (matchOf_mem hMatch) hRun]
      rfl
  | inserted _ hCreate =>
      obtain ⟨hAdded, -⟩ := SurveyDb.createSurvey_ok hCreate
      have hSum := hAdded.sumWhere_eq (fun _ => true) fun _ => 1
      rw [← length_eq_sumWhere, ← length_eq_sumWhere] at hSum
      simp only [if_true] at hSum
      dsimp only
      omega
  | collided _ _ hConflict hRun =>
      rw [length_rewrite (bySurveyId?_eq_some hConflict).1 hRun]
      rfl

end Rows

/-! ### The outcomes of the lines -/

section Outcomes
variable (env : Env) (job : ImportJob) (now : Timestamp) (map : ColumnMap)

/-- What storing the line comes to, if it names a Survey Id, can be read and is not refused. -/
def lineOutcome? (state : JobState) (line : List ExcelValue × Nat) : Option RowOutcome :=
  (rowOf env job map line.1).bind fun row => (storeRow job now row ⟨state.db, []⟩).2.toOption

/-- The outcomes of the lines of a sheet, each line met with what those before it left. -/
def outcomesOf (state : JobState) : List (List ExcelValue × Nat) → List RowOutcome
  | [] => []
  | line :: lines =>
      (lineOutcome? env job now map state line).toList ++
        outcomesOf (lineStep env job now map state line) lines

theorem outcomesOf_append (state : JobState) (first second : List (List ExcelValue × Nat)) :
    outcomesOf env job now map state (first ++ second) =
      outcomesOf env job now map state first ++
        outcomesOf env job now map (run (lineStep env job now map) state first) second := by
  induction first generalizing state with
  | nil => rfl
  | cons line first ih =>
      rw [List.cons_append, outcomesOf, outcomesOf, ih, List.append_assoc, run_cons]

end Outcomes

def RowOutcome.isSkipped : RowOutcome → Bool
  | skipped _ => true
  | _ => false

def RowOutcome.isUnchanged : RowOutcome → Bool
  | unchanged _ => true
  | _ => false

def RowOutcome.isInserted : RowOutcome → Bool
  | inserted _ => true
  | _ => false

def RowOutcome.isUpdated : RowOutcome → Bool
  | updated _ => true
  | _ => false

/-- Only SKIP skips rows, and only UPDATE leaves them unchanged. -/
def RowOutcome.Fits (job : ImportJob) : RowOutcome → Prop
  | skipped _ => job.duplicateStrategy = .skip
  | unchanged _ => job.duplicateStrategy = .update
  | _ => True

/-- The counters, the errors and the table of a job that began at `start`. A row that is
skipped is counted among the successes too, and one left unchanged only there. -/
structure Tallied (env : Env) (job : ImportJob) (map : ColumnMap) (start : SurveyDb)
    (lines : List (List ExcelValue × Nat)) (state : JobState) (outcomes : List RowOutcome)
    (errors : List ImportError) : Prop where
  processed : state.progress.processed = lines.countP fun line => IsNamed env map line.1
  ended : state.progress.success + state.progress.failed = state.progress.processed
  succeeded : state.progress.success = outcomes.length
  divided : state.progress.success = state.progress.skipped + state.progress.inserted +
    state.progress.updated + outcomes.countP RowOutcome.isUnchanged
  skipped : state.progress.skipped = outcomes.countP RowOutcome.isSkipped
  insertions : state.progress.inserted = outcomes.countP RowOutcome.isInserted
  updated : state.progress.updated = outcomes.countP RowOutcome.isUpdated
  fits : ∀ outcome ∈ outcomes, outcome.Fits job
  touched : state.progress.touchedSurveyIds = outcomes.map RowOutcome.survey
  inserted : state.db.surveys.rows.length = start.surveys.rows.length + state.progress.inserted
  stored : state.db.importErrors = start.importErrors ++ errors
  failed : errors.length = state.progress.failed
  owned : ∀ error ∈ errors, error.importJobId = job.id
  numbered : (errors.map ImportError.rowNumber).Sublist (lines.map Prod.snd)

section Line
variable {env : Env} {job : ImportJob} {now : Timestamp} {map : ColumnMap} {start : SurveyDb}
  {lines : List (List ExcelValue × Nat)} {state : JobState} {outcomes : List RowOutcome}
  {errors : List ImportError}

/-- The outcome of a row fits the job's strategy. -/
theorem RowDone.fits {row : ImportRow} {db db' : SurveyDb} {outcome : RowOutcome}
    (h : RowDone job now row db db' outcome) : outcome.Fits job := by
  cases h with
  | skipped _ hSkip => exact hSkip
  | unchanged _ hUpdate => exact hUpdate
  | rewritten => trivial
  | inserted => trivial
  | collided => trivial

theorem Tallied.fail (h : Tallied env job map start lines state outcomes errors)
    {line : List ExcelValue × Nat} (hNamed : IsNamed env map line.1) (error : SurveyError) :
    Tallied env job map start (lines ++ [line])
      (state.fail (importError env job line.2 (readRow env map line.1) error)) outcomes
      (errors ++ [importError env job line.2 (readRow env map line.1) error]) where
  processed := by simp [JobState.fail, h.processed, hNamed]
  ended := by
    have hEnded := h.ended
    simp only [JobState.fail]
    omega
  succeeded := h.succeeded
  divided := h.divided
  skipped := h.skipped
  insertions := h.insertions
  updated := h.updated
  fits := h.fits
  touched := h.touched
  inserted := h.inserted
  stored := by
    rw [← List.append_assoc, ← h.stored]
    rfl
  failed := by simp [JobState.fail, h.failed]
  owned := List.forall_mem_append.mpr ⟨h.owned, List.forall_mem_singleton.mpr rfl⟩
  numbered := by
    rw [List.map_append, List.map_append]
    exact h.numbered.append (.refl _)

/-- A row that is stored is counted by its outcome. -/
theorem Tallied.store (h : Tallied env job map start lines state outcomes errors)
    {line : List ExcelValue × Nat} (hNamed : IsNamed env map line.1) {row : ImportRow}
    {db' : SurveyDb} {outcome : RowOutcome} (hDone : RowDone job now row state.db db' outcome) :
    Tallied env job map start (lines ++ [line]) (state.store db' row.ward.id outcome)
      (outcomes ++ [outcome]) errors where
  processed := by simp [JobState.store, ImportProgress.count, h.processed, hNamed]
  ended := by
    have hEnded := h.ended
    simp only [JobState.store, ImportProgress.count]
    omega
  succeeded := by simp [JobState.store, ImportProgress.count, h.succeeded]
  divided := by
    have hDivided := h.divided
    cases outcome with
    | _ =>
        simp only [JobState.store, ImportProgress.count, List.countP_append, List.countP_singleton,
          RowOutcome.isUnchanged, if_true, Bool.false_eq_true, if_false]
        omega
  skipped := by
    cases outcome with
    | _ => simp [JobState.store, ImportProgress.count, RowOutcome.isSkipped, h.skipped]
  insertions := by
    cases outcome with
    | _ => simp [JobState.store, ImportProgress.count, RowOutcome.isInserted, h.insertions]
  updated := by
    cases outcome with
    | _ => simp [JobState.store, ImportProgress.count, RowOutcome.isUpdated, h.updated]
  fits := List.forall_mem_append.mpr ⟨h.fits, List.forall_mem_singleton.mpr hDone.fits⟩
  touched := by simp [JobState.store, ImportProgress.count, h.touched]
  inserted := by
    have hLength := hDone.length
      { state.progress with processed := state.progress.processed + 1 } row.ward.id
    have hInserted := h.inserted
    simp only [JobState.store] at hLength ⊢
    omega
  stored := hDone.importErrors.trans h.stored
  failed := h.failed
  owned := h.owned
  numbered := by
    rw [List.map_append]
    exact h.numbered.trans (List.sublist_append_left _ _)

/-- A line without a row has no outcome. -/
theorem lineOutcome?_eq_none {line : List ExcelValue × Nat}
    (h : rowOf env job map line.1 = none) : lineOutcome? env job now map state line = none := by
  rw [lineOutcome?, h]
  rfl

/-- The outcome of a line is that of storing its row. -/
theorem lineOutcome?_of_run {line : List ExcelValue × Nat} {row : ImportRow}
    {after : SurveyState} {result : Except SurveyError RowOutcome}
    (hRow : rowOf env job map line.1 = some row)
    (hRun : storeRow job now row ⟨state.db, []⟩ = (after, result)) :
    lineOutcome? env job now map state line = result.toOption := by
  rw [lineOutcome?, hRow, Option.bind_some, hRun]

/-- Every line keeps the tally. -/
theorem Tallied.lineStep (h : Tallied env job map start lines state outcomes errors)
    (line : List ExcelValue × Nat) :
    ∃ errors', Tallied env job map start (lines ++ [line]) (lineStep env job now map state line)
      (outcomes ++ (lineOutcome? env job now map state line).toList) errors' := by
  unfold Surveys.lineStep
  dsimp only
  by_cases hNamed : (readRow env map line.1 .surveyId).isEmpty
  · have hNone : rowOf env job map line.1 = none := if_pos hNamed
    have hNot : ¬ IsNamed env map line.1 := not_not.mpr hNamed
    rw [if_pos hNamed, lineOutcome?_eq_none hNone, Option.toList_none, List.append_nil]
    refine ⟨errors, { h with processed := ?_, numbered := ?_ }⟩
    · simp [h.processed, hNot]
    · rw [List.map_append]
      exact h.numbered.trans (List.sublist_append_left _ _)
  rw [if_neg hNamed]
  cases hParse : parseRow env job (readRow env map line.1) with
  | error error =>
      have hNone : rowOf env job map line.1 = none := by
        rw [rowOf, if_neg hNamed, hParse]
        rfl
      rw [lineOutcome?_eq_none hNone, Option.toList_none, List.append_nil]
      exact ⟨_, h.fail hNamed error⟩
  | ok row =>
      have hRow := rowOf_of_parse hNamed hParse
      dsimp only
      rcases storeRow_ends job now row state.db with
        ⟨db', outcome, hDone, hRun⟩ | ⟨error, -, hRun⟩
      · rw [lineOutcome?_of_run hRow hRun, hRun]
        exact ⟨_, h.store hNamed hDone⟩
      · rw [lineOutcome?_of_run hRow hRun, hRun]
        exact ⟨_, (List.append_nil outcomes).symm ▸ h.fail hNamed error⟩

/-- After any run of lines, the counters are the tally. -/
theorem tallied_run (lines : List (List ExcelValue × Nat)) :
    ∃ errors, Tallied env job map start lines (run (lineStep env job now map) ⟨start, {}⟩ lines)
      (outcomesOf env job now map ⟨start, {}⟩ lines) errors := by
  induction lines using List.reverseRecOn with
  | nil =>
      exact ⟨[], rfl, rfl, rfl, rfl, rfl, rfl, rfl, nofun, rfl, rfl, (List.append_nil _).symm, rfl,
        nofun, .refl _⟩
  | append_singleton lines line ih =>
      obtain ⟨errors, h⟩ := ih
      rw [run_append, outcomesOf_append, outcomesOf, outcomesOf, List.append_nil]
      exact h.lineStep line

end Line

/-- Every line that names a Survey Id is counted once, as stored or as failed, and the counters
of the stored ones are those of their outcomes; the errors in the table are one for each failed
line, in the order of the lines; the table has grown by the rows that are reported as inserted;
and the status says whether there are errors. -/
theorem processJob_tallied {env : Env} {job : ImportJob} {now : Timestamp} {pruneMissing : Bool}
    {sheet : Option Sheet} {db : SurveyDb} {after : SurveyState} {result : ImportResult}
    (h : processJob env job now pruneMissing sheet ⟨db, []⟩ = (after, .ok result)) :
    ∃ loaded errors, loadSurveySheet env sheet = .ok loaded ∧
      Tallied env job loaded.1 db (loaded.2.rows.zipIdx 2) ⟨after.db, result.progress⟩
        (outcomesOf env job now loaded.1 ⟨db, {}⟩ (loaded.2.rows.zipIdx 2)) errors ∧
      (result.status = .completed ↔ errors = []) ∧
      (result.status = .failed ↔ errors ≠ [] ∧ result.progress.success = 0) := by
  obtain ⟨loaded, hLoaded⟩ := loaded_of_processJob h
  obtain ⟨db', pruned, hRun, -, hErrors, hRows⟩ := processJob_run hLoaded pruneMissing db
  obtain ⟨rfl, hResult⟩ := Prod.mk.inj (h.symm.trans hRun)
  obtain rfl := Except.ok.inj hResult
  obtain ⟨errors, hTallied⟩ := @tallied_run env job now loaded.1 db (loaded.2.rows.zipIdx 2)
  have hState : run (lineStep env job now loaded.1) ⟨db, {}⟩ (loaded.2.rows.zipIdx 2) =
    jobRun env job now loaded db := rfl
  rw [hState] at hTallied
  refine ⟨loaded, errors, hLoaded, { hTallied with inserted := ?_, stored := ?_ }, ?_, ?_⟩
  · simpa [hRows] using hTallied.inserted
  · exact hErrors.trans hTallied.stored
  · rw [← List.length_eq_zero_iff, hTallied.failed]
    unfold statusOf
    split_ifs with hNone <;> simp [hNone]
  · rw [ne_eq, ← List.length_eq_zero_iff, hTallied.failed]
    unfold statusOf
    split_ifs with hNone hSome
    · simp [hNone]
    · simp only [false_iff]
      omega
    · simp only [true_iff]
      exact ⟨hNone, by omega⟩

namespace Sample

/-- A house three times, the third time with another owner, and a line of no known ward. -/
def fourLines : Sheet :=
  houses [("249044-001-000001-001-R", "Asha"), ("249044-001-000001-001-R", "Asha"),
    ("249044-002-000001-001-R", "Ravi"), ("249044-001-000001-001-R", "Mohan")]

theorem updated_fourLines :
    (updated fourLines).2.toOption.map (fun result => result.progress) =
      some { processed := 4, success := 3, failed := 1, inserted := 1, updated := 1,
             touchedSurveyIds := [0, 0, 0], wardIdsSeen := [1, 1, 1] } := by
  decide +kernel

end Sample

/-- One line is inserted, one changes nothing, one fails, and one changes the owner. -/
theorem processJob_tallied_fourLines :
    ∃ (result : ImportResult) (loaded : ColumnMap × Sheet) (errors : List ImportError),
    (Sample.updated Sample.fourLines).2 = .ok result ∧ result.progress.success = 3 ∧
    result.progress.inserted + result.progress.updated = 2 ∧
    Tallied Sample.firstWard Sample.updateJob loaded.1 SurveyDb.empty (loaded.2.rows.zipIdx 2)
      ⟨(Sample.updated Sample.fourLines).1.db, result.progress⟩
      (outcomesOf Sample.firstWard Sample.updateJob 0 loaded.1 ⟨SurveyDb.empty, {}⟩
        (loaded.2.rows.zipIdx 2)) errors := by
  obtain ⟨result, hResult, hProgress⟩ := Option.map_eq_some_iff.mp Sample.updated_fourLines
  have hJob : processJob Sample.firstWard Sample.updateJob 0 false (some Sample.fourLines)
      ⟨SurveyDb.empty, []⟩ = (_, .ok result) := Prod.ext rfl (ok_of_toOption hResult)
  obtain ⟨loaded, errors, -, hTallied, -⟩ := processJob_tallied hJob
  refine ⟨result, loaded, errors, ok_of_toOption hResult, ?_, ?_, hTallied⟩
  · rw [hProgress]
  · simp only [hProgress]

end PropertyTax.Surveys
