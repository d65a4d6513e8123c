import PropertyTax.Surveys.PreviewLaw

/-! A job that prunes while other users work. Their calls come between its lines, and between
its look for the orphans and the deletion, and may change the database in any way. -/
namespace PropertyTax.Surveys
open KeyedTable Scripts Runs ImportsService

/-! ### The job and the others -/

/-- Where a job stands. -/
inductive JobStage where
  | storing (lines : List (List ExcelValue × Nat))
  | deleting (orphans : List Survey)
  | finished

def JobStage.linesLeft : JobStage → List (List ExcelValue × Nat)
  | storing lines => lines
  | deleting _ | finished => []

structure SharedJob where
  state : JobState
  stage : JobStage
  /-- What the job has deleted, as it was when the job looked for orphans. -/
  deleted : List Survey := []

inductive JobTurn where
  | job
  | others (change : SurveyDb → SurveyDb)

section Turns
variable (env : Env) (job : ImportJob) (now : Timestamp) (map : ColumnMap) (pruneMissing : Bool)

/-- The orphans that the job goes on to delete: none, if there are too many. -/
def orphansFound (state : JobState) : List Survey :=
  match shouldReconcileWardAfterImport job pruneMissing state.progress with
  | none => []
  | some ward =>
      let orphans := state.db.surveys.rows.filter (isOrphan ward state.progress.touchedSurveyIds)
      if shouldPruneOrphanCount orphans.length state.progress.touchedSurveyIds.eraseDups.length then
        orphans
      else []

def logPruned (orphans : List Survey) (db : SurveyDb) : SurveyDb :=
  orphans.foldl (fun db orphan =>
    db.log (.pruned orphan.id job.createdById orphan.surveyId job.id)) db

/-- `updateMany` by the ids that were found, and the entries of the log. -/
def deleteOrphans (orphans : List Survey) (db : SurveyDb) : SurveyDb :=
  logPruned job orphans (deleteAll (orphans.map Survey.id) now db)

def startJob (lines : List (List ExcelValue × Nat)) (db : SurveyDb) : SharedJob :=
  ⟨⟨db, {}⟩, .storing lines, []⟩

def advance (shared : SharedJob) : SharedJob :=
  match shared.stage with
  | .storing (line :: lines) =>
      { shared with state := lineStep env job now map shared.state line, stage := .storing lines }
  | .storing [] => { shared with stage := .deleting (orphansFound job pruneMissing shared.state) }
  | .deleting orphans =>
      { state := { shared.state with db := deleteOrphans job now orphans shared.state.db }
        stage := .finished
        deleted := orphans }
  | .finished => shared

def takeTurn (shared : SharedJob) : JobTurn → SharedJob
  | .job => advance env job now map pruneMissing shared
  | .others change =>
      { shared with state := { shared.state with db := change shared.state.db } }

end Turns

/-! ### The job by itself -/

section Alone
variable {env : Env} {job : ImportJob} {now : Timestamp} {map : ColumnMap} {pruneMissing : Bool}

theorem deleteAll_nil (db : SurveyDb) : deleteAll [] now db = db := by
  obtain ⟨surveys, floors⟩ := db
  obtain ⟨rows, apart⟩ := surveys
  unfold deleteAll KeyedTable.mapRows
  simp [markDeleted_nil]

/-- Every orphan is logged. -/
theorem logs_eq (orphans : List Survey) (db : SurveyDb) :
    (orphans.forM fun orphan => write (SurveyDb.log
      (.pruned orphan.id job.createdById orphan.surveyId job.id)) : SurveyScript PUnit) ⟨db, []⟩ =
        (⟨logPruned job orphans db, []⟩, .ok ⟨⟩) := by
  induction orphans generalizing db with
  | nil => rfl
  | cons orphan orphans ih => exact (Script.bind_of_ok (write_calm _)).trans (ih _)

/-- Pruning deletes the orphans found, and answers with their number. -/
theorem reconcile_eq (state : JobState) :
    reconcileWardOrphans job now pruneMissing state.progress ⟨state.db, []⟩ =
      (⟨deleteOrphans job now (orphansFound job pruneMissing state) state.db, []⟩,
        .ok (orphansFound job pruneMissing state).length) := by
  unfold reconcileWardOrphans orphansFound
  cases shouldReconcileWardAfterImport job pruneMissing state.progress with
  | none =>
      dsimp only
      rw [deleteOrphans, List.map_nil, deleteAll_nil]
      rfl
  | some ward =>
      dsimp only
      rw [pruneOrphans, Script.bind_of_ok (read_calm _)]
      split_ifs
      · rw [Script.bind_of_ok (write_calm _), Script.bind_of_ok (logs_eq _ _)]
        rfl
      · rw [deleteOrphans, List.map_nil, deleteAll_nil]
        rfl

/-- A job that is left alone stores its lines one after the other. -/
theorem run_storing (lines : List (List ExcelValue × Nat)) (state : JobState) :
    run (takeTurn env job now map pruneMissing) ⟨state, .storing lines, []⟩
        (List.replicate lines.length .job) =
      ⟨run (lineStep env job now map) state lines, .storing [], []⟩ := by
  induction lines generalizing state with
  | nil => rfl
  | cons line lines ih =>
      rw [List.length_cons, List.replicate_succ, run_cons, run_cons]
      exact ih _

/-- With no others, the turns of the job come to what `processJob` does. -/
theorem processJob_turns {sheet : Option Sheet} {loaded : ColumnMap × Sheet}
    (hLoaded : loadSurveySheet env sheet = .ok loaded) (db : SurveyDb) :
    ∃ after, processJob env job now pruneMissing sheet ⟨db, []⟩ = (⟨after.state.db, []⟩,
        .ok ⟨statusOf after.state.progress, after.state.progress, after.deleted.length⟩) ∧
      run (takeTurn env job now loaded.1 pruneMissing) (startJob (loaded.2.rows.zipIdx 2) db)
        (List.replicate ((loaded.2.rows.zipIdx 2).length + 2) .job) = after := by
  have hPure : (orThrow (.ok loaded) : SurveyScript (ColumnMap × Sheet)) ⟨db, []⟩ =
    (⟨db, []⟩, .ok loaded) := rfl
  have hLoop := @foldlM_eq env job now loaded.1 (loaded.2.rows.zipIdx 2) ⟨db, {}⟩
  have hReconcile := @reconcile_eq job now pruneMissing
    (run (lineStep env job now loaded.1) ⟨db, {}⟩ (loaded.2.rows.zipIdx 2))
  refine ⟨_, ?_, rfl⟩
  rw [List.replicate_add, run_append, startJob, run_storing]
  unfold processJob
  rw [hLoaded, Except.mapError, Script.bind_of_ok hPure, Script.bind_of_ok hLoop,
    Script.bind_of_ok hReconcile]
  rfl

end Alone

/-! ### What is deleted -/

section Safety
variable {env : Env} {job : ImportJob} {now : Timestamp} {map : ColumnMap} {pruneMissing : Bool}
  {lines : List (List ExcelValue × Nat)} {db : SurveyDb}

/-- The orphans that were found while the job was as `progress` says. -/
structure Prunable (job : ImportJob) (pruneMissing : Bool) (progress : ImportProgress)
    (ward : Id) (orphans : List Survey) : Prop where
  asked : pruneMissing = true ∧ job.duplicateStrategy = .update
  noFailure : progress.failed = 0
  oneWard : ∀ seen ∈ progress.wardIdsSeen, seen = ward
  unmatched : ∀ orphan ∈ orphans, orphan.wardId = ward ∧ orphan.isLive = true ∧
    orphan.id ∉ progress.touchedSurveyIds
  few : orphans.length ≤ max 10 ((progress.touchedSurveyIds.eraseDups.length + 49) / 50)

/-- Orphans are only found in a ward that may be pruned. -/
theorem orphansFound_prunable (state : JobState) (h : orphansFound job pruneMissing state ≠ []) :
    ∃ ward,
      Prunable job pruneMissing state.progress ward (orphansFound job pruneMissing state) := by
  unfold orphansFound at h ⊢
  cases hWard : shouldReconcileWardAfterImport job pruneMissing state.progress with
  | none =>
      rw [hWard] at h
      exact absurd rfl h
  | some ward =>
      rw [hWard] at h
      dsimp only at h ⊢
      split_ifs at h ⊢ with hFew
      · unfold shouldReconcileWardAfterImport at hWard
        split_ifs at hWard with hAsked
        simp only [Bool.and_eq_true, decide_eq_true_eq] at hAsked
        refine ⟨ward, hAsked.1.1, hAsked.1.2, fun seen hSeen => ?_, fun orphan hOrphan => ?_, ?_⟩
        · have hErased := List.mem_eraseDups.mpr hSeen
          generalize state.progress.wardIdsSeen.eraseDups = wards at hWard hErased
          match wards, hWard, hErased with
          | [only], hWard, hErased =>
              obtain rfl := Option.some.inj hWard
              exact List.mem_singleton.mp hErased
        · have hMeets := (List.mem_filter.mp hOrphan).2
          simp only [isOrphan, Bool.and_eq_true, decide_eq_true_eq, Bool.not_eq_true',
            List.contains_eq_mem, decide_eq_false_iff_not] at hMeets
          exact ⟨hMeets.1.1.1, hMeets.1.1.2, hMeets.2⟩
        · exact (of_decide_eq_true (Bool.and_eq_true_iff.mp hFew).2)
      · exact absurd rfl h

/-- Every named line was counted, and as long as none has failed, each was stored in a survey. -/
structure Counted (env : Env) (map : ColumnMap) (lines : List (List ExcelValue × Nat))
    (shared : SharedJob) : Prop where
  processed : shared.state.progress.processed +
    shared.stage.linesLeft.countP (fun line => IsNamed env map line.1) =
      lines.countP fun line => IsNamed env map line.1
  stored : shared.state.progress.touchedSurveyIds.length + shared.state.progress.failed =
    shared.state.progress.processed

/-- Every processed line has touched a survey or failed. -/
theorem stored_lineStep (state : JobState) (line : List ExcelValue × Nat)
    (h : state.progress.touchedSurveyIds.length + state.progress.failed =
      state.progress.processed) :
    (lineStep env job now map state line).progress.touchedSurveyIds.length +
        (lineStep env job now map state line).progress.failed =
      (lineStep env job now map state line).progress.processed := by
  have hDone := @lineStep_done env job now map state line
  generalize lineStep env job now map state line = next at hDone
  cases hDone with
  | unnamed => exact h
  | unread =>
      simp only [JobState.fail]
      omega
  | refused =>
      simp only [JobState.fail]
      omega
  | stored =>
      simp only [JobState.store, ImportProgress.count, List.length_append, List.length_singleton]
      omega

/-- A line keeps the count of touched surveys and failures. -/
theorem counted_lineStep {shared : SharedJob} {line : List ExcelValue × Nat}
    {rest : List (List ExcelValue × Nat)} (h : Counted env map lines shared)
    (hStage : shared.stage = .storing (line :: rest)) :
    Counted env map lines
      ⟨lineStep env job now map shared.state line, .storing rest, shared.deleted⟩ := by
  obtain ⟨hProcessed, hStored⟩ := h
  refine ⟨?_, stored_lineStep _ _ hStored⟩
  rw [hStage] at hProcessed
  simp only [JobStage.linesLeft, List.countP_cons, decide_eq_true_eq, lineStep_processed]
    at hProcessed ⊢
  omega

/-- What the job is going to delete, and what it has deleted, could be pruned as it stands. -/
structure SparesFile (env : Env) (job : ImportJob) (map : ColumnMap) (pruneMissing : Bool)
    (lines : List (List ExcelValue × Nat)) (shared : SharedJob) : Prop where
  counted : Counted env map lines shared
  found : ∀ orphans, shared.stage = .deleting orphans → orphans ≠ [] →
    ∃ ward, Prunable job pruneMissing shared.state.progress ward orphans
  atEnd : shared.deleted ≠ [] → shared.stage = .finished
  pruned : shared.deleted ≠ [] →
    ∃ ward, Prunable job pruneMissing shared.state.progress ward shared.deleted

/-- The job's own step spares the file. -/
theorem SparesFile.advance {shared : SharedJob}
    (h : SparesFile env job map pruneMissing lines shared) :
    SparesFile env job map pruneMissing lines
      (advance env job now map pruneMissing shared) := by
  obtain ⟨hCounted, hFound, hAtEnd, hPruned⟩ := h
  obtain ⟨state, stage, deleted⟩ := shared
  have hNone (hRunning : stage ≠ .finished) : deleted = [] := by
    by_contra hDeleted
    exact hRunning (hAtEnd hDeleted)
  unfold Surveys.advance
  cases stage with
  | storing lines =>
      obtain rfl := hNone nofun
      cases lines with
      | cons line lines =>
          exact ⟨counted_lineStep hCounted rfl, nofun, fun hNe => absurd rfl hNe,
            fun hNe => absurd rfl hNe⟩
      | nil =>
          refine ⟨⟨hCounted.1, hCounted.2⟩, fun orphans hStage hNe => ?_, fun hNe => absurd rfl hNe,
            fun hNe => absurd rfl hNe⟩
          obtain rfl := JobStage.deleting.inj hStage
          exact orphansFound_prunable state hNe
  | deleting orphans =>
      exact ⟨⟨hCounted.1, hCounted.2⟩, nofun, fun _ => rfl, hFound orphans rfl⟩
  | finished => exact ⟨hCounted, nofun, fun _ => rfl, hPruned⟩

/-- Every turn spares the file. -/
theorem SparesFile.takeTurn {shared : SharedJob}
    (h : SparesFile env job map pruneMissing lines shared) (turn : JobTurn) :
    SparesFile env job map pruneMissing lines
      (takeTurn env job now map pruneMissing shared turn) := by
  cases turn with
  | job => exact h.advance
  | others change => exact ⟨⟨h.counted.1, h.counted.2⟩, h.found, h.atEnd, h.pruned⟩

theorem sparesFile_start :
    SparesFile env job map pruneMissing lines (startJob lines db) where
  counted := ⟨Nat.zero_add _, rfl⟩
  found := nofun
  atEnd hNe := absurd rfl hNe
  pruned hNe := absurd rfl hNe

/-- In one of the turns the job stored the line in the survey `id`. -/
def StoredIn (env : Env) (job : ImportJob) (now : Timestamp) (map : ColumnMap)
    (pruneMissing : Bool) (start : SharedJob) (turns : List JobTurn)
    (line : List ExcelValue × Nat) (id : Id) : Prop :=
  ∃ before later met rest row after outcome,
    turns = before ++ .job :: later ∧
    run (takeTurn env job now map pruneMissing) start before = met ∧
    met.stage = .storing (line :: rest) ∧
    rowOf env job map line.1 = some row ∧
    storeRow job now row ⟨met.state.db, []⟩ = (after, .ok outcome) ∧
    outcome.survey = id

theorem StoredIn.append {start : SharedJob} {turns : List JobTurn}
    {line : List ExcelValue × Nat} {id : Id}
    (h : StoredIn env job now map pruneMissing start turns line id) (more : List JobTurn) :
    StoredIn env job now map pruneMissing start (turns ++ more) line id := by
  obtain ⟨before, later, met, rest, row, after, outcome, rfl, hRest⟩ := h
  exact ⟨before, later ++ more, met, rest, row, after, outcome, by simp, hRest⟩

/-- A turn of the job on a line fails, or keeps account of it. -/
theorem touched_lineStep {state : JobState} {line : List ExcelValue × Nat}
    (hFailed : (lineStep env job now map state line).progress.failed = 0) :
    state.progress.failed = 0 ∧
    (∀ id ∈ state.progress.touchedSurveyIds,
      id ∈ (lineStep env job now map state line).progress.touchedSurveyIds) ∧
    (IsNamed env map line.1 → ∃ row after outcome,
      rowOf env job map line.1 = some row ∧
      storeRow job now row ⟨state.db, []⟩ = (after, .ok outcome) ∧
      outcome.survey ∈ (lineStep env job now map state line).progress.touchedSurveyIds) := by
  have hDone := @lineStep_done env job now map state line
  generalize lineStep env job now map state line = next at hDone hFailed
  cases hDone with
  | unnamed hUnnamed => exact ⟨hFailed, fun _ h => h, fun hNamed => absurd hUnnamed hNamed⟩
  | unread => cases hFailed
  | refused => cases hFailed
  | stored hRow hRun =>
      refine ⟨hFailed, fun id hId => List.mem_append_left _ hId, fun _ => ?_⟩
      exact ⟨_, _, _, hRow, hRun, List.mem_append_right _ (List.mem_singleton_self _)⟩

/-- Until a line fails, every line that names a Survey Id is still to come, or was stored in a
survey that the job keeps. -/
theorem stored_of_turns {start : SharedJob} (turns : List JobTurn)
    (hFailed :
      (run (takeTurn env job now map pruneMissing) start turns).state.progress.failed = 0) :
    ∀ line ∈ start.stage.linesLeft, IsNamed env map line.1 →
      line ∈ (run (takeTurn env job now map pruneMissing) start turns).stage.linesLeft ∨
      ∃ id, StoredIn env job now map pruneMissing start turns line id ∧
        id ∈ (run (takeTurn env job now map pruneMissing) start
          turns).state.progress.touchedSurveyIds := by
  induction turns using List.reverseRecOn with
  | nil => exact fun line hLine _ => .inl hLine
  | append_singleton turns turn ih =>
      intro line hLine hNamed
      rw [run_append, run_cons, run_nil] at hFailed ⊢
      generalize hMet : run (takeTurn env job now map pruneMissing) start turns = met
        at ih hFailed ⊢
      -- The turn leaves the lines and the surveys that are kept, and so what was known.
      have hSame (hProgress : (takeTurn env job now map pruneMissing met turn).state.progress =
            met.state.progress)
          (hLeft : met.stage.linesLeft =
            (takeTurn env job now map pruneMissing met turn).stage.linesLeft) :
          line ∈ (takeTurn env job now map pruneMissing met turn).stage.linesLeft ∨
            ∃ id, StoredIn env job now map pruneMissing start (turns ++ [turn]) line id ∧
              id ∈ (takeTurn env job now map pruneMissing met
                turn).state.progress.touchedSurveyIds := by
        rw [hProgress] at hFailed ⊢
        rw [← hLeft]
        refine (ih hFailed line hLine hNamed).imp_right ?_
        rintro ⟨id, hStored, hTouched⟩
        exact ⟨id, hStored.append [turn], hTouched⟩
      cases turn with
      | others change => exact hSame rfl rfl
      | job =>
          obtain ⟨state, stage, deleted⟩ := met
          cases stage with
          | finished => exact hSame rfl rfl
          | deleting orphans => exact hSame rfl rfl
          | storing left =>
              cases left with
              | nil => exact hSame rfl rfl
              | cons next rest =>
                  obtain ⟨hBefore, hKept, hNext⟩ := touched_lineStep hFailed
                  rcases ih hBefore line hLine hNamed with hLeft | ⟨id, hStored, hTouched⟩
                  · rcases List.mem_cons.mp hLeft with rfl | hRest
                    · obtain ⟨row, after, outcome, hRow, hRun, hTouched⟩ := hNext hNamed
                      exact .inr ⟨outcome.survey, ⟨turns, [], _, rest, row, after, outcome, rfl,
                        hMet, rfl, hRow, hRun, rfl⟩, hTouched⟩
                    · exact .inl hRest
                  · exact .inr ⟨id, hStored.append [.job], hKept id hTouched⟩

end Safety

/-- Whatever the others do: what a job deletes was, when the job looked, live in the one ward of
the file; every line that names a Survey Id was stored in a survey, which is none of those; and
they are few. -/
theorem prune_spares_file (env : Env) (job : ImportJob) (now : Timestamp) (map : ColumnMap)
    (pruneMissing : Bool) (lines : List (List ExcelValue × Nat)) (db : SurveyDb)
    (turns : List JobTurn) {after : SharedJob}
    (hRun : run (takeTurn env job now map pruneMissing) (startJob lines db) turns = after)
    (hDeleted : after.deleted ≠ []) :
    ∃ ward, Prunable job pruneMissing after.state.progress ward after.deleted ∧
      after.state.progress.touchedSurveyIds.length =
        (lines.countP fun line => IsNamed env map line.1) ∧
      ∀ line ∈ lines, IsNamed env map line.1 →
        ∃ id, StoredIn env job now map pruneMissing (startJob lines db) turns line id ∧
          ∀ orphan ∈ after.deleted, orphan.id ≠ id := by
  have h : SparesFile env job map pruneMissing lines after := by
    rw [← hRun]
    exact run_invariant _ (fun shared turn h => h.takeTurn turn) sparesFile_start turns
  obtain ⟨ward, hPrunable⟩ := h.pruned hDeleted
  have hStage := h.atEnd hDeleted
  refine ⟨ward, hPrunable, ?_, fun line hLine hNamed => ?_⟩
  · have hLeft := h.counted.processed
    have hStored := h.counted.stored
    rw [hStage] at hLeft
    rw [hPrunable.noFailure] at hStored
    simp only [JobStage.linesLeft, List.countP_nil] at hLeft
    omega
  · have hFailed := hPrunable.noFailure
    rw [← hRun] at hFailed
    rcases stored_of_turns turns hFailed line hLine hNamed with hLeft | ⟨id, hStored, hTouched⟩
    · rw [hRun, hStage] at hLeft
      cases hLeft
    · refine ⟨id, hStored, fun orphan hOrphan hSame => ?_⟩
      rw [hRun, ← hSame] at hTouched
      exact (hPrunable.unmatched orphan hOrphan).2.2 hTouched

namespace Sample

/-- A house in the ward that `oneProperty` does not name. -/
def oneOrphan : SurveyDb :=
  { SurveyDb.empty with
    surveys := ⟨[SurveyDb.newSurvey 1 "249044-001-000009-001-R".toList 1 0],
      List.pairwise_singleton _ _⟩
    nextId := 2 }

def firstMap : ColumnMap :=
  refineMappingFromHeaders (getMapping .chhataV1_38)
    (oneProperty.header.map fun value => cell firstWard.toISOString [value] (some 0))

def prunedJob (turns : List JobTurn) : SharedJob :=
  run (takeTurn firstWard updateJob 0 firstMap true)
    (startJob (oneProperty.rows.zipIdx 2) oneOrphan) turns

/-- Another user archives whatever is there. -/
def archiveAll (db : SurveyDb) : SurveyDb :=
  { db with
    surveys := db.surveys.mapRows (fun survey => { survey with status := .archived })
      fun _ _ => rfl }

/-- The surveys are archived between the line and the look. -/
def archivedBetween : List JobTurn := [.job, .others archiveAll, .job, .job]

theorem prunedJob_deleted :
    (prunedJob archivedBetween).deleted.map (fun orphan =>
      (orphan.id, orphan.wardId, orphan.status)) = [(1, 1, .archived)] := by
  decide +kernel

end Sample

/-- The house that the file does not name is deleted, and the line was stored. -/
theorem prune_spares_file_orphan : ∃ ward,
    Prunable Sample.updateJob true (Sample.prunedJob Sample.archivedBetween).state.progress ward
      (Sample.prunedJob Sample.archivedBetween).deleted ∧
    (Sample.prunedJob Sample.archivedBetween).state.progress.touchedSurveyIds.length =
      ((Sample.oneProperty.rows.zipIdx 2).countP fun line =>
        IsNamed Sample.firstWard Sample.firstMap line.1) ∧
    ∀ line ∈ Sample.oneProperty.rows.zipIdx 2, IsNamed Sample.firstWard Sample.firstMap line.1 →
      ∃ id, StoredIn Sample.firstWard Sample.updateJob 0 Sample.firstMap true
          (startJob (Sample.oneProperty.rows.zipIdx 2) Sample.oneOrphan) Sample.archivedBetween
          line id ∧
        ∀ orphan ∈ (Sample.prunedJob Sample.archivedBetween).deleted, orphan.id ≠ id := by
  have hDeleted : (Sample.prunedJob Sample.archivedBetween).deleted ≠ [] := by
    intro hNil
    have hIds := Sample.prunedJob_deleted
    rw [hNil] at hIds
    cases hIds
  exact prune_spares_file Sample.firstWard Sample.updateJob 0 Sample.firstMap true
    (Sample.oneProperty.rows.zipIdx 2) Sample.oneOrphan Sample.archivedBetween rfl hDeleted

/-! ### Where it comes from -/

/-- The others put no survey into the ward: each live one there was there before. -/
def NoArrivals (ward : Id) (shared : SharedJob) : JobTurn → Prop
  | .job => True
  | .others change => ∀ survey ∈ (change shared.state.db).surveys.rows, survey.wardId = ward →
      survey.isLive = true → ∃ before ∈ shared.state.db.surveys.rows,
        before.id = survey.id ∧ before.wardId = ward ∧ before.isLive = true

/-- The survey was live in the ward at the start. -/
def StoodIn (start : SurveyDb) (ward id : Id) : Prop :=
  ∃ survey ∈ start.surveys.rows, survey.id = id ∧ survey.wardId = ward ∧ survey.isLive = true

section Origin
variable {env : Env} {job : ImportJob} {now : Timestamp} {map : ColumnMap} {pruneMissing : Bool}
  {start : SurveyDb} {ward : Id}

/-- A stored row changes no survey but its own. -/
theorem RowDone.rows {row : ImportRow} {db db' : SurveyDb} {outcome : RowOutcome}
    (h : RowDone job now row db db' outcome) :
    ∀ survey ∈ db'.surveys.rows, survey ∈ db.surveys.rows ∨ survey.id = outcome.survey := by
  have hRewritten {db' : SurveyDb} {old updated : Survey} (hOld : old ∈ db.surveys.rows)
      (hRun : (db.deleteFloors old.id).updateSurvey old.id (ImportRow.rewriteData row) row.floors =
        .ok (db', updated)) :
      ∀ survey ∈ db'.surveys.rows, survey ∈ db.surveys.rows ∨ survey.id = old.id := by
    have hKept : old ∈ (db.deleteFloors old.id).surveys.rows := hOld
    obtain ⟨rfl, hReplaced⟩ := SurveyDb.updateSurvey_of_mem hKept hRun
    intro survey hSurvey
    rcases (hReplaced.mem_iff survey).mp hSurvey with ⟨hBefore, -⟩ | rfl
    · exact .inl hBefore
    · exact .inr rfl
  cases h with
  | skipped => exact fun _ hSurvey => .inl hSurvey
  | unchanged => exact fun _ hSurvey => .inl hSurvey
  | rewritten hMatch _ _ hRun =>
      rw [SurveyDb.logChanges_surveys]
      exact hRewritten (matchOf_mem hMatch) hRun
  | inserted _ hCreate =>
      obtain ⟨hAdded, -, -, surveyId, wardId, -, -, rfl⟩ := SurveyDb.createSurvey_ok hCreate
      intro survey hSurvey
      rcases (hAdded.mem_iff survey).mp hSurvey with hBefore | rfl
      · exact .inl hBefore
      · exact .inr rfl
  | collided _ _ hConflict hRun => exact hRewritten (bySurveyId?_eq_some hConflict).1 hRun

/-- While the job looks at its lines, what is live in the ward was matched by a line, or stood
there at the start; what it finds and deletes stood there. -/
structure Accounted (start : SurveyDb) (ward : Id) (shared : SharedJob) : Prop where
  live : ∀ survey ∈ shared.state.db.surveys.rows, survey.wardId = ward → survey.isLive = true →
    survey.id ∈ shared.state.progress.touchedSurveyIds ∨ StoodIn start ward survey.id
  found : ∀ orphans, shared.stage = .deleting orphans →
    ∀ orphan ∈ orphans, orphan.wardId = ward → StoodIn start ward orphan.id
  deleted : ∀ orphan ∈ shared.deleted, orphan.wardId = ward → StoodIn start ward orphan.id

/-- A line keeps the ward accounted for. -/
theorem Accounted.lineStep {state : JobState} (line : List ExcelValue × Nat)
    (h : ∀ survey ∈ state.db.surveys.rows, survey.wardId = ward → survey.isLive = true →
      survey.id ∈ state.progress.touchedSurveyIds ∨ StoodIn start ward survey.id) :
    ∀ survey ∈ (lineStep env job now map state line).db.surveys.rows, survey.wardId = ward →
      survey.isLive = true →
      survey.id ∈ (lineStep env job now map state line).progress.touchedSurveyIds ∨
        StoodIn start ward survey.id := by
  have hDone := @lineStep_done env job now map state line
  generalize Surveys.lineStep env job now map state line = next at hDone
  cases hDone with
  | unnamed => exact h
  | unread => exact h
  | refused => exact h
  | stored _ _ hRow =>
      intro survey hSurvey hWard hLive
      rcases hRow.rows survey hSurvey with hBefore | hOwn
      · exact (h survey hBefore hWard hLive).imp_left (List.mem_append_left _)
      · exact .inl (List.mem_append_right _ (List.mem_singleton.mpr hOwn))

/-- What is live after pruning was there before. -/
theorem mem_of_mem_deleteOrphans {orphans : List Survey} {db : SurveyDb} {survey : Survey}
    (h : survey ∈ (deleteOrphans job now orphans db).surveys.rows) (hLive : survey.isLive = true) :
    survey ∈ db.surveys.rows := by
  have hLog (orphans : List Survey) (db : SurveyDb) :
      (logPruned job orphans db).surveys = db.surveys := by
    unfold logPruned
    induction orphans generalizing db with
    | nil => rfl
    | cons orphan orphans ih => exact ih _
  rw [deleteOrphans, hLog] at h
  obtain ⟨before, hBefore, rfl⟩ := List.mem_map.mp h
  unfold markDeleted at hLive ⊢
  split_ifs at hLive ⊢
  · cases hLive
  · exact hBefore

/-- The job's own step keeps the ward accounted for. -/
theorem Accounted.advance {shared : SharedJob} (h : Accounted start ward shared) :
    Accounted start ward (advance env job now map pruneMissing shared) := by
  obtain ⟨hLive, hFound, hDeleted⟩ := h
  obtain ⟨state, stage, deleted⟩ := shared
  unfold Surveys.advance
  cases stage with
  | storing lines =>
      cases lines with
      | cons line lines => exact ⟨Accounted.lineStep line hLive, nofun, hDeleted⟩
      | nil =>
          refine ⟨hLive, fun orphans hStage orphan hOrphan hWard => ?_, hDeleted⟩
          obtain rfl := JobStage.deleting.inj hStage
          have hNe : orphansFound job pruneMissing state ≠ [] := List.ne_nil_of_mem hOrphan
          obtain ⟨seen, hPrunable⟩ := orphansFound_prunable state hNe
          obtain ⟨-, hOrphanLive, hUnmatched⟩ := hPrunable.unmatched orphan hOrphan
          refine (hLive orphan ?_ hWard hOrphanLive).resolve_left hUnmatched
          unfold orphansFound at hOrphan
          split at hOrphan
          · cases hOrphan
          · dsimp only at hOrphan
            split_ifs at hOrphan
            · exact (List.mem_filter.mp hOrphan).1
            · cases hOrphan
  | deleting orphans =>
      refine ⟨fun survey hSurvey hWard hSurveyLive => ?_, nofun, hFound orphans rfl⟩
      exact hLive survey (mem_of_mem_deleteOrphans hSurvey hSurveyLive) hWard hSurveyLive
  | finished => exact ⟨hLive, hFound, hDeleted⟩

/-- A turn without arrivals keeps the ward accounted for. -/
theorem Accounted.takeTurn {shared : SharedJob} {turn : JobTurn} (h : Accounted start ward shared)
    (hTurn : NoArrivals ward shared turn) :
    Accounted start ward (takeTurn env job now map pruneMissing shared turn) := by
  cases turn with
  | job => exact h.advance
  | others change =>
      refine ⟨fun survey hSurvey hWard hLive => ?_, h.found, h.deleted⟩
      obtain ⟨before, hBefore, hId, hBeforeWard, hBeforeLive⟩ := hTurn survey hSurvey hWard hLive
      rw [← hId]
      exact h.live before hBefore hBeforeWard hBeforeLive

theorem accounted_start (lines : List (List ExcelValue × Nat)) :
    Accounted start ward (startJob lines start) where
  live survey hSurvey hWard hLive := .inr ⟨survey, hSurvey, rfl, hWard, hLive⟩
  found _ hStage := by cases hStage
  deleted _ hOrphan := absurd hOrphan List.not_mem_nil

end Origin

/-- If the others put nothing into the ward of the file, a job deletes only surveys that stood in
the ward when it began. -/
theorem pruned_stood_in_ward (env : Env) (job : ImportJob) (now : Timestamp) (map : ColumnMap)
    (pruneMissing : Bool) (lines : List (List ExcelValue × Nat)) (db : SurveyDb)
    (turns : List JobTurn) {ward : Id}
    (hTurns : Along (takeTurn env job now map pruneMissing) (NoArrivals ward) (startJob lines db)
      turns) :
    ∀ orphan ∈ (run (takeTurn env job now map pruneMissing) (startJob lines db) turns).deleted,
      orphan.wardId = ward → StoodIn db ward orphan.id := by
  have h : Accounted db ward (run (takeTurn env job now map pruneMissing) (startJob lines db)
      turns) :=
    run_invariant_along _ (fun shared turn h hTurn => h.takeTurn hTurn) (accounted_start lines)
      hTurns
  exact h.deleted

/-- What another user archived meanwhile stood there too. -/
theorem pruned_stood_in_ward_orphan : StoodIn Sample.oneOrphan 1 1 := by
  have hDeleted : ((1, 1, .archived) : Id × Id × SurveyStatus) ∈
      (Sample.prunedJob Sample.archivedBetween).deleted.map fun orphan =>
        (orphan.id, orphan.wardId, orphan.status) := by
    rw [Sample.prunedJob_deleted]
    exact List.mem_singleton_self _
  obtain ⟨orphan, hOrphan, hIds⟩ := List.mem_map.mp hDeleted
  obtain ⟨hId, hWard⟩ := Prod.mk.inj hIds
  have hArchived : NoArrivals 1 (Sample.prunedJob [.job]) (.others Sample.archiveAll) := by
    intro survey hSurvey hWard hLive
    obtain ⟨before, hBefore, rfl⟩ := List.mem_map.mp hSurvey
    exact ⟨before, hBefore, rfl, hWard, hLive⟩
  have hStood := pruned_stood_in_ward Sample.firstWard Sample.updateJob 0 Sample.firstMap true
    (Sample.oneProperty.rows.zipIdx 2) Sample.oneOrphan Sample.archivedBetween
    ⟨trivial, hArchived, trivial, trivial, trivial⟩ orphan hOrphan (congrArg Prod.fst hWard)
  rwa [hId] at hStood

end PropertyTax.Surveys
