import PropertyTax.Surveys.BilledFloors
import PropertyTax.Surveys.Collapse

/-! A job that is run again. What its rows write over a survey is one write in
the end, and a write made twice is a write made once. -/
namespace PropertyTax.Surveys
open KeyedTable Runs ImportsService

/-! ### Writes in turn -/

namespace Field
variable {α β : Type}

/-- The later write counts, if there is one. -/
def andThen (first : Field α) : Field α → Field α
  | undefined => first
  | second => second

/-- The same for a column that is not nullable. -/
def andThenTo (first : Field α) : Field α → Field α
  | value a => value a
  | _ => first

@[simp] theorem assign_andThen (first second : Field α) (old : Option α) :
    (first.andThen second).assign old = second.assign (first.assign old) := by
  cases second <;> rfl

@[simp] theorem assignTo_andThenTo (first second : Field α) (old : α) :
    (first.andThenTo second).assignTo old = second.assignTo (first.assignTo old) := by
  cases second <;> rfl

@[simp] theorem map_andThen (f : α → β) (first second : Field α) :
    (first.andThen second).map f = (first.map f).andThen (second.map f) := by
  cases second <;> rfl

@[simp] theorem assign_assign (field : Field α) (old : Option α) :
    field.assign (field.assign old) = field.assign old := by
  cases field <;> rfl

@[simp] theorem assignTo_assignTo (field : Field α) (old : α) :
    field.assignTo (field.assignTo old) = field.assignTo old := by
  cases field <;> rfl

@[simp] theorem map_undefined (f : α → β) : (undefined : Field α).map f = undefined := rfl

end Field

namespace SurveyData

def andThen (first second : SurveyData) : SurveyData where
  surveyId := first.surveyId.andThenTo second.surveyId
  status := first.status.andThenTo second.status
  dataQualityStatus := first.dataQualityStatus.andThenTo second.dataQualityStatus
  surveyedAt := first.surveyedAt.andThen second.surveyedAt
  wardId := first.wardId.andThenTo second.wardId
  isSlum := first.isSlum.andThenTo second.isSlum
  parcelNo := first.parcelNo.andThen second.parcelNo
  propertyNo := first.propertyNo.andThen second.propertyNo
  text column := (first.text column).andThen (second.text column)
  flag column := (first.flag column).andThen (second.flag column)
  area column := (first.area column).andThen (second.area column)
  totalWaterConnections := first.totalWaterConnections.andThen second.totalWaterConnections
  importJobId := first.importJobId.andThen second.importJobId
  createdById := first.createdById.andThen second.createdById
  updatedById := first.updatedById.andThen second.updatedById
  deletedAt := first.deletedAt.andThen second.deletedAt

/-- Two writes are one. -/
theorem applyTo_andThen (first second : SurveyData) (survey : Survey) :
    (first.andThen second).applyTo survey = second.applyTo (first.applyTo survey) := by
  simp [applyTo, andThen]

/-- A write made twice is a write made once. -/
theorem applyTo_applyTo (data : SurveyData) (survey : Survey) :
    data.applyTo (data.applyTo survey) = data.applyTo survey := by
  simp [applyTo]

/-- No data change nothing. -/
theorem applyTo_nothing (survey : Survey) : ({} : SurveyData).applyTo survey = survey := rfl

end SurveyData

/-- What the rows that were stored in a survey have written over it. -/
def writtenIn (id : Id) (done : List (ImportRow × Id)) : SurveyData :=
  (done.filter fun e => e.2 = id).foldl (fun data e => data.andThen (ImportRow.rewriteData e.1)) {}

/-- The floors that the last of them has left. -/
def floorsIn (id : Id) (done : List (ImportRow × Id)) : Option (List ParsedFloor) :=
  (done.filter fun e => e.2 = id).getLast?.map fun e => e.1.floors

section Written
variable {id : Id} {done : List (ImportRow × Id)} {row : ImportRow}

theorem writtenIn_self :
    writtenIn id (done ++ [(row, id)]) = (writtenIn id done).andThen (ImportRow.rewriteData row) := by
  simp [writtenIn, List.filter_append]

theorem writtenIn_of_ne {other : Id} (h : other ≠ id) :
    writtenIn id (done ++ [(row, other)]) = writtenIn id done := by
  simp [writtenIn, List.filter_append, h]

theorem floorsIn_self : floorsIn id (done ++ [(row, id)]) = some row.floors := by
  simp [floorsIn, List.filter_append]

theorem floorsIn_of_ne {other : Id} (h : other ≠ id) :
    floorsIn id (done ++ [(row, other)]) = floorsIn id done := by
  simp [floorsIn, List.filter_append, h]

theorem filter_eq_nil_of_not_mem (h : ∀ e ∈ done, e.2 ≠ id) :
    (done.filter fun e => e.2 = id) = [] := by
  simpa [List.filter_eq_nil_iff] using fun a b hab => h (a, b) hab

theorem writtenIn_of_not_mem (h : ∀ e ∈ done, e.2 ≠ id) : writtenIn id done = {} := by
  rw [writtenIn, filter_eq_nil_of_not_mem h]
  rfl

end Written

/-! ### What a row leaves behind -/

/-- The survey, as if another job had imported it. -/
def Survey.ofJob (survey : Survey) (importJobId : Option Id) : Survey := { survey with importJobId }

/-- A write goes through to the other columns, whichever job imported the survey. -/
theorem SurveyData.applyTo_ofJob (data : SurveyData) {s t : Survey}
    (h : s.ofJob none = t.ofJob none) :
    (data.applyTo s).ofJob none = (data.applyTo t).ofJob none := by
  have hBoth (survey : Survey) :
      (data.applyTo survey).ofJob none = (data.applyTo (survey.ofJob none)).ofJob none := rfl
  rw [hBoth s, h, ← hBoth t]

/-- Surveys that agree up to their job, and in it, are equal. -/
theorem Survey.eq_of_ofJob {s t : Survey} (h : s.ofJob none = t.ofJob none)
    (hJob : s.importJobId = t.importJobId) : s = t := by
  have hBack (survey : Survey) : (survey.ofJob none).ofJob survey.importJobId = survey := rfl
  rw [← hBack s, h, hJob, hBack t]

/-- The database takes the row. -/
def ImportRow.IsAccepted (row : ImportRow) : Prop :=
  (ImportRow.rewriteData row).isValid = true ∧ row.floors.all ParsedFloor.isStorable = true

/-- Writing the row over the survey would be accepted and change nothing but, it may be, the
job that the survey names. -/
structure IsIdle (row : ImportRow) (db : SurveyDb) (existing : Survey) : Prop where
  accepted : row.IsAccepted
  columns : ((ImportRow.rewriteData row).applyTo existing).ofJob none = existing.ofJob none
  floors : db.storedFloors existing.id = row.floors.map (ParsedFloor.toRow existing.id)

/-- Nothing is lost where the row is not written. -/
def SkipsIdle (state : ImportState) (row : ImportRow) : Prop :=
  ∀ existing, matchOf row state.db = some existing → isShortcut row existing = true →
    IsIdle row state.db existing

/-- Every floor is the floor of a survey, as its foreign key says. -/
def SurveyDb.References (db : SurveyDb) : Prop :=
  ∀ floor ∈ db.floors, (db.surveys.find? floor.surveyId).isSome

/-- The survey and its floors are as the row has written them, or would have but for the job. -/
structure Overwritten (row : ImportRow) (db db' : SurveyDb) (id : Id) : Prop where
  accepted : row.IsAccepted
  columns : ∃ old new, db'.surveys.find? id = some new ∧
    new.ofJob none = ((ImportRow.rewriteData row).applyTo old).ofJob none ∧
    ∀ survey, db.surveys.find? id = some survey → old = survey
  floors : db'.storedFloors id = row.floors.map (ParsedFloor.toRow id)
  otherColumns : ∀ other, other ≠ id → db'.surveys.find? other = db.surveys.find? other
  otherFloors : ∀ other, other ≠ id → db'.storedFloors other = db.storedFloors other

/-- On a survey that is not deleted, a row writes its own data. -/
theorem rewriteData_applyTo_new {row : ImportRow} (hParsed : row.IsParsed) {survey : Survey}
    (h : survey.deletedAt = none) :
    (ImportRow.rewriteData row).applyTo survey = row.payload.applyTo survey := by
  simp [ImportRow.rewriteData, SurveyData.applyTo, hParsed.status, hParsed.deletedAt, h]

/-- A row with valid data and storable floors is accepted. -/
theorem isAccepted_of_payload {row : ImportRow} (hValid : row.payload.isValid = true)
    (hFloors : row.floors.all ParsedFloor.isStorable = true) : row.IsAccepted := by
  refine ⟨?_, hFloors⟩
  simp only [SurveyData.isValid, ImportRow.rewriteData, Bool.and_eq_true] at hValid ⊢
  simp_all

/-- A stored row has overwritten its survey. -/
theorem StoredRow.overwritten {now : Timestamp} {row : ImportRow} {db db' : SurveyDb} {id : Id}
    (h : StoredRow now row db db' id) (hParsed : row.IsParsed) (hReferences : db.References)
    (hIdle : ∀ existing, matchOf row db = some existing → isShortcut row existing = true →
      IsIdle row db existing) : Overwritten row db db' id := by
  have hOthers := fun other (hne : other ≠ id) => h.find?_of_ne hne
  cases h
  case unchanged existing hMatch hShortcut =>
    have hIdle := hIdle existing hMatch hShortcut
    have hFound := find?_of_matchOf hMatch
    refine ⟨hIdle.accepted, ⟨existing, existing, hFound, hIdle.columns.symm, ?_⟩, hIdle.floors,
      hOthers, fun _ _ => rfl⟩
    intro survey hSurvey
    exact Option.some.inj (hFound.symm.trans hSurvey)
  case rewritten db₁ existing updated hMatch hShortcut hRun hSurveys hFloors =>
    have hKept : existing ∈ (db.deleteFloors existing.id).surveys.rows := matchOf_mem hMatch
    have hAccepted := SurveyDb.updateSurvey_valid hRun
    obtain ⟨rfl, hReplaced⟩ := SurveyDb.updateSurvey_of_mem hKept hRun
    obtain ⟨_, -, -, -, hRows, -⟩ := SurveyDb.updateSurvey_ok hRun
    refine ⟨hAccepted, ⟨existing, _, ?_, rfl, ?_⟩, ?_, hOthers, fun other hne => ?_⟩
    · rw [hSurveys]
      exact hReplaced.find?_new
    · intro survey hSurvey
      exact Option.some.inj ((find?_of_matchOf hMatch).symm.trans hSurvey)
    · rw [SurveyDb.storedFloors, hFloors, hRows, List.filter_append, filter_deleteFloors_self,
        filter_toRow_self, List.nil_append]
    · rw [SurveyDb.storedFloors, hFloors, hRows, List.filter_append, filter_deleteFloors_of_ne hne,
        filter_toRow_of_ne hne, List.append_nil]
  case inserted survey hMatch hRun =>
    obtain ⟨hValid, hStorable⟩ := SurveyDb.createSurvey_valid hRun
    obtain ⟨hAdded, hRows, -, surveyId, wardId, -, -, rfl⟩ := SurveyDb.createSurvey_ok hRun
    have hFresh : db.surveys.find? db.nextId = none :=
      find?_eq_none_iff.mpr fun other hOther => hAdded.key_ne hOther
    refine ⟨isAccepted_of_payload hValid hStorable,
      ⟨SurveyDb.newSurvey db.nextId surveyId wardId now, _, hAdded.find?_new, ?_,
        fun other hOther => ?_⟩, ?_, hOthers, fun other hne => ?_⟩
    · rw [rewriteData_applyTo_new hParsed rfl]
    · change db.surveys.find? db.nextId = some other at hOther
      rw [hFresh] at hOther
      cases hOther
    · have hNone : db.storedFloors db.nextId = [] := by
        rw [SurveyDb.storedFloors, List.filter_eq_nil_iff]
        intro floor hFloor hId
        have hSome := hReferences floor hFloor
        rw [of_decide_eq_true hId, hFresh] at hSome
        cases hSome
      change db'.storedFloors db.nextId = row.floors.map (ParsedFloor.toRow db.nextId)
      rw [SurveyDb.storedFloors, hRows, List.filter_append, filter_toRow_self]
      rw [SurveyDb.storedFloors] at hNone
      rw [hNone, List.nil_append]
    · have hne : other ≠ db.nextId := hne
      rw [SurveyDb.storedFloors, hRows, List.filter_append, filter_toRow_of_ne hne,
        List.append_nil, SurveyDb.storedFloors]

/-- After an overwritten survey, floors still have their surveys. -/
theorem Overwritten.references {row : ImportRow} {db db' : SurveyDb} {id : Id}
    (h : Overwritten row db db' id) (hReferences : db.References) : db'.References := by
  obtain ⟨_, _, hFound, -⟩ := h.columns
  intro floor hFloor
  by_cases hId : floor.surveyId = id
  · rw [hId, hFound]
    rfl
  · rw [h.otherColumns _ hId]
    have hStored : floor ∈ db'.storedFloors floor.surveyId :=
      List.mem_filter.mpr ⟨hFloor, by simp⟩
    rw [h.otherFloors _ hId] at hStored
    exact hReferences floor (List.mem_filter.mp hStored).1

/-! ### Runs -/

/-- Every survey is as the rows that were stored in it have left it, but for the job it names. -/
structure WrittenSince (start : SurveyDb) (state : ImportState) : Prop where
  references : state.db.References
  accepted : ∀ e ∈ state.done, e.1.IsAccepted
  present : ∀ e ∈ state.done, (state.db.surveys.find? e.2).isSome
  kept : ∀ id, (start.surveys.find? id).isSome → (state.db.surveys.find? id).isSome
  columns : ∀ id survey, state.db.surveys.find? id = some survey →
    ∃ old, survey.ofJob none = ((writtenIn id state.done).applyTo old).ofJob none ∧
      ∀ first, start.surveys.find? id = some first → old = first
  floors : ∀ id, state.db.storedFloors id =
    ((floorsIn id state.done).map fun floors => floors.map (ParsedFloor.toRow id)).getD
      (start.storedFloors id)

/-- The row is stored, or nothing is lost by not writing it. -/
structure StoredWhole (job : ImportJob) (now : Timestamp) (state : ImportState) (row : ImportRow) :
    Prop where
  isStored : IsStored job now state row
  isParsed : row.IsParsed
  ofJob : row.payload.importJobId = .value job.id
  skipsIdle : SkipsIdle state row

theorem writtenSince_start {start : SurveyDb} (hReferences : start.References) :
    WrittenSince start ⟨start, []⟩ where
  references := hReferences
  accepted e he := by cases he
  present e he := by cases he
  kept _ h := h
  columns id survey hSurvey := by
    refine ⟨survey, rfl, fun first hFirst => ?_⟩
    exact Option.some.inj (hSurvey.symm.trans hFirst)
  floors _ := rfl

theorem WrittenSince.step {job : ImportJob} {now : Timestamp} {start : SurveyDb}
    {state : ImportState} {row : ImportRow} (hUpdate : job.duplicateStrategy = .update)
    (h : WrittenSince start state) (hRow : StoredWhole job now state row) :
    WrittenSince start (importStep job now state row) := by
  obtain ⟨id, hDone, hStored⟩ := importStep_of_isStored hUpdate hRow.isStored
  have hOver := hStored.overwritten hRow.isParsed h.references hRow.skipsIdle
  obtain ⟨old, new, hFound, hNew, hOld⟩ := hOver.columns
  have hStays : ∀ other, (state.db.surveys.find? other).isSome →
      ((importStep job now state row).db.surveys.find? other).isSome := by
    intro other hSome
    by_cases hId : other = id
    · rw [hId, hFound]
      rfl
    · rwa [hOver.otherColumns other hId]
  refine ⟨hOver.references h.references, ?_, ?_, fun other hSome => hStays other (h.kept other hSome),
    ?_, ?_⟩
  · rw [hDone, List.forall_mem_append]
    exact ⟨h.accepted, by simpa using hOver.accepted⟩
  · rw [hDone, List.forall_mem_append]
    refine ⟨fun e he => hStays e.2 (h.present e he), ?_⟩
    simp [hFound]
  · intro other survey hSurvey
    rw [hDone]
    by_cases hId : other = id
    · subst hId
      obtain rfl := Option.some.inj (hFound.symm.trans hSurvey)
      rw [writtenIn_self, hNew]
      cases hBefore : state.db.surveys.find? other with
      | some before =>
          obtain ⟨first, hWritten, hFirst⟩ := h.columns other before hBefore
          refine ⟨first, ?_, hFirst⟩
          rw [SurveyData.applyTo_andThen, hOld before hBefore]
          exact SurveyData.applyTo_ofJob _ hWritten
      | none =>
          have hFresh : ∀ e ∈ state.done, e.2 ≠ other := by
            intro e he hId
            have hSome := h.present e he
            rw [hId, hBefore] at hSome
            cases hSome
          refine ⟨old, ?_, fun first hFirst => ?_⟩
          · rw [writtenIn_of_not_mem hFresh, SurveyData.applyTo_andThen, SurveyData.applyTo_nothing]
          · have hSome := h.kept other (by rw [hFirst]; rfl)
            rw [hBefore] at hSome
            cases hSome
    · rw [writtenIn_of_ne (Ne.symm hId)]
      rw [hOver.otherColumns other hId] at hSurvey
      exact h.columns other survey hSurvey
  · intro other
    rw [hDone]
    by_cases hId : other = id
    · subst hId
      rw [floorsIn_self, hOver.floors]
      rfl
    · rw [floorsIn_of_ne (Ne.symm hId), hOver.otherFloors other hId]
      exact h.floors other

/-- After a run, what was written are its rows. -/
theorem writtenSince_run {job : ImportJob} {now : Timestamp} {start : SurveyDb}
    {rows : List ImportRow} (hUpdate : job.duplicateStrategy = .update)
    (hReferences : start.References)
    (hAlong : Along (importStep job now) (StoredWhole job now) ⟨start, []⟩ rows) :
    WrittenSince start (run (importStep job now) ⟨start, []⟩ rows) :=
  run_invariant_along (WrittenSince start) (fun _ _ h hRow => h.step hUpdate hRow)
    (writtenSince_start hReferences) hAlong

/-! ### The second run -/

/-- The row meets the survey that it was stored in before. -/
def MeetsAgain (touched : List Id) (state : ImportState) (row : ImportRow) : Prop :=
  ∃ existing, matchOf row state.db = some existing ∧
    touched[state.done.length]? = some existing.id

/-- A row that was accepted is stored again where it has a match. -/
theorem isStored_of_match {job : ImportJob} {now : Timestamp} {state : ImportState}
    {row : ImportRow} {existing : Survey} (hUpdate : job.duplicateStrategy = .update)
    (hParsed : row.IsParsed) (hAccepted : row.IsAccepted)
    (hMatch : matchOf row state.db = some existing) : IsStored job now state row := by
  rcases storeRow_calm hUpdate now row state.db with ⟨db', outcome, -, hRun⟩ | ⟨error, -, hRefused⟩
  · exact ⟨_, outcome, hRun⟩
  · have hKept : existing ∈ (state.db.deleteFloors existing.id).surveys.rows := matchOf_mem hMatch
    obtain ⟨result, hOk⟩ := SurveyDb.updateSurvey_isOk hKept hAccepted.1 hAccepted.2
      fun other hOther hId => eq_of_matchOf hMatch hOther
        (by simpa [ImportRow.rewriteData, hParsed.surveyId] using hId)
    rw [hRefused existing hMatch] at hOk
    cases hOk

/-- Every row is stored where it was stored before, and no survey is added. -/
theorem run_meetsAgain {job : ImportJob} {now : Timestamp} {touched rest : List Id}
    {state : ImportState} {rows : List ImportRow} (hUpdate : job.duplicateStrategy = .update)
    (hRows : ∀ row ∈ rows, row.IsParsed ∧ row.IsAccepted)
    (hAgain : Along (importStep job now) (MeetsAgain touched) state rows)
    (hTouched : touched = state.done.map Prod.snd ++ rest) (hLength : rest.length = rows.length) :
    Along (importStep job now) (IsStored job now) state rows ∧
      (run (importStep job now) state rows).done.map Prod.snd = touched ∧
      ∀ id, state.db.surveys.find? id = none →
        (run (importStep job now) state rows).db.surveys.find? id = none := by
  induction rows generalizing state rest with
  | nil =>
      rw [List.length_nil, List.length_eq_zero_iff] at hLength
      refine ⟨trivial, ?_, fun _ h => h⟩
      rw [hTouched, hLength, List.append_nil]
      rfl
  | cons row rows ih =>
      obtain ⟨⟨existing, hMatch, hNext⟩, hAgain⟩ := hAgain
      obtain ⟨hParsed, hAccepted⟩ := hRows row List.mem_cons_self
      have hIsStored : IsStored job now state row := isStored_of_match hUpdate hParsed hAccepted hMatch
      obtain ⟨id, hDone, hStored⟩ := importStep_of_isStored hUpdate hIsStored
      obtain rfl : existing.id = id := by
        rcases hStored.origin with ⟨other, hOther, rfl⟩ | ⟨hNone, -⟩
        · rw [Option.some.inj (hMatch.symm.trans hOther)]
        · rw [hMatch] at hNone
          cases hNone
      cases rest with
      | nil => cases hLength
      | cons next rest =>
          obtain rfl : next = existing.id := by
            rw [hTouched, ← List.length_map (f := Prod.snd)] at hNext
            simpa using hNext
          have hTail := ih (fun r hr => hRows r (List.mem_cons_of_mem _ hr)) hAgain
            (by rw [hTouched, hDone]; simp) (Nat.succ.inj hLength)
          refine ⟨⟨hIsStored, hTail.1⟩, hTail.2.1, fun other hNone => hTail.2.2 other ?_⟩
          have hne : other ≠ existing.id := by
            intro hId
            rw [hId, find?_of_matchOf hMatch] at hNone
            cases hNone
          rw [hStored.find?_of_ne hne]
          exact hNone

/-! ### The jobs that the surveys name -/

section Jobs
variable {job : ImportJob} {now : Timestamp} {row : ImportRow} {db db' : SurveyDb} {id : Id}

/-- Data that name a job note it in the survey. -/
theorem importJobId_applyTo {data : SurveyData} {j : Id} (h : data.importJobId = .value j)
    (survey : Survey) : (data.applyTo survey).importJobId = some j := by
  simp [SurveyData.applyTo, h]

/-- A stored row leaves its survey alone, or notes its job there. -/
theorem StoredRow.noted (h : StoredRow now row db db' id)
    (hOf : row.payload.importJobId = .value job.id) :
    (∃ existing, db.surveys.find? id = some existing ∧ isShortcut row existing = true ∧
      db'.surveys.find? id = some existing) ∨
    (∃ survey, db'.surveys.find? id = some survey ∧ survey.importJobId = some job.id) ∧
      ∀ existing, db.surveys.find? id = some existing → isShortcut row existing = false := by
  cases h
  case unchanged existing hMatch hShortcut =>
    exact .inl ⟨existing, find?_of_matchOf hMatch, hShortcut, find?_of_matchOf hMatch⟩
  case rewritten db₁ existing updated hMatch hShortcut hRun hSurveys hFloors =>
    have hKept : existing ∈ (db.deleteFloors existing.id).surveys.rows := matchOf_mem hMatch
    obtain ⟨rfl, hReplaced⟩ := SurveyDb.updateSurvey_of_mem hKept hRun
    refine .inr ⟨⟨_, ?_, @importJobId_applyTo (ImportRow.rewriteData row) job.id hOf existing⟩,
      fun survey hSurvey => ?_⟩
    · rw [hSurveys]
      exact hReplaced.find?_new
    · rwa [← Option.some.inj ((find?_of_matchOf hMatch).symm.trans hSurvey)]
  case inserted survey hMatch hRun =>
    obtain ⟨hAdded, -, -, surveyId, wardId, -, -, rfl⟩ := SurveyDb.createSurvey_ok hRun
    have hFresh : db.surveys.find? db.nextId = none :=
      find?_eq_none_iff.mpr fun other hOther => hAdded.key_ne hOther
    refine .inr ⟨⟨_, hAdded.find?_new, importJobId_applyTo hOf _⟩, fun survey hSurvey => ?_⟩
    change db.surveys.find? db.nextId = some survey at hSurvey
    rw [hFresh] at hSurvey
    cases hSurvey

/-- The rows are stored, and name the job. -/
def StoredFor (job : ImportJob) (now : Timestamp) (state : ImportState) (row : ImportRow) : Prop :=
  IsStored job now state row ∧ row.payload.importJobId = .value job.id

/-- A survey that names another job was passed over by every row that met it. -/
def Noted (job : ImportJob) (state : ImportState) : Prop :=
  ∀ id survey, state.db.surveys.find? id = some survey → survey.importJobId = some job.id ∨
    ∀ e ∈ state.done, e.2 = id → isShortcut e.1 survey = true

theorem Noted.step {state : ImportState} (hUpdate : job.duplicateStrategy = .update)
    (h : Noted job state) (hRow : StoredFor job now state row) :
    Noted job (importStep job now state row) := by
  obtain ⟨hIsStored, hOf⟩ := hRow
  obtain ⟨id, hDone, hStored⟩ := importStep_of_isStored hUpdate hIsStored
  intro other survey hSurvey
  rw [hDone]
  by_cases hId : other = id
  · subst hId
    rcases hStored.noted hOf with ⟨existing, hBefore, hShortcut, hAfter⟩ | ⟨⟨new, hNew, hJob⟩, -⟩
    · obtain rfl := Option.some.inj (hAfter.symm.trans hSurvey)
      refine (h other existing hBefore).imp_right fun hPassed => ?_
      rw [List.forall_mem_append]
      exact ⟨hPassed, List.forall_mem_singleton.mpr fun _ => hShortcut⟩
    · obtain rfl := Option.some.inj (hNew.symm.trans hSurvey)
      exact .inl hJob
  · rw [hStored.find?_of_ne hId] at hSurvey
    refine (h other survey hSurvey).imp_right fun hPassed => ?_
    rw [List.forall_mem_append]
    exact ⟨hPassed, List.forall_mem_singleton.mpr fun hSame => absurd hSame.symm hId⟩

/-- A survey that all its rows pass over stays as it is. -/
theorem find?_of_shortcuts {middle : SurveyDb} {survey : Survey} {rows : List ImportRow}
    (hUpdate : job.duplicateStrategy = .update) (hFound : middle.surveys.find? id = some survey)
    (hAlong : Along (importStep job now) (StoredFor job now) ⟨middle, []⟩ rows)
    (hShort : ∀ e ∈ (run (importStep job now) ⟨middle, []⟩ rows).done, e.2 = id →
      isShortcut e.1 survey = true) :
    (run (importStep job now) ⟨middle, []⟩ rows).db.surveys.find? id = some survey := by
  have hKept : (∀ e ∈ (run (importStep job now) ⟨middle, []⟩ rows).done, e.2 = id →
      isShortcut e.1 survey = true) →
      (run (importStep job now) ⟨middle, []⟩ rows).db.surveys.find? id = some survey := by
    refine run_invariant_along (fun state : ImportState => (∀ e ∈ state.done, e.2 = id →
      isShortcut e.1 survey = true) → state.db.surveys.find? id = some survey)
      (fun state row h hRow hAll => ?_) (fun _ => hFound) hAlong
    obtain ⟨other, hDone, hStored⟩ := importStep_of_isStored hUpdate hRow.1
    rw [hDone, List.forall_mem_append, List.forall_mem_singleton] at hAll
    have hBefore := h hAll.1
    by_cases hId : id = other
    · subst hId
      rcases hStored.noted hRow.2 with ⟨existing, hOld, -, hAfter⟩ | ⟨-, hLong⟩
      · rw [hAfter, ← hOld, hBefore]
      · rw [hLong survey hBefore] at hAll
        exact absurd (hAll.2 rfl) Bool.false_ne_true
    · rw [hStored.find?_of_ne hId]
      exact hBefore
  exact hKept hShort

/-- A survey that names the job goes on to name it. -/
theorem importJobId_run {middle : SurveyDb} {rows : List ImportRow}
    (hUpdate : job.duplicateStrategy = .update)
    (hJob : ∀ survey, middle.surveys.find? id = some survey → survey.importJobId = some job.id)
    (hAlong : Along (importStep job now) (StoredFor job now) ⟨middle, []⟩ rows) :
    ∀ survey, (run (importStep job now) ⟨middle, []⟩ rows).db.surveys.find? id = some survey →
      survey.importJobId = some job.id := by
  refine run_invariant_along (fun state : ImportState => ∀ survey,
    state.db.surveys.find? id = some survey → survey.importJobId = some job.id)
    (fun state row h hRow survey hSurvey => ?_) hJob hAlong
  obtain ⟨other, -, hStored⟩ := importStep_of_isStored hUpdate hRow.1
  by_cases hId : id = other
  · subst hId
    rcases hStored.noted hRow.2 with ⟨existing, hBefore, -, hAfter⟩ | ⟨⟨new, hNew, hNamed⟩, -⟩
    · exact h survey (hBefore.trans (hAfter.symm.trans hSurvey))
    · rwa [← Option.some.inj (hNew.symm.trans hSurvey)]
  · rw [hStored.find?_of_ne hId] at hSurvey
    exact h survey hSurvey

end Jobs

/-- The surveys and their floors, key by key. -/
structure SameSurveys (db db' : SurveyDb) : Prop where
  surveys : ∀ id, db'.surveys.find? id = db.surveys.find? id
  floors : ∀ id, db'.floorsOf id = db.floorsOf id

/-- A survey with the same stored floors has the same floors. -/
theorem storedFloors_eq_floorsOf {db db' : SurveyDb} {id : Id}
    (h : db'.storedFloors id = db.storedFloors id) : db'.floorsOf id = db.floorsOf id := by
  unfold SurveyDb.storedFloors at h
  rw [SurveyDb.floorsOf, h, SurveyDb.floorsOf]

/-- The same rows, stored in the same surveys once more, change nothing. -/
theorem sameSurveys_of_rerun {start middle : SurveyDb} {first second : ImportState}
    (hFirst : WrittenSince start first) (hSecond : WrittenSince middle second)
    (hDone : second.done = first.done) (hFloors : middle.floors = first.db.floors)
    (hFound : ∀ e ∈ first.done, middle.surveys.find? e.2 = first.db.surveys.find? e.2)
    (hNone : ∀ id, middle.surveys.find? id = none → second.db.surveys.find? id = none)
    (hJobs : ∀ id survey last, middle.surveys.find? id = some survey →
      second.db.surveys.find? id = some last → last.importJobId = survey.importJobId) :
    SameSurveys middle second.db := by
  constructor
  · intro id
    cases hMiddle : middle.surveys.find? id with
    | none => exact hNone id hMiddle
    | some survey =>
        obtain ⟨last, hLast⟩ := Option.isSome_iff_exists.mp (hSecond.kept id (by rw [hMiddle]; rfl))
        obtain ⟨old, hWritten, hOld⟩ := hSecond.columns id last hLast
        obtain rfl := hOld survey hMiddle
        have hJob := hJobs id old last hMiddle hLast
        rw [hLast]
        refine congrArg some (Survey.eq_of_ofJob ?_ hJob)
        rw [hWritten, hDone]
        by_cases hTouched : ∃ e ∈ first.done, e.2 = id
        · obtain ⟨e, he, rfl⟩ := hTouched
          rw [hFound e he] at hMiddle
          obtain ⟨origin, hOrigin, -⟩ := hFirst.columns e.2 old hMiddle
          rw [SurveyData.applyTo_ofJob _ hOrigin, SurveyData.applyTo_applyTo, hOrigin]
        · have hUntouched : ∀ e ∈ first.done, e.2 ≠ id := fun e he hId => hTouched ⟨e, he, hId⟩
          rw [writtenIn_of_not_mem hUntouched, SurveyData.applyTo_nothing]
  · intro id
    apply storedFloors_eq_floorsOf
    rw [hSecond.floors id, hDone]
    cases hLast : floorsIn id first.done with
    | none => rfl
    | some floors =>
        have hBefore := hFirst.floors id
        rw [hLast] at hBefore
        rw [SurveyDb.storedFloors, hFloors]
        exact hBefore.symm

/-! ### Pruning twice -/

theorem prunedIds_congr {job : ImportJob} {pruneMissing : Bool} {first second : ImportProgress}
    {db : SurveyDb} (hFailed : second.failed = first.failed)
    (hTouched : second.touchedSurveyIds = first.touchedSurveyIds)
    (hWards : second.wardIdsSeen = first.wardIdsSeen) :
    prunedIds job pruneMissing second db = prunedIds job pruneMissing first db := by
  have hWard : shouldReconcileWardAfterImport job pruneMissing second =
      shouldReconcileWardAfterImport job pruneMissing first := by
    rw [shouldReconcileWardAfterImport, hFailed, hTouched, hWards, shouldReconcileWardAfterImport]
  rw [prunedIds, hWard, hTouched, prunedIds]

/-- A job that was not asked to prune marks nothing. -/
theorem prunedIds_false {job : ImportJob} (progress : ImportProgress) (db : SurveyDb) :
    prunedIds job false progress db = [] := rfl

/-- After the pruning there is nothing to prune. -/
theorem prunedIds_again {job : ImportJob} {pruneMissing : Bool} {progress : ImportProgress}
    {now : Timestamp} {db middle last : SurveyDb}
    (hMiddle : middle.surveys.rows =
      db.surveys.rows.map (markDeleted (prunedIds job pruneMissing progress db) now))
    (hLast : last.surveys.rows.Perm middle.surveys.rows) :
    prunedIds job pruneMissing progress last = [] := by
  unfold prunedIds at hMiddle ⊢
  cases hWard : shouldReconcileWardAfterImport job pruneMissing progress with
  | none => rfl
  | some ward =>
      rw [hWard] at hMiddle
      dsimp only at hMiddle ⊢
      rw [(hLast.filter (isOrphan ward progress.touchedSurveyIds)).length_eq]
      split_ifs at hMiddle with hPrune
      · -- The orphans are deleted now, and the others were none before.
        have hNone : middle.surveys.rows.filter (isOrphan ward progress.touchedSurveyIds) = [] := by
          rw [hMiddle, List.filter_eq_nil_iff]
          intro survey hSurvey
          obtain ⟨old, hOld, rfl⟩ := List.mem_map.mp hSurvey
          by_cases hOrphan : isOrphan ward progress.touchedSurveyIds old
          · have hId : old.id ∈ (db.surveys.rows.filter
                (isOrphan ward progress.touchedSurveyIds)).map Survey.id :=
              List.mem_map_of_mem (List.mem_filter.mpr ⟨hOld, hOrphan⟩)
            simp only [markDeleted, List.contains_iff_mem, if_pos hId]
            simp [isOrphan]
          · have hId : old.id ∉ (db.surveys.rows.filter
                (isOrphan ward progress.touchedSurveyIds)).map Survey.id := by
              intro hMem
              obtain ⟨other, hOther, hSame⟩ := List.mem_map.mp hMem
              obtain ⟨hMem, hOther⟩ := List.mem_filter.mp hOther
              rw [eq_of_key hMem hOld hSame] at hOther
              exact hOrphan hOther
            simp only [markDeleted, List.contains_iff_mem, if_neg hId]
            exact hOrphan
        rw [hNone]
        simp [shouldPruneOrphanCount]
      · rw [markDeleted_nil, List.map_id] at hMiddle
        rw [hMiddle, if_neg hPrune]

/-! ### Jobs -/

/-- The second run meets each survey where the first has stored its row, and
neither run passes over a row that would change something. -/
structure ReprocessesInPlace (job : ImportJob) (now later : Timestamp) (db middle : SurveyDb)
    (touched : List Id) (rows : List ImportRow) : Prop where
  first : Along (importStep job now) SkipsIdle ⟨db, []⟩ rows
  meetsAgain : Along (importStep job later) (MeetsAgain touched) ⟨middle, []⟩ rows
  second : Along (importStep job later) SkipsIdle ⟨middle, []⟩ rows

section Job
variable {env : Env} {job : ImportJob} {now : Timestamp} {pruneMissing : Bool}
  {sheet : Option Sheet} {db : SurveyDb} {after : SurveyState} {result : ImportResult}

/-- Marking a survey as deleted keeps its key. -/
theorem key_markDeleted (ids : List Id) (now : Timestamp) (survey : Survey) :
    (markDeleted ids now survey).id = survey.id := by
  unfold markDeleted
  split_ifs <;> rfl

/-- The pruning leaves the surveys of the rows alone. -/
theorem find?_pruned {middle : SurveyDb} {progress : ImportProgress}
    (hRows : middle.surveys.rows =
      db.surveys.rows.map (markDeleted (prunedIds job pruneMissing progress db) now))
    {id : Id} (hTouched : id ∈ progress.touchedSurveyIds) :
    middle.surveys.find? id = db.surveys.find? id := by
  rw [find?_of_rows_map (key_markDeleted _ now) hRows]
  cases hFound : db.surveys.find? id with
  | none => rfl
  | some survey =>
      have hId : survey.id = id := (find?_eq_some_iff.mp hFound).2
      have hKept : survey.id ∉ prunedIds job pruneMissing progress db :=
        hId ▸ not_mem_prunedIds hTouched
      simp [markDeleted, hKept]

/-- After pruning, floors still have their surveys. -/
theorem references_pruned {middle : SurveyDb} {progress : ImportProgress}
    (hRows : middle.surveys.rows =
      db.surveys.rows.map (markDeleted (prunedIds job pruneMissing progress db) now))
    (hFloors : middle.floors = db.floors) (hReferences : db.References) : middle.References := by
  intro floor hFloor
  rw [find?_of_rows_map (key_markDeleted _ now) hRows, Option.isSome_map]
  exact hReferences floor (hFloors ▸ hFloor)

variable {rows : List ImportRow}

/-- A file whose skipped rows are idle is stored whole. -/
theorem along_storedWhole
    (hParsed : ∀ row ∈ rows, row.IsParsed ∧ row.payload.importJobId = .value job.id)
    (hStored : Along (importStep job now) (IsStored job now) ⟨db, []⟩ rows)
    (hIdle : Along (importStep job now) SkipsIdle ⟨db, []⟩ rows) :
    Along (importStep job now) (StoredWhole job now) ⟨db, []⟩ rows :=
  ((along_of_forall _ hParsed).and (hStored.and hIdle)).mono fun _ _ h =>
    ⟨h.2.1, h.1.1, h.1.2, h.2.2⟩

/-- A file that is stored is stored for its job. -/
theorem along_storedFor
    (hParsed : ∀ row ∈ rows, row.IsParsed ∧ row.payload.importJobId = .value job.id)
    (hStored : Along (importStep job now) (IsStored job now) ⟨db, []⟩ rows) :
    Along (importStep job now) (StoredFor job now) ⟨db, []⟩ rows :=
  ((along_of_forall _ hParsed).and hStored).mono fun _ _ h => ⟨h.2, h.1.2⟩

/-- The rows of a file name its job. -/
theorem fileRows_ofJob :
    ∀ row ∈ fileRows env job sheet, row.IsParsed ∧ row.payload.importJobId = .value job.id := by
  intro row hRow
  refine ⟨fileRows_isParsed row hRow, ?_⟩
  unfold fileRows at hRow
  split at hRow
  next loaded _ =>
    obtain ⟨values, -, hValues⟩ := List.mem_filterMap.mp hRow
    unfold rowOf at hValues
    split_ifs at hValues
    obtain ⟨-, -, -, -, -, hPayload, -⟩ := parseRow_ok (ok_of_toOption hValues)
    rw [hPayload, rowPayload]
  next => cases hRow

/-- The rows once more, over what the first run and its pruning have left. -/
theorem rerun_sameSurveys {later : Timestamp} {middle : SurveyDb}
    (hUpdate : job.duplicateStrategy = .update)
    (hParsed : ∀ row ∈ rows, row.IsParsed ∧ row.payload.importJobId = .value job.id)
    (hReferences : db.References)
    (hStored : Along (importStep job now) (IsStored job now) ⟨db, []⟩ rows)
    (hMiddle : middle.References)
    (hFloors : middle.floors = (run (importStep job now) ⟨db, []⟩ rows).db.floors)
    (hFound : ∀ e ∈ (run (importStep job now) ⟨db, []⟩ rows).done, middle.surveys.find? e.2 =
      (run (importStep job now) ⟨db, []⟩ rows).db.surveys.find? e.2)
    (h : ReprocessesInPlace job now later db middle
      ((run (importStep job now) ⟨db, []⟩ rows).done.map Prod.snd) rows) :
    Along (importStep job later) (IsStored job later) ⟨middle, []⟩ rows ∧
      (run (importStep job later) ⟨middle, []⟩ rows).done =
        (run (importStep job now) ⟨db, []⟩ rows).done ∧
      SameSurveys middle (run (importStep job later) ⟨middle, []⟩ rows).db := by
  have hWritten := writtenSince_run hUpdate hReferences (along_storedWhole hParsed hStored h.first)
  obtain ⟨done, hDone, hFst⟩ := done_run hUpdate hStored
  rw [List.nil_append] at hDone
  have hRows : ∀ row ∈ rows, row.IsParsed ∧ row.IsAccepted := by
    intro row hRow
    rw [← hFst] at hRow
    obtain ⟨e, he, rfl⟩ := List.mem_map.mp hRow
    exact ⟨(hParsed e.1 (hFst ▸ List.mem_map_of_mem he)).1, hWritten.accepted e (hDone ▸ he)⟩
  have hLength : ((run (importStep job now) ⟨db, []⟩ rows).done.map Prod.snd).length =
      rows.length := by
    rw [hDone, ← hFst, List.length_map, List.length_map]
  obtain ⟨hAgain, hSnd', hNone⟩ := run_meetsAgain hUpdate hRows h.meetsAgain rfl hLength
  obtain ⟨done', hDone', hFst'⟩ := done_run hUpdate hAgain
  rw [List.nil_append] at hDone'
  have hSame : (run (importStep job later) ⟨middle, []⟩ rows).done =
      (run (importStep job now) ⟨db, []⟩ rows).done := by
    have hFst : (run (importStep job now) ⟨db, []⟩ rows).done.map Prod.fst = rows := hDone ▸ hFst
    have hFst' : (run (importStep job later) ⟨middle, []⟩ rows).done.map Prod.fst = rows :=
      hDone' ▸ hFst'
    exact (List.zip_of_prod hFst' hSnd').trans (List.zip_of_prod hFst rfl).symm
  have hWritten' := writtenSince_run hUpdate hMiddle (along_storedWhole hParsed hAgain h.second)
  refine ⟨hAgain, hSame, sameSurveys_of_rerun hWritten hWritten' hSame hFloors hFound hNone ?_⟩
  intro id survey last hSurvey hLast
  have hNoted : Noted job (run (importStep job now) ⟨db, []⟩ rows) :=
    run_invariant_along (Noted job) (fun _ _ h hRow => h.step hUpdate hRow)
      (fun _ _ _ => .inr fun _ he => absurd he List.not_mem_nil) (along_storedFor hParsed hStored)
  have hKept (hShort : ∀ e ∈ (run (importStep job now) ⟨db, []⟩ rows).done, e.2 = id →
      isShortcut e.1 survey = true) : last.importJobId = survey.importJobId := by
    have hSameSurvey := find?_of_shortcuts hUpdate hSurvey (along_storedFor hParsed hAgain)
      (hSame ▸ hShort)
    rw [Option.some.inj (hSameSurvey.symm.trans hLast)]
  by_cases hTouched : ∃ e ∈ (run (importStep job now) ⟨db, []⟩ rows).done, e.2 = id
  · obtain ⟨e, he, rfl⟩ := hTouched
    rcases hNoted e.2 survey (hFound e he ▸ hSurvey) with hJob | hShort
    · rw [hJob]
      refine importJobId_run hUpdate (fun other hOther => ?_) (along_storedFor hParsed hAgain) last
        hLast
      rwa [← Option.some.inj (hSurvey.symm.trans hOther)]
    · exact hKept hShort
  · exact hKept fun e he hId => absurd ⟨e, he, hId⟩ hTouched

/-- An UPDATE job without a failed row keeps its rows apart exactly as far as
no row meets a survey of another property; and run again it changes nothing,
as long as every row meets its own survey again. The second run does not prune, as
`reprocessJob` starts it, or prunes as the first has. -/
theorem updateJob_keeps_rows (hUpdate : job.duplicateStrategy = .update)
    (hReferences : db.References)
    (hJob : processJob env job now pruneMissing sheet ⟨db, []⟩ = (after, .ok result))
    (hFailed : result.progress.failed = 0) :
    (RowsKept (fileRows env job sheet)
        ((fileRows env job sheet).zip result.progress.touchedSurveyIds) after.db ↔
      ImportsApart job now db (fileRows env job sheet)) ∧
    ∀ later again, (again = true → pruneMissing = true) →
      ReprocessesInPlace job now later db after.db result.progress.touchedSurveyIds
        (fileRows env job sheet) →
      SameSurveys after.db ((processJob env job later again sheet).after ⟨after.db, []⟩).db := by
  obtain ⟨loaded, hLoaded⟩ := loaded_of_processJob hJob
  obtain ⟨middle, progress, hFirst, hStoredIff, hRun⟩ :=
    processJob_calm hUpdate hLoaded now pruneMissing db
  rw [hJob] at hFirst
  obtain ⟨rfl, hResult⟩ := Prod.mk.inj hFirst
  obtain rfl := Except.ok.inj hResult
  obtain ⟨hParses, hStored⟩ := hStoredIff.mp hFailed
  obtain ⟨hTracks, hFloors, hRows⟩ := hRun hFailed
  obtain ⟨done, hDone, hFst⟩ := done_run hUpdate hStored
  rw [List.nil_append] at hDone
  have hZip : (fileRows env job sheet).zip result.progress.touchedSurveyIds =
      (run (importStep job now) ⟨db, []⟩ (fileRows env job sheet)).done :=
    (List.zip_of_prod (hDone ▸ hFst) hTracks.touched.symm).symm
  have hFound : ∀ e ∈ (run (importStep job now) ⟨db, []⟩ (fileRows env job sheet)).done,
      middle.surveys.find? e.2 =
        (run (importStep job now) ⟨db, []⟩ (fileRows env job sheet)).db.surveys.find? e.2 := by
    intro e he
    refine find?_pruned hRows ?_
    rw [hTracks.touched]
    exact List.mem_map_of_mem he
  refine ⟨?_, fun later again hPrunes h => ?_⟩
  · rw [hZip, RowsKept.congr hFound]
    exact rowsKept_iff hUpdate fileRows_isParsed hStored
  · have hMiddle : middle.References :=
      references_pruned hRows hFloors (writtenSince_run hUpdate hReferences
        (along_storedWhole fileRows_ofJob hStored h.first)).references
    obtain ⟨hAgain, hSameDone, hSame⟩ := rerun_sameSurveys hUpdate fileRows_ofJob hReferences
      hStored hMiddle hFloors hFound (hTracks.touched ▸ h)
    obtain ⟨last, progress', hSecond, hSecondIff, hSecondRun⟩ :=
      processJob_calm hUpdate hLoaded later again middle
    have hFailed' := hSecondIff.mpr ⟨hParses, hAgain⟩
    obtain ⟨hTracks', hFloors', hRows'⟩ := hSecondRun hFailed'
    have hTouched' : progress'.progress.touchedSurveyIds = result.progress.touchedSurveyIds := by
      rw [hTracks'.touched, hTracks.touched, hSameDone]
    have hWards' : progress'.progress.wardIdsSeen = result.progress.wardIdsSeen := by
      rw [hTracks'.wards, hTracks.wards, hSameDone]
    have hPruned : prunedIds job again progress'.progress
        (run (importStep job later) ⟨middle, []⟩ (fileRows env job sheet)).db = [] := by
      cases again with
      | false => exact prunedIds_false _ _
      | true =>
          rw [prunedIds_congr (hFailed'.trans hFailed.symm) hTouched' hWards', ← hPrunes rfl]
          exact prunedIds_again hRows (perm_of_find? hSame.surveys)
    rw [hPruned, markDeleted_nil, List.map_id] at hRows'
    rw [Scripts.Script.after, hSecond]
    constructor
    · intro id
      rw [← hSame.surveys id, find?, hRows', find?]
    · intro id
      rw [← hSame.floors id, SurveyDb.floorsOf, hFloors', SurveyDb.floorsOf]

end Job
namespace Sample

def updateJob : ImportJob := ⟨7, .update, none⟩

/-- Rows of a Ward 1 workbook: the Survey Id, the owner, both numbers, and a
plot of 400 square feet. -/
def propertySheet (rows : List (String × String × String × String)) : Sheet where
  header := (["Survey Id", "Date Of Survey", "Owner Name", "Owner Father Name", "Mobile No",
    "Ward Name", "Is Slum", "Parcel No", "Property No"].map fun header => .string header.toList) ++
      List.replicate 16 .null ++ [.string "Plot Area (Sq Ft)".toList]
  rows := rows.map fun row => [.string row.1.toList, .null, .string row.2.1.toList, .null, .null,
    .null, .null, .string row.2.2.1.toList, .string row.2.2.2.toList] ++
      List.replicate 16 .null ++ [.number 400]

/-- The second row has the Survey Id of the first. -/
def repeatedId : Sheet := propertySheet
  [("249044-001-000001-001-R", "Asha", "1", "1"), ("249044-001-000001-001-R", "Ravi", "2", "1")]

def oneProperty : Sheet := propertySheet [("249044-001-000001-001-R", "Asha", "1", "1")]

/-- The result, and the database it is reached in. -/
def updated (sheet : Sheet) : SurveyState × Except SurveyError ImportResult :=
  processJob firstWard updateJob 0 false (some sheet) ⟨SurveyDb.empty, []⟩

theorem updated_repeatedId :
    (updated repeatedId).2.toOption.map (fun result =>
      (result.progress.failed, result.progress.touchedSurveyIds)) = some (0, [0, 0]) ∧
    (fileRows firstWard updateJob (some repeatedId)).map ImportRow.property =
      [(1, some "000001".toList, some "001".toList), (1, some "000002".toList, some "001".toList)] := by
  decide +kernel

end Sample

/-- Two properties under one Survey Id end in one survey. -/
theorem updateJob_collapses_rows : ¬ ∀ (env : Env) (job : ImportJob) (now : Timestamp)
    (pruneMissing : Bool) (sheet : Option Sheet) (db : SurveyDb) (after : SurveyState)
    (result : ImportResult), job.duplicateStrategy = .update → db.References →
    processJob env job now pruneMissing sheet ⟨db, []⟩ = (after, .ok result) →
    result.progress.failed = 0 →
      RowsKept (fileRows env job sheet)
        ((fileRows env job sheet).zip result.progress.touchedSurveyIds) after.db ∧
      ∀ later, SameSurveys after.db
        ((processJob env job later false sheet).after ⟨after.db, []⟩).db := by
  intro hLaw
  obtain ⟨hResult, hProperties⟩ := Sample.updated_repeatedId
  cases hRun : Sample.updated Sample.repeatedId with
  | mk after outcome =>
      rw [hRun] at hResult
      cases outcome with
      | error error => cases hResult
      | ok result =>
          obtain ⟨hFailed, hTouched⟩ := Prod.mk.inj (Option.some.inj hResult)
          have hKept := (hLaw _ _ _ _ _ _ after result rfl (fun floor h => by cases h) hRun hFailed).1
          rw [show result.progress.touchedSurveyIds = [0, 0] from hTouched] at hKept
          obtain ⟨first, second, hRows⟩ := List.length_eq_two.mp
            (by simpa using congrArg List.length hProperties)
          rw [hRows] at hKept hProperties
          simp only [List.map_cons, List.map_nil, List.cons.injEq, and_true] at hProperties
          refine hKept.apart (first, 0) (by simp) (second, 0) (by simp) ?_ rfl
          rw [hProperties.1, hProperties.2]
          decide

/-! ### What can be evaluated -/

section Decisions
variable {row : ImportRow} {db : SurveyDb} {state : ImportState} {existing : Survey}
  {touched : List Id}

instance : Decidable row.IsAccepted := inferInstanceAs (Decidable (_ ∧ _))

/-- Surveys are compared column by column: equal functions need not be the same term. -/
theorem Survey.eq_iff (s t : Survey) : s = t ↔
    (s.id = t.id ∧ s.surveyId = t.surveyId ∧ s.status = t.status ∧
      s.dataQualityStatus = t.dataQualityStatus ∧ s.surveyedAt = t.surveyedAt ∧
      s.wardId = t.wardId ∧ s.isSlum = t.isSlum) ∧
    (s.parcelNo = t.parcelNo ∧ s.propertyNo = t.propertyNo ∧
      (∀ column, s.text column = t.text column) ∧ (∀ column, s.flag column = t.flag column) ∧
      ∀ column, s.area column = t.area column) ∧
    s.totalWaterConnections = t.totalWaterConnections ∧ s.importJobId = t.importJobId ∧
    s.createdById = t.createdById ∧ s.updatedById = t.updatedById ∧
    s.deletedAt = t.deletedAt ∧ s.createdAt = t.createdAt := by
  constructor
  · rintro rfl
    simp
  · intro h
    obtain ⟨⟩ := s
    obtain ⟨⟩ := t
    simp only [← funext_iff] at h
    obtain ⟨⟨rfl, rfl, rfl, rfl, rfl, rfl, rfl⟩, ⟨rfl, rfl, rfl, rfl, rfl⟩, rfl, rfl, rfl, rfl, rfl,
      rfl⟩ := h
    rfl

instance : Decidable (IsIdle row db existing) :=
  decidable_of_iff (row.IsAccepted ∧
    db.storedFloors existing.id = row.floors.map (ParsedFloor.toRow existing.id) ∧ _)
    ⟨fun h => ⟨h.1, (Survey.eq_iff _ _).mpr h.2.2, h.2.1⟩,
      fun h => ⟨h.accepted, h.floors, (Survey.eq_iff _ _).mp h.columns⟩⟩

instance : Decidable (SkipsIdle state row) :=
  inferInstanceAs (Decidable (∀ existing ∈ matchOf row state.db, isShortcut row existing = true →
    IsIdle row state.db existing))

instance : Decidable (MeetsAgain touched state row) :=
  inferInstanceAs (Decidable (∃ existing ∈ matchOf row state.db,
    touched[state.done.length]? = some existing.id))

instance : Decidable (MeetsOwn state row) :=
  inferInstanceAs (Decidable (∀ existing ∈ matchOf row state.db,
    ∀ e ∈ state.done, e.2 = existing.id → e.1.property = row.property))

instance : Decidable (HasOwnerOf row existing) :=
  inferInstanceAs (Decidable (∀ column ∈ OWNER_COLUMNS, _ = _))

instance : Decidable (OwnersUpToDate state row) :=
  decidable_of_iff ((∀ e ∈ state.done, e.1.property = row.property →
      (∀ existing ∈ matchOf row state.db, e.2 ≠ existing.id) →
        ∃ survey ∈ state.db.surveys.find? e.2, HasOwnerOf row survey) ∧
    ∀ existing ∈ matchOf row state.db, isShortcut row existing = true →
      existing.text .ownerAadhaar = (row.payload.text .ownerAadhaar).toOption)
    ⟨fun h => ⟨h.1, h.2⟩, fun h => ⟨h.others, h.own⟩⟩

instance : Decidable db.References :=
  inferInstanceAs (Decidable (∀ floor ∈ db.floors, (db.surveys.find? floor.surveyId).isSome))

end Decisions

namespace Sample

/-- Houses of the first ward, by Survey Id and owner. -/
def houses (rows : List (String × String)) : Sheet where
  header := ["Survey Id", "Date Of Survey", "Owner Name"].map fun header => .string header.toList
  rows := rows.map fun row => [.string row.1.toList, .null, .string row.2.toList]

/-- A house, as an earlier job has imported it. -/
def importedBefore : SurveyDb :=
  (processJob firstWard ⟨3, .update, none⟩ 0 false
    (some (houses [("249044-001-000001-001-R", "Asha")])) ⟨SurveyDb.empty, []⟩).1.db

def twoProperties : Sheet :=
  houses [("249044-001-000001-001-R", "Asha"), ("249044-001-000002-001-R", "Ravi")]

def importedAgain : SurveyState × Except SurveyError ImportResult :=
  processJob firstWard updateJob 0 false (some twoProperties) ⟨importedBefore, []⟩

/-- The first row changes nothing, and its survey goes on to name the earlier job. -/
theorem importedAgain_result :
    importedAgain.2.toOption.map (fun result =>
      (result.progress.failed, result.progress.touchedSurveyIds)) = some (0, [0, 1]) ∧
    importedAgain.1.db.surveys.rows.map Survey.importJobId = [some 3, some 7] := by
  decide

theorem importedAgain_idle :
    (Along (importStep updateJob 0) MeetsOwn ⟨importedBefore, []⟩
      (fileRows firstWard updateJob (some twoProperties)) ∧
    Along (importStep updateJob 0) OwnersUpToDate ⟨importedBefore, []⟩
      (fileRows firstWard updateJob (some twoProperties))) ∧
    Along (importStep updateJob 0) SkipsIdle ⟨importedBefore, []⟩
      (fileRows firstWard updateJob (some twoProperties)) ∧
    Along (importStep updateJob 1) (MeetsAgain [0, 1]) ⟨importedAgain.1.db, []⟩
      (fileRows firstWard updateJob (some twoProperties)) ∧
    Along (importStep updateJob 1) SkipsIdle ⟨importedAgain.1.db, []⟩
      (fileRows firstWard updateJob (some twoProperties)) := by
  decide

end Sample

/-- Of two properties one was imported before, by another job: nothing of it changes, neither
in this job nor in its second run. -/
theorem updateJob_keeps_rows_two : ∃ after result,
    processJob Sample.firstWard Sample.updateJob 0 false (some Sample.twoProperties)
      ⟨Sample.importedBefore, []⟩ = (after, .ok result) ∧
    RowsKept (fileRows Sample.firstWard Sample.updateJob (some Sample.twoProperties))
      ((fileRows Sample.firstWard Sample.updateJob (some Sample.twoProperties)).zip
        result.progress.touchedSurveyIds) after.db ∧
    SameSurveys after.db ((processJob Sample.firstWard Sample.updateJob 1 false
      (some Sample.twoProperties)).after ⟨after.db, []⟩).db := by
  obtain ⟨hResult, -⟩ := Sample.importedAgain_result
  obtain ⟨⟨hOwn, hOwners⟩, hFirst, hAgain, hSecond⟩ := Sample.importedAgain_idle
  obtain ⟨result, hResult, hPair⟩ := Option.map_eq_some_iff.mp hResult
  obtain ⟨hFailed, hTouched⟩ := Prod.mk.inj hPair
  have hTouched : result.progress.touchedSurveyIds = [0, 1] := hTouched
  have hRun : Sample.importedAgain = (Sample.importedAgain.1, .ok result) := by
    rw [← ok_of_toOption hResult]
  have hReferences : Sample.importedBefore.References := by decide
  obtain ⟨hKept, hSame⟩ := updateJob_keeps_rows rfl hReferences hRun hFailed
  refine ⟨_, result, hRun, hKept.mpr ⟨hOwn, ?_⟩, hSame 1 false nofun ?_⟩
  · exact fun before row later hSplit _ => along_iff_forall.mp hOwners before row later hSplit
  · rw [hTouched]
    exact ⟨hFirst, hAgain, hSecond⟩

end PropertyTax.Surveys
