import Mathlib.Data.List.Sort
import PropertyTax.Surveys.Commits

/-! The floors that are billed are the floors of the text. Every commit that
writes the text of a survey writes its floor rows with it, so no failure can
come in between. -/
namespace PropertyTax.Surveys
open KeyedTable SurveysService ImportsService

/-- The rows that the text of a survey stands for. -/
def Survey.floorRows (survey : Survey) : List SurveyFloor :=
  (parseFloorsRaw (survey.text .floorsRaw)).map (ParsedFloor.toRow survey.id)

/-- The stored rows, in the order they were written in. -/
def SurveyDb.storedFloors (db : SurveyDb) (id : Id) : List SurveyFloor :=
  db.floors.filter fun floor => floor.surveyId = id

structure FloorsRecorded (db : SurveyDb) : Prop where
  surveysBelow : ∀ survey ∈ db.surveys.rows, survey.id < db.nextId
  floorsBelow : ∀ floor ∈ db.floors, floor.surveyId < db.nextId
  recorded : ∀ survey ∈ db.surveys.rows, db.storedFloors survey.id = survey.floorRows

/-! ### Rows of a text -/

/-- Floors are numbered in the order of the text. -/
theorem parseFloorsRaw_sorted (text : Option Text) :
    (parseFloorsRaw text).Pairwise fun a b => a.sortOrder ≤ b.sortOrder := by
  unfold parseFloorsRaw
  dsimp only
  split_ifs
  · exact .nil
  · rw [List.pairwise_iff_getElem]
    intro i j hi hj hij
    simp only [List.getElem_mapIdx, parseSegment]
    omega

/-- A cell without text has no floors, like a missing text. -/
theorem parseFloorsRaw_filled (text : Text) :
    parseFloorsRaw (filled text) = parseFloorsRaw (some text) := by
  unfold filled
  split_ifs with hEmpty
  · rw [List.isEmpty_iff.mp hEmpty]
    rfl
  · rfl

section Stored
variable {db : SurveyDb} {id other : Id} {floors : List ParsedFloor}

theorem filter_toRow_self :
    (floors.map (ParsedFloor.toRow id)).filter (fun floor => floor.surveyId = id) =
      floors.map (ParsedFloor.toRow id) := by
  simp [List.filter_map, Function.comp_def, ParsedFloor.toRow]

theorem filter_toRow_of_ne (h : other ≠ id) :
    (floors.map (ParsedFloor.toRow id)).filter (fun floor => floor.surveyId = other) = [] := by
  simp [List.filter_map, Function.comp_def, ParsedFloor.toRow, h.symm]

theorem filter_deleteFloors_self :
    (db.deleteFloors id).floors.filter (fun floor => floor.surveyId = id) = [] := by
  simp [SurveyDb.deleteFloors, List.filter_filter]

theorem filter_deleteFloors_of_ne (h : other ≠ id) :
    (db.deleteFloors id).floors.filter (fun floor => floor.surveyId = other) =
      db.storedFloors other := by
  rw [SurveyDb.deleteFloors, SurveyDb.storedFloors, List.filter_filter]
  apply List.filter_congr
  intro floor _
  by_cases hFloor : floor.surveyId = other <;> simp [hFloor, h]

end Stored

/-! ### What a commit does to the floors -/

variable {db db' : SurveyDb}

/-- A survey is added, with the rows of its text. -/
theorem FloorsRecorded.added {survey : Survey} {floors : List ParsedFloor}
    (h : FloorsRecorded db) (hAdded : Added db.surveys db'.surveys survey)
    (hId : survey.id = db.nextId) (hNext : db'.nextId = db.nextId + 1)
    (hFloors : db'.floors = db.floors ++ floors.map (ParsedFloor.toRow db.nextId))
    (hText : floors = parseFloorsRaw (survey.text .floorsRaw)) : FloorsRecorded db' where
  surveysBelow := by
    rw [hNext]
    refine hAdded.forall_rows (fun s hs => Nat.lt_succ_of_lt (h.surveysBelow s hs)) ?_
    rw [hId]
    exact Nat.lt_succ_self db.nextId
  floorsBelow := by
    intro floor hFloor
    rw [hNext]
    rw [hFloors] at hFloor
    rcases List.mem_append.mp hFloor with hOld | hNew
    · exact Nat.lt_succ_of_lt (h.floorsBelow floor hOld)
    · obtain ⟨parsed, -, rfl⟩ := List.mem_map.mp hNew
      exact Nat.lt_succ_self db.nextId
  recorded := by
    refine hAdded.forall_rows (fun s hs => ?_) ?_
    · have hNe : s.id ≠ db.nextId := (h.surveysBelow s hs).ne
      rw [SurveyDb.storedFloors, hFloors, List.filter_append, filter_toRow_of_ne hNe,
        List.append_nil]
      exact h.recorded s hs
    · have hNone : db.storedFloors db.nextId = [] := by
        rw [SurveyDb.storedFloors, List.filter_eq_nil_iff]
        intro floor hFloor
        simpa using (h.floorsBelow floor hFloor).ne
      rw [SurveyDb.storedFloors, hId, hFloors, List.filter_append, filter_toRow_self]
      change db.storedFloors db.nextId ++ _ = _
      rw [hNone, List.nil_append, Survey.floorRows, hText, hId]

/-- A survey is rewritten; its rows are those of its new text, and the rows of
the others stay. -/
theorem FloorsRecorded.replaced {old new : Survey} (h : FloorsRecorded db)
    (hReplaced : Replaced db.surveys db'.surveys old new) (hNext : db'.nextId = db.nextId)
    (hBelow : ∀ floor ∈ db'.floors, floor ∈ db.floors ∨ floor.surveyId = old.id)
    (hOthers : ∀ id, id ≠ old.id → db'.storedFloors id = db.storedFloors id)
    (hOwn : db'.storedFloors old.id = new.floorRows) : FloorsRecorded db' where
  surveysBelow := by
    rw [hNext]
    refine hReplaced.forall_rows h.surveysBelow ?_
    have hId : new.id = old.id := hReplaced.key_eq
    rw [hId]
    exact h.surveysBelow old hReplaced.mem_old
  floorsBelow := by
    intro floor hFloor
    rw [hNext]
    rcases hBelow floor hFloor with hOld | hOwn
    · exact h.floorsBelow floor hOld
    · rw [hOwn]
      exact h.surveysBelow old hReplaced.mem_old
  recorded := by
    intro survey hSurvey
    rcases (hReplaced.mem_iff survey).mp hSurvey with ⟨hOld, hKey⟩ | rfl
    · rw [hOthers survey.id hKey]
      exact h.recorded survey hOld
    · have hId : survey.id = old.id := hReplaced.key_eq
      rw [hId]
      exact hOwn

/-- The text is not written, and no row either. -/
theorem FloorsRecorded.kept {old : Survey} {data : SurveyData} {survey : Survey}
    (h : FloorsRecorded db) (hOld : old ∈ db.surveys.rows)
    (hUpdate : db.updateSurvey old.id data [] = .ok (db', survey))
    (hText : data.text .floorsRaw = .undefined) : FloorsRecorded db' := by
  obtain ⟨rfl, hReplaced⟩ := SurveyDb.updateSurvey_of_mem hOld hUpdate
  obtain ⟨_, -, -, -, hFloors, hNext⟩ := SurveyDb.updateSurvey_ok hUpdate
  have hFloors : db'.floors = db.floors := by simpa using hFloors
  have hSame : ∀ id, db'.storedFloors id = db.storedFloors id := by
    intro id
    rw [SurveyDb.storedFloors, hFloors, SurveyDb.storedFloors]
  refine h.replaced hReplaced hNext (fun floor hFloor => .inl (hFloors ▸ hFloor))
    (fun id _ => hSame id) ?_
  rw [hSame, h.recorded old hOld]
  simp [Survey.floorRows, SurveyData.applyTo, hText]

/-- The old rows are deleted, and those of the new text are created. -/
theorem FloorsRecorded.rewritten {old : Survey} {data : SurveyData} {floors : List ParsedFloor}
    {survey : Survey} (h : FloorsRecorded db) (hOld : old ∈ db.surveys.rows)
    (hUpdate : (db.deleteFloors old.id).updateSurvey old.id data floors = .ok (db', survey))
    (hText : floors = parseFloorsRaw ((data.text .floorsRaw).assign (old.text .floorsRaw))) :
    FloorsRecorded db' := by
  have hKept : old ∈ (db.deleteFloors old.id).surveys.rows := hOld
  obtain ⟨rfl, hReplaced⟩ := SurveyDb.updateSurvey_of_mem hKept hUpdate
  obtain ⟨_, -, -, -, hFloors, hNext⟩ := SurveyDb.updateSurvey_ok hUpdate
  refine h.replaced hReplaced hNext (fun floor hFloor => ?_) (fun id hId => ?_) ?_
  · rw [hFloors] at hFloor
    rcases List.mem_append.mp hFloor with hKept | hNew
    · exact .inl (List.mem_filter.mp hKept).1
    · obtain ⟨parsed, -, rfl⟩ := List.mem_map.mp hNew
      exact .inr rfl
  · rw [SurveyDb.storedFloors, hFloors, List.filter_append, filter_deleteFloors_of_ne hId,
      filter_toRow_of_ne hId, List.append_nil]
  · rw [SurveyDb.storedFloors, hFloors, List.filter_append, filter_deleteFloors_self,
      filter_toRow_self, List.nil_append, hText]
    rfl

/-! ### The invariant -/

/-- Every transaction keeps the floors recorded. -/
theorem commit_floorsRecorded {env : Env} {dtos : SurveyDto → Prop} {rows : RowCells → Prop}
    (h : FloorsRecorded db)
    (hCommit : Commit env dtos rows db db') : FloorsRecorded db' := by
  cases hCommit
  case logged hSame =>
    obtain ⟨hSurveys, hFloors, hNext⟩ := hSame
    constructor
    · rw [hSurveys, hNext]
      exact h.surveysBelow
    · rw [hFloors, hNext]
      exact h.floorsBelow
    · intro survey hSurvey
      rw [hSurveys] at hSurvey
      rw [SurveyDb.storedFloors, hFloors]
      exact h.recorded survey hSurvey
  case created dto user wardId ward identity surveyedAt _ hWard hIdentity hCreate =>
    obtain ⟨hAdded, hFloors, hNext, surveyId, wardId, -, -, rfl⟩ :=
      SurveyDb.createSurvey_ok hCreate
    refine h.added hAdded rfl hNext hFloors ?_
    change _ = parseFloorsRaw ((dto.text .floorsRaw).assign none)
    cases dto.text .floorsRaw <;> rfl
  case repaired old survey ward expected hOld hWard hNeeds hExpected hUpdate =>
    exact h.kept hOld hUpdate rfl
  case updated old survey dto user ward identity surveyedAt _ hOld hLive hWard hIdentity _ hUpdate =>
    by_cases hSent : dto.text .floorsRaw = .undefined
    · rw [updatedFloors, if_pos hSent, withoutFloors, if_pos hSent] at hUpdate
      exact h.kept hOld hUpdate hSent
    · rw [updatedFloors, if_neg hSent, withoutFloors, if_neg hSent] at hUpdate
      refine h.rewritten hOld hUpdate ?_
      change _ = parseFloorsRaw ((dto.text .floorsRaw).assign (old.text .floorsRaw))
      cases hField : dto.text .floorsRaw with
      | undefined => exact absurd hField hSent
      | null => rfl
      | value text => rfl
  case removed old survey now user hOld hLive hUpdate => exact h.kept hOld hUpdate rfl
  case rewritten old survey job cells row hCells hRow hOld hUpdate =>
    obtain ⟨-, -, -, -, -, hPayload, hFloors⟩ := parseRow_ok hRow
    refine h.rewritten hOld hUpdate ?_
    simp [ImportRow.rewriteData, hPayload, rowPayload, payloadText, hFloors, parseFloorsRaw_filled]
  case inserted survey now job cells row hCells hRow hCreate =>
    obtain ⟨-, -, -, -, -, hPayload, hParsed⟩ := parseRow_ok hRow
    obtain ⟨hAdded, hFloors, hNext, surveyId, wardId, -, -, rfl⟩ :=
      SurveyDb.createSurvey_ok hCreate
    refine h.added hAdded rfl hNext hFloors ?_
    simp [SurveyData.applyTo, hPayload, rowPayload, payloadText, hParsed, parseFloorsRaw_filled]
  case pruned ids now =>
    have hSame : ∀ survey, (markDeleted ids now survey).id = survey.id ∧
        (markDeleted ids now survey).floorRows = survey.floorRows := by
      intro survey
      unfold markDeleted
      split_ifs <;> exact ⟨rfl, rfl⟩
    constructor
    · intro survey hSurvey
      obtain ⟨old, hOld, rfl⟩ := List.mem_map.mp hSurvey
      rw [(hSame old).1]
      exact h.surveysBelow old hOld
    · exact h.floorsBelow
    · intro survey hSurvey
      obtain ⟨old, hOld, rfl⟩ := List.mem_map.mp hSurvey
      rw [(hSame old).1, (hSame old).2]
      exact h.recorded old hOld

/-- In the empty database all floors are recorded. -/
theorem floorsRecorded_empty : FloorsRecorded SurveyDb.empty where
  surveysBelow survey hSurvey := by cases hSurvey
  floorsBelow floor hFloor := by cases hFloor
  recorded survey hSurvey := by cases hSurvey

/-- In every state that calls lead to, with any of their statements lost, the
floor rows of a survey are the parse of its text. -/
theorem floors_eq_parse (env : Env) (calls : List SurveyCall) :
    ∀ survey ∈ (Runs.run (perform env) SurveyDb.empty calls).surveys.rows,
      (Runs.run (perform env) SurveyDb.empty calls).floorsOf survey.id =
        (parseFloorsRaw (survey.text .floorsRaw)).map (ParsedFloor.toRow survey.id) := by
  have hRecorded : FloorsRecorded (Runs.run (perform env) SurveyDb.empty calls) :=
    run_commit_invariant (fun _ => True)
      (fun _ _ _ _ h hCommit => commit_floorsRecorded h hCommit) floorsRecorded_empty
      fun _ _ => trivial
  intro survey hSurvey
  have hStored := hRecorded.recorded survey hSurvey
  have hSorted : survey.floorRows.Pairwise fun a b => decide (a.sortOrder ≤ b.sortOrder) := by
    rw [Survey.floorRows, List.pairwise_map]
    exact (parseFloorsRaw_sorted _).imp fun hab => decide_eq_true hab
  rw [SurveyDb.storedFloors] at hStored
  rw [SurveyDb.floorsOf, hStored, List.mergeSort_of_pairwise hSorted]
  rfl

namespace Sample

def sheetWithFloors : Sheet :=
  ⟨[.string "Survey Id".toList, .string "Floors".toList],
    [[.string "249044-001-000001-001-R".toList, .string "Ground Floor - 408 SqFt, Attic".toList]]⟩

end Sample

/-- An import that ends with two floors, one of 408 square feet. -/
theorem floors_eq_parse_import :
    ∃ survey ∈ (Runs.run (perform Sample.firstWard) SurveyDb.empty
        [Sample.importSheet Sample.sheetWithFloors]).surveys.rows,
      ((parseFloorsRaw (survey.text .floorsRaw)).map (ParsedFloor.toRow survey.id)).map
        SurveyFloor.areaSqFt = [some 4080000, none] ∧
      (Runs.run (perform Sample.firstWard) SurveyDb.empty
        [Sample.importSheet Sample.sheetWithFloors]).floorsOf survey.id =
          (parseFloorsRaw (survey.text .floorsRaw)).map (ParsedFloor.toRow survey.id) := by
  have hOne : (Runs.run (perform Sample.firstWard) SurveyDb.empty
      [Sample.importSheet Sample.sheetWithFloors]).surveys.rows.any (fun survey =>
        ((parseFloorsRaw (survey.text .floorsRaw)).map (ParsedFloor.toRow survey.id)).map
          SurveyFloor.areaSqFt = [some 4080000, none]) = true := by decide +kernel
  obtain ⟨survey, hSurvey, hAreas⟩ := List.any_eq_true.mp hOne
  exact ⟨survey, hSurvey, by simpa using hAreas, floors_eq_parse _ _ survey hSurvey⟩

end PropertyTax.Surveys
