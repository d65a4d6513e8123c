import PropertyTax.Surveys.Commits
import PropertyTax.Surveys.Identity

/-! The identity law of the surveys. Every survey has the id that its ward, its
numbers and its letter generate, so no two live surveys are of one property.
An import keeps the law when the numbers it takes from a Survey Id are padded
there. -/
namespace PropertyTax.Surveys
open KeyedTable SurveysService ImportsService

/-- The letter of the id. -/
def Survey.useLetter (survey : Survey) : Option Text :=
  (parseGisSurveyId survey.surveyId).map GisSurveyParts.gisUseCode

structure IdentityLaw (env : Env) (db : SurveyDb) : Prop where
  generated : ∀ survey ∈ db.surveys.rows, survey.isLive → ∃ ward,
    env.wards.find? survey.wardId = some ward ∧ GeneratedId env.ulbCode ward.number survey.record
  padded : ∀ survey ∈ db.surveys.rows, survey.isLive → PaddedNumbers survey.record
  unique : ∀ s ∈ db.surveys.rows, ∀ t ∈ db.surveys.rows, s.isLive → t.isLive →
    s.wardId = t.wardId → s.parcelNo = t.parcelNo → s.propertyNo = t.propertyNo →
    s.useLetter = t.useLetter → s = t

/-- A ULB code of digits, and wards with numbers of at most three. -/
structure Env.Numbered (env : Env) : Prop where
  ulbCode : isNumeral env.ulbCode
  wards : ∀ ward ∈ env.wards.rows, 1 ≤ ward.number ∧ ward.number ≤ 999

/-- A row without a parcel (property) number has one of full width in its
Survey Id. -/
def PaddedWhereEmpty (cells : RowCells) : Prop :=
  (Js.trimChars (cells .parcelNo) = [] →
    ∀ number ∈ parcelFromSurveyId (cells .surveyId), 6 ≤ number.length) ∧
  (Js.trimChars (cells .propertyNo) = [] →
    ∀ number ∈ propertyFromSurveyId (cells .surveyId), 3 ≤ number.length)

instance (cells : RowCells) : Decidable (PaddedWhereEmpty cells) :=
  inferInstanceAs (Decidable (_ ∧ _))

/-- The rows of the operation that name a known ward are padded where empty. -/
def PaddedImport (env : Env) (operation : SurveyOperation) : Prop :=
  ∀ cells, operation.rows env cells → wardOf env cells ≠ none → PaddedWhereEmpty cells

variable {env : Env}

/-! ### The law of one survey -/

def HasIdentity (env : Env) (survey : Survey) : Prop :=
  ∃ ward, env.wards.find? survey.wardId = some ward ∧
    GeneratedId env.ulbCode ward.number survey.record ∧ PaddedNumbers survey.record

/-- In a numbered municipality, every ward can be identified. -/
theorem Env.Numbered.identifiable (hEnv : env.Numbered) {wardId : Id} {ward : Ward}
    (hWard : env.wards.find? wardId = some ward) : Identifiable env.ulbCode ward.number :=
  ⟨hEnv.ulbCode, (hEnv.wards ward (find?_eq_some_iff.mp hWard).1).1,
    (hEnv.wards ward (find?_eq_some_iff.mp hWard).1).2⟩

/-- Two surveys of one ward, parcel, property and letter have one id. -/
theorem surveyId_eq_of_hasIdentity {s t : Survey} (hs : HasIdentity env s) (ht : HasIdentity env t)
    (hWard : s.wardId = t.wardId) (hParcel : s.parcelNo = t.parcelNo)
    (hProperty : s.propertyNo = t.propertyNo) (hLetter : s.useLetter = t.useLetter) :
    s.surveyId = t.surveyId := by
  obtain ⟨ward, hFound, ⟨parcel, property, letter, hp, hq, hl, hId⟩, -⟩ := hs
  obtain ⟨ward', hFound', ⟨parcel', property', letter', hp', hq', hl', hId'⟩, -⟩ := ht
  obtain rfl : ward = ward' := Option.some.inj (by rw [← hFound, ← hFound', hWard])
  obtain rfl : parcel = parcel' := Option.some.inj (hp.symm.trans (hParcel.trans hp'))
  obtain rfl : property = property' := Option.some.inj (hq.symm.trans (hProperty.trans hq'))
  obtain rfl : letter = letter' := Option.some.inj (hl.symm.trans (hLetter.trans hl'))
  exact Except.ok.inj (hId.symm.trans hId')

/-- Surveys that have their identity obey the law. -/
theorem identityLaw_of_hasIdentity {db : SurveyDb}
    (h : ∀ survey ∈ db.surveys.rows, HasIdentity env survey) : IdentityLaw env db where
  generated survey hSurvey _ := by
    obtain ⟨ward, hWard, hId, -⟩ := h survey hSurvey
    exact ⟨ward, hWard, hId⟩
  padded survey hSurvey _ := by
    obtain ⟨ward, -, -, hPadded⟩ := h survey hSurvey
    exact hPadded
  unique s hs t ht _ _ hWard hParcel hProperty hLetter := by
    have hId := surveyId_eq_of_hasIdentity (h s hs) (h t ht) hWard hParcel hProperty hLetter
    exact eq_of_clash hs ht (by simp [KeyedRow.clash, hId])

/-! ### What an import reads -/

/-- The numbers of a parsed id are numerals. -/
theorem isNumeral_of_parse {surveyId : Text} {parts : GisSurveyParts}
    (h : parseGisSurveyId surveyId = some parts) :
    isNumeral parts.parcelNo ∧ isNumeral parts.propertyNo := by
  unfold parseGisSurveyId at h
  split at h
  · split_ifs at h with hParts
    cases h
    simp only [Bool.and_eq_true] at hParts
    exact ⟨hParts.1.1.2, hParts.1.2⟩
  · cases h

/-- A number that an id can be generated from is padded, if what was read
from the Survey Id is. -/
theorem normalize_normalizeFromExcel {width : Nat} {missing : IdentityError}
    {fromSurveyId : Text → Option Text} {excelValue surveyId number normalized : Text}
    (hSegment : ∀ segment ∈ fromSurveyId surveyId, isNumeral segment)
    (hWidth : Js.trimChars excelValue = [] → ∀ segment ∈ fromSurveyId surveyId, width ≤ segment.length)
    (hNumber : normalizeFromExcel width fromSurveyId excelValue surveyId = some number)
    (hDigits : normalizeNumber width missing number = .ok normalized) :
    normalizeNumber width missing number = .ok number := by
  rw [normalizeNumber_eq_self_iff]
  unfold normalizeFromExcel at hNumber
  dsimp only at hNumber
  split_ifs at hNumber with hBlank hNone
  · exact ⟨hSegment number hNumber, hWidth (by simpa using hBlank) number hNumber⟩
  · cases hNumber
    simp only [normalizeNumber, hNone, ↓reduceIte] at hDigits
    cases hDigits
  · cases hNumber
    constructor
    · exact leftpad_isNumeral
        (isNumeral_iff.mpr ⟨by simpa using hNone, fun c hc => (List.mem_filter.mp hc).2⟩)
    · rw [List.length_leftpad]
      omega

/-- The identity that an import writes. -/
theorem parseRow_hasIdentity {job : ImportJob} {cells : RowCells} {row : ImportRow}
    (hEnv : env.Numbered) (hPadded : wardOf env cells ≠ none → PaddedWhereEmpty cells)
    (h : parseRow env job cells = .ok row) :
    GeneratedId env.ulbCode row.ward.number
        ⟨row.surveyId, some row.parcelNo, some row.propertyNo⟩ ∧
      PaddedNumbers ⟨row.surveyId, some row.parcelNo, some row.propertyNo⟩ := by
  obtain ⟨hWard, -, hParcel, hProperty, hSurveyId, -, -⟩ := parseRow_ok h
  obtain ⟨hParcelWidth, hPropertyWidth⟩ := hPadded (by simp [hWard])
  have hGenerate := buildSurveyIdFromRecord_some.mp hSurveyId
  obtain ⟨-, parcel, property, -, -, hParcelOk, hPropertyOk, -, -⟩ :=
    generateSurveyId_eq_ok_iff.mp hGenerate
  refine ⟨generatedId_of_generate (hEnv.identifiable (wardOf_eq_some hWard)) hGenerate, ?_, ?_⟩
  · intro number hNumber
    cases hNumber
    refine normalize_normalizeFromExcel (fun segment hSegment => ?_) hParcelWidth hParcel hParcelOk
    obtain ⟨parts, hParts, rfl⟩ := Option.map_eq_some_iff.mp hSegment
    exact (isNumeral_of_parse hParts).1
  · intro number hNumber
    cases hNumber
    refine normalize_normalizeFromExcel (fun segment hSegment => ?_) hPropertyWidth hProperty
      hPropertyOk
    obtain ⟨parts, hParts, rfl⟩ := Option.map_eq_some_iff.mp hSegment
    exact (isNumeral_of_parse hParts).2

/-! ### The law of the table -/

/-- Every transaction keeps the surveys' identities. -/
theorem commit_hasIdentity (hEnv : env.Numbered) {operation : SurveyOperation}
    (hPadded : PaddedImport env operation) {db db' : SurveyDb}
    (hRows : ∀ survey ∈ db.surveys.rows, HasIdentity env survey)
    (h : Commit env operation.dtos (operation.rows env) db db') :
    ∀ survey ∈ db'.surveys.rows, HasIdentity env survey := by
  cases h
  case logged hSame => rwa [hSame.surveys]
  case created dto user wardId ward identity surveyedAt _ hWard hIdentity hCreate =>
    obtain ⟨hAdded, -, -, surveyId, wardId, hSurveyId, hWardId, rfl⟩ :=
      SurveyDb.createSurvey_ok hCreate
    cases hSurveyId
    cases hWardId
    refine hAdded.forall_rows hRows ⟨ward, hWard, ?_⟩
    exact resolveSurveyIdentity_generated (hEnv.identifiable hWard) hIdentity
  case repaired old survey ward expected hOld hWard hNeeds hExpected hUpdate =>
    -- A generated id needs no repair, so this commit does not happen.
    obtain ⟨ward', hFound, hId, -⟩ := hRows old hOld
    obtain rfl := Option.some.inj (hFound.symm.trans hWard)
    rw [hId.surveyIdNeedsRepair] at hNeeds
    cases hNeeds
  case updated old survey dto user ward identity surveyedAt _ hOld hLive hWard hIdentity _ hUpdate =>
    have hSame := withoutFloors_surveys dto old.id db
    obtain ⟨rfl, hReplaced⟩ := SurveyDb.updateSurvey_of_mem (hSame ▸ hOld) hUpdate
    rw [hSame] at hReplaced
    refine hReplaced.forall_rows hRows ⟨ward, ?_, ?_⟩
    · simpa [updateData, toPrismaUpdateData, SurveyData.applyTo, Field.assignTo_eq_getD] using hWard
    · exact resolveSurveyIdentity_generated (hEnv.identifiable hWard) hIdentity
  case removed old survey now user hOld hLive hUpdate =>
    obtain ⟨rfl, hReplaced⟩ := SurveyDb.updateSurvey_of_mem hOld hUpdate
    exact hReplaced.forall_rows hRows (hRows old hOld)
  case rewritten old survey job cells row hCells hRow hOld hUpdate =>
    have hKept : old ∈ (db.deleteFloors old.id).surveys.rows := hOld
    obtain ⟨rfl, hReplaced⟩ := SurveyDb.updateSurvey_of_mem hKept hUpdate
    obtain ⟨hWard, -, -, -, -, hPayload, -⟩ := parseRow_ok hRow
    refine hReplaced.forall_rows hRows ⟨row.ward, ?_, ?_⟩
    · simpa [ImportRow.rewriteData, hPayload, rowPayload, SurveyData.applyTo] using
        wardOf_eq_some hWard
    · simpa [ImportRow.rewriteData, hPayload, rowPayload, SurveyData.applyTo, Survey.record] using
        parseRow_hasIdentity hEnv (hPadded cells hCells) hRow
  case inserted survey now job cells row hCells hRow hCreate =>
    obtain ⟨hAdded, -, -, surveyId, wardId, hSurveyId, hWardId, rfl⟩ :=
      SurveyDb.createSurvey_ok hCreate
    obtain ⟨hWard, -, -, -, -, hPayload, -⟩ := parseRow_ok hRow
    refine hAdded.forall_rows hRows ⟨row.ward, ?_, ?_⟩
    · simpa [hPayload, rowPayload, SurveyData.applyTo] using wardOf_eq_some hWard
    · simpa [hPayload, rowPayload, SurveyData.applyTo, Survey.record] using
        parseRow_hasIdentity hEnv (hPadded cells hCells) hRow
  case pruned ids now =>
    intro survey hSurvey
    obtain ⟨old, hOld, rfl⟩ := List.mem_map.mp hSurvey
    unfold markDeleted
    split_ifs <;> exact hRows old hOld

/-- From the empty database on, the law holds in every state that calls lead
to, as long as the imports among them are padded. -/
theorem identityLaw_of_paddedImports (hEnv : env.Numbered) {calls : List SurveyCall}
    (hPadded : ∀ call ∈ calls, PaddedImport env call.operation) :
    IdentityLaw env (Runs.run (perform env) SurveyDb.empty calls) := by
  apply identityLaw_of_hasIdentity
  refine run_commit_invariant (PaddedImport env)
    (fun operation db db' hOperation hRows hCommit =>
      commit_hasIdentity hEnv hOperation hRows hCommit) ?_ hPadded
  intro survey hSurvey
  cases hSurvey

namespace Sample

theorem firstWard_numbered : firstWard.Numbered := ⟨by decide, by decide⟩

/-- A sheet of one column, the Survey Id. -/
def idOnlySheet (surveyIds : List String) : Sheet :=
  ⟨[.string "Survey Id".toList], surveyIds.map fun surveyId => [.string surveyId.toList]⟩

/-- The numbers of the id are stored as they stand in it. -/
theorem stored_idOnlySheet :
    (perform firstWard SurveyDb.empty (importSheet (idOnlySheet ["249044-001-1-1-R"]))).surveys.rows.map
      (fun survey => (survey.surveyId, survey.parcelNo, survey.propertyNo, survey.deletedAt)) =
    [("249044-001-000001-001-R".toList, some "1".toList, some "1".toList, none)] := by
  decide

end Sample

/-- An import of a row with neither number breaks the law. -/
theorem identityLaw_unpadded : ¬ ∀ (env : Env) (calls : List SurveyCall), env.Numbered →
    IdentityLaw env (Runs.run (perform env) SurveyDb.empty calls) := by
  intro hLaw
  have hOne := hLaw Sample.firstWard [Sample.importSheet (Sample.idOnlySheet ["249044-001-1-1-R"])]
    Sample.firstWard_numbered
  have hRows := Sample.stored_idOnlySheet
  obtain ⟨survey, hSurvey, hColumns⟩ := List.mem_map.mp (hRows ▸ List.mem_singleton_self _)
  obtain ⟨-, hParcel, -, hLive⟩ : survey.surveyId = "249044-001-000001-001-R".toList ∧
      survey.parcelNo = some "1".toList ∧ survey.propertyNo = some "1".toList ∧
      survey.deletedAt = none := by simpa using hColumns
  have hPadded := (hOne.padded survey hSurvey (by simp [Survey.isLive, hLive])).1
    "1".toList (by simpa [Survey.record] using hParcel)
  exact absurd hPadded (by decide)

namespace Sample

def paddedSheet : Sheet := idOnlySheet ["249044-001-000001-001-R", "249044-001-000002-001-R"]

/-- Two properties are imported, the first is deleted, and the sheet is imported once more. -/
def paddedImports : List SurveyCall :=
  [importSheet paddedSheet,
    ⟨.remove 1 (.surveyId "249044-001-000001-001-R".toList) ⟨2, ["survey:delete"], []⟩, []⟩,
    importSheet paddedSheet]

theorem paddedSheet_padded : PaddedImport firstWard (importSheet paddedSheet).operation := by
  rintro cells ⟨loaded, hLoaded, values, hValues, rfl, -⟩ -
  have hAll : ((loadSurveySheet firstWard (some paddedSheet)).toOption.all fun loaded =>
      loaded.2.rows.all fun values => decide
        (PaddedWhereEmpty (readRow firstWard loaded.1 values))) = true := by
    decide
  rw [hLoaded] at hAll
  simpa using List.all_eq_true.mp hAll values hValues

end Sample

/-- The numbers in full, in rows that are deleted and imported again. -/
theorem identityLaw_of_paddedImports_again :
    IdentityLaw Sample.firstWard
        (Runs.run (perform Sample.firstWard) SurveyDb.empty Sample.paddedImports) ∧
      (Runs.run (perform Sample.firstWard) SurveyDb.empty Sample.paddedImports).surveys.rows.map
        (fun survey => (survey.surveyId, survey.isLive)) =
          [("249044-001-000001-001-R".toList, true), ("249044-001-000002-001-R".toList, true)] := by
  refine ⟨identityLaw_of_paddedImports Sample.firstWard_numbered fun call hCall => ?_,
    by decide⟩
  simp only [Sample.paddedImports, List.mem_cons, List.not_mem_nil, or_false] at hCall
  rcases hCall with rfl | rfl | rfl
  · exact Sample.paddedSheet_padded
  · exact fun _ hCells => hCells.elim
  · exact Sample.paddedSheet_padded

end PropertyTax.Surveys
