import PropertyTax.Surveys.ColumnMaps
import PropertyTax.Surveys.Service

/-! The import of an Excel sheet: each row is matched with a stored survey,
then skipped, written over it, or inserted. -/
namespace PropertyTax.Surveys
open KeyedTable Scripts

inductive DuplicateStrategy where
  | skip | update | create
deriving DecidableEq

structure ImportJob where
  id : Id
  duplicateStrategy : DuplicateStrategy
  createdById : Option Id
deriving DecidableEq

/-- The sheet "Survey Data". -/
structure Sheet where
  header : List ExcelValue
  rows : List (List ExcelValue)

/-- A row that names a ward and a Survey Id, ready to be stored. -/
structure ImportRow where
  ward : Ward
  rawSurveyId : Text
  surveyId : Text
  parcelNo : Text
  propertyNo : Text
  payload : SurveyData
  floors : List ParsedFloor

inductive RowOutcome where
  | skipped (survey : Id)
  | unchanged (survey : Id)
  | updated (survey : Id)
  | inserted (survey : Id)
deriving DecidableEq

def RowOutcome.survey : RowOutcome → Id
  | skipped survey | unchanged survey | updated survey | inserted survey => survey

inductive ImportJobStatus where
  | completed | partiallyCompleted | failed
deriving DecidableEq

/-- What the loop counts, and the surveys and wards it has met. -/
structure ImportProgress where
  processed : Nat := 0
  success : Nat := 0
  failed : Nat := 0
  skipped : Nat := 0
  inserted : Nat := 0
  updated : Nat := 0
  touchedSurveyIds : List Id := []
  wardIdsSeen : List Id := []
deriving DecidableEq

structure ImportResult where
  status : ImportJobStatus
  progress : ImportProgress
  pruned : Nat
deriving DecidableEq

namespace ImportsService
variable (env : Env) (job : ImportJob)

/-! ### Reading a row -/

/-- The cells of a row, under the layout of the sheet. -/
abbrev RowCells := ColumnKey → Text

def readRow (map : ColumnMap) (values : List ExcelValue) : RowCells :=
  fun key => cell env.toISOString values (map key)

/-- `text || null` -/
def filled (text : Text) : Option Text := if text.isEmpty then none else some text

def mobileOf (cells : RowCells) : Text :=
  if cells (.text .mobile) = ['0'] then [] else cells (.text .mobile)

def payloadText (cells : RowCells) : TextColumn → Option Text
  | .mobile => filled (mobileOf cells)
  | column => filled (cells (.text column))

def rowPayload (cells : RowCells) (ward : Ward) (surveyId parcelNo propertyNo : Text) :
    SurveyData where
  surveyId := .value surveyId
  wardId := .value ward.id
  surveyedAt := .orUndefined (parseSurveyedAt env.parseDate (cells .surveyedAt))
  isSlum := .value ((parseBool (cells .isSlum)).getD false)
  parcelNo := .value parcelNo
  propertyNo := .value propertyNo
  text column := .orNull (payloadText cells column)
  flag column := .orUndefined (parseBool (cells (.flag column)))
  area column := .orUndefined (parseNumber (cells (.area column)))
  totalWaterConnections := .orUndefined (parseNumber (cells .totalWaterConnections))
  dataQualityStatus := .value (computeDataQuality (some (mobileOf cells)) (some propertyNo)
    (some parcelNo) (parseNumber (cells (.area .plotAreaSqFt)))
    (parseNumber (cells (.area .totalBuiltUpAreaSqFt))))
  importJobId := .value job.id
  status := .value .active

/-- No ward has the number zero here: it counts as no number. -/
def wardOf (cells : RowCells) : Option Ward :=
  match extractWardNumber (cells .wardName) (cells .surveyId) with
  | some (n + 1) => env.wards.findFirst? fun ward => ward.number = (n + 1 : Nat)
  | _ => none

def parseRow (cells : RowCells) : Except SurveyError ImportRow :=
  let rawSurveyId := cells .surveyId
  match wardOf env cells with
  | none => .error (.row "wardName" ("Ward not found for " ++
      String.ofList ((filled (cells .wardName)).getD rawSurveyId)))
  | some ward =>
      let parcelNo := (normalizeParcelNoFromExcel (cells .parcelNo) rawSurveyId).getD []
      let propertyNo := (normalizePropertyNoFromExcel (cells .propertyNo) rawSurveyId).getD []
      if parcelNo.isEmpty || propertyNo.isEmpty then
        .error (.row "parcelNo" "Unparseable parcel or property number")
      else do
        let surveyId ← (resolveImportSurveyId rawSurveyId ward.number parcelNo propertyNo
          env.ulbCode).mapError .identity
        return {
          ward
          rawSurveyId
          surveyId
          parcelNo
          propertyNo
          payload := rowPayload env job cells ward surveyId parcelNo propertyNo
          floors := parseFloorsRaw (some (cells (.text .floorsRaw))) }

variable {env job}

/-- The ward found is one of the municipality. -/
theorem wardOf_eq_some {cells : RowCells} {ward : Ward} (h : wardOf env cells = some ward) :
    env.wards.find? ward.id = some ward := by
  unfold wardOf at h
  split at h
  · exact find?_eq_some_iff.mpr ⟨List.mem_of_find?_eq_some h, rfl⟩
  · cases h

/-- A number that is filled is there. -/
theorem getD_eq_of_filled {number : Option Text} (h : (number.getD []).isEmpty = false) :
    number = some (number.getD []) := by
  cases number with
  | none => cases h
  | some text => rfl

/-- What a parsed row holds. -/
theorem parseRow_ok {job : ImportJob} {cells : RowCells} {row : ImportRow}
    (h : parseRow env job cells = .ok row) :
    wardOf env cells = some row.ward ∧ row.rawSurveyId = cells .surveyId ∧
      normalizeParcelNoFromExcel (cells .parcelNo) (cells .surveyId) = some row.parcelNo ∧
      normalizePropertyNoFromExcel (cells .propertyNo) (cells .surveyId) = some row.propertyNo ∧
      resolveImportSurveyId (cells .surveyId) row.ward.number row.parcelNo row.propertyNo
        env.ulbCode = .ok row.surveyId ∧
      row.payload = rowPayload env job cells row.ward row.surveyId row.parcelNo row.propertyNo ∧
      row.floors = parseFloorsRaw (some (cells (.text .floorsRaw))) := by
  unfold parseRow at h
  dsimp only at h
  split at h
  · cases h
  next ward hWard =>
    split_ifs at h with hMissing
    obtain ⟨surveyId, hSurveyId, hRow⟩ := bind_ok h
    cases hRow
    simp only [Bool.or_eq_true, not_or, Bool.not_eq_true] at hMissing
    exact ⟨hWard, rfl, getD_eq_of_filled hMissing.1, getD_eq_of_filled hMissing.2,
      mapError_ok hSurveyId, rfl, rfl⟩

variable (env job)

/-! ### Storing a row -/

def isSameProperty (row : ImportRow) (survey : Survey) : Bool :=
  survey.wardId = row.ward.id && survey.parcelNo = some row.parcelNo &&
    survey.propertyNo = some row.propertyNo && survey.isLive

/-- The id of the file is looked up when it is not the canonical one. -/
def findByRawId (row : ImportRow) : SurveyScript (Option Survey) :=
  if row.rawSurveyId = row.surveyId then pure none
  else read fun db => db.bySurveyId? row.rawSurveyId

/-- By canonical id, by the id of the file, by ward, parcel and property. -/
def findImportDuplicate (row : ImportRow) : SurveyScript (Option Survey) := do
  let byCanonical ← read fun db => db.bySurveyId? row.surveyId
  match byCanonical with
  | some survey => return some survey
  | none => do
      let byRaw ← findByRawId row
      match byRaw with
      | some survey => return some survey
      | none => read fun db => db.surveys.findFirst? (isSameProperty row)

/-- `{ ...payload, deletedAt: null, status: "ACTIVE" }` -/
def ImportRow.rewriteData (row : ImportRow) : SurveyData :=
  { row.payload with deletedAt := .null, status := .value .active }

/-- Replace the floors and the columns of a survey. -/
def rewrite (id : Id) (row : ImportRow) : SurveyScript Survey :=
  transaction do
    write (SurveyDb.deleteFloors id)
    statement (SurveyDb.updateSurvey id (ImportRow.rewriteData row) row.floors)

/-- A unique violation ends in the survey that holds the id. -/
def insertRow (now : Timestamp) (row : ImportRow) : SurveyScript RowOutcome := do
  let created ← Script.attempt (statement (SurveyDb.createSurvey row.payload row.floors now))
  match created with
  | .ok survey => return .inserted survey.id
  | .error (.refused .uniqueViolation) => do
      let conflict ← read fun db => db.bySurveyId? row.surveyId
      match conflict with
      | some conflict => do
          let _ ← rewrite conflict.id row
          return .updated conflict.id
      | none => Script.fail (.refused .uniqueViolation)
  | .error error => Script.fail error

/-- Does no compared field of the survey change? -/
def changesNothing (row : ImportRow) (existing : Survey) : Bool :=
  (diffSurveyChanges (surveyToAuditSnapshot existing) (proposedSnapshot row.payload)).isEmpty

/-- A deleted survey is written whatever the strategy, since it holds its id. -/
def storeRow (now : Timestamp) (row : ImportRow) : SurveyScript RowOutcome := do
  let existing ← findImportDuplicate row
  match existing with
  | none => insertRow now row
  | some existing =>
      if job.duplicateStrategy = .skip && existing.isLive then return .skipped existing.id
      else if job.duplicateStrategy = .update || !existing.isLive then
        if changesNothing row existing && existing.isLive then return .unchanged existing.id
        else do
          let updated ← rewrite existing.id row
          let changes := diffSurveyChanges (surveyToAuditSnapshot existing)
            (surveyToAuditSnapshot updated)
          Script.when (!changes.isEmpty) (write (SurveyDb.log
            (.imported existing.id job.createdById changes (!existing.isLive))))
          return .updated existing.id
      else insertRow now row

/-! ### Failed rows -/

/-- What `inferImportErrorField` makes of the text of an error. -/
def fieldNamedIn (message : String) : Option String :=
  let msg := Js.toLowerCase message
  if Js.includes msg "ward" then some "wardName"
  else if Js.includes msg "parcel" || Js.includes msg "property" then some "parcelNo"
  else none

/-- `inferImportErrorField`, unless the error names its field. -/
def errorField : SurveyError → Option String
  | .row field _ => some field
  | .identity error => fieldNamedIn error.message
  | .refused .uniqueViolation => some "surveyId"
  | .refused .recordNotFound => some "database"
  | error => fieldNamedIn (env.clientMessage error)

/-- `formatImportErrorMessage`, where the text is not the database client's. -/
def errorMessage : SurveyError → Option String
  | .row _ message => some message
  | .identity error => some error.message
  | .refused .uniqueViolation => some
      "Duplicate value for surveyId. Another survey already uses this Survey Id / identity."
  | _ => none

def importError (rowNumber : Nat) (cells : RowCells) (error : SurveyError) : ImportError where
  importJobId := job.id
  rowNumber := rowNumber
  surveyId := filled (cells .surveyId)
  field := errorField env error
  message := errorMessage error
  rawRow := [cells .surveyId, cells .wardName, cells .parcelNo, cells .propertyNo,
    cells (.text .ownerName), cells (.text .city)]

/-! ### The loop -/

namespace ImportProgress

def count (progress : ImportProgress) (ward : Id) (outcome : RowOutcome) : ImportProgress :=
  { progress with
    success := progress.success + 1
    skipped := progress.skipped + match outcome with | .skipped _ => 1 | _ => 0
    inserted := progress.inserted + match outcome with | .inserted _ => 1 | _ => 0
    updated := progress.updated + match outcome with | .updated _ => 1 | _ => 0
    touchedSurveyIds := progress.touchedSurveyIds ++ [outcome.survey]
    wardIdsSeen := progress.wardIdsSeen ++ [ward] }

end ImportProgress

/-- One row of the sheet. What it throws is recorded, and the loop goes on. -/
def processRow (now : Timestamp) (map : ColumnMap) (progress : ImportProgress)
    (numbered : List ExcelValue × Nat) : SurveyScript ImportProgress := do
  let cells := readRow env map numbered.1
  if (cells .surveyId).isEmpty then return progress
  else do
    let progress := { progress with processed := progress.processed + 1 }
    let stored ← Script.attempt do
      let row ← orThrow (parseRow env job cells)
      let outcome ← storeRow job now row
      return (row.ward.id, outcome)
    match stored with
    | .ok (ward, outcome) => return ImportProgress.count progress ward outcome
    | .error error => do
        write (SurveyDb.createImportError (importError env job numbered.2 cells error))
        return { progress with failed := progress.failed + 1 }

/-! ### Pruning -/

def shouldReconcileWardAfterImport (pruneMissing : Bool) (progress : ImportProgress) : Option Id :=
  if pruneMissing && job.duplicateStrategy = .update && progress.failed = 0 &&
      !progress.touchedSurveyIds.isEmpty then
    match progress.wardIdsSeen.eraseDups with
    | [ward] => some ward
    | _ => none
  else none

/-- At most ten, or two in a hundred of those kept. -/
def shouldPruneOrphanCount (orphanCount keptCount : Nat) : Bool :=
  0 < orphanCount && orphanCount ≤ max 10 ((keptCount + 49) / 50)

def isOrphan (ward : Id) (keepSurveyIds : List Id) (survey : Survey) : Bool :=
  survey.wardId = ward && survey.isLive && survey.status ≠ .deleted &&
    !keepSurveyIds.contains survey.id

/-- `data: { status: "DELETED", deletedAt: now }`, where the id is listed. -/
def markDeleted (ids : List Id) (now : Timestamp) (survey : Survey) : Survey :=
  if ids.contains survey.id then { survey with status := .deleted, deletedAt := some now }
  else survey

/-- Marking surveys as deleted keeps which of them clash. -/
theorem clash_markDeleted (ids : List Id) (now : Timestamp) (s t : Survey) :
    KeyedRow.clash (markDeleted ids now s) (markDeleted ids now t) = KeyedRow.clash s t := by
  unfold markDeleted
  split_ifs <;> rfl

def deleteAll (ids : List Id) (now : Timestamp) (db : SurveyDb) : SurveyDb :=
  { db with surveys := db.surveys.mapRows (markDeleted ids now) (clash_markDeleted ids now) }

def pruneOrphans (now : Timestamp) (ward : Id) (keepSurveyIds : List Id) :
    SurveyScript Nat := do
  let orphans ← read fun db => db.surveys.rows.filter (isOrphan ward keepSurveyIds)
  if shouldPruneOrphanCount orphans.length keepSurveyIds.eraseDups.length then do
    write (deleteAll (orphans.map Survey.id) now)
    orphans.forM fun orphan =>
      write (SurveyDb.log (.pruned orphan.id job.createdById orphan.surveyId job.id))
    return orphans.length
  else return 0

def reconcileWardOrphans (now : Timestamp) (pruneMissing : Bool) (progress : ImportProgress) :
    SurveyScript Nat :=
  match shouldReconcileWardAfterImport job pruneMissing progress with
  | some ward => pruneOrphans job now ward progress.touchedSurveyIds
  | none => pure 0

/-! ### The job -/

def loadSurveySheet (sheet : Option Sheet) : Except ApiError (ColumnMap × Sheet) :=
  match sheet with
  | none => .error (.badRequest (some "SHEET_MISSING")
      "Workbook must include a sheet named \"Survey Data\"")
  | some sheet =>
      let headers := sheet.header.map fun value => cell env.toISOString [value] (some 0)
      match tryDetectPresetFromHeaders headers with
      | none => .error (.badRequest (some "UNKNOWN_HEADER_PRESET")
          "Could not detect a supported Chhata survey header layout")
      | some preset => .ok (refineMappingFromHeaders (getMapping preset) headers, sheet)

def statusOf (progress : ImportProgress) : ImportJobStatus :=
  if progress.failed = 0 then .completed
  else if 0 < progress.success then .partiallyCompleted
  else .failed

def processJob (now : Timestamp) (pruneMissing : Bool) (sheet : Option Sheet) :
    SurveyScript ImportResult := do
  let loaded ← orThrow ((loadSurveySheet env sheet).mapError .api)
  let progress ← (loaded.2.rows.zipIdx 2).foldlM (processRow env job now loaded.1) {}
  let pruned ← reconcileWardOrphans job now pruneMissing progress
  return ⟨statusOf progress, progress, pruned⟩

end ImportsService
end PropertyTax.Surveys
