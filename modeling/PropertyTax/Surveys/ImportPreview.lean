import PropertyTax.Surveys.Imports

/-! The preview of an import: the rows of the sheet are classified as a job
would find them, and nothing is written. -/
namespace PropertyTax.Surveys
open Scripts ImportsService

inductive ImportPreviewClassification where
  | valid | invalid | duplicate | warning
deriving DecidableEq

structure ImportPreviewSampleRow where
  rowNumber : Nat
  surveyId : Text
  classification : ImportPreviewClassification
  messages : List String
deriving DecidableEq

structure ImportPreviewResult where
  totalRows : Nat
  validRows : Nat
  invalidRows : Nat
  duplicateRows : Nat
  warningRows : Nat
  sampleRows : List ImportPreviewSampleRow
  unmappedHeaders : List Text
  columnMapping : ColumnMap
  warnings : List String

/-! ### What is flagged -/

/-- `value.replace(/\s+/g, " ")` -/
def collapseSpaces (value : Text) : Text :=
  (value.splitBy fun c d => Js.isSpace c == Js.isSpace d).flatMap fun run =>
    if run.head?.any Js.isSpace then [' '] else run

/-- No city is not a city outside. -/
def isAllowedChhataCity (city : Text) : Bool :=
  let normalized := collapseSpaces (lowerCase (Js.trimChars city))
  normalized.isEmpty || normalized = "chhata".toList || normalized = "chhata rural".toList

def SQFT_PER_SQM : ℚ := 107639 / 10000

def AREA_REL_TOLERANCE : ℚ := 15 / 100

def areaPairInconsistent (sqFt sqM : Option ℚ) : Bool :=
  match sqFt, sqM with
  | some sqFt, some sqM =>
      let expectedSqFt := sqM * SQFT_PER_SQM
      0 < sqFt && 0 < sqM &&
        AREA_REL_TOLERANCE < |sqFt - expectedSqFt| / max expectedSqFt sqFt
  | _, _ => false

def collectAreaInconsistencyMessages (area : AreaColumn → Option ℚ) : List String :=
  [(AreaColumn.plotAreaSqFt, AreaColumn.plotAreaSqMeter,
      "Plot area sq ft vs sq m look inconsistent"),
    (.plinthAreaSqFt, .plinthAreaSqMeter, "Plinth area sq ft vs sq m look inconsistent"),
    (.totalBuiltUpAreaSqFt, .totalBuiltUpAreaSqMeter,
      "Built-up area sq ft vs sq m look inconsistent")].filterMap fun pair =>
    if areaPairInconsistent (area pair.1) (area pair.2.1) then some pair.2.2 else none

/-- The headers that no column of a survey is read from, each spelling once. -/
def listUnmappedHeaders (headers : List Text) : List Text :=
  headers.foldl (fun out header =>
    let raw := Js.trimChars header
    let token := normHeader raw
    if raw.isEmpty || token.isEmpty ||
        ["sn".toList, "sno".toList, "actions".toList].contains token ||
        (HEADER_FIELD_TOKENS.map Prod.snd).contains token ||
        token = "ismuncipalwatersupply".toList ||
        (out.map lowerCase).contains (lowerCase raw) then out
    else out ++ [raw]) []

example : isAllowedChhataCity " Chhata \t Rural".toList = true ∧
    isAllowedChhataCity "Mathura".toList = false ∧
    areaPairInconsistent (some 1000) (some 92) = false ∧
    areaPairInconsistent (some 1000) (some 1000) = true ∧
    listUnmappedHeaders ["S.N.".toList, "Owner Name".toList, "Notes ".toList, "notes".toList] =
      ["Notes".toList] := by
  decide +kernel

/-- How a row is classified so far, and why. -/
structure RowReport where
  classification : ImportPreviewClassification := .valid
  messages : List String := []

namespace RowReport

def mark (report : RowReport) (classification : ImportPreviewClassification) (message : String) :
    RowReport := ⟨classification, report.messages ++ [message]⟩

/-- A warning does not replace what is worse. -/
def warn (report : RowReport) (messages : List String) : RowReport :=
  if messages.isEmpty then report
  else ⟨if report.classification = .valid then .warning else report.classification,
    report.messages ++ messages⟩

end RowReport

/-- What the loop counts, and the Survey Ids it has met. -/
structure PreviewProgress where
  fileSurveyIds : List Text := []
  sampleRows : List ImportPreviewSampleRow := []
  totalRows : Nat := 0
  validRows : Nat := 0
  invalidRows : Nat := 0
  duplicateRows : Nat := 0
  warningRows : Nat := 0

namespace PreviewProgress

/-- A row with messages is shown among the first 25, a valid one among the first ten. -/
def sample (progress : PreviewProgress) (row : ImportPreviewSampleRow) : PreviewProgress :=
  if progress.sampleRows.length < 25 && !row.messages.isEmpty then
    { progress with sampleRows := progress.sampleRows ++ [row] }
  else if progress.sampleRows.length < 10 && row.classification = .valid then
    { progress with sampleRows := progress.sampleRows ++ [{ row with messages := [] }] }
  else progress

def count (progress : PreviewProgress) (row : ImportPreviewSampleRow) : PreviewProgress :=
  let total := { progress with totalRows := progress.totalRows + 1 }
  match row.classification with
  | .invalid => { total with invalidRows := total.invalidRows + 1 }
  | .duplicate => { total with duplicateRows := total.duplicateRows + 1 }
  | .warning => { total with warningRows := total.warningRows + 1 }
  | .valid => { total with validRows := total.validRows + 1 }

end PreviewProgress

namespace ImportsService
variable (env : Env) (job : ImportJob)

/-! ### One row -/

def parcelNoOf (cells : RowCells) : Text :=
  (normalizeParcelNoFromExcel (cells .parcelNo) (cells .surveyId)).getD []

def propertyNoOf (cells : RowCells) : Text :=
  (normalizePropertyNoFromExcel (cells .propertyNo) (cells .surveyId)).getD []

/-- One of the numbers is missing. -/
def lacksNumber (cells : RowCells) : Bool :=
  (parcelNoOf cells).isEmpty || (propertyNoOf cells).isEmpty

/-- The ward and the numbers. -/
def identityReport (cells : RowCells) : RowReport :=
  let report : RowReport := {}
  let report :=
    if (wardOf env cells).isNone then report.mark .invalid ("Ward not found for " ++
      String.ofList ((filled (cells .wardName)).getD (cells .surveyId)))
    else report
  if lacksNumber cells then report.mark .invalid "Unparseable parcel or property number"
  else report

/-- The canonical id of a row with a ward and both numbers. What is thrown for
it is caught nowhere. -/
def previewSurveyId (cells : RowCells) : Except SurveyError Text :=
  match wardOf env cells with
  | some ward =>
      if lacksNumber cells then .ok (cells .surveyId)
      else (resolveImportSurveyId (cells .surveyId) ward.number (parcelNoOf cells)
        (propertyNoOf cells) env.ulbCode).mapError .identity
  | none => .ok (cells .surveyId)

/-- The row as `findImportDuplicate` looks for it: by its ids, its ward and its
numbers. -/
def lookupRow (cells : RowCells) (ward : Ward) (surveyId : Text) : ImportRow where
  ward := ward
  rawSurveyId := cells .surveyId
  surveyId := surveyId
  parcelNo := parcelNoOf cells
  propertyNo := propertyNoOf cells
  payload := rowPayload env job cells ward surveyId (parcelNoOf cells) (propertyNoOf cells)
  floors := []

def findExisting (cells : RowCells) (surveyId : Text) : SurveyScript (Option Survey) :=
  match wardOf env cells with
  | some ward => findImportDuplicate (lookupRow env job cells ward surveyId)
  | none => pure none

/-- Is the row one of before, in the file or in the database? -/
def reportDuplicate (progress : PreviewProgress) (cells : RowCells) (surveyId : Text)
    (report : RowReport) : SurveyScript (PreviewProgress × RowReport) :=
  if report.classification = .invalid then pure (progress, report)
  else if progress.fileSurveyIds.contains surveyId ||
      progress.fileSurveyIds.contains (cells .surveyId) then
    pure (progress, report.mark .duplicate "Duplicate Survey Id within this file")
  else do
    let progress := { progress with
      fileSurveyIds := progress.fileSurveyIds ++ [surveyId, cells .surveyId] }
    let existing ← findExisting env job cells surveyId
    match existing with
    | some _ => return (progress, report.mark .duplicate "Survey already exists in the database")
    | none => return (progress, report)

def cityMessages (cells : RowCells) : List String :=
  let city := cells (.text .city)
  if !city.isEmpty && !isAllowedChhataCity city then
    ["City outside Chhata / Chhata Rural: " ++ String.ofList city]
  else []

def areaMessages (cells : RowCells) : List String :=
  collectAreaInconsistencyMessages fun column => parseNumber (cells (.area column))

/-- How the row is classified, and the ids met then. -/
def classifyRow (progress : PreviewProgress) (cells : RowCells) :
    SurveyScript (PreviewProgress × RowReport) := do
  let surveyId ← orThrow (previewSurveyId env cells)
  let met ← reportDuplicate env job progress cells surveyId (identityReport env cells)
  return (met.1, (met.2.warn (cityMessages cells)).warn (areaMessages cells))

def previewRow (map : ColumnMap) (progress : PreviewProgress) (numbered : List ExcelValue × Nat) :
    SurveyScript PreviewProgress := do
  let cells := readRow env map numbered.1
  if (cells .surveyId).isEmpty then return progress
  else do
    let classified ← classifyRow env job progress cells
    let row : ImportPreviewSampleRow := ⟨numbered.2, cells .surveyId,
      classified.2.classification, classified.2.messages⟩
    return (classified.1.count row).sample row

/-! ### The preview -/

def previewWarnings (unmappedHeaders : List Text) (progress : PreviewProgress) : List String :=
  (if 0 < unmappedHeaders.length then
    [toString unmappedHeaders.length ++ " header(s) are not mapped to survey fields"] else []) ++
  (if 0 < progress.invalidRows then
    [toString progress.invalidRows ++ " row(s) are invalid and will fail on import"] else []) ++
  if 0 < progress.duplicateRows then
    [toString progress.duplicateRows ++ " row(s) match duplicates (file or database)"] else []

/-- A layout has no negative columns that `columnMapToJson` would leave out. -/
def preview (sheet : Option Sheet) : SurveyScript ImportPreviewResult := do
  let loaded ← orThrow ((loadSurveySheet env sheet).mapError .api)
  let headers := loaded.2.header.map fun value => cell env.toISOString [value] (some 0)
  let progress ← (loaded.2.rows.zipIdx 2).foldlM (previewRow env job loaded.1) {}
  let unmappedHeaders := listUnmappedHeaders headers
  return {
    totalRows := progress.totalRows
    validRows := progress.validRows
    invalidRows := progress.invalidRows
    duplicateRows := progress.duplicateRows
    warningRows := progress.warningRows
    sampleRows := progress.sampleRows
    unmappedHeaders
    columnMapping := loaded.1
    warnings := previewWarnings unmappedHeaders progress }

end ImportsService
end PropertyTax.Surveys
