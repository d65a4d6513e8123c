import PropertyTax.Surveys.Imports
import PropertyTax.Surveys.Listing

/-! The export workbook: the layout of a ward, the cells of a row, and the surveys
that are exported. -/
namespace PropertyTax.Surveys
open KeyedTable Scripts

/-- Headers of the Ward 1 workbook. -/
def CHHATA_V1_HEADERS : List String :=
  ["Survey Id", "Date of Survey", "Owner Name", "Owner Father Name", "Mobile No", "Ward Name",
    "Is Slum", "Parcel No", "Property No", "Respondent Name", "Respondent Relationship", "City",
    "Pincode", "House No", "Street Name", "Locality", "Colony", "Tax Rate Zone",
    "Property Ownership", "Property Use", "Commercial", "Year of Construction", "Situation",
    "Road Type", "Floors", "Plot Area SqFt", "Plot Area SqMeter", "Plinth Area SqFt",
    "Plinth Area SqMeter", "Total Built Up Area SqFt", "Total Built Up Area SqMeter",
    "Is Muncipal Water Supply", "Total Water Connection", "Water Connection Id/Type",
    "Toilet Type", "Is Muncipal Waste Service", "Is Muncipal Water Supply",
    "Is Muncipal Water Supply"]

/-- Headers of the workbooks of the other wards. -/
def CHHATA_V2_HEADERS : List String :=
  ["SN", "Actions", "Survey Id", "Date of Survey", "Owner Name", "Owner Father Name",
    "Mobile No", "Ward Name", "Is Slum", "Remark", "Parcel No", "Property No", "Electricity ID",
    "Khasra No", "Registry No", "Constructed Date", "Respondent Name",
    "Respondent Relationship", "Owner Aadhaar Number", "City", "Pincode", "House No",
    "Street Name", "Locality", "Colony", "Present House No", "Present Street Name",
    "Present Locality", "Present Colony", "Present City", "Present Pincode",
    "Is Same As Property", "Tax Rate Zone", "Property Ownership", "Property Use", "Commercial",
    "Year of Construction", "Exemption Type", "Exemption Applicable", "Situation", "Road Type",
    "Floors", "Plot Area SqFt", "Plot Area SqMeter", "Plinth Area SqFt", "Plinth Area SqMeter",
    "Total Built Up Area SqFt", "Total Built Up Area SqMeter", "Is Muncipal Water Supply",
    "Total Water Connection", "Water Connection Id/Type", "Toilet Type",
    "Is Muncipal Waste Service", "Is Muncipal Water Supply", "Is Muncipal Water Supply"]

/-- The trailing headers of the second layout, which its map does not have. -/
def V2_ALTERNATE_WATER_COL : Nat := 53

def V2_WATER_SOURCE_COL : Nat := 54

def MONTHS : List String :=
  ["January", "February", "March", "April", "May", "June", "July", "August", "September",
    "October", "November", "December"]

/-- A date in the time zone of the server. -/
structure LocalTime where
  day : Nat
  month : Nat
  year : ℤ
  hours : Nat
  minutes : Nat
  seconds : Nat

def detectExportPreset (wardNumber : Option ℤ) : MappingPreset :=
  if wardNumber = some 1 then .chhataV1_38 else .chhataV2_55

def getExportHeaders (preset : MappingPreset) : List String :=
  if preset = .chhataV1_38 then CHHATA_V1_HEADERS else CHHATA_V2_HEADERS

/-- `toString().padStart(2, "0")` -/
def twoDigitText (n : Nat) : Text := (Js.digits n).leftpad 2 '0'

def formatSurveyedAtForExcel (date : LocalTime) : Text :=
  let ampm := if 12 ≤ date.hours then "pm".toList else "am".toList
  let hours := if date.hours % 12 = 0 then 12 else date.hours % 12
  Js.digits date.day ++ ' ' :: (MONTHS[date.month]?.getD "undefined").toList ++
    ' ' :: integerToString date.year ++ " at ".toList ++ twoDigitText hours ++
    ':' :: twoDigitText date.minutes ++ ':' :: twoDigitText date.seconds ++ ' ' :: ampm

example : formatSurveyedAtForExcel ⟨4, 4, 2024, 12, 5, 0⟩ =
    "4 May 2024 at 12:05:00 pm".toList := by decide

def formatBoolForExcel : Option Bool → Text
  | some true => "Yes".toList
  | some false => "No".toList
  | none => []

def formatDecimalForExcel (units : Option ℤ) : Text :=
  (units.map fun n => (Js.numberToString (FixedPoint.toNumber AREA_SCALE n)).toList).getD []

/-- An empty value leaves the cell as it is. -/
def setCell (row : List ExcelValue) (index : Option Nat) (value : ExcelValue) : List ExcelValue :=
  match index with
  | none => row
  | some i => if value = .string [] ∨ value = .null then row else row.set i value

section Row
variable (localTime : ℤ → LocalTime) (ward : Ward) (survey : Survey)

def exportValue : ColumnKey → ExcelValue
  | .surveyId => .string survey.surveyId
  | .surveyedAt =>
      .string ((survey.surveyedAt.map fun time => formatSurveyedAtForExcel (localTime time)).getD [])
  | .wardName => .string ward.name
  | .isSlum => .string (formatBoolForExcel (some survey.isSlum))
  | .parcelNo => .string (survey.parcelNo.getD [])
  | .propertyNo => .string (survey.propertyNo.getD [])
  | .totalWaterConnections =>
      (survey.totalWaterConnections.map fun count : ℤ => ExcelValue.number count).getD (.string [])
  | .text column => .string ((survey.text column).getD [])
  | .flag column => .string (formatBoolForExcel (survey.flag column))
  | .area column => .string (formatDecimalForExcel (survey.area column))

/-- The columns in the order in which they are written. -/
def EXPORT_KEYS : List ColumnKey :=
  [.surveyId, .surveyedAt, .text .ownerName, .text .ownerFatherName, .text .mobile, .wardName,
    .isSlum, .parcelNo, .propertyNo, .text .respondentName, .text .respondentRelationship,
    .text .city, .text .pincode, .text .houseNo, .text .streetName, .text .locality,
    .text .colony, .text .taxRateZone, .text .propertyOwnership, .text .propertyUse,
    .text .commercial, .text .yearOfConstruction, .text .situation, .text .roadType,
    .text .floorsRaw, .area .plotAreaSqFt, .area .plotAreaSqMeter, .area .plinthAreaSqFt,
    .area .plinthAreaSqMeter, .area .totalBuiltUpAreaSqFt, .area .totalBuiltUpAreaSqMeter,
    .flag .hasMunicipalWaterSupply, .totalWaterConnections, .text .waterConnectionIdType,
    .text .toiletType, .flag .hasMunicipalWasteService, .text .remark, .text .electricityId,
    .text .khasraNo, .text .registryNo, .text .constructedDate, .text .ownerAadhaar,
    .text .presentHouseNo, .text .presentStreetName, .text .presentLocality,
    .text .presentColony, .text .presentCity, .text .presentPincode, .flag .isSameAsProperty,
    .text .exemptionType, .flag .exemptionApplicable, .flag .hasAlternateWater,
    .text .waterSourceType]

/-- Where a column is written. The alternate water has its place in the second
layout although the map does not say so. -/
def exportIndex (map : ColumnMap) : ColumnKey → Option Nat
  | .flag .hasAlternateWater =>
      map (.flag .hasAlternateWater) <|> (map (.text .remark)).map fun _ => V2_ALTERNATE_WATER_COL
  | .text .waterSourceType =>
      map (.text .waterSourceType) <|> (map (.text .remark)).map fun _ => V2_WATER_SOURCE_COL
  | key => map key

def applyMappedFields (row : List ExcelValue) (map : ColumnMap) : List ExcelValue :=
  EXPORT_KEYS.foldl (fun row key =>
    setCell row (exportIndex map key) (exportValue localTime ward survey key)) row

def surveyToExcelRow (preset : MappingPreset) (sn : Option Nat) : List ExcelValue :=
  let row := List.replicate (getExportHeaders preset).length (ExcelValue.string [])
  let numbered := if preset = .chhataV2_55 then
    (sn.map fun n => setCell row (some 0) (.number n)).getD row else row
  applyMappedFields localTime ward survey numbered (getMapping preset)

end Row

/-- The sheet of the workbook; the surveys come with their wards. -/
def buildSurveyExportWorkbook (localTime : ℤ → LocalTime) (surveys : List (Survey × Ward))
    (preset : MappingPreset) : Sheet where
  header := (getExportHeaders preset).map fun header => .string header.toList
  rows := surveys.mapIdx fun index record =>
    surveyToExcelRow localTime record.2 record.1 preset
      (if preset = .chhataV2_55 then some (index + 1) else none)

def buildSurveyExportFilename (wardNumber : Option ℤ) (stamp : Text) : Text :=
  match wardNumber with
  | some number => "survey-export-ward-".toList ++ integerToString number ++ '-' :: stamp ++
      ".xlsx".toList
  | none => "survey-export-all-".toList ++ stamp ++ ".xlsx".toList

structure ExportFilters where
  wardId : Option Id := none
  status : Option SurveyStatus := none

/-- The workbook that is stored, under its name. -/
structure SurveyExport where
  fileName : Text
  rowCount : Nat
  workbook : Sheet

namespace ImportsService
open SurveysService
variable (env : Env) (localTime : ℤ → LocalTime)

/-- `findMany`, at most fifty thousand. -/
def exportedSurveys (filters : ExportFilters) (db : SurveyDb) : List Survey :=
  let found := db.surveys.rows.filter fun survey =>
    survey.isLive && hasStatus filters.status survey &&
      filters.wardId.all fun wardId => survey.wardId = wardId
  (found.mergeSort (lexicographic [wardLe env, SortBy.le env .parcelNo,
    SortBy.le env .surveyId])).take 50000

def exportWard (filters : ExportFilters) : Option Ward := filters.wardId.bind env.wards.find?

/-- `include: { ward: true }` -/
def withWard (survey : Survey) : Except SurveyError (Survey × Ward) :=
  match env.wards.find? survey.wardId with
  | some ward => .ok (survey, ward)
  | none => .error .invalidData

def exportSurveys (now : Timestamp) (filters : ExportFilters) : SurveyScript SurveyExport := do
  let ward ← read fun _ => exportWard env filters
  let surveys ← read (exportedSurveys env filters)
  let records ← orThrow (surveys.mapM (withWard env))
  let number := ward.map Ward.number
  return {
    fileName := buildSurveyExportFilename number ((env.toISOString now).take 10)
    rowCount := surveys.length
    workbook := buildSurveyExportWorkbook localTime records (detectExportPreset number) }

end ImportsService
end PropertyTax.Surveys
