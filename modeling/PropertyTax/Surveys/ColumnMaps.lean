import PropertyTax.Surveys.Store

/-! The column layouts of the Excel sheets, how a header row chooses and
corrects one, and how a cell is read. -/
namespace PropertyTax.Surveys

inductive ColumnKey where
  | surveyId | surveyedAt | wardName | isSlum | parcelNo | propertyNo | totalWaterConnections
  | text (column : TextColumn)
  | flag (column : FlagColumn)
  | area (column : AreaColumn)
deriving DecidableEq

/-- Where a layout has its columns. -/
abbrev ColumnMap := ColumnKey → Option Nat

/-- A layout without gaps: its keys in order, from a first index on. -/
def ColumnMap.ofKeys (start : Nat) (keys : List ColumnKey) : ColumnMap :=
  fun key => (keys.findIdx? (· = key)).map (start + ·)

/-- Ward 1 workbooks start with the Survey Id. -/
def CHHATA_V1_38 : ColumnMap := .ofKeys 0
  [.surveyId, .surveyedAt, .text .ownerName, .text .ownerFatherName, .text .mobile, .wardName,
    .isSlum, .parcelNo, .propertyNo, .text .respondentName, .text .respondentRelationship,
    .text .city, .text .pincode, .text .houseNo, .text .streetName, .text .locality, .text .colony,
    .text .taxRateZone, .text .propertyOwnership, .text .propertyUse, .text .commercial,
    .text .yearOfConstruction, .text .situation, .text .roadType, .text .floorsRaw,
    .area .plotAreaSqFt, .area .plotAreaSqMeter, .area .plinthAreaSqFt, .area .plinthAreaSqMeter,
    .area .totalBuiltUpAreaSqFt, .area .totalBuiltUpAreaSqMeter, .flag .hasMunicipalWaterSupply,
    .totalWaterConnections, .text .waterConnectionIdType, .text .toiletType,
    .flag .hasMunicipalWasteService, .flag .hasAlternateWater, .text .waterSourceType]

/-- The same with the Aadhaar number after the respondent. -/
def CHHATA_V1_39 : ColumnMap := .ofKeys 0
  [.surveyId, .surveyedAt, .text .ownerName, .text .ownerFatherName, .text .mobile, .wardName,
    .isSlum, .parcelNo, .propertyNo, .text .respondentName, .text .respondentRelationship,
    .text .ownerAadhaar, .text .city, .text .pincode, .text .houseNo, .text .streetName,
    .text .locality, .text .colony, .text .taxRateZone, .text .propertyOwnership,
    .text .propertyUse, .text .commercial, .text .yearOfConstruction, .text .situation,
    .text .roadType, .text .floorsRaw, .area .plotAreaSqFt, .area .plotAreaSqMeter,
    .area .plinthAreaSqFt, .area .plinthAreaSqMeter, .area .totalBuiltUpAreaSqFt,
    .area .totalBuiltUpAreaSqMeter, .flag .hasMunicipalWaterSupply, .totalWaterConnections,
    .text .waterConnectionIdType, .text .toiletType, .flag .hasMunicipalWasteService,
    .flag .hasAlternateWater, .text .waterSourceType]

/-- Workbooks of the other wards, after a serial number and actions. -/
def CHHATA_V2_55 : ColumnMap := .ofKeys 2
  [.surveyId, .surveyedAt, .text .ownerName, .text .ownerFatherName, .text .mobile, .wardName,
    .isSlum, .text .remark, .parcelNo, .propertyNo, .text .electricityId, .text .khasraNo,
    .text .registryNo, .text .constructedDate, .text .respondentName,
    .text .respondentRelationship, .text .ownerAadhaar, .text .city, .text .pincode,
    .text .houseNo, .text .streetName, .text .locality, .text .colony, .text .presentHouseNo,
    .text .presentStreetName, .text .presentLocality, .text .presentColony, .text .presentCity,
    .text .presentPincode, .flag .isSameAsProperty, .text .taxRateZone, .text .propertyOwnership,
    .text .propertyUse, .text .commercial, .text .yearOfConstruction, .text .exemptionType,
    .flag .exemptionApplicable, .text .situation, .text .roadType, .text .floorsRaw,
    .area .plotAreaSqFt, .area .plotAreaSqMeter, .area .plinthAreaSqFt, .area .plinthAreaSqMeter,
    .area .totalBuiltUpAreaSqFt, .area .totalBuiltUpAreaSqMeter, .flag .hasMunicipalWaterSupply,
    .totalWaterConnections, .text .waterConnectionIdType, .text .toiletType,
    .flag .hasMunicipalWasteService]

inductive MappingPreset where
  | chhataV1_38 | chhataV1_39 | chhataV2_55
deriving DecidableEq

def getMapping : MappingPreset → ColumnMap
  | .chhataV1_38 => CHHATA_V1_38
  | .chhataV1_39 => CHHATA_V1_39
  | .chhataV2_55 => CHHATA_V2_55

/-! ### Headers -/

def lowerCase (text : Text) : Text := (Js.toLowerCase (String.ofList text)).toList

/-- `value.toLowerCase().replace(/[^a-z0-9]/g, "")` -/
def normHeader (value : Text) : Text := (lowerCase value).filter fun c => c.isLower || c.isDigit

def HEADER_FIELD_TOKENS : List (ColumnKey × Text) :=
  [(.surveyId, "surveyid".toList), (.surveyedAt, "dateofsurvey".toList),
    (.text .ownerName, "ownername".toList), (.text .ownerFatherName, "ownerfathername".toList),
    (.text .mobile, "mobileno".toList), (.wardName, "wardname".toList),
    (.isSlum, "isslum".toList), (.text .remark, "remark".toList),
    (.parcelNo, "parcelno".toList), (.propertyNo, "propertyno".toList),
    (.text .electricityId, "electricityid".toList), (.text .khasraNo, "khasrano".toList),
    (.text .registryNo, "registryno".toList), (.text .constructedDate, "constructeddate".toList),
    (.text .respondentName, "respondentname".toList),
    (.text .respondentRelationship, "respondentrelationship".toList),
    (.text .ownerAadhaar, "owneraadhaarnumber".toList), (.text .city, "city".toList),
    (.text .pincode, "pincode".toList), (.text .houseNo, "houseno".toList),
    (.text .streetName, "streetname".toList), (.text .locality, "locality".toList),
    (.text .colony, "colony".toList), (.text .presentHouseNo, "presenthouseno".toList),
    (.text .presentStreetName, "presentstreetname".toList),
    (.text .presentLocality, "presentlocality".toList),
    (.text .presentColony, "presentcolony".toList), (.text .presentCity, "presentcity".toList),
    (.text .presentPincode, "presentpincode".toList),
    (.flag .isSameAsProperty, "issameasproperty".toList),
    (.text .taxRateZone, "taxratezone".toList),
    (.text .propertyOwnership, "propertyownership".toList),
    (.text .propertyUse, "propertyuse".toList), (.text .commercial, "commercial".toList),
    (.text .yearOfConstruction, "yearofconstruction".toList),
    (.text .exemptionType, "exemptiontype".toList),
    (.flag .exemptionApplicable, "exemptionapplicable".toList),
    (.text .situation, "situation".toList), (.text .roadType, "roadtype".toList),
    (.text .floorsRaw, "floors".toList), (.area .plotAreaSqFt, "plotareasqft".toList),
    (.area .plotAreaSqMeter, "plotareasqmeter".toList),
    (.area .plinthAreaSqFt, "plinthareasqft".toList),
    (.area .plinthAreaSqMeter, "plinthareasqmeter".toList),
    (.area .totalBuiltUpAreaSqFt, "totalbuiltupareasqft".toList),
    (.area .totalBuiltUpAreaSqMeter, "totalbuiltupareasqmeter".toList),
    (.flag .hasMunicipalWaterSupply, "ismuncipalwatersupply".toList),
    (.totalWaterConnections, "totalwaterconnection".toList),
    (.text .waterConnectionIdType, "waterconnectionidtype".toList),
    (.text .toiletType, "toilettype".toList),
    (.flag .hasMunicipalWasteService, "ismuncipalwasteservice".toList)]

/-- The headers correct the layout. The second and third header of the water
supply are those of the alternate water, which have no token of their own. -/
def refineMappingFromHeaders (base : ColumnMap) (headers : List Text) : ColumnMap :=
  let normalized := headers.map normHeader
  let waterSupplyIdxs := normalized.findIdxs (· = "ismuncipalwatersupply".toList)
  fun key =>
    match key with
    | .flag .hasAlternateWater => waterSupplyIdxs[1]? <|> base key
    | .text .waterSourceType => waterSupplyIdxs[2]? <|> base key
    | _ => (HEADER_FIELD_TOKENS.lookup key).bind (fun token => normalized.findIdx? (· = token)) <|>
        base key

/-- A substring of ASCII letters, in any case. -/
def containsLabel (label text : Text) : Bool := text.tails.any (startsWith label)

def tryDetectPresetFromHeaders (headers : List Text) : Option MappingPreset :=
  let first := (lowerCase (headers.headD [])).filter fun c => !(c == '.' || Js.isSpace c)
  if first = "sn".toList ∨ first = "sno".toList then some .chhataV2_55
  else if containsLabel "surveyid".toList first then
    if headers.any (containsLabel "aadhaar".toList) ||
        (headers.findIdx? fun header => normHeader header = "floors".toList) == some 25 then
      some .chhataV1_39
    else some .chhataV1_38
  else none

/-! ### Cells -/

/-- The values of a cell. A number is finite; an object with none of the known
fields is printed as one. -/
inductive ExcelValue where
  | null
  | date (time : ℤ)
  | number (value : ℚ)
  | boolean (value : Bool)
  | string (value : Text)
  | labelled (text : Text)
  | formula (result : ExcelValue)
  | richText (parts : List Text)
  | object
deriving DecidableEq

def excelValueToString (toISOString : ℤ → Text) : ExcelValue → Text
  | .null => []
  | .date time => toISOString time
  | .number value => (Js.numberToString value).toList
  | .boolean value => if value then "true".toList else "false".toList
  | .string value => Js.trimChars value
  | .labelled text => Js.trimChars text
  | .formula result => excelValueToString toISOString result
  | .richText parts => Js.trimChars parts.flatten
  | .object => "[object Object]".toList

/-- `/^(n\/a|na|null|-|none)$/i` -/
def isEmptyCell (text : Text) : Bool :=
  ["n/a".toList, "na".toList, "null".toList, "-".toList, "none".toList].contains
    (text.map Char.toLower)

def cell (toISOString : ℤ → Text) (row : List ExcelValue) (index : Option Nat) : Text :=
  let text := excelValueToString toISOString ((index.bind fun i => row[i]?).getD .null)
  if isEmptyCell text then [] else text

def parseBool (value : Text) : Option Bool :=
  let v := lowerCase value
  if ["y".toList, "yes".toList, "true".toList, "1".toList].contains v then some true
  else if ["n".toList, "no".toList, "false".toList, "0".toList].contains v then some false
  else none

/-- A number too large for a double is not finite. -/
def parseNumber (value : Text) : Option ℚ :=
  if value.isEmpty || isEmptyCell value then none
  else
    match Js.number? (String.ofList (value.filter (· ≠ ','))) with
    | some x => if |x| < 2 ^ 1024 then some x else none
    | none => none

/-- `\s+at\s+` at the start of the text; what follows it. -/
def afterAt (text : Text) : Option Text :=
  let rest := text.dropWhile Js.isSpace
  match rest.drop 2 with
  | c :: tail =>
      if rest.length < text.length && startsWith "at".toList rest && Js.isSpace c then
        some (tail.dropWhile Js.isSpace)
      else none
  | [] => none

/-- `value.replace(/\s+at\s+/i, " ")` -/
def replaceAt : Text → Text
  | [] => []
  | c :: rest =>
      match afterAt (c :: rest) with
      | some tail => ' ' :: tail
      | none => c :: replaceAt rest

def parseSurveyedAt (parseDate : Text → Option ℤ) (value : Text) : Option ℤ :=
  if value.isEmpty then none else parseDate (replaceAt value)

def stripLabel (label text : Text) : Option Text :=
  if startsWith label text then some (text.drop label.length) else none

/-- `\s*(\d+)` at the start of the text. -/
def leadingNumber (text : Text) : Option Nat :=
  Js.digitsValue? 10 ((text.dropWhile Js.isSpace).takeWhile Char.isDigit)

/-- `(?:no\.?|number)?` after `ward\s*`. -/
def skipNumberWord (text : Text) : Text :=
  match stripLabel "no".toList text, stripLabel "number".toList text with
  | some ('.' :: rest), _ => rest
  | some rest, _ => rest
  | none, some rest => rest
  | none, none => text

/-- The two spellings of a ward's name. -/
def wardNumberAt (text : Text) : Option Nat :=
  ((stripLabel "वार्ड".toList text).bind fun rest =>
    (stripLabel "नंबर".toList (rest.dropWhile Js.isSpace)).bind leadingNumber) <|>
  (stripLabel "ward".toList text).bind fun rest =>
    leadingNumber (skipNumberWord (rest.dropWhile Js.isSpace))

/-- The name has precedence over the Survey Id. -/
def extractWardNumber (wardName surveyId : Text) : Option Nat :=
  match wardName.tails.findSome? wardNumberAt with
  | some number => some number
  | none => wardNumberFromSurveyId surveyId

example : extractWardNumber "Ward No. 12 (East)".toList [] = some 12 ∧
    extractWardNumber "East".toList "249044-007-000001-001-R".toList = some 7 ∧
    replaceAt "4 May 2024 at 09:05:00 am".toList = "4 May 2024 09:05:00 am".toList := by
  decide

end PropertyTax.Surveys
