import PropertyTax.Library.JsText
import PropertyTax.Store

/-! The GIS Survey Id: `ULB-ward-parcel-property-use`, how it is read and
printed, and the normal forms of its numbers. Strings of the survey module are
handled as lists of characters. -/
namespace PropertyTax.Surveys

abbrev Text := List Char

def CHHATA_ULB_CODE : Text := "249044".toList

/-- `process.env.ULB_CODE?.trim() || CHHATA_ULB_CODE` -/
def getUlbCode (setting : Option Text) : Text :=
  match setting.map Js.trimChars with
  | some (c :: rest) => c :: rest
  | _ => CHHATA_ULB_CODE

structure GisSurveyParts where
  ulbCode : Text
  wardNo : Text
  parcelNo : Text
  propertyNo : Text
  gisUseCode : Text
deriving DecidableEq

/-- What the normalisers throw. -/
inductive IdentityError where
  | wardRequired | parcelRequired | propertyRequired | gisUseCodeRequired
deriving DecidableEq

def IdentityError.message : IdentityError → String
  | wardRequired => "Ward number is required"
  | parcelRequired => "Parcel number is required"
  | propertyRequired => "Property number is required"
  | gisUseCodeRequired => "GIS use code is required"

/-- A nonempty run of decimal digits, `^\d+$`. -/
def isNumeral (text : Text) : Bool := !text.isEmpty && text.all Char.isDigit

/-- `^(\d+)-(\d{3})-(\d+)-(\d+)-([A-Za-z])$`: no part can hold the hyphen. -/
def parseGisSurveyId (surveyId : Text) : Option GisSurveyParts :=
  match (Js.trimChars surveyId).splitOn '-' with
  | [ulbCode, wardNo, parcelNo, propertyNo, [letter]] =>
      if isNumeral ulbCode && isNumeral wardNo && wardNo.length == 3 && isNumeral parcelNo &&
          isNumeral propertyNo && letter.isAlpha then
        some ⟨ulbCode, wardNo, parcelNo, propertyNo, [letter.toUpper]⟩
      else none
  | _ => none

/-- `value.replace(/\D/g, "")` -/
def onlyDigits (value : Text) : Text := value.filter Char.isDigit

/-- The digits of a value, padded with zeros to a width. -/
def normalizeNumber (width : Nat) (missing : IdentityError) (value : Text) :
    Except IdentityError Text :=
  if (onlyDigits value).isEmpty then .error missing
  else .ok ((onlyDigits value).leftpad (max width (onlyDigits value).length) '0')

def integerToString (n : ℤ) : Text :=
  if n < 0 then '-' :: Js.digits n.natAbs else Js.digits n.natAbs

/-- `padStart(3, "0")`; the padding of a longer number changes nothing. -/
def normalizeWardCode (wardNo : ℤ) : Except IdentityError Text :=
  normalizeNumber 3 .wardRequired (integerToString wardNo)

def normalizeParcelNo : Text → Except IdentityError Text := normalizeNumber 6 .parcelRequired

def normalizePropertyNo : Text → Except IdentityError Text := normalizeNumber 3 .propertyRequired

def normalizeGisUseCode (value : Text) : Except IdentityError Text :=
  match (Js.trimChars value).filter Char.isAlpha with
  | [] => .error .gisUseCodeRequired
  | letter :: _ => .ok [letter.toUpper]

/-- The template of the id. -/
def printSurveyId (ulbCode wardCode parcelNo propertyNo gisUseCode : Text) : Text :=
  ['-'].intercalate [ulbCode, wardCode, parcelNo, propertyNo, gisUseCode]

def generateSurveyId (ulbCode : Text) (wardNo : ℤ) (parcelNo propertyNo gisUseCode : Text) :
    Except IdentityError Text := do
  let wardCode ← normalizeWardCode wardNo
  let parcelNo ← normalizeParcelNo parcelNo
  let propertyNo ← normalizePropertyNo propertyNo
  let gisUseCode ← normalizeGisUseCode gisUseCode
  return printSurveyId (Js.trimChars ulbCode) wardCode parcelNo propertyNo gisUseCode

/-- Every caller gives the id and the ULB code; the number and letter columns
may be missing. -/
def buildSurveyIdFromRecord (ulbCode : Text) (wardNumber : ℤ) (surveyId : Text)
    (parcelNo propertyNo gisUseCode : Option Text) : Except IdentityError Text := do
  let parsed := parseGisSurveyId surveyId
  let parcelNo ← normalizeParcelNo ((parcelNo <|> parsed.map (·.parcelNo)).getD [])
  let propertyNo ← normalizePropertyNo ((propertyNo <|> parsed.map (·.propertyNo)).getD [])
  let gisUseCode ← normalizeGisUseCode ((gisUseCode <|> parsed.map (·.gisUseCode)).getD [])
  generateSurveyId ulbCode wardNumber parcelNo propertyNo gisUseCode

def parcelFromSurveyId (surveyId : Text) : Option Text :=
  (parseGisSurveyId surveyId).map (·.parcelNo)

def propertyFromSurveyId (surveyId : Text) : Option Text :=
  (parseGisSurveyId surveyId).map (·.propertyNo)

/-- `null` for the placeholder `000`. -/
def wardNumberFromSurveyId (surveyId : Text) : Option Nat :=
  match (parseGisSurveyId surveyId).bind fun parts => Js.digitsValue? 10 parts.wardNo with
  | some (n + 1) => some (n + 1)
  | _ => none

def resolveImportSurveyId (rawSurveyId : Text) (wardNumber : ℤ) (parcelNo propertyNo ulbCode : Text) :
    Except IdentityError Text :=
  let parsed := parseGisSurveyId rawSurveyId
  buildSurveyIdFromRecord ulbCode wardNumber rawSurveyId (some parcelNo) (some propertyNo)
    (some ((parsed.map (·.gisUseCode)).getD ['R']))

/-- The Excel cell is the source of a number of the id; the id itself is used
only when the cell is empty. -/
def normalizeFromExcel (width : Nat) (fromSurveyId : Text → Option Text) (excelValue surveyId : Text) :
    Option Text :=
  let trimmed := Js.trimChars excelValue
  if trimmed.isEmpty then fromSurveyId surveyId
  else if (onlyDigits trimmed).isEmpty then some trimmed
  else some ((onlyDigits trimmed).leftpad (max width (onlyDigits trimmed).length) '0')

def normalizeParcelNoFromExcel : Text → Text → Option Text := normalizeFromExcel 6 parcelFromSurveyId

def normalizePropertyNoFromExcel : Text → Text → Option Text :=
  normalizeFromExcel 3 propertyFromSurveyId

/-! ### The identity of a stored survey -/

structure SurveyIdentityInput where
  surveyId : Option Text
  parcelNo : Option Text
  propertyNo : Option Text
  gisUseCode : Option Text

structure SurveyIdRecord where
  surveyId : Text
  parcelNo : Option Text
  propertyNo : Option Text

structure ResolvedSurveyIdentity where
  parcelNo : Text
  propertyNo : Text
  gisUseCode : Text
  surveyId : Text

/-- An empty id counts as no id. -/
def parsedIdentity (input : SurveyIdentityInput) : Option SurveyIdRecord → Option GisSurveyParts
  | some ⟨c :: rest, _, _⟩ => parseGisSurveyId (c :: rest)
  | _ => input.surveyId.bind parseGisSurveyId

def resolveSurveyIdentity (ulbCode : Text) (wardNumber : ℤ) (input : SurveyIdentityInput)
    (current : Option SurveyIdRecord) : Except IdentityError ResolvedSurveyIdentity := do
  let parsed := parsedIdentity input current
  let parcelNo ← normalizeParcelNo ((input.parcelNo <|> current.bind SurveyIdRecord.parcelNo <|>
    parsed.map GisSurveyParts.parcelNo).getD [])
  let propertyNo ← normalizePropertyNo ((input.propertyNo <|>
    current.bind SurveyIdRecord.propertyNo <|> parsed.map GisSurveyParts.propertyNo).getD [])
  let gisUseCode ← normalizeGisUseCode
    ((input.gisUseCode <|> parsed.map GisSurveyParts.gisUseCode).getD [])
  let surveyId ← generateSurveyId ulbCode wardNumber parcelNo propertyNo gisUseCode
  return ⟨parcelNo, propertyNo, gisUseCode, surveyId⟩

def getExpectedSurveyIdFromRecord (ulbCode : Text) (survey : SurveyIdRecord) (wardNumber : ℤ) :
    Except IdentityError Text :=
  buildSurveyIdFromRecord ulbCode wardNumber survey.surveyId survey.parcelNo survey.propertyNo
    ((parseGisSurveyId survey.surveyId).map (·.gisUseCode))

/-- A record that no id can be built from is left alone. -/
def surveyIdNeedsRepair (ulbCode : Text) (survey : SurveyIdRecord) (wardNumber : ℤ) : Bool :=
  match getExpectedSurveyIdFromRecord ulbCode survey wardNumber with
  | .ok expected => survey.surveyId ≠ expected
  | .error _ => false

end PropertyTax.Surveys
