import PropertyTax.Auth
import PropertyTax.Surveys.Audit

/-! The survey endpoints behind the permission guards: create, read,
update and delete. -/
namespace PropertyTax.Surveys
open KeyedTable Scripts

/-- What a call reads besides the database. The collation is that of the
database. -/
structure Env where
  ulbCodeSetting : Option Text
  wards : KeyedTable Ward
  parseDate : Text → Option ℤ
  toISOString : ℤ → Text
  foldCase : Text → Text
  collate : Text → Text → Bool
  /-- What the database client, or the runtime, says of an error of its own. -/
  clientMessage : SurveyError → String := fun _ => ""

namespace Env

def ulbCode (env : Env) : Text := getUlbCode env.ulbCodeSetting

end Env

/-- `CreateSurveyDto` and `UpdateSurveyDto` -/
structure SurveyDto where
  surveyId : Field Text := .undefined
  gisUseCode : Field Text := .undefined
  surveyedAt : Field Text := .undefined
  wardId : Field Id := .undefined
  isSlum : Field Bool := .undefined
  parcelNo : Field Text := .undefined
  propertyNo : Field Text := .undefined
  text : TextColumn → Field Text := fun _ => .undefined
  flag : FlagColumn → Field Bool := fun _ => .undefined
  area : AreaColumn → Field ℚ := fun _ => .undefined
  totalWaterConnections : Field ℤ := .undefined
  status : Field SurveyStatus := .undefined
  dataQualityStatus : Field DataQualityStatus := .undefined

/-- A survey with its floors, as `defaultInclude` returns it. -/
structure SurveyWithFloors where
  survey : Survey
  floors : List SurveyFloor
deriving DecidableEq

/-- The path parameter: a row id or a Survey Id. -/
inductive SurveyKey where
  | rowId (id : Id)
  | surveyId (surveyId : Text)
deriving DecidableEq

def SurveyKey.names : SurveyKey → Survey → Bool
  | .rowId id, survey => survey.id = id
  | .surveyId text, survey => survey.surveyId = text

def Survey.record (survey : Survey) : SurveyIdRecord :=
  ⟨survey.surveyId, survey.parcelNo, survey.propertyNo⟩

def Survey.isLive (survey : Survey) : Bool := survey.deletedAt.isNone

namespace SurveysService
variable (env : Env)

def wardNotFound : ApiError := .notFound (some "WARD_NOT_FOUND") "Ward not found"

def surveyExists : ApiError :=
  .conflict (some "SURVEY_EXISTS")
    "A survey already exists for this ULB, ward, parcel, property and GIS use code."

/-! ### Identity of a survey -/

/-- The data of a repair. -/
def repairData (expected : Text) (survey : Survey) : SurveyData where
  surveyId := .value expected
  parcelNo := .orNull ((parseGisSurveyId expected).map GisSurveyParts.parcelNo <|> survey.parcelNo)
  propertyNo :=
    .orNull ((parseGisSurveyId expected).map GisSurveyParts.propertyNo <|> survey.propertyNo)

def repairSurveyIdIfNeeded (survey : Survey) (wardNumber : ℤ) : SurveyScript Text :=
  if !surveyIdNeedsRepair env.ulbCode survey.record wardNumber then pure survey.surveyId
  else
    match getExpectedSurveyIdFromRecord env.ulbCode survey.record wardNumber with
    | .error error => Script.fail (.identity error)
    | .ok expected => do
        let clash ← read fun db => db.bySurveyId? expected
        if clash.any fun other => other.id ≠ survey.id && other.isLive then return survey.surveyId
        else do
          let _ ← statement (SurveyDb.updateSurvey survey.id (repairData expected survey) [])
          return expected

/-- The survey as it is returned after its repair. -/
def withSurveyId (survey : Survey) (surveyId : Text) : Survey :=
  if surveyId = survey.surveyId then survey
  else { survey with
    surveyId
    parcelNo := (parseGisSurveyId surveyId).map GisSurveyParts.parcelNo <|> survey.parcelNo
    propertyNo := (parseGisSurveyId surveyId).map GisSurveyParts.propertyNo <|> survey.propertyNo }

def ensureCanonicalSurveyId (survey : Survey) : SurveyScript Survey :=
  match env.wards.find? survey.wardId with
  | none => Script.fail .invalidData
  | some ward => do
      let surveyId ← repairSurveyIdIfNeeded env survey ward.number
      return withSurveyId survey surveyId

def assertSurveyIdAvailable (surveyId : Text) (excludeId : Id) : SurveyScript Unit := do
  let clash ← read fun db => db.bySurveyId? surveyId
  if clash.any fun other => other.id ≠ excludeId && other.isLive then throwApi surveyExists
  else return ()

/-! ### Create -/

/-- `!value?.trim()` -/
def isMissing (value : Field Text) : Bool := (Js.trimChars (value.toOption.getD [])).isEmpty

def assertCreateIdentityFields (dto : SurveyDto) : Except ApiError Unit :=
  if isMissing dto.parcelNo then
    .error (.badRequest (some "PARCEL_REQUIRED") "Parcel number is required")
  else if isMissing dto.propertyNo then
    .error (.badRequest (some "PROPERTY_REQUIRED") "Property number is required")
  else if isMissing dto.gisUseCode then
    .error (.badRequest (some "GIS_USE_CODE_REQUIRED") "GIS use code is required")
  else .ok ()

/-- An unparsable date is refused by the database client. -/
def newDate (text : Text) : Except SurveyError ℤ :=
  match env.parseDate text with
  | some time => .ok time
  | none => .error .invalidData

def toPrismaCreateData (dto : SurveyDto) (wardId : Id) (identity : ResolvedSurveyIdentity)
    (surveyedAt : Field ℤ) : SurveyData where
  surveyId := .value identity.surveyId
  wardId := .value wardId
  parcelNo := .value identity.parcelNo
  propertyNo := .value identity.propertyNo
  surveyedAt := surveyedAt
  isSlum := .value (dto.isSlum.toOption.getD false)
  text := dto.text
  flag := dto.flag
  area := dto.area
  totalWaterConnections := dto.totalWaterConnections.map Int.cast
  status := dto.status

/-- The data of `create`, with the quality the body gives or the computed one. -/
def createData (dto : SurveyDto) (wardId : Id) (identity : ResolvedSurveyIdentity)
    (surveyedAt : Field ℤ) (user : AuthUser) : SurveyData :=
  { toPrismaCreateData dto wardId identity surveyedAt with
    dataQualityStatus := .value (dto.dataQualityStatus.toOption.getD
      (computeDataQuality (dto.text .mobile).toOption (some identity.propertyNo)
        (some identity.parcelNo) (dto.area .plotAreaSqFt).toOption
        (dto.area .totalBuiltUpAreaSqFt).toOption))
    createdById := .value user.id
    updatedById := .value user.id }

/-- `dto.surveyedAt ? new Date(dto.surveyedAt) : undefined` -/
def createdSurveyedAt (surveyedAt : Field Text) : Except SurveyError (Field ℤ) :=
  match surveyedAt with
  | .value (c :: rest) => (newDate env (c :: rest)).map .value
  | _ => .ok .undefined

def withFloors (result : SurveyDb × Survey) : SurveyDb × SurveyWithFloors :=
  (result.1, ⟨result.2, result.1.floorsOf result.2.id⟩)

def create (now : Timestamp) (dto : SurveyDto) (user : AuthUser) :
    SurveyScript SurveyWithFloors := do
  orThrow ((assertSurveyAccess user (some user.id) .create).mapError .api)
  match dto.wardId.toOption with
  | none => throwApi (.badRequest (some "WARD_REQUIRED") "Ward is required")
  | some wardId => do
      orThrow ((assertCreateIdentityFields dto).mapError .api)
      let ward ← read fun _ => env.wards.find? wardId
      match ward with
      | none => throwApi wardNotFound
      | some ward => do
          let identity ← orThrow ((resolveSurveyIdentity env.ulbCode ward.number
            ⟨dto.surveyId.toOption, dto.parcelNo.toOption, dto.propertyNo.toOption,
              dto.gisUseCode.toOption⟩ none).mapError .identity)
          if (dto.surveyId.toOption.any fun surveyId =>
              !surveyId.isEmpty && Js.trimChars surveyId ≠ identity.surveyId) then
            throwApi (.badRequest (some "SURVEY_ID_MISMATCH")
              ("Survey ID must match generated value " ++ String.ofList identity.surveyId))
          else do
            let existing ← read fun db => db.bySurveyId? identity.surveyId
            if existing.any Survey.isLive then throwApi surveyExists
            else do
              let surveyedAt ← orThrow (createdSurveyedAt env dto.surveyedAt)
              let created ← statement fun db => (db.createSurvey
                (createData dto wardId identity surveyedAt user)
                (parseFloorsRaw (dto.text .floorsRaw).toOption) now).map withFloors
              write (SurveyDb.log (.created created.survey.id user.id
                [⟨.surveyId, .null, .text created.survey.surveyId⟩,
                  ⟨.parcelNo, .null, .ofOption .text created.survey.parcelNo⟩,
                  ⟨.propertyNo, .null, .ofOption .text created.survey.propertyNo⟩,
                  ⟨.gisUseCode, .null, .text identity.gisUseCode⟩]))
              return created

/-! ### Read -/

def surveyNotFound : ApiError := .notFound (some "SURVEY_NOT_FOUND") "Survey not found"

def findOne (key : SurveyKey) (user : AuthUser) : SurveyScript SurveyWithFloors := do
  let found ← read fun db =>
    (db.surveys.findFirst? fun survey => key.names survey && survey.isLive).map fun survey =>
      (⟨survey, db.floorsOf survey.id⟩ : SurveyWithFloors)
  match found with
  | none => throwApi surveyNotFound
  | some found => do
      orThrow ((assertSurveyAccess user found.survey.createdById .read).mapError .api)
      let survey ← ensureCanonicalSurveyId env found.survey
      return { found with survey }

/-! ### Update -/

def mergeIdentityInput (dto : SurveyDto) (current : Survey) : SurveyIdentityInput where
  surveyId := some current.surveyId
  parcelNo := dto.parcelNo.toOption <|> current.parcelNo
  propertyNo := dto.propertyNo.toOption <|> current.propertyNo
  gisUseCode := dto.gisUseCode.toOption <|>
    (parseGisSurveyId current.surveyId).map GisSurveyParts.gisUseCode

/-- `new Date(null)` is the epoch. -/
def updatedSurveyedAt : Field Text → Except SurveyError (Field ℤ)
  | .undefined => .ok .undefined
  | .null => .ok (.value 0)
  | .value text => (newDate env text).map .value

def toPrismaUpdateData (dto : SurveyDto) (identity : ResolvedSurveyIdentity)
    (surveyedAt : Field ℤ) : SurveyData where
  surveyId := .value identity.surveyId
  parcelNo := .value identity.parcelNo
  propertyNo := .value identity.propertyNo
  wardId := dto.wardId
  surveyedAt := surveyedAt
  isSlum := dto.isSlum
  text := dto.text
  flag := dto.flag
  area := dto.area
  totalWaterConnections := dto.totalWaterConnections.map Int.cast
  status := dto.status

/-- `current.area ? Number(current.area) : null`; a decimal object is never falsy. -/
def storedArea (survey : Survey) (column : AreaColumn) : Option ℚ :=
  (survey.area column).map (FixedPoint.toNumber AREA_SCALE)

/-- `dto.dataQualityStatus ?? computeDataQuality(...)` -/
def updatedDataQuality (dto : SurveyDto) (current : Survey) (identity : ResolvedSurveyIdentity) :
    DataQualityStatus :=
  let mobile := match dto.text .mobile with
    | .undefined => current.text .mobile
    | sent => sent.toOption
  dto.dataQualityStatus.toOption.getD
    (computeDataQuality mobile (some identity.propertyNo) (some identity.parcelNo)
      ((dto.area .plotAreaSqFt).toOption <|> storedArea current .plotAreaSqFt)
      ((dto.area .totalBuiltUpAreaSqFt).toOption <|> storedArea current .totalBuiltUpAreaSqFt))

/-- The data of `update`. -/
def updateData (dto : SurveyDto) (current : Survey) (identity : ResolvedSurveyIdentity)
    (surveyedAt : Field ℤ) (user : AuthUser) : SurveyData :=
  { toPrismaUpdateData dto identity surveyedAt with
    dataQualityStatus := .value (updatedDataQuality dto current identity)
    updatedById := .value user.id }

/-- The floors to create, once the old ones are deleted. -/
def updatedFloors (dto : SurveyDto) : List ParsedFloor :=
  if dto.text .floorsRaw = .undefined then [] else parseFloorsRaw (dto.text .floorsRaw).toOption

/-- The transaction of `update`. The floors are replaced when the body speaks
of them. -/
def updateInTransaction (dto : SurveyDto) (current : Survey) (identity : ResolvedSurveyIdentity)
    (user : AuthUser) : SurveyScript SurveyWithFloors := do
  Script.when (identity.surveyId ≠ current.surveyId)
    (assertSurveyIdAvailable identity.surveyId current.id)
  Script.when (dto.text .floorsRaw ≠ .undefined) (write (SurveyDb.deleteFloors current.id))
  let surveyedAt ← orThrow (updatedSurveyedAt env dto.surveyedAt)
  statement fun db => (db.updateSurvey current.id
    (updateData dto current identity surveyedAt user) (updatedFloors dto)).map withFloors

/-- The id may be sent, but not changed. -/
def checkSurveyId (sent : Field Text) (surveyId : Text) : Except SurveyError Unit :=
  match sent with
  | .undefined => .ok ()
  | .null => .error .typeError
  | .value text =>
      if Js.trimChars text = surveyId then .ok ()
      else .error (.api (.badRequest (some "SURVEY_ID_READ_ONLY")
        "Survey ID is system-generated and cannot be edited directly"))

def update (key : SurveyKey) (dto : SurveyDto) (user : AuthUser) :
    SurveyScript SurveyWithFloors := do
  let found ← findOne env key user
  let current := found.survey
  orThrow ((assertSurveyAccess user current.createdById .update).mapError .api)
  let ward ← read fun _ => env.wards.find? (dto.wardId.toOption.getD current.wardId)
  match ward with
  | none => throwApi wardNotFound
  | some ward => do
      let identity ← orThrow ((resolveSurveyIdentity env.ulbCode ward.number
        (mergeIdentityInput dto current) (some current.record)).mapError .identity)
      orThrow (checkSurveyId dto.surveyId identity.surveyId)
      let updated ← transaction (updateInTransaction env dto current identity user)
      let changes := diffSurveyChanges (buildAuditState current) (buildAuditState updated.survey)
      Script.when (!changes.isEmpty)
        (write (SurveyDb.log (.updated updated.survey.id user.id changes)))
      return updated

/-! ### Delete -/

def removeData (now : Timestamp) (user : AuthUser) : SurveyData where
  status := .value .deleted
  deletedAt := .value now
  updatedById := .value user.id

def remove (now : Timestamp) (key : SurveyKey) (user : AuthUser) : SurveyScript Survey := do
  let found ← findOne env key user
  let current := found.survey
  orThrow ((assertSurveyAccess user current.createdById .delete).mapError .api)
  let survey ← statement (SurveyDb.updateSurvey current.id (removeData now user) [])
  write (SurveyDb.log (.deleted survey.id user.id current.surveyId))
  return survey

end SurveysService

end PropertyTax.Surveys
