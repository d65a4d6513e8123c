import PropertyTax.Library.Words
import PropertyTax.PublicPropertyTax.Dues
import PropertyTax.PublicPropertyTax.SearchDues
import PropertyTax.Surveys.BilledFloors
import PropertyTax.Surveys.Listing

/-! The citizen website over the stored surveys: the search and the dues page, with
what they mask of owners and their mobile numbers. -/
namespace PropertyTax.PublicSite
open KeyedTable
open Surveys (Text TextColumn)

/-! ### Masks -/

/-- `mobile.replace(/\D/g, "")` -/
def normalizeMobileDigits (mobile : Text) : Text := mobile.filter Char.isDigit

/-- The first letter of the first word, and the other words. -/
def maskOwnerName (name : Option Text) : Text :=
  match Words.wordsBy Js.isSpace (Js.trimChars (name.getD [])) with
  | [] => "—".toList
  | first :: rest =>
      let firstChar := first.head?.getD '*'
      if rest.isEmpty then firstChar :: "****".toList
      else firstChar :: ("**** ".toList ++ [' '].intercalate rest)

/-- `digits.slice(-count)` -/
def lastDigits (count : Nat) (digits : Text) : Text := digits.drop (digits.length - count)

def maskMobile (mobile : Option Text) : Text :=
  let digits := normalizeMobileDigits (mobile.getD [])
  if digits.length < 6 then "—****—".toList
  else if digits.length = 10 then digits.take 2 ++ "****".toList ++ lastDigits 4 digits
  else
    let head := digits.take (min 2 digits.length)
    let tail := lastDigits (min 4 (max 0 (digits.length - 2))) digits
    head ++ "****".toList ++ tail

def assertOwnerSearchInput (ownerName mobile : Text) : Option String :=
  let name := Js.trimChars ownerName
  let digits := normalizeMobileDigits mobile
  if Js.length (String.ofList name) < 3 then some "Owner name must be at least 3 characters"
  else if digits.length ≠ 10 then some "Mobile number must be exactly 10 digits"
  else none

/-! ### Search -/

inductive SearchMode where
  | ward | propertyId | owner
deriving DecidableEq

structure SearchQuery where
  mode : SearchMode
  wardNumber : Option ℤ := none
  propertyNo : Option Text := none
  propertyId : Option Text := none
  ownerName : Option Text := none
  mobile : Option Text := none
  page : Option Nat := none
  pageSize : Option Nat := none

/-- The stored data the public pages read. -/
structure Site where
  env : Surveys.Env
  activeWards : List Id
  context : Context
  surveys : Surveys.SurveyDb
  ledger : Db

structure ResultItem where
  id : Id
  surveyId : Text
  ward : Option (ℤ × Text)
  propertyNo : Option Text
  parcelNo : Option Text
  ownerNameMasked : Text
  mobileMasked : Text
  locality : Option Text
  dueStatus : DueStatus

structure SearchPage where
  items : List ResultItem
  page : Nat
  pageSize : Nat
  total : Nat

section Search
variable (site : Site)

/-- `status: "ACTIVE", deletedAt: null` -/
def isPublic (survey : Surveys.Survey) : Bool := survey.status = .active && survey.isLive

def wardByNumber? (number : ℤ) : Option Surveys.Ward :=
  site.env.wards.findFirst? fun ward => ward.number = number && site.activeWards.contains ward.id

/-- A text that is not empty once trimmed. -/
def trimmed? (text : Option Text) : Option Text :=
  let text := Js.trimChars (text.getD [])
  if text.isEmpty then none else some text

open Surveys.SurveysService (containsInsensitive equalsInsensitive)

def wardWhere (env : Surveys.Env) (wardId : Id) (propertyHint : Option Text)
    (survey : Surveys.Survey) : Bool :=
  survey.wardId = wardId &&
    propertyHint.all fun hint =>
      containsInsensitive env hint survey.propertyNo ||
        containsInsensitive env hint survey.parcelNo ||
        containsInsensitive env hint (survey.text .houseNo)

def propertyIdWhere (env : Surveys.Env) (propertyId : Text) (survey : Surveys.Survey) : Bool :=
  equalsInsensitive env propertyId (some survey.surveyId) ||
    equalsInsensitive env propertyId survey.parcelNo ||
    equalsInsensitive env propertyId survey.propertyNo

def ownerWhere (env : Surveys.Env) (ownerName digits : Text) (survey : Surveys.Survey) : Bool :=
  containsInsensitive env ownerName (survey.text .ownerName) &&
    survey.text .mobile = some digits

/-- `query.ownerName?.trim() ?? ""` -/
def SearchQuery.owner (query : SearchQuery) : Text := Js.trimChars (query.ownerName.getD [])

def SearchQuery.ownerMobile (query : SearchQuery) : Text := Js.trimChars (query.mobile.getD [])

def wardNotFound (number : ℤ) : ApiError :=
  .notFound (some "WARD_NOT_FOUND") ("Ward " ++ toString number ++ " was not found")

def buildWhere (query : SearchQuery) : Except ApiError (Surveys.Survey → Bool) :=
  match query.mode with
  | .ward =>
      match query.wardNumber with
      | none => .error (.badRequest (some "WARD_NUMBER_REQUIRED")
          "wardNumber is required for ward search")
      | some number =>
          match wardByNumber? site number with
          | none => .error (wardNotFound number)
          | some ward => .ok (wardWhere site.env ward.id (trimmed? query.propertyNo))
  | .propertyId =>
      match trimmed? query.propertyId with
      | none => .error (.badRequest (some "PROPERTY_ID_REQUIRED")
          "propertyId is required for property ID search")
      | some propertyId => .ok (propertyIdWhere site.env propertyId)
  | .owner =>
      match assertOwnerSearchInput query.owner query.ownerMobile with
      | some ownerError => .error (.badRequest (some "OWNER_SEARCH_INVALID") ownerError)
      | none => .ok (ownerWhere site.env query.owner (normalizeMobileDigits query.ownerMobile))

/-- `orderBy: [{ ward: { number: "asc" } }, { surveyId: "asc" }]` -/
def searchOrder : Surveys.Survey → Surveys.Survey → Bool :=
  Surveys.SurveysService.lexicographic
    [Surveys.SurveysService.wardLe site.env, Surveys.SurveysService.SortBy.le site.env .surveyId]

def found (filter : Surveys.Survey → Bool) : List Surveys.Survey :=
  site.surveys.surveys.rows.filter fun survey => isPublic survey && filter survey

def wardShown (wardId : Id) : Option (ℤ × Text) :=
  (site.env.wards.find? wardId).map fun ward => (ward.number, ward.name)

def resultItem (dueStatusBySurveyId : Id → Option DueStatus) (survey : Surveys.Survey) :
    ResultItem where
  id := survey.id
  surveyId := survey.surveyId
  ward := wardShown site survey.wardId
  propertyNo := survey.propertyNo
  parcelNo := survey.parcelNo
  ownerNameMasked := maskOwnerName (survey.text .ownerName)
  mobileMasked := maskMobile (survey.text .mobile)
  locality := survey.text .locality
  dueStatus := (dueStatusBySurveyId survey.id).getD .due

def searchRow (survey : Surveys.Survey) : SearchRow := ⟨survey.id, survey.wardId⟩

def search (query : SearchQuery) : Except ApiError SearchPage :=
  let page := query.page.getD 1
  let pageSize := min (query.pageSize.getD 10) 20
  match buildWhere site query with
  | .error error => .error error
  | .ok filter =>
      let total := (found site filter).length
      let rows := (((found site filter).mergeSort (searchOrder site)).drop
        ((page - 1) * pageSize)).take pageSize
      let dueStatusBySurveyId :=
        resolveSearchDueStatuses site.context (rows.map searchRow) site.ledger
      .ok ⟨rows.map (resultItem site dueStatusBySurveyId), page, pageSize, total⟩

end Search

/-! ### The dues page -/

/-- What the tax is computed from, as it is stored. -/
def billedFloor (floor : Surveys.SurveyFloor) : Floor where
  floorLabel := String.ofList floor.floorLabel
  usageType := floor.usageType.map String.ofList
  usageFactor := floor.usageFactor.map String.ofList
  buildingType := floor.buildingType.map String.ofList
  areaSqFt := floor.areaSqFt.map fun units => units / Surveys.AREA_SCALE

def billedSurvey (site : Site) (survey : Surveys.Survey) : Survey where
  id := survey.id
  surveyId := String.ofList survey.surveyId
  ownerName := (survey.text .ownerName).map String.ofList
  mobile := (survey.text .mobile).map String.ofList
  wardId := survey.wardId
  createdById := survey.createdById
  active := survey.status = .active
  deletedAt := survey.deletedAt
  propertyUse := (survey.text .propertyUse).map String.ofList
  taxRateZone := (survey.text .taxRateZone).map String.ofList
  hasMunicipalWaterSupply := survey.flag .hasMunicipalWaterSupply
  plotAreaSqFt := (survey.area .plotAreaSqFt).map fun units => units / Surveys.AREA_SCALE
  plinthAreaSqFt := (survey.area .plinthAreaSqFt).map fun units => units / Surveys.AREA_SCALE
  totalBuiltUpAreaSqFt :=
    (survey.area .totalBuiltUpAreaSqFt).map fun units => units / Surveys.AREA_SCALE
  floors := ((site.surveys.storedFloors survey.id).mergeSort fun a b =>
    a.sortOrder ≤ b.sortOrder).map billedFloor

/-- What the page says of the survey besides its tax. -/
structure DuesHeader where
  ward : Option (ℤ × Text)
  ownerName : Option Text
  mobileMasked : Text
  propertyNo : Option Text
  parcelNo : Option Text
  columns : List (Option Text)

/-- The columns that are shown as they are stored. -/
def shownColumns : List TextColumn :=
  [.houseNo, .streetName, .locality, .colony, .city, .pincode, .propertyUse, .taxRateZone,
    .roadType]

structure DuesPage where
  header : DuesHeader
  payload : PublicDues
  paidForAssessmentYear : Bool
  propertyDemandId : Option Id
  outstanding : Option ℚ
  payableAmount : ℚ

section Dues
variable (site : Site)

def duesHeader (survey : Surveys.Survey) : DuesHeader where
  ward := wardShown site survey.wardId
  ownerName := survey.text .ownerName
  mobileMasked := maskMobile (survey.text .mobile)
  propertyNo := survey.propertyNo
  parcelNo := survey.parcelNo
  columns := shownColumns.map survey.text

def duesPage (survey : Surveys.Survey) (config : TaxConfig) (payload : PublicDues) : DuesPage :=
  let published := (site.ledger.demandFor? survey.id config.assessmentYear.id).filter fun d =>
    d.status = .published
  let successCount := if published.isSome then 0
    else countSuccessfulPaymentsForYear survey.id config.assessmentYear.id site.ledger
  let outstanding := published.map fun d => toMoney d.outstanding
  { header := duesHeader site survey
    payload
    paidForAssessmentYear := isAlreadyPaidForYear successCount published
    propertyDemandId := published.map PropertyDemand.id
    outstanding
    payableAmount := outstanding.getD payload.tax.totalDemand }

/-- A tax that cannot be computed is an error of the server. -/
def getDues (surveyCuid : Option Id) : Except ApiError DuesPage :=
  match surveyCuid with
  | none => .error (.badRequest (some "SURVEY_ID_REQUIRED") "Survey id is required")
  | some id =>
      match site.surveys.surveys.findFirst? fun survey => survey.id = id && isPublic survey with
      | none => .error citizenSurveyNotFound
      | some survey =>
          match latestPublishedConfig site.context survey.wardId with
          | none => .error taxConfigNotPublished
          | some config =>
              match computePublicDuesPayload (billedSurvey site survey) config with
              | .error message => .error (.typeError message)
              | .ok payload => .ok (duesPage site survey config payload)

end Dues

/-! ### Requests -/

inductive PublicRequest where
  | search (query : SearchQuery)
  | dues (surveyCuid : Option Id)

inductive PublicAnswer where
  | page (page : SearchPage)
  | dues (page : DuesPage)
  | refused (error : ApiError)

def serve : PublicRequest → Site → Site × PublicAnswer
  | .search query, site => (site, match search site query with
      | .ok page => .page page
      | .error error => .refused error)
  | .dues surveyCuid, site => (site, match getDues site surveyCuid with
      | .ok page => .dues page
      | .error error => .refused error)

end PropertyTax.PublicSite
