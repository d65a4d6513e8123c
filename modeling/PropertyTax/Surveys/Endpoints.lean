import PropertyTax.Surveys.Export

/-! The survey controllers: the permission each endpoint asks for, and what it
answers. -/
namespace PropertyTax.Surveys
open KeyedTable Scripts

/-- `auth/auth-permissions.ts` -/
def canReadSurveyPii (user : AuthUser) : Bool := hasPermission user ["survey:pii:read"]

/-- `value.slice(-4)` -/
def lastFour (text : Text) : Text := text.drop (text.length - 4)

/-- An empty text is falsy. -/
def maskAadhaar : Text → Text
  | [] => []
  | text => "XXXX-XXXX-".toList ++ lastFour text

/-- The survey before and the survey after, by Survey Id. -/
structure Neighbors where
  previous : Option (Id × Text)
  next : Option (Id × Text)
deriving DecidableEq

/-- What `GET surveys/:id` returns. -/
structure SurveyDetail where
  found : SurveyWithFloors
  neighbors : Neighbors
deriving DecidableEq

namespace SurveysService
variable (env : Env)

def maskPii (survey : Survey) (canReadPii : Bool) : Survey :=
  if canReadPii then survey
  else { survey with
    text := fun column =>
      if column = .ownerAadhaar then (survey.text column).map maskAadhaar
      else survey.text column }

/-- `findFirst` with an order. -/
def firstOf (condition : Survey → Bool) (le : Survey → Survey → Bool) (db : SurveyDb) :
    Option (Id × Text) :=
  (((db.surveys.rows.filter condition).mergeSort le).head?).map fun survey =>
    (survey.id, survey.surveyId)

/-- `surveyId: { lt: ... }` -/
def before (s t : Survey) : Bool := env.collate s.surveyId t.surveyId &&
  !env.collate t.surveyId s.surveyId

/-- `whereBase` -/
def isNeighbor (survey other : Survey) : Bool :=
  other.wardId = survey.wardId && other.isLive && other.status ≠ .deleted && other.id ≠ survey.id

def findNeighbors (survey : Survey) : SurveyScript Neighbors := do
  let previous ← read (firstOf (fun other => isNeighbor survey other && before env other survey)
    fun s t => env.collate t.surveyId s.surveyId)
  let next ← read (firstOf (fun other => isNeighbor survey other && before env survey other)
    fun s t => env.collate s.surveyId t.surveyId)
  return ⟨previous, next⟩

end SurveysService

namespace SurveysController
open SurveysService

def findOne (env : Env) (key : SurveyKey) (user : AuthUser) : SurveyScript SurveyDetail := do
  let found ← SurveysService.findOne env key user
  let neighbors ← findNeighbors env found.survey
  let masked := maskPii found.survey (canReadSurveyPii user)
  return ⟨{ found with survey := masked }, neighbors⟩

end SurveysController

/-- The requests of the survey endpoints, and that of the export. -/
inductive SurveyRequest where
  | create (dto : SurveyDto)
  | findAll (query : ListSurveysQuery)
  | findOne (key : SurveyKey)
  | update (key : SurveyKey) (dto : SurveyDto)
  | remove (key : SurveyKey)
  | exportSurveys (filters : ExportFilters)

/-- `@RequirePermission` -/
def SurveyRequest.permission : SurveyRequest → String
  | create _ => "survey:create"
  | findAll _ => "survey:read"
  | findOne _ => "survey:read"
  | update _ _ => "survey:update"
  | remove _ => "survey:delete"
  | exportSurveys _ => "export:create"

inductive SurveyResponse where
  | created (data : SurveyWithFloors)
  | page (items : List Survey) (info : PageMeta)
  | one (data : SurveyDetail)
  | updated (data : SurveyWithFloors)
  | removed (data : Survey)
  | exported (data : SurveyExport)

/-- The server, with its time zone. -/
structure Server where
  env : Env
  localTime : ℤ → LocalTime

def Server.respond (server : Server) (now : Timestamp) (user : AuthUser)
    (request : SurveyRequest) : SurveyScript SurveyResponse := do
  orThrow ((assertPermission user [request.permission]).mapError .api)
  match request with
  | .create dto => return .created (← SurveysService.create server.env now dto user)
  | .findAll query => do
      let result ← SurveysService.findAll server.env query user
      return .page result.1 result.2
  | .findOne key => return .one (← SurveysController.findOne server.env key user)
  | .update key dto => return .updated (← SurveysService.update server.env key dto user)
  | .remove key => return .removed (← SurveysService.remove server.env now key user)
  | .exportSurveys filters =>
      return .exported (← ImportsService.exportSurveys server.env server.localTime now filters)

end PropertyTax.Surveys
