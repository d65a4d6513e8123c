import PropertyTax.Auth
import PropertyTax.Demands.Publish
import PropertyTax.Payments.OnlineSuccess

/-! Opening an online payment, by staff and from the citizen website. The
answer of the gateway is an input of the call. -/
namespace PropertyTax
open KeyedTable

structure CreatePaymentResult where
  redirectUrl : Option String
  merchId : Option String
  atomTokenId : Option String
  raw : Option Json

/-- What `provider.createPayment` does: throw an `AtomAuthValidationError`,
throw anything else, or answer. -/
inductive CreatePaymentReply where
  | invalid (code message : String)
  | threw
  | answered (result : CreatePaymentResult)

/-- `b.localeCompare(a)` on the code, then on the name, then the later update. -/
def laterConfigFirst (billing : Billing) (a b : TaxConfig) : Bool :=
  match billing.localeCompare b.assessmentYear.code a.assessmentYear.code with
  | .lt => true
  | .gt => false
  | .eq =>
      match billing.localeCompare b.assessmentYear.name a.assessmentYear.name with
      | .lt => true
      | .gt => false
      | .eq => b.updatedAt ≤ a.updatedAt

def pickLatestPublishedConfig (billing : Billing) (configs : List TaxConfig) : Option TaxConfig :=
  (configs.insertionSort fun a b => laterConfigFirst billing a b = true).head?

def latestPublishedConfig (ctx : Context) (wardId : Id) : Option TaxConfig :=
  pickLatestPublishedConfig ctx.billing
    (ctx.reference.taxConfigs.filter fun c => c.wardId = wardId ∧ c.status = .published)

structure OnlinePaymentInput where
  amount : ℚ
  surveyId : Option Id
  wardId : Option Id
  payerName : Option String
  payerMobile : Option String
  payerEmail : Option String
  assessmentYearId : Option Id
  propertyDemandId : Option Id

def taxConfigNotPublished : ApiError := .notFound (some "TAX_CONFIG_NOT_PUBLISHED")
  ("Published tax rates are not available for this ward yet. " ++
    "Please contact the municipal office.")

def duesNotPayable : ApiError := .badRequest (some "DUES_NOT_PAYABLE")
  ("Tax dues are not payable for this property yet. " ++
    "Published rates may be missing or zero.")

structure SurveyPayable where
  amount : ℚ
  survey : Survey
  assessmentYearId : Id
  propertyDemandId : Option Id

/-- The outstanding of a published demand; without one, the recomputed dues. -/
def resolveSurveyPayableAmount (ctx : Context) (surveyId : Id) (db : Db) :
    Except ApiError SurveyPayable :=
  match ctx.reference.activeSurvey? surveyId with
  | none => .error (.notFound (some "SURVEY_NOT_FOUND") "Property/survey was not found")
  | some survey =>
      match latestPublishedConfig ctx survey.wardId with
      | none => .error taxConfigNotPublished
      | some config =>
          let assessmentYearId := config.assessmentYear.id
          match (db.demandFor? survey.id assessmentYearId).filter fun d =>
              d.status = .published with
          | some demand =>
              let outstanding := toMoney demand.outstanding
              if outstanding ≤ 0 then
                .error (.badRequest (some "DUES_NOT_PAYABLE")
                  ("No outstanding dues for this property's published demand. " ++
                    "The assessment year may already be paid."))
              else
                .ok { amount := outstanding, survey, assessmentYearId,
                      propertyDemandId := some demand.id }
          | none =>
              let amount := (ctx.billing.computePublicDuesPayload survey config).totalDemand
              if amount ≤ 0 then .error duesNotPayable
              else .ok { amount, survey, assessmentYearId, propertyDemandId := none }

/-- The row an online payment starts as. -/
def openedPayment (ctx : Context) (input : OnlinePaymentInput) (merchTxnId : String)
    (collectedById : Option Id) (id : Id) : Payment where
  id := id
  paymentReference := merchTxnId
  merchTxnId := some merchTxnId
  amount := toColumn input.amount
  paymentMode := .online
  status := .initiated
  gateway := some ctx.gateway.name.text
  surveyId := input.surveyId
  wardId := input.wardId
  assessmentYearId := input.assessmentYearId
  propertyDemandId := input.propertyDemandId
  payerName := input.payerName
  payerMobile := input.payerMobile
  payerEmail := input.payerEmail
  collectedById := collectedById
  refundableAmount := some (toColumn input.amount)
  createdAt := ctx.now

def setPaymentStatus (status : PaymentStatus) (p : Payment) : Payment := { p with status }

mutual

/-- `String(value)` -/
def stringOf : Json → String
  | .null => "null"
  | .bool b => if b then "true" else "false"
  | .num x => Js.numberToString x
  | .str text => text
  | .obj _ => "[object Object]"
  | .arr items => String.intercalate "," (stringsOf items)

def stringsOf : List Json → List String
  | [] => []
  | .null :: rest => "" :: stringsOf rest
  | item :: rest => stringOf item :: stringsOf rest

end

/-- `String(a ?? b ?? "").trim().toUpperCase()` -/
def upperText (values : List (Option Json)) : String :=
  let value := values.findSome? fun value => match value with
    | some .null => none
    | other => other
  Js.toUpperCase (Js.trim ((value.map stringOf).getD ""))

/-- `text.includes(part)` -/
def includesText (text part : String) : Bool :=
  (List.range (text.length + 1)).any fun i => part.toList.isPrefixOf (text.toList.drop i)

/-- A message that is safe to show when the gateway gave no checkout token. -/
def gatewayTokenFailureMessage (raw : Option Json) : String :=
  let root := asObject raw
  let responseDetails := asObject (field root "responseDetails")
  let code := upperText [field responseDetails "txnStatusCode", field responseDetails "statusCode",
    field root "txnStatusCode"]
  let description := upperText [field responseDetails "txnDescription",
    field responseDetails "description", field root "txnDescription"]
  if code = "OTS0451" ∨ includesText description "INVALID MERCHANT" then
    "Payment gateway merchant configuration is invalid. Please contact the municipal office."
  else if includesText description "VALIDATION" then
    "Payment could not be started because the gateway rejected the request. " ++
      "Please check your details and try again."
  else
    "Payment gateway did not return a checkout token. Please try again in a few minutes."

/-- Mark a payment and fail the call. -/
def failOpened {α : Type} (paymentId : Id) (error : ApiError) (db : Db) : Reply α :=
  match db.updatePayment paymentId (setPaymentStatus .failed) with
  | .error refusal => (db, .error (.database refusal))
  | .ok after => (after, .error error)

/-- What follows the gateway's answer to an opened payment. -/
def finishOpened (paymentId : Id) (reply : CreatePaymentReply) (db : Db) :
    Reply (Option Payment × CreatePaymentResult) :=
  match reply with
  | .invalid code message => failOpened paymentId (.badRequest (some code) message) db
  | .threw => failOpened paymentId .gateway db
  | .answered result =>
      let db := db.addTransaction
        { paymentId
          direction := "outbound"
          requestPayload := result.raw.map redactSensitivePaymentPayload
          statusCode := some "INIT" }
      if result.atomTokenId.getD "" = "" ∧ result.redirectUrl.getD "" = "" then
        failOpened paymentId (.badRequest (some "GATEWAY_TOKEN_FAILED")
          (gatewayTokenFailureMessage result.raw)) db
      else
        match db.updatePayment paymentId (setPaymentStatus .pending) with
        | .error refusal => (db, .error (.database refusal))
        | .ok after => (after, .ok (after.payments.find? paymentId, result))

/-- The transaction id is drawn from the clock and a random suffix. -/
def newCitizenMerchTxnId (now : Timestamp) (suffix : String) : String :=
  "CHH-" ++ toString now ++ "-" ++ suffix

def createOnlinePayment (ctx : Context) (input : OnlinePaymentInput)
    (collectedById : Option Id) (suffix : String) (reply : CreatePaymentReply) (db : Db) :
    Reply (Option Payment × CreatePaymentResult) :=
  let merchTxnId := newCitizenMerchTxnId ctx.now suffix
  match db.createPayment (openedPayment ctx input merchTxnId collectedById) with
  | .error refusal => (db, .error (.database refusal))
  | .ok after => finishOpened db.nextId reply after

/-- `text?.trim() || undefined` -/
def nonBlank (text : Option String) : Option String :=
  (text.map Js.trim).filter fun trimmed => trimmed ≠ ""

structure CreateOnlineInput where
  surveyId : Option Id
  wardId : Option Id
  payerName : Option String
  payerMobile : Option String
  payerEmail : Option String

def staffPaymentInput (input : CreateOnlineInput) (payable : SurveyPayable) :
    OnlinePaymentInput where
  amount := payable.amount
  surveyId := some payable.survey.id
  wardId := input.wardId.or (some payable.survey.wardId)
  payerName := (nonBlank input.payerName).or payable.survey.ownerName
  payerMobile := (nonBlank input.payerMobile).or payable.survey.mobile
  payerEmail := nonBlank input.payerEmail
  assessmentYearId := some payable.assessmentYearId
  propertyDemandId := payable.propertyDemandId

/-- The checks of `createOnline`. -/
def onlineInput (ctx : Context) (input : CreateOnlineInput) (user : AuthUser) (db : Db) :
    Except ApiError OnlinePaymentInput :=
  match input.surveyId with
  | none => .error (.badRequest (some "SURVEY_REQUIRED")
      "Select a property/survey before starting online payment")
  | some surveyId => do
      let payable ← resolveSurveyPayableAmount ctx surveyId db
      assertSurveyAccess user payable.survey.createdById .read
      assertPaymentAccess user (some user.id) .create
      return staffPaymentInput input payable

def createOnline (ctx : Context) (input : CreateOnlineInput) (user : AuthUser) (suffix : String)
    (reply : CreatePaymentReply) (db : Db) : Reply (Option Payment × CreatePaymentResult) :=
  match onlineInput ctx input user db with
  | .error error => (db, .error error)
  | .ok input => createOnlinePayment ctx input (some user.id) suffix reply db

/-! ### The citizen website -/

/-- How long an open checkout blocks a new citizen order. -/
def citizenPaymentInProgressWindowMs : Nat := 15 * 60 * 1000

/-- With a published demand its outstanding decides; otherwise any successful
payment for the year counts as paid. -/
def isAlreadyPaidForYear (successPaymentCount : Nat) (published : Option PropertyDemand) : Bool :=
  match published with
  | some demand => decide (toMoney demand.outstanding ≤ 0)
  | none => decide (0 < successPaymentCount)

structure CitizenDues where
  survey : Survey
  config : TaxConfig
  tax : DuesTax
  published : Option PropertyDemand
  paidForAssessmentYear : Bool

def CitizenDues.payableAmount (dues : CitizenDues) : ℚ :=
  match dues.published with
  | some demand => toMoney demand.outstanding
  | none => dues.tax.totalDemand

def countSuccessfulPaymentsForYear (surveyId assessmentYearId : Id) (db : Db) : Nat :=
  (db.payments.rows.filter (Payment.paidFor surveyId assessmentYearId)).length

def citizenSurveyNotFound : ApiError :=
  .notFound (some "SURVEY_NOT_FOUND") "Property record was not found"

def getDues (ctx : Context) (surveyId : Option Id) (db : Db) : Except ApiError CitizenDues :=
  match surveyId with
  | none => .error (.badRequest (some "SURVEY_ID_REQUIRED") "Survey id is required")
  | some surveyId =>
      match ctx.reference.activeSurvey? surveyId with
      | none => .error citizenSurveyNotFound
      | some survey =>
          match latestPublishedConfig ctx survey.wardId with
          | none => .error taxConfigNotPublished
          | some config =>
              let published := (db.demandFor? survey.id config.assessmentYear.id).filter fun d =>
                d.status = .published
              let successCount := if published.isSome then 0
                else countSuccessfulPaymentsForYear survey.id config.assessmentYear.id db
              .ok { survey, config, published,
                    tax := ctx.billing.computePublicDuesPayload survey config
                    paidForAssessmentYear := isAlreadyPaidForYear successCount published }

/-- An open citizen checkout of the last minutes blocks another one. -/
def hasRecentOpenCitizenPayment (surveyId assessmentYearId : Id) (now : Timestamp) (db : Db) :
    Bool :=
  db.payments.rows.any fun p =>
    p.surveyId = some surveyId ∧ p.assessmentYearId = some assessmentYearId ∧
      p.paymentMode = .online ∧ (p.status = .initiated ∨ p.status = .pending) ∧
      now ≤ p.createdAt + citizenPaymentInProgressWindowMs

structure CitizenPaymentDto where
  surveyId : Option Id
  payerMobile : String
  payerEmail : String

def citizenPaymentInput (dto : CitizenPaymentDto) (dues : CitizenDues) : OnlinePaymentInput where
  amount := dues.payableAmount
  surveyId := some dues.survey.id
  wardId := some dues.survey.wardId
  payerName := dues.survey.ownerName
  payerMobile := some dto.payerMobile
  payerEmail := some (Js.trim dto.payerEmail)
  assessmentYearId := some dues.config.assessmentYear.id
  propertyDemandId := dues.published.map PropertyDemand.id

/-- The checks of the citizen's `createPayment`. -/
def citizenInput (ctx : Context) (dto : CitizenPaymentDto) (db : Db) :
    Except ApiError OnlinePaymentInput :=
  match getDues ctx dto.surveyId db with
  | .error error => .error error
  | .ok dues =>
      if dues.payableAmount ≤ 0 then .error duesNotPayable
      else if dues.paidForAssessmentYear then
        .error (.conflict (some "ALREADY_PAID_FOR_YEAR")
          ("Property tax for assessment year " ++ dues.config.assessmentYear.name ++
            " has already been paid."))
      else if hasRecentOpenCitizenPayment dues.survey.id dues.config.assessmentYear.id ctx.now
          db then
        .error (.conflict (some "PAYMENT_IN_PROGRESS")
          ("A payment for this property is already in progress. Please wait a few minutes and " ++
            "try again, or check your payment status if you already paid."))
      else .ok (citizenPaymentInput dto dues)

/-- The citizen's `createPayment`, the only caller of `createCitizenOnline`. -/
def createCitizenPayment (ctx : Context) (dto : CitizenPaymentDto) (suffix : String)
    (reply : CreatePaymentReply) (db : Db) : Reply (Option Payment × CreatePaymentResult) :=
  match citizenInput ctx dto db with
  | .error error => (db, .error error)
  | .ok input =>
      match createOnlinePayment ctx input none suffix reply db with
      | (db, .error error) => (db, .error error)
      | (db, .ok (payment, gateway)) =>
          if (gateway.atomTokenId.getD "" = "" ∨ gateway.merchId.getD "" = "") ∧
              gateway.redirectUrl.getD "" = "" then
            (db, .error (.badRequest (some "GATEWAY_CHECKOUT_MISSING")
              ("Payment gateway did not return a checkout token or redirect URL. " ++
                "Check Atom UAT credentials and PAYMENT_PROVIDER=atom.")))
          else (db, .ok (payment, gateway))

end PropertyTax
