import PropertyTax.Payments.Online

/-! Collection at the counter: `createOffline` checks the demand once before
and once inside the transaction that locks it. -/
namespace PropertyTax
open KeyedTable

structure OfflineInput where
  amount : ℚ
  paymentMode : PaymentMode
  surveyId : Option Id
  wardId : Option Id
  assessmentYearId : Option Id
  payerName : Option String
  payerMobile : Option String
  receiptNumber : Option String
  collectionDate : Option String
  chequeDdReference : Option String
  remarks : Option String
  clientIdempotencyKey : Option String

def paymentByClientKey? (db : Db) (key : String) : Option Payment :=
  db.payments.findFirst? fun p => p.clientIdempotencyKey = some key

/-- `orderBy: { publishedAt: "desc" }`, nulls first. -/
def publishedLater (d e : PropertyDemand) : Bool :=
  match d.publishedAt, e.publishedAt with
  | none, _ => true
  | some _, none => false
  | some a, some b => b ≤ a

/-- The latest published demand of a survey. -/
def latestPublishedDemand? (db : Db) (surveyId : Id) : Option PropertyDemand :=
  ((db.demands.rows.filter fun d => d.surveyId = surveyId ∧ d.status = .published).insertionSort
    fun d e => publishedLater d e = true).head?

/-- The demand of the given year, else of the ward's latest published year,
else the latest published one of the survey. -/
def findPublishedDemandForOffline (ctx : Context) (surveyId : Id)
    (assessmentYearId : Option Id) (wardId : Id) (db : Db) : Option PropertyDemand :=
  match assessmentYearId with
  | some assessmentYearId => db.demandFor? surveyId assessmentYearId
  | none =>
      let forYear := (latestPublishedConfig ctx wardId).bind fun config =>
        (db.demandFor? surveyId config.assessmentYear.id).filter fun d => d.status = .published
      forYear.or (latestPublishedDemand? db surveyId)

structure OfflineRequest where
  survey : Survey
  wardId : Id
  demand : PropertyDemand
  idempotencyKey : Option String

/-- The checks before the transaction: a stored payment under the same key, or
the survey and demand to collect on. -/
def offlineRequest (ctx : Context) (input : OfflineInput) (user : AuthUser) (db : Db) :
    Except ApiError (Payment ⊕ OfflineRequest) := do
  assertOfflinePaymentMode input.paymentMode
  match input.surveyId with
  | none => throw (.badRequest (some "SURVEY_REQUIRED")
      "Select a property/survey before recording offline payment")
  | some surveyId =>
      assertOfflineReference input.paymentMode input.chequeDdReference
      let idempotencyKey := nonBlank input.clientIdempotencyKey
      match idempotencyKey.bind (paymentByClientKey? db) with
      | some existing => return .inl existing
      | none =>
          match ctx.reference.survey? surveyId with
          | none => throw (.notFound (some "SURVEY_NOT_FOUND") "Property/survey was not found")
          | some survey =>
              assertSurveyAccess user survey.createdById .read
              assertPaymentAccess user (some user.id) .createOffline
              let wardId := input.wardId.getD survey.wardId
              let found :=
                findPublishedDemandForOffline ctx survey.id input.assessmentYearId wardId db
              let demand ← assertPublishedDemandPresent found
              assertOfflineAmountAgainstOutstanding input.amount (toMoney demand.outstanding)
              return .inr { survey, wardId, demand, idempotencyKey }

def offlinePaymentReference (now : Timestamp) (suffix : String) : String :=
  "OFF-" ++ toString now ++ "-" ++ suffix

/-- `collectionDate ? new Date(collectionDate) : new Date()`, where an invalid
date throws once it is written as text. -/
def offlineCollectionDate (ctx : Context) (input : OfflineInput) : Except ApiError Timestamp :=
  match input.collectionDate.filter fun text => text ≠ "" with
  | none => .ok ctx.now
  | some text =>
      match ctx.parseDate text with
      | some date => .ok date
      | none => .error (.typeError "Invalid time value")

/-- The payment row of a collection. -/
def collectedPayment (ctx : Context) (input : OfflineInput) (user : AuthUser)
    (request : OfflineRequest) (locked : PropertyDemand) (paymentReference : String)
    (collectionDate : Timestamp) (id : Id) : Payment :=
  let receiptNumber := (nonBlank input.receiptNumber).getD paymentReference
  let balance := computeOutstandingAfterPayment (toMoney locked.totalPayable)
    (toMoney locked.amountPaid) input.amount
  { id
    paymentReference
    amount := toColumn input.amount
    paymentMode := input.paymentMode
    status := .success
    surveyId := some request.survey.id
    wardId := some request.wardId
    assessmentYearId := some locked.assessmentYearId
    propertyDemandId := some locked.id
    payerName := (nonBlank input.payerName).or request.survey.ownerName
    payerMobile := (nonBlank input.payerMobile).or request.survey.mobile
    receiptNumber := some receiptNumber
    receiptSnapshot := some (buildReceiptSnapshot locked input.amount balance
      (ctx.reference.assessmentYear? locked.assessmentYearId) (some request.survey.id)
      (some request.survey.surveyId) input.paymentMode receiptNumber collectionDate)
    collectionDate := some collectionDate
    chequeDdReference := nonBlank input.chequeDdReference
    remarks := nonBlank input.remarks
    collectedById := some user.id
    refundableAmount := some (toColumn input.amount)
    clientIdempotencyKey := request.idempotencyKey
    createdAt := ctx.now }

/-- The locked demand, if it may still be collected on. -/
def lockForCollection (request : OfflineRequest) (amount : ℚ) (db : Db) :
    Except ApiError PropertyDemand :=
  match (db.demands.find? request.demand.id).filter fun d => d.status = .published with
  | none => .error demandUnpublished
  | some locked =>
      (assertOfflineAmountAgainstOutstanding amount (toMoney locked.outstanding)).map
        fun _ => locked

/-- The two writes of the transaction. -/
def collect (ctx : Context) (input : OfflineInput) (user : AuthUser) (request : OfflineRequest)
    (locked : PropertyDemand) (paymentReference : String) (collectionDate : Timestamp)
    (db : Db) : Except Refusal (Db × Id) := do
  let after ← db.createPayment
    (collectedPayment ctx input user request locked paymentReference collectionDate)
  let balance := computeOutstandingAfterPayment (toMoney locked.totalPayable)
    (toMoney locked.amountPaid) input.amount
  let after ← after.updateDemand locked.id fun d => d.withBalance balance
  return (after, db.nextId)

def receiptNumberExists : ApiError := .badRequest (some "RECEIPT_NUMBER_EXISTS")
  "Receipt number already exists. Enter a different receipt number."

/-- A unique violation is answered with the payment that won the race. -/
def answerCollision (request : OfflineRequest) (db : Db) : Reply (Option Payment) :=
  match request.idempotencyKey.bind (paymentByClientKey? db) with
  | some raced => (db, .ok (some raced))
  | none => (db, .error receiptNumberExists)

def createOffline (ctx : Context) (input : OfflineInput) (user : AuthUser) (suffix : String)
    (db : Db) : Reply (Option Payment) :=
  match offlineRequest ctx input user db with
  | .error error => (db, .error error)
  | .ok (.inl existing) => (db, .ok (some existing))
  | .ok (.inr request) =>
      match lockForCollection request input.amount db with
      | .error error => (db, .error error)
      | .ok locked =>
          match offlineCollectionDate ctx input with
          | .error error => (db, .error error)
          | .ok collectionDate =>
              let paymentReference := offlinePaymentReference ctx.now suffix
              match collect ctx input user request locked paymentReference collectionDate db with
              | .error .uniqueViolation => answerCollision request db
              | .error .recordNotFound => (db, .error (.database .recordNotFound))
              | .ok (after, paymentId) =>
                  let entry : AuditEntry :=
                    { action := "PAYMENT_OFFLINE_CREATED"
                      entity := "Payment"
                      entityId := some (toString paymentId)
                      actorId := some user.id
                      newValue := some (jsonFields
                        [("paymentReference", some (.str paymentReference)),
                         ("amount", some (.num input.amount)),
                         ("surveyId", some (.num request.survey.id)),
                         ("receiptNumber", some (.str
                            ((nonBlank input.receiptNumber).getD paymentReference))),
                         ("propertyDemandId", some (.num request.demand.id))]) }
                  (after.log entry, .ok (after.payments.find? paymentId))

/-! ### What a collection changes -/

/-- The demand collected on is one of the survey's own. -/
theorem findPublishedDemandForOffline_survey {ctx : Context} {surveyId : Id}
    {assessmentYearId : Option Id} {wardId : Id} {db : Db} {d : PropertyDemand}
    (h : findPublishedDemandForOffline ctx surveyId assessmentYearId wardId db = some d) :
    d ∈ db.demands.rows ∧ d.surveyId = surveyId := by
  unfold findPublishedDemandForOffline at h
  cases assessmentYearId with
  | some yearId =>
      obtain ⟨hMem, hSurvey, _⟩ := Db.demandFor?_spec h
      exact ⟨hMem, hSurvey⟩
  | none =>
      dsimp only at h
      rcases Option.or_eq_some_iff.mp h with hYear | ⟨_, hLatest⟩
      · obtain ⟨config, _, hFound⟩ := Option.bind_eq_some_iff.mp hYear
        obtain ⟨hMem, hSurvey, _⟩ := Db.demandFor?_spec (Option.filter_eq_some_iff.mp hFound).1
        exact ⟨hMem, hSurvey⟩
      · have hHead := List.mem_of_mem_head? hLatest
        rw [List.mem_insertionSort, List.mem_filter] at hHead
        simp only [decide_eq_true_eq] at hHead
        exact ⟨hHead.1, hHead.2.1⟩

end PropertyTax
