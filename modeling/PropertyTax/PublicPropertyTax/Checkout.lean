import PropertyTax.Concurrency.Checkouts

/-! The staff's checkout of a property beside the citizen's. Both charge the
outstanding of the year's published demand, or the recomputed dues when there is
none; then only the citizen's asks whether the year is paid. -/
namespace PropertyTax
open KeyedTable

/-- What a payment is for. -/
structure Charge where
  surveyId : Option Id
  amount : Money
  assessmentYearId : Option Id
  propertyDemandId : Option Id
deriving DecidableEq

def Payment.charge (p : Payment) : Charge :=
  ⟨p.surveyId, p.amount, p.assessmentYearId, p.propertyDemandId⟩

def OnlinePaymentInput.charge (input : OnlinePaymentInput) : Charge :=
  ⟨input.surveyId, toColumn input.amount, input.assessmentYearId, input.propertyDemandId⟩

/-- The refusals of a checkout that finds nothing to collect. -/
def nothingDueCodes : List String :=
  ["SURVEY_NOT_FOUND", "TAX_CONFIG_NOT_PUBLISHED", "DUES_NOT_PAYABLE", "ALREADY_PAID_FOR_YEAR"]

def ApiError.code? : ApiError → Option String
  | .badRequest code _ | .notFound code _ | .conflict code _ => code
  | .forbidden _ | .typeError _ | .gateway | .database _ | .numericOverflow => none

/-- The call stores nothing, and answers that there is nothing to collect. -/
def RefusesAsNothingDue {α : Type} (db : Db) (reply : Reply α) : Prop :=
  ∃ error code, reply = (db, .error error) ∧ error.code? = some code ∧ code ∈ nothingDueCodes

/-- The call stores one new payment, for the charge. -/
def Opens {α : Type} (charge : Charge) (db : Db) (reply : Reply α) : Prop :=
  ∃ p, Added db.payments reply.1.payments p ∧ p.charge = charge

/-- Two checkouts agree on what is payable. -/
def CheckoutsAgree {α : Type} (db : Db) (staff citizen : Reply α) : Prop :=
  (RefusesAsNothingDue db staff ∧ RefusesAsNothingDue db citizen) ∨
    ∃ charge, Opens charge db staff ∧ Opens charge db citizen

/-- The dues of the property are recomputed, come to something, and the year
already has a successful payment. -/
def PaidWithoutDemand (ctx : Context) (surveyId : Id) (db : Db) : Prop :=
  ∃ survey config, ctx.reference.activeSurvey? surveyId = some survey ∧
    latestPublishedConfig ctx survey.wardId = some config ∧
    (∀ d, db.demandFor? surveyId config.assessmentYear.id = some d → d.status ≠ .published) ∧
    0 < (ctx.billing.computePublicDuesPayload survey config).totalDemand ∧
    ∃ p ∈ db.payments.rows, p.paidFor surveyId config.assessmentYear.id = true

/-- No payment has the transaction id, and the next key is free. -/
def Db.Unused (merchTxnId : String) (db : Db) : Prop :=
  ∀ p ∈ db.payments.rows, p.id ≠ db.nextId ∧ p.paymentReference ≠ merchTxnId ∧
    p.merchTxnId ≠ some merchTxnId

instance (merchTxnId : String) (db : Db) : Decidable (db.Unused merchTxnId) :=
  inferInstanceAs (Decidable (∀ p ∈ db.payments.rows, _))

/-- A payment that is opened under an unused transaction id is stored, whatever
the gateway answers. -/
theorem createOnlinePayment_opens {ctx : Context} (input : OnlinePaymentInput)
    (collectedById : Option Id) {suffix : String} (reply : CreatePaymentReply) {db : Db}
    (hUnused : db.Unused (newCitizenMerchTxnId ctx.now suffix)) :
    Opens input.charge db (createOnlinePayment ctx input collectedById suffix reply db) := by
  have hFree : ∀ p ∈ db.payments.rows, KeyedRow.clash p (openedPayment ctx input
      (newCitizenMerchTxnId ctx.now suffix) collectedById db.nextId) = false := by
    intro p hp
    obtain ⟨hId, hReference, hMerch⟩ := hUnused p hp
    have hMerchFree : sameValue p.merchTxnId (some (newCitizenMerchTxnId ctx.now suffix)) = false :=
      Bool.eq_false_iff.mpr fun h => by
        obtain ⟨x, hx, hSame⟩ := sameValue_iff.mp h
        exact hMerch (hx.trans hSame.symm)
    have hNone {α : Type} [DecidableEq α] (a : Option α) : sameValue a none = false := by
      cases a <;> rfl
    simp only [KeyedRow.clash, openedPayment, hId, hReference, hMerchFree, hNone, decide_false,
      Bool.or_self]
  obtain ⟨payments, hInsert⟩ := insert_isOk_iff.mpr hFree
  have hAdded := added_of_insert hInsert
  unfold createOnlinePayment
  simp only [Db.createPayment, hInsert, Except.map]
  obtain hSame | ⟨p, status, hId, hReplaced⟩ := finishOpened_payments db.nextId reply
    { db with payments, nextId := db.nextId + 1 }
  · refine ⟨openedPayment ctx input (newCitizenMerchTxnId ctx.now suffix) collectedById db.nextId,
      ?_, rfl⟩
    rw [hSame]
    exact hAdded
  · obtain rfl := eq_of_key hReplaced.mem_old hAdded.mem_row hId
    exact ⟨_, hReplaced.added_trans hAdded, rfl⟩

theorem createOnline_of_error {ctx : Context} {input : CreateOnlineInput} {user : AuthUser}
    {suffix : String} {reply : CreatePaymentReply} {db : Db} {error : ApiError}
    (h : onlineInput ctx input user db = .error error) :
    createOnline ctx input user suffix reply db = (db, .error error) := by
  simp only [createOnline, h]

theorem createCitizenPayment_of_error {ctx : Context} {dto : CitizenPaymentDto}
    (suffix : String) (reply : CreatePaymentReply) {db : Db} {error : ApiError}
    (h : citizenInput ctx dto db = .error error) :
    createCitizenPayment ctx dto suffix reply db = (db, .error error) := by
  simp only [createCitizenPayment, h]

section Agreement
variable {ctx : Context} {input : CreateOnlineInput} {user : AuthUser} {dto : CitizenPaymentDto}
  {staffSuffix citizenSuffix : String} {staffReply citizenReply : CreatePaymentReply} {db : Db}

/-- Two refusals because nothing is due agree. -/
theorem checkoutsAgree_of_errors {error error' : ApiError} {code code' : String}
    (hStaff : onlineInput ctx input user db = .error error) (hCode : error.code? = some code)
    (hDue : code ∈ nothingDueCodes)
    (hCitizen : citizenInput ctx dto db = .error error') (hCode' : error'.code? = some code')
    (hDue' : code' ∈ nothingDueCodes) :
    CheckoutsAgree db (createOnline ctx input user staffSuffix staffReply db)
      (createCitizenPayment ctx dto citizenSuffix citizenReply db) :=
  .inl ⟨⟨error, code, createOnline_of_error hStaff, hCode, hDue⟩,
    ⟨error', code', createCitizenPayment_of_error _ _ hCitizen, hCode', hDue'⟩⟩

theorem checkoutsAgree_of_ok {online online' : OnlinePaymentInput}
    (hStaff : onlineInput ctx input user db = .ok online)
    (hCitizen : citizenInput ctx dto db = .ok online') (hCharge : online.charge = online'.charge)
    (hStaffUnused : db.Unused (newCitizenMerchTxnId ctx.now staffSuffix))
    (hCitizenUnused : db.Unused (newCitizenMerchTxnId ctx.now citizenSuffix)) :
    CheckoutsAgree db (createOnline ctx input user staffSuffix staffReply db)
      (createCitizenPayment ctx dto citizenSuffix citizenReply db) := by
  refine .inr ⟨online.charge, ?_, ?_⟩
  · have hOpens := createOnlinePayment_opens online (some user.id) staffReply hStaffUnused
    simpa only [createOnline, hStaff] using hOpens
  · obtain ⟨p, hAdded, hp⟩ := createOnlinePayment_opens online' none citizenReply hCitizenUnused
    have hDb := createCitizenPayment_db ctx dto citizenSuffix citizenReply db
    simp only [hCitizen] at hDb
    exact ⟨p, hDb ▸ hAdded, hp.trans hCharge.symm⟩

/-- For staff who may take payments, the checks are those on what is due. -/
theorem onlineInput_of_access (db : Db) {surveyId : Id} (hInput : input.surveyId = some surveyId)
    (hSurveyAccess : ∀ survey, ctx.reference.activeSurvey? surveyId = some survey →
      assertSurveyAccess user survey.createdById .read = .ok ())
    (hAccess : assertPaymentAccess user (some user.id) .create = .ok ()) :
    onlineInput ctx input user db =
      (resolveSurveyPayableAmount ctx surveyId db).map (staffPaymentInput input) := by
  simp only [onlineInput, hInput]
  cases hPayable : resolveSurveyPayableAmount ctx surveyId db with
  | error error => rfl
  | ok payable =>
      have hSurvey : ctx.reference.activeSurvey? surveyId = some payable.survey := by
        unfold resolveSurveyPayableAmount at hPayable
        cases hFound : ctx.reference.activeSurvey? surveyId with
        | none => simp [hFound] at hPayable
        | some survey =>
            simp only [hFound] at hPayable
            split at hPayable
            · cases hPayable
            · split at hPayable <;> split_ifs at hPayable <;> cases hPayable <;> rfl
      simp only [bind, Except.bind, hSurveyAccess _ hSurvey, hAccess]
      rfl

variable {survey : Survey} {config : TaxConfig}

/-- The published demand of the year that is billed. -/
def publishedDemand? (surveyId yearId : Id) (db : Db) : Option PropertyDemand :=
  (db.demandFor? surveyId yearId).filter fun d => d.status = .published

/-- What it means, for a survey with a published configuration, to have paid without a demand. -/
theorem paidWithoutDemand_iff {surveyId : Id}
    (hSurvey : ctx.reference.activeSurvey? surveyId = some survey)
    (hConfig : latestPublishedConfig ctx survey.wardId = some config) :
    PaidWithoutDemand ctx surveyId db ↔
      publishedDemand? surveyId config.assessmentYear.id db = none ∧
      0 < (ctx.billing.computePublicDuesPayload survey config).totalDemand ∧
      0 < countSuccessfulPaymentsForYear surveyId config.assessmentYear.id db := by
  have hCount : 0 < countSuccessfulPaymentsForYear surveyId config.assessmentYear.id db ↔
      ∃ p ∈ db.payments.rows, p.paidFor surveyId config.assessmentYear.id = true := by
    simp only [countSuccessfulPaymentsForYear, List.length_pos_iff_exists_mem, List.mem_filter]
  have hNone : publishedDemand? surveyId config.assessmentYear.id db = none ↔
      ∀ d, db.demandFor? surveyId config.assessmentYear.id = some d → d.status ≠ .published := by
    simp [publishedDemand?, Option.filter_eq_none_iff]
  rw [hCount, hNone, PaidWithoutDemand]
  constructor
  · rintro ⟨survey', config', hSurvey', hConfig', hDue⟩
    obtain rfl := Option.some.inj (hSurvey.symm.trans hSurvey')
    obtain rfl := Option.some.inj (hConfig.symm.trans hConfig')
    exact hDue
  · intro hDue
    exact ⟨survey, config, hSurvey, hConfig, hDue⟩

/-- With a published demand both charge its outstanding, if there is any. -/
theorem checkoutsAgree_of_published
    (hStaff : onlineInput ctx input user db =
      (resolveSurveyPayableAmount ctx survey.id db).map (staffPaymentInput input))
    (hDto : dto.surveyId = some survey.id)
    (hSurvey : ctx.reference.activeSurvey? survey.id = some survey)
    (hConfig : latestPublishedConfig ctx survey.wardId = some config)
    {demand : PropertyDemand}
    (hDemand : publishedDemand? survey.id config.assessmentYear.id db = some demand)
    (hNoOpen : hasRecentOpenCitizenPayment survey.id config.assessmentYear.id ctx.now db = false)
    (hStaffUnused : db.Unused (newCitizenMerchTxnId ctx.now staffSuffix))
    (hCitizenUnused : db.Unused (newCitizenMerchTxnId ctx.now citizenSuffix)) :
    CheckoutsAgree db (createOnline ctx input user staffSuffix staffReply db)
      (createCitizenPayment ctx dto citizenSuffix citizenReply db) := by
  unfold publishedDemand? at hDemand
  simp only [resolveSurveyPayableAmount, hSurvey, hConfig, hDemand] at hStaff
  by_cases hDue : toMoney demand.outstanding ≤ 0
  · have hCitizen : citizenInput ctx dto db = .error duesNotPayable := by
      simp only [citizenInput, getDues, hDto, hSurvey, hConfig, hDemand, CitizenDues.payableAmount,
        hDue, ↓reduceIte]
    rw [if_pos hDue] at hStaff
    exact checkoutsAgree_of_errors hStaff rfl (by decide) hCitizen rfl (by decide)
  · have hCitizen : citizenInput ctx dto db = .ok (citizenPaymentInput dto
        { survey, config, published := some demand,
          tax := ctx.billing.computePublicDuesPayload survey config
          paidForAssessmentYear := false }) := by
      simp only [citizenInput, getDues, hDto, hSurvey, hConfig, hDemand, CitizenDues.payableAmount,
        isAlreadyPaidForYear, hDue, hNoOpen, decide_false, Bool.false_eq_true, ↓reduceIte]
    rw [if_neg hDue] at hStaff
    exact checkoutsAgree_of_ok hStaff hCitizen rfl hStaffUnused hCitizenUnused

/-- Without one both recompute the dues. Staff then charge them, also of a year
that is paid. -/
theorem checkoutsAgree_iff_of_unpublished
    (hStaff : onlineInput ctx input user db =
      (resolveSurveyPayableAmount ctx survey.id db).map (staffPaymentInput input))
    (hDto : dto.surveyId = some survey.id)
    (hSurvey : ctx.reference.activeSurvey? survey.id = some survey)
    (hConfig : latestPublishedConfig ctx survey.wardId = some config)
    (hNone : publishedDemand? survey.id config.assessmentYear.id db = none)
    (hNoOpen : hasRecentOpenCitizenPayment survey.id config.assessmentYear.id ctx.now db = false)
    (hStaffUnused : db.Unused (newCitizenMerchTxnId ctx.now staffSuffix))
    (hCitizenUnused : db.Unused (newCitizenMerchTxnId ctx.now citizenSuffix)) :
    CheckoutsAgree db (createOnline ctx input user staffSuffix staffReply db)
      (createCitizenPayment ctx dto citizenSuffix citizenReply db) ↔
    ¬ (0 < (ctx.billing.computePublicDuesPayload survey config).totalDemand ∧
      0 < countSuccessfulPaymentsForYear survey.id config.assessmentYear.id db) := by
  unfold publishedDemand? at hNone
  simp only [resolveSurveyPayableAmount, hSurvey, hConfig, hNone] at hStaff
  set total := (ctx.billing.computePublicDuesPayload survey config).totalDemand with hTotal
  by_cases hDue : total ≤ 0
  · have hCitizen : citizenInput ctx dto db = .error duesNotPayable := by
      simp only [citizenInput, getDues, hDto, hSurvey, hConfig, hNone, CitizenDues.payableAmount,
        ← hTotal, hDue, ↓reduceIte]
    rw [if_pos hDue] at hStaff
    apply iff_of_true (checkoutsAgree_of_errors hStaff rfl (by decide) hCitizen rfl (by decide))
    exact fun h => absurd h.1 (not_lt.mpr hDue)
  rw [if_neg hDue] at hStaff
  by_cases hPaid : 0 < countSuccessfulPaymentsForYear survey.id config.assessmentYear.id db
  · have hCitizen : citizenInput ctx dto db = .error (.conflict (some "ALREADY_PAID_FOR_YEAR")
        ("Property tax for assessment year " ++ config.assessmentYear.name ++
          " has already been paid.")) := by
      simp only [citizenInput, getDues, hDto, hSurvey, hConfig, hNone, CitizenDues.payableAmount,
        isAlreadyPaidForYear, ← hTotal, hDue, hPaid, Option.isSome_none, Bool.false_eq_true,
        decide_true, ↓reduceIte]
    apply iff_of_false
    · -- Staff open a payment, the citizen is refused.
      have hRefused := createCitizenPayment_of_error citizenSuffix citizenReply hCitizen
      rintro (⟨⟨error, code, hReply, -, -⟩, -⟩ | ⟨charge, -, p, hAdded, -⟩)
      · obtain ⟨p, hAdded, -⟩ := createOnlinePayment_opens (staffPaymentInput input
          ⟨total, survey, config.assessmentYear.id, none⟩) (some user.id) staffReply hStaffUnused
        simp only [createOnline, hStaff, Except.map] at hReply
        rw [hReply] at hAdded
        exact hAdded.key_ne hAdded.mem_row rfl
      · rw [hRefused] at hAdded
        exact hAdded.key_ne hAdded.mem_row rfl
    · exact not_not.mpr ⟨not_le.mp hDue, hPaid⟩
  · have hCitizen : citizenInput ctx dto db = .ok (citizenPaymentInput dto
        { survey, config, published := none,
          tax := ctx.billing.computePublicDuesPayload survey config
          paidForAssessmentYear := false }) := by
      simp only [citizenInput, getDues, hDto, hSurvey, hConfig, hNone, CitizenDues.payableAmount,
        isAlreadyPaidForYear, ← hTotal, hDue, hPaid, hNoOpen, Option.isSome_none,
        Bool.false_eq_true, decide_false, ↓reduceIte]
    apply iff_of_true (checkoutsAgree_of_ok hStaff hCitizen rfl hStaffUnused hCitizenUnused)
    exact fun h => hPaid h.2

end Agreement

namespace Sample

/-- A year's tax, paid online before a demand of it was published. -/
def paidBeforePublish : Payment where
  id := 0
  paymentReference := "CHH-0"
  surveyId := some 10
  wardId := some 5
  assessmentYearId := some 20
  amount := 100000
  paymentMode := .online
  status := .success
  createdAt := 0

def paidWithoutDemand : Db :=
  { Db.empty with
    payments := ⟨[paidBeforePublish], List.pairwise_singleton _ _⟩
    nextId := 1 }

/-- A token from the gateway. -/
def checkoutToken : CreatePaymentReply := .answered ⟨none, some "m", some "token", none⟩

end Sample

end PropertyTax
