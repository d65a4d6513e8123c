import PropertyTax.Ledger.YearEnd
import PropertyTax.Library.Runs
import PropertyTax.Payments.Refund

/-! Everything the services do, as calls that follow each other without
overlap. A run is a list of calls, each with the reference data, the clock and
the gateway answers of its own moment. -/
namespace PropertyTax
open KeyedTable Relation Runs

inductive Operation where
  | createOnline (input : CreateOnlineInput) (user : AuthUser) (suffix : String)
      (reply : CreatePaymentReply)
  | createCitizenPayment (dto : CitizenPaymentDto) (suffix : String) (reply : CreatePaymentReply)
  | deliver (delivery : Delivery)
  | gatewayReturn (payload : Json.Fields)
  | createOffline (input : OfflineInput) (user : AuthUser) (suffix : String)
  | refund (user : AuthUser) (paymentId : Id) (amount : ℚ) (reason : Option String)
      (reply : Option RefundResult)
  | publish (surveyId assessmentYearId : Id) (actorId : Option Id)
  | publishForWard (wardId assessmentYearId : Id) (actorId : Option Id)
  | commitYearEnd (fromYearId toYearId : Id) (actorId : Option Id)

structure Call where
  ctx : Context
  operation : Operation

/-- `handleCallback`, `requery` or `syncCitizenPaymentByMerchTxnId`. -/
def Delivery.perform (ctx : Context) (db : Db) : Delivery → Db
  | .callback payload => (handleCallback ctx payload db).1
  | .requery user paymentId reply => (PropertyTax.requery ctx user paymentId reply db).1
  | .sync merchTxnId reply => (syncCitizenPaymentByMerchTxnId ctx merchTxnId reply db).1

def perform (db : Db) (call : Call) : Db :=
  match call.operation with
  | .createOnline input user suffix reply => (createOnline call.ctx input user suffix reply db).1
  | .createCitizenPayment dto suffix reply =>
      (createCitizenPayment call.ctx dto suffix reply db).1
  | .deliver delivery => delivery.perform call.ctx db
  | .gatewayReturn payload => (handleGatewayReturn call.ctx payload db).1
  | .createOffline input user suffix => (createOffline call.ctx input user suffix db).1
  | .refund user paymentId amount reason reply =>
      (refund user paymentId amount reason reply call.ctx.now db).1
  | .publish surveyId assessmentYearId actorId =>
      (publish call.ctx surveyId assessmentYearId actorId db).1
  | .publishForWard wardId assessmentYearId actorId =>
      (publishForWard call.ctx wardId assessmentYearId actorId db).1
  | .commitYearEnd fromYearId toYearId actorId =>
      (commitYearEnd call.ctx fromYearId toYearId actorId db).1

def Call.IsRefund (call : Call) : Prop :=
  ∃ user paymentId amount reason reply,
    call.operation = .refund user paymentId amount reason reply

/-- Everything but publishing and the year-end run. -/
def Call.IsPayment (call : Call) : Prop :=
  match call.operation with
  | .publish .. => False
  | .publishForWard .. => False
  | .commitYearEnd .. => False
  | _ => True

/-- An amount that is collected has at most two decimals. -/
def Call.InPaise (call : Call) : Prop :=
  match call.operation with
  | .createOffline input _ _ => ∃ paise : Money, input.amount = toMoney paise
  | _ => True

/-- A delivery is done from beginning to end. -/
theorem Delivery.perform_eq (ctx : Context) (db : Db) (delivery : Delivery) :
    delivery.perform ctx db = deliverWhole ctx delivery db := by
  cases delivery with
  | callback payload => exact handleCallback_db ctx payload db
  | requery user paymentId reply => exact requery_db ctx user paymentId reply db
  | sync merchTxnId reply => exact sync_db ctx merchTxnId reply db

/-! ### What a call may do to the ledger -/

/-- The delivery reports a success of `p`, which is not one yet, and `d` is the
demand it would be credited to. -/
structure Delivery.Pays (delivery : Delivery) (ctx : Context) (db : Db) (p : Payment)
    (d : PropertyDemand) : Prop where
  mem : p ∈ db.payments.rows
  reports : delivery.ReportsSuccessOf ctx p
  unpaid : p.status ≠ .success
  target : creditTarget p db.demands = some d

/-- A reported success pays the demand of an unpaid payment. -/
theorem Delivery.pays (delivery : Delivery) {ctx : Context} {db : Db} :
    ∀ p ∈ db.payments.rows, ∀ d, delivery.ReportsSuccessOf ctx p → p.status ≠ .success →
      creditTarget p db.demands = some d → delivery.Pays ctx db p d :=
  fun _ hMem _ hReports hUnpaid hTarget => ⟨hMem, hReports, hUnpaid, hTarget⟩

/-- The payment `p` that a call may credit to the demand `d`. -/
def Call.Pays (call : Call) (db : Db) (p : Payment) (d : PropertyDemand) : Prop :=
  match call.operation with
  | .deliver delivery => delivery.Pays call.ctx db p d
  | .gatewayReturn payload => (Delivery.callback payload).Pays call.ctx db p d
  | .createOffline input user _ => Collects call.ctx input user db p d
  | _ => False

/-- The demands that a call publishes. -/
def Call.Publishes (call : Call) (input : PublishInput) : Prop :=
  match call.operation with
  | .publish surveyId assessmentYearId actorId =>
      publishInput call.ctx surveyId assessmentYearId actorId = .ok input
  | .publishForWard wardId assessmentYearId actorId =>
      ∃ taxConfig, wardTaxConfig call.ctx wardId assessmentYearId = .ok taxConfig ∧
        ∃ survey ∈ activeSurveysOf call.ctx.reference wardId,
          wardInput call.ctx assessmentYearId actorId taxConfig survey = input
  | _ => False

/-- The call is a year-end run that passes its checks and was not committed
before. -/
def Call.Carries (call : Call) (db : Db) (fromYearId toYearId : Id) : Prop :=
  (∃ actorId, call.operation = .commitYearEnd fromYearId toYearId actorId) ∧
    assertDistinctAssessmentYears call.ctx.reference fromYearId toYearId = .ok () ∧
    ((yearEndRun? db fromYearId toYearId).filter fun r => r.status = .committed) = none

/-- The steps that a call of state `db` is made of. -/
inductive CallStep (db : Db) (call : Call) (l l' : Ledger) : Prop where
  | paid (h : PaymentStep (call.Pays db) l l')
  | published (input : PublishInput) (hPublishes : call.Publishes input)
      (hPayments : l.payments = db.payments) (h : PublishStep call.ctx input l l')
  | carried (fromYearId toYearId : Id) (hCarries : call.Carries db fromYearId toYearId)
      (h : CarryStep (unpaidDemands db fromYearId) toYearId l l')

/-- Every step of a call leaves the ledger well formed. -/
theorem CallStep.wellFormed {db : Db} {call : Call} {l l' : Ledger} (h : CallStep db call l l')
    (hWf : l.WellFormed) : l'.WellFormed := by
  cases h with
  | paid h => exact h.wellFormed hWf
  | published _ _ _ h => exact h.wellFormed hWf
  | carried _ _ _ h => exact h.wellFormed hWf

/-- A clerk's online payment is made of steps of payments. -/
theorem createOnline_steps (call : Call) {input : CreateOnlineInput} {user : AuthUser}
    {suffix : String} {reply : CreatePaymentReply} (db : Db) :
    ReflTransGen (PaymentStep (call.Pays db)) db.ledger
      (createOnline call.ctx input user suffix reply db).1.ledger := by
  unfold createOnline
  cases hInput : onlineInput call.ctx input user db with
  | error error => exact .refl
  | ok request => exact createOnlinePayment_steps (onlineInput_opensOn hInput)

/-- A citizen's payment is made of steps of payments. -/
theorem createCitizenPayment_steps (call : Call) {dto : CitizenPaymentDto} {suffix : String}
    {reply : CreatePaymentReply} (db : Db) :
    ReflTransGen (PaymentStep (call.Pays db)) db.ledger
      (createCitizenPayment call.ctx dto suffix reply db).1.ledger := by
  unfold createCitizenPayment
  cases hInput : citizenInput call.ctx dto db with
  | error error => exact .refl
  | ok request =>
      have hSteps : ReflTransGen (PaymentStep (call.Pays db)) db.ledger
          (createOnlinePayment call.ctx request none suffix reply db).1.ledger :=
        createOnlinePayment_steps (citizenInput_opensOn hInput)
      dsimp only
      rcases hResult : createOnlinePayment call.ctx request none suffix reply db with
        ⟨after, _ | ⟨payment, gateway⟩⟩
      · rw [hResult] at hSteps
        exact hSteps
      · rw [hResult] at hSteps
        dsimp only
        split_ifs <;> exact hSteps

/-- The delivery that a call makes. -/
def Call.Delivers (call : Call) (delivery : Delivery) : Prop :=
  match call.operation with
  | .deliver made => made = delivery
  | .gatewayReturn payload => .callback payload = delivery
  | _ => False

/-- A payment call is a sequence of payment steps, but for what a delivery or a
refund does. -/
theorem perform_paymentSteps_of {relation : Ledger → Ledger → Prop} {db : Db} {call : Call}
    (hPayment : call.IsPayment)
    (hSteps : ∀ l l', PaymentStep (call.Pays db) l l' → relation l l')
    (hDeliver : ∀ delivery, call.Delivers delivery → delivery.Pays call.ctx db = call.Pays db →
      ReflTransGen relation db.ledger (deliverWhole call.ctx delivery db).ledger)
    (hRefund : call.IsRefund → ReflTransGen relation db.ledger (perform db call).ledger) :
    ReflTransGen relation db.ledger (perform db call).ledger := by
  obtain ⟨ctx, operation⟩ := call
  cases operation with
  | createOnline input user suffix reply =>
      exact ReflTransGen.mono hSteps _ _
        (createOnline_steps ⟨ctx, .createOnline input user suffix reply⟩ db)
  | createCitizenPayment dto suffix reply =>
      exact ReflTransGen.mono hSteps _ _
        (createCitizenPayment_steps ⟨ctx, .createCitizenPayment dto suffix reply⟩ db)
  | deliver delivery =>
      change ReflTransGen _ _ (delivery.perform ctx db).ledger
      rw [delivery.perform_eq]
      exact hDeliver delivery rfl rfl
  | gatewayReturn payload =>
      change ReflTransGen _ _ (handleGatewayReturn ctx payload db).1.ledger
      rw [handleGatewayReturn_db]
      exact hDeliver (.callback payload) rfl rfl
  | createOffline input user suffix =>
      change ReflTransGen _ _ (createOffline ctx input user suffix db).1.ledger
      rcases createOffline_step suffix (fun p d hCollects => hCollects) with hSame | hStep
      · rw [hSame]
      · exact .single (hSteps _ _ hStep)
  | refund user paymentId amount reason reply =>
      exact hRefund ⟨user, paymentId, amount, reason, reply, rfl⟩
  | publish => exact hPayment.elim
  | publishForWard => exact hPayment.elim
  | commitYearEnd => exact hPayment.elim

/-- A payment call that is no refund is a sequence of payment steps. -/
theorem perform_paymentSteps {db : Db} {call : Call} (hWf : db.ledger.WellFormed)
    (hPayment : call.IsPayment) (hRefund : ¬ call.IsRefund) :
    ReflTransGen (PaymentStep (call.Pays db)) db.ledger (perform db call).ledger := by
  refine perform_paymentSteps_of hPayment (fun _ _ => id) ?_ fun h => absurd h hRefund
  intro delivery _ hPays
  rw [← hPays]
  rcases deliverWhole_step hWf delivery.pays with hSame | hStep
  · rw [hSame]
  · exact .single hStep

/-- `publish` or `publishForWard`. -/
def Call.IsPublish (call : Call) : Prop :=
  match call.operation with
  | .publish .. => True
  | .publishForWard .. => True
  | _ => False

/-- Publishing is a sequence of publish steps, all of which find the payments as
they were. -/
theorem perform_publishSteps {db : Db} {call : Call} (hPublish : call.IsPublish) :
    ReflTransGen (fun l l' => l.payments = db.payments ∧
        ∃ input, call.Publishes input ∧ PublishStep call.ctx input l l')
      db.ledger (perform db call).ledger := by
  obtain ⟨ctx, operation⟩ := call
  cases operation with
  | publish surveyId assessmentYearId actorId =>
      change ReflTransGen _ _ (publish ctx surveyId assessmentYearId actorId db).1.ledger
      rcases publish_step ctx surveyId assessmentYearId actorId db with
        hSame | ⟨input, hInput, hStep⟩
      · rw [hSame]
      · exact .single ⟨rfl, input, hInput, hStep⟩
  | publishForWard wardId assessmentYearId actorId =>
      change ReflTransGen _ _ (publishForWard ctx wardId assessmentYearId actorId db).1.ledger
      rcases publishForWard_steps ctx wardId assessmentYearId actorId db with
        hSame | ⟨taxConfig, hConfig, hSteps⟩
      · rw [hSame]
      · have hAlong := steps_along (fun l => l.payments = db.payments) (by
          rintro l l' hSame ⟨survey, _, hPublish⟩
          exact hPublish.same.1.trans hSame) hSteps rfl
        refine ReflTransGen.mono ?_ _ _ hAlong
        rintro l l' ⟨hPayments, survey, hSurvey, hPublish⟩
        exact ⟨hPayments, _, ⟨taxConfig, hConfig, survey, hSurvey, rfl⟩, hPublish⟩
  | _ => exact hPublish.elim

/-- Publishing and the year-end run are sequences of steps on the demands. -/
theorem perform_demandSteps {db : Db} {call : Call} (hOwned : db.ledger.Owned)
    (hDemands : ¬ call.IsPayment) :
    ReflTransGen (CallStep db call) db.ledger (perform db call).ledger := by
  by_cases hPublish : call.IsPublish
  · refine ReflTransGen.mono ?_ _ _ (perform_publishSteps hPublish)
    rintro l l' ⟨hPayments, input, hPublishes, hStep⟩
    exact .published input hPublishes hPayments hStep
  · obtain ⟨ctx, operation⟩ := call
    cases operation with
    | commitYearEnd fromYearId toYearId actorId =>
        change ReflTransGen _ _ (commitYearEnd ctx fromYearId toYearId actorId db).1.ledger
        rcases commitYearEnd_steps ctx fromYearId toYearId actorId hOwned with
          hSame | ⟨hYears, hRun, hSteps⟩
        · rw [hSame]
        · exact ReflTransGen.mono (fun _ _ hStep =>
            .carried fromYearId toYearId ⟨⟨actorId, rfl⟩, hYears, hRun⟩ hStep) _ _ hSteps
    | publish => exact absurd trivial hPublish
    | publishForWard => exact absurd trivial hPublish
    | _ => exact absurd trivial hDemands

/-- A call that is no refund is a sequence of steps on the ledger. -/
theorem perform_steps {db : Db} {call : Call} (hWf : db.ledger.WellFormed)
    (hRefund : ¬ call.IsRefund) :
    ReflTransGen (CallStep db call) db.ledger (perform db call).ledger := by
  by_cases hPayment : call.IsPayment
  · exact ReflTransGen.mono (fun _ _ h => .paid h) _ _
      (perform_paymentSteps hWf hPayment hRefund)
  · exact perform_demandSteps hWf.owned hPayment

section Invariant
variable (guard : Db → Call → Prop) (invariant : Ledger → Prop)

/-- The induction rule of runs without refunds: what every step of a call that
meets `guard` preserves, a whole run of such calls preserves. -/
theorem ledger_invariant
    (hStep : ∀ db call, invariant db.ledger → guard db call → ∀ l l', l.WellFormed →
      invariant l → CallStep db call l l' → invariant l')
    {start : Db} {calls : List Call} (hRefunds : ∀ call ∈ calls, ¬ call.IsRefund)
    (hWf : start.ledger.WellFormed) (hStart : invariant start.ledger)
    (hAlong : Along perform guard start calls) :
    (run perform start calls).ledger.WellFormed ∧ invariant (run perform start calls).ledger := by
  induction calls generalizing start with
  | nil => exact ⟨hWf, hStart⟩
  | cons call rest ih =>
      obtain ⟨hWf', hNext⟩ := steps_invariant (fun l => l.WellFormed ∧ invariant l)
        (fun l l' h hLast => ⟨hLast.wellFormed h.1,
          hStep start call hStart hAlong.1 l l' h.1 h.2 hLast⟩)
        (perform_steps hWf (hRefunds call List.mem_cons_self)) ⟨hWf, hStart⟩
      exact ih (fun c hc => hRefunds c (List.mem_cons_of_mem _ hc)) hWf' hNext hAlong.2

end Invariant

/-- The empty ledger is well formed. -/
theorem Db.empty_wellFormed : Db.empty.ledger.WellFormed :=
  ⟨fun _ hp => absurd hp List.not_mem_nil, fun _ ha => absurd ha List.not_mem_nil⟩

/-! ### A ward to run examples on -/

namespace Sample

def year (id : Id) : AssessmentYearRef := { id, code := "", name := "" }

def taxConfig (id yearId : Id) : TaxConfig where
  id := id
  wardId := 5
  assessmentYear := year yearId
  status := .published
  version := 1
  assessablePct := 0
  commercialAssessablePct := 0
  propertyTaxPct := 0
  waterTaxPct := 0
  drainageTaxPct := 0
  penaltyPct := 0
  cells := []
  updatedAt := 0

/-- One property in ward 5, taxed 1000 rupees in each of three years. -/
def ward : Context :=
  { context with
    reference :=
      { surveys := [{ id := 10, surveyId := "CHH-10", wardId := 5 }]
        taxConfigs := [taxConfig 1 20, taxConfig 2 21, taxConfig 3 22]
        taxAdjustmentRules := []
        referenceEntries := [⟨year 20, "ASSESSMENT_YEAR"⟩, ⟨year 21, "ASSESSMENT_YEAR"⟩,
          ⟨year 22, "ASSESSMENT_YEAR"⟩]
        wardIds := [5] }
    billing := ⟨fun _ _ => ⟨1000, 0, 0, 0, 1000⟩, compare⟩ }

/-- A cash payment on the demand of one year. -/
def cash (amount : ℚ) (yearId : Id) : OfflineInput where
  amount := amount
  paymentMode := .cash
  surveyId := some 10
  wardId := none
  assessmentYearId := some yearId
  payerName := none
  payerMobile := none
  receiptNumber := none
  collectionDate := none
  chequeDdReference := none
  remarks := none
  clientIdempotencyKey := none

/-- A checkout of the property's demand. -/
def openCheckout (suffix : String) : Call :=
  ⟨ward, .createOnline ⟨some 10, none, none, none, none⟩ administrator suffix
    (.answered ⟨none, none, some "token", none⟩)⟩

end Sample

end PropertyTax
