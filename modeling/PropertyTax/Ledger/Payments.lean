import PropertyTax.Concurrency.Delivery
import PropertyTax.Ledger.Step

/-! The payment operations, each performed without interruption, as steps on
the ledger. -/
namespace PropertyTax
open KeyedTable Relation

/-- Every arrear row belongs to a stored demand. -/
def Ledger.Owned (l : Ledger) : Prop :=
  ∀ a ∈ l.demandArrears.rows, ∃ d ∈ l.demands.rows, d.id = a.demandId

/-- What keeps a ledger readable to its operations. Until a refund, a receipt
snapshot is only on a successful payment. -/
structure Ledger.WellFormed (l : Ledger) : Prop where
  snapshots : ∀ p ∈ l.payments.rows, p.receiptSnapshot ≠ none → p.status = .success
  owned : l.Owned

/-- Both steps of a delivery, with nothing between them. -/
def deliverWhole (ctx : Context) (delivery : Delivery) (db : Db) : Db :=
  match beginDelivery ctx delivery db with
  | (.entered read, db) => (finishDelivery ctx read db).2
  | (_, db) => db

/-- A webhook leaves what a delivery of its callback leaves. -/
theorem handleCallback_db (ctx : Context) (payload : Json.Fields) (db : Db) :
    (handleCallback ctx payload db).1 = deliverWhole ctx (.callback payload) db := by
  unfold handleCallback deliverWhole beginDelivery
  dsimp only
  rcases readCallback ctx payload db with ⟨after, _ | _ | read⟩
  · rfl
  · rfl
  · dsimp only [finishDelivery]
    rcases finishCallback ctx read after with ⟨final, _ | outcome⟩ <;> rfl

/-- A browser's return leaves what a delivery of its callback leaves. -/
theorem handleGatewayReturn_db (ctx : Context) (payload : Json.Fields) (db : Db) :
    (handleGatewayReturn ctx payload db).1 = deliverWhole ctx (.callback payload) db := by
  rw [← handleCallback_db]
  unfold handleGatewayReturn
  rcases handleCallback ctx payload db with ⟨after, _ | outcome⟩
  · rfl
  · dsimp only
    split
    · rfl
    · split <;> rfl

/-- A staff requery leaves what its delivery leaves. -/
theorem requery_db (ctx : Context) (user : AuthUser) (paymentId : Id)
    (reply : Option RequeryResult) (db : Db) :
    (requery ctx user paymentId reply db).1 =
      deliverWhole ctx (.requery user paymentId reply) db := by
  unfold requery deliverWhole beginDelivery
  dsimp only
  cases requeryRead user paymentId db with
  | error error => rfl
  | ok payment =>
      dsimp only [finishDelivery]
      rcases finishRequery ctx user payment reply db with ⟨final, _ | outcome⟩ <;> rfl

/-- The citizen's polling leaves what its delivery leaves. -/
theorem sync_db (ctx : Context) (merchTxnId : String) (reply : Option RequeryResult) (db : Db) :
    (syncCitizenPaymentByMerchTxnId ctx merchTxnId reply db).1 =
      deliverWhole ctx (.sync merchTxnId reply) db := by
  unfold syncCitizenPaymentByMerchTxnId deliverWhole beginDelivery
  dsimp only
  cases syncRead merchTxnId db with
  | error error => rfl
  | ok payment =>
      dsimp only [finishDelivery]
      rcases finishSync ctx payment reply db with ⟨final, _ | outcome⟩ <;> rfl

/-- The delivery reports a success of the payment `p`. -/
def Delivery.ReportsSuccessOf (ctx : Context) (p : Payment) : Delivery → Prop
  | .callback payload => ∃ parsed, parseCallbackPayload ctx.gateway payload = .ok parsed ∧
      parsed.merchTxnId = p.merchTxnId ∧ isGatewaySuccess parsed.statusCode = true
  | .requery _ paymentId reply => paymentId = p.id ∧
      ∃ result, reply = some result ∧ result.success = true
  | .sync merchTxnId reply => p.merchTxnId = some merchTxnId ∧
      ∃ result, reply = some result ∧ result.success = true

/-- A success is one that a reply reports. -/
private theorem success_of_getD {reply : Option RequeryResult}
    (h : (reply.map RequeryResult.success).getD false = true) :
    ∃ result, reply = some result ∧ result.success = true := by
  cases reply with
  | none => cases h
  | some result => exact ⟨result, rfl, h⟩

/-- A delivery that enters its transaction has read a stored payment, and knows
what is reported of it. -/
theorem beginDelivery_entered {ctx : Context} {delivery : Delivery} {db db' : Db}
    {read : DeliveryRead} (h : beginDelivery ctx delivery db = (.entered read, db')) :
    SameLedger db db' ∧ read.payment ∈ db.payments.rows ∧
      (read.success = true → delivery.ReportsSuccessOf ctx read.payment) := by
  cases delivery with
  | callback payload =>
      have hSame := (readCallback_same ctx payload db).1
      unfold beginDelivery at h
      rcases hRead : readCallback ctx payload db with ⟨after, _ | outcome | entered⟩
      · simp [hRead] at h
      · simp [hRead] at h
      · rw [hRead] at hSame
        simp only [hRead, Prod.mk.injEq, Progress.entered.injEq] at h
        obtain ⟨hEntered, hAfter⟩ := h
        subst hEntered hAfter
        obtain ⟨⟨parsed, hParsed, hMerch, _, hCode, _⟩, _, hPayment, _⟩ := readCallback_inr hRead
        obtain ⟨hMem, hMemMerch⟩ := Db.paymentByMerchTxnId?_spec hPayment
        refine ⟨hSame, hMem, ?_⟩
        intro hSuccess
        refine ⟨parsed, hParsed, hMerch.trans hMemMerch.symm, ?_⟩
        rw [hCode]
        exact hSuccess
  | requery user paymentId reply =>
      unfold beginDelivery at h
      cases hRead : requeryRead user paymentId db with
      | error error => simp [hRead] at h
      | ok payment =>
          simp only [hRead, Prod.mk.injEq, Progress.entered.injEq] at h
          obtain ⟨hEntered, hAfter⟩ := h
          subst hEntered hAfter
          unfold requeryRead at hRead
          cases hFound : db.payments.find? paymentId with
          | none => simp [hFound] at hRead
          | some p =>
              simp only [hFound] at hRead
              obtain ⟨hMem, hId⟩ := find?_eq_some_iff.mp hFound
              split_ifs at hRead
              cases hAccess : assertPaymentAccess user p.collectedById .requery with
              | error error => simp [hAccess, Except.map] at hRead
              | ok _ =>
                  simp only [hAccess, Except.map, Except.ok.injEq] at hRead
                  subst hRead
                  exact ⟨SameLedger.refl db, hMem, fun hSuccess =>
                    ⟨hId.symm, success_of_getD hSuccess⟩⟩
  | sync merchTxnId reply =>
      unfold beginDelivery at h
      cases hRead : syncRead merchTxnId db with
      | error error => simp [hRead] at h
      | ok payment =>
          simp only [hRead, Prod.mk.injEq, Progress.entered.injEq] at h
          obtain ⟨hEntered, hAfter⟩ := h
          subst hEntered hAfter
          unfold syncRead at hRead
          cases hFound : db.paymentByMerchTxnId? merchTxnId with
          | none => simp [hFound] at hRead
          | some p =>
              simp only [hFound] at hRead
              obtain ⟨hMem, hMemMerch⟩ := Db.paymentByMerchTxnId?_spec hFound
              split_ifs at hRead
              cases hRead
              exact ⟨SameLedger.refl db, hMem, fun hSuccess =>
                ⟨hMemMerch, success_of_getD hSuccess⟩⟩

/-- A delivery that does not enter its transaction leaves the ledger alone. -/
theorem beginDelivery_same (ctx : Context) (delivery : Delivery) (db : Db) :
    SameLedger db (beginDelivery ctx delivery db).2 := by
  cases delivery with
  | callback payload =>
      have hSame := (readCallback_same ctx payload db).1
      rcases hRead : readCallback ctx payload db with ⟨after, _ | outcome | entered⟩ <;>
        (rw [hRead] at hSame; simpa only [beginDelivery, hRead] using hSame)
  | requery user paymentId reply =>
      unfold beginDelivery
      dsimp only
      split <;> exact SameLedger.refl db
  | sync merchTxnId reply =>
      unfold beginDelivery
      dsimp only
      split <;> exact SameLedger.refl db

/-- A whole delivery leaves the ledger alone, or settles a stored payment from
an up-to-date reading of it. -/
theorem deliverWhole_cases (ctx : Context) (delivery : Delivery) (db : Db) :
    SameLedger db (deliverWhole ctx delivery db) ∨
    ∃ read : DeliveryRead, read.payment ∈ db.payments.rows ∧
      (∃ entered, beginDelivery ctx delivery db = (.entered read, entered) ∧
        SameLedger db entered ∧ ¬ read.keyTaken entered) ∧
      (read.success = true → delivery.ReportsSuccessOf ctx read.payment) ∧
      read.proceeds ctx.gateway.name = true ∧
      Settled read.payment read.status read.credits db (deliverWhole ctx delivery db) := by
  have hSame := beginDelivery_same ctx delivery db
  unfold deliverWhole
  rcases hBegin : beginDelivery ctx delivery db with ⟨progress, after⟩
  rw [hBegin] at hSame
  cases progress with
  | waiting => exact Or.inl hSame
  | finished settled => exact Or.inl hSame
  | entered read =>
      obtain ⟨_, hMem, hReports⟩ := beginDelivery_entered hBegin
      rcases finishDelivery_cases ctx read after with
        ⟨hSame', _⟩ | ⟨_, hProceeds, hFree, hSettled⟩
      · exact Or.inl (hSame.trans hSame')
      · exact Or.inr ⟨read, hMem, ⟨after, rfl, hSame, hFree⟩, hReports, hProceeds,
          hSettled.congr hSame (SameLedger.refl _)⟩

/-- A payment ends as a success if one is reported, or if it was one before. -/
theorem DeliveryRead.status_eq_success {read : DeliveryRead} (h : read.status = .success) :
    read.success = true ∨ read.payment.status = .success := by
  cases hSuccess : read.success with
  | true => exact Or.inl rfl
  | false =>
      refine Or.inr ?_
      cases read with
      | callback read =>
          have hFailure : read.success = false := hSuccess
          by_contra hOther
          have hPayment : read.payment.status ≠ .success := hOther
          have hStatus : read.effectiveStatus = .success := h
          unfold CallbackRead.effectiveStatus CallbackRead.nextStatus at hStatus
          rw [hFailure] at hStatus
          by_cases hUnknown : read.statusCode = "UNKNOWN"
          · simp [hPayment, hUnknown] at hStatus
          · simp [hPayment, hUnknown] at hStatus
      | requery _ payment reply =>
          have hFailure : (reply.map RequeryResult.success).getD false = false := hSuccess
          simp only [DeliveryRead.status, hFailure, Bool.false_eq_true, ↓reduceIte] at h
          exact h
      | sync payment reply =>
          have hFailure : (reply.map RequeryResult.success).getD false = false := hSuccess
          simp only [DeliveryRead.status, hFailure, Bool.false_eq_true, ↓reduceIte] at h
          exact h

/-- A delivery performed without interruption is at most one payment step, or
rewrites a payment whose success was undone. -/
theorem deliverWhole_rewrites {ctx : Context} {delivery : Delivery} {db : Db}
    {allowed : Payment → PropertyDemand → Prop}
    (hAllowed : ∀ p ∈ db.payments.rows, ∀ d, delivery.ReportsSuccessOf ctx p →
      p.status ≠ .success → creditTarget p db.demands = some d → allowed p d) :
    (deliverWhole ctx delivery db).ledger = db.ledger ∨
      PaymentStep allowed db.ledger (deliverWhole ctx delivery db).ledger ∨
      ∃ p p', (p.receiptSnapshot ≠ none ∧ p.status ≠ .success) ∧
        Rewritten db.ledger (deliverWhole ctx delivery db).ledger p p' := by
  rcases deliverWhole_cases ctx delivery db with
    hSame | ⟨read, hMem, _, hReports, _, hSettled⟩
  · exact Or.inl hSame.ledger
  · refine Or.inr ?_
    cases hSettled with
    | credited p p' d hCredits hTarget hPayment hId hSame hStatus hLink _ hDemand hArrears _ =>
        have hOld : p = read.payment := eq_of_key hPayment.mem_old hMem hId
        subst hOld
        obtain ⟨hSuccess, hBefore, _⟩ := (DeliveryRead.credits_iff read).mp hCredits
        exact .inl (.credited read.payment p' d hPayment hSame hBefore
          (hStatus.trans (DeliveryRead.status_of_success hSuccess)) hTarget
          (hAllowed read.payment hMem d (hReports hSuccess) hBefore hTarget) hLink hDemand
          hArrears)
    | uncredited p p' hNone hPayment hId hSame hStatus hLink hSnapshot hDemands hArrears _ =>
        have hOld : p = read.payment := eq_of_key hPayment.mem_old hMem hId
        subst hOld
        by_cases hBefore : read.payment.status = .success
        · refine .inl (.revised read.payment p' hPayment hSame ?_ hLink hSnapshot hDemands
            hArrears)
          rw [hStatus, DeliveryRead.status_of_read_success hBefore, hBefore]
        · by_cases hClean : read.payment.receiptSnapshot = none
          · by_cases hAfter : read.status = .success
            · -- A first success without a credit had no demand to credit.
              have hSuccess : read.success = true :=
                (DeliveryRead.status_eq_success hAfter).resolve_right hBefore
              have hCredits : read.credits = true :=
                (DeliveryRead.credits_iff read).mpr ⟨hSuccess, hBefore, hClean⟩
              have hTarget : creditTarget read.payment db.demands = none := by
                rcases hNone with hFalse | hTarget
                · rw [hCredits] at hFalse
                  cases hFalse
                · exact hTarget
              exact .inl (.succeeded read.payment p' hPayment hSame hBefore
                (hStatus.trans hAfter) hTarget hLink hDemands hArrears)
            · refine .inl (.revised read.payment p' hPayment hSame ?_ hLink hSnapshot hDemands
                hArrears)
              rw [hStatus]
              exact ⟨fun h => absurd h hAfter, fun h => absurd h hBefore⟩
          · exact .inr ⟨read.payment, p', ⟨hClean, hBefore⟩, hPayment, hSame.surveyId,
              hSame.assessmentYearId, hSame.amount, hLink, hDemands, hArrears⟩

/-- Until a refund, a delivery is at most one payment step. -/
theorem deliverWhole_step {ctx : Context} {delivery : Delivery} {db : Db}
    {allowed : Payment → PropertyDemand → Prop} (hWf : db.ledger.WellFormed)
    (hAllowed : ∀ p ∈ db.payments.rows, ∀ d, delivery.ReportsSuccessOf ctx p →
      p.status ≠ .success → creditTarget p db.demands = some d → allowed p d) :
    (deliverWhole ctx delivery db).ledger = db.ledger ∨
      PaymentStep allowed db.ledger (deliverWhole ctx delivery db).ledger := by
  rcases deliverWhole_rewrites hAllowed with
    hSame | hStep | ⟨p, p', ⟨hSnapshot, hBefore⟩, hRewritten⟩
  · exact .inl hSame
  · exact .inr hStep
  · exact absurd (hWf.snapshots p hRewritten.payment.mem_old hSnapshot) hBefore

/-! ### Opening an online payment -/

/-- The amount is payable, and a linked demand is a published one of the same
survey and year. -/
structure OpensOn (demands : KeyedTable PropertyDemand) (input : OnlinePaymentInput) : Prop where
  amount : 0 ≤ input.amount
  linked : ∀ id, input.propertyDemandId = some id → ∃ d ∈ demands.rows, d.id = id ∧
    d.status = .published ∧ input.surveyId = some d.surveyId ∧
    input.assessmentYearId = some d.assessmentYearId

/-- A clerk opens a payment on a published demand. -/
theorem onlineInput_opensOn {ctx : Context} {request : CreateOnlineInput} {user : AuthUser}
    {db : Db} {input : OnlinePaymentInput} (h : onlineInput ctx request user db = .ok input) :
    OpensOn db.demands input := by
  unfold onlineInput at h
  cases hRequested : request.surveyId with
  | none => simp [hRequested] at h
  | some surveyId =>
      simp only [hRequested] at h
      cases hPayable : resolveSurveyPayableAmount ctx surveyId db with
      | error error => simp [hPayable, bind, Except.bind] at h
      | ok payable =>
          have hInput : input = staffPaymentInput request payable := by
            rw [hPayable] at h
            cases hSurvey : assertSurveyAccess user payable.survey.createdById .read with
            | error error => simp [hSurvey, bind, Except.bind] at h
            | ok _ =>
                cases hAccess : assertPaymentAccess user (some user.id) .create with
                | error error => simp [hSurvey, hAccess, bind, Except.bind] at h
                | ok _ =>
                    simp only [hSurvey, hAccess, bind, Except.bind, pure, Except.pure,
                      Except.ok.injEq] at h
                    exact h.symm
          subst hInput
          unfold resolveSurveyPayableAmount at hPayable
          cases hSurvey : ctx.reference.activeSurvey? surveyId with
          | none => simp [hSurvey] at hPayable
          | some survey =>
              simp only [hSurvey] at hPayable
              cases hConfig : latestPublishedConfig ctx survey.wardId with
              | none => simp [hConfig] at hPayable
              | some config =>
                  simp only [hConfig] at hPayable
                  split at hPayable
                  · rename_i demand hDemand
                    obtain ⟨hFound, hStatus⟩ := Option.filter_eq_some_iff.mp hDemand
                    obtain ⟨hMem, hSurveyId, hYearId⟩ := Db.demandFor?_spec hFound
                    split_ifs at hPayable with hPositive
                    cases hPayable
                    refine ⟨(not_le.mp hPositive).le, ?_⟩
                    intro id hId
                    exact ⟨demand, hMem, Option.some.inj hId, by simpa using hStatus,
                      congrArg some hSurveyId.symm, congrArg some hYearId.symm⟩
                  · split_ifs at hPayable with hPositive
                    cases hPayable
                    exact ⟨(not_le.mp hPositive).le, fun id hId => by cases hId⟩

/-- A citizen opens a payment on the published demand, if there is one. -/
theorem citizenInput_opensOn {ctx : Context} {dto : CitizenPaymentDto} {db : Db}
    {input : OnlinePaymentInput} (h : citizenInput ctx dto db = .ok input) :
    OpensOn db.demands input := by
  unfold citizenInput at h
  cases hDues : getDues ctx dto.surveyId db with
  | error error => simp [hDues] at h
  | ok dues =>
      simp only [hDues] at h
      split_ifs at h with hPositive
      cases h
      refine ⟨(not_le.mp hPositive).le, ?_⟩
      intro id hId
      unfold getDues at hDues
      cases hRequested : dto.surveyId with
      | none => simp [hRequested] at hDues
      | some surveyId =>
          simp only [hRequested] at hDues
          cases hSurvey : ctx.reference.activeSurvey? surveyId with
          | none => simp [hSurvey] at hDues
          | some survey =>
              simp only [hSurvey] at hDues
              cases hConfig : latestPublishedConfig ctx survey.wardId with
              | none => simp [hConfig] at hDues
              | some config =>
                  simp only [hConfig, Except.ok.injEq] at hDues
                  subst hDues
                  obtain ⟨demand, hDemand, hDemandId⟩ := Option.map_eq_some_iff.mp hId
                  obtain ⟨hFound, hStatus⟩ := Option.filter_eq_some_iff.mp hDemand
                  obtain ⟨hMem, hSurveyId, hYearId⟩ := Db.demandFor?_spec hFound
                  exact ⟨demand, hMem, hDemandId, by simpa using hStatus,
                    congrArg some hSurveyId.symm, congrArg some hYearId.symm⟩

section Opening
variable {allowed : Payment → PropertyDemand → Prop} {db after : Db} {paymentId : Id}

/-- Marking a payment that is not a success as failed or pending. -/
theorem setPaymentStatus_step {status : PaymentStatus} (hStatus : status ≠ .success)
    (hOpen : ∀ p ∈ db.payments.rows, p.id = paymentId → p.status ≠ .success)
    (h : db.updatePayment paymentId (setPaymentStatus status) = .ok after) :
    PaymentStep allowed db.ledger after.ledger := by
  obtain ⟨p, payments, hId, hReplaced, rfl⟩ := Db.updatePayment_ok h fun _ => rfl
  refine .revised p _ hReplaced ⟨rfl, rfl, rfl, rfl, rfl, rfl⟩ ?_ rfl rfl rfl rfl
  exact ⟨fun h => absurd h hStatus, fun h => absurd h (hOpen p hReplaced.mem_old hId)⟩

/-- A failed checkout is made of steps of payments. -/
theorem failOpened_steps {α : Type} {error : ApiError}
    (hOpen : ∀ p ∈ db.payments.rows, p.id = paymentId → p.status ≠ .success) :
    ReflTransGen (PaymentStep allowed) db.ledger
      (failOpened paymentId error db : Reply α).1.ledger := by
  unfold failOpened
  cases hUpdate : db.updatePayment paymentId (setPaymentStatus .failed) with
  | error refusal => exact .refl
  | ok after => exact .single (setPaymentStatus_step (by decide) hOpen hUpdate)

/-- The answer to a checkout is made of steps of payments. -/
theorem finishOpened_steps {reply : CreatePaymentReply}
    (hOpen : ∀ p ∈ db.payments.rows, p.id = paymentId → p.status ≠ .success) :
    ReflTransGen (PaymentStep allowed) db.ledger
      (finishOpened paymentId reply db).1.ledger := by
  unfold finishOpened
  cases reply with
  | invalid code message => exact failOpened_steps hOpen
  | threw => exact failOpened_steps hOpen
  | answered result =>
      dsimp only
      split_ifs
      · exact @failOpened_steps _ (db.addTransaction _) _ _ _ hOpen
      · split
        · exact .refl
        · rename_i after hUpdate
          exact .single (@setPaymentStatus_step _ (db.addTransaction _) _ _ _ (by decide) hOpen
            hUpdate)

/-- Opening a payment adds it as initiated, and marks it by the gateway's
answer. -/
theorem createOnlinePayment_steps {ctx : Context} {input : OnlinePaymentInput}
    {collectedById : Option Id} {suffix : String} {reply : CreatePaymentReply}
    (hOpens : OpensOn db.demands input) :
    ReflTransGen (PaymentStep allowed) db.ledger
      (createOnlinePayment ctx input collectedById suffix reply db).1.ledger := by
  unfold createOnlinePayment
  dsimp only
  cases hCreate : db.createPayment (openedPayment ctx input (newCitizenMerchTxnId ctx.now suffix)
      collectedById) with
  | error refusal => exact .refl
  | ok after =>
      obtain ⟨payments, hAdded, rfl⟩ := Db.createPayment_ok hCreate
      have hOpened : PaymentStep allowed db.ledger
          ({ db with payments, nextId := db.nextId + 1 } : Db).ledger :=
        .opened _ hAdded (by simp [openedPayment]) rfl (toColumn_nonneg hOpens.amount)
          hOpens.linked rfl rfl
      refine .head hOpened (finishOpened_steps ?_)
      intro p hp hId
      have hNew : p = _ := eq_of_key hp hAdded.mem_row hId
      rw [hNew]
      simp [openedPayment]

end Opening

/-! ### Collecting at the counter -/

/-- The collection that a counter payment makes, if it goes through. -/
structure Collects (ctx : Context) (input : OfflineInput) (user : AuthUser) (db : Db)
    (p : Payment) (d : PropertyDemand) : Prop where
  mem : d ∈ db.demands.rows
  published : d.status = .published
  amount : p.amount = toColumn input.amount
  within : assertOfflineAmountAgainstOutstanding input.amount (toMoney d.outstanding) = .ok ()
  requested : ∃ request, offlineRequest ctx input user db = .ok (.inr request) ∧
    request.demand.id = d.id

/-- The counter collects on a demand of the survey. -/
theorem offlineRequest_demand {ctx : Context} {input : OfflineInput} {user : AuthUser} {db : Db}
    {request : OfflineRequest} (h : offlineRequest ctx input user db = .ok (.inr request)) :
    request.demand ∈ db.demands.rows ∧ request.demand.surveyId = request.survey.id := by
  unfold offlineRequest at h
  obtain ⟨_, _, h⟩ := bind_ok h
  cases hRequested : input.surveyId with
  | none => simp [hRequested] at h
  | some surveyId =>
      simp only [hRequested] at h
      obtain ⟨_, _, h⟩ := bind_ok h
      cases hKey : (nonBlank input.clientIdempotencyKey).bind (paymentByClientKey? db) with
      | some existing => simp [hKey, pure, Except.pure] at h
      | none =>
          simp only [hKey] at h
          cases hSurvey : ctx.reference.survey? surveyId with
          | none => simp [hSurvey] at h
          | some survey =>
              simp only [hSurvey] at h
              obtain ⟨_, _, h⟩ := bind_ok h
              obtain ⟨_, _, h⟩ := bind_ok h
              obtain ⟨demand, hPresent, h⟩ := bind_ok h
              obtain ⟨_, _, h⟩ := bind_ok h
              cases h
              cases hFound : findPublishedDemandForOffline ctx survey.id input.assessmentYearId
                  (input.wardId.getD survey.wardId) db with
              | none => simp [hFound, assertPublishedDemandPresent] at hPresent
              | some found =>
                  simp only [hFound, assertPublishedDemandPresent] at hPresent
                  split_ifs at hPresent
                  cases hPresent
                  exact findPublishedDemandForOffline_survey hFound

/-- The locked demand is published, and the amount is within its outstanding. -/
theorem lockForCollection_ok {request : OfflineRequest} {amount : ℚ} {db : Db}
    {locked : PropertyDemand} (h : lockForCollection request amount db = .ok locked) :
    locked ∈ db.demands.rows ∧ locked.id = request.demand.id ∧ locked.status = .published ∧
      assertOfflineAmountAgainstOutstanding amount (toMoney locked.outstanding) = .ok () := by
  unfold lockForCollection at h
  cases hLocked : (db.demands.find? request.demand.id).filter fun d => d.status = .published with
  | none => simp [hLocked] at h
  | some d =>
      simp only [hLocked] at h
      obtain ⟨hFound, hStatus⟩ := Option.filter_eq_some_iff.mp hLocked
      obtain ⟨hMem, hId⟩ := find?_eq_some_iff.mp hFound
      obtain ⟨_, hWithin, hSame⟩ := map_ok h
      subst hSame
      exact ⟨hMem, hId, by simpa using hStatus, hWithin⟩

/-- A collection is one payment step, or none. -/
theorem createOffline_step {ctx : Context} {input : OfflineInput} {user : AuthUser}
    (suffix : String) {db : Db} {allowed : Payment → PropertyDemand → Prop}
    (hAllowed : ∀ p d, Collects ctx input user db p d → allowed p d) :
    (createOffline ctx input user suffix db).1.ledger = db.ledger ∨
      PaymentStep allowed db.ledger (createOffline ctx input user suffix db).1.ledger := by
  unfold createOffline
  cases hRequest : offlineRequest ctx input user db with
  | error error => exact Or.inl rfl
  | ok answer =>
      cases answer with
      | inl existing => exact Or.inl rfl
      | inr request =>
          dsimp only
          cases hLocked : lockForCollection request input.amount db with
          | error error => exact Or.inl rfl
          | ok locked =>
              obtain ⟨hMem, hId, hPublished, hWithin⟩ := lockForCollection_ok hLocked
              obtain ⟨hDemand, hSurvey⟩ := offlineRequest_demand hRequest
              have hSame : locked = request.demand := eq_of_key hMem hDemand hId
              dsimp only
              cases hDate : offlineCollectionDate ctx input with
              | error error => exact Or.inl rfl
              | ok collectionDate =>
                  dsimp only
                  cases hCollect : collect ctx input user request locked
                      (offlinePaymentReference ctx.now suffix) collectionDate db with
                  | error refusal =>
                      refine Or.inl ?_
                      cases refusal with
                      | uniqueViolation =>
                          simp only [answerCollision]
                          split <;> rfl
                      | recordNotFound => rfl
                  | ok result =>
                      refine Or.inr ?_
                      unfold collect at hCollect
                      obtain ⟨after, hCreate, hCollect⟩ := bind_ok hCollect
                      obtain ⟨final, hUpdate, hCollect⟩ := bind_ok hCollect
                      cases hCollect
                      obtain ⟨payments, hAdded, rfl⟩ := Db.createPayment_ok hCreate
                      obtain ⟨d, demands, hdId, hReplaced, rfl⟩ :=
                        Db.updateDemand_ok hUpdate fun _ => rfl
                      have hOld : d = locked := eq_of_key hReplaced.mem_old hMem hdId
                      subst hOld
                      have hPositive := pos_of_offlineAmount hWithin
                      rw [withBalance_eq_credit d hPositive.le] at hReplaced
                      refine .collected _ d hAdded rfl (toColumn_nonneg hPositive.le) ?_ rfl rfl
                        hPublished (hAllowed _ d ?_) hReplaced rfl
                      · exact congrArg some (hSurvey.symm.trans (congrArg _ hSame.symm))
                      · exact ⟨hMem, hPublished, rfl, hWithin, request, hRequest,
                          congrArg _ hSame.symm⟩

end PropertyTax
