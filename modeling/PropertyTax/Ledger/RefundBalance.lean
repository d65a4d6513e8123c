import PropertyTax.Concurrency.Refunds
import PropertyTax.Ledger.Arrears
import PropertyTax.Ledger.Rows

/-! Refunds and the balance of a demand. A refund rewrites its payment and
leaves the demand alone, and publishing counts the payments of one status. The
two agree on the money kept for a survey and year until a refund of one of its
payments goes through. -/
namespace PropertyTax
open KeyedTable Relation Runs

instance (status : PaymentStatus) : Decidable status.IsRefunded :=
  inferInstanceAs (Decidable (_ ∨ _))

/-- What the payments for a survey and year have brought in, less their
successful refunds, in paise. -/
def keptSum (surveyId assessmentYearId : Id) (db : Db) : Money :=
  db.payments.sumWhere
    (fun p => p.IsFor surveyId assessmentYearId ∧ (p.status = .success ∨ p.status.IsRefunded))
    fun p => p.amount - refundedSum db.refunds p.id

/-- The call publishes the demand again, from the rates, the rules and the
arrears that it was published from. -/
def Call.Republishes (call : Call) (d : PropertyDemand) : Prop :=
  call.IsPublish ∧ ∀ input, call.Publishes input → input.survey.id = d.surveyId →
    input.assessmentYearId = d.assessmentYearId →
    input.currentDemand call.ctx = d.currentDemand ∧
      max 0 (input.arrears (some d)) = d.arrears

/-- The published demand shows the money kept as paid, and publishing it again
leaves its balance as it is. -/
structure RefundsAgree (surveyId assessmentYearId : Id) (db : Db) : Prop where
  kept : ∀ d ∈ db.demands.rows, d.surveyId = surveyId → d.assessmentYearId = assessmentYearId →
    d.status = .published → d.amountPaid = keptSum surveyId assessmentYearId db
  republished : ∀ d ∈ db.demands.rows, d.surveyId = surveyId →
    d.assessmentYearId = assessmentYearId → d.status = .published →
    ∀ call : Call, call.Republishes d → ∃ d' ∈ (perform db call).demands.rows, d'.id = d.id ∧
      d'.amountPaid = d.amountPaid ∧ d'.outstanding = d.outstanding

/-- The call is a refund of a payment for the survey and year that goes through:
its checks pass, the gateway accepts it, and its reference is free. -/
def Call.RefundsFor (surveyId assessmentYearId : Id) (db : Db) (call : Call) : Prop :=
  match call.operation with
  | .refund user paymentId amount _ reply =>
      ∃ read gateway, refundRead user paymentId amount db = .ok read ∧ reply = some gateway ∧
        gateway.success = true ∧ read.payment.IsFor surveyId assessmentYearId ∧
        ∀ r ∈ db.refunds.rows, r.refundReference ≠ "RF-" ++ toString call.ctx.now
  | _ => False

variable {surveyId yearId : Id} {db db' : Db}

theorem Call.refundsFor_of_added {ctx : Context} {user : AuthUser} {paymentId : Id} {amount : ℚ}
    {reason : Option String} {reply : Option RefundResult} {read : RefundRead}
    {gateway : RefundResult} {refunds : KeyedTable PaymentRefund}
    (hRead : refundRead user paymentId amount db = .ok read) (hReply : reply = some gateway)
    (hAdded : Added db.refunds refunds (refundRow read reason user gateway ctx.now db.nextId))
    (hSuccess : gateway.success = true) (hFor : read.payment.IsFor surveyId yearId) :
    Call.RefundsFor surveyId yearId db ⟨ctx, .refund user paymentId amount reason reply⟩ := by
  refine ⟨read, gateway, hRead, hReply, hSuccess, hFor, fun r hr hSame => ?_⟩
  simpa [KeyedRow.clash, refundRow, hSame] using hAdded.fresh r hr

/-! ### The refund rows -/

/-- Every refund row is of a stored payment, no successful one of a payment for
the survey and year, and no payment for these is a refunded one. -/
structure RefundFree (surveyId yearId : Id) (db : Db) : Prop where
  refunds : ∀ r ∈ db.refunds.rows, ∃ p ∈ db.payments.rows, p.id = r.paymentId ∧
    (r.status = .success → ¬ p.IsFor surveyId yearId)
  statuses : ∀ p ∈ db.payments.rows, p.IsFor surveyId yearId → ¬ p.status.IsRefunded

namespace RefundFree

theorem same (h : RefundFree surveyId yearId db) (hPayments : db'.payments = db.payments)
    (hRefunds : db'.refunds = db.refunds) : RefundFree surveyId yearId db' := by
  refine ⟨?_, hPayments ▸ h.statuses⟩
  rw [hPayments, hRefunds]
  exact h.refunds

theorem added {p : Payment} (h : RefundFree surveyId yearId db)
    (hPayment : Added db.payments db'.payments p) (hStatus : ¬ p.status.IsRefunded)
    (hRefunds : db'.refunds = db.refunds) : RefundFree surveyId yearId db' := by
  refine ⟨?_, hPayment.forall_rows h.statuses fun _ => hStatus⟩
  intro r hr
  obtain ⟨q, hq, hRow⟩ := h.refunds r (hRefunds ▸ hr)
  exact ⟨q, hPayment.mem_of_mem hq, hRow⟩

theorem replaced {p p' : Payment} (h : RefundFree surveyId yearId db)
    (hPayment : Replaced db.payments db'.payments p p') (hSurvey : p'.surveyId = p.surveyId)
    (hYear : p'.assessmentYearId = p.assessmentYearId)
    (hStatus : p.IsFor surveyId yearId → ¬ p'.status.IsRefunded)
    (hRefunds : db'.refunds = db.refunds) : RefundFree surveyId yearId db' := by
  have hFor : p'.IsFor surveyId yearId ↔ p.IsFor surveyId yearId := by
    rw [Payment.IsFor, Payment.IsFor, hSurvey, hYear]
  refine ⟨?_, hPayment.forall_rows h.statuses fun hNew => hStatus (hFor.mp hNew)⟩
  intro r hr
  obtain ⟨q, hq, hId, hOther⟩ := h.refunds r (hRefunds ▸ hr)
  rcases hPayment.exists_row hq with hRow | rfl
  · exact ⟨q, hRow, hId, hOther⟩
  · exact ⟨p', hPayment.mem_new, hPayment.key_eq.trans hId, fun hSuccess hNew =>
      hOther hSuccess (hFor.mp hNew)⟩

/-- Every write of a call that delivers and refunds nothing. -/
theorem frame (surveyId yearId : Id) : WriteFrame fun db db' =>
    RefundFree surveyId yearId db → RefundFree surveyId yearId db' where
  refl _ := id
  trans h h' := h' ∘ h
  aside hPayments _ hRefunds h := h.same hPayments hRefunds
  createPayment hCreate hStatus h := by
    obtain ⟨_, hAdded, rfl⟩ := Db.createPayment_ok hCreate
    exact h.added hAdded (hStatus _) rfl
  setPaymentStatus hUpdate hStatus h := by
    obtain ⟨_, _, _, hReplaced, rfl⟩ := Db.updatePayment_ok hUpdate fun _ => rfl
    exact h.replaced hReplaced rfl rfl (fun _ => hStatus) rfl

end RefundFree

/-- A delivery writes a refunded status only over one. -/
theorem DeliveryRead.refunded_of_status {read : DeliveryRead} (h : read.status.IsRefunded) :
    read.payment.status.IsRefunded := by
  cases read with
  | callback read =>
      change read.effectiveStatus.IsRefunded at h
      unfold CallbackRead.effectiveStatus CallbackRead.nextStatus at h
      split_ifs at h
      · exact absurd h success_not_refunded
      · exact absurd h success_not_refunded
      · exact h
      · exact absurd h failed_not_refunded
  | requery _ payment reply =>
      simp only [DeliveryRead.status] at h
      split_ifs at h
      · exact absurd h success_not_refunded
      · exact h
  | sync payment reply =>
      simp only [DeliveryRead.status] at h
      split_ifs at h
      · exact absurd h success_not_refunded
      · exact h

/-- A delivery refunds nothing. -/
theorem RefundFree.deliver (ctx : Context) (delivery : Delivery)
    (h : RefundFree surveyId yearId db) :
    RefundFree surveyId yearId (deliverWhole ctx delivery db) := by
  rcases deliverWhole_cases ctx delivery db with hSame | ⟨read, hMem, _, _, _, hSettled⟩
  · exact h.same hSame.payments hSame.refunds
  · have hStatus {p p' : Payment} (hOld : p ∈ db.payments.rows) (hId : p.id = read.payment.id)
        (hNew : p'.status = read.status) (hFor : p.IsFor surveyId yearId) :
        ¬ p'.status.IsRefunded := by
      have hRead : p = read.payment := eq_of_key hOld hMem hId
      intro hRefunded
      rw [hNew] at hRefunded
      refine h.statuses p hOld hFor ?_
      rw [hRead]
      exact DeliveryRead.refunded_of_status hRefunded
    cases hSettled with
    | credited p p' _ _ _ hPayment hId hSame hNew _ _ _ _ hRefunds =>
        exact h.replaced hPayment hSame.surveyId hSame.assessmentYearId
          (hStatus hPayment.mem_old hId hNew) hRefunds
    | uncredited p p' _ hPayment hId hSame hNew _ _ _ _ hRefunds =>
        exact h.replaced hPayment hSame.surveyId hSame.assessmentYearId
          (hStatus hPayment.mem_old hId hNew) hRefunds

/-- A refund that does not go through for the survey and year leaves a failed
row, or one of a payment for another. -/
theorem RefundFree.refund {ctx : Context} {user : AuthUser} {paymentId : Id} {amount : ℚ}
    {reason : Option String} {reply : Option RefundResult} (h : RefundFree surveyId yearId db)
    (hGuard : ¬ Call.RefundsFor surveyId yearId db
      ⟨ctx, .refund user paymentId amount reason reply⟩) :
    RefundFree surveyId yearId (refund user paymentId amount reason reply ctx.now db).1 := by
  rcases refund_cases user paymentId amount reason reply ctx.now db with
    hSame | ⟨read, gateway, refunds, hRead, hReply, hAdded, hRest⟩
  · rw [hSame]
    exact h
  · have hOther : gateway.success = true → ¬ read.payment.IsFor surveyId yearId :=
      fun hSuccess hFor => hGuard (Call.refundsFor_of_added hRead hReply hAdded hSuccess hFor)
    have hRow : RefundFree surveyId yearId { db with refunds, nextId := db.nextId + 1 } := by
      refine ⟨hAdded.forall_rows h.refunds ?_, h.statuses⟩
      refine ⟨read.payment, (refundRead_ok hRead).1, rfl, fun hStatus => hOther ?_⟩
      by_contra hFailed
      simp [refundRow, hFailed] at hStatus
    rcases hRest with hResult | ⟨hSuccess, p, payments, hId, hPayment, hResult⟩
    · rw [hResult]
      exact hRow
    · rw [hResult]
      have hOld : p = read.payment :=
        eq_of_key hPayment.mem_old (refundRead_ok hRead).1 hId
      refine hRow.replaced hPayment rfl rfl (fun hFor => ?_) rfl
      exact absurd (hOld ▸ hFor) (hOther hSuccess)

/-- Without a refund for the survey and year, nothing of it is refunded. -/
theorem perform_refundFree {call : Call} (h : RefundFree surveyId yearId db)
    (hGuard : ¬ call.RefundsFor surveyId yearId db) :
    RefundFree surveyId yearId (perform db call) := by
  obtain ⟨ctx, operation⟩ := call
  cases operation with
  | createOnline input user suffix reply => exact createOnline_frame (RefundFree.frame _ _) h
  | createCitizenPayment dto suffix reply => exact createCitizenPayment_frame (RefundFree.frame _ _) h
  | deliver delivery =>
      change RefundFree surveyId yearId (delivery.perform ctx db)
      rw [delivery.perform_eq]
      exact h.deliver ctx delivery
  | gatewayReturn payload =>
      change RefundFree surveyId yearId (handleGatewayReturn ctx payload db).1
      rw [handleGatewayReturn_db]
      exact h.deliver ctx (.callback payload)
  | createOffline input user suffix => exact createOffline_frame (RefundFree.frame _ _) h
  | refund user paymentId amount reason reply => exact h.refund hGuard
  | publish surveyId assessmentYearId actorId => exact publish_frame (RefundFree.frame _ _) h
  | publishForWard wardId assessmentYearId actorId => exact publishForWard_frame (RefundFree.frame _ _) h
  | commitYearEnd fromYearId toYearId actorId => exact commitYearEnd_frame (RefundFree.frame _ _) h

/-- Without refunds, the money kept is the sum of the successful payments. -/
theorem RefundFree.keptSum_eq (h : RefundFree surveyId yearId db) :
    keptSum surveyId yearId db = successSum db.payments surveyId yearId := by
  have hCounts : ∀ p ∈ db.payments.rows,
      decide (p.IsFor surveyId yearId ∧ (p.status = .success ∨ p.status.IsRefunded)) =
        p.paidFor surveyId yearId := by
    intro p hp
    by_cases hFor : p.IsFor surveyId yearId
    · simp only [Payment.paidFor, hFor, h.statuses p hp hFor, or_false, true_and]
      simp only [hFor.1, hFor.2, true_and]
    · by_cases hStatus : p.status = .success
      · simp [paidFor_of_success surveyId yearId hStatus, hFor]
      · simp [paidFor_of_not_success surveyId yearId hStatus, hFor]
  have hNone : ∀ p ∈ db.payments.rows, p.IsFor surveyId yearId →
      refundedSum db.refunds p.id = 0 := by
    intro p hp hFor
    refine sumWhere_eq_zero fun r hr hRow => ?_
    simp only [decide_eq_true_eq] at hRow
    obtain ⟨q, hq, hId, hOther⟩ := h.refunds r hr
    have hSame : q = p := eq_of_key hq hp (hId.trans hRow.1)
    exact absurd (hSame ▸ hFor) (hOther hRow.2)
  rw [keptSum, successSum, sumWhere_congr_pred hCounts]
  refine sumWhere_congr fun p hp hPaid => ?_
  rw [← hCounts p hp] at hPaid
  rw [hNone p hp (of_decide_eq_true hPaid).1, sub_zero]

/-! ### The balance -/

/-- The ledger as it reconciles for one survey and year, whatever refunds have
done to the others. -/
structure ReconciledFor (surveyId yearId : Id) (l : Ledger) : Prop extends Ledger.Sound l where
  owned : l.Owned
  snapshots : ∀ p ∈ l.payments.rows, p.IsFor surveyId yearId → p.receiptSnapshot ≠ none →
    p.status = .success
  paid : ∀ d ∈ l.demands.rows, d.surveyId = surveyId → d.assessmentYearId = yearId →
    d.status = .published → excess l d = 0

namespace ReconciledFor
variable {l l' : Ledger}

theorem paymentStep {allowed : Payment → PropertyDemand → Prop}
    (h : ReconciledFor surveyId yearId l) (hStep : PaymentStep allowed l l') :
    ReconciledFor surveyId yearId l' where
  toSound := hStep.sound h.toSound
  owned := h.owned.of_keeps hStep.keeps.2 hStep.keeps.1
  snapshots := hStep.snapshots (fun _ _ hSame => (hSame.isFor surveyId yearId).mp) h.snapshots
  paid d' hd' hSurvey hYear hStatus' := by
    obtain ⟨d, hd, hKept, hStatus, hExcess⟩ := hStep.excess_eq h.toSound d' hd' hStatus'
    rw [hExcess]
    exact h.paid d hd (hKept.surveyId.symm.trans hSurvey) (hKept.assessmentYearId.symm.trans hYear)
      hStatus

theorem publishStep {ctx : Context} {input : PublishInput} (h : ReconciledFor surveyId yearId l)
    (hStep : PublishStep ctx input l l') : ReconciledFor surveyId yearId l' where
  toSound := hStep.sound h.toSound
  owned := h.owned.of_keeps hStep.same.2 hStep.keeps
  snapshots := hStep.same.1 ▸ h.snapshots
  paid d' hd' hSurvey hYear hStatus := by
    rcases hStep.excess_eq h.toSound d' hd' with hZero | ⟨hd, hSame⟩
    · exact hZero
    · exact hSame.trans (h.paid d' hd hSurvey hYear hStatus)

theorem carryStep {sources : List PropertyDemand} {toYearId : Id}
    (h : ReconciledFor surveyId yearId l) (hStep : CarryStep sources toYearId l l') :
    ReconciledFor surveyId yearId l' where
  toSound := hStep.sound h.toSound
  owned := hStep.owned h.owned
  snapshots := hStep.payments ▸ h.snapshots
  paid d' hd' hSurvey hYear hStatus' := by
    obtain ⟨d, hd, hSurvey', hYear', hStatus, hSame⟩ := hStep.excess_eq d' hd' hStatus'
    exact hSame.trans (h.paid d hd (hSurvey'.symm.trans hSurvey) (hYear'.symm.trans hYear) hStatus)

theorem callStep {call : Call} (h : ReconciledFor surveyId yearId l)
    (hStep : CallStep db call l l') : ReconciledFor surveyId yearId l' := by
  cases hStep with
  | paid hStep => exact h.paymentStep hStep
  | published _ _ _ hStep => exact h.publishStep hStep
  | carried _ _ _ hStep => exact h.carryStep hStep

/-- A payment for another survey or year may be rewritten. -/
theorem rewritten {p p' : Payment} (h : ReconciledFor surveyId yearId l)
    (hOther : ¬ p.IsFor surveyId yearId) (hStep : Rewritten l l' p p') :
    ReconciledFor surveyId yearId l' := by
  have hPayment := hStep.payment
  have hFor (s y : Id) : p'.IsFor s y ↔ p.IsFor s y := by
    rw [Payment.IsFor, Payment.IsFor, hStep.surveyId, hStep.assessmentYearId]
  have hNone {q : Payment} (hq : ¬ q.IsFor surveyId yearId) :
      q.paidFor surveyId yearId = false := by
    by_cases hStatus : q.status = .success
    · rw [paidFor_of_success surveyId yearId hStatus, decide_eq_false hq]
    · exact paidFor_of_not_success surveyId yearId hStatus
  have hSum : successSum l'.payments surveyId yearId = successSum l.payments surveyId yearId := by
    rw [successSum, hPayment.sumWhere_eq, hNone hOther,
      hNone fun hNew => hOther ((hFor surveyId yearId).mp hNew)]
    simp only [Bool.false_eq_true, ↓reduceIte, sub_zero, add_zero]
    rfl
  have hLinked : ∀ q ∈ l'.payments.rows, Linked l.demands q := by
    refine hPayment.forall_rows h.linked fun id hId => ?_
    obtain ⟨d, hd, hdId, hStatus, hSurvey, hYear⟩ :=
      h.linked p hPayment.mem_old id (hStep.link ▸ hId)
    exact ⟨d, hd, hdId, hStatus, hStep.surveyId.trans hSurvey, hStep.assessmentYearId.trans hYear⟩
  refine ⟨⟨hStep.demands ▸ h.balanced, hStep.demands ▸ hLinked, ?_⟩, ?_, ?_, ?_⟩
  · exact hPayment.forall_rows h.amounts (hStep.amount ▸ h.amounts p hPayment.mem_old)
  · exact h.owned.of_keeps hStep.demandArrears (hStep.demands ▸ Keeps.refl _)
  · exact hPayment.forall_rows h.snapshots fun hNew =>
      absurd ((hFor surveyId yearId).mp hNew) hOther
  · rw [hStep.demands]
    intro d hd hSurvey hYear hStatus
    rw [excess, hSurvey, hYear, hSum, ← hSurvey, ← hYear]
    exact h.paid d hd hSurvey hYear hStatus

end ReconciledFor

/-- Every call but a refund for the survey and year is made of steps on the
ledger, and of payments for others that are rewritten. -/
theorem perform_stepsFor {call : Call} (h : ReconciledFor surveyId yearId db.ledger)
    (hGuard : ¬ call.RefundsFor surveyId yearId db) :
    ReflTransGen (fun l l' => CallStep db call l l' ∨
        ∃ p p', ¬ p.IsFor surveyId yearId ∧ Rewritten l l' p p')
      db.ledger (perform db call).ledger := by
  by_cases hPayment : call.IsPayment
  · refine perform_paymentSteps_of hPayment (fun _ _ hStep => .inl (.paid hStep)) ?_ ?_
    · intro delivery _ hPays
      rcases deliverWhole_rewrites delivery.pays with
        hSame | hStep | ⟨p, p', ⟨hSnapshot, hBefore⟩, hRewritten⟩
      · rw [hSame]
      · exact .single (.inl (.paid (hPays ▸ hStep)))
      · refine .single (.inr ⟨p, p', fun hFor => hBefore ?_, hRewritten⟩)
        exact h.snapshots p hRewritten.payment.mem_old hFor hSnapshot
    · rintro ⟨user, paymentId, amount, reason, reply, hOperation⟩
      obtain ⟨ctx, operation⟩ := call
      subst hOperation
      change ReflTransGen _ _ (refund user paymentId amount reason reply ctx.now db).1.ledger
      rcases refund_cases user paymentId amount reason reply ctx.now db with
        hSame | ⟨read, gateway, refunds, hRead, hReply, hAdded, hRest⟩
      · rw [hSame]
      · rcases hRest with hResult | ⟨hSuccess, p, payments, hId, hReplaced, hResult⟩
        · rw [hResult]
          exact .refl
        · rw [hResult]
          have hOld : p = read.payment :=
            eq_of_key hReplaced.mem_old (refundRead_ok hRead).1 hId
          refine .single (.inr ⟨p, _, fun hFor => hGuard ?_, hReplaced, rfl, rfl, rfl, rfl, rfl,
            rfl⟩)
          exact Call.refundsFor_of_added hRead hReply hAdded hSuccess (hOld ▸ hFor)
  · exact ReflTransGen.mono (fun _ _ hStep => .inl hStep) _ _
      (perform_demandSteps h.owned hPayment)

/-- Without a refund for the survey and year, its demand stays in step with its payments. -/
theorem perform_reconciledFor {call : Call} (h : ReconciledFor surveyId yearId db.ledger)
    (hGuard : ¬ call.RefundsFor surveyId yearId db) :
    ReconciledFor surveyId yearId (perform db call).ledger := by
  refine steps_invariant (ReconciledFor surveyId yearId) ?_ (perform_stepsFor h hGuard) h
  rintro l l' hBefore (hStep | ⟨p, p', hOther, hStep⟩)
  · exact hBefore.callStep hStep
  · exact hBefore.rewritten hOther hStep

/-! ### Publishing again -/

/-- The demand is stored with the balance it had, over the same payments. -/
structure StandsAs (l₀ : Ledger) (d : PropertyDemand) (l : Ledger) : Prop where
  payments : l.payments = l₀.payments
  stored : ∃ d' ∈ l.demands.rows, d'.id = d.id ∧ d'.surveyId = d.surveyId ∧
    d'.assessmentYearId = d.assessmentYearId ∧ d'.arrears = d.arrears ∧
    d'.amountPaid = d.amountPaid ∧ d'.outstanding = d.outstanding

/-- Publishing again with the same demand and arrears leaves the balance as it stands. -/
theorem StandsAs.publishStep {l₀ l l' : Ledger} {d : PropertyDemand} {ctx : Context}
    {input : PublishInput} (h : StandsAs l₀ d l) (hBalanced : d.Balanced)
    (hPaid : d.amountPaid = max 0 (successSum l₀.payments d.surveyId d.assessmentYearId))
    (hSame : input.survey.id = d.surveyId → input.assessmentYearId = d.assessmentYearId →
      input.currentDemand ctx = d.currentDemand ∧ max 0 (input.arrears (some d)) = d.arrears)
    (hStep : PublishStep ctx input l l') : StandsAs l₀ d l' := by
  obtain ⟨d', hd', hId, hSurvey, hYear, hArrears, hAmount, hLeft⟩ := h.stored
  refine ⟨hStep.same.1.trans h.payments, ?_⟩
  cases hStep with
  | republished e e' hDemand hSurveyE hYearE hSurveyE' hYearE' hFrom hCurrent =>
      rcases hDemand.exists_row hd' with hRow | rfl
      · exact ⟨d', hRow, hId, hSurvey, hYear, hArrears, hAmount, hLeft⟩
      · obtain ⟨hRates, hBrought⟩ := hSame (hSurveyE.symm.trans hSurvey)
          (hYearE.symm.trans hYear)
        have hInput : input.arrears (some d') = input.arrears (some d) := by
          rw [PublishInput.arrears, PublishInput.arrears, Option.map_some, Option.map_some,
            hArrears]
        have hArrears' : e'.arrears = d.arrears := by rw [hFrom.arrears, hInput, hBrought]
        have hAmount' : e'.amountPaid = d.amountPaid := by
          rw [hFrom.amountPaid, hPaid, ← hSurveyE, ← hYearE, hSurvey, hYear, h.payments]
        refine ⟨e', hDemand.mem_new, hDemand.key_eq.trans hId, hSurveyE'.trans hSurvey,
          hYearE'.trans hYear, hArrears', hAmount', ?_⟩
        rw [hFrom.balanced.outstanding, hFrom.balanced.totalPayable, hBalanced.outstanding,
          hBalanced.totalPayable, hCurrent, hRates, hArrears', hAmount']
  | created e' hDemand =>
      exact ⟨d', hDemand.mem_of_mem hd', hId, hSurvey, hYear, hArrears, hAmount, hLeft⟩

/-- A demand that is in step with its payments shows the money kept. -/
theorem refundsAgree_of_reconciledFor (hFree : RefundFree surveyId yearId db)
    (h : ReconciledFor surveyId yearId db.ledger) : RefundsAgree surveyId yearId db := by
  have hKept : ∀ d ∈ db.demands.rows, d.surveyId = surveyId → d.assessmentYearId = yearId →
      d.status = .published → d.amountPaid = successSum db.payments surveyId yearId := by
    rintro d hd rfl rfl hStatus
    exact sub_eq_zero.mp (h.paid d hd rfl rfl hStatus)
  refine ⟨?_, ?_⟩
  · intro d hd hSurvey hYear hStatus
    rw [hFree.keptSum_eq]
    exact hKept d hd hSurvey hYear hStatus
  · rintro d hd rfl rfl hStatus call ⟨hPublish, hSame⟩
    have hPaid : d.amountPaid =
        max 0 (successSum db.payments d.surveyId d.assessmentYearId) := by
      have hNonneg : 0 ≤ successSum db.payments d.surveyId d.assessmentYearId :=
        successSum_nonneg _ _ h.amounts
      rw [max_eq_right hNonneg]
      exact hKept d hd rfl rfl hStatus
    have hStands : StandsAs db.ledger d (perform db call).ledger := by
      refine steps_invariant (StandsAs db.ledger d) ?_ (perform_publishSteps hPublish)
        ⟨rfl, d, hd, rfl, rfl, rfl, rfl, rfl, rfl⟩
      rintro l l' hBefore ⟨_, input, hPublishes, hStep⟩
      exact hBefore.publishStep (h.balanced d hd) hPaid (hSame input hPublishes) hStep
    obtain ⟨d', hd', hId, _, _, _, hAmount, hLeft⟩ := hStands.stored
    exact ⟨d', hd', hId, hAmount, hLeft⟩

/-- In every run that collects whole paise and in which no refund for a survey and year goes
through, its published demand shows the money kept, and publishing it again changes nothing. -/
theorem refunds_agree_of_unrefunded (surveyId yearId : Id) {calls : List Call}
    (hAlong : Along perform
      (fun db call => call.InPaise ∧ ¬ call.RefundsFor surveyId yearId db) Db.empty calls) :
    RefundsAgree surveyId yearId (run perform Db.empty calls) := by
  have hEmpty : RefundFree surveyId yearId Db.empty ∧
      ReconciledFor surveyId yearId Db.empty.ledger := by
    obtain ⟨hSound, _⟩ := Db.empty_reconciled
    exact ⟨⟨fun _ hr => absurd hr List.not_mem_nil, fun _ hp => absurd hp List.not_mem_nil⟩,
      hSound, fun _ ha => absurd ha List.not_mem_nil, fun _ hp => absurd hp List.not_mem_nil,
      fun _ hd => absurd hd List.not_mem_nil⟩
  obtain ⟨hFree, hReconciled⟩ := run_invariant_along
    (fun db => RefundFree surveyId yearId db ∧ ReconciledFor surveyId yearId db.ledger)
    (fun _ _ h hGuard => ⟨perform_refundFree h.1 hGuard.2, perform_reconciledFor h.2 hGuard.2⟩)
    hEmpty hAlong
  exact refundsAgree_of_reconciledFor hFree hReconciled

namespace Sample

/-- The demand of 1000 rupees is paid online. -/
def paidOnline : List Call :=
  [⟨ward, .publishForWard 5 20 none⟩, openCheckout "a",
    ⟨ward, .deliver (.requery administrator 1 (some (sandboxRequery "CHH-1000-a")))⟩]

def refundOf (amount : ℚ) (success : Bool) : Call :=
  ⟨ward, .refund administrator 1 amount none
    (some { sandboxRefund "CHH-1000-a" with success := success })⟩

end Sample

/-- The gateway declines the refund of the whole payment. -/
theorem refunds_agree_of_declined :
    (∃ d ∈ (run perform Db.empty (Sample.paidOnline ++ [Sample.refundOf 1000 false])).demands.rows,
      d.surveyId = 10 ∧ d.assessmentYearId = 20 ∧ d.status = .published ∧ d.amountPaid = 100000) ∧
    RefundsAgree 10 20
      (run perform Db.empty (Sample.paidOnline ++ [Sample.refundOf 1000 false])) := by
  refine ⟨by decide +kernel, refunds_agree_of_unrefunded 10 20 ?_⟩
  refine ⟨⟨trivial, id⟩, ⟨trivial, id⟩, ⟨trivial, id⟩, ⟨trivial, ?_⟩, trivial⟩
  rintro ⟨read, gateway, _, hReply, hSuccess, _⟩
  rw [← Option.some.inj hReply] at hSuccess
  cases hSuccess

/-- Of 1000 rupees 100 are refunded. The demand goes on showing 1000, and
publishing it again shows nothing paid. -/
theorem refund_leaves_balance :
    ¬ ∀ (surveyId yearId : Id) (calls : List Call),
      RefundsAgree surveyId yearId (run perform Db.empty calls) := by
  intro h
  have hAgree := h 10 20 (Sample.paidOnline ++ [Sample.refundOf 100 true])
  have hShown : ∃ d ∈ (run perform Db.empty
      (Sample.paidOnline ++ [Sample.refundOf 100 true])).demands.rows, d.surveyId = 10 ∧
      d.assessmentYearId = 20 ∧ d.status = .published ∧ d.amountPaid ≠ keptSum 10 20
        (run perform Db.empty (Sample.paidOnline ++ [Sample.refundOf 100 true])) := by
    decide +kernel
  obtain ⟨d, hd, hSurvey, hYear, hStatus, hOff⟩ := hShown
  exact hOff (hAgree.kept d hd hSurvey hYear hStatus)

end PropertyTax
