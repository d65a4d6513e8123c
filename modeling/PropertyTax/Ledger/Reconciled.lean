import PropertyTax.Ledger.Operation

/-! Reconciliation: the balance that payments keep incrementally is the balance
that publishing computes from all successful payments. -/
namespace PropertyTax
open KeyedTable Relation Runs

/-! ### The sum of the successful payments -/

section SuccessSum
variable {payments payments' : KeyedTable Payment} {p p' : Payment} (surveyId yearId : Id)

/-- The survey and the year of a payment. -/
def Payment.IsFor (p : Payment) (surveyId yearId : Id) : Prop :=
  p.surveyId = some surveyId ∧ p.assessmentYearId = some yearId

instance : Decidable (p.IsFor surveyId yearId) := inferInstanceAs (Decidable (_ ∧ _))

/-- A success counts for its survey and year. -/
theorem paidFor_of_success (h : p.status = .success) :
    p.paidFor surveyId yearId = decide (p.IsFor surveyId yearId) := by
  simp only [Payment.paidFor, Payment.IsFor, h, and_true]
  rfl

/-- What is no success does not count. -/
theorem paidFor_of_not_success (h : p.status ≠ .success) : p.paidFor surveyId yearId = false := by
  simp [Payment.paidFor, h]

/-- A payment keeps its survey and year. -/
theorem SamePurpose.isFor (h : SamePurpose p p') :
    p'.IsFor surveyId yearId ↔ p.IsFor surveyId yearId := by
  rw [Payment.IsFor, Payment.IsFor, h.surveyId, h.assessmentYearId]

/-- A payment that is only opened does not change the sum. -/
theorem successSum_opened (h : Added payments payments' p) (hStatus : p.status ≠ .success) :
    successSum payments' surveyId yearId = successSum payments surveyId yearId := by
  rw [successSum, h.sumWhere_eq, paidFor_of_not_success surveyId yearId hStatus]
  exact add_zero _

/-- A payment at the counter adds its amount to the sum. -/
theorem successSum_collected (h : Added payments payments' p) (hStatus : p.status = .success) :
    successSum payments' surveyId yearId = successSum payments surveyId yearId +
      if p.IsFor surveyId yearId then p.amount else 0 := by
  rw [successSum, h.sumWhere_eq, paidFor_of_success surveyId yearId hStatus]
  simp only [decide_eq_true_eq]
  rfl

/-- A payment that stays (un)successful does not change the sum. -/
theorem successSum_revised (h : Replaced payments payments' p p') (hSame : SamePurpose p p')
    (hStatus : p'.status = .success ↔ p.status = .success) :
    successSum payments' surveyId yearId = successSum payments surveyId yearId := by
  have hPaidFor : p'.paidFor surveyId yearId = p.paidFor surveyId yearId := by
    simp only [Payment.paidFor, hSame.surveyId, hSame.assessmentYearId, hStatus]
  rw [successSum, h.sumWhere_eq, hPaidFor, hSame.amount]
  exact sub_add_cancel _ _

/-- A payment that succeeds adds its amount to the sum. -/
theorem successSum_succeeded (h : Replaced payments payments' p p') (hSame : SamePurpose p p')
    (hBefore : p.status ≠ .success) (hAfter : p'.status = .success) :
    successSum payments' surveyId yearId = successSum payments surveyId yearId +
      if p.IsFor surveyId yearId then p.amount else 0 := by
  rw [successSum, h.sumWhere_eq, paidFor_of_not_success surveyId yearId hBefore,
    paidFor_of_success surveyId yearId hAfter, hSame.amount]
  simp only [hSame.isFor, decide_eq_true_eq, Bool.false_eq_true, ↓reduceIte, sub_zero]
  rfl

theorem successSum_nonneg (hAmounts : ∀ p ∈ payments.rows, 0 ≤ p.amount) :
    0 ≤ successSum payments surveyId yearId :=
  sumWhere_nonneg fun p hp _ => hAmounts p hp

end SuccessSum

/-! ### The invariants -/

/-- Balanced demands, and payments that are linked to demands of their own. -/
structure Ledger.Sound (l : Ledger) : Prop where
  balanced : ∀ d ∈ l.demands.rows, d.Balanced
  linked : ∀ p ∈ l.payments.rows, Linked l.demands p
  amounts : ∀ p ∈ l.payments.rows, 0 ≤ p.amount

/-- By how much a demand shows more as paid than the successful payments for
its survey and year come to. -/
def excess (l : Ledger) (d : PropertyDemand) : Money :=
  d.amountPaid - successSum l.payments d.surveyId d.assessmentYearId

structure Ledger.Reconciled (l : Ledger) : Prop extends Ledger.Sound l where
  paid : ∀ d ∈ l.demands.rows, d.status = .published → excess l d = 0

/-- A payment's demand is still there when the demands are kept. -/
theorem Linked.keeps {demands demands' : KeyedTable PropertyDemand} {p : Payment}
    (h : Linked demands p) (hKeeps : Keeps demands demands') : Linked demands' p := by
  intro id hLink
  obtain ⟨d, hd, hId, hStatus, hSurvey, hYear⟩ := h id hLink
  obtain ⟨d', hd', hKept⟩ := hKeeps d hd
  refine ⟨d', hd', hKept.id.trans hId, hKept.published hStatus, ?_, ?_⟩
  · rw [hSurvey, hKept.surveyId]
  · rw [hYear, hKept.assessmentYearId]

/-- A payment that keeps its link keeps its demand. -/
theorem Linked.revise {demands : KeyedTable PropertyDemand} {p p' : Payment}
    (h : Linked demands p) (hSame : SamePurpose p p')
    (hLink : p'.propertyDemandId = p.propertyDemandId) : Linked demands p' := by
  intro id hId
  obtain ⟨d, hd, hdId, hStatus, hSurvey, hYear⟩ := h id (hLink ▸ hId)
  exact ⟨d, hd, hdId, hStatus, hSame.surveyId.trans hSurvey, hSame.assessmentYearId.trans hYear⟩

/-- A payment is credited to the demand of its own survey and year. -/
theorem isFor_of_creditTarget {demands : KeyedTable PropertyDemand} {p : Payment}
    {d : PropertyDemand} (hLinked : Linked demands p) (h : creditTarget p demands = some d) :
    p.IsFor d.surveyId d.assessmentYearId := by
  cases hLink : p.propertyDemandId with
  | none => exact creditTarget_unlinked h hLink
  | some id =>
      obtain ⟨e, he, hId, _, hSurvey, hYear⟩ := hLinked id hLink
      have hSame : e = d := eq_of_key he (creditTarget_mem h).1
        (hId.trans (eq_of_creditTarget_linked h hLink).symm)
      exact hSame ▸ ⟨hSurvey, hYear⟩

/-- A payment that has nothing to be credited to has no published demand. -/
theorem not_published_of_isFor {demands : KeyedTable PropertyDemand} {p : Payment}
    {d : PropertyDemand} (hLinked : Linked demands p) (h : creditTarget p demands = none)
    (hd : d ∈ demands.rows) (hFor : p.IsFor d.surveyId d.assessmentYearId) :
    d.status ≠ .published := by
  cases hLink : p.propertyDemandId with
  | none => exact not_published_of_creditTarget_none h hLink hd hFor.1 hFor.2
  | some id =>
      obtain ⟨e, he, hId, hStatus, _⟩ := hLinked id hLink
      rw [creditTarget_of_linked he hStatus (hLink.trans (congrArg some hId.symm))] at h
      cases h

/-- One survey has one demand a year. -/
theorem demand_eq {demands : KeyedTable PropertyDemand} {d e : PropertyDemand}
    (hd : d ∈ demands.rows) (he : e ∈ demands.rows) (hSurvey : d.surveyId = e.surveyId)
    (hYear : d.assessmentYearId = e.assessmentYearId) : d = e := by
  refine eq_of_clash hd he ?_
  simp [KeyedRow.clash, hSurvey, hYear]

/-- A credit leaves a demand in balance. -/
theorem credit_balanced {d : PropertyDemand} (h : d.Balanced) (amount : Money) :
    (d.credit amount).Balanced := ⟨h.totalPayable, rfl⟩

/-! ### Payment steps -/

section PaymentSteps
variable {allowed : Payment → PropertyDemand → Prop} {l l' : Ledger}

/-- A step of a payment leaves the ledger sound. -/
theorem PaymentStep.sound (h : PaymentStep allowed l l') (hSound : l.Sound) : l'.Sound := by
  have hKept : ∀ p ∈ l.payments.rows, Linked l'.demands p := fun p hp =>
    (hSound.linked p hp).keeps h.keeps.1
  have hAmount {p p' : Payment} (hp : p ∈ l.payments.rows) (hSame : SamePurpose p p') :
      0 ≤ p'.amount := hSame.amount ▸ hSound.amounts p hp
  cases h with
  | opened p hPayment _ _ hAmount hLinked hDemands =>
      rw [hDemands] at hKept
      refine ⟨hDemands ▸ hSound.balanced, ?_, hPayment.forall_rows hSound.amounts hAmount⟩
      rw [hDemands]
      exact hPayment.forall_rows hKept hLinked
  | revised p p' hPayment hSame _ hLink _ hDemands =>
      exact ⟨hDemands ▸ hSound.balanced,
        hPayment.forall_rows hKept ((hKept p hPayment.mem_old).revise hSame hLink),
        hPayment.forall_rows hSound.amounts (hAmount hPayment.mem_old hSame)⟩
  | succeeded p p' hPayment hSame _ _ _ hLink hDemands =>
      exact ⟨hDemands ▸ hSound.balanced,
        hPayment.forall_rows hKept ((hKept p hPayment.mem_old).revise hSame hLink),
        hPayment.forall_rows hSound.amounts (hAmount hPayment.mem_old hSame)⟩
  | credited p p' d hPayment hSame _ _ hTarget _ hLink hDemand =>
      refine ⟨hDemand.forall_rows hSound.balanced
          (credit_balanced (hSound.balanced d hDemand.mem_old) _),
        hPayment.forall_rows hKept ?_,
        hPayment.forall_rows hSound.amounts (hAmount hPayment.mem_old hSame)⟩
      intro id hId
      obtain ⟨hSurvey, hYear⟩ :=
        isFor_of_creditTarget (hSound.linked p hPayment.mem_old) hTarget
      exact ⟨_, hDemand.mem_new, Option.some.inj (hLink.symm.trans hId),
        (creditTarget_mem hTarget).2, hSame.surveyId.trans hSurvey,
        hSame.assessmentYearId.trans hYear⟩
  | collected p d hPayment _ hAmount hSurvey hYear hLink hPublished _ hDemand =>
      refine ⟨hDemand.forall_rows hSound.balanced
          (credit_balanced (hSound.balanced d hDemand.mem_old) _),
        hPayment.forall_rows hKept ?_, hPayment.forall_rows hSound.amounts hAmount⟩
      intro id hId
      exact ⟨_, hDemand.mem_new, Option.some.inj (hLink.symm.trans hId), hPublished, hSurvey,
        hYear⟩

/-- Crediting a demand with a payment for it keeps the excess of that demand and
of every other. -/
theorem excess_credited {d d' : PropertyDemand} {p : Payment}
    (hDemand : Replaced l.demands l'.demands d (d.credit p.amount))
    (hFor : p.IsFor d.surveyId d.assessmentYearId)
    (hSum : ∀ s y, successSum l'.payments s y =
      successSum l.payments s y + if p.IsFor s y then p.amount else 0)
    (hd' : d' ∈ l'.demands.rows) : ∃ e ∈ l.demands.rows, Kept e d' ∧ e.status = d'.status ∧
      excess l' d' = excess l e := by
  rcases (hDemand.mem_iff d').mp hd' with ⟨hOld, hKey⟩ | rfl
  · refine ⟨d', hOld, Kept.refl d', rfl, ?_⟩
    have hOther : ¬ p.IsFor d'.surveyId d'.assessmentYearId := by
      intro hFor'
      refine hKey (congrArg PropertyDemand.id (demand_eq hOld hDemand.mem_old ?_ ?_))
      · exact Option.some.inj (hFor'.1.symm.trans hFor.1)
      · exact Option.some.inj (hFor'.2.symm.trans hFor.2)
    rw [excess, hSum, if_neg hOther, add_zero, excess]
  · refine ⟨d, hDemand.mem_old, kept_credit d _, rfl, ?_⟩
    change d.amountPaid + p.amount - successSum l'.payments d.surveyId d.assessmentYearId = _
    rw [hSum, if_pos hFor, excess]
    ring

/-- A payment operation keeps the excess of every published demand. -/
theorem PaymentStep.excess_eq (h : PaymentStep allowed l l') (hSound : l.Sound) :
    ∀ d' ∈ l'.demands.rows, d'.status = .published →
      ∃ d ∈ l.demands.rows, Kept d d' ∧ d.status = .published ∧ excess l' d' = excess l d := by
  intro d' hd' hStatus'
  cases h with
  | opened p hPayment hStatus _ _ _ hDemands =>
      rw [hDemands] at hd'
      refine ⟨d', hd', Kept.refl d', hStatus', ?_⟩
      rw [excess, successSum_opened _ _ hPayment hStatus, excess]
  | revised p p' hPayment hSame hStatus _ _ hDemands =>
      rw [hDemands] at hd'
      refine ⟨d', hd', Kept.refl d', hStatus', ?_⟩
      rw [excess, successSum_revised _ _ hPayment hSame hStatus, excess]
  | succeeded p p' hPayment hSame hBefore hAfter hTarget _ hDemands =>
      rw [hDemands] at hd'
      refine ⟨d', hd', Kept.refl d', hStatus', ?_⟩
      have hOther : ¬ p.IsFor d'.surveyId d'.assessmentYearId := fun hFor =>
        not_published_of_isFor (hSound.linked p hPayment.mem_old) hTarget hd' hFor hStatus'
      rw [excess, successSum_succeeded _ _ hPayment hSame hBefore hAfter, if_neg hOther, add_zero,
        excess]
  | credited p p' d hPayment hSame hBefore hAfter hTarget _ _ hDemand =>
      obtain ⟨e, he, hKept, hStatus, hExcess⟩ := excess_credited hDemand
        (isFor_of_creditTarget (hSound.linked p hPayment.mem_old) hTarget)
        (fun s y => successSum_succeeded s y hPayment hSame hBefore hAfter) hd'
      exact ⟨e, he, hKept, hStatus.trans hStatus', hExcess⟩
  | collected p d hPayment hStatus _ hSurvey hYear _ _ _ hDemand =>
      obtain ⟨e, he, hKept, hSame, hExcess⟩ := excess_credited hDemand ⟨hSurvey, hYear⟩
        (fun s y => successSum_collected s y hPayment hStatus) hd'
      exact ⟨e, he, hKept, hSame.trans hStatus', hExcess⟩

/-- A step of a payment leaves the demands in step with the payments. -/
theorem PaymentStep.reconciled (h : PaymentStep allowed l l') (hReconciled : l.Reconciled) :
    l'.Reconciled where
  toSound := h.sound hReconciled.toSound
  paid d' hd' hStatus' := by
    obtain ⟨d, hd, _, hStatus, hExcess⟩ := h.excess_eq hReconciled.toSound d' hd' hStatus'
    rw [hExcess]
    exact hReconciled.paid d hd hStatus

end PaymentSteps

/-! ### Publish and carry steps -/

section PublishSteps
variable {ctx : Context} {input : PublishInput} {l l' : Ledger}

/-- A publication leaves the ledger sound. -/
theorem PublishStep.sound (h : PublishStep ctx input l l') (hSound : l.Sound) : l'.Sound := by
  have hKept : ∀ p ∈ l.payments.rows, Linked l'.demands p := fun p hp =>
    (hSound.linked p hp).keeps h.keeps
  obtain ⟨hPayments, _⟩ := h.same
  refine ⟨?_, hPayments ▸ hKept, hPayments ▸ hSound.amounts⟩
  cases h with
  | republished _ _ hDemand _ _ _ _ hFrom =>
      exact hDemand.forall_rows hSound.balanced hFrom.balanced
  | created _ hDemand _ _ hFrom => exact hDemand.forall_rows hSound.balanced hFrom.balanced

/-- A published demand has no excess, and every other keeps its own. -/
theorem PublishStep.excess_eq (h : PublishStep ctx input l l') (hSound : l.Sound) :
    ∀ d' ∈ l'.demands.rows,
      excess l' d' = 0 ∨ d' ∈ l.demands.rows ∧ excess l' d' = excess l d' := by
  have hPaid {arrears : Money} {d' : PropertyDemand} (hSurvey : d'.surveyId = input.survey.id)
      (hYear : d'.assessmentYearId = input.assessmentYearId)
      (hFrom : PublishedFrom arrears
        (successSum l.payments input.survey.id input.assessmentYearId) d') : excess l d' = 0 := by
    rw [excess, hSurvey, hYear, hFrom.amountPaid,
      max_eq_right (successSum_nonneg _ _ hSound.amounts), sub_self]
  obtain ⟨hPayments, _⟩ := h.same
  simp only [excess, hPayments]
  cases h with
  | republished d d' hDemand hSurvey hYear hSurvey' hYear' hFrom =>
      exact hDemand.forall_rows (fun _ hd => .inr ⟨hd, trivial⟩)
        (.inl (hPaid (hSurvey'.trans hSurvey) (hYear'.trans hYear) hFrom))
  | created d' hDemand hSurvey hYear hFrom =>
      exact hDemand.forall_rows (fun _ hd => .inr ⟨hd, trivial⟩) (.inl (hPaid hSurvey hYear hFrom))

/-- A publication leaves the demand with the payments of its survey and year. -/
theorem PublishStep.reconciled (h : PublishStep ctx input l l') (hReconciled : l.Reconciled) :
    l'.Reconciled where
  toSound := h.sound hReconciled.toSound
  paid d' hd' hStatus := by
    rcases h.excess_eq hReconciled.toSound d' hd' with hZero | ⟨hd, hSame⟩
    · exact hZero
    · exact hSame.trans (hReconciled.paid d' hd hStatus)

end PublishSteps

section CarrySteps
variable {sources : List PropertyDemand} {toYearId : Id} {l l' : Ledger}

/-- A carried balance leaves the ledger sound. -/
theorem CarryStep.sound (h : CarryStep sources toYearId l l') (hSound : l.Sound) : l'.Sound := by
  have hKept : ∀ p ∈ l.payments.rows, Linked l'.demands p := fun p hp =>
    (hSound.linked p hp).keeps h.keeps
  refine ⟨?_, h.payments ▸ hKept, h.payments ▸ hSound.amounts⟩
  cases h with
  | carried _ _ _ _ _ hDemand _ _ _ _ _ _ _ _ hBalanced =>
      exact hDemand.forall_rows hSound.balanced hBalanced
  | drafted _ _ _ _ hDemand _ _ _ _ _ _ hBalanced =>
      exact hDemand.forall_rows hSound.balanced hBalanced

/-- A carry keeps the excess of every published demand. -/
theorem CarryStep.excess_eq (h : CarryStep sources toYearId l l') :
    ∀ d' ∈ l'.demands.rows, d'.status = .published → ∃ d ∈ l.demands.rows,
      d'.surveyId = d.surveyId ∧ d'.assessmentYearId = d.assessmentYearId ∧
      d.status = .published ∧ excess l' d' = excess l d := by
  have hPayments := h.payments
  simp only [excess, hPayments]
  cases h with
  | carried _ d d' _ _ hDemand _ _ hSurvey' hYear' hStatus _ hPaid =>
      refine hDemand.forall_rows (fun e he hPublished => ⟨e, he, rfl, rfl, hPublished, rfl⟩) ?_
      intro hPublished
      refine ⟨d, hDemand.mem_old, hSurvey', hYear', hStatus.symm.trans hPublished, ?_⟩
      rw [hPaid, hSurvey', hYear']
  | drafted _ d' _ _ hDemand _ _ hStatus =>
      refine hDemand.forall_rows (fun e he hPublished => ⟨e, he, rfl, rfl, hPublished, rfl⟩) ?_
      intro hPublished
      rw [hStatus] at hPublished
      cases hPublished

/-- A carried balance leaves the demands in step with the payments. -/
theorem CarryStep.reconciled (h : CarryStep sources toYearId l l') (hReconciled : l.Reconciled) :
    l'.Reconciled where
  toSound := h.sound hReconciled.toSound
  paid d' hd' hStatus' := by
    obtain ⟨d, hd, _, _, hStatus, hSame⟩ := h.excess_eq d' hd' hStatus'
    exact hSame.trans (hReconciled.paid d hd hStatus)

end CarrySteps

/-- Every step of a call leaves the demands in step with the payments. -/
theorem CallStep.reconciled {db : Db} {call : Call} {l l' : Ledger} (h : CallStep db call l l')
    (hReconciled : l.Reconciled) : l'.Reconciled := by
  cases h with
  | paid h => exact h.reconciled hReconciled
  | published _ _ _ h => exact h.reconciled hReconciled
  | carried _ _ _ h => exact h.reconciled hReconciled

theorem Db.empty_reconciled : Db.empty.ledger.Reconciled :=
  ⟨⟨fun _ hd => absurd hd List.not_mem_nil, fun _ hp => absurd hp List.not_mem_nil,
    fun _ hp => absurd hp List.not_mem_nil⟩, fun _ hd => absurd hd List.not_mem_nil⟩

/-- Every run without refunds leaves a well-formed and reconciled ledger. -/
theorem reconciled_of_run {calls : List Call} (hRefunds : ∀ call ∈ calls, ¬ call.IsRefund) :
    (run perform Db.empty calls).ledger.WellFormed ∧
      (run perform Db.empty calls).ledger.Reconciled :=
  ledger_invariant (fun _ _ => True) Ledger.Reconciled
    (fun _ _ _ _ _ _ _ hReconciled hStep => hStep.reconciled hReconciled) hRefunds
    Db.empty_wellFormed Db.empty_reconciled (along_of_forall (fun _ => True) fun _ _ => trivial)

/-- In every run without refunds the totals of every demand fit together, and a
published demand shows as paid what publishing it again would compute. -/
theorem demands_reconcile {calls : List Call} (hRefunds : ∀ call ∈ calls, ¬ call.IsRefund) :
    ∀ d ∈ (run perform Db.empty calls).demands.rows,
      d.totalPayable = d.currentDemand + d.arrears ∧
      d.outstanding = max 0 (d.totalPayable - d.amountPaid) ∧
      (d.status = .published →
        d.amountPaid =
          successSum (run perform Db.empty calls).payments d.surveyId d.assessmentYearId ∧
        toMoney d.amountPaid =
          sumSuccessPayments d.surveyId d.assessmentYearId (run perform Db.empty calls)) := by
  intro d hd
  obtain ⟨_, hReconciled⟩ := reconciled_of_run hRefunds
  obtain ⟨hTotal, hOutstanding⟩ := hReconciled.balanced d hd
  refine ⟨hTotal, hOutstanding, fun hPublished => ?_⟩
  have hPaid : d.amountPaid =
      successSum (run perform Db.empty calls).payments d.surveyId d.assessmentYearId :=
    sub_eq_zero.mp (hReconciled.paid d hd hPublished)
  exact ⟨hPaid, congrArg toMoney hPaid⟩

namespace Sample

/-- A demand is published, paid in part, and carried into the next year. -/
def twoYears : List Call :=
  [⟨ward, .publish 10 20 none⟩, ⟨ward, .createOffline (cash 400 20) administrator "a"⟩,
    ⟨ward, .commitYearEnd 20 21 none⟩, ⟨ward, .publishForWard 5 21 none⟩,
    ⟨ward, .createOffline (cash 250 21) administrator "b"⟩]

end Sample

theorem demands_reconcile_twoYears :
    (run perform Db.empty Sample.twoYears).demands.rows.length = 2 ∧
    ∀ d ∈ (run perform Db.empty Sample.twoYears).demands.rows,
      d.totalPayable = d.currentDemand + d.arrears ∧
      d.outstanding = max 0 (d.totalPayable - d.amountPaid) ∧
      (d.status = .published →
        d.amountPaid = successSum (run perform Db.empty Sample.twoYears).payments d.surveyId
          d.assessmentYearId ∧
        toMoney d.amountPaid = sumSuccessPayments d.surveyId d.assessmentYearId
          (run perform Db.empty Sample.twoYears)) :=
  ⟨by decide +kernel, demands_reconcile (by simp [Sample.twoYears, Call.IsRefund])⟩

end PropertyTax
