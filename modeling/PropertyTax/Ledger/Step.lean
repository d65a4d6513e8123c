import PropertyTax.Payments.Offline
import PropertyTax.Demands.YearEnd
import Mathlib.Logic.Relation

/-! The ledger: payments, demands and arrear rows, and the steps that services
take on it. Each operation is a sequence of these steps, so an invariant of the
balances is proved step by step and not operation by operation. -/
namespace PropertyTax
open KeyedTable

structure Ledger where
  payments : KeyedTable Payment
  demands : KeyedTable PropertyDemand
  demandArrears : KeyedTable DemandArrear

def Db.ledger (db : Db) : Ledger := ⟨db.payments, db.demands, db.demandArrears⟩

theorem SameLedger.ledger {db db' : Db} (h : SameLedger db db') : db'.ledger = db.ledger := by
  rw [Db.ledger, Db.ledger, h.payments, h.demands, h.demandArrears]

/-- A linked payment is linked to a published demand of its survey and year. -/
def Linked (demands : KeyedTable PropertyDemand) (p : Payment) : Prop :=
  ∀ id, p.propertyDemandId = some id → ∃ d ∈ demands.rows, d.id = id ∧ d.status = .published ∧
    p.surveyId = some d.surveyId ∧ p.assessmentYearId = some d.assessmentYearId

/-- What a payment operation does to the ledger: open a payment, rewrite one
without moving it into or out of success, let one succeed with or without a
demand to credit, or collect one at the counter. `allowed` bounds the credits. -/
inductive PaymentStep (allowed : Payment → PropertyDemand → Prop) (l l' : Ledger) : Prop where
  | opened (p : Payment) (hPayment : Added l.payments l'.payments p)
      (hStatus : p.status ≠ .success) (hSnapshot : p.receiptSnapshot = none)
      (hAmount : 0 ≤ p.amount) (hLinked : Linked l.demands p)
      (hDemands : l'.demands = l.demands) (hArrears : l'.demandArrears = l.demandArrears)
  | revised (p p' : Payment) (hPayment : Replaced l.payments l'.payments p p')
      (hSame : SamePurpose p p') (hStatus : p'.status = .success ↔ p.status = .success)
      (hLink : p'.propertyDemandId = p.propertyDemandId)
      (hSnapshot : p'.receiptSnapshot = p.receiptSnapshot)
      (hDemands : l'.demands = l.demands) (hArrears : l'.demandArrears = l.demandArrears)
  | succeeded (p p' : Payment) (hPayment : Replaced l.payments l'.payments p p')
      (hSame : SamePurpose p p') (hBefore : p.status ≠ .success) (hAfter : p'.status = .success)
      (hTarget : creditTarget p l.demands = none)
      (hLink : p'.propertyDemandId = p.propertyDemandId)
      (hDemands : l'.demands = l.demands) (hArrears : l'.demandArrears = l.demandArrears)
  | credited (p p' : Payment) (d : PropertyDemand)
      (hPayment : Replaced l.payments l'.payments p p') (hSame : SamePurpose p p')
      (hBefore : p.status ≠ .success) (hAfter : p'.status = .success)
      (hTarget : creditTarget p l.demands = some d) (hAllowed : allowed p d)
      (hLink : p'.propertyDemandId = some d.id)
      (hDemand : Replaced l.demands l'.demands d (d.credit p.amount))
      (hArrears : l'.demandArrears = l.demandArrears)
  | collected (p : Payment) (d : PropertyDemand) (hPayment : Added l.payments l'.payments p)
      (hStatus : p.status = .success) (hAmount : 0 ≤ p.amount)
      (hSurvey : p.surveyId = some d.surveyId)
      (hYear : p.assessmentYearId = some d.assessmentYearId)
      (hLink : p.propertyDemandId = some d.id) (hPublished : d.status = .published)
      (hAllowed : allowed p d)
      (hDemand : Replaced l.demands l'.demands d (d.credit p.amount))
      (hArrears : l'.demandArrears = l.demandArrears)

/-- One payment is rewritten, for the same demand and amount, and nothing else
changes. Refunds and late deliveries of refunded payments do no more. -/
structure Rewritten (l l' : Ledger) (p p' : Payment) : Prop where
  payment : Replaced l.payments l'.payments p p'
  surveyId : p'.surveyId = p.surveyId
  assessmentYearId : p'.assessmentYearId = p.assessmentYearId
  amount : p'.amount = p.amount
  link : p'.propertyDemandId = p.propertyDemandId
  demands : l'.demands = l.demands
  demandArrears : l'.demandArrears = l.demandArrears

/-- The current demand that publishing computes. It depends on neither the
arrears nor the payments. -/
def PublishInput.currentDemand (ctx : Context) (input : PublishInput) : Money :=
  toColumn (input.assess ctx ⟨none, 0, false⟩).currentDemand

theorem PublishInput.currentDemand_nonneg (ctx : Context) (input : PublishInput) :
    0 ≤ input.currentDemand ctx :=
  (@publishedDemandData_from ctx input ⟨none, 0, false⟩ 0 toMoney_zero.symm
    { id := 0, surveyId := 0, assessmentYearId := 0 }).currentDemand

/-- The demand of one survey is published, anew or again. -/
inductive PublishStep (ctx : Context) (input : PublishInput) (l l' : Ledger) : Prop where
  | republished (d d' : PropertyDemand) (hDemand : Replaced l.demands l'.demands d d')
      (hSurvey : d.surveyId = input.survey.id) (hYear : d.assessmentYearId = input.assessmentYearId)
      (hSurvey' : d'.surveyId = d.surveyId) (hYear' : d'.assessmentYearId = d.assessmentYearId)
      (hFrom : PublishedFrom (input.arrears (some d))
        (successSum l.payments input.survey.id input.assessmentYearId) d')
      (hCurrent : d'.currentDemand = input.currentDemand ctx)
      (hPayments : l'.payments = l.payments) (hArrears : l'.demandArrears = l.demandArrears)
  | created (d' : PropertyDemand) (hDemand : Added l.demands l'.demands d')
      (hSurvey : d'.surveyId = input.survey.id)
      (hYear : d'.assessmentYearId = input.assessmentYearId)
      (hFrom : PublishedFrom 0
        (successSum l.payments input.survey.id input.assessmentYearId) d')
      (hCurrent : d'.currentDemand = input.currentDemand ctx)
      (hPayments : l'.payments = l.payments) (hArrears : l'.demandArrears = l.demandArrears)

/-- The arrears that are carried into a demand. -/
def arrearSum (demandArrears : KeyedTable DemandArrear) (demandId : Id) : Money :=
  demandArrears.sumWhere (fun a => a.demandId = demandId) DemandArrear.amount

/-- The balance of one of `sources` is carried into the demand of `toYearId`:
an arrear row is added, and the totals of the target follow its arrear rows. -/
inductive CarryStep (sources : List PropertyDemand) (toYearId : Id) (l l' : Ledger) : Prop where
  | carried (source d d' : PropertyDemand) (a : DemandArrear) (hSource : source ∈ sources)
      (hDemand : Replaced l.demands l'.demands d d') (hSurvey : d.surveyId = source.surveyId)
      (hYear : d.assessmentYearId = toYearId) (hSurvey' : d'.surveyId = d.surveyId)
      (hYear' : d'.assessmentYearId = d.assessmentYearId) (hStatus : d'.status = d.status)
      (hCurrent : d'.currentDemand = d.currentDemand) (hPaid : d'.amountPaid = d.amountPaid)
      (hTotal : d'.arrears = arrearSum l.demandArrears d.id + source.outstanding)
      (hBalanced : d'.Balanced) (hArrear : Added l.demandArrears l'.demandArrears a)
      (hDemandId : a.demandId = d.id) (hAmount : a.amount = source.outstanding)
      (hPayments : l'.payments = l.payments)
  | drafted (source d' : PropertyDemand) (a : DemandArrear) (hSource : source ∈ sources)
      (hDemand : Added l.demands l'.demands d') (hSurvey : d'.surveyId = source.surveyId)
      (hYear : d'.assessmentYearId = toYearId) (hStatus : d'.status = .draft)
      (hCurrent : d'.currentDemand = 0) (hPaid : d'.amountPaid = 0)
      (hTotal : d'.arrears = source.outstanding) (hBalanced : d'.Balanced)
      (hArrear : Added l.demandArrears l'.demandArrears a) (hDemandId : a.demandId = d'.id)
      (hAmount : a.amount = source.outstanding) (hPayments : l'.payments = l.payments)

/-! ### No step deletes or unpublishes a demand -/

/-- The two demands are one row, published still if it was. -/
structure Kept (d d' : PropertyDemand) : Prop where
  id : d'.id = d.id
  surveyId : d'.surveyId = d.surveyId
  assessmentYearId : d'.assessmentYearId = d.assessmentYearId
  published : d.status = .published → d'.status = .published

theorem Kept.refl (d : PropertyDemand) : Kept d d := ⟨rfl, rfl, rfl, fun h => h⟩

/-- A credit leaves a demand's survey, year and place. -/
theorem kept_credit (d : PropertyDemand) (amount : Money) : Kept d (d.credit amount) :=
  ⟨rfl, rfl, rfl, fun h => h⟩

def Keeps (demands demands' : KeyedTable PropertyDemand) : Prop :=
  ∀ d ∈ demands.rows, ∃ d' ∈ demands'.rows, Kept d d'

theorem Keeps.refl (demands : KeyedTable PropertyDemand) : Keeps demands demands :=
  fun d hd => ⟨d, hd, Kept.refl d⟩

theorem Keeps.trans {a b c : KeyedTable PropertyDemand} (h : Keeps a b) (h' : Keeps b c) :
    Keeps a c := by
  intro d hd
  obtain ⟨e, he, hKept⟩ := h d hd
  obtain ⟨f, hf, hKept'⟩ := h' e he
  exact ⟨f, hf, hKept'.id.trans hKept.id, hKept'.surveyId.trans hKept.surveyId,
    hKept'.assessmentYearId.trans hKept.assessmentYearId,
    fun hStatus => hKept'.published (hKept.published hStatus)⟩

/-- A demand that is rewritten in its place is kept. -/
theorem Keeps.of_replaced {demands demands' : KeyedTable PropertyDemand}
    {old new : PropertyDemand} (h : Replaced demands demands' old new) (hKept : Kept old new) :
    Keeps demands demands' := by
  intro d hd
  rcases h.exists_row hd with hRow | rfl
  · exact ⟨d, hRow, Kept.refl d⟩
  · exact ⟨new, h.mem_new, hKept⟩

/-- A new demand leaves the others in their place. -/
theorem Keeps.of_added {demands demands' : KeyedTable PropertyDemand} {new : PropertyDemand}
    (h : Added demands demands' new) : Keeps demands demands' :=
  fun d hd => ⟨d, h.mem_of_mem hd, Kept.refl d⟩

/-- A payment keeps the demands in their place, and the arrears. -/
theorem PaymentStep.keeps {allowed : Payment → PropertyDemand → Prop} {l l' : Ledger}
    (h : PaymentStep allowed l l') :
    Keeps l.demands l'.demands ∧ l'.demandArrears = l.demandArrears := by
  cases h with
  | opened _ _ _ _ _ _ hDemands hArrears => exact ⟨hDemands ▸ Keeps.refl _, hArrears⟩
  | revised _ _ _ _ _ _ _ hDemands hArrears => exact ⟨hDemands ▸ Keeps.refl _, hArrears⟩
  | succeeded _ _ _ _ _ _ _ _ hDemands hArrears => exact ⟨hDemands ▸ Keeps.refl _, hArrears⟩
  | credited _ _ _ _ _ _ _ _ _ _ hDemand hArrears =>
      exact ⟨Keeps.of_replaced hDemand (kept_credit _ _), hArrears⟩
  | collected _ _ _ _ _ _ _ _ _ _ hDemand hArrears =>
      exact ⟨Keeps.of_replaced hDemand (kept_credit _ _), hArrears⟩

/-- A publication keeps the demands in their place. -/
theorem PublishStep.keeps {ctx : Context} {input : PublishInput} {l l' : Ledger}
    (h : PublishStep ctx input l l') : Keeps l.demands l'.demands := by
  cases h with
  | republished d d' hDemand _ _ hSurvey' hYear' hFrom =>
      exact Keeps.of_replaced hDemand ⟨hDemand.key_eq, hSurvey', hYear', fun _ => hFrom.status⟩
  | created _ hDemand => exact Keeps.of_added hDemand

/-- A publication touches neither payments nor arrears. -/
theorem PublishStep.same {ctx : Context} {input : PublishInput} {l l' : Ledger}
    (h : PublishStep ctx input l l') :
    l'.payments = l.payments ∧ l'.demandArrears = l.demandArrears := by
  cases h with
  | republished _ _ _ _ _ _ _ _ _ hPayments hArrears => exact ⟨hPayments, hArrears⟩
  | created _ _ _ _ _ _ hPayments hArrears => exact ⟨hPayments, hArrears⟩

/-- A carried balance touches no payment. -/
theorem CarryStep.payments {sources : List PropertyDemand} {toYearId : Id} {l l' : Ledger}
    (h : CarryStep sources toYearId l l') : l'.payments = l.payments := by
  cases h with
  | carried _ _ _ _ _ _ _ _ _ _ _ _ _ _ _ _ _ _ hPayments => exact hPayments
  | drafted _ _ _ _ _ _ _ _ _ _ _ _ _ _ _ hPayments => exact hPayments

/-- A carried balance keeps the demands in their place. -/
theorem CarryStep.keeps {sources : List PropertyDemand} {toYearId : Id} {l l' : Ledger}
    (h : CarryStep sources toYearId l l') : Keeps l.demands l'.demands := by
  cases h with
  | carried _ d d' _ _ hDemand _ _ hSurvey' hYear' hStatus =>
      exact Keeps.of_replaced hDemand ⟨hDemand.key_eq, hSurvey', hYear', hStatus.trans⟩
  | drafted _ _ _ _ hDemand => exact Keeps.of_added hDemand

/-! ### What payments do to demands -/

/-- At most one demand is credited. Refunds and late deliveries of refunded
payments too do no more than this to the demands. -/
def CreditStep (l l' : Ledger) : Prop :=
  l'.demandArrears = l.demandArrears ∧ (l'.demands = l.demands ∨
    ∃ d amount, Replaced l.demands l'.demands d (d.credit amount))

end PropertyTax
