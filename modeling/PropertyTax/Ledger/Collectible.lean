import PropertyTax.Ledger.Arrears
import PropertyTax.Ledger.Reconciled

/-! What can be collected from a survey, against what was demanded of it. A
year-end run copies a balance into another year and leaves it due where it
was, so a survey owes no more than its demands only while nothing of it is
carried. -/
namespace PropertyTax
open KeyedTable Relation Runs

/-- Everything that is paid or due on the demands of a survey. -/
def collectible (demands : KeyedTable PropertyDemand) (surveyId : Id) : Money :=
  demands.sumWhere (fun d => d.surveyId = surveyId) fun d => d.amountPaid + d.outstanding

def demanded (demands : KeyedTable PropertyDemand) (surveyId : Id) : Money :=
  demands.sumWhere (fun d => d.surveyId = surveyId) PropertyDemand.currentDemand

/-- A demand without arrears on which no more is paid than is due. -/
structure PropertyDemand.Plain (d : PropertyDemand) : Prop where
  balanced : d.Balanced
  arrears : d.arrears = 0
  paid : d.amountPaid ≤ d.currentDemand

namespace PropertyDemand.Plain
variable {d : PropertyDemand}

/-- A plain demand is outstanding with what is not paid of it. -/
theorem outstanding_eq (h : d.Plain) : d.outstanding = d.currentDemand - d.amountPaid := by
  rw [h.balanced.outstanding, h.balanced.totalPayable, h.arrears, add_zero]
  exact max_eq_right (sub_nonneg.mpr h.paid)

/-- A payment of no more than the outstanding leaves a demand plain. -/
theorem credit (h : d.Plain) {amount : Money} (hAmount : amount ≤ d.outstanding) :
    (d.credit amount).Plain where
  balanced := credit_balanced h.balanced amount
  arrears := h.arrears
  paid := by
    have hLeft := h.outstanding_eq
    change d.amountPaid + amount ≤ d.currentDemand
    linarith

end PropertyDemand.Plain

def PlainFor (surveyId : Id) (l : Ledger) : Prop :=
  ∀ d ∈ l.demands.rows, d.surveyId = surveyId → d.Plain

/-- Plain demands can be collected with what they demand. -/
theorem collectible_eq_demanded {surveyId : Id} {l : Ledger} (h : PlainFor surveyId l) :
    collectible l.demands surveyId = demanded l.demands surveyId := by
  refine sumWhere_congr fun d hd hSurvey => ?_
  rw [(h d hd (by simpa using hSurvey)).outstanding_eq]
  exact add_sub_cancel _ _

/-! ### Steps -/

/-- Nothing of the survey is carried, no more is paid on it than is
outstanding, and it is published at no less than is paid. -/
structure CreatesNoDebt (surveyId : Id) (db : Db) (call : Call) : Prop where
  carries : ∀ fromYearId toYearId, call.Carries db fromYearId toYearId →
    ∀ d ∈ unpaidDemands db fromYearId, d.surveyId ≠ surveyId
  pays : ∀ p d, call.Pays db p d → d.surveyId = surveyId → p.amount ≤ d.outstanding
  publishes : ∀ input, call.Publishes input → input.survey.id = surveyId →
    successSum db.payments surveyId input.assessmentYearId ≤ input.currentDemand call.ctx

section Steps
variable {surveyId : Id} {l l' : Ledger}

/-- Payments within the outstanding leave the demands plain. -/
theorem PaymentStep.plainFor {allowed : Payment → PropertyDemand → Prop}
    (hAllowed : ∀ p d, allowed p d → d.surveyId = surveyId → p.amount ≤ d.outstanding)
    (h : PaymentStep allowed l l') (hPlain : PlainFor surveyId l) : PlainFor surveyId l' := by
  cases h with
  | opened _ _ _ _ _ _ hDemands =>
      unfold PlainFor
      rw [hDemands]
      exact hPlain
  | revised _ _ _ _ _ _ _ hDemands =>
      unfold PlainFor
      rw [hDemands]
      exact hPlain
  | succeeded _ _ _ _ _ _ _ _ hDemands =>
      unfold PlainFor
      rw [hDemands]
      exact hPlain
  | credited p _ d _ _ _ _ _ hPaid _ hDemand =>
      exact hDemand.forall_rows hPlain fun hSurvey =>
        (hPlain d hDemand.mem_old hSurvey).credit (hAllowed p d hPaid hSurvey)
  | collected p d _ _ _ _ _ _ _ hPaid hDemand =>
      exact hDemand.forall_rows hPlain fun hSurvey =>
        (hPlain d hDemand.mem_old hSurvey).credit (hAllowed p d hPaid hSurvey)

/-- A published demand is plain if it starts from no arrears and is not
overpaid. -/
theorem PublishedFrom.plain {arrears paid : Money} {d : PropertyDemand}
    (h : PublishedFrom arrears paid d) (hArrears : arrears = 0) (hPaid : paid ≤ d.currentDemand) :
    d.Plain where
  balanced := h.balanced
  arrears := by rw [h.arrears, hArrears, max_self]
  paid := by
    rw [h.amountPaid]
    exact max_le h.currentDemand hPaid

/-- A publication of no less than what was paid leaves the demands plain. -/
theorem PublishStep.plainFor {ctx : Context} {input : PublishInput}
    (hPaid : input.survey.id = surveyId →
      successSum l.payments surveyId input.assessmentYearId ≤ input.currentDemand ctx)
    (h : PublishStep ctx input l l') (hPlain : PlainFor surveyId l) : PlainFor surveyId l' := by
  cases h with
  | republished d d' hDemand hSurvey _ hSurvey' _ hFrom hCurrent =>
      refine hDemand.forall_rows hPlain fun hFor => ?_
      have hdFor : d.surveyId = surveyId := hSurvey'.symm.trans hFor
      have hInput : input.survey.id = surveyId := hSurvey.symm.trans hdFor
      refine hFrom.plain ?_ ?_
      · have hOld := (hPlain d hDemand.mem_old hdFor).arrears
        simp [PublishInput.arrears, hOld]
      · rw [hCurrent, hInput]
        exact hPaid hInput
  | created d' hDemand hSurvey _ hFrom hCurrent =>
      refine hDemand.forall_rows hPlain fun hFor => ?_
      have hInput : input.survey.id = surveyId := hSurvey.symm.trans hFor
      refine hFrom.plain rfl ?_
      rw [hCurrent, hInput]
      exact hPaid hInput

/-- A year-end run that carries nothing of the survey leaves its demands plain. -/
theorem CarryStep.plainFor {sources : List PropertyDemand} {toYearId : Id}
    (hSources : ∀ d ∈ sources, d.surveyId ≠ surveyId) (h : CarryStep sources toYearId l l')
    (hPlain : PlainFor surveyId l) : PlainFor surveyId l' := by
  cases h with
  | carried source _ _ _ hSource hDemand hSurvey _ hSurvey' =>
      exact hDemand.forall_rows hPlain fun hFor =>
        absurd (hSurvey.symm.trans (hSurvey'.symm.trans hFor)) (hSources source hSource)
  | drafted source _ _ hSource hDemand hSurvey =>
      exact hDemand.forall_rows hPlain fun hFor =>
        absurd (hSurvey.symm.trans hFor) (hSources source hSource)

/-- Every step of a call that creates no debt leaves the demands plain. -/
theorem CallStep.plainFor {db : Db} {call : Call} (hGuard : CreatesNoDebt surveyId db call)
    (h : CallStep db call l l') (hPlain : PlainFor surveyId l) : PlainFor surveyId l' := by
  cases h with
  | paid h => exact h.plainFor hGuard.pays hPlain
  | published input hPublishes hPayments h =>
      exact h.plainFor (fun hSurvey => hPayments ▸ hGuard.publishes input hPublishes hSurvey) hPlain
  | carried fromYearId toYearId hCarries h =>
      exact h.plainFor (hGuard.carries fromYearId toYearId hCarries) hPlain

end Steps

/-! ### Runs -/

/-- In a run that carries nothing of a survey, what can be collected from it is
what was demanded of it. -/
theorem collectible_of_run {surveyId : Id} {calls : List Call}
    (hRefunds : ∀ call ∈ calls, ¬ call.IsRefund)
    (hAlong : Along perform (CreatesNoDebt surveyId) Db.empty calls) :
    collectible (run perform Db.empty calls).demands surveyId ≤
      demanded (run perform Db.empty calls).demands surveyId := by
  have hPlain : PlainFor surveyId (run perform Db.empty calls).ledger :=
    (ledger_invariant (CreatesNoDebt surveyId) (PlainFor surveyId)
      (fun _ _ _ hGuard _ _ _ hPlain h => h.plainFor hGuard hPlain) hRefunds
      Db.empty_wellFormed (fun _ hd => absurd hd List.not_mem_nil) hAlong).2
  exact (collectible_eq_demanded hPlain).le

namespace Sample

/-- The demand of the year is paid in full before the year-end run. -/
def settledYear : List Call :=
  [⟨ward, .publishForWard 5 20 none⟩, ⟨ward, .createOffline (cash 1000 20) administrator "a"⟩,
    ⟨ward, .commitYearEnd 20 21 none⟩]

end Sample

/-- A year is paid in full, and its year-end run has nothing to carry. -/
theorem collectible_of_settledYear :
    collectible (run perform Db.empty Sample.settledYear).demands 10 ≤
      demanded (run perform Db.empty Sample.settledYear).demands 10 := by
  have hWithin : ∀ d ∈ (perform Db.empty ⟨Sample.ward, .publishForWard 5 20 none⟩).demands.rows,
      toColumn 1000 ≤ d.outstanding := by decide +kernel
  have hSettled : unpaidDemands (run perform Db.empty (Sample.settledYear.take 2)) 20 = [] := by
    decide +kernel
  refine collectible_of_run (by simp [Sample.settledYear, Call.IsRefund])
    ⟨⟨?_, ?_, ?_⟩, ⟨?_, ?_, ?_⟩, ⟨?_, ?_, ?_⟩, trivial⟩
  -- The demand is published.
  · rintro fromYearId toYearId ⟨⟨actorId, hOperation⟩, _⟩
    cases hOperation
  · intro p d hPays
    exact hPays.elim
  · intro input _ _
    exact input.currentDemand_nonneg Sample.ward
  -- It is paid.
  · rintro fromYearId toYearId ⟨⟨actorId, hOperation⟩, _⟩
    cases hOperation
  · intro p d hCollects _
    rw [hCollects.amount]
    exact hWithin d hCollects.mem
  · intro input hPublishes
    exact hPublishes.elim
  -- Nothing of it is carried.
  · rintro fromYearId toYearId ⟨⟨actorId, hOperation⟩, _⟩ d hd
    cases hOperation
    change d ∈ unpaidDemands (run perform Db.empty (Sample.settledYear.take 2)) 20 at hd
    rw [hSettled] at hd
    cases hd
  · intro p d hPays
    exact hPays.elim
  · intro input hPublishes
    exact hPublishes.elim

/-- A year-end run makes 1000 rupees of demand collectible twice. -/
theorem carry_creates_debt :
    ¬ collectible (run perform Db.empty [⟨Sample.ward, .publishForWard 5 20 none⟩,
        ⟨Sample.ward, .commitYearEnd 20 21 none⟩]).demands 10 ≤
      demanded (run perform Db.empty [⟨Sample.ward, .publishForWard 5 20 none⟩,
        ⟨Sample.ward, .commitYearEnd 20 21 none⟩]).demands 10 := by decide +kernel

end PropertyTax
