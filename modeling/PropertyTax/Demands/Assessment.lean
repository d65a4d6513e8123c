import PropertyTax.Schema

/-! The assessment of a demand from the tax heads, the published rules, the
arrears and what has been paid. -/
namespace PropertyTax

structure AssessmentBase where
  propertyTax : ℚ
  waterTax : ℚ
  drainageTax : ℚ
  penalty : ℚ
  totalDemand : ℚ

structure PropertyAssessmentInput where
  base : AssessmentBase
  rules : List TaxAdjustmentRuleInput
  arrears : ℚ
  amountPaid : ℚ

def applyHeadAdjustment (headAmount : ℚ) (rule : TaxAdjustmentRuleInput) : ℚ :=
  if headAmount ≤ 0 then 0
  else
    let raw := match rule.method with
      | .flatAmount => max 0 rule.value
      | .percentOfHead => roundMoney (headAmount * (rule.value / 100))
    let capped := match rule.cap with
      | some cap => min raw (max 0 cap)
      | none => raw
    roundMoney (min capped headAmount)

/-- Add the adjustments of some rules to a running amount, rounding each time. -/
def accumulate (headOf : TaxAdjustmentRuleInput → ℚ) (rules : List TaxAdjustmentRuleInput)
    (start : ℚ) : ℚ :=
  rules.foldl (fun total rule => roundMoney (total + applyHeadAdjustment (headOf rule) rule)) start

/-- Rebates apply once per rule. A published property penalty replaces the
legacy one; a water penalty applies to the water tax only. -/
def computePropertyAssessment (input : PropertyAssessmentInput) : PropertyAssessmentResult :=
  let propertyTax := roundMoney input.base.propertyTax
  let waterTax := roundMoney input.base.waterTax
  let drainageTax := roundMoney input.base.drainageTax
  let rules := input.rules
  let rebate := accumulate (fun rule => if rule.head = .water then waterTax else propertyTax)
    (rules.filter fun rule => rule.kind = .rebate) 0
  let propertyPenaltyRules := rules.filter fun rule =>
    rule.kind = .penalty ∧ rule.head = .property
  let waterPenaltyRules := rules.filter fun rule => rule.kind = .penalty ∧ rule.head = .water
  let penalty :=
    if propertyPenaltyRules.length > 0 then
      accumulate (fun _ => propertyTax) propertyPenaltyRules 0
    else roundMoney input.base.penalty
  let penalty := accumulate (fun _ => waterTax) waterPenaltyRules penalty
  let currentDemand :=
    roundMoney (max 0 (propertyTax + waterTax + drainageTax + penalty - rebate))
  let arrears := roundMoney (max 0 input.arrears)
  let totalPayable := roundMoney (currentDemand + arrears)
  let amountPaid := roundMoney (max 0 input.amountPaid)
  let outstanding := roundMoney (max 0 (totalPayable - amountPaid))
  { propertyTax, waterTax, drainageTax, penalty, rebate, currentDemand, arrears, totalPayable,
    amountPaid, outstanding }

theorem roundMoney_nonneg {x : ℚ} (h : 0 ≤ x) : ∃ m : Money, 0 ≤ m ∧ roundMoney x = toMoney m := by
  refine ⟨toColumn x, toColumn_nonneg h, ?_⟩
  have hSum := roundMoney_toMoney_add 0 h
  rw [toMoney_zero, zero_add, zero_add] at hSum
  exact hSum

/-- The balance part of an assessment, in paise: whatever the heads and rules
are, the totals are exact sums of columns. -/
theorem computePropertyAssessment_balance (base : AssessmentBase)
    (rules : List TaxAdjustmentRuleInput) (arrears amountPaid : Money) :
    ∃ currentDemand : Money, 0 ≤ currentDemand ∧
      let result := computePropertyAssessment
        { base, rules, arrears := toMoney arrears, amountPaid := toMoney amountPaid }
      result.currentDemand = toMoney currentDemand ∧
      result.arrears = toMoney (max 0 arrears) ∧
      result.totalPayable = toMoney (currentDemand + max 0 arrears) ∧
      result.amountPaid = toMoney (max 0 amountPaid) ∧
      result.outstanding = toMoney (max 0 (currentDemand + max 0 arrears - max 0 amountPaid)) := by
  obtain ⟨currentDemand, hNonneg, hCurrent⟩ := roundMoney_nonneg (le_max_left 0
    (roundMoney base.propertyTax + roundMoney base.waterTax + roundMoney base.drainageTax +
      accumulate (fun _ => roundMoney base.waterTax)
        (rules.filter fun rule => rule.kind = .penalty ∧ rule.head = .water)
        (if (rules.filter fun rule => rule.kind = .penalty ∧ rule.head = .property).length > 0 then
          accumulate (fun _ => roundMoney base.propertyTax)
            (rules.filter fun rule => rule.kind = .penalty ∧ rule.head = .property) 0
        else roundMoney base.penalty) -
      accumulate (fun rule => if rule.head = .water then roundMoney base.waterTax
          else roundMoney base.propertyTax)
        (rules.filter fun rule => rule.kind = .rebate) 0))
  refine ⟨currentDemand, hNonneg, ?_⟩
  intro result
  have hResult : result.currentDemand = toMoney currentDemand := hCurrent
  have hArrears : result.arrears = toMoney (max 0 arrears) := by
    change roundMoney (max 0 (toMoney arrears)) = _
    rw [toMoney_max_zero, roundMoney_toMoney]
  have hTotal : result.totalPayable = toMoney (currentDemand + max 0 arrears) := by
    change roundMoney (result.currentDemand + result.arrears) = _
    rw [hResult, hArrears, ← toMoney_add, roundMoney_toMoney]
  have hPaid : result.amountPaid = toMoney (max 0 amountPaid) := by
    change roundMoney (max 0 (toMoney amountPaid)) = _
    rw [toMoney_max_zero, roundMoney_toMoney]
  refine ⟨hResult, hArrears, hTotal, hPaid, ?_⟩
  change roundMoney (max 0 (result.totalPayable - result.amountPaid)) = _
  rw [hTotal, hPaid, ← toMoney_sub, toMoney_max_zero, roundMoney_toMoney]

end PropertyTax
