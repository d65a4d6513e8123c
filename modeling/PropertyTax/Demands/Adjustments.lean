import Mathlib.Algebra.BigOperators.Group.List.Basic
import PropertyTax.Demands.Assessment

/-! The rebate and penalty rules of an assessment. Each running amount is
rounded after every rule, but every rule adds whole paise, so the amounts are
exact sums: their order does not matter, and one more rule can only add. -/
namespace PropertyTax

/-- What a rule adds, in paise. -/
def adjustmentOf (headAmount : ℚ) (rule : TaxAdjustmentRuleInput) : Money :=
  toColumn (applyHeadAdjustment headAmount rule)

/-- The adjustment in paise is the one that the code computes in rupees. -/
theorem toMoney_adjustmentOf (headAmount : ℚ) (rule : TaxAdjustmentRuleInput) :
    toMoney (adjustmentOf headAmount rule) = applyHeadAdjustment headAmount rule := by
  unfold adjustmentOf applyHeadAdjustment
  split_ifs
  · rw [← toMoney_zero, toColumn_toMoney]
  · exact toMoney_toColumn_roundMoney _

theorem adjustmentOf_nonneg (headAmount : ℚ) {rule : TaxAdjustmentRuleInput}
    (h : 0 ≤ rule.value) : 0 ≤ adjustmentOf headAmount rule := by
  apply toColumn_nonneg
  unfold applyHeadAdjustment
  split_ifs with hHead
  · exact le_rfl
  · have hHead : 0 ≤ headAmount := (not_le.mp hHead).le
    have hPercent : 0 ≤ roundMoney (headAmount * (rule.value / 100)) :=
      roundMoney_nonneg_of (by positivity)
    apply roundMoney_nonneg_of
    apply le_min _ hHead
    cases hCap : rule.cap with
    | none =>
        cases rule.method with
        | flatAmount => exact le_max_left 0 _
        | percentOfHead => exact hPercent
    | some cap =>
        apply le_min _ (le_max_left 0 cap)
        cases rule.method with
        | flatAmount => exact le_max_left 0 _
        | percentOfHead => exact hPercent

/-- Whole paise are added, so rounding after every rule loses nothing. -/
theorem accumulate_eq_sum (headOf : TaxAdjustmentRuleInput → ℚ)
    (rules : List TaxAdjustmentRuleInput) (start : Money) :
    accumulate headOf rules (toMoney start) =
      toMoney (start + (rules.map fun rule => adjustmentOf (headOf rule) rule).sum) := by
  induction rules generalizing start with
  | nil => simp [accumulate]
  | cons rule rules ih =>
      have hStep : roundMoney (toMoney start + applyHeadAdjustment (headOf rule) rule) =
          toMoney (start + adjustmentOf (headOf rule) rule) := by
        rw [← toMoney_adjustmentOf, ← toMoney_add, roundMoney_toMoney]
      unfold accumulate at ih ⊢
      rw [List.foldl_cons, hStep, ih, List.map_cons, List.sum_cons, add_assoc]

/-! ### The heads of an assessment -/

section Heads
variable (base : AssessmentBase) (rules : List TaxAdjustmentRuleInput)

/-- The head that a rule is about. -/
def AssessmentBase.headTax (rule : TaxAdjustmentRuleInput) : ℚ :=
  if rule.head = .water then roundMoney base.waterTax else roundMoney base.propertyTax

def totalRebate : Money :=
  ((rules.filter fun rule => rule.kind = .rebate).map fun rule =>
    adjustmentOf (base.headTax rule) rule).sum

/-- The penalty in place of the legacy one, if a rule for it is published. -/
def propertyPenalty : Money :=
  if (rules.filter fun rule => rule.kind = .penalty ∧ rule.head = .property).length > 0 then
    ((rules.filter fun rule => rule.kind = .penalty ∧ rule.head = .property).map
      (adjustmentOf (roundMoney base.propertyTax))).sum
  else FixedPoint.roundHalfUp (base.penalty * 100)

def waterPenalty : Money :=
  ((rules.filter fun rule => rule.kind = .penalty ∧ rule.head = .water).map
    (adjustmentOf (roundMoney base.waterTax))).sum

/-- The heads before the rebate. -/
def grossDemand : ℚ :=
  roundMoney base.propertyTax + roundMoney base.waterTax + roundMoney base.drainageTax +
    toMoney (propertyPenalty base rules + waterPenalty base rules)

variable (arrears amountPaid : ℚ)

/-- An assessment in closed form: its running amounts are sums. -/
theorem computePropertyAssessment_eq :
    computePropertyAssessment { base, rules, arrears, amountPaid } =
      let currentDemand := roundMoney (max 0 (grossDemand base rules - toMoney (totalRebate base rules)))
      let totalPayable := roundMoney (currentDemand + roundMoney (max 0 arrears))
      { propertyTax := roundMoney base.propertyTax
        waterTax := roundMoney base.waterTax
        drainageTax := roundMoney base.drainageTax
        penalty := toMoney (propertyPenalty base rules + waterPenalty base rules)
        rebate := toMoney (totalRebate base rules)
        currentDemand
        arrears := roundMoney (max 0 arrears)
        totalPayable
        amountPaid := roundMoney (max 0 amountPaid)
        outstanding := roundMoney (max 0 (totalPayable - roundMoney (max 0 amountPaid))) } := by
  have hRebate : accumulate (fun rule => if rule.head = .water then roundMoney base.waterTax
      else roundMoney base.propertyTax) (rules.filter fun rule => rule.kind = .rebate) 0 =
      toMoney (totalRebate base rules) := by
    rw [← toMoney_zero, accumulate_eq_sum, zero_add]
    rfl
  have hProperty : (if (rules.filter fun rule =>
        rule.kind = .penalty ∧ rule.head = .property).length > 0 then
      accumulate (fun _ => roundMoney base.propertyTax)
        (rules.filter fun rule => rule.kind = .penalty ∧ rule.head = .property) 0
      else roundMoney base.penalty) = toMoney (propertyPenalty base rules) := by
    unfold propertyPenalty
    split_ifs
    · rw [← toMoney_zero, accumulate_eq_sum, zero_add]
    · rfl
  have hPenalty : accumulate (fun _ => roundMoney base.waterTax)
      (rules.filter fun rule => rule.kind = .penalty ∧ rule.head = .water)
      (toMoney (propertyPenalty base rules)) =
        toMoney (propertyPenalty base rules + waterPenalty base rules) :=
    accumulate_eq_sum _ _ _
  unfold computePropertyAssessment
  simp only [hRebate, hProperty, hPenalty]
  rfl

/-! ### Orders and longer lists -/

variable {rules}

/-- The order of the rules does not change the rebate. -/
theorem totalRebate_perm {rules' : List TaxAdjustmentRuleInput} (h : rules'.Perm rules) :
    totalRebate base rules' = totalRebate base rules :=
  ((h.filter _).map _).sum_eq

/-- The order of the rules does not change the penalty on the property tax. -/
theorem propertyPenalty_perm {rules' : List TaxAdjustmentRuleInput} (h : rules'.Perm rules) :
    propertyPenalty base rules' = propertyPenalty base rules := by
  rw [propertyPenalty, (h.filter _).length_eq, ((h.filter _).map _).sum_eq, propertyPenalty]

/-- The order of the rules does not change the penalty on the water tax. -/
theorem waterPenalty_perm {rules' : List TaxAdjustmentRuleInput} (h : rules'.Perm rules) :
    waterPenalty base rules' = waterPenalty base rules :=
  ((h.filter _).map _).sum_eq

/-- The order of the rules does not change the assessment. -/
theorem computePropertyAssessment_perm {rules' : List TaxAdjustmentRuleInput}
    (h : rules'.Perm rules) :
    computePropertyAssessment { base, rules := rules', arrears, amountPaid } =
      computePropertyAssessment { base, rules, arrears, amountPaid } := by
  rw [computePropertyAssessment_eq, computePropertyAssessment_eq, grossDemand, totalRebate_perm base h,
    propertyPenalty_perm base h, waterPenalty_perm base h, grossDemand]

variable (rules) {rule : TaxAdjustmentRuleInput}

theorem totalRebate_append (hKind : rule.kind = .rebate) :
    totalRebate base (rules ++ [rule]) =
      totalRebate base rules + adjustmentOf (base.headTax rule) rule := by
  simp [totalRebate, List.filter_append, hKind]

/-- A penalty leaves the rebate alone. -/
theorem totalRebate_append_penalty (hKind : rule.kind = .penalty) :
    totalRebate base (rules ++ [rule]) = totalRebate base rules := by
  simp [totalRebate, List.filter_append, hKind]

/-- A rebate leaves the gross demand alone. -/
theorem grossDemand_append_rebate (hKind : rule.kind = .rebate) :
    grossDemand base (rules ++ [rule]) = grossDemand base rules := by
  simp [grossDemand, propertyPenalty, waterPenalty, List.filter_append, hKind]

/-- A penalty on the water tax adds its own worth to the gross demand. -/
theorem grossDemand_append_waterPenalty (hKind : rule.kind = .penalty) (hHead : rule.head = .water) :
    grossDemand base (rules ++ [rule]) =
      grossDemand base rules + toMoney (adjustmentOf (roundMoney base.waterTax) rule) := by
  simp only [grossDemand, propertyPenalty, waterPenalty, List.filter_append, toMoney_add]
  simp [hKind, hHead, toMoney_add]
  ring

/-- The payable part of an assessment grows with what is left of the heads. -/
theorem payable_mono {rules' : List TaxAdjustmentRuleInput}
    (h : grossDemand base rules - toMoney (totalRebate base rules) ≤
      grossDemand base rules' - toMoney (totalRebate base rules')) :
    (computePropertyAssessment { base, rules, arrears, amountPaid }).totalPayable ≤
        (computePropertyAssessment { base, rules := rules', arrears, amountPaid }).totalPayable ∧
      (computePropertyAssessment { base, rules, arrears, amountPaid }).outstanding ≤
        (computePropertyAssessment { base, rules := rules', arrears, amountPaid }).outstanding := by
  rw [computePropertyAssessment_eq, computePropertyAssessment_eq]
  have hDemand := roundMoney_mono (max_le_max_left 0 h)
  have hPayable := roundMoney_mono (add_le_add_left hDemand (roundMoney (max 0 arrears)))
  have hOutstanding := roundMoney_mono (max_le_max_left 0
    (sub_le_sub_right hPayable (roundMoney (max 0 amountPaid))))
  exact ⟨hPayable, hOutstanding⟩

end Heads

/-- The rules come in any order. One more rebate never makes a demand larger,
and one more water penalty never makes it smaller. -/
theorem assessment_unordered_monotone (base : AssessmentBase) (rules : List TaxAdjustmentRuleInput)
    (arrears amountPaid : ℚ) :
    (∀ rules' : List TaxAdjustmentRuleInput, rules'.Perm rules →
      computePropertyAssessment { base, rules := rules', arrears, amountPaid } =
        computePropertyAssessment { base, rules, arrears, amountPaid }) ∧
    ∀ rule : TaxAdjustmentRuleInput, 0 ≤ rule.value →
      let before := computePropertyAssessment { base, rules, arrears, amountPaid }
      let after := computePropertyAssessment { base, rules := rules ++ [rule], arrears, amountPaid }
      (rule.kind = .rebate →
        after.totalPayable ≤ before.totalPayable ∧ after.outstanding ≤ before.outstanding) ∧
      (rule.kind = .penalty → rule.head = .water →
        before.totalPayable ≤ after.totalPayable ∧ before.outstanding ≤ after.outstanding) := by
  refine ⟨fun rules' h => computePropertyAssessment_perm base arrears amountPaid h, ?_⟩
  intro rule hValue before after
  constructor
  · intro hKind
    apply payable_mono
    have hMore := adjustmentOf_nonneg (base.headTax rule) hValue
    rw [grossDemand_append_rebate base rules hKind, totalRebate_append base rules hKind]
    exact sub_le_sub_left ((toMoney_le_iff _ _).mpr (le_add_of_nonneg_right hMore)) _
  · intro hKind hHead
    apply payable_mono
    have hMore := adjustmentOf_nonneg (roundMoney base.waterTax) hValue
    rw [grossDemand_append_waterPenalty base rules hKind hHead,
      totalRebate_append_penalty base rules hKind]
    have hPenalty : 0 ≤ toMoney (adjustmentOf (roundMoney base.waterTax) rule) := by
      rw [← toMoney_zero]
      exact (toMoney_le_iff _ _).mpr hMore
    linarith

namespace Sample

def assessmentBase : AssessmentBase := ⟨1000, 500, 100, 50, 1650⟩

/-- Six tenths of the property tax. -/
def propertyRebate : TaxAdjustmentRuleInput := ⟨.rebate, .property, .percentOfHead, 60, none⟩

def waterRebate : TaxAdjustmentRuleInput := ⟨.rebate, .water, .flatAmount, 100, none⟩

end Sample

theorem assessment_unordered_monotone_two :
    computePropertyAssessment ⟨Sample.assessmentBase, [Sample.waterRebate, Sample.propertyRebate],
        0, 0⟩ =
      computePropertyAssessment ⟨Sample.assessmentBase, [Sample.propertyRebate, Sample.waterRebate],
        0, 0⟩ ∧
    (computePropertyAssessment ⟨Sample.assessmentBase, [Sample.propertyRebate] ++
        [Sample.waterRebate], 0, 0⟩).totalPayable ≤
      (computePropertyAssessment ⟨Sample.assessmentBase, [Sample.propertyRebate],
        0, 0⟩).totalPayable :=
  ⟨(assessment_unordered_monotone Sample.assessmentBase [Sample.propertyRebate, Sample.waterRebate]
      0 0).1 _ (List.Perm.swap _ _ _),
    (((assessment_unordered_monotone Sample.assessmentBase [Sample.propertyRebate] 0 0).2
      Sample.waterRebate (by decide)).1 rfl).1⟩

/-! ### Rebates and their heads -/

/-- What a rule forgives of a head, in paise: its amount or its percentage, up
to its cap and up to the head. -/
def rebateWorth (head : Money) (rule : TaxAdjustmentRuleInput) : Money :=
  let amount := match rule.method with
    | .flatAmount => toColumn rule.value
    | .percentOfHead => toColumn (toMoney head * (rule.value / 100))
  match rule.cap with
  | some cap => min (min amount (toColumn cap)) head
  | none => min amount head

/-- What the create and update bodies admit. -/
structure TaxAdjustmentRuleInput.IsAdmitted (rule : TaxAdjustmentRuleInput) : Prop where
  value : 0 ≤ rule.value
  cap : ∀ cap, rule.cap = some cap → 0 ≤ cap

structure AssessmentBase.Nonneg (base : AssessmentBase) : Prop where
  propertyTax : 0 ≤ base.propertyTax
  waterTax : 0 ≤ base.waterTax
  drainageTax : 0 ≤ base.drainageTax
  penalty : 0 ≤ base.penalty

/-- An admitted rule is worth what it takes off its head, capped. -/
theorem adjustmentOf_eq_rebateWorth {head : Money} {rule : TaxAdjustmentRuleInput} (hHead : 0 ≤ head)
    (h : rule.IsAdmitted) : adjustmentOf (toMoney head) rule = rebateWorth head rule := by
  have hMoney : 0 ≤ toMoney head := by
    rw [← toMoney_zero]
    exact (toMoney_le_iff 0 head).mpr hHead
  have hFlat : roundMoney (max 0 rule.value) = toMoney (toColumn rule.value) := by
    rw [max_eq_right h.value, roundMoney_of_nonneg h.value]
  have hShare : 0 ≤ toMoney head * (rule.value / 100) :=
    mul_nonneg hMoney (div_nonneg h.value (by norm_num))
  have hPercent : roundMoney (roundMoney (toMoney head * (rule.value / 100))) =
      toMoney (toColumn (toMoney head * (rule.value / 100))) := by
    rw [roundMoney_of_nonneg hShare, roundMoney_toMoney]
  rcases hHead.eq_or_lt with rfl | hPositive
  · have hZero : adjustmentOf (toMoney 0) rule = 0 := by
      rw [adjustmentOf, applyHeadAdjustment, if_pos (by rw [toMoney_zero]), ← toMoney_zero,
        toColumn_toMoney]
    rw [hZero]
    unfold rebateWorth
    have hAmount := toColumn_nonneg h.value
    have hShare := toColumn_nonneg hShare
    cases hCap : rule.cap with
    | none => cases rule.method <;> exact (min_eq_right (by assumption)).symm
    | some cap =>
        have hCap := toColumn_nonneg (h.cap cap hCap)
        cases rule.method <;> exact (min_eq_right (le_min (by assumption) hCap)).symm
  · have hSome : ¬ toMoney head ≤ 0 := by
      rw [not_le]
      exact (toMoney_pos_iff head).mpr hPositive
    rw [adjustmentOf, applyHeadAdjustment, if_neg hSome]
    unfold rebateWorth
    cases hCap : rule.cap with
    | none =>
        cases rule.method with
        | flatAmount => simp only [roundMoney_min, hFlat, roundMoney_toMoney, ← toMoney_min,
            toColumn_toMoney]
        | percentOfHead => simp only [roundMoney_min, hPercent, roundMoney_toMoney, ← toMoney_min,
            toColumn_toMoney]
    | some cap =>
        have hCap : roundMoney (max 0 cap) = toMoney (toColumn cap) := by
          rw [max_eq_right (h.cap cap hCap), roundMoney_of_nonneg (h.cap cap hCap)]
        cases rule.method with
        | flatAmount => simp only [roundMoney_min, hFlat, hCap, roundMoney_toMoney, ← toMoney_min,
            toColumn_toMoney]
        | percentOfHead => simp only [roundMoney_min, hPercent, hCap, roundMoney_toMoney,
            ← toMoney_min, toColumn_toMoney]

section Rebates
variable (base : AssessmentBase) (rules : List TaxAdjustmentRuleInput)

/-- The rebate rules of a head, and what they are worth together. -/
def worthOf (rules : List TaxAdjustmentRuleInput) (head : TaxAdjustmentHead) (amount : Money) :
    Money :=
  ((rules.filter fun rule => rule.kind = .rebate ∧ rule.head = head).map (rebateWorth amount)).sum

/-- On each head, the rebate rules are worth no more than the head together. -/
structure RebatesFit : Prop where
  property : worthOf rules .property (toColumn base.propertyTax) ≤ toColumn base.propertyTax
  water : worthOf rules .water (toColumn base.waterTax) ≤ toColumn base.waterTax

variable (arrears amountPaid : ℚ)

/-- The rebate of an assessment under the rules of one head alone. -/
def grantedOn (head : TaxAdjustmentHead) : ℚ :=
  (computePropertyAssessment
    { base, rules := rules.filter fun rule => rule.head = head, arrears, amountPaid }).rebate

/-- No rebate goes beyond its head, and what is left covers the other heads. -/
structure RebatesCapped : Prop where
  property : grantedOn base rules arrears amountPaid .property ≤
    (computePropertyAssessment { base, rules, arrears, amountPaid }).propertyTax
  water : grantedOn base rules arrears amountPaid .water ≤
    (computePropertyAssessment { base, rules, arrears, amountPaid }).waterTax
  others : (computePropertyAssessment { base, rules, arrears, amountPaid }).drainageTax +
      (computePropertyAssessment { base, rules, arrears, amountPaid }).penalty ≤
    (computePropertyAssessment { base, rules, arrears, amountPaid }).currentDemand

variable {base rules}

/-- The rebate of one head is what its rules are worth on it. -/
theorem totalRebate_filter (hBase : base.Nonneg) (hRules : ∀ rule ∈ rules, rule.IsAdmitted) :
    totalRebate base (rules.filter fun rule => rule.head = .property) =
        worthOf rules .property (toColumn base.propertyTax) ∧
      totalRebate base (rules.filter fun rule => rule.head = .water) =
        worthOf rules .water (toColumn base.waterTax) ∧
      totalRebate base rules = worthOf rules .property (toColumn base.propertyTax) +
        worthOf rules .water (toColumn base.waterTax) := by
  have hProperty := toColumn_nonneg hBase.propertyTax
  have hWater := toColumn_nonneg hBase.waterTax
  induction rules with
  | nil => exact ⟨rfl, rfl, rfl⟩
  | cons rule rules ih =>
      obtain ⟨ihProperty, ihWater, ihBoth⟩ := ih fun r hr => hRules r (List.mem_cons_of_mem _ hr)
      have hRule := hRules rule List.mem_cons_self
      have hOfProperty := adjustmentOf_eq_rebateWorth hProperty hRule
      have hOfWater := adjustmentOf_eq_rebateWorth hWater hRule
      rw [← roundMoney_of_nonneg hBase.propertyTax] at hOfProperty
      rw [← roundMoney_of_nonneg hBase.waterTax] at hOfWater
      unfold totalRebate worthOf at ihProperty ihWater ihBoth ⊢
      cases hKind : rule.kind <;> cases hHead : rule.head <;>
        simp_all [AssessmentBase.headTax] <;> ring

end Rebates

end PropertyTax
