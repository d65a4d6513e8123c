import Mathlib.Algebra.BigOperators.Group.List.Basic
import PropertyTax.Tax.TaxCalc

/-! The loop over the floors of a survey. Every amount it adds is a whole number
of paise, so its running totals are exact sums however often they are rounded. -/
namespace PropertyTax

/-- A floor's tax is in whole paise. -/
theorem inPaise_propertyTax (areaSqFt rate assessablePct propertyTaxPct : ℚ) :
    InPaise (computeFloorAlv areaSqFt rate assessablePct propertyTaxPct).propertyTax :=
  inPaise_roundMoney _

/-- So is its assessable value. -/
theorem inPaise_assessableAlv (areaSqFt rate assessablePct propertyTaxPct : ℚ) :
    InPaise (computeFloorAlv areaSqFt rate assessablePct propertyTaxPct).assessableAlv :=
  inPaise_roundMoney _

theorem roundMoney_zero : roundMoney 0 = 0 := inPaise_zero.roundMoney_eq

/-- Sums of whole paise are whole paise. -/
theorem inPaise_sum_map {α : Type} {f : α → ℚ} {items : List α}
    (h : ∀ item ∈ items, InPaise (f item)) : InPaise (items.map f).sum := by
  induction items with
  | nil => exact inPaise_zero
  | cons item rest ih =>
      rw [List.map_cons, List.sum_cons]
      exact (h item List.mem_cons_self).add (ih fun i hi => h i (List.mem_cons_of_mem _ hi))

/-- Nothing is charged at a rate of zero. -/
theorem computeFloorAlv_zero_rate (areaSqFt assessablePct propertyTaxPct : ℚ) :
    computeFloorAlv areaSqFt 0 assessablePct propertyTaxPct = ⟨0, 0, 0⟩ := by
  simp [computeFloorAlv, roundMoney_zero]

/-- A floor without area has neither value nor tax. -/
theorem computeFloorAlv_zero_area (rate assessablePct propertyTaxPct : ℚ) :
    computeFloorAlv 0 rate assessablePct propertyTaxPct = ⟨0, 0, 0⟩ := by
  simp [computeFloorAlv, roundMoney_zero]

namespace SurveyTaxInput
variable (input : SurveyTaxInput)

/-- What a floor is charged; one without a positive rate is skipped. -/
def chargedAlv (floor : ExportTaxFloorInput) : FloorAlv :=
  if input.baseRate floor ≤ 0 then ⟨0, 0, 0⟩ else input.floorAlv floor

def chargedTax (floor : ExportTaxFloorInput) : ℚ := (input.chargedAlv floor).propertyTax

theorem chargedTax_of_pos {floor : ExportTaxFloorInput} (h : 0 < input.baseRate floor) :
    input.chargedTax floor = (input.floorAlv floor).propertyTax := by
  rw [chargedTax, chargedAlv, if_neg (not_le.mpr h)]

/-- Skipping a floor without a rate is charging it at a rate of zero. -/
theorem chargedAlv_of_nonneg {floor : ExportTaxFloorInput} (h : 0 ≤ input.baseRate floor) :
    input.chargedAlv floor = input.floorAlv floor := by
  unfold chargedAlv
  split_ifs with hRate
  · have hZero : input.floorRate floor = 0 := by
      rw [floorRate, le_antisymm hRate h, resolveEffectiveMonthlyRate, zero_mul, roundMoney_zero]
    rw [floorAlv, hZero, computeFloorAlv_zero_rate]
  · rfl

/-- What a floor is charged is in whole paise. -/
theorem inPaise_chargedAlv (floor : ExportTaxFloorInput) :
    InPaise (input.chargedTax floor) ∧ InPaise (input.chargedAlv floor).assessableAlv := by
  unfold chargedTax chargedAlv
  split_ifs
  · exact ⟨inPaise_zero, inPaise_zero⟩
  · exact ⟨inPaise_propertyTax _ _ _ _, inPaise_assessableAlv _ _ _ _⟩

/-- One round adds exactly what the floor is charged. -/
theorem addFloor_totals {totals : FloorTotals} (hTax : InPaise totals.propertyTax)
    (hAlv : InPaise totals.totalAssessableAlv) (floor : ExportTaxFloorInput) :
    (input.addFloor totals floor).propertyTax = totals.propertyTax + input.chargedTax floor ∧
      (input.addFloor totals floor).totalAssessableAlv =
        totals.totalAssessableAlv + (input.chargedAlv floor).assessableAlv := by
  have hCharged := input.inPaise_chargedAlv floor
  unfold addFloor chargedTax chargedAlv at *
  by_cases hRate : input.baseRate floor ≤ 0
  · simp only [if_pos hRate, add_zero, and_self]
  · simp only [if_neg hRate] at hCharged ⊢
    exact ⟨(hTax.add hCharged.1).roundMoney_eq, (hAlv.add hCharged.2).roundMoney_eq⟩

/-- Floors add their tax and value to the totals. -/
theorem foldl_addFloor_totals (floors : List ExportTaxFloorInput) {totals : FloorTotals}
    (hTax : InPaise totals.propertyTax) (hAlv : InPaise totals.totalAssessableAlv) :
    (floors.foldl input.addFloor totals).propertyTax =
        totals.propertyTax + (floors.map input.chargedTax).sum ∧
      (floors.foldl input.addFloor totals).totalAssessableAlv = totals.totalAssessableAlv +
        (floors.map fun floor => (input.chargedAlv floor).assessableAlv).sum := by
  induction floors generalizing totals with
  | nil => simp
  | cons floor floors ih =>
      obtain ⟨hStepTax, hStepAlv⟩ := input.addFloor_totals hTax hAlv floor
      obtain ⟨hCharged, hChargedAlv⟩ := input.inPaise_chargedAlv floor
      have hRest := ih (hStepTax ▸ hTax.add hCharged) (hStepAlv ▸ hAlv.add hChargedAlv)
      rw [hStepTax, hStepAlv] at hRest
      rw [List.foldl_cons, hRest.1, hRest.2]
      simp only [List.map_cons, List.sum_cons, add_assoc, and_self]

/-- The tax of the totals is that of the floors. -/
theorem floorTotals_propertyTax :
    input.floorTotals.propertyTax = (input.floors.map input.chargedTax).sum := by
  have hTotals : InPaise (FloorTotals.propertyTax {}) := inPaise_zero
  rw [floorTotals, (input.foldl_addFloor_totals input.floors hTotals inPaise_zero).1, zero_add]

/-- The value of the totals is that of the floors. -/
theorem floorTotals_totalAssessableAlv : input.floorTotals.totalAssessableAlv =
    (input.floors.map fun floor => (input.chargedAlv floor).assessableAlv).sum := by
  have hTotals : InPaise (FloorTotals.propertyTax {}) := inPaise_zero
  rw [floorTotals, (input.foldl_addFloor_totals input.floors hTotals inPaise_zero).2, zero_add]

/-- The plot that is charged when no floor contributes area, if it is. -/
def fallback : Option FloorAlv :=
  input.plotFallback (input.floors.map fun floor => (input.chargedAlv floor).assessableAlv).sum

/-- What is billed in place of the floors, if anything is. -/
def standIn : Option FloorAlv :=
  if input.openLand then input.openPlot <|> input.fallback else input.fallback

def billedTax : ℚ :=
  (input.standIn.map FloorAlv.propertyTax).getD (input.floors.map input.chargedTax).sum

/-- The annual value that water and drainage are charged on. -/
def billedAlv : ℚ :=
  (input.fallback.map FloorAlv.assessableAlv).getD
    (input.floors.map fun floor => (input.chargedAlv floor).assessableAlv).sum

/-- Either the floors are billed, or what stands in for them. -/
theorem standIn_eq_none_or : input.standIn = none ∧
      input.billedTax = (input.floors.map input.chargedTax).sum ∨
    ∃ alv, input.standIn = some alv ∧ input.billedTax = alv.propertyTax := by
  unfold billedTax
  cases input.standIn with
  | none => exact .inl ⟨rfl, rfl⟩
  | some alv => exact .inr ⟨alv, rfl, rfl⟩

/-- What stands in is in whole paise. -/
theorem inPaise_standIn {alv : FloorAlv} (h : input.standIn = some alv) :
    InPaise alv.propertyTax := by
  have hFallback : ∀ {alv}, input.fallback = some alv → InPaise alv.propertyTax := by
    intro alv hAlv
    rw [fallback, plotFallback] at hAlv
    split_ifs at hAlv
    cases hAlv
    exact inPaise_propertyTax _ _ _ _
  unfold standIn at h
  split_ifs at h
  · cases hPlot : input.openPlot with
    | none =>
        rw [hPlot] at h
        exact hFallback h
    | some plot =>
        rw [hPlot] at h
        cases h
        rw [openPlot] at hPlot
        split_ifs at hPlot
        cases hPlot
        exact inPaise_propertyTax _ _ _ _
  · exact hFallback h

/-- The billed tax is in whole paise. -/
theorem inPaise_billedTax : InPaise input.billedTax := by
  rcases input.standIn_eq_none_or with ⟨-, hBilled⟩ | ⟨alv, hStandIn, hBilled⟩
  · rw [hBilled]
    exact inPaise_sum_map fun floor _ => (input.inPaise_chargedAlv floor).1
  · rw [hBilled]
    exact input.inPaise_standIn hStandIn

end SurveyTaxInput

/-! ### The bill -/

/-- The five amounts of a bill. -/
structure ExportTaxSummary where
  propertyTax : ℚ
  waterTax : ℚ
  drainageTax : ℚ
  penalty : ℚ
  totalDemand : ℚ
deriving DecidableEq

def SurveyExportTax.summary (tax : SurveyExportTax) : ExportTaxSummary :=
  ⟨tax.propertyTax, tax.waterTax, tax.drainageTax, tax.penalty, tax.totalDemand⟩

/-- A bill, from the tax and the annual value it is made of. -/
def ExportTaxRateTable.summaryOf (rates : ExportTaxRateTable) (openLand : Bool)
    (propertyTax assessableAlv : ℚ) : ExportTaxSummary :=
  let penalty := penaltyOn propertyTax rates.penaltyPct
  if openLand then ⟨propertyTax, 0, 0, penalty, roundMoney (propertyTax + penalty)⟩
  else
    let totals := computeDemandTotals assessableAlv propertyTax rates.waterTaxPct
      rates.drainageTaxPct rates.penaltyPct true true
    ⟨propertyTax, totals.waterTax, totals.drainageTax, totals.penalty, totals.totalAnnualDemand⟩

/-- Two bills of one kind are the same when their taxes are. -/
theorem summaryOf_eq_iff (rates : ExportTaxRateTable) (openLand : Bool)
    {propertyTax propertyTax' alv alv' : ℚ} :
    rates.summaryOf openLand propertyTax alv = rates.summaryOf openLand propertyTax' alv' ↔
      propertyTax = propertyTax' ∧
        (openLand = false → ∀ pct ∈ [rates.waterTaxPct, rates.drainageTaxPct],
          roundMoney (alv * (pct / 100)) = roundMoney (alv' * (pct / 100))) := by
  simp only [List.forall_mem_cons, List.not_mem_nil, false_imp_iff, implies_true, and_true]
  cases openLand with
  | true =>
      simp only [Bool.true_eq_false, false_imp_iff, and_true]
      exact ⟨fun h => congrArg ExportTaxSummary.propertyTax h, fun h => by rw [h]; rfl⟩
  | false =>
      simp only [true_imp_iff]
      constructor
      · intro h
        injection h with hTax hWater hDrainage
        exact ⟨hTax, hWater, hDrainage⟩
      · rintro ⟨rfl, hWater, hDrainage⟩
        simp only [ExportTaxRateTable.summaryOf, computeDemandTotals, Bool.false_eq_true, if_false,
          if_true, hWater, hDrainage]

section Result
variable {input : SurveyTaxInput} {result : SurveyExportTax}

variable (input) in
/-- A survey with a zone can be billed. -/
theorem exists_computeSurveyExportTax (h : input.zoneCode ≠ "") :
    ∃ result, computeSurveyExportTax input = .ok result := by
  rw [computeSurveyExportTax, if_neg h]
  by_cases hLand : input.openLand = true
  · exact ⟨_, if_pos hLand⟩
  · exact ⟨_, if_neg hLand⟩

/-- A bill's property tax is the billed tax. -/
theorem computeSurveyExportTax_propertyTax (h : computeSurveyExportTax input = .ok result) :
    result.propertyTax = input.billedTax := by
  unfold computeSurveyExportTax at h
  rw [SurveyTaxInput.billedTax, SurveyTaxInput.standIn, SurveyTaxInput.fallback,
    ← input.floorTotals_totalAssessableAlv, ← input.floorTotals_propertyTax]
  split_ifs at h ⊢ with hLand
  · cases h
    cases input.openPlot <;> rfl
  · cases h
    rfl

/-- A bill's total is the demand on the billed tax. -/
theorem computeSurveyExportTax_totalDemand (h : computeSurveyExportTax input = .ok result) :
    result.totalDemand = if input.openLand then
        roundMoney (input.billedTax + penaltyOn input.billedTax input.rates.penaltyPct)
      else (computeDemandTotals input.billedAlv input.billedTax input.rates.waterTaxPct
        input.rates.drainageTaxPct input.rates.penaltyPct true true).totalAnnualDemand := by
  unfold computeSurveyExportTax at h
  rw [SurveyTaxInput.billedTax, SurveyTaxInput.billedAlv, SurveyTaxInput.standIn,
    SurveyTaxInput.fallback, ← input.floorTotals_totalAssessableAlv,
    ← input.floorTotals_propertyTax]
  split_ifs at h ⊢ with hLand
  · cases h
    cases input.openPlot <;> rfl
  · cases h
    simp only [Bool.eq_false_of_not_eq_true hLand, Bool.not_false]

/-- For a built property, the fallback stands in. -/
theorem standIn_of_built (h : input.openLand = false) : input.standIn = input.fallback := by
  rw [SurveyTaxInput.standIn, h]
  rfl

variable (input) in
/-- A bill's summary is that of the billed tax and value. -/
theorem computeSurveyExportTax_summary (hZone : input.zoneCode ≠ "") :
    (computeSurveyExportTax input).map SurveyExportTax.summary =
      .ok (input.rates.summaryOf input.openLand input.billedTax input.billedAlv) := by
  rw [computeSurveyExportTax, if_neg hZone, SurveyTaxInput.billedTax, SurveyTaxInput.billedAlv,
    SurveyTaxInput.standIn, SurveyTaxInput.fallback, ← input.floorTotals_totalAssessableAlv,
    ← input.floorTotals_propertyTax]
  cases input.openLand with
  | true => cases input.openPlot <;> rfl
  | false => rfl

/-- The taxes of a summary are in whole paise. -/
theorem inPaise_summaryOf (rates : ExportTaxRateTable) (openLand : Bool) {propertyTax : ℚ}
    (h : InPaise propertyTax) (assessableAlv : ℚ) :
    InPaise (rates.summaryOf openLand propertyTax assessableAlv).propertyTax ∧
      InPaise (rates.summaryOf openLand propertyTax assessableAlv).waterTax ∧
      InPaise (rates.summaryOf openLand propertyTax assessableAlv).drainageTax := by
  cases openLand with
  | true => exact ⟨h, inPaise_zero, inPaise_zero⟩
  | false => exact ⟨h, inPaise_roundMoney _, inPaise_roundMoney _⟩

/-- The taxes of a bill are whole paise. -/
theorem computeSurveyExportTax_inPaise (h : computeSurveyExportTax input = .ok result) :
    InPaise result.propertyTax ∧ InPaise result.waterTax ∧ InPaise result.drainageTax := by
  by_cases hZone : input.zoneCode = ""
  · rw [computeSurveyExportTax, if_pos hZone] at h
    cases h
  · have hSummary := computeSurveyExportTax_summary input hZone
    rw [h] at hSummary
    have hPaise := inPaise_summaryOf input.rates input.openLand input.inPaise_billedTax
      input.billedAlv
    rw [← Except.ok.inj hSummary] at hPaise
    exact hPaise

/-- The rate of the plot is shown where open land is charged on it. -/
theorem computeSurveyExportTax_plotRate (hZone : input.zoneCode ≠ "") :
    (computeSurveyExportTax input).map SurveyExportTax.plotRate =
      .ok (if input.openLand then input.openPlot.map fun _ => input.openLandRate else none) := by
  rw [computeSurveyExportTax, if_neg hZone]
  cases input.openLand with
  | true => rfl
  | false => rfl

/-- A bill's cells are those of the totals. -/
theorem computeSurveyExportTax_cells (h : computeSurveyExportTax input = .ok result) :
    result.residentialTaxCells = input.floorTotals.residentialTaxCells ∧
      result.nonResidentialTaxCells = input.floorTotals.nonResidentialTaxCells := by
  unfold computeSurveyExportTax at h
  split_ifs at h
  · cases h
    exact ⟨rfl, rfl⟩
  · cases h
    exact ⟨rfl, rfl⟩

end Result

namespace Sample

def rateTable : ExportTaxRateTable where
  assessablePct := 80
  commercialAssessablePct := 80
  propertyTaxPct := 10
  waterTaxPct := 15 / 2
  drainageTaxPct := 5 / 2
  penaltyPct := 0
  rateByZoneAndConstruction key :=
    if key = "BELOW_9M::PAKKA_BUILDING_WITH_RCC_ROOF" then some 10 else none
  anyRateByZone zone := if zone = "BELOW_9M" then some 10 else none

def rccFloor (floorKey : String) : ExportTaxFloorInput where
  floorKey := floorKey
  constructionCode := "PAKKA_BUILDING_WITH_RCC_ROOF"
  usageResidential := true
  areaSqFt := 100
  usageType := some "Residential"
  usageFactor := none

def house (floors : List ExportTaxFloorInput) : SurveyTaxInput where
  taxRateZoneCode := "BELOW_9M"
  propertyUse := none
  gisUseCode := some "R"
  surveyId := none
  floors := floors
  plotAreaSqFt := none
  plinthAreaSqFt := none
  totalBuiltUpAreaSqFt := none
  rates := rateTable

end Sample

end PropertyTax
