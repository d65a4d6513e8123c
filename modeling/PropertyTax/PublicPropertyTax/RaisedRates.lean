import PropertyTax.PublicPropertyTax.Notice

/-! What is billed when the rates of the matrix are raised. A floor never costs less. A plot that
stands in for the floors can: it has a rate of its own or, for want of one, that of some cell of the
zone, and once it has a rate it is billed in place of the floors of open land. -/
namespace PropertyTax

namespace ExportTaxRateTable
variable (rates raised : ExportTaxRateTable)

def cell (zoneCode constructionCode : String) : ℚ :=
  (rates.rateByZoneAndConstruction (taxRateKey zoneCode constructionCode)).getD 0

/-- The rate of a plot in the zone. -/
def plotRate (zoneCode : String) : ℚ :=
  (rates.rateByZoneAndConstruction (taxRateKey zoneCode "OPEN_LAND") <|>
    rates.anyRateByZone zoneCode).getD 0

/-- No cell has a lower rate, and the percentages stay. -/
structure IsRaised : Prop where
  cell : ∀ zoneCode constructionCode,
    rates.cell zoneCode constructionCode ≤ raised.cell zoneCode constructionCode
  same : raised = { rates with
    rateByZoneAndConstruction := raised.rateByZoneAndConstruction
    anyRateByZone := raised.anyRateByZone }

/-- Percentages that a bill can be made with. -/
structure HasPercentages : Prop where
  residential : 0 ≤ rates.assessablePct
  commercial : 0 < rates.commercialAssessablePct
  property : 0 < rates.propertyTaxPct
  water : 0 ≤ rates.waterTaxPct
  drainage : 0 ≤ rates.drainageTaxPct

/-- A plot of the zone keeps its rate or gets a higher one, and it does not get its first rate where
a floor costs something. -/
structure KeepsPlots (zoneCode : String) : Prop where
  rate : rates.plotRate zoneCode ≤ raised.plotRate zoneCode
  first : rates.plotRate zoneCode = 0 → 0 < raised.plotRate zoneCode →
    ∀ constructionCode, roundMoney (2 * rates.cell zoneCode constructionCode) = 0

end ExportTaxRateTable

namespace SurveyTaxInput
variable (input : SurveyTaxInput)

/-- No area is negative. -/
structure IsMeasured : Prop where
  floors : ∀ floor ∈ input.floors, 0 ≤ floor.areaSqFt
  plot : 0 ≤ toTaxNumber input.plotAreaSqFt
  plinth : 0 ≤ toTaxNumber input.plinthAreaSqFt
  builtUp : 0 ≤ toTaxNumber input.totalBuiltUpAreaSqFt

/-- The same property at other rates. -/
def withRates (rates : ExportTaxRateTable) : SurveyTaxInput := { input with rates }

/-- Whatever is billed at the first rates, no less is billed at the second. -/
def CostsNoLess (rates raised : ExportTaxRateTable) : Prop :=
  ∀ result result', computeSurveyExportTax (input.withRates rates) = .ok result →
    computeSurveyExportTax (input.withRates raised) = .ok result' →
      result.totalDemand ≤ result'.totalDemand

end SurveyTaxInput

/-! ### One floor or plot -/

section Alv
variable {area rate rate' assessablePct propertyTaxPct : ℚ}

structure FloorAlv.LE (first second : FloorAlv) : Prop where
  assessableAlv : first.assessableAlv ≤ second.assessableAlv
  propertyTax : first.propertyTax ≤ second.propertyTax

theorem computeFloorAlv_mono (hArea : 0 ≤ area) (hAssessable : 0 ≤ assessablePct)
    (hTax : 0 ≤ propertyTaxPct) (hRate : rate ≤ rate') :
    (computeFloorAlv area rate assessablePct propertyTaxPct).LE
      (computeFloorAlv area rate' assessablePct propertyTaxPct) := by
  have hGross : roundMoney (area * rate * 12) ≤ roundMoney (area * rate' * 12) := by
    apply roundMoney_mono
    gcongr
  have hAlv : roundMoney (roundMoney (area * rate * 12) * (assessablePct / 100)) ≤
      roundMoney (roundMoney (area * rate' * 12) * (assessablePct / 100)) := by
    apply roundMoney_mono
    gcongr
  refine ⟨hAlv, ?_⟩
  apply roundMoney_mono
  gcongr

theorem computeFloorAlv_nonneg (hArea : 0 ≤ area) (hRate : 0 ≤ rate)
    (hAssessable : 0 ≤ assessablePct) (hTax : 0 ≤ propertyTaxPct) :
    0 ≤ (computeFloorAlv area rate assessablePct propertyTaxPct).assessableAlv ∧
      0 ≤ (computeFloorAlv area rate assessablePct propertyTaxPct).propertyTax := by
  have hMono := computeFloorAlv_mono hArea hAssessable hTax hRate
  rw [computeFloorAlv_zero_rate] at hMono
  exact ⟨hMono.assessableAlv, hMono.propertyTax⟩

/-- Whole rupees everywhere: nothing is rounded. -/
theorem computeFloorAlv_exact (n : ℤ) (h : area * rate =
    n * (10000 * assessablePct.den * propertyTaxPct.den)) :
    (computeFloorAlv area rate assessablePct propertyTaxPct).propertyTax =
      area * rate * 12 * (assessablePct / 100) * (propertyTaxPct / 100) := by
  have hWhole (z : ℤ) : roundMoney (z : ℚ) = z := by
    have hPaise : InPaise (z : ℚ) := ⟨100 * z, by simp [toMoney, FixedPoint.toNumber]⟩
    exact hPaise.roundMoney_eq
  have hAssessable : (assessablePct.den : ℚ) * assessablePct = assessablePct.num :=
    Rat.den_mul_eq_num assessablePct
  have hTax : (propertyTaxPct.den : ℚ) * propertyTaxPct = propertyTaxPct.num :=
    Rat.den_mul_eq_num propertyTaxPct
  have hGross : area * rate * 12 =
      ((120000 * n * assessablePct.den * propertyTaxPct.den : ℤ) : ℚ) := by
    rw [h]
    push_cast
    ring
  have hAlv : ((120000 * n * assessablePct.den * propertyTaxPct.den : ℤ) : ℚ) *
      (assessablePct / 100) = ((1200 * n * assessablePct.num * propertyTaxPct.den : ℤ) : ℚ) := by
    push_cast
    rw [← hAssessable]
    ring
  have hLast : ((1200 * n * assessablePct.num * propertyTaxPct.den : ℤ) : ℚ) *
      (propertyTaxPct / 100) = ((12 * n * assessablePct.num * propertyTaxPct.num : ℤ) : ℚ) := by
    push_cast
    rw [← hTax]
    ring
  unfold computeFloorAlv
  dsimp only
  rw [hGross, hWhole, hAlv, hWhole, hLast, hWhole]

/-- On a large plot a higher rate shows. -/
theorem exists_area_lt (hAssessable : 0 < assessablePct) (hTax : 0 < propertyTaxPct)
    (hRate : rate < rate') : ∃ area : ℚ, 0 < area ∧
      (computeFloorAlv area rate assessablePct propertyTaxPct).propertyTax <
        (computeFloorAlv area rate' assessablePct propertyTaxPct).propertyTax := by
  have hDen (x : ℚ) : (0 : ℚ) < x.den := by exact_mod_cast x.den_pos
  have hFirst : (rate.den : ℚ) * rate = rate.num := Rat.den_mul_eq_num rate
  have hSecond : (rate'.den : ℚ) * rate' = rate'.num := Rat.den_mul_eq_num rate'
  have hArea : (0 : ℚ) <
      10000 * assessablePct.den * propertyTaxPct.den * rate.den * rate'.den := by
    have := hDen rate
    have := hDen rate'
    have := hDen assessablePct
    have := hDen propertyTaxPct
    positivity
  refine ⟨_, hArea, ?_⟩
  rw [computeFloorAlv_exact (rate.num * rate'.den), computeFloorAlv_exact (rate'.num * rate.den)]
  · gcongr
  · push_cast
    rw [← hSecond]
    ring
  · push_cast
    rw [← hFirst]
    ring

end Alv

/-! ### The floors -/

/-- The multiplier is one or two. -/
theorem resolveUsageRateMult_eq (usageFactor usageType propertyUse : Option String)
    (gisClass : Option GisUseClass) :
    resolveUsageRateMult usageFactor usageType propertyUse gisClass = 1 ∨
      resolveUsageRateMult usageFactor usageType propertyUse gisClass = 2 := by
  have hHeuristic : ∀ key : String, (if usageLooksCommercial key = true then (2 : ℚ) else 1) = 1 ∨
      (if usageLooksCommercial key = true then (2 : ℚ) else 1) = 2 := by
    intro key
    split_ifs
    · exact .inr rfl
    · exact .inl rfl
  rcases gisClass with _ | _ | _ | _ | _
  · exact hHeuristic (resolveHeuristicUsageKey usageType usageFactor propertyUse)
  · exact .inl rfl
  · exact .inr rfl
  · exact .inl rfl
  · exact hHeuristic (resolveHeuristicUsageKey usageType usageFactor propertyUse)

/-- No cell is rated below zero. -/
theorem ExportTaxRateTable.RatesNonneg.cell {rates : ExportTaxRateTable} (h : rates.RatesNonneg)
    (zoneCode constructionCode : String) : 0 ≤ rates.cell zoneCode constructionCode := by
  unfold ExportTaxRateTable.cell
  cases hRate : rates.rateByZoneAndConstruction (taxRateKey zoneCode constructionCode) with
  | none => exact le_rfl
  | some rate => exact h.byConstruction _ rate hRate

/-- No plot is rated below zero. -/
theorem ExportTaxRateTable.RatesNonneg.plotRate {rates : ExportTaxRateTable}
    (h : rates.RatesNonneg) (zoneCode : String) : 0 ≤ rates.plotRate zoneCode := by
  unfold ExportTaxRateTable.plotRate
  cases hOwn : rates.rateByZoneAndConstruction (taxRateKey zoneCode "OPEN_LAND") with
  | some rate => exact h.byConstruction _ rate hOwn
  | none =>
      cases hAny : rates.anyRateByZone zoneCode with
      | some rate => exact h.anyRate _ rate hAny
      | none => exact le_rfl

/-- No assessable share is negative. -/
theorem ExportTaxRateTable.HasPercentages.assessable {rates : ExportTaxRateTable}
    (h : rates.HasPercentages) (propertyUse usageType usageFactor : Option String)
    (gisClass : Option GisUseClass) :
    0 ≤ resolveAssessablePct propertyUse usageType usageFactor rates.assessableOpts gisClass := by
  have hResidential : 0 ≤ rates.assessableOpts.residentialPct := h.residential
  have hCommercial : 0 ≤ rates.assessableOpts.commercialPct := h.commercial.le
  have hHeuristic : ∀ key : String, 0 ≤ if usageLooksOpenLand key = true then (100 : ℚ)
      else if usageLooksCommercial key = true then rates.assessableOpts.commercialPct
      else rates.assessableOpts.residentialPct := by
    intro key
    split_ifs
    · norm_num
    · exact hCommercial
    · exact hResidential
  rcases gisClass with _ | _ | _ | _ | _
  · exact hHeuristic (resolveHeuristicUsageKey usageType usageFactor propertyUse)
  · exact hResidential
  · exact hCommercial
  · exact (by norm_num : (0 : ℚ) ≤ 100)
  · exact hHeuristic (resolveHeuristicUsageKey usageType usageFactor propertyUse)

namespace SurveyTaxInput
section Floors
variable {input : SurveyTaxInput} {rates raised : ExportTaxRateTable}

theorem floorRate_nonneg (h : rates.RatesNonneg) (floor : ExportTaxFloorInput) :
    0 ≤ (input.withRates rates).floorRate floor := by
  have hCell : 0 ≤ (input.withRates rates).baseRate floor := h.cell _ _
  unfold floorRate resolveEffectiveMonthlyRate
  apply roundMoney_nonneg_of
  obtain hOnce | hTwice := resolveUsageRateMult_eq floor.usageFactor floor.usageType
    (input.withRates rates).propertyUse (rateGisClass (input.withRates rates).gisClass)
  · rw [hOnce]
    linarith
  · rw [hTwice]
    linarith

theorem floorRate_mono (hRaised : rates.IsRaised raised) (floor : ExportTaxFloorInput) :
    (input.withRates rates).floorRate floor ≤ (input.withRates raised).floorRate floor := by
  have hCell : (input.withRates rates).baseRate floor ≤ (input.withRates raised).baseRate floor :=
    hRaised.cell _ _
  apply roundMoney_mono
  change _ * resolveUsageRateMult floor.usageFactor floor.usageType input.propertyUse
      (rateGisClass input.gisClass) ≤
    _ * resolveUsageRateMult floor.usageFactor floor.usageType input.propertyUse
      (rateGisClass input.gisClass)
  obtain hOnce | hTwice := resolveUsageRateMult_eq floor.usageFactor floor.usageType
    input.propertyUse (rateGisClass input.gisClass)
  · rw [hOnce]
    linarith
  · rw [hTwice]
    linarith

/-- A floor costs nothing when twice its rate rounds to nothing. -/
theorem floorRate_eq_zero (h : rates.RatesNonneg) {floor : ExportTaxFloorInput}
    (hCell : roundMoney (2 * rates.cell input.zoneCode floor.constructionCode) = 0) :
    (input.withRates rates).floorRate floor = 0 := by
  have hNonneg : 0 ≤ (input.withRates rates).baseRate floor := h.cell _ _
  have hBase : roundMoney (2 * (input.withRates rates).baseRate floor) = 0 := hCell
  apply le_antisymm _ (floorRate_nonneg h floor)
  rw [← hBase]
  apply roundMoney_mono
  obtain hOnce | hTwice := resolveUsageRateMult_eq floor.usageFactor floor.usageType
    (input.withRates rates).propertyUse (rateGisClass (input.withRates rates).gisClass)
  · rw [hOnce]
    linarith
  · rw [hTwice]
    linarith

/-- A raised table values a floor with the old shares and its own rate. -/
theorem withRates_floorAlv (hRaised : rates.IsRaised raised) (floor : ExportTaxFloorInput) :
    (input.withRates raised).floorAlv floor =
      computeFloorAlv floor.areaSqFt ((input.withRates raised).floorRate floor)
        (resolveAssessablePct input.propertyUse floor.usageType floor.usageFactor
          rates.assessableOpts (rateGisClass input.gisClass)) rates.propertyTaxPct := by
  have hOptions : raised.assessableOpts = rates.assessableOpts := by
    rw [hRaised.same]
    rfl
  have hTax : raised.propertyTaxPct = rates.propertyTaxPct := by rw [hRaised.same]
  rw [floorAlv]
  change computeFloorAlv _ _ (resolveAssessablePct input.propertyUse _ _ raised.assessableOpts
    (rateGisClass input.gisClass)) raised.propertyTaxPct = _
  rw [hOptions, hTax]

theorem chargedAlv_mono (hNonneg : rates.RatesNonneg) (hNonneg' : raised.RatesNonneg)
    (hPct : rates.HasPercentages) (hRaised : rates.IsRaised raised) {floor : ExportTaxFloorInput}
    (hArea : 0 ≤ floor.areaSqFt) :
    ((input.withRates rates).chargedAlv floor).LE ((input.withRates raised).chargedAlv floor) := by
  have hBase : 0 ≤ (input.withRates rates).baseRate floor := hNonneg.cell _ _
  have hBase' : 0 ≤ (input.withRates raised).baseRate floor := hNonneg'.cell _ _
  rw [chargedAlv_of_nonneg _ hBase, chargedAlv_of_nonneg _ hBase', withRates_floorAlv hRaised]
  exact computeFloorAlv_mono hArea (hPct.assessable _ _ _ _) hPct.property.le
    (floorRate_mono hRaised floor)

end Floors

/-! ### The plot -/

section Plot
variable (input : SurveyTaxInput)

/-- What the plot is charged in place of the floors. -/
def plotAlv : FloorAlv :=
  computeFloorAlv input.fallbackArea input.openLandRate
    (resolveAssessablePct input.propertyUse none none input.rates.assessableOpts input.gisClass)
    input.rates.propertyTaxPct

/-- The tax of what is built, before open land is charged on its plot. -/
def builtTax : ℚ :=
  (input.fallback.map FloorAlv.propertyTax).getD (input.floors.map input.chargedTax).sum

variable {input}

/-- A built property is billed its built tax. -/
theorem billedTax_of_built (h : input.openLand = false) : input.billedTax = input.builtTax := by
  rw [billedTax, standIn_of_built h, builtTax]

/-- An open plot is billed its plot. -/
theorem billedTax_of_openPlot {alv : FloorAlv} (h : input.openLand = true)
    (hPlot : input.openPlot = some alv) : input.billedTax = alv.propertyTax := by
  rw [billedTax, standIn, if_pos h, hPlot]
  rfl

/-- Open land without a plot to charge is billed as built. -/
theorem billedTax_of_noPlot (h : input.openLand = true) (hPlot : input.openPlot = none) :
    input.billedTax = input.builtTax := by
  rw [billedTax, standIn, if_pos h, hPlot, builtTax]
  rfl

/-- With floor areas, the plot does not stand in. -/
theorem fallback_of_floors (h : input.floorsHaveArea = true) : input.fallback = none := by
  apply if_neg
  rw [h]
  simp

/-- With floor areas, the built tax is that of the floors. -/
theorem builtTax_of_floors (h : input.floorsHaveArea = true) :
    input.builtTax = (input.floors.map input.chargedTax).sum := by
  rw [builtTax, fallback_of_floors h]
  rfl

/-- With floor areas, the billed value is that of the floors. -/
theorem billedAlv_of_floors (h : input.floorsHaveArea = true) : input.billedAlv =
    (input.floors.map fun floor => (input.chargedAlv floor).assessableAlv).sum := by
  rw [billedAlv, fallback_of_floors h]
  rfl

/-- The plot that stands in is measured. -/
theorem IsMeasured.fallbackArea (h : input.IsMeasured) : 0 ≤ input.fallbackArea := by
  unfold SurveyTaxInput.fallbackArea
  dsimp only
  split_ifs
  · exact h.plot
  · exact h.builtUp
  · exact h.plinth

/-- Floors without area are charged nothing. -/
theorem IsMeasured.chargedAlv (h : input.IsMeasured) (hFloors : input.floorsHaveArea = false)
    {floor : ExportTaxFloorInput} (hFloor : floor ∈ input.floors) :
    input.chargedAlv floor = ⟨0, 0, 0⟩ := by
  have hNone : ¬0 < floor.areaSqFt := by
    intro hArea
    rw [floorsHaveArea, List.any_eq_false] at hFloors
    exact hFloors floor hFloor (decide_eq_true hArea)
  have hArea : floor.areaSqFt = 0 := le_antisymm (not_lt.mp hNone) (h.floors floor hFloor)
  unfold SurveyTaxInput.chargedAlv
  split_ifs
  · rfl
  · rw [floorAlv, hArea, computeFloorAlv_zero_area]

/-- Then the plot is charged, at nothing where it has no rate or no area. -/
theorem IsMeasured.builtTax (h : input.IsMeasured) (hRate : 0 ≤ input.openLandRate)
    (hFloors : input.floorsHaveArea = false) :
    input.builtTax = input.plotAlv.propertyTax ∧ input.billedAlv = input.plotAlv.assessableAlv := by
  have hTax : (input.floors.map input.chargedTax).sum = 0 := by
    apply List.sum_eq_zero
    intro tax hTax
    obtain ⟨floor, hFloor, rfl⟩ := List.mem_map.mp hTax
    rw [chargedTax, h.chargedAlv hFloors hFloor]
  have hAlv : (input.floors.map fun floor => (input.chargedAlv floor).assessableAlv).sum = 0 := by
    apply List.sum_eq_zero
    intro alv hAlv
    obtain ⟨floor, hFloor, rfl⟩ := List.mem_map.mp hAlv
    rw [h.chargedAlv hFloors hFloor]
  rw [SurveyTaxInput.builtTax, billedAlv, fallback, plotFallback, hTax, hAlv, plotAlv]
  by_cases hPlot : 0 < input.openLandRate ∧ 0 < input.fallbackArea
  · rw [if_pos ⟨rfl, hFloors, hPlot⟩]
    exact ⟨rfl, rfl⟩
  · rw [if_neg fun hAll => hPlot hAll.2.2]
    obtain hNoRate | hNoArea : input.openLandRate = 0 ∨ input.fallbackArea = 0 := by
      by_contra hBoth
      push Not at hBoth
      exact hPlot ⟨lt_of_le_of_ne hRate hBoth.1.symm,
        lt_of_le_of_ne h.fallbackArea hBoth.2.symm⟩
    · rw [hNoRate, computeFloorAlv_zero_rate]
      exact ⟨rfl, rfl⟩
    · rw [hNoArea, computeFloorAlv_zero_area]
      exact ⟨rfl, rfl⟩

end Plot

section Raised
variable {input : SurveyTaxInput} {rates raised : ExportTaxRateTable}
  (hNonneg : rates.RatesNonneg) (hNonneg' : raised.RatesNonneg) (hPct : rates.HasPercentages)
  (hRaised : rates.IsRaised raised) (hMeasured : input.IsMeasured)

include hPct hRaised hMeasured in
theorem plotAlv_mono (h : rates.plotRate input.zoneCode ≤ raised.plotRate input.zoneCode) :
    (input.withRates rates).plotAlv.LE (input.withRates raised).plotAlv := by
  have hOptions : raised.assessableOpts = rates.assessableOpts := by
    rw [hRaised.same]
    rfl
  have hTax : raised.propertyTaxPct = rates.propertyTaxPct := by rw [hRaised.same]
  change (computeFloorAlv input.fallbackArea (rates.plotRate input.zoneCode)
      (resolveAssessablePct input.propertyUse none none rates.assessableOpts input.gisClass)
      rates.propertyTaxPct).LE
    (computeFloorAlv input.fallbackArea (raised.plotRate input.zoneCode)
      (resolveAssessablePct input.propertyUse none none raised.assessableOpts input.gisClass)
      raised.propertyTaxPct)
  rw [hOptions, hTax]
  exact computeFloorAlv_mono hMeasured.fallbackArea (hPct.assessable _ _ _ _) hPct.property.le h

include hNonneg hNonneg' hPct hRaised hMeasured in
/-- What is built costs no less, by its floors or by its plot. -/
theorem builtTax_mono (h : rates.plotRate input.zoneCode ≤ raised.plotRate input.zoneCode) :
    (input.withRates rates).builtTax ≤ (input.withRates raised).builtTax ∧
      (input.withRates rates).billedAlv ≤ (input.withRates raised).billedAlv := by
  have hCharged : ∀ floor ∈ input.floors,
      ((input.withRates rates).chargedAlv floor).LE ((input.withRates raised).chargedAlv floor) :=
    fun floor hFloor => chargedAlv_mono hNonneg hNonneg' hPct hRaised
      (hMeasured.floors floor hFloor)
  by_cases hFloors : input.floorsHaveArea = true
  · have hFirst : (input.withRates rates).floorsHaveArea = true := hFloors
    have hSecond : (input.withRates raised).floorsHaveArea = true := hFloors
    rw [builtTax_of_floors hFirst, builtTax_of_floors hSecond, billedAlv_of_floors hFirst,
      billedAlv_of_floors hSecond]
    exact ⟨List.sum_le_sum fun floor hFloor => (hCharged floor hFloor).propertyTax,
      List.sum_le_sum fun floor hFloor => (hCharged floor hFloor).assessableAlv⟩
  · have hNone : input.floorsHaveArea = false := Bool.eq_false_of_not_eq_true hFloors
    have hFirst : (input.withRates rates).IsMeasured :=
      ⟨hMeasured.floors, hMeasured.plot, hMeasured.plinth, hMeasured.builtUp⟩
    have hSecond : (input.withRates raised).IsMeasured :=
      ⟨hMeasured.floors, hMeasured.plot, hMeasured.plinth, hMeasured.builtUp⟩
    have hPlot := plotAlv_mono hPct hRaised hMeasured h
    obtain ⟨hTax, hAlv⟩ := hFirst.builtTax (hNonneg.plotRate _) hNone
    obtain ⟨hTax', hAlv'⟩ := hSecond.builtTax (hNonneg'.plotRate _) hNone
    rw [hTax, hTax', hAlv, hAlv']
    exact ⟨hPlot.propertyTax, hPlot.assessableAlv⟩

/-- Where a plot can get its first rate, no floor costs anything. -/
theorem builtTax_eq_zero (hNonneg : rates.RatesNonneg) (hRate : rates.plotRate input.zoneCode = 0)
    (hFree : ∀ constructionCode,
      roundMoney (2 * rates.cell input.zoneCode constructionCode) = 0) :
    (input.withRates rates).builtTax = 0 := by
  have hNoRate : ¬(input.withRates rates).openLandRate > 0 := by
    change ¬rates.plotRate input.zoneCode > 0
    rw [hRate]
    exact lt_irrefl 0
  have hNoPlot : (input.withRates rates).fallback = none :=
    if_neg fun hAll => hNoRate hAll.2.2.1
  rw [builtTax, hNoPlot]
  apply List.sum_eq_zero
  intro tax hTax
  obtain ⟨floor, -, rfl⟩ := List.mem_map.mp hTax
  have hBase : 0 ≤ (input.withRates rates).baseRate floor := hNonneg.cell _ _
  rw [chargedTax, chargedAlv_of_nonneg _ hBase, floorAlv, floorRate_eq_zero hNonneg (hFree _),
    computeFloorAlv_zero_rate]

include hNonneg hNonneg' hPct hRaised hMeasured in
theorem billedTax_mono (h : rates.KeepsPlots raised input.zoneCode) :
    (input.withRates rates).billedTax ≤ (input.withRates raised).billedTax := by
  have hBuilt := (builtTax_mono hNonneg hNonneg' hPct hRaised hMeasured h.rate).1
  have hTax : raised.propertyTaxPct = rates.propertyTaxPct := by rw [hRaised.same]
  by_cases hLand : input.openLand = true
  swap
  · have hFirst : (input.withRates rates).openLand = false := Bool.eq_false_of_not_eq_true hLand
    have hSecond : (input.withRates raised).openLand = false := Bool.eq_false_of_not_eq_true hLand
    rw [billedTax_of_built hFirst, billedTax_of_built hSecond]
    exact hBuilt
  have hFirst : (input.withRates rates).openLand = true := hLand
  have hSecond : (input.withRates raised).openLand = true := hLand
  have hPlotOf : ∀ table : ExportTaxRateTable, 0 < toTaxNumber input.plotAreaSqFt →
      0 < table.plotRate input.zoneCode → (input.withRates table).openPlot =
        some (computeFloorAlv (toTaxNumber input.plotAreaSqFt) (table.plotRate input.zoneCode) 100
          table.propertyTaxPct) := fun table hArea hRate => if_pos ⟨hArea, hRate⟩
  have hNoPlotOf : ∀ table : ExportTaxRateTable,
      ¬(0 < toTaxNumber input.plotAreaSqFt ∧ 0 < table.plotRate input.zoneCode) →
        (input.withRates table).openPlot = none := fun table hNone => if_neg hNone
  by_cases hPlot' : 0 < toTaxNumber input.plotAreaSqFt ∧ 0 < raised.plotRate input.zoneCode
  · rw [billedTax_of_openPlot hSecond (hPlotOf raised hPlot'.1 hPlot'.2), hTax]
    obtain hZero | hRate := (hNonneg.plotRate input.zoneCode).eq_or_lt
    · -- the plot gets its first rate
      have hNone := hNoPlotOf rates fun hPlot => hPlot.2.ne hZero
      rw [billedTax_of_noPlot hFirst hNone,
        builtTax_eq_zero hNonneg hZero.symm (h.first hZero.symm hPlot'.2)]
      exact (computeFloorAlv_nonneg hMeasured.plot (hNonneg'.plotRate _) (by norm_num)
        hPct.property.le).2
    · rw [billedTax_of_openPlot hFirst (hPlotOf rates hPlot'.1 hRate)]
      exact (computeFloorAlv_mono hMeasured.plot (by norm_num) hPct.property.le h.rate).propertyTax
  · have hNone : ¬(0 < toTaxNumber input.plotAreaSqFt ∧ 0 < rates.plotRate input.zoneCode) :=
      fun hPlot => hPlot' ⟨hPlot.1, hPlot.2.trans_le h.rate⟩
    rw [billedTax_of_noPlot hFirst (hNoPlotOf rates hNone),
      billedTax_of_noPlot hSecond (hNoPlotOf raised hPlot')]
    exact hBuilt

end Raised

theorem penaltyOn_mono {tax tax' : ℚ} (h : tax ≤ tax') (penaltyPct : ℚ) :
    penaltyOn tax penaltyPct ≤ penaltyOn tax' penaltyPct := by
  unfold penaltyOn
  split_ifs with hPct
  · apply roundMoney_mono
    gcongr
  · exact le_rfl

variable {input : SurveyTaxInput} {rates raised : ExportTaxRateTable}

/-- A zone that keeps its plots bills no property less. -/
theorem costsNoLess_of_keepsPlots (hNonneg : rates.RatesNonneg) (hNonneg' : raised.RatesNonneg)
    (hPct : rates.HasPercentages) (hRaised : rates.IsRaised raised)
    (hMeasured : input.IsMeasured) (h : rates.KeepsPlots raised input.zoneCode) :
    input.CostsNoLess rates raised := by
  intro result result' hResult hResult'
  have hBilled := billedTax_mono hNonneg hNonneg' hPct hRaised hMeasured h
  have hAlv := (builtTax_mono hNonneg hNonneg' hPct hRaised hMeasured h.rate).2
  have hPenalty := penaltyOn_mono hBilled rates.penaltyPct
  have hSame : raised.penaltyPct = rates.penaltyPct ∧ raised.waterTaxPct = rates.waterTaxPct ∧
      raised.drainageTaxPct = rates.drainageTaxPct := by
    rw [hRaised.same]
    exact ⟨rfl, rfl, rfl⟩
  rw [computeSurveyExportTax_totalDemand hResult, computeSurveyExportTax_totalDemand hResult']
  change (if input.openLand then roundMoney (_ + penaltyOn _ rates.penaltyPct) else
      (computeDemandTotals _ _ rates.waterTaxPct rates.drainageTaxPct rates.penaltyPct true
        true).totalAnnualDemand) ≤
    if input.openLand then roundMoney (_ + penaltyOn _ raised.penaltyPct) else
      (computeDemandTotals _ _ raised.waterTaxPct raised.drainageTaxPct raised.penaltyPct true
        true).totalAnnualDemand
  rw [hSame.1, hSame.2.1, hSame.2.2]
  split_ifs
  · exact roundMoney_mono (add_le_add hBilled hPenalty)
  · have hShare {pct : ℚ} (h : 0 ≤ pct) :
        roundMoney ((input.withRates rates).billedAlv * (pct / 100)) ≤
          roundMoney ((input.withRates raised).billedAlv * (pct / 100)) :=
      roundMoney_mono (mul_le_mul_of_nonneg_right hAlv (div_nonneg h (by norm_num)))
    exact roundMoney_mono (add_le_add (add_le_add (add_le_add hBilled (hShare hPct.water))
      (hShare hPct.drainage)) hPenalty)

/-- On open land a lower tax shows in the total. -/
theorem not_costsNoLess (hZone : input.zoneCode ≠ "") (hLand : input.openLand = true)
    (hRaised : rates.IsRaised raised)
    (h : (input.withRates raised).billedTax < (input.withRates rates).billedTax) :
    ¬input.CostsNoLess rates raised := by
  intro hCosts
  have hPenaltyPct : raised.penaltyPct = rates.penaltyPct := by rw [hRaised.same]
  have hPaise : ∀ tax, InPaise (penaltyOn tax rates.penaltyPct) := by
    intro tax
    unfold penaltyOn
    split_ifs
    · exact inPaise_roundMoney _
    · exact inPaise_zero
  obtain ⟨result, hResult⟩ := exists_computeSurveyExportTax (input.withRates rates) hZone
  obtain ⟨result', hResult'⟩ := exists_computeSurveyExportTax (input.withRates raised) hZone
  have hLe := hCosts result result' hResult hResult'
  have hFirst : (input.withRates rates).openLand = true := hLand
  have hSecond : (input.withRates raised).openLand = true := hLand
  have hSecondPct : (input.withRates raised).rates.penaltyPct = rates.penaltyPct := hPenaltyPct
  have hFirstPct : (input.withRates rates).rates.penaltyPct = rates.penaltyPct := rfl
  rw [computeSurveyExportTax_totalDemand hResult, computeSurveyExportTax_totalDemand hResult',
    if_pos hFirst, if_pos hSecond, hFirstPct, hSecondPct,
    ((inPaise_billedTax _).add (hPaise _)).roundMoney_eq,
    ((inPaise_billedTax _).add (hPaise _)).roundMoney_eq] at hLe
  have hPenalty := penaltyOn_mono h.le rates.penaltyPct
  linarith

/-- A plot of open land without floors. -/
def vacantPlot (zoneCode : String) (plotAreaSqFt : ℚ) (rates : ExportTaxRateTable) :
    SurveyTaxInput where
  taxRateZoneCode := zoneCode
  propertyUse := some "Open plot"
  gisUseCode := none
  surveyId := none
  floors := []
  plotAreaSqFt := some plotAreaSqFt
  plinthAreaSqFt := none
  totalBuiltUpAreaSqFt := none
  rates := rates

/-- A shop standing on it. -/
def shopOnPlot (zoneCode constructionCode : String) (shopAreaSqFt plotAreaSqFt : ℚ)
    (rates : ExportTaxRateTable) : SurveyTaxInput :=
  { vacantPlot zoneCode plotAreaSqFt rates with
    floors := [{
      floorKey := "Ground Floor"
      constructionCode := constructionCode
      usageResidential := false
      areaSqFt := shopAreaSqFt
      usageType := some "Shop"
      usageFactor := none }] }

section Lower
variable {zoneCode : String}

theorem gisClass_vacantPlot (area : ℚ) : (vacantPlot zoneCode area rates).gisClass = none := by
  change resolveSurveyGisUseClass none none = none
  decide

theorem openLand_vacantPlot (area : ℚ) : (vacantPlot zoneCode area rates).openLand = true := by
  have hUse : usageLooksOpenLand
      ((vacantPlot zoneCode area rates).propertyUse.getD "") = true := by
    change usageLooksOpenLand "Open plot" = true
    decide
  rw [openLand, gisClass_vacantPlot, hUse]
  rfl

theorem openLand_shopOnPlot (constructionCode : String) (shopArea area : ℚ) :
    (shopOnPlot zoneCode constructionCode shopArea area rates).openLand = true :=
  @openLand_vacantPlot rates zoneCode area

theorem isMeasured_shopOnPlot {constructionCode : String} {shopArea area : ℚ} (hShop : 0 ≤ shopArea)
    (hArea : 0 ≤ area) : (shopOnPlot zoneCode constructionCode shopArea area rates).IsMeasured where
  floors := by
    intro floor hFloor
    rw [List.mem_singleton.mp hFloor]
    exact hShop
  plot := hArea
  plinth := le_rfl
  builtUp := le_rfl

theorem isMeasured_vacantPlot {area : ℚ} (h : 0 ≤ area) :
    (vacantPlot zoneCode area rates).IsMeasured where
  floors := by
    intro floor hFloor
    exact absurd hFloor List.not_mem_nil
  plot := h
  plinth := le_rfl
  builtUp := le_rfl

/-- A vacant plot is billed at its rate. -/
theorem billedTax_vacantPlot (hTrim : Js.trim zoneCode = zoneCode) (hNonneg : rates.RatesNonneg)
    {area : ℚ} (hArea : 0 < area) : (vacantPlot zoneCode area rates).billedTax =
      (computeFloorAlv area (rates.plotRate zoneCode) 100 rates.propertyTaxPct).propertyTax := by
  have hRate : (vacantPlot zoneCode area rates).openLandRate = rates.plotRate zoneCode := by
    change rates.plotRate (Js.trim zoneCode) = rates.plotRate zoneCode
    rw [hTrim]
  have hLand := @openLand_vacantPlot rates zoneCode area
  obtain hZero | hPos := (hNonneg.plotRate zoneCode).eq_or_lt
  · have hNone : (vacantPlot zoneCode area rates).openPlot = none := by
      apply if_neg
      rw [hRate, ← hZero]
      exact fun hPlot => lt_irrefl 0 hPlot.2
    have hBuilt := (@isMeasured_vacantPlot rates zoneCode area hArea.le).builtTax
      (hRate ▸ hNonneg.plotRate zoneCode) rfl
    rw [billedTax_of_noPlot hLand hNone, hBuilt.1, plotAlv, hRate, ← hZero,
      computeFloorAlv_zero_rate, computeFloorAlv_zero_rate]
  · have hPlot : (vacantPlot zoneCode area rates).openPlot =
        some (computeFloorAlv area (rates.plotRate zoneCode) 100 rates.propertyTaxPct) := by
      rw [openPlot, hRate]
      exact if_pos ⟨hArea, hPos⟩
    exact billedTax_of_openPlot hLand hPlot

/-- A shop on a plot without a rate is billed as a floor. -/
theorem billedTax_shopOnPlot (hTrim : Js.trim zoneCode = zoneCode) (hNonneg : rates.RatesNonneg)
    (hRate : rates.plotRate zoneCode = 0) (constructionCode : String) {shopArea : ℚ}
    (hShop : 0 < shopArea) (area : ℚ) :
    (shopOnPlot zoneCode constructionCode shopArea area rates).billedTax =
      (computeFloorAlv shopArea (roundMoney (2 * rates.cell zoneCode constructionCode))
        rates.commercialAssessablePct rates.propertyTaxPct).propertyTax := by
  let input := shopOnPlot zoneCode constructionCode shopArea area rates
  let shop : ExportTaxFloorInput :=
    { floorKey := "Ground Floor", constructionCode, usageResidential := false,
      areaSqFt := shopArea, usageType := some "Shop", usageFactor := none }
  have hLand : input.openLand = true :=
    openLand_shopOnPlot constructionCode shopArea area
  have hNone : input.openPlot = none := by
    apply if_neg
    change ¬(_ ∧ rates.plotRate (Js.trim zoneCode) > 0)
    rw [hTrim, hRate]
    exact fun hPlot => lt_irrefl 0 hPlot.2
  have hFloors : input.floorsHaveArea = true := by
    change [shop].any _ = true
    rw [List.any_cons, decide_eq_true hShop, Bool.true_or]
  have hBase : input.baseRate shop = rates.cell zoneCode constructionCode := by
    change rates.cell (Js.trim zoneCode) constructionCode = _
    rw [hTrim]
  have hClass : rateGisClass input.gisClass = none := by
    have hNo : input.gisClass = none := @gisClass_vacantPlot rates zoneCode area
    rw [hNo]
    rfl
  have hMult : resolveUsageRateMult shop.usageFactor shop.usageType input.propertyUse none = 2 := by
    change resolveUsageRateMult none (some "Shop") (some "Open plot") none = 2
    decide
  have hCommercial : resolveAssessablePct input.propertyUse shop.usageType shop.usageFactor
      input.rates.assessableOpts none = rates.commercialAssessablePct := by
    have hOpen : usageLooksOpenLand (resolveHeuristicUsageKey shop.usageType shop.usageFactor
        input.propertyUse) = false := by
      change usageLooksOpenLand
        (resolveHeuristicUsageKey (some "Shop") none (some "Open plot")) = false
      decide
    have hShops : usageLooksCommercial (resolveHeuristicUsageKey shop.usageType shop.usageFactor
        input.propertyUse) = true := by
      change usageLooksCommercial
        (resolveHeuristicUsageKey (some "Shop") none (some "Open plot")) = true
      decide
    simp only [resolveAssessablePct, hOpen, hShops, Bool.false_eq_true, if_false, if_true]
    rfl
  have hFloorRate :
      input.floorRate shop = roundMoney (2 * rates.cell zoneCode constructionCode) := by
    rw [floorRate, hBase, hClass, resolveEffectiveMonthlyRate, hMult, mul_comm]
  have hCharged : input.chargedTax shop = (computeFloorAlv shopArea
      (roundMoney (2 * rates.cell zoneCode constructionCode))
      rates.commercialAssessablePct rates.propertyTaxPct).propertyTax := by
    rw [chargedTax, chargedAlv_of_nonneg _ (hBase ▸ hNonneg.cell _ _), floorAlv, hFloorRate, hClass,
      hCommercial]
    rfl
  calc
    input.billedTax = (input.floors.map input.chargedTax).sum := by
      rw [billedTax_of_noPlot hLand hNone, builtTax_of_floors hFloors]
    _ = input.chargedTax shop := List.sum_singleton
    _ = _ := hCharged

/-- A small enough plot is billed nothing, whatever stands on it. -/
theorem exists_plot_free (hTrim : Js.trim zoneCode = zoneCode)
    (hRate : 0 < rates.plotRate zoneCode) :
    ∃ area : ℚ, 0 < area ∧ ∀ constructionCode shopArea,
      (shopOnPlot zoneCode constructionCode shopArea area rates).billedTax = 0 := by
  have hArea : 0 < 1 / (12000 * rates.plotRate zoneCode) := by positivity
  refine ⟨_, hArea, fun constructionCode shopArea => ?_⟩
  let input := shopOnPlot zoneCode constructionCode shopArea
    (1 / (12000 * rates.plotRate zoneCode)) rates
  have hLand : input.openLand = true :=
    openLand_shopOnPlot constructionCode shopArea _
  have hPlot : input.openPlot = some (computeFloorAlv (1 / (12000 * rates.plotRate zoneCode))
      (rates.plotRate zoneCode) 100 rates.propertyTaxPct) := by
    have hOwn : input.openLandRate = rates.plotRate zoneCode := by
      change rates.plotRate (Js.trim zoneCode) = _
      rw [hTrim]
    rw [openPlot, hOwn]
    exact if_pos ⟨hArea, hRate⟩
  have hGross : 1 / (12000 * rates.plotRate zoneCode) * rates.plotRate zoneCode * 12 =
      1 / 1000 := by
    field_simp
    norm_num
  have hNothing : roundMoney (1 / 1000) = 0 := by decide +kernel
  rw [show shopOnPlot zoneCode constructionCode shopArea _ rates = input from rfl,
    billedTax_of_openPlot hLand hPlot]
  simp only [computeFloorAlv, hGross, hNothing, zero_mul, roundMoney_zero]

end Lower

end SurveyTaxInput

/-- Rates raised, every percentage left as it was: no bill of a zone goes down exactly when no plot
of the zone loses its rate, and no plot gets its first rate where a floor costs something. -/
theorem raised_rates_cost_no_less_iff {rates raised : ExportTaxRateTable}
    (hNonneg : rates.RatesNonneg) (hNonneg' : raised.RatesNonneg) (hPct : rates.HasPercentages)
    (hRaised : rates.IsRaised raised) {zoneCode : String} (hTrim : Js.trim zoneCode = zoneCode)
    (hZone : zoneCode ≠ "") :
    (∀ input : SurveyTaxInput, input.IsMeasured → input.zoneCode = zoneCode →
      input.CostsNoLess rates raised) ↔ rates.KeepsPlots raised zoneCode := by
  have hTax : raised.propertyTaxPct = rates.propertyTaxPct := by rw [hRaised.same]
  constructor
  · intro hCosts
    refine ⟨?_, ?_⟩
    · -- a vacant plot shows a lower rate
      by_contra hLower
      obtain ⟨area, hArea, hLess⟩ := exists_area_lt (by norm_num : (0 : ℚ) < 100)
        hPct.property (not_le.mp hLower)
      let plot := SurveyTaxInput.vacantPlot zoneCode area rates
      have hBilled : (plot.withRates raised).billedTax < (plot.withRates rates).billedTax := by
        change (SurveyTaxInput.vacantPlot zoneCode area raised).billedTax <
          (SurveyTaxInput.vacantPlot zoneCode area rates).billedTax
        rw [SurveyTaxInput.billedTax_vacantPlot hTrim hNonneg' hArea,
          SurveyTaxInput.billedTax_vacantPlot hTrim hNonneg hArea, hTax]
        exact hLess
      have hOwn : plot.zoneCode ≠ "" := by
        change Js.trim zoneCode ≠ ""
        rwa [hTrim]
      exact SurveyTaxInput.not_costsNoLess hOwn (SurveyTaxInput.openLand_vacantPlot area) hRaised
        hBilled (hCosts plot (SurveyTaxInput.isMeasured_vacantPlot hArea.le) hTrim)
    · -- a shop is billed as a floor until its plot has a rate
      intro hNoRate hRate constructionCode
      by_contra hCell
      have hPos : 0 < roundMoney (2 * rates.cell zoneCode constructionCode) := by
        have hTwice : 0 ≤ 2 * rates.cell zoneCode constructionCode := by
          have := hNonneg.cell zoneCode constructionCode
          linarith
        exact lt_of_le_of_ne (roundMoney_nonneg_of hTwice) (Ne.symm hCell)
      obtain ⟨shopArea, hShop, hCharged⟩ := exists_area_lt hPct.commercial hPct.property hPos
      obtain ⟨area, hArea, hFree⟩ := SurveyTaxInput.exists_plot_free hTrim hRate
      let shop := SurveyTaxInput.shopOnPlot zoneCode constructionCode shopArea area rates
      have hBilled : (shop.withRates raised).billedTax < (shop.withRates rates).billedTax := by
        change (SurveyTaxInput.shopOnPlot zoneCode _ shopArea area raised).billedTax <
          (SurveyTaxInput.shopOnPlot zoneCode constructionCode shopArea area rates).billedTax
        rw [hFree, SurveyTaxInput.billedTax_shopOnPlot hTrim hNonneg hNoRate _ hShop]
        rw [computeFloorAlv_zero_rate] at hCharged
        exact hCharged
      have hOwn : shop.zoneCode ≠ "" := by
        change Js.trim zoneCode ≠ ""
        rwa [hTrim]
      have hLand : shop.openLand = true :=
        SurveyTaxInput.openLand_shopOnPlot constructionCode shopArea area
      exact SurveyTaxInput.not_costsNoLess hOwn hLand hRaised hBilled
        (hCosts shop (SurveyTaxInput.isMeasured_shopOnPlot hShop.le hArea.le) hTrim)
  · rintro hKeeps input hMeasured rfl
    exact SurveyTaxInput.costsNoLess_of_keepsPlots hNonneg hNonneg' hPct hRaised hMeasured hKeeps

namespace Sample

/-- Open land gets a cell of its own, below the rate its plots had from the other cell. -/
def openLandCell : ExportTaxRateTable :=
  { rateTable with
    rateByZoneAndConstruction := fun key =>
      if key = "BELOW_9M::OPEN_LAND" then some 4 else rateTable.rateByZoneAndConstruction key }

theorem rateTable_ratesNonneg : rateTable.RatesNonneg where
  byConstruction := by
    intro key rate hRate
    change rate ∈ (if key = "BELOW_9M::PAKKA_BUILDING_WITH_RCC_ROOF" then some 10 else
      none) at hRate
    split_ifs at hRate
    · cases hRate
      norm_num
    · cases hRate
  anyRate := by
    intro zone rate hRate
    change rate ∈ (if zone = "BELOW_9M" then some 10 else none) at hRate
    split_ifs at hRate
    · cases hRate
      norm_num
    · cases hRate

theorem openLandCell_ratesNonneg : openLandCell.RatesNonneg where
  byConstruction := by
    intro key rate hRate
    change rate ∈ (if key = "BELOW_9M::OPEN_LAND" then some 4 else
      rateTable.rateByZoneAndConstruction key) at hRate
    split_ifs at hRate
    · cases hRate
      norm_num
    · exact rateTable_ratesNonneg.byConstruction key rate hRate
  anyRate := rateTable_ratesNonneg.anyRate

theorem openLandCell_isRaised : rateTable.IsRaised openLandCell where
  cell := by
    intro zoneCode constructionCode
    have hNonneg := openLandCell_ratesNonneg.cell zoneCode constructionCode
    unfold ExportTaxRateTable.cell at *
    by_cases hOpen : taxRateKey zoneCode constructionCode = "BELOW_9M::OPEN_LAND"
    · have hNone : rateTable.rateByZoneAndConstruction "BELOW_9M::OPEN_LAND" = none := by
        decide
      rw [hOpen] at hNonneg ⊢
      rw [hNone]
      exact hNonneg
    · exact le_of_eq (congrArg (Option.getD · 0) (if_neg hOpen).symm)
  same := rfl

theorem rateTable_hasPercentages : rateTable.HasPercentages where
  residential := by decide
  commercial := by decide
  property := by decide
  water := by decide +kernel
  drainage := by decide +kernel

end Sample

/-- A cell for open land is added and every other kept: some bill goes down. -/
theorem raised_rates_cost_no_less_iff_openLandCell : ¬∀ input : SurveyTaxInput, input.IsMeasured →
    input.zoneCode = "BELOW_9M" → input.CostsNoLess Sample.rateTable Sample.openLandCell := by
  have hTrim : Js.trim "BELOW_9M" = "BELOW_9M" := by decide
  have hIff := raised_rates_cost_no_less_iff Sample.rateTable_ratesNonneg
    Sample.openLandCell_ratesNonneg Sample.rateTable_hasPercentages Sample.openLandCell_isRaised
    hTrim (by decide)
  intro hCosts
  have hLower : ¬Sample.rateTable.plotRate "BELOW_9M" ≤
      Sample.openLandCell.plotRate "BELOW_9M" := by decide
  exact hLower (hIff.mp hCosts).rate

end PropertyTax
