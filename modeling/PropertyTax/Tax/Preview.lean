import PropertyTax.Tax.FloorTotals

/-! The preview of the rate screen against the bill. A preview prices one unit of
area by a calculation of its own; the bill of the property made of that unit
comes to the same, but for open land, where only the preview rounds the rate. -/
namespace PropertyTax

namespace GisPreviewInput
variable (preview : GisPreviewInput)

/-- A code that stands for no class previews as residential. -/
def unitClass : GisUseClass := (classifyGisUseCode preview.gisUseCode).getD .residential

/-- The tax of a plot of the previewed area at some rate. -/
def plotTaxAt (areaSqFt rate : ℚ) : ℚ :=
  (computeFloorAlv areaSqFt rate 100 preview.propertyTaxPct).propertyTax

/-- An open plot is taxed the same at its rate as at the rate in paise. -/
def PlotRateKept : Prop :=
  preview.unitClass = .openLand →
    preview.plotTaxAt preview.areaSqFt (roundMoney preview.baseMonthlyRate) =
      preview.plotTaxAt (max 0 preview.areaSqFt) preview.baseMonthlyRate

/-- The property that consists of the previewed unit alone: a residential floor,
or the plot when the class is open land. -/
structure IsUnit (property : SurveyTaxInput) : Prop where
  gisClass : property.gisClass = classifyGisUseCode preview.gisUseCode
  propertyUse : property.propertyUse = none
  assessablePct : property.rates.assessablePct = preview.assessablePct
  commercialAssessablePct :
    property.rates.commercialAssessablePct = preview.commercialAssessablePct
  propertyTaxPct : property.rates.propertyTaxPct = preview.propertyTaxPct
  waterTaxPct : property.rates.waterTaxPct = preview.waterTaxPct
  drainageTaxPct : property.rates.drainageTaxPct = preview.drainageTaxPct
  penaltyPct : property.rates.penaltyPct = preview.penaltyPct
  plinthAreaSqFt : property.plinthAreaSqFt = none
  totalBuiltUpAreaSqFt : property.totalBuiltUpAreaSqFt = none
  floor : preview.unitClass ≠ .openLand → property.plotAreaSqFt = none ∧
    ∃ floor, property.floors = [floor] ∧ floor.areaSqFt = preview.areaSqFt ∧
      floor.usageType = some "Residential" ∧
      property.baseRate floor = preview.baseMonthlyRate
  plot : preview.unitClass = .openLand → property.floors = [] ∧
    property.plotAreaSqFt = some preview.areaSqFt ∧
    property.rates.rateByZoneAndConstruction (taxRateKey property.zoneCode "OPEN_LAND") =
      some preview.baseMonthlyRate

end GisPreviewInput

/-- The demand of open land: its tax and the penalty on it. -/
def withPenalty (penaltyPct propertyTax : ℚ) : ℚ :=
  roundMoney (propertyTax + penaltyOn propertyTax penaltyPct)

theorem withPenalty_injective {penaltyPct x y : ℚ} (hx : InPaise x) (hy : InPaise y)
    (h : withPenalty penaltyPct x = withPenalty penaltyPct y) : x = y := by
  have hPenalty : ∀ z, InPaise (penaltyOn z penaltyPct) := by
    intro z
    unfold penaltyOn
    split_ifs
    · exact inPaise_roundMoney _
    · exact inPaise_zero
  have hMono : ∀ {z w : ℚ}, z ≤ w → penaltyOn z penaltyPct ≤ penaltyOn w penaltyPct := by
    intro z w hLe
    unfold penaltyOn
    split_ifs with hPct
    · exact roundMoney_mono (mul_le_mul_of_nonneg_right hLe (by positivity))
    · exact le_rfl
  rw [withPenalty, withPenalty, (hx.add (hPenalty x)).roundMoney_eq,
    (hy.add (hPenalty y)).roundMoney_eq] at h
  obtain hLt | hEq | hLt := lt_trichotomy x y
  · linarith [hMono hLt.le]
  · exact hEq
  · linarith [hMono hLt.le]

/-- A residential usage is found as such. -/
theorem resolveHeuristicUsageKey_residential (usageFactor propertyUse : Option String) :
    resolveHeuristicUsageKey (some "Residential") usageFactor propertyUse = "residential" := by
  have hTrim : Js.trim ((some "Residential").getD "") = "Residential" := by decide
  have hLower : Js.toLowerCase "Residential" = "residential" := by decide
  rw [resolveHeuristicUsageKey, hTrim, hLower]
  rfl

section Unit
variable (preview : GisPreviewInput) {property : SurveyTaxInput}

/-- A preview has the class of its unit. -/
theorem computeGisPreviewDemand_gisClass :
    (computeGisPreviewDemand preview).gisClass = preview.unitClass := by
  simp only [computeGisPreviewDemand, GisPreviewInput.unitClass]
  cases preview.gisUseCode with
  | none => decide
  | some code => rfl

/-- A preview's demand is the total on its value and tax. -/
theorem computeGisPreviewDemand_demand : (computeGisPreviewDemand preview).demand =
    (computeDemandTotals (computeGisPreviewDemand preview).alv.assessableAlv
      (computeGisPreviewDemand preview).alv.propertyTax preview.waterTaxPct
      preview.drainageTaxPct preview.penaltyPct (decide (preview.unitClass ≠ .openLand))
      (decide (preview.unitClass ≠ .openLand))).totalAnnualDemand := by
  rw [← computeGisPreviewDemand_gisClass]
  simp only [computeGisPreviewDemand, ne_eq, decide_not]

/-- A preview's value is that of one floor at its rate. -/
theorem computeGisPreviewDemand_alv : (computeGisPreviewDemand preview).alv =
    computeFloorAlv preview.areaSqFt
      (resolveEffectiveMonthlyRate preview.baseMonthlyRate none none none
        (rateGisClass (some preview.unitClass)))
      (resolveAssessablePct none none none
        ⟨preview.assessablePct, preview.commercialAssessablePct⟩
        (rateGisClass (some preview.unitClass)))
      preview.propertyTaxPct := by
  rw [← computeGisPreviewDemand_gisClass]
  simp only [computeGisPreviewDemand]

variable {preview}

/-- Open land is previewed at the plot's tax. -/
theorem computeGisPreviewDemand_plot (h : preview.unitClass = .openLand) :
    (computeGisPreviewDemand preview).alv.propertyTax =
      preview.plotTaxAt preview.areaSqFt (roundMoney preview.baseMonthlyRate) := by
  rw [computeGisPreviewDemand_alv, h, GisPreviewInput.plotTaxAt]
  simp [rateGisClass, resolveEffectiveMonthlyRate, resolveUsageRateMult, resolveAssessablePct]

variable (preview) in
/-- A built unit is previewed at the rate and the share its floor is billed at. -/
theorem floor_priced_as_previewed (usageFactor : Option String)
    (options : AssessablePctOptions) :
    resolveUsageRateMult none none none (rateGisClass (some preview.unitClass)) =
        resolveUsageRateMult usageFactor (some "Residential") none
          (rateGisClass (classifyGisUseCode preview.gisUseCode)) ∧
      resolveAssessablePct none none none options (rateGisClass (some preview.unitClass)) =
        resolveAssessablePct none (some "Residential") usageFactor options
          (rateGisClass (classifyGisUseCode preview.gisUseCode)) := by
  have hFloor := resolveHeuristicUsageKey_residential usageFactor none
  have hNone : resolveHeuristicUsageKey none none none = "" := by decide
  have hOpen : usageLooksOpenLand "residential" = false ∧ usageLooksOpenLand "" = false := by
    decide
  have hShop : usageLooksCommercial "residential" = false ∧ usageLooksCommercial "" = false := by
    decide
  unfold GisPreviewInput.unitClass
  cases hClass : classifyGisUseCode preview.gisUseCode with
  | none => simp [rateGisClass, resolveUsageRateMult, resolveAssessablePct, hFloor, hOpen, hShop]
  | some gisClass =>
      cases gisClass <;>
        simp [rateGisClass, resolveUsageRateMult, resolveAssessablePct, hFloor, hNone, hOpen,
          hShop]

variable (hUnit : preview.IsUnit property)
include hUnit

/-- A property of one unit is open land when the unit is. -/
theorem openLand_of_isUnit : property.openLand = decide (preview.unitClass = .openLand) := by
  have hEmpty : usageLooksOpenLand "" = false := by decide
  rw [SurveyTaxInput.openLand, hUnit.gisClass, hUnit.propertyUse, GisPreviewInput.unitClass]
  cases classifyGisUseCode preview.gisUseCode with
  | none => simp [hEmpty]
  | some gisClass => simp

/-- An open plot is billed at the unrounded rate, if it has an area. -/
theorem billedTax_of_plot (hRate : 0 ≤ preview.baseMonthlyRate)
    (hClass : preview.unitClass = .openLand) :
    property.billedTax =
      preview.plotTaxAt (max 0 preview.areaSqFt) preview.baseMonthlyRate := by
  obtain ⟨hFloors, hArea, hOpenRate⟩ := hUnit.plot hClass
  have hLandRate : property.openLandRate = preview.baseMonthlyRate := by
    rw [SurveyTaxInput.openLandRate, hOpenRate]
    rfl
  have hPlot : toTaxNumber property.plotAreaSqFt = preview.areaSqFt := by
    rw [hArea]
    rfl
  have hLand : property.openLand = true := by rw [openLand_of_isUnit hUnit, hClass]; rfl
  rw [SurveyTaxInput.billedTax, SurveyTaxInput.standIn, if_pos hLand, SurveyTaxInput.openPlot,
    hPlot, hLandRate, hUnit.propertyTaxPct]
  by_cases hCharged : preview.areaSqFt > 0 ∧ preview.baseMonthlyRate > 0
  · rw [if_pos hCharged, max_eq_right hCharged.1.le]
    rfl
  · have hFallback : property.fallback = none := by
      have hFallbackArea : property.fallbackArea = preview.areaSqFt := by
        have hZero : toTaxNumber none = 0 := rfl
        rw [SurveyTaxInput.fallbackArea, hPlot, hUnit.plinthAreaSqFt, hUnit.totalBuiltUpAreaSqFt,
          hZero]
        split_ifs with h
        · rfl
        · exact absurd rfl (by assumption)
        · exact (not_not.mp h).symm
      rw [SurveyTaxInput.fallback, SurveyTaxInput.plotFallback, hLandRate, hFallbackArea]
      exact if_neg fun h => hCharged ⟨h.2.2.2, h.2.2.1⟩
    rw [if_neg hCharged, hFallback, hFloors, GisPreviewInput.plotTaxAt]
    obtain hArea | hArea := le_or_gt preview.areaSqFt 0
    · rw [max_eq_left hArea, computeFloorAlv_zero_area]
      rfl
    · rw [le_antisymm (not_lt.mp fun h => hCharged ⟨hArea, h⟩) hRate, computeFloorAlv_zero_rate]
      rfl

/-- A built unit is billed what its floor is charged. -/
theorem billed_of_floor (hRate : 0 ≤ preview.baseMonthlyRate)
    (hClass : preview.unitClass ≠ .openLand) :
    property.billedTax = (computeGisPreviewDemand preview).alv.propertyTax ∧
      property.billedAlv = (computeGisPreviewDemand preview).alv.assessableAlv := by
  obtain ⟨hArea, floor, hFloors, hFloorArea, hUsage, hBase⟩ := hUnit.floor hClass
  have hFallback : property.fallback = none := by
    rw [SurveyTaxInput.fallback, SurveyTaxInput.plotFallback]
    refine if_neg fun h => absurd h.2.2.2 ?_
    simp [SurveyTaxInput.fallbackArea, hArea, hUnit.plinthAreaSqFt, hUnit.totalBuiltUpAreaSqFt,
      toTaxNumber]
  have hLand : property.openLand = false := by
    rw [openLand_of_isUnit hUnit, decide_eq_false hClass]
  have hAlv : property.chargedAlv floor = (computeGisPreviewDemand preview).alv := by
    have hOpts : property.rates.assessableOpts =
        ⟨preview.assessablePct, preview.commercialAssessablePct⟩ := by
      rw [ExportTaxRateTable.assessableOpts, hUnit.assessablePct, hUnit.commercialAssessablePct]
    obtain ⟨hMult, hPct⟩ := floor_priced_as_previewed preview floor.usageFactor
      property.rates.assessableOpts
    rw [property.chargedAlv_of_nonneg (hBase.symm ▸ hRate), SurveyTaxInput.floorAlv,
      SurveyTaxInput.floorRate, hBase, hFloorArea, hUsage, hUnit.propertyUse, hUnit.gisClass,
      hUnit.propertyTaxPct, computeGisPreviewDemand_alv, resolveEffectiveMonthlyRate,
      resolveEffectiveMonthlyRate, ← hMult, ← hPct, hOpts]
  unfold SurveyTaxInput.billedTax SurveyTaxInput.billedAlv SurveyTaxInput.standIn
  rw [hLand, if_neg Bool.false_ne_true, hFallback, hFloors]
  simp [SurveyTaxInput.chargedTax, hAlv]

/-- The preview agrees with the bill of the unit exactly when rounding the rate
of an open plot does not move its tax. -/
theorem preview_demand_eq_iff {result : SurveyExportTax} (hRate : 0 ≤ preview.baseMonthlyRate)
    (hResult : computeSurveyExportTax property = .ok result) :
    (computeGisPreviewDemand preview).demand = result.totalDemand ↔ preview.PlotRateKept := by
  rw [computeSurveyExportTax_totalDemand hResult, openLand_of_isUnit hUnit, hUnit.waterTaxPct,
    hUnit.drainageTaxPct, hUnit.penaltyPct]
  by_cases hClass : preview.unitClass = .openLand
  · have hDemand : (computeGisPreviewDemand preview).demand = withPenalty preview.penaltyPct
        (preview.plotTaxAt preview.areaSqFt (roundMoney preview.baseMonthlyRate)) := by
      rw [computeGisPreviewDemand_demand, hClass, computeGisPreviewDemand_plot hClass]
      simp [computeDemandTotals, withPenalty]
    rw [if_pos (decide_eq_true hClass), billedTax_of_plot hUnit hRate hClass, hDemand]
    constructor
    · intro h _
      exact withPenalty_injective (inPaise_propertyTax _ _ _ _) (inPaise_propertyTax _ _ _ _) h
    · intro h
      rw [h hClass]
      rfl
  · obtain ⟨hTax, hAlv⟩ := billed_of_floor hUnit hRate hClass
    rw [if_neg (by simp [hClass]), hTax, hAlv, computeGisPreviewDemand_demand,
      decide_eq_true hClass]
    exact ⟨fun _ h => absurd h hClass, fun _ => rfl⟩

end Unit

namespace Sample

def unitPreview (gisUseCode : String) (rate : ℚ) : GisPreviewInput where
  areaSqFt := 100
  baseMonthlyRate := rate
  gisUseCode := some gisUseCode
  assessablePct := 80
  commercialAssessablePct := 80
  propertyTaxPct := 10
  waterTaxPct := 15 / 2
  drainageTaxPct := 5 / 2
  penaltyPct := 0

/-- An open plot at a rate of four decimals. -/
def openPlot : SurveyTaxInput :=
  { house [] with
    gisUseCode := some "P"
    plotAreaSqFt := some 100
    rates := { rateTable with
      rateByZoneAndConstruction := fun key =>
        if key = "BELOW_9M::OPEN_LAND" then some (12345 / 10000) else none } }

end Sample

/-- A plot of 100 square feet at 1.2345 is billed 148.14 and previewed 147.60. -/
theorem preview_misses_plot_rate : ¬ ∀ (preview : GisPreviewInput) (property : SurveyTaxInput)
    (result : SurveyExportTax), 0 ≤ preview.baseMonthlyRate → preview.IsUnit property →
    computeSurveyExportTax property = .ok result →
      (computeGisPreviewDemand preview).demand = result.totalDemand := by
  intro hLaw
  obtain ⟨result, hResult⟩ := exists_computeSurveyExportTax Sample.openPlot (by decide)
  have hDemand := hLaw (Sample.unitPreview "P" (12345 / 10000)) Sample.openPlot result
    (by decide +kernel)
    { gisClass := by decide
      propertyUse := rfl, assessablePct := rfl, commercialAssessablePct := rfl
      propertyTaxPct := rfl, waterTaxPct := rfl, drainageTaxPct := rfl, penaltyPct := rfl
      plinthAreaSqFt := rfl, totalBuiltUpAreaSqFt := rfl
      floor := fun h => absurd (by decide) h
      plot := fun _ => ⟨rfl, rfl, by decide +kernel⟩ } hResult
  rw [computeSurveyExportTax_totalDemand hResult] at hDemand
  exact absurd hDemand (by decide +kernel)

namespace Sample

/-- A house of one floor, under some GIS use code. -/
def houseOf (gisUseCode : String) : SurveyTaxInput :=
  { house [rccFloor "Ground Floor"] with gisUseCode := some gisUseCode }

end Sample

/-- The same floor is previewed as it is billed, at the residential and at the doubled rate. -/
theorem preview_demand_eq_iff_both :
    (∃ result, computeSurveyExportTax (Sample.houseOf "R") = .ok result ∧ 0 < result.totalDemand ∧
      (computeGisPreviewDemand (Sample.unitPreview "R" 10)).demand = result.totalDemand) ∧
    (∃ result, computeSurveyExportTax (Sample.houseOf "C") = .ok result ∧ 0 < result.totalDemand ∧
      (computeGisPreviewDemand (Sample.unitPreview "C" 10)).demand = result.totalDemand) := by
  have hPreviewed : ∀ code, code = "R" ∨ code = "C" → ∃ result,
      computeSurveyExportTax (Sample.houseOf code) = .ok result ∧ 0 < result.totalDemand ∧
        (computeGisPreviewDemand (Sample.unitPreview code 10)).demand = result.totalDemand := by
    intro code hCode
    have hZone : (Sample.house []).zoneCode ≠ "" := by decide
    obtain ⟨result, hResult⟩ := exists_computeSurveyExportTax (Sample.houseOf code) hZone
    have hBuilt : (Sample.unitPreview code 10).unitClass ≠ .openLand := by
      rcases hCode with rfl | rfl <;> decide
    have hPositive : 0 < (computeGisPreviewDemand (Sample.unitPreview code 10)).demand := by
      rcases hCode with rfl | rfl <;> decide +kernel
    have hUnit : (Sample.unitPreview code 10).IsUnit (Sample.houseOf code) :=
      { gisClass := by rcases hCode with rfl | rfl <;> decide
        propertyUse := rfl, assessablePct := rfl, commercialAssessablePct := rfl
        propertyTaxPct := rfl, waterTaxPct := rfl, drainageTaxPct := rfl, penaltyPct := rfl
        plinthAreaSqFt := rfl, totalBuiltUpAreaSqFt := rfl
        floor := fun _ => ⟨rfl, _, rfl, rfl, rfl, by
          rcases hCode with rfl | rfl <;> decide⟩
        plot := fun h => absurd h hBuilt }
    have hRate : (0 : ℚ) ≤ 10 := by decide
    have hDemand := (preview_demand_eq_iff hUnit hRate hResult).mpr fun h => absurd h hBuilt
    exact ⟨result, hResult, hDemand ▸ hPositive, hDemand⟩
  exact ⟨hPreviewed "R" (.inl rfl), hPreviewed "C" (.inr rfl)⟩

end PropertyTax
