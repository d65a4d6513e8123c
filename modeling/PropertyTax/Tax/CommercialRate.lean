import PropertyTax.Tax.FloorTotals

/-! A commercial property against a residential one at rates twice as high. The
floors of both come to the same; the plot that stands in for missing floors is
charged at the published rate, whatever the class. -/
namespace PropertyTax

/-- The table whose rates are all doubled. -/
def ExportTaxRateTable.doubled (rates : ExportTaxRateTable) : ExportTaxRateTable :=
  { rates with
    rateByZoneAndConstruction := fun key =>
      (rates.rateByZoneAndConstruction key).map fun rate => 2 * rate
    anyRateByZone := fun zone => (rates.anyRateByZone zone).map fun rate => 2 * rate }

namespace SurveyTaxInput
variable (input : SurveyTaxInput)

def withCode (gisUseCode : Option String) : SurveyTaxInput := { input with gisUseCode }

def atDoubledRates : SurveyTaxInput := { input with rates := input.rates.doubled }

/-- The plot in place of the floors, charged at twice its rate. -/
def doubledPlot : FloorAlv :=
  computeFloorAlv input.fallbackArea (2 * input.openLandRate) input.rates.assessablePct
    input.rates.propertyTaxPct

/-- No plot stands in for the floors, or it is taxed at twice its rate as at its
rate. -/
def PlotTaxedAlike : Prop :=
  ∀ alv ∈ input.fallback, alv.propertyTax = input.doubledPlot.propertyTax ∧
    ∀ pct ∈ [input.rates.waterTaxPct, input.rates.drainageTaxPct],
      roundMoney (alv.assessableAlv * (pct / 100)) =
        roundMoney (input.doubledPlot.assessableAlv * (pct / 100))

end SurveyTaxInput

section Doubled
variable {input : SurveyTaxInput} {commercial residential : Option String}
  (hCommercial : classifyGisUseCode commercial = some .commercial)
  (hResidential : classifyGisUseCode residential = some .residential)
  (hPct : input.rates.commercialAssessablePct = input.rates.assessablePct)

include hCommercial in
/-- With the commercial code, the class is commercial. -/
theorem gisClass_withCode_commercial : (input.withCode commercial).gisClass = some .commercial := by
  change (classifyGisUseCode commercial <|> _) = _
  rw [hCommercial]
  rfl

include hResidential in
/-- With the residential code, the class is residential. -/
theorem gisClass_withCode_residential :
    (input.withCode residential).atDoubledRates.gisClass = some .residential := by
  change (classifyGisUseCode residential <|> _) = _
  rw [hResidential]
  rfl

/-- At doubled rates, every floor has twice its rate. -/
theorem baseRate_atDoubledRates (floor : ExportTaxFloorInput) :
    input.atDoubledRates.baseRate floor = 2 * input.baseRate floor := by
  change ((input.rates.rateByZoneAndConstruction
      (taxRateKey input.zoneCode floor.constructionCode)).map _).getD 0 =
    2 * (input.rates.rateByZoneAndConstruction
      (taxRateKey input.zoneCode floor.constructionCode)).getD 0
  cases input.rates.rateByZoneAndConstruction
    (taxRateKey input.zoneCode floor.constructionCode) with
  | none => exact (mul_zero 2).symm
  | some rate => rfl

/-- At doubled rates, open land has twice its rate. -/
theorem openLandRate_atDoubledRates :
    input.atDoubledRates.openLandRate = 2 * input.openLandRate := by
  change ((input.rates.rateByZoneAndConstruction (taxRateKey input.zoneCode "OPEN_LAND")).map _ <|>
      (input.rates.anyRateByZone input.zoneCode).map _).getD 0 =
    2 * (input.rates.rateByZoneAndConstruction (taxRateKey input.zoneCode "OPEN_LAND") <|>
      input.rates.anyRateByZone input.zoneCode).getD 0
  cases input.rates.rateByZoneAndConstruction (taxRateKey input.zoneCode "OPEN_LAND") with
  | some rate => rfl
  | none =>
      cases input.rates.anyRateByZone input.zoneCode with
      | none => exact (mul_zero 2).symm
      | some rate => rfl

include hCommercial hResidential hPct

/-- Every floor is charged the same. -/
theorem chargedAlv_commercial (floor : ExportTaxFloorInput) :
    (input.withCode commercial).chargedAlv floor =
      (input.withCode residential).atDoubledRates.chargedAlv floor := by
  have hBase : (input.withCode residential).atDoubledRates.baseRate floor =
      2 * (input.withCode commercial).baseRate floor := baseRate_atDoubledRates floor
  have hSkipped : (input.withCode residential).atDoubledRates.baseRate floor ≤ 0 ↔
      (input.withCode commercial).baseRate floor ≤ 0 := by
    rw [hBase]
    constructor <;> intro h <;> linarith
  have hRate : (input.withCode commercial).floorRate floor =
      (input.withCode residential).atDoubledRates.floorRate floor := by
    rw [SurveyTaxInput.floorRate, SurveyTaxInput.floorRate, hBase,
      gisClass_withCode_commercial hCommercial, gisClass_withCode_residential hResidential]
    simp only [resolveEffectiveMonthlyRate, resolveUsageRateMult, rateGisClass, reduceCtorEq,
      Option.some.injEq, if_false, mul_one]
    rw [mul_comm]
  have hAlv : (input.withCode commercial).floorAlv floor =
      (input.withCode residential).atDoubledRates.floorAlv floor := by
    rw [SurveyTaxInput.floorAlv, SurveyTaxInput.floorAlv, hRate,
      gisClass_withCode_commercial hCommercial, gisClass_withCode_residential hResidential]
    change computeFloorAlv _ _ input.rates.commercialAssessablePct _ =
      computeFloorAlv _ _ input.rates.assessablePct _
    rw [hPct]
    rfl
  unfold SurveyTaxInput.chargedAlv
  simp only [hSkipped, hAlv]

/-- Where the commercial plot stands in, the residential one at doubled rates does, charged the
doubled plot. -/
theorem fallback_commercial :
    (input.withCode residential).atDoubledRates.fallback =
      (input.withCode commercial).fallback.map fun _ =>
        (input.withCode commercial).doubledPlot := by
  have hRate : (input.withCode residential).atDoubledRates.openLandRate =
      2 * (input.withCode commercial).openLandRate := openLandRate_atDoubledRates
  have hPositive : (input.withCode residential).atDoubledRates.openLandRate > 0 ↔
      (input.withCode commercial).openLandRate > 0 := by
    rw [hRate]
    constructor <;> intro h <;> linarith
  have hAlv : (input.withCode residential).atDoubledRates.floors.map
      (fun floor => ((input.withCode residential).atDoubledRates.chargedAlv floor).assessableAlv) =
      (input.withCode commercial).floors.map
        fun floor => ((input.withCode commercial).chargedAlv floor).assessableAlv := by
    refine List.map_congr_left fun floor _ => ?_
    rw [chargedAlv_commercial hCommercial hResidential hPct]
  have hSame : ∀ alv : ℚ,
      (alv = 0 ∧ (input.withCode residential).atDoubledRates.floorsHaveArea = false ∧
        (input.withCode residential).atDoubledRates.openLandRate > 0 ∧
        (input.withCode residential).atDoubledRates.fallbackArea > 0) ↔
      (alv = 0 ∧ (input.withCode commercial).floorsHaveArea = false ∧
        (input.withCode commercial).openLandRate > 0 ∧
        (input.withCode commercial).fallbackArea > 0) := by
    intro alv
    rw [hPositive]
    exact Iff.rfl
  unfold SurveyTaxInput.fallback SurveyTaxInput.plotFallback
  rw [hAlv]
  simp only [hSame]
  split_ifs
  · rw [Option.map_some, hRate, gisClass_withCode_residential hResidential]
    rfl
  · rfl

/-- What is billed at doubled rates differs in the plot that stands in alone. -/
theorem billed_residential :
    (input.withCode residential).atDoubledRates.billedTax =
        ((input.withCode commercial).fallback.map fun _ =>
          (input.withCode commercial).doubledPlot.propertyTax).getD
            ((input.withCode commercial).floors.map (input.withCode commercial).chargedTax).sum ∧
      (input.withCode residential).atDoubledRates.billedAlv =
        ((input.withCode commercial).fallback.map fun _ =>
          (input.withCode commercial).doubledPlot.assessableAlv).getD
            ((input.withCode commercial).floors.map fun floor =>
              ((input.withCode commercial).chargedAlv floor).assessableAlv).sum := by
  have hBuilt : (input.withCode residential).atDoubledRates.openLand = false := by
    rw [SurveyTaxInput.openLand, gisClass_withCode_residential hResidential]
    rfl
  have hCharged : (input.withCode residential).atDoubledRates.chargedAlv =
      (input.withCode commercial).chargedAlv :=
    funext fun floor => (chargedAlv_commercial hCommercial hResidential hPct floor).symm
  have hFloors : (input.withCode residential).atDoubledRates.floors =
      (input.withCode commercial).floors := rfl
  have hTax : (input.withCode residential).atDoubledRates.chargedTax =
      (input.withCode commercial).chargedTax := by
    funext floor
    rw [SurveyTaxInput.chargedTax, SurveyTaxInput.chargedTax, hCharged]
  rw [SurveyTaxInput.billedTax, SurveyTaxInput.billedAlv, standIn_of_built hBuilt,
    fallback_commercial hCommercial hResidential hPct, hFloors, hTax, hCharged, Option.map_map,
    Option.map_map]
  exact ⟨rfl, rfl⟩

/-- A commercial bill is the residential bill at doubled rates exactly when no
plot is taxed in place of the floors at the published rate alone. -/
theorem commercial_doubles_iff :
    (computeSurveyExportTax (input.withCode commercial)).map SurveyExportTax.summary =
        (computeSurveyExportTax (input.withCode residential).atDoubledRates).map
          SurveyExportTax.summary ↔
      input.zoneCode = "" ∨ (input.withCode commercial).PlotTaxedAlike := by
  by_cases hZone : input.zoneCode = ""
  · have hBlank : (input.withCode commercial).zoneCode = "" := hZone
    have hBlank' : (input.withCode residential).atDoubledRates.zoneCode = "" := hZone
    rw [computeSurveyExportTax, computeSurveyExportTax, if_pos hBlank, if_pos hBlank']
    exact ⟨fun _ => .inl hZone, fun _ => rfl⟩
  have hBuilt : (input.withCode commercial).openLand = false := by
    rw [SurveyTaxInput.openLand, gisClass_withCode_commercial hCommercial]
    rfl
  have hBuilt' : (input.withCode residential).atDoubledRates.openLand = false := by
    rw [SurveyTaxInput.openLand, gisClass_withCode_residential hResidential]
    rfl
  have hRates : ∀ tax alv,
      (input.withCode residential).atDoubledRates.rates.summaryOf false tax alv =
        (input.withCode commercial).rates.summaryOf false tax alv := fun _ _ => rfl
  have hC := computeSurveyExportTax_summary (input.withCode commercial) hZone
  have hR := computeSurveyExportTax_summary (input.withCode residential).atDoubledRates hZone
  obtain ⟨hTax, hAlv⟩ := billed_residential hCommercial hResidential hPct
  have hTax' : (input.withCode commercial).billedTax =
      ((input.withCode commercial).fallback.map FloorAlv.propertyTax).getD
        ((input.withCode commercial).floors.map (input.withCode commercial).chargedTax).sum := by
    rw [SurveyTaxInput.billedTax, standIn_of_built hBuilt]
  rw [hC, hR, Except.ok.injEq, hBuilt, hBuilt', hRates, summaryOf_eq_iff, hTax, hAlv, hTax',
    SurveyTaxInput.billedAlv, or_iff_right hZone, SurveyTaxInput.PlotTaxedAlike]
  simp only [true_imp_iff]
  generalize (input.withCode commercial).fallback = plot
  cases plot with
  | none =>
      simp only [Option.map_none, Option.getD_none, Option.not_mem_none, false_imp_iff,
        implies_true, and_self]
  | some alv =>
      simp only [Option.map_some, Option.getD_some, Option.mem_some_iff, forall_eq']

end Doubled

namespace Sample

/-- A plot of 100 square feet, without floors. -/
def shopPlot : SurveyTaxInput := { house [] with plotAreaSqFt := some 100 }

end Sample

/-- A shop plot is billed at the published rate, not at twice the rate. -/
theorem commercial_plot_not_doubled :
    ¬ ∀ (input : SurveyTaxInput) (commercial residential : Option String),
      classifyGisUseCode commercial = some .commercial →
      classifyGisUseCode residential = some .residential →
      input.rates.commercialAssessablePct = input.rates.assessablePct →
        (computeSurveyExportTax (input.withCode commercial)).map SurveyExportTax.summary =
          (computeSurveyExportTax (input.withCode residential).atDoubledRates).map
            SurveyExportTax.summary := by
  intro hLaw
  have hSame := hLaw Sample.shopPlot (some "C") (some "R") (by decide) (by decide)
    rfl
  exact absurd hSame (by decide +kernel)

/-- A shop of one floor is billed at twice the rate. -/
theorem commercial_doubles_iff_floor :
    (computeSurveyExportTax ((Sample.house [Sample.rccFloor "Ground Floor"]).withCode
        (some "C"))).map SurveyExportTax.summary =
      (computeSurveyExportTax ((Sample.house [Sample.rccFloor "Ground Floor"]).withCode
        (some "R")).atDoubledRates).map SurveyExportTax.summary := by
  refine (commercial_doubles_iff (by decide) (by decide) rfl).mpr (.inr ?_)
  have hNone : ((Sample.house [Sample.rccFloor "Ground Floor"]).withCode (some "C")).fallback =
      none := Option.isNone_iff_eq_none.mp (by decide +kernel)
  intro alv hAlv
  simp [hNone] at hAlv

end PropertyTax
