import Mathlib.Data.List.Nodup
import PropertyTax.Library.LastWrite
import PropertyTax.PublicPropertyTax.Notice

/-! The bill of a survey when the cells of its configuration are loaded in
another order. The rate of a floor is looked up by its key; a plot whose zone has
no rate for open land is charged at the first positive rate of the zone. -/
namespace PropertyTax

/-- The zone and the construction a cell of the matrix is for. -/
def TaxRateCell.key (cell : TaxRateCell) : String × String :=
  (cell.roadWidthCode, cell.constructionCode)

def TaxConfig.withCells (config : TaxConfig) (cells : List TaxRateCell) : TaxConfig :=
  { config with cells }

/-! ### The rate table -/

/-- A key names its zone and construction, when neither of them has a colon. -/
theorem taxRateKey_eq_iff {zone code zone' code' : String} (hZone : ':' ∉ zone.toList)
    (hCode : ':' ∉ code.toList) :
    taxRateKey zone' code' = taxRateKey zone code ↔ zone' = zone ∧ code' = code := by
  constructor
  · intro h
    have hLists : zone'.toList ++ ':' :: (':' :: code'.toList) =
        zone.toList ++ ':' :: (':' :: code.toList) := by
      simpa [taxRateKey] using congrArg String.toList h
    -- the key has the two colons of its separator only
    have hColons : zone'.toList.count ':' + code'.toList.count ':' = 0 := by
      have hCount := congrArg (List.count ':') hLists
      simp only [List.count_append, List.count_cons_self, List.count_eq_zero_of_not_mem hZone,
        List.count_eq_zero_of_not_mem hCode] at hCount
      omega
    have hZone' : ':' ∉ zone'.toList := List.count_eq_zero.mp (by omega)
    obtain ⟨hLeft, hRight⟩ := (Js.append_separator_inj hZone' hZone).mp hLists
    exact ⟨String.toList_inj.mp hLeft, String.toList_inj.mp (List.tail_eq_of_cons_eq hRight)⟩
  · rintro ⟨rfl, rfl⟩
    rfl

/-- The first positive rate of a zone, unless the table has one already. -/
theorem foldl_setAnyRate_apply (cells : List TaxRateCell) (table : String → Option ℚ)
    (zone : String) :
    cells.foldl setAnyRate table zone = (table zone <|>
      ((cells.filter fun cell => cell.roadWidthCode = zone ∧ 0 < cell.annualRatePerSqFt).map
        TaxRateCell.annualRatePerSqFt).head?) := by
  induction cells generalizing table with
  | nil => simp
  | cons cell rest ih =>
      rw [List.foldl_cons, ih, setAnyRate, List.filter_cons]
      by_cases hZone : cell.roadWidthCode = zone
      · subst hZone
        by_cases hRate : 0 < cell.annualRatePerSqFt
        · cases hTable : table cell.roadWidthCode <;> simp [hTable, hRate]
        · simp [hRate]
      · have hOther : zone ≠ cell.roadWidthCode := fun h => hZone h.symm
        simp only [hZone, false_and, decide_false, Bool.false_eq_true, if_false]
        split_ifs
        · rw [Function.update_of_ne hOther]
        · rfl

section Permuted
variable {config : TaxConfig} {cells : List TaxRateCell} {zone code : String}
  (hZone : ':' ∉ zone.toList) (hCode : ':' ∉ code.toList)
include hZone hCode

/-- A key without a cell has no rate. -/
theorem rate_of_forall_ne (h : ∀ cell ∈ config.cells, cell.key ≠ (zone, code)) :
    (taxConfigToRateTable config).rateByZoneAndConstruction (taxRateKey zone code) = none :=
  LastWrite.writeAll_of_forall_ne _ fun cell hCell hKey =>
    h cell hCell (Prod.mk.injEq .. ▸ (taxRateKey_eq_iff hZone hCode).mp hKey)

/-- Of distinct keys, the one looked up has the rate of its cell. -/
theorem rate_of_mem (hKeys : (config.cells.map TaxRateCell.key).Nodup) {cell : TaxRateCell}
    (hCell : cell ∈ config.cells) (hKey : cell.key = (zone, code)) :
    (taxConfigToRateTable config).rateByZoneAndConstruction (taxRateKey zone code) =
      some cell.annualRatePerSqFt := by
  refine LastWrite.writeAll_of_exists _ ⟨cell, hCell, ?_⟩ fun other hOther hSame => ?_
  · exact (taxRateKey_eq_iff hZone hCode).mpr (Prod.mk.injEq .. ▸ hKey)
  · have hOtherKey : other.key = (zone, code) :=
      Prod.mk.injEq .. ▸ (taxRateKey_eq_iff hZone hCode).mp hSame
    rw [List.inj_on_of_nodup_map hKeys hOther hCell (hOtherKey.trans hKey.symm)]

/-- A rate that is looked up by its key does not see the order of the cells. -/
theorem rate_withCells (hPerm : cells.Perm config.cells)
    (hKeys : (config.cells.map TaxRateCell.key).Nodup) :
    (taxConfigToRateTable (config.withCells cells)).rateByZoneAndConstruction
        (taxRateKey zone code) =
      (taxConfigToRateTable config).rateByZoneAndConstruction (taxRateKey zone code) := by
  by_cases hSome : ∃ cell ∈ config.cells, cell.key = (zone, code)
  · obtain ⟨cell, hCell, hKey⟩ := hSome
    have hKeys' : ((config.withCells cells).cells.map TaxRateCell.key).Nodup :=
      (hPerm.map _).nodup_iff.mpr hKeys
    have hCell' : cell ∈ (config.withCells cells).cells := hPerm.mem_iff.mpr hCell
    rw [rate_of_mem hZone hCode hKeys hCell hKey, rate_of_mem hZone hCode hKeys' hCell' hKey]
  · have hNone : ∀ cell ∈ config.cells, cell.key ≠ (zone, code) :=
      fun cell hCell hKey => hSome ⟨cell, hCell, hKey⟩
    have hNone' : ∀ cell ∈ (config.withCells cells).cells, cell.key ≠ (zone, code) :=
      fun cell hCell => hNone cell (hPerm.mem_iff.mp hCell)
    rw [rate_of_forall_ne hZone hCode hNone, rate_of_forall_ne hZone hCode hNone']

end Permuted

/-! ### The plot of a survey -/

/-- A zone code has no colon. -/
theorem colon_not_mem_zoneCode (survey : Survey) : ':' ∉ survey.zoneCode.toList := by
  have hCodes : ∀ code ∈ zoneCodes, ':' ∉ code.toList := by decide
  unfold Survey.zoneCode
  cases hZone : mapTaxRateZoneCode survey.taxRateZone with
  | none => exact hCodes _ (by decide)
  | some code => exact hCodes code (mapTaxRateZoneCode_mem hZone)

/-- A construction code has no colon. -/
theorem colon_not_mem_constructionOf (floor : Floor) :
    ':' ∉ (Survey.constructionOf floor).toList := by
  have hCodes : ∀ code ∈ CONSTRUCTION.map Prod.snd, ':' ∉ code.toList := by decide
  exact hCodes _ (mapConstructionCode_mem _)

namespace Survey
variable (survey : Survey) (rates : ExportTaxRateTable)

/-- What a floor is charged, nothing without a positive rate. -/
def chargedFloor (floor : Floor) : FloorAlv :=
  (survey.duesInput rates).chargedAlv (survey.floorInput floor)

/-- No floor has an area, and the floors come to no annual value. -/
def FloorsUncharged : Prop :=
  (survey.floors.map fun floor => (survey.chargedFloor rates floor).assessableAlv).sum = 0 ∧
    ∀ floor ∈ survey.floors, toTaxNumber floor.areaSqFt ≤ 0

/-- The plot stands in for the floors. -/
def PlotStandsIn : Prop := survey.FloorsUncharged rates ∧ 0 < survey.plotArea

/-- Open land is charged on its plot. -/
def OpenPlot : Prop := survey.openLand = true ∧ 0 < toTaxNumber survey.plotAreaSqFt

def PlotCharged : Prop := survey.PlotStandsIn rates ∨ survey.OpenPlot

/-- The plot, charged at a rate. -/
def plotAlv (rate : ℚ) : FloorAlv :=
  computeFloorAlv survey.plotArea rate
    (resolveAssessablePct survey.propertyUse none none rates.assessableOpts survey.gisClass)
    rates.propertyTaxPct

/-- The plot is charged the same at two rates. Open land pays no water and drainage
tax, and shows the rate of its plot when no floor has one. -/
structure PlotChargedAlike (rate rate' : ℚ) : Prop where
  propertyTax : (survey.plotAlv rates rate).propertyTax = (survey.plotAlv rates rate').propertyTax
  waterAndDrainage : survey.openLand = false → ∀ pct ∈ [rates.waterTaxPct, rates.drainageTaxPct],
    roundMoney ((survey.plotAlv rates rate).assessableAlv * (pct / 100)) =
      roundMoney ((survey.plotAlv rates rate').assessableAlv * (pct / 100))
  shownRate : survey.OpenPlot → (∀ floor ∈ survey.floors, survey.baseRate rates floor ≤ 0) →
    rate = rate'

end Survey

section Plot
variable {survey : Survey} {rates : ExportTaxRateTable}

/-- The charged values are those of the survey's floors. -/
theorem sum_chargedFloor :
    ((survey.duesInput rates).floors.map fun floor =>
        ((survey.duesInput rates).chargedAlv floor).assessableAlv).sum =
      (survey.floors.map fun floor => (survey.chargedFloor rates floor).assessableAlv).sum := by
  change ((survey.floors.map survey.floorInput).map _).sum = _
  rw [List.map_map]
  rfl

/-- The charged taxes are those of the survey's floors. -/
theorem sum_chargedTax :
    ((survey.duesInput rates).floors.map (survey.duesInput rates).chargedTax).sum =
      (survey.floors.map fun floor => (survey.chargedFloor rates floor).propertyTax).sum := by
  change ((survey.floors.map survey.floorInput).map _).sum = _
  rw [List.map_map]
  rfl

/-- Floors are uncharged when they have neither value nor area. -/
theorem floorsUncharged_iff :
    survey.FloorsUncharged rates ↔
      ((survey.duesInput rates).floors.map fun floor =>
          ((survey.duesInput rates).chargedAlv floor).assessableAlv).sum = 0 ∧
        (survey.duesInput rates).floorsHaveArea = false := by
  have hArea : (survey.duesInput rates).floorsHaveArea = false ↔
      ∀ floor ∈ survey.floors, toTaxNumber floor.areaSqFt ≤ 0 := by
    change (survey.floors.map survey.floorInput).any _ = false ↔ _
    rw [List.any_eq_false, List.forall_mem_map]
    refine forall₂_congr fun floor _ => ?_
    rw [decide_eq_true_eq, gt_iff_lt, not_lt]
    rfl
  rw [sum_chargedFloor, hArea]
  rfl

/-- The plot that stands in for the floors is charged at the rate of open land. -/
theorem fallback_of_plotStandsIn (hPlot : survey.PlotStandsIn rates)
    (hRate : 0 < survey.openLandRate rates) :
    (survey.duesInput rates).fallback =
      some (survey.plotAlv rates (survey.openLandRate rates)) := by
  obtain ⟨hFloors, hArea⟩ := hPlot
  obtain ⟨hSum, hNone⟩ := floorsUncharged_iff.mp hFloors
  rw [SurveyTaxInput.fallback, SurveyTaxInput.plotFallback, openLandRate_duesInput,
    fallbackArea_duesInput, if_pos ⟨hSum, hNone, hRate, hArea⟩]
  rfl

/-- The fallback is missing where the plot does not stand in. -/
theorem fallback_of_not_plotStandsIn (hPlot : ¬ survey.PlotStandsIn rates) :
    (survey.duesInput rates).fallback = none := by
  rw [SurveyTaxInput.fallback, SurveyTaxInput.plotFallback, if_neg]
  rintro ⟨hSum, hNone, -, hArea⟩
  exact hPlot ⟨floorsUncharged_iff.mpr ⟨hSum, hNone⟩, hArea⟩

/-- Open land is charged its plot at the rate of open land, in full. -/
theorem openPlot_of_openPlot (hPlot : survey.OpenPlot) (hRate : 0 < survey.openLandRate rates) :
    (survey.duesInput rates).openPlot =
      some (survey.plotAlv rates (survey.openLandRate rates)) := by
  obtain ⟨hLand, hArea⟩ := hPlot
  have hPlotArea : survey.plotArea = toTaxNumber survey.plotAreaSqFt := if_pos hArea.ne'
  rw [Survey.plotAlv, resolveAssessablePct_openLand hLand, hPlotArea, SurveyTaxInput.openPlot,
    openLandRate_duesInput]
  exact if_pos ⟨hArea, hRate⟩

/-- Open land that is no open plot has no plot to charge. -/
theorem openPlot_of_not_openPlot (hLand : survey.openLand = true) (hPlot : ¬ survey.OpenPlot) :
    (survey.duesInput rates).openPlot = none :=
  if_neg fun h => hPlot ⟨hLand, h.1⟩

/-- A plot that is charged replaces the tax of the floors. -/
theorem billed_of_plotCharged (hPlot : survey.PlotCharged rates)
    (hRate : 0 < survey.openLandRate rates) :
    (survey.duesInput rates).billedTax =
        (survey.plotAlv rates (survey.openLandRate rates)).propertyTax ∧
      (survey.openLand = false → (survey.duesInput rates).billedAlv =
        (survey.plotAlv rates (survey.openLandRate rates)).assessableAlv) := by
  have hLand : (survey.duesInput rates).openLand = survey.openLand := rfl
  rw [SurveyTaxInput.billedTax, SurveyTaxInput.billedAlv, SurveyTaxInput.standIn, hLand]
  by_cases hOpen : survey.OpenPlot
  · rw [if_pos hOpen.1, openPlot_of_openPlot hOpen hRate]
    exact ⟨rfl, fun hBuilt => absurd hOpen.1 (Bool.eq_false_iff.mp hBuilt)⟩
  · rw [fallback_of_plotStandsIn (hPlot.resolve_right hOpen) hRate]
    refine ⟨?_, fun _ => rfl⟩
    split_ifs with hLand
    · rw [openPlot_of_not_openPlot hLand hOpen]
      rfl
    · rfl

/-- Where the plot is not charged, the bill is the floors'. -/
theorem billed_of_not_plotCharged (hPlot : ¬ survey.PlotCharged rates) :
    (survey.duesInput rates).billedTax =
        (survey.floors.map fun floor => (survey.chargedFloor rates floor).propertyTax).sum ∧
      (survey.duesInput rates).billedAlv =
        (survey.floors.map fun floor => (survey.chargedFloor rates floor).assessableAlv).sum := by
  obtain ⟨hStandsIn, hOpen⟩ := not_or.mp hPlot
  have hNone : (survey.duesInput rates).standIn = none := by
    rw [SurveyTaxInput.standIn, fallback_of_not_plotStandsIn hStandsIn]
    split_ifs with hLand
    · rw [openPlot_of_not_openPlot hLand hOpen]
      rfl
    · rfl
  rw [SurveyTaxInput.billedTax, SurveyTaxInput.billedAlv, hNone,
    fallback_of_not_plotStandsIn hStandsIn, sum_chargedFloor, sum_chargedTax]
  exact ⟨rfl, rfl⟩

end Plot

/-! ### The tax section -/

def taxSection (survey : Survey) (config : TaxConfig) : Except String DuesTaxSection :=
  (computePublicDuesPayload survey config).map PublicDues.tax

/-- The rate that is shown of a plot. -/
def Survey.shownPlotRate (survey : Survey) (rates : ExportTaxRateTable) : Option ℚ :=
  if survey.openLand then
    (survey.duesInput rates).openPlot.map fun _ => survey.openLandRate rates
  else none

/-- The tax section made of a bill. -/
def ExportTaxRateTable.sectionOf (rates : ExportTaxRateTable) (summary : ExportTaxSummary)
    (annualBaseRate : Option ℚ) : DuesTaxSection where
  propertyTaxPct := rates.propertyTaxPct
  waterTaxPct := rates.waterTaxPct
  drainageTaxPct := rates.drainageTaxPct
  penaltyPct := rates.penaltyPct
  assessablePct := rates.assessablePct
  commercialAssessablePct := rates.commercialAssessablePct
  propertyTax := summary.propertyTax
  waterTax := summary.waterTax
  drainageTax := summary.drainageTax
  penalty := summary.penalty
  totalDemand := summary.totalDemand
  annualBaseRate := annualBaseRate

/-- Two sections are equal when their summaries and base rates are. -/
theorem sectionOf_eq_iff {rates : ExportTaxRateTable} {summary summary' : ExportTaxSummary}
    {annualBaseRate annualBaseRate' : Option ℚ} :
    rates.sectionOf summary annualBaseRate = rates.sectionOf summary' annualBaseRate' ↔
      summary = summary' ∧ annualBaseRate = annualBaseRate' := by
  constructor
  · intro h
    injection h with _ _ _ _ _ _ hTax hWater hDrainage hPenalty hTotal hRate
    cases summary
    cases summary'
    exact ⟨ExportTaxSummary.mk.injEq .. ▸ ⟨hTax, hWater, hDrainage, hPenalty, hTotal⟩, hRate⟩
  · rintro ⟨rfl, rfl⟩
    rfl

section Plot
variable {survey : Survey} {rates : ExportTaxRateTable}

/-- An open plot shows its rate. -/
theorem shownPlotRate_of_openPlot (hPlot : survey.OpenPlot)
    (hRate : 0 < survey.openLandRate rates) :
    survey.shownPlotRate rates = some (survey.openLandRate rates) := by
  rw [Survey.shownPlotRate, if_pos hPlot.1, openPlot_of_openPlot hPlot hRate]
  rfl

/-- Anything else shows none. -/
theorem shownPlotRate_of_not_openPlot (hPlot : ¬ survey.OpenPlot) :
    survey.shownPlotRate rates = none := by
  unfold Survey.shownPlotRate
  split_ifs with hLand
  · rw [openPlot_of_not_openPlot hLand hPlot]
    rfl
  · rfl

/-- The rate of a plot is seen where no floor has a positive rate. -/
theorem annualBaseRate_eq_iff {rate rate' : ℚ} :
    survey.annualBaseRate rates (some rate) = survey.annualBaseRate rates (some rate') ↔
      ((∀ floor ∈ survey.floors, survey.baseRate rates floor ≤ 0) → rate = rate') := by
  unfold Survey.annualBaseRate
  cases hFirst :
      (survey.floors.map (survey.baseRate rates)).find? fun base => decide (base > 0) with
  | none =>
      have hNone : ∀ floor ∈ survey.floors, survey.baseRate rates floor ≤ 0 := by
        intro floor hFloor
        have hRate := List.find?_eq_none.mp hFirst _ (List.mem_map_of_mem hFloor)
        rwa [decide_eq_true_eq, gt_iff_lt, not_lt] at hRate
      exact ⟨fun h _ => Option.some.inj h, fun h => congrArg some (h hNone)⟩
  | some base =>
      refine ⟨fun _ hNone => ?_, fun _ => rfl⟩
      obtain ⟨floor, hFloor, rfl⟩ := List.mem_map.mp (List.mem_of_find?_eq_some hFirst)
      have hPositive : 0 < survey.baseRate rates floor := by simpa using List.find?_some hFirst
      exact absurd (hNone floor hFloor) (not_le.mpr hPositive)

namespace Survey.PlotChargedAlike
variable {rate rate' rate'' : ℚ}

theorem symm (h : survey.PlotChargedAlike rates rate rate') :
    survey.PlotChargedAlike rates rate' rate where
  propertyTax := h.propertyTax.symm
  waterAndDrainage hBuilt pct hPct := (h.waterAndDrainage hBuilt pct hPct).symm
  shownRate hOpen hFloors := (h.shownRate hOpen hFloors).symm

theorem trans (h : survey.PlotChargedAlike rates rate rate')
    (h' : survey.PlotChargedAlike rates rate' rate'') :
    survey.PlotChargedAlike rates rate rate'' where
  propertyTax := h.propertyTax.trans h'.propertyTax
  waterAndDrainage hBuilt pct hPct :=
    (h.waterAndDrainage hBuilt pct hPct).trans (h'.waterAndDrainage hBuilt pct hPct)
  shownRate hOpen hFloors := (h.shownRate hOpen hFloors).trans (h'.shownRate hOpen hFloors)

end Survey.PlotChargedAlike

end Plot

/-- The tax section is read from the summary and the base rate. -/
theorem taxSection_eq (survey : Survey) (config : TaxConfig) :
    taxSection survey config = .ok ((taxConfigToRateTable config).sectionOf
      ((taxConfigToRateTable config).summaryOf survey.openLand
        (survey.duesInput (taxConfigToRateTable config)).billedTax
        (survey.duesInput (taxConfigToRateTable config)).billedAlv)
      (survey.annualBaseRate (taxConfigToRateTable config)
        (survey.shownPlotRate (taxConfigToRateTable config)))) := by
  generalize hRates : taxConfigToRateTable config = rates
  have hZone : (survey.duesInput rates).zoneCode ≠ "" := by
    rw [zoneCode_duesInput]
    exact (trim_zoneCode survey).2
  obtain ⟨result, hResult⟩ := exists_computeSurveyExportTax (survey.duesInput rates) hZone
  have hSummary := computeSurveyExportTax_summary (survey.duesInput rates) hZone
  have hPlotRate := computeSurveyExportTax_plotRate hZone
  rw [hResult] at hSummary hPlotRate
  rw [openLandRate_duesInput] at hPlotRate
  have hBill : result.summary = rates.summaryOf survey.openLand
      (survey.duesInput rates).billedTax (survey.duesInput rates).billedAlv :=
    Except.ok.inj hSummary
  have hShown : result.plotRate = survey.shownPlotRate rates := Except.ok.inj hPlotRate
  rw [taxSection, computePublicDuesPayload, hRates, hResult, ← hBill, ← hShown]
  rfl

section Reordered
variable {survey : Survey} {config : TaxConfig} {cells : List TaxRateCell}

/-- The zone of the survey has a rate for open land. -/
def Survey.OpenLandRated (survey : Survey) (config : TaxConfig) : Prop :=
  ∃ cell ∈ config.cells, cell.key = (survey.zoneCode, "OPEN_LAND")

/-- The positive rates of the zone of a survey, in the order of the cells. -/
def Survey.zoneRates (survey : Survey) (cells : List TaxRateCell) : List ℚ :=
  (cells.filter fun cell => cell.roadWidthCode = survey.zoneCode ∧ 0 < cell.annualRatePerSqFt).map
    TaxRateCell.annualRatePerSqFt

theorem zoneRates_cons {cell : TaxRateCell}
    (h : cell.roadWidthCode = survey.zoneCode ∧ 0 < cell.annualRatePerSqFt) :
    survey.zoneRates (cell :: cells) = cell.annualRatePerSqFt :: survey.zoneRates cells := by
  simp [Survey.zoneRates, h]

theorem zoneRates_pos {rate : ℚ} (h : rate ∈ survey.zoneRates cells) : 0 < rate := by
  obtain ⟨cell, hCell, rfl⟩ := List.mem_map.mp h
  exact (of_decide_eq_true (List.mem_filter.mp hCell).2).2

/-- Without a rate of its own, open land is charged at the first positive rate of
its zone. -/
theorem openLandRate_of_not_rated (h : ¬ survey.OpenLandRated config) :
    survey.openLandRate (taxConfigToRateTable config) =
      ((survey.zoneRates config.cells).head?).getD 0 := by
  have hCode : ':' ∉ "OPEN_LAND".toList := by decide
  have hNone := rate_of_forall_ne (colon_not_mem_zoneCode survey) hCode
    fun cell hCell hKey => h ⟨cell, hCell, hKey⟩
  have hFirst := foldl_setAnyRate_apply config.cells (fun _ => none) survey.zoneCode
  rw [Survey.openLandRate, hNone]
  exact congrArg (fun rate => Option.getD rate 0) hFirst

/-- One of the positive rates of the zone, when it has any. -/
theorem openLandRate_mem (h : ¬ survey.OpenLandRated config)
    (hRates : survey.zoneRates config.cells ≠ []) :
    survey.openLandRate (taxConfigToRateTable config) ∈ survey.zoneRates config.cells := by
  rw [openLandRate_of_not_rated h, List.head?_eq_some_head hRates]
  exact List.head_mem hRates

variable (hPerm : cells.Perm config.cells) (hKeys : (config.cells.map TaxRateCell.key).Nodup)

include hPerm in
/-- Whether open land is rated does not depend on the order of the cells. -/
theorem openLandRated_withCells :
    survey.OpenLandRated (config.withCells cells) ↔ survey.OpenLandRated config :=
  exists_congr fun _ => and_congr_left fun _ => hPerm.mem_iff

include hPerm in
/-- The rates of a zone are the same, in another order. -/
theorem zoneRates_perm : (survey.zoneRates cells).Perm (survey.zoneRates config.cells) :=
  (hPerm.filter _).map _

include hPerm hKeys

/-- The rate of a floor does not depend on the order of the cells. -/
theorem baseRate_withCells : survey.baseRate (taxConfigToRateTable (config.withCells cells)) =
    survey.baseRate (taxConfigToRateTable config) := by
  funext floor
  rw [Survey.baseRate, Survey.baseRate, rate_withCells (colon_not_mem_zoneCode survey)
    (colon_not_mem_constructionOf floor) hPerm hKeys]

/-- What a floor is charged does not depend on the order of the cells. -/
theorem chargedFloor_withCells :
    survey.chargedFloor (taxConfigToRateTable (config.withCells cells)) =
      survey.chargedFloor (taxConfigToRateTable config) := by
  funext floor
  have hBase : (survey.duesInput (taxConfigToRateTable (config.withCells cells))).baseRate
      (survey.floorInput floor) =
        (survey.duesInput (taxConfigToRateTable config)).baseRate (survey.floorInput floor) := by
    rw [baseRate_duesInput, baseRate_duesInput, baseRate_withCells hPerm hKeys]
  rw [Survey.chargedFloor, Survey.chargedFloor, SurveyTaxInput.chargedAlv,
    SurveyTaxInput.chargedAlv, SurveyTaxInput.floorAlv, SurveyTaxInput.floorAlv,
    SurveyTaxInput.floorRate, SurveyTaxInput.floorRate, hBase]
  rfl

/-- Whether the plot is charged does not depend on the order of the cells. -/
theorem plotCharged_withCells :
    survey.PlotCharged (taxConfigToRateTable (config.withCells cells)) ↔
      survey.PlotCharged (taxConfigToRateTable config) := by
  rw [Survey.PlotCharged, Survey.PlotStandsIn, Survey.FloorsUncharged,
    chargedFloor_withCells hPerm hKeys]
  rfl

/-- With its own rate for open land the zone has it in any order. -/
theorem openLandRate_of_rated (h : survey.OpenLandRated config) :
    survey.openLandRate (taxConfigToRateTable (config.withCells cells)) =
      survey.openLandRate (taxConfigToRateTable config) := by
  have hCode : ':' ∉ "OPEN_LAND".toList := by decide
  obtain ⟨cell, hCell, hKey⟩ := h
  rw [Survey.openLandRate, Survey.openLandRate,
    rate_withCells (colon_not_mem_zoneCode survey) hCode hPerm hKeys,
    rate_of_mem (colon_not_mem_zoneCode survey) hCode hKeys hCell hKey]
  rfl

/-- Two orders give one tax section when they give one bill and show one rate. -/
theorem taxSection_withCells_iff :
    taxSection survey (config.withCells cells) = taxSection survey config ↔
      (taxConfigToRateTable config).summaryOf survey.openLand
          (survey.duesInput (taxConfigToRateTable (config.withCells cells))).billedTax
          (survey.duesInput (taxConfigToRateTable (config.withCells cells))).billedAlv =
        (taxConfigToRateTable config).summaryOf survey.openLand
          (survey.duesInput (taxConfigToRateTable config)).billedTax
          (survey.duesInput (taxConfigToRateTable config)).billedAlv ∧
      survey.annualBaseRate (taxConfigToRateTable config)
          (survey.shownPlotRate (taxConfigToRateTable (config.withCells cells))) =
        survey.annualBaseRate (taxConfigToRateTable config)
          (survey.shownPlotRate (taxConfigToRateTable config)) := by
  have hBase : survey.annualBaseRate (taxConfigToRateTable (config.withCells cells)) =
      survey.annualBaseRate (taxConfigToRateTable config) := by
    funext plotRate
    rw [Survey.annualBaseRate, Survey.annualBaseRate, baseRate_withCells hPerm hKeys]
  rw [taxSection_eq, taxSection_eq, hBase, Except.ok.injEq, ← sectionOf_eq_iff]
  rfl

/-- At the same rate for open land the bill is the same. -/
theorem taxSection_of_openLandRate
    (hRate : survey.openLandRate (taxConfigToRateTable (config.withCells cells)) =
      survey.openLandRate (taxConfigToRateTable config)) :
    taxSection survey (config.withCells cells) = taxSection survey config := by
  have hFallback : (survey.duesInput (taxConfigToRateTable (config.withCells cells))).fallback =
      (survey.duesInput (taxConfigToRateTable config)).fallback := by
    rw [SurveyTaxInput.fallback, SurveyTaxInput.fallback, SurveyTaxInput.plotFallback,
      SurveyTaxInput.plotFallback, sum_chargedFloor, sum_chargedFloor, openLandRate_duesInput,
      openLandRate_duesInput, chargedFloor_withCells hPerm hKeys, hRate]
    rfl
  have hPlot : (survey.duesInput (taxConfigToRateTable (config.withCells cells))).openPlot =
      (survey.duesInput (taxConfigToRateTable config)).openPlot := by
    rw [SurveyTaxInput.openPlot, SurveyTaxInput.openPlot, openLandRate_duesInput,
      openLandRate_duesInput, hRate]
    rfl
  have hShown : survey.shownPlotRate (taxConfigToRateTable (config.withCells cells)) =
      survey.shownPlotRate (taxConfigToRateTable config) := by
    rw [Survey.shownPlotRate, Survey.shownPlotRate, hPlot, hRate]
  rw [taxSection_withCells_iff hPerm hKeys, hShown, SurveyTaxInput.billedTax,
    SurveyTaxInput.billedAlv, SurveyTaxInput.standIn, hFallback, hPlot, sum_chargedFloor,
    chargedFloor_withCells hPerm hKeys, sum_chargedTax, chargedFloor_withCells hPerm hKeys,
    SurveyTaxInput.billedTax, SurveyTaxInput.billedAlv, SurveyTaxInput.standIn, sum_chargedFloor,
    sum_chargedTax]
  exact ⟨rfl, rfl⟩

/-- A plot that is not charged leaves the order without effect. -/
theorem taxSection_of_not_plotCharged
    (hPlot : ¬ survey.PlotCharged (taxConfigToRateTable config)) :
    taxSection survey (config.withCells cells) = taxSection survey config := by
  have hOpen : ¬ survey.OpenPlot := (not_or.mp hPlot).2
  have hPlot' := mt (plotCharged_withCells hPerm hKeys).mp hPlot
  obtain ⟨hTax, hAlv⟩ := billed_of_not_plotCharged hPlot
  obtain ⟨hTax', hAlv'⟩ := billed_of_not_plotCharged hPlot'
  rw [taxSection_withCells_iff hPerm hKeys, hTax, hAlv, hTax', hAlv',
    chargedFloor_withCells hPerm hKeys, shownPlotRate_of_not_openPlot hOpen,
    shownPlotRate_of_not_openPlot hOpen]
  exact ⟨rfl, rfl⟩

/-- A plot that is charged is charged the same at two positive rates, or the order
shows in the tax section. -/
theorem taxSection_eq_iff_alike (hPlot : survey.PlotCharged (taxConfigToRateTable config))
    (hRate : 0 < survey.openLandRate (taxConfigToRateTable config))
    (hRate' : 0 < survey.openLandRate (taxConfigToRateTable (config.withCells cells))) :
    taxSection survey (config.withCells cells) = taxSection survey config ↔
      survey.PlotChargedAlike (taxConfigToRateTable config)
        (survey.openLandRate (taxConfigToRateTable (config.withCells cells)))
        (survey.openLandRate (taxConfigToRateTable config)) := by
  have hPlot' := (plotCharged_withCells hPerm hKeys).mpr hPlot
  obtain ⟨hTax, hAlv⟩ := billed_of_plotCharged hPlot hRate
  obtain ⟨hTax', hAlv'⟩ := billed_of_plotCharged hPlot' hRate'
  have hShown : survey.annualBaseRate (taxConfigToRateTable config)
        (survey.shownPlotRate (taxConfigToRateTable (config.withCells cells))) =
      survey.annualBaseRate (taxConfigToRateTable config)
        (survey.shownPlotRate (taxConfigToRateTable config)) ↔
      (survey.OpenPlot → (∀ floor ∈ survey.floors,
        survey.baseRate (taxConfigToRateTable config) floor ≤ 0) →
          survey.openLandRate (taxConfigToRateTable (config.withCells cells)) =
            survey.openLandRate (taxConfigToRateTable config)) := by
    by_cases hOpen : survey.OpenPlot
    · rw [shownPlotRate_of_openPlot hOpen hRate, shownPlotRate_of_openPlot hOpen hRate',
        annualBaseRate_eq_iff]
      exact ⟨fun h _ => h, fun h => h hOpen⟩
    · rw [shownPlotRate_of_not_openPlot hOpen, shownPlotRate_of_not_openPlot hOpen]
      exact ⟨fun _ h => absurd h hOpen, fun _ => rfl⟩
  rw [taxSection_withCells_iff hPerm hKeys, summaryOf_eq_iff, hShown, hTax, hTax']
  constructor
  · rintro ⟨⟨hSameTax, hSame⟩, hRates⟩
    refine ⟨hSameTax, fun hBuilt => ?_, hRates⟩
    have hWater := hSame hBuilt
    rw [hAlv hBuilt, hAlv' hBuilt] at hWater
    exact hWater
  · intro hAlike
    refine ⟨⟨hAlike.propertyTax, fun hBuilt => ?_⟩, hAlike.shownRate⟩
    rw [hAlv hBuilt, hAlv' hBuilt]
    exact hAlike.waterAndDrainage hBuilt

end Reordered

/-- Two built-up rates of a zone, none for open land. -/
def Sample.builtUpConfig : TaxConfig :=
  Sample.ratedConfig.withCells
    [⟨"BELOW_9M", "PAKKA_BUILDING_WITH_RCC_ROOF", 10⟩, ⟨"BELOW_9M", "TIN_SHED", 5⟩]

end PropertyTax
