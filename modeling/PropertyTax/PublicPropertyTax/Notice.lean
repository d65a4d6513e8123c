import PropertyTax.PublicPropertyTax.Dues

/-! The lines of the demand notice against the property tax billed. Both price
the same floors alike; they part where the bill charges a plot in place of the
floors, which the notice does only for open land without floors. -/
namespace PropertyTax

/-- The class that rates go by gives the same multiplier. -/
theorem resolveUsageRateMult_rateGisClass (usageFactor usageType propertyUse : Option String)
    (gisClass : Option GisUseClass) :
    resolveUsageRateMult usageFactor usageType propertyUse (rateGisClass gisClass) =
      resolveUsageRateMult usageFactor usageType propertyUse gisClass := by
  cases gisClass with
  | none => rfl
  | some gisClass => cases gisClass <;> rfl

/-- The class that rates go by gives the same assessable share. -/
theorem resolveAssessablePct_rateGisClass (propertyUse usageType usageFactor : Option String)
    (options : AssessablePctOptions) (gisClass : Option GisUseClass) :
    resolveAssessablePct propertyUse usageType usageFactor options (rateGisClass gisClass) =
      resolveAssessablePct propertyUse usageType usageFactor options gisClass := by
  cases gisClass with
  | none => rfl
  | some gisClass => cases gisClass <;> rfl

/-- A rate table whose rates are not negative. -/
structure ExportTaxRateTable.RatesNonneg (rates : ExportTaxRateTable) : Prop where
  byConstruction : ∀ key, ∀ rate ∈ rates.rateByZoneAndConstruction key, 0 ≤ rate
  anyRate : ∀ zone, ∀ rate ∈ rates.anyRateByZone zone, 0 ≤ rate

/-- The table of a configuration holds the rates of its cells only. -/
theorem taxConfigToRateTable_ratesNonneg {config : TaxConfig}
    (h : ∀ cell ∈ config.cells, 0 ≤ cell.annualRatePerSqFt) :
    (taxConfigToRateTable config).RatesNonneg := by
  have hTables : ∀ (cells : List TaxRateCell) (table anyTable : String → Option ℚ),
      (∀ cell ∈ cells, 0 ≤ cell.annualRatePerSqFt) →
      (∀ key, ∀ rate ∈ table key, 0 ≤ rate) → (∀ zone, ∀ rate ∈ anyTable zone, 0 ≤ rate) →
      (∀ key, ∀ rate ∈ cells.foldl setRate table key, 0 ≤ rate) ∧
        ∀ zone, ∀ rate ∈ cells.foldl setAnyRate anyTable zone, 0 ≤ rate := by
    intro cells
    induction cells with
    | nil => exact fun table anyTable _ hTable hAny => ⟨hTable, hAny⟩
    | cons cell cells ih =>
        intro table anyTable hCells hTable hAny
        have hCell := hCells cell List.mem_cons_self
        apply ih _ _ fun c hc => hCells c (List.mem_cons_of_mem _ hc)
        · intro key rate hRate
          rw [setRate, Function.update_apply] at hRate
          split_ifs at hRate
          · cases hRate
            exact hCell
          · exact hTable key rate hRate
        · intro zone rate hRate
          unfold setAnyRate at hRate
          split_ifs at hRate
          · rw [Function.update_apply] at hRate
            split_ifs at hRate
            · cases hRate
              exact hCell
            · exact hAny zone rate hRate
          · exact hAny zone rate hRate
  obtain ⟨hTable, hAny⟩ := hTables config.cells (fun _ => none) (fun _ => none) h
    (by simp) (by simp)
  exact ⟨hTable, hAny⟩

section Notice
variable (survey : Survey) (rates : ExportTaxRateTable)

/-- A survey's zone code is trimmed and not empty. -/
theorem trim_zoneCode : Js.trim survey.zoneCode = survey.zoneCode ∧ survey.zoneCode ≠ "" := by
  have hCodes : ∀ code ∈ zoneCodes, Js.trim code = code ∧ code ≠ "" := by decide
  unfold Survey.zoneCode
  cases hZone : mapTaxRateZoneCode survey.taxRateZone with
  | none => exact hCodes _ (by decide)
  | some code => exact hCodes code (mapTaxRateZoneCode_mem hZone)

theorem zoneCode_duesInput : (survey.duesInput rates).zoneCode = survey.zoneCode := by
  rw [SurveyTaxInput.zoneCode, Survey.duesInput, (trim_zoneCode survey).1]

/-- The dues can always be computed: the zone of a survey is never blank. -/
theorem exists_computePublicDuesPayload (config : TaxConfig) :
    ∃ payload, computePublicDuesPayload survey config = .ok payload := by
  obtain ⟨summary, hSummary⟩ := exists_computeSurveyExportTax
    (survey.duesInput (taxConfigToRateTable config))
    (by rw [zoneCode_duesInput]; exact (trim_zoneCode survey).2)
  rw [computePublicDuesPayload, hSummary]
  exact ⟨_, rfl⟩

theorem openLandRate_duesInput :
    (survey.duesInput rates).openLandRate = survey.openLandRate rates := by
  rw [SurveyTaxInput.openLandRate, zoneCode_duesInput]
  rfl

theorem fallbackArea_duesInput : (survey.duesInput rates).fallbackArea = survey.plotArea := rfl

theorem baseRate_duesInput (floor : Floor) :
    (survey.duesInput rates).baseRate (survey.floorInput floor) = survey.baseRate rates floor := by
  rw [SurveyTaxInput.baseRate, zoneCode_duesInput, Survey.floorInput, Survey.duesInput,
    Survey.baseRate]

variable {survey rates}

/-- A floor is listed on the notice at the tax it is charged. -/
theorem floorLine_tax (h : rates.RatesNonneg) (floor : Floor) :
    (survey.floorLine rates floor).tax =
      (survey.duesInput rates).chargedTax (survey.floorInput floor) := by
  have hBase := baseRate_duesInput survey rates floor
  have hNonneg : 0 ≤ survey.baseRate rates floor := by
    unfold Survey.baseRate
    cases hRate : rates.rateByZoneAndConstruction
        (taxRateKey survey.zoneCode (Survey.constructionOf floor)) with
    | none => exact le_rfl
    | some rate => exact h.byConstruction _ rate hRate
  rw [SurveyTaxInput.chargedTax, (survey.duesInput rates).chargedAlv_of_nonneg (hBase ▸ hNonneg),
    SurveyTaxInput.floorAlv, SurveyTaxInput.floorRate, hBase, resolveEffectiveMonthlyRate,
    resolveUsageRateMult_rateGisClass, resolveAssessablePct_rateGisClass]
  rfl

theorem openLandRate_nonneg (h : rates.RatesNonneg) : 0 ≤ survey.openLandRate rates := by
  unfold Survey.openLandRate
  cases hOwn : rates.rateByZoneAndConstruction (taxRateKey survey.zoneCode "OPEN_LAND") with
  | some rate => exact h.byConstruction _ rate hOwn
  | none =>
      cases hAny : rates.anyRateByZone survey.zoneCode with
      | some rate => exact h.anyRate _ rate hAny
      | none => exact le_rfl

/-- Of open land the whole annual value is assessable, by class or by its use. -/
theorem resolveAssessablePct_openLand {options : AssessablePctOptions}
    (h : survey.openLand = true) :
    resolveAssessablePct survey.propertyUse none none options survey.gisClass = 100 := by
  rw [Survey.openLand, Bool.or_eq_true, decide_eq_true_eq, Bool.and_eq_true] at h
  obtain hClass | ⟨hNone, hUse⟩ := h
  · rw [hClass]
    rfl
  · rw [Option.isNone_iff_eq_none.mp hNone]
    have hKey : usageLooksOpenLand
        (resolveHeuristicUsageKey none none survey.propertyUse) = true := by
      have hBlank : Js.trim ((none : Option String).getD "") = "" := by decide
      have hTrimmed := Js.includes_trim (by decide) (Js.includes_toLowerCase_append
        ((none : Option String).getD "" ++ " ") hUse)
      rw [resolveHeuristicUsageKey, hBlank, if_neg (not_not.mpr rfl)]
      exact Js.includes_toLowerCase (by decide) hTrimmed
    simp only [resolveAssessablePct, hKey, if_true]

/-- Open land without floors is billed on the area the notice lists, when there
is one. -/
theorem billedTax_of_openPlot (h : rates.RatesNonneg) (hFloors : survey.floors = [])
    (hLand : survey.openLand = true) :
    (survey.duesInput rates).billedTax =
      if 0 < survey.plotArea then (survey.plotLine rates).tax else 0 := by
  have hNoFloors : (survey.duesInput rates).floors = [] := by
    rw [Survey.duesInput, hFloors]
    rfl
  have hOpen : (survey.duesInput rates).openLand = true := hLand
  have hRate : 0 ≤ survey.openLandRate rates := openLandRate_nonneg h
  have hPct : resolveAssessablePct (survey.duesInput rates).propertyUse none none
      (survey.duesInput rates).rates.assessableOpts (survey.duesInput rates).gisClass = 100 :=
    resolveAssessablePct_openLand hLand
  have hPlot : toTaxNumber (survey.duesInput rates).plotAreaSqFt =
      toTaxNumber survey.plotAreaSqFt := rfl
  have hTax : (survey.plotLine rates).tax = (computeFloorAlv survey.plotArea
      (survey.openLandRate rates) 100 (survey.duesInput rates).rates.propertyTaxPct).propertyTax :=
    rfl
  rw [SurveyTaxInput.billedTax, SurveyTaxInput.standIn, if_pos hOpen, SurveyTaxInput.fallback,
    SurveyTaxInput.plotFallback, SurveyTaxInput.openPlot, SurveyTaxInput.floorsHaveArea,
    hNoFloors, hPct, openLandRate_duesInput, fallbackArea_duesInput, hPlot, hTax]
  obtain hZero | hPos := hRate.eq_or_lt
  · simp [← hZero, computeFloorAlv_zero_rate]
  · by_cases hOwn : 0 < toTaxNumber survey.plotAreaSqFt
    · have hArea : survey.plotArea = toTaxNumber survey.plotAreaSqFt := if_pos hOwn.ne'
      simp [hArea, hOwn, hPos]
    · by_cases hArea : 0 < survey.plotArea
      · simp [hOwn, hPos, hArea]
      · simp [hOwn, hArea]

variable (survey rates)

/-- The lines account for the bill: the plot of open land without floors has no
negative area, and in every other case no plot is billed, or it comes to what
the floors are listed at. -/
structure NoticeCovers : Prop where
  plotLine : survey.floors = [] → survey.openLand = true →
    0 ≤ survey.plotArea ∨ (survey.plotLine rates).tax = 0
  standIn : survey.floors ≠ [] ∨ survey.openLand = false →
    ∀ alv ∈ (survey.duesInput rates).standIn,
      alv.propertyTax = (survey.floors.map fun floor => (survey.floorLine rates floor).tax).sum

variable {survey rates}

/-- The lines of the floors come to their charged tax. -/
theorem sum_floorLines (h : rates.RatesNonneg) :
    (survey.floors.map fun floor => (survey.floorLine rates floor).tax).sum =
      ((survey.duesInput rates).floors.map (survey.duesInput rates).chargedTax).sum := by
  rw [Survey.duesInput, List.map_map]
  congr 1
  exact List.map_congr_left fun floor _ => floorLine_tax h floor

/-- The lines of the notice come to the billed tax exactly where the notice covers the bill. -/
theorem noticeTotal_eq_billedTax_iff (h : rates.RatesNonneg) :
    ((buildNoticeFloorLines survey rates).map NoticeFloorLine.tax).sum =
      (survey.duesInput rates).billedTax ↔ NoticeCovers survey rates := by
  unfold buildNoticeFloorLines
  by_cases hPlot : survey.floors = [] ∧ survey.openLand = true
  · obtain ⟨hFloors, hLand⟩ := hPlot
    have hOther : ¬ (survey.floors ≠ [] ∨ survey.openLand = false) := by simp [hFloors, hLand]
    rw [if_pos ⟨hFloors, hLand⟩, List.map_singleton, List.sum_singleton,
      billedTax_of_openPlot h hFloors hLand]
    constructor
    · intro hTotal
      refine ⟨fun _ _ => ?_, fun hNo => absurd hNo hOther⟩
      by_cases hArea : 0 < survey.plotArea
      · exact .inl hArea.le
      · rw [if_neg hArea] at hTotal
        exact .inr hTotal
    · intro hCovers
      obtain hArea | hTax := hCovers.plotLine hFloors hLand
      · obtain hZero | hPos := hArea.eq_or_lt
        · rw [Survey.plotLine, ← hZero, computeFloorAlv_zero_area]
          simp
        · rw [if_pos hPos]
      · simp [hTax]
  · have hOther : survey.floors ≠ [] ∨ survey.openLand = false := by
      rw [← Bool.not_eq_true, ← not_and_or]
      exact hPlot
    have hNoPlot : survey.floors = [] → survey.openLand = true →
        0 ≤ survey.plotArea ∨ (survey.plotLine rates).tax = 0 :=
      fun hFloors hLand => absurd ⟨hFloors, hLand⟩ hPlot
    rw [if_neg hPlot, List.map_map]
    change (survey.floors.map fun floor => (survey.floorLine rates floor).tax).sum = _ ↔ _
    obtain ⟨hNone, hTax⟩ | ⟨alv, hSome, hTax⟩ := (survey.duesInput rates).standIn_eq_none_or
    · rw [hTax, ← sum_floorLines h]
      exact ⟨fun _ => ⟨hNoPlot, by simp [hNone]⟩, fun _ => rfl⟩
    · rw [hTax]
      constructor
      · intro hTotal
        refine ⟨hNoPlot, fun _ other hOther => ?_⟩
        obtain rfl : alv = other := by simpa [hSome] using hOther
        exact hTotal.symm
      · intro hCovers
        exact (hCovers.standIn hOther alv hSome).symm

end Notice

/-- The dues payload has the billed tax. -/
theorem computePublicDuesPayload_propertyTax {survey : Survey} {config : TaxConfig}
    {payload : PublicDues} (h : computePublicDuesPayload survey config = .ok payload) :
    payload.tax.propertyTax = (survey.duesInput (taxConfigToRateTable config)).billedTax := by
  cases hSummary : computeSurveyExportTax (survey.duesInput (taxConfigToRateTable config)) with
  | error message =>
      rw [computePublicDuesPayload, hSummary] at h
      cases h
  | ok summary =>
      rw [computePublicDuesPayload, hSummary] at h
      cases h
      exact computeSurveyExportTax_propertyTax hSummary

namespace Sample

def ratedConfig : TaxConfig where
  id := 1
  wardId := 1
  assessmentYear := ⟨1, "2025-26", "2025-26"⟩
  status := .published
  version := 1
  assessablePct := 80
  commercialAssessablePct := 80
  propertyTaxPct := 10
  waterTaxPct := 15 / 2
  drainageTaxPct := 5 / 2
  penaltyPct := 0
  cells := [⟨"BELOW_9M", "PAKKA_BUILDING_WITH_RCC_ROOF", 10⟩, ⟨"BELOW_9M", "OPEN_LAND", 5⟩]
  updatedAt := 0

/-- A house whose floors were imported without their areas. -/
def stubFloorHouse (floorArea : Option ℚ) : Survey where
  id := 1
  surveyId := "249044-001-000001-001-R"
  wardId := 1
  plotAreaSqFt := some 1000
  floors := [⟨"Ground Floor", some "Residential", none, some "RCC", floorArea⟩]

end Sample

end PropertyTax
