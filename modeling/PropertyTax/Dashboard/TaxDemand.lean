import PropertyTax.Library.KeyedFold
import PropertyTax.Payments.Online
import PropertyTax.PublicPropertyTax.Notice

/-! The tax demand of the dashboard. One pass over the surveys keeps a rounded running
total for each ward, and these totals are the sums of the bills. -/
namespace PropertyTax
open KeyedFold

structure WardTaxDemand where
  propertyTaxDemand : ℚ
  waterTaxDemand : ℚ
  drainageTaxDemand : ℚ
  totalTaxDemand : ℚ
  propertyTaxPct : ℚ
  waterTaxPct : ℚ
  drainageTaxPct : ℚ
  surveyedWithDemand : Nat
  skippedSurveys : Nat

structure TaxDemandAggregate where
  propertyTaxDemand : ℚ
  waterTaxDemand : ℚ
  drainageTaxDemand : ℚ
  totalTaxDemand : ℚ
  propertyTaxPct : ℚ
  waterTaxPct : ℚ
  drainageTaxPct : ℚ
  byWard : Id → Option WardTaxDemand

structure TaxDemandInput where
  wardIds : List Id
  surveys : List Survey
  configsByWardId : Id → Option (List TaxConfig)

def EMPTY_WARD : WardTaxDemand := ⟨0, 0, 0, 0, 0, 0, 0, 0, 0⟩

def emptyWardDemand (rates : Option ExportTaxRateTable) : WardTaxDemand :=
  { EMPTY_WARD with
    propertyTaxPct := (rates.map ExportTaxRateTable.propertyTaxPct).getD 0
    waterTaxPct := (rates.map ExportTaxRateTable.waterTaxPct).getD 0
    drainageTaxPct := (rates.map ExportTaxRateTable.drainageTaxPct).getD 0 }

/-! ### The pass over the wards -/

structure WardTables where
  byWard : Id → Option WardTaxDemand
  rateTableByWard : Id → Option ExportTaxRateTable

def openWard (billing : Billing) (configsByWardId : Id → Option (List TaxConfig))
    (tables : WardTables) (wardId : Id) : WardTables :=
  let published := (configsByWardId wardId).getD []
  match pickLatestPublishedConfig billing published with
  | some config =>
      let rates := taxConfigToRateTable config
      { byWard := Function.update tables.byWard wardId (some (emptyWardDemand (some rates)))
        rateTableByWard := Function.update tables.rateTableByWard wardId (some rates) }
  | none =>
      { tables with
        byWard := Function.update tables.byWard wardId (some (emptyWardDemand none)) }

/-! ### The pass over the surveys -/

/-- What the dashboard asks of a survey's tax. -/
def Survey.dashboardInput (survey : Survey) (rates : ExportTaxRateTable) : SurveyTaxInput :=
  let gisClass := resolveSurveyGisUseClass none (some survey.surveyId)
  { taxRateZoneCode := (mapTaxRateZoneCode survey.taxRateZone).getD "BELOW_9M"
    propertyUse := survey.propertyUse
    gisUseCode := none
    surveyId := some survey.surveyId
    floors := survey.floors.map fun f =>
      { floorKey := f.floorLabel
        constructionCode := mapConstructionCode (f.buildingType <|> f.usageType)
        usageResidential := isResidentialUsage f.usageType survey.propertyUse gisClass
        areaSqFt := toTaxNumber f.areaSqFt
        usageType := f.usageType
        usageFactor := f.usageFactor }
    plotAreaSqFt := some (toTaxNumber survey.plotAreaSqFt)
    plinthAreaSqFt := some (toTaxNumber survey.plinthAreaSqFt)
    totalBuiltUpAreaSqFt := some (toTaxNumber survey.totalBuiltUpAreaSqFt)
    rates }

/-- `current.skippedSurveys += 1` -/
def WardTaxDemand.skip (current : WardTaxDemand) : WardTaxDemand :=
  { current with skippedSurveys := current.skippedSurveys + 1 }

def WardTaxDemand.add (current : WardTaxDemand) (summary : SurveyExportTax) : WardTaxDemand :=
  let propertyTaxDemand := roundMoney (current.propertyTaxDemand + summary.propertyTax)
  let waterTaxDemand := roundMoney (current.waterTaxDemand + summary.waterTax)
  let drainageTaxDemand := roundMoney (current.drainageTaxDemand + summary.drainageTax)
  { current with
    propertyTaxDemand, waterTaxDemand, drainageTaxDemand
    totalTaxDemand := roundMoney (propertyTaxDemand + waterTaxDemand + drainageTaxDemand)
    surveyedWithDemand := current.surveyedWithDemand + 1 }

/-- A survey without rates is skipped, and so is one whose tax cannot be computed. -/
def chargeSurvey (rateTableByWard : Id → Option ExportTaxRateTable)
    (current : Option WardTaxDemand) (survey : Survey) : WardTaxDemand :=
  let current := current.getD (emptyWardDemand none)
  match rateTableByWard survey.wardId with
  | none => current.skip
  | some rates =>
      match computeSurveyExportTax (survey.dashboardInput rates) with
      | .ok summary => current.add summary
      | .error _ => current.skip

/-! ### The overall figures -/

structure OverallDemand where
  propertyTaxDemand : ℚ := 0
  waterTaxDemand : ℚ := 0
  drainageTaxDemand : ℚ := 0
  labelRates : Option WardTaxDemand := none

/-- The labels are those of the first ward with a rate. -/
def addWard (byWard : Id → Option WardTaxDemand) (overall : OverallDemand) (wardId : Id) :
    OverallDemand :=
  let row := (byWard wardId).getD (emptyWardDemand none)
  { propertyTaxDemand := roundMoney (overall.propertyTaxDemand + row.propertyTaxDemand)
    waterTaxDemand := roundMoney (overall.waterTaxDemand + row.waterTaxDemand)
    drainageTaxDemand := roundMoney (overall.drainageTaxDemand + row.drainageTaxDemand)
    labelRates :=
      if overall.labelRates.isNone ∧
          (row.propertyTaxPct > 0 ∨ row.waterTaxPct > 0 ∨ row.drainageTaxPct > 0) then some row
      else overall.labelRates }

def aggregateTaxDemand (billing : Billing) (input : TaxDemandInput) : TaxDemandAggregate :=
  let tables := input.wardIds.foldl (openWard billing input.configsByWardId)
    ⟨fun _ => none, fun _ => none⟩
  let byWard := input.surveys.foldl (touch Survey.wardId (chargeSurvey tables.rateTableByWard))
    tables.byWard
  let overall := input.wardIds.foldl (addWard byWard) {}
  { propertyTaxDemand := overall.propertyTaxDemand
    waterTaxDemand := overall.waterTaxDemand
    drainageTaxDemand := overall.drainageTaxDemand
    totalTaxDemand := roundMoney
      (overall.propertyTaxDemand + overall.waterTaxDemand + overall.drainageTaxDemand)
    propertyTaxPct := (overall.labelRates.map WardTaxDemand.propertyTaxPct).getD 0
    waterTaxPct := (overall.labelRates.map WardTaxDemand.waterTaxPct).getD 0
    drainageTaxPct := (overall.labelRates.map WardTaxDemand.drainageTaxPct).getD 0
    byWard }

/-! ### One bill -/

/-- The dashboard and the citizen's dues ask the same of a survey. -/
theorem dashboardInput_eq (survey : Survey) (rates : ExportTaxRateTable) :
    survey.dashboardInput rates = survey.duesInput rates := rfl

/-- The tax that is computed for the dues is on the bill. -/
theorem computePublicDuesPayload_ok {survey : Survey} {config : TaxConfig}
    {summary : SurveyExportTax}
    (h : computeSurveyExportTax (survey.duesInput (taxConfigToRateTable config)) = .ok summary) :
    ∃ bill, computePublicDuesPayload survey config = .ok bill ∧
      bill.tax.propertyTax = summary.propertyTax ∧ bill.tax.waterTax = summary.waterTax ∧
      bill.tax.drainageTax = summary.drainageTax := by
  rw [computePublicDuesPayload, h]
  exact ⟨_, rfl, rfl, rfl, rfl⟩

/-! ### The running totals of a ward -/

/-- The running totals are whole paise, and their total is their sum. -/
structure WardTaxDemand.Exact (row : WardTaxDemand) : Prop where
  propertyTax : InPaise row.propertyTaxDemand
  waterTax : InPaise row.waterTaxDemand
  drainageTax : InPaise row.drainageTaxDemand
  total : row.totalTaxDemand =
    row.propertyTaxDemand + row.waterTaxDemand + row.drainageTaxDemand

/-- A ward starts from sums of nothing, which are whole paise. -/
theorem emptyWardDemand_exact (rates : Option ExportTaxRateTable) : (emptyWardDemand rates).Exact :=
  ⟨inPaise_zero, inPaise_zero, inPaise_zero, by simp [emptyWardDemand, EMPTY_WARD]⟩

section Row
variable {row : WardTaxDemand} {summary : SurveyExportTax} {input : SurveyTaxInput}

/-- A skipped survey leaves the sums as they were. -/
theorem WardTaxDemand.Exact.skip (h : row.Exact) : row.skip.Exact :=
  ⟨h.propertyTax, h.waterTax, h.drainageTax, h.total⟩

/-- A round adds what the survey is billed, to the paisa. -/
theorem WardTaxDemand.Exact.add (h : row.Exact)
    (hSummary : computeSurveyExportTax input = .ok summary) :
    (row.add summary).Exact ∧
      (row.add summary).propertyTaxDemand = row.propertyTaxDemand + summary.propertyTax ∧
      (row.add summary).waterTaxDemand = row.waterTaxDemand + summary.waterTax ∧
      (row.add summary).drainageTaxDemand = row.drainageTaxDemand + summary.drainageTax := by
  obtain ⟨hProperty, hWater, hDrainage⟩ := computeSurveyExportTax_inPaise hSummary
  have hSum := (h.propertyTax.add hProperty).roundMoney_eq
  have hSum' := (h.waterTax.add hWater).roundMoney_eq
  have hSum'' := (h.drainageTax.add hDrainage).roundMoney_eq
  refine ⟨⟨inPaise_roundMoney _, inPaise_roundMoney _, inPaise_roundMoney _, ?_⟩, hSum, hSum',
    hSum''⟩
  exact (((inPaise_roundMoney _).add (inPaise_roundMoney _)).add
    (inPaise_roundMoney _)).roundMoney_eq

end Row

section Surveys
variable {rateTableByWard : Id → Option ExportTaxRateTable} {wardId : Id} {surveys : List Survey}
  {row : WardTaxDemand}

/-- The row of a ward after some of its surveys. -/
def chargeAll (rateTableByWard : Id → Option ExportTaxRateTable) (row : WardTaxDemand)
    (surveys : List Survey) : WardTaxDemand :=
  surveys.foldl (fun current survey => chargeSurvey rateTableByWard (some current) survey) row

/-- A charged survey leaves the sums whole paise. -/
theorem chargeSurvey_exact (h : row.Exact) (survey : Survey) :
    (chargeSurvey rateTableByWard (some row) survey).Exact := by
  unfold chargeSurvey
  dsimp only [Option.getD_some]
  cases rateTableByWard survey.wardId with
  | none => exact h.skip
  | some rates =>
      dsimp only
      cases hSummary : computeSurveyExportTax (survey.dashboardInput rates) with
      | error message => exact h.skip
      | ok summary => exact (h.add hSummary).1

/-- The sums of a ward are whole paise after any surveys. -/
theorem chargeAll_exact (h : row.Exact) (surveys : List Survey) :
    (chargeAll rateTableByWard row surveys).Exact := by
  induction surveys generalizing row with
  | nil => exact h
  | cons survey rest ih => exact ih (chargeSurvey_exact h survey)

/-- Every survey is counted, as surveyed or as skipped. -/
theorem chargeAll_counts (row : WardTaxDemand) (surveys : List Survey) :
    (chargeAll rateTableByWard row surveys).surveyedWithDemand +
        (chargeAll rateTableByWard row surveys).skippedSurveys =
      row.surveyedWithDemand + row.skippedSurveys + surveys.length := by
  induction surveys generalizing row with
  | nil => rfl
  | cons survey rest ih =>
      have hStep : (chargeSurvey rateTableByWard (some row) survey).surveyedWithDemand +
          (chargeSurvey rateTableByWard (some row) survey).skippedSurveys =
            row.surveyedWithDemand + row.skippedSurveys + 1 := by
        unfold chargeSurvey
        dsimp only [Option.getD_some]
        cases rateTableByWard survey.wardId with
        | none => rfl
        | some rates =>
            dsimp only
            cases computeSurveyExportTax (survey.dashboardInput rates) with
            | error message => rfl
            | ok summary => exact Nat.add_right_comm _ _ _
      have hRest := ih (chargeSurvey rateTableByWard (some row) survey)
      rw [hStep] at hRest
      rw [List.length_cons, Nat.add_comm rest.length, ← Nat.add_assoc]
      exact hRest

/-- The bills, and nothing else, were added to the row. -/
structure WardTaxDemand.Billed (start row : WardTaxDemand) (bills : List PublicDues) : Prop where
  propertyTax : row.propertyTaxDemand =
    start.propertyTaxDemand + (bills.map fun bill => bill.tax.propertyTax).sum
  waterTax : row.waterTaxDemand =
    start.waterTaxDemand + (bills.map fun bill => bill.tax.waterTax).sum
  drainageTax : row.drainageTaxDemand =
    start.drainageTaxDemand + (bills.map fun bill => bill.tax.drainageTax).sum
  surveyed : row.surveyedWithDemand = start.surveyedWithDemand + bills.length
  skipped : row.skippedSurveys = start.skippedSurveys

theorem WardTaxDemand.Billed.cons {start next : WardTaxDemand} {bill : PublicDues}
    {bills : List PublicDues} (hFirst : start.Billed next [bill]) (hRest : next.Billed row bills) :
    start.Billed row (bill :: bills) := by
  obtain ⟨hProperty, hWater, hDrainage, hSurveyed, hSkipped⟩ := hFirst
  obtain ⟨hProperty', hWater', hDrainage', hSurveyed', hSkipped'⟩ := hRest
  simp only [List.map_cons, List.map_nil, List.sum_cons, List.sum_nil, add_zero]
    at hProperty hWater hDrainage
  refine ⟨?_, ?_, ?_, ?_, hSkipped'.trans hSkipped⟩
  · rw [hProperty', hProperty, List.map_cons, List.sum_cons, add_assoc]
  · rw [hWater', hWater, List.map_cons, List.sum_cons, add_assoc]
  · rw [hDrainage', hDrainage, List.map_cons, List.sum_cons, add_assoc]
  · rw [hSurveyed', hSurveyed]
    simp only [List.length_cons, List.length_nil]
    omega

/-- A survey of a ward with rates is billed, and its bill added. -/
theorem chargeSurvey_billed {survey : Survey} {config : TaxConfig}
    (hRates : rateTableByWard survey.wardId = some (taxConfigToRateTable config)) (h : row.Exact) :
    ∃ bill, computePublicDuesPayload survey config = .ok bill ∧
      row.Billed (chargeSurvey rateTableByWard (some row) survey) [bill] := by
  obtain ⟨summary, hSummary⟩ := exists_computeSurveyExportTax
    (survey.duesInput (taxConfigToRateTable config))
    (by rw [zoneCode_duesInput]; exact (trim_zoneCode survey).2)
  obtain ⟨bill, hBill, hProperty, hWater, hDrainage⟩ := computePublicDuesPayload_ok hSummary
  obtain ⟨-, hProperty', hWater', hDrainage'⟩ := h.add hSummary
  have hCharge : chargeSurvey rateTableByWard (some row) survey = row.add summary := by
    unfold chargeSurvey
    simp only [hRates, dashboardInput_eq, hSummary, Option.getD_some]
  refine ⟨bill, hBill, ?_⟩
  rw [hCharge]
  exact ⟨by simp [hProperty', hProperty], by simp [hWater', hWater],
    by simp [hDrainage', hDrainage], rfl, rfl⟩

/-- Each survey of a ward with a config has a bill, and their sums are the row. -/
theorem chargeAll_billed {config : TaxConfig}
    (hRates : rateTableByWard wardId = some (taxConfigToRateTable config))
    (hWard : ∀ survey ∈ surveys, survey.wardId = wardId) (h : row.Exact) :
    ∃ bills, surveys.mapM (fun survey => computePublicDuesPayload survey config) = .ok bills ∧
      row.Billed (chargeAll rateTableByWard row surveys) bills := by
  induction surveys generalizing row with
  | nil => exact ⟨[], rfl, by simp [chargeAll], by simp [chargeAll], by simp [chargeAll], rfl, rfl⟩
  | cons survey rest ih =>
      obtain ⟨hFirst, hRest⟩ := List.forall_mem_cons.mp hWard
      obtain ⟨bill, hBill, hBilled⟩ := chargeSurvey_billed (hFirst ▸ hRates) h
      obtain ⟨bills, hBills, hAll⟩ := ih hRest (chargeSurvey_exact h survey)
      refine ⟨bill :: bills, ?_, hBilled.cons hAll⟩
      rw [List.mapM_cons, hBill, hBills]
      rfl

end Surveys

/-! ### The tables -/

section Tables
variable {billing : Billing} {input : TaxDemandInput} {wardId : Id}

/-- The rates in force in a ward. -/
def TaxDemandInput.latestConfig (input : TaxDemandInput) (billing : Billing) (wardId : Id) :
    Option TaxConfig :=
  pickLatestPublishedConfig billing ((input.configsByWardId wardId).getD [])

def TaxDemandInput.ratesOf (input : TaxDemandInput) (billing : Billing) (wardId : Id) :
    Option ExportTaxRateTable :=
  (input.latestConfig billing wardId).map taxConfigToRateTable

/-- The ward has an entry, with its rates. -/
structure WardTables.OpenAt (tables : WardTables) (billing : Billing) (input : TaxDemandInput)
    (wardId : Id) : Prop where
  byWard : tables.byWard wardId = some (emptyWardDemand (input.ratesOf billing wardId))
  rates : tables.rateTableByWard wardId = input.ratesOf billing wardId

structure WardTables.ClosedAt (tables : WardTables) (wardId : Id) : Prop where
  byWard : tables.byWard wardId = none
  rates : tables.rateTableByWard wardId = none

/-- A ward with a config starts with its rates. -/
theorem openWard_of_config {config : TaxConfig}
    (h : input.latestConfig billing wardId = some config) (tables : WardTables) :
    openWard billing input.configsByWardId tables wardId =
      { byWard := Function.update tables.byWard wardId
          (some (emptyWardDemand (some (taxConfigToRateTable config))))
        rateTableByWard := Function.update tables.rateTableByWard wardId
          (some (taxConfigToRateTable config)) } := by
  unfold TaxDemandInput.latestConfig at h
  simp only [openWard, h]

/-- A ward without a config starts without rates. -/
theorem openWard_of_none (h : input.latestConfig billing wardId = none) (tables : WardTables) :
    openWard billing input.configsByWardId tables wardId =
      { tables with
        byWard := Function.update tables.byWard wardId (some (emptyWardDemand none)) } := by
  unfold TaxDemandInput.latestConfig at h
  simp only [openWard, h]

theorem openWard_self {tables : WardTables}
    (h : tables.ClosedAt wardId ∨ tables.OpenAt billing input wardId) :
    (openWard billing input.configsByWardId tables wardId).OpenAt billing input wardId := by
  cases hConfig : input.latestConfig billing wardId with
  | some config =>
      have hRates : input.ratesOf billing wardId = some (taxConfigToRateTable config) := by
        rw [TaxDemandInput.ratesOf, hConfig, Option.map_some]
      rw [openWard_of_config hConfig]
      exact ⟨by simp [hRates], by simp [hRates]⟩
  | none =>
      have hRates : input.ratesOf billing wardId = none := by
        rw [TaxDemandInput.ratesOf, hConfig, Option.map_none]
      rw [openWard_of_none hConfig]
      refine ⟨by simp [hRates], ?_⟩
      rcases h with hClosed | hOpen
      · exact hClosed.rates.trans hRates.symm
      · exact hOpen.rates

theorem openWard_of_ne (tables : WardTables) {first : Id} (h : wardId ≠ first) :
    (openWard billing input.configsByWardId tables first).byWard wardId = tables.byWard wardId ∧
      (openWard billing input.configsByWardId tables first).rateTableByWard wardId =
        tables.rateTableByWard wardId := by
  cases hConfig : input.latestConfig billing first with
  | some config =>
      rw [openWard_of_config hConfig]
      exact ⟨Function.update_of_ne h .., Function.update_of_ne h ..⟩
  | none =>
      rw [openWard_of_none hConfig]
      exact ⟨Function.update_of_ne h .., rfl⟩

/-- A ward is opened by the first of its ids, and stays open. -/
theorem foldl_openWard (wardIds : List Id) {tables : WardTables}
    (h : wardId ∈ wardIds ∧ tables.ClosedAt wardId ∨ tables.OpenAt billing input wardId) :
    (wardIds.foldl (openWard billing input.configsByWardId) tables).OpenAt billing input
      wardId := by
  induction wardIds generalizing tables with
  | nil => exact h.resolve_left fun hMem => absurd hMem.1 List.not_mem_nil
  | cons first rest ih =>
      rw [List.foldl_cons]
      by_cases hFirst : wardId = first
      · subst hFirst
        exact ih (.inr (openWard_self (h.imp_left And.right)))
      · obtain ⟨hRow, hRates⟩ := @openWard_of_ne billing input wardId tables first hFirst
        refine ih (h.imp ?_ fun hOpen => ⟨hRow.trans hOpen.byWard, hRates.trans hOpen.rates⟩)
        rintro ⟨hMem, hClosed⟩
        exact ⟨(List.mem_cons.mp hMem).resolve_left hFirst, hRow.trans hClosed.byWard,
          hRates.trans hClosed.rates⟩

theorem foldl_openWard_of_not_mem {wardIds : List Id} (h : wardId ∉ wardIds) {tables : WardTables}
    (hClosed : tables.ClosedAt wardId) :
    (wardIds.foldl (openWard billing input.configsByWardId) tables).ClosedAt wardId := by
  induction wardIds generalizing tables with
  | nil => exact hClosed
  | cons first rest ih =>
      obtain ⟨hRow, hRates⟩ := @openWard_of_ne billing input wardId tables first
        (List.ne_of_not_mem_cons h)
      exact ih (List.not_mem_of_not_mem_cons h)
        ⟨hRow.trans hClosed.byWard, hRates.trans hClosed.rates⟩

/-- The tables before the first survey. -/
def TaxDemandInput.opened (input : TaxDemandInput) (billing : Billing) : WardTables :=
  input.wardIds.foldl (openWard billing input.configsByWardId) ⟨fun _ => none, fun _ => none⟩

theorem opened_of_mem (h : wardId ∈ input.wardIds) :
    (input.opened billing).OpenAt billing input wardId :=
  foldl_openWard input.wardIds (.inl ⟨h, rfl, rfl⟩)

theorem opened_of_not_mem (h : wardId ∉ input.wardIds) : (input.opened billing).ClosedAt wardId :=
  foldl_openWard_of_not_mem h ⟨rfl, rfl⟩

/-! ### The rows -/

/-- The surveys of a ward, in the order they are read. -/
def TaxDemandInput.surveysOf (input : TaxDemandInput) (wardId : Id) : List Survey :=
  itemsOf Survey.wardId input.surveys wardId

/-- The row of a ward that the dashboard may not have been asked for. -/
def TaxDemandAggregate.demandOf (result : TaxDemandAggregate) (wardId : Id) : WardTaxDemand :=
  (result.byWard wardId).getD (emptyWardDemand none)

theorem byWard_of_mem (h : wardId ∈ input.wardIds) :
    (aggregateTaxDemand billing input).byWard wardId =
      some (chargeAll (input.opened billing).rateTableByWard
        (emptyWardDemand (input.ratesOf billing wardId)) (input.surveysOf wardId)) := by
  have hRow := (@opened_of_mem billing input wardId h).byWard
  change input.surveys.foldl _ (input.opened billing).byWard wardId = _
  rw [foldl_touch_apply, hRow]
  exact foldl_some _ _

/-- A survey that opens its row itself finds it empty. -/
theorem chargeSurvey_getD (rateTableByWard : Id → Option ExportTaxRateTable)
    (cell : Option WardTaxDemand) (survey : Survey) :
    chargeSurvey rateTableByWard (some (cell.getD (emptyWardDemand none))) survey =
      chargeSurvey rateTableByWard cell survey := by
  unfold chargeSurvey
  rw [Option.getD_some]

/-- Charging surveys into the cell of a ward charges them all into its row. -/
theorem foldl_chargeSurvey (rateTableByWard : Id → Option ExportTaxRateTable)
    (surveys : List Survey) (cell : Option WardTaxDemand) :
    (surveys.foldl (fun cell survey => some (chargeSurvey rateTableByWard cell survey))
        cell).getD (emptyWardDemand none) =
      chargeAll rateTableByWard (cell.getD (emptyWardDemand none)) surveys := by
  induction surveys generalizing cell with
  | nil => rfl
  | cons survey rest ih =>
      rw [List.foldl_cons, ih, Option.getD_some, chargeAll, chargeAll, List.foldl_cons,
        chargeSurvey_getD]

/-- The rates that the row of a ward starts with. -/
def TaxDemandInput.startRates (input : TaxDemandInput) (billing : Billing) (wardId : Id) :
    Option ExportTaxRateTable :=
  if wardId ∈ input.wardIds then input.ratesOf billing wardId else none

/-- The row of any ward is its own surveys, charged. -/
theorem demandOf_eq (billing : Billing) (input : TaxDemandInput) (wardId : Id) :
    (aggregateTaxDemand billing input).demandOf wardId =
      chargeAll (input.opened billing).rateTableByWard
        (emptyWardDemand (input.startRates billing wardId)) (input.surveysOf wardId) := by
  unfold TaxDemandInput.startRates
  split_ifs with hMem
  · rw [TaxDemandAggregate.demandOf, byWard_of_mem hMem, Option.getD_some]
  · have hRow := (@opened_of_not_mem billing input wardId hMem).byWard
    change (input.surveys.foldl _ (input.opened billing).byWard wardId).getD _ = _
    rw [foldl_touch_apply, hRow]
    exact foldl_chargeSurvey _ _ none

/-- The row of any ward is of whole paise. -/
theorem demandOf_exact (billing : Billing) (input : TaxDemandInput) (wardId : Id) :
    ((aggregateTaxDemand billing input).demandOf wardId).Exact := by
  rw [demandOf_eq]
  exact chargeAll_exact (emptyWardDemand_exact _) _

end Tables

/-! ### The overall figures -/

/-- The rows together were added to the figures. -/
structure OverallDemand.Adds (start overall : OverallDemand) (rows : List WardTaxDemand) :
    Prop where
  propertyTax : overall.propertyTaxDemand =
    start.propertyTaxDemand + (rows.map WardTaxDemand.propertyTaxDemand).sum
  waterTax : overall.waterTaxDemand =
    start.waterTaxDemand + (rows.map WardTaxDemand.waterTaxDemand).sum
  drainageTax : overall.drainageTaxDemand =
    start.drainageTaxDemand + (rows.map WardTaxDemand.drainageTaxDemand).sum

/-- The overall sums are the sums of the wards' rows. -/
theorem foldl_addWard (byWard : Id → Option WardTaxDemand) (overall : OverallDemand)
    {wardIds : List Id}
    (hRows : ∀ wardId ∈ wardIds, ((byWard wardId).getD (emptyWardDemand none)).Exact)
    (hProperty : InPaise overall.propertyTaxDemand) (hWater : InPaise overall.waterTaxDemand)
    (hDrainage : InPaise overall.drainageTaxDemand) :
    overall.Adds (wardIds.foldl (addWard byWard) overall)
      (wardIds.map fun wardId => (byWard wardId).getD (emptyWardDemand none)) := by
  induction wardIds generalizing overall with
  | nil => exact ⟨(add_zero _).symm, (add_zero _).symm, (add_zero _).symm⟩
  | cons wardId rest ih =>
      obtain ⟨hRow, hRest⟩ := List.forall_mem_cons.mp hRows
      obtain ⟨hSum, hSum', hSum''⟩ := ih (addWard byWard overall wardId) hRest
        (inPaise_roundMoney _) (inPaise_roundMoney _) (inPaise_roundMoney _)
      have hProperty' := (hProperty.add hRow.propertyTax).roundMoney_eq
      have hWater' := (hWater.add hRow.waterTax).roundMoney_eq
      have hDrainage' := (hDrainage.add hRow.drainageTax).roundMoney_eq
      refine ⟨hSum.trans ?_, hSum'.trans ?_, hSum''.trans ?_⟩
      · rw [addWard, hProperty', List.map_cons, List.map_cons, List.sum_cons, add_assoc]
      · rw [addWard, hWater', List.map_cons, List.map_cons, List.sum_cons, add_assoc]
      · rw [addWard, hDrainage', List.map_cons, List.map_cons, List.sum_cons, add_assoc]

/-! ### The dashboard against the bills -/

section Dashboard
variable (billing : Billing) (input : TaxDemandInput)

/-- How many surveys a row accounts for. -/
def WardTaxDemand.counted (row : WardTaxDemand) : Nat := row.surveyedWithDemand + row.skippedSurveys

/-- Every survey of a ward is counted in its row. -/
theorem counted_demandOf (wardId : Id) :
    ((aggregateTaxDemand billing input).demandOf wardId).counted =
      (input.surveysOf wardId).length := by
  rw [demandOf_eq, WardTaxDemand.counted, chargeAll_counts]
  simp [emptyWardDemand, EMPTY_WARD]

/-- The row of a ward says what its bills come to. -/
structure WardTaxDemand.SaysOf (row : WardTaxDemand) (bills : List PublicDues) : Prop where
  propertyTax : row.propertyTaxDemand = (bills.map fun bill => bill.tax.propertyTax).sum
  waterTax : row.waterTaxDemand = (bills.map fun bill => bill.tax.waterTax).sum
  drainageTax : row.drainageTaxDemand = (bills.map fun bill => bill.tax.drainageTax).sum
  total : row.totalTaxDemand =
    row.propertyTaxDemand + row.waterTaxDemand + row.drainageTaxDemand
  surveyed : row.surveyedWithDemand = bills.length
  skipped : row.skippedSurveys = 0

variable {billing input} in
/-- The row of a ward with a config says what its bills say. -/
theorem byWard_saysOf {wardId : Id} (hMem : wardId ∈ input.wardIds) {config : TaxConfig}
    (hConfig : input.latestConfig billing wardId = some config) :
    ∃ row bills, (aggregateTaxDemand billing input).byWard wardId = some row ∧
      (input.surveysOf wardId).mapM (fun survey => computePublicDuesPayload survey config) =
        .ok bills ∧ row.SaysOf bills := by
  have hRates : (input.opened billing).rateTableByWard wardId =
      some (taxConfigToRateTable config) := by
    rw [(opened_of_mem hMem).rates, TaxDemandInput.ratesOf, hConfig, Option.map_some]
  have hExact := emptyWardDemand_exact (input.ratesOf billing wardId)
  obtain ⟨bills, hBills, hProperty, hWater, hDrainage, hSurveyed, hSkipped⟩ :=
    chargeAll_billed hRates (fun survey hSurvey => (mem_itemsOf.mp hSurvey).2) hExact
  refine ⟨_, bills, byWard_of_mem hMem, hBills, hProperty.trans (zero_add _),
    hWater.trans (zero_add _), hDrainage.trans (zero_add _), (chargeAll_exact hExact _).total,
    hSurveyed.trans (Nat.zero_add _), hSkipped⟩

/-- The overall figures say what the rows come to. -/
structure TaxDemandAggregate.SaysOf (result : TaxDemandAggregate) (rows : List WardTaxDemand) :
    Prop where
  propertyTax : result.propertyTaxDemand = (rows.map WardTaxDemand.propertyTaxDemand).sum
  waterTax : result.waterTaxDemand = (rows.map WardTaxDemand.waterTaxDemand).sum
  drainageTax : result.drainageTaxDemand = (rows.map WardTaxDemand.drainageTaxDemand).sum
  total : result.totalTaxDemand = (rows.map WardTaxDemand.totalTaxDemand).sum

/-- The totals of the rows are the sums of their three taxes. -/
theorem sum_totalTaxDemand {rows : List WardTaxDemand} (h : ∀ row ∈ rows, row.Exact) :
    (rows.map WardTaxDemand.totalTaxDemand).sum =
      (rows.map WardTaxDemand.propertyTaxDemand).sum +
        (rows.map WardTaxDemand.waterTaxDemand).sum +
        (rows.map WardTaxDemand.drainageTaxDemand).sum := by
  rw [← List.sum_map_add, ← List.sum_map_add]
  exact congrArg List.sum (List.map_congr_left fun row hRow => (h row hRow).total)

/-- The overall demand says what the rows of the wards say. -/
theorem aggregateTaxDemand_saysOf : (aggregateTaxDemand billing input).SaysOf
    (input.wardIds.map (aggregateTaxDemand billing input).demandOf) := by
  let result := aggregateTaxDemand billing input
  let rows := input.wardIds.map result.demandOf
  have hExact : ∀ row ∈ rows, row.Exact := by
    intro row hRow
    obtain ⟨wardId, -, rfl⟩ := List.mem_map.mp hRow
    exact demandOf_exact billing input wardId
  obtain ⟨hProperty, hWater, hDrainage⟩ := @foldl_addWard result.byWard {} input.wardIds
    (fun wardId _ => demandOf_exact billing input wardId) inPaise_zero inPaise_zero inPaise_zero
  have hProperty : result.propertyTaxDemand = (rows.map WardTaxDemand.propertyTaxDemand).sum :=
    hProperty.trans (zero_add _)
  have hWater : result.waterTaxDemand = (rows.map WardTaxDemand.waterTaxDemand).sum :=
    hWater.trans (zero_add _)
  have hDrainage : result.drainageTaxDemand = (rows.map WardTaxDemand.drainageTaxDemand).sum :=
    hDrainage.trans (zero_add _)
  have hPaise : InPaise (result.propertyTaxDemand + result.waterTaxDemand +
      result.drainageTaxDemand) := by
    rw [hProperty, hWater, hDrainage]
    exact ((inPaise_sum_map fun row hRow => (hExact row hRow).propertyTax).add
      (inPaise_sum_map fun row hRow => (hExact row hRow).waterTax)).add
      (inPaise_sum_map fun row hRow => (hExact row hRow).drainageTax)
  refine ⟨hProperty, hWater, hDrainage, hPaise.roundMoney_eq.trans ?_⟩
  rw [hProperty, hWater, hDrainage, ← sum_totalTaxDemand hExact]

end Dashboard

end PropertyTax
