import PropertyTax.Tax.FloorTotals

/-! The dues a citizen sees: the lines of the demand notice and the tax that is
billed, both computed from a survey and a published configuration. -/
namespace PropertyTax

section RateTable

/-- A later cell of the same key replaces an earlier one. -/
def setRate (table : String → Option ℚ) (cell : TaxRateCell) : String → Option ℚ :=
  Function.update table (taxRateKey cell.roadWidthCode cell.constructionCode)
    (some cell.annualRatePerSqFt)

/-- The first positive rate of a zone is kept. -/
def setAnyRate (table : String → Option ℚ) (cell : TaxRateCell) : String → Option ℚ :=
  if table cell.roadWidthCode = none ∧ cell.annualRatePerSqFt > 0 then
    Function.update table cell.roadWidthCode (some cell.annualRatePerSqFt)
  else table

def taxConfigToRateTable (config : TaxConfig) : ExportTaxRateTable where
  assessablePct := config.assessablePct
  commercialAssessablePct := config.commercialAssessablePct
  propertyTaxPct := config.propertyTaxPct
  waterTaxPct := config.waterTaxPct
  drainageTaxPct := config.drainageTaxPct
  penaltyPct := config.penaltyPct
  rateByZoneAndConstruction := config.cells.foldl setRate fun _ => none
  anyRateByZone := config.cells.foldl setAnyRate fun _ => none

end RateTable

structure NoticeFloorLine where
  floorLabel : String
  usageType : String
  usageFactor : String
  construction : String
  areaSqFt : ℚ
  rate : ℚ
  alv : ℚ
  tax : ℚ

/-- The tax section of the dues. -/
structure DuesTaxSection where
  propertyTaxPct : ℚ
  waterTaxPct : ℚ
  drainageTaxPct : ℚ
  penaltyPct : ℚ
  assessablePct : ℚ
  commercialAssessablePct : ℚ
  propertyTax : ℚ
  waterTax : ℚ
  drainageTax : ℚ
  penalty : ℚ
  totalDemand : ℚ
  annualBaseRate : Option ℚ

structure PublicDues where
  id : Id
  surveyId : String
  assessmentYear : AssessmentYearRef
  taxConfigId : Id
  taxConfigVersion : Nat
  floors : List NoticeFloorLine
  tax : DuesTaxSection

/-- `text || "—"` -/
def orDash (text : String) : String := if text = "" then "—" else text

namespace Survey
variable (survey : Survey) (rates : ExportTaxRateTable)

def zoneCode : String := (mapTaxRateZoneCode survey.taxRateZone).getD "BELOW_9M"

def gisClass : Option GisUseClass := resolveSurveyGisUseClass none (some survey.surveyId)

def openLand : Bool :=
  decide (survey.gisClass = some .openLand) ||
    (survey.gisClass.isNone && usageLooksOpenLand (survey.propertyUse.getD ""))

/-- `floor.buildingType ?? floor.usageType` -/
def constructionOf (floor : Floor) : String :=
  mapConstructionCode (floor.buildingType <|> floor.usageType)

def baseRate (floor : Floor) : ℚ :=
  (rates.rateByZoneAndConstruction
    (taxRateKey survey.zoneCode (constructionOf floor))).getD 0

def floorLine (floor : Floor) : NoticeFloorLine :=
  let rate := resolveEffectiveMonthlyRate (survey.baseRate rates floor) floor.usageFactor
    floor.usageType survey.propertyUse survey.gisClass
  let alv := computeFloorAlv (toTaxNumber floor.areaSqFt) rate
    (resolveAssessablePct survey.propertyUse floor.usageType floor.usageFactor
      rates.assessableOpts survey.gisClass)
    rates.propertyTaxPct
  { floorLabel := orDash floor.floorLabel
    usageType := floor.usageType.getD "—"
    usageFactor := floor.usageFactor.getD "—"
    construction := (floor.buildingType <|> floor.usageType).getD "—"
    areaSqFt := roundMoney (toTaxNumber floor.areaSqFt)
    rate
    alv := alv.assessableAlv
    tax := alv.propertyTax }

/-- `plot || built-up || plinth` -/
def plotArea : ℚ :=
  let plot := toTaxNumber survey.plotAreaSqFt
  let builtUp := toTaxNumber survey.totalBuiltUpAreaSqFt
  if plot ≠ 0 then plot else if builtUp ≠ 0 then builtUp else toTaxNumber survey.plinthAreaSqFt

def openLandRate : ℚ :=
  (rates.rateByZoneAndConstruction (taxRateKey survey.zoneCode "OPEN_LAND") <|>
    rates.anyRateByZone survey.zoneCode).getD 0

def plotLine : NoticeFloorLine :=
  let alv := computeFloorAlv survey.plotArea (survey.openLandRate rates) 100 rates.propertyTaxPct
  { floorLabel := "Open Land / Plot"
    usageType := survey.propertyUse.getD "Open Land"
    usageFactor := "—"
    construction := "OPEN_LAND"
    areaSqFt := roundMoney survey.plotArea
    rate := survey.openLandRate rates
    alv := alv.assessableAlv
    tax := alv.propertyTax }

end Survey

/-- One line for each floor; open land without floors has a line for its plot. -/
def buildNoticeFloorLines (survey : Survey) (rates : ExportTaxRateTable) : List NoticeFloorLine :=
  if survey.floors = [] ∧ survey.openLand then [survey.plotLine rates]
  else survey.floors.map (survey.floorLine rates)

namespace Survey
variable (survey : Survey) (rates : ExportTaxRateTable)

def floorInput (floor : Floor) : ExportTaxFloorInput where
  floorKey := floor.floorLabel
  constructionCode := constructionOf floor
  usageResidential := isResidentialUsage floor.usageType survey.propertyUse survey.gisClass
  areaSqFt := toTaxNumber floor.areaSqFt
  usageType := floor.usageType
  usageFactor := floor.usageFactor

def duesInput : SurveyTaxInput where
  taxRateZoneCode := survey.zoneCode
  propertyUse := survey.propertyUse
  gisUseCode := none
  surveyId := some survey.surveyId
  floors := survey.floors.map survey.floorInput
  plotAreaSqFt := some (toTaxNumber survey.plotAreaSqFt)
  plinthAreaSqFt := some (toTaxNumber survey.plinthAreaSqFt)
  totalBuiltUpAreaSqFt := some (toTaxNumber survey.totalBuiltUpAreaSqFt)
  rates := rates

/-- The first positive rate of a floor, else the rate of the plot. -/
def annualBaseRate (plotRate : Option ℚ) : Option ℚ :=
  ((survey.floors.map (survey.baseRate rates)).find? fun base => decide (base > 0)) <|> plotRate

end Survey

def computePublicDuesPayload (survey : Survey) (config : TaxConfig) : Except String PublicDues := do
  let rates := taxConfigToRateTable config
  let summary ← computeSurveyExportTax (survey.duesInput rates)
  return {
    id := survey.id
    surveyId := survey.surveyId
    assessmentYear := config.assessmentYear
    taxConfigId := config.id
    taxConfigVersion := config.version
    floors := buildNoticeFloorLines survey rates
    tax := {
      propertyTaxPct := rates.propertyTaxPct
      waterTaxPct := rates.waterTaxPct
      drainageTaxPct := rates.drainageTaxPct
      penaltyPct := rates.penaltyPct
      assessablePct := rates.assessablePct
      commercialAssessablePct := rates.commercialAssessablePct
      propertyTax := summary.propertyTax
      waterTax := summary.waterTax
      drainageTax := summary.drainageTax
      penalty := summary.penalty
      totalDemand := summary.totalDemand
      annualBaseRate := survey.annualBaseRate rates summary.plotRate } }

end PropertyTax
