import PropertyTax.Money
import PropertyTax.Tax.TaxZoneMap

/-! The tax of a survey: what a floor or a plot is charged, the preview of the
rate screen, and the calculation behind the ward report and the citizen's dues.
A cell of the report that shows a dash holds no value. -/
namespace PropertyTax

structure AssessablePctOptions where
  residentialPct : ℚ
  commercialPct : ℚ

def usageLooksCommercial (text : String) : Bool := mentionsCommerce (Js.toLowerCase text)

def usageLooksOpenLand (text : String) : Bool := Js.includes (Js.toLowerCase text) "open"

/-- The usage type of a floor, else its usage factor and the use of the property. -/
def resolveHeuristicUsageKey (usageType usageFactor propertyUse : Option String) : String :=
  let floor := Js.trim (usageType.getD "")
  if floor ≠ "" then Js.toLowerCase floor
  else Js.trim (Js.toLowerCase (usageFactor.getD "" ++ " " ++ propertyUse.getD ""))

def resolveAssessablePct (propertyUse usageType usageFactor : Option String)
    (options : AssessablePctOptions) (gisUseClass : Option GisUseClass) : ℚ :=
  match gisUseClass with
  | some .openLand => 100
  | some .commercial => options.commercialPct
  | some .residential => options.residentialPct
  | some .mixed | none =>
      let key := resolveHeuristicUsageKey usageType usageFactor propertyUse
      if usageLooksOpenLand key then 100
      else if usageLooksCommercial key then options.commercialPct
      else options.residentialPct

/-- Whatever is not commercial keeps the published rate. -/
def resolveUsageRateMult (usageFactor usageType propertyUse : Option String)
    (gisUseClass : Option GisUseClass) : ℚ :=
  match gisUseClass with
  | some .commercial => 2
  | some .residential | some .openLand => 1
  | some .mixed | none =>
      if usageLooksCommercial (resolveHeuristicUsageKey usageType usageFactor propertyUse) then 2
      else 1

def resolveEffectiveMonthlyRate (baseRate : ℚ) (usageFactor usageType propertyUse : Option String)
    (gisUseClass : Option GisUseClass) : ℚ :=
  roundMoney (baseRate * resolveUsageRateMult usageFactor usageType propertyUse gisUseClass)

def resolveSurveyGisUseClass (gisUseCode surveyId : Option String) : Option GisUseClass :=
  classifyGisUseCode gisUseCode <|> classifyGisUseCode surveyId

structure FloorAlv where
  grossAlv : ℚ
  assessableAlv : ℚ
  propertyTax : ℚ

/-- The monthly rate of a square foot makes an annual value. -/
def computeFloorAlv (areaSqFt monthlyRatePerSqFt assessablePct propertyTaxPct : ℚ) : FloorAlv :=
  let grossAlv := roundMoney (areaSqFt * monthlyRatePerSqFt * 12)
  let assessableAlv := roundMoney (grossAlv * (assessablePct / 100))
  { grossAlv, assessableAlv
    propertyTax := roundMoney (assessableAlv * (propertyTaxPct / 100)) }

structure DemandTotals where
  waterTax : ℚ
  drainageTax : ℚ
  penalty : ℚ
  totalAnnualDemand : ℚ

def penaltyOn (propertyTax penaltyPct : ℚ) : ℚ :=
  if penaltyPct > 0 then roundMoney (propertyTax * (penaltyPct / 100)) else 0

def computeDemandTotals (totalAssessableAlv propertyTax waterTaxPct drainageTaxPct penaltyPct : ℚ)
    (includeWater includeDrainage : Bool) : DemandTotals :=
  let waterTax :=
    if includeWater then roundMoney (totalAssessableAlv * (waterTaxPct / 100)) else 0
  let drainageTax :=
    if includeDrainage then roundMoney (totalAssessableAlv * (drainageTaxPct / 100)) else 0
  let penalty := penaltyOn propertyTax penaltyPct
  { waterTax, drainageTax, penalty
    totalAnnualDemand := roundMoney (propertyTax + waterTax + drainageTax + penalty) }

/-! ### The preview -/

structure GisPreviewInput where
  areaSqFt : ℚ
  baseMonthlyRate : ℚ
  gisUseCode : Option String
  assessablePct : ℚ
  commercialAssessablePct : ℚ
  propertyTaxPct : ℚ
  waterTaxPct : ℚ
  drainageTaxPct : ℚ
  penaltyPct : ℚ

structure GisPreviewDemand where
  gisClass : GisUseClass
  effectiveMonthlyRate : ℚ
  assessablePct : ℚ
  alv : FloorAlv
  waterTax : ℚ
  drainageTax : ℚ
  penalty : ℚ
  demand : ℚ

/-- A mixed property is priced floor by floor. -/
def rateGisClass (gisClass : Option GisUseClass) : Option GisUseClass :=
  if gisClass = some .mixed then none else gisClass

def computeGisPreviewDemand (input : GisPreviewInput) : GisPreviewDemand :=
  let gisClass := (classifyGisUseCode (some (input.gisUseCode.getD "R"))).getD .residential
  let rateClass := rateGisClass (some gisClass)
  let effectiveMonthlyRate :=
    resolveEffectiveMonthlyRate input.baseMonthlyRate none none none rateClass
  let assessablePct := resolveAssessablePct none none none
    ⟨input.assessablePct, input.commercialAssessablePct⟩ rateClass
  let alv := computeFloorAlv input.areaSqFt effectiveMonthlyRate assessablePct input.propertyTaxPct
  let includeWater := decide (gisClass ≠ .openLand)
  let totals := computeDemandTotals alv.assessableAlv alv.propertyTax input.waterTaxPct
    input.drainageTaxPct input.penaltyPct includeWater includeWater
  { gisClass, effectiveMonthlyRate, assessablePct, alv
    waterTax := totals.waterTax
    drainageTax := totals.drainageTax
    penalty := totals.penalty
    demand := totals.totalAnnualDemand }

/-! ### The tax of a survey -/

/-- A missing number counts as zero. -/
def toTaxNumber (value : Option ℚ) : ℚ := value.getD 0

structure ExportTaxRateTable where
  assessablePct : ℚ
  commercialAssessablePct : ℚ
  propertyTaxPct : ℚ
  waterTaxPct : ℚ
  drainageTaxPct : ℚ
  penaltyPct : ℚ
  rateByZoneAndConstruction : String → Option ℚ
  anyRateByZone : String → Option ℚ

namespace ExportTaxRateTable
variable (rates : ExportTaxRateTable)

def assessableOpts : AssessablePctOptions :=
  ⟨rates.assessablePct, rates.commercialAssessablePct⟩

end ExportTaxRateTable

def taxRateKey (zoneCode constructionCode : String) : String :=
  zoneCode ++ "::" ++ constructionCode

structure ExportTaxFloorInput where
  floorKey : String
  constructionCode : String
  usageResidential : Bool
  areaSqFt : ℚ
  usageType : Option String
  usageFactor : Option String

structure SurveyTaxInput where
  taxRateZoneCode : String
  propertyUse : Option String
  gisUseCode : Option String
  surveyId : Option String
  floors : List ExportTaxFloorInput
  plotAreaSqFt : Option ℚ
  plinthAreaSqFt : Option ℚ
  totalBuiltUpAreaSqFt : Option ℚ
  rates : ExportTaxRateTable

/-- Where the area of a floor is reported, if it is. -/
def slotForFloor (floorKey : String) (residential : Bool) : Option (Fin 8) :=
  let key := Js.toLowerCase floorKey
  let slot (base : Fin 8) : Fin 8 := base + if residential then 0 else 1
  if Js.includes key "basement" then some (slot 0)
  else if Js.includes key "ground" then some (slot 2)
  else if Js.includes key "first" then some (slot 4)
  else if Js.includes key "second" then some (slot 6)
  else if Js.includes key "third" then some (slot 6)
  else none

inductive ConstructionBand where
  | rcc | teen | kaccha
deriving DecidableEq

def constructionBand (code : String) : ConstructionBand :=
  let c := Js.toUpperCase code
  if Js.includes c "PAKKA" || Js.includes c "RCC" then .rcc
  else if Js.includes c "TIN" || Js.includes c "TEEN" || Js.includes c "SHED" then .teen
  else if Js.includes c "KACCHA" || Js.includes c "KACHCHA" then .kaccha
  else .rcc

/-- The first of the three report columns of a band. -/
def ConstructionBand.offset : ConstructionBand → Fin 9
  | rcc => 0
  | teen => 3
  | kaccha => 6

abbrev TaxCells := Fin 9 → Option ℚ

/-- What the loop over the floors has written so far. -/
structure FloorTotals where
  floorAreaBySlot : Fin 8 → ℚ := fun _ => 0
  propertyTax : ℚ := 0
  totalAssessableAlv : ℚ := 0
  residentialTaxCells : TaxCells := fun _ => none
  nonResidentialTaxCells : TaxCells := fun _ => none

/-- The Tax cells of a usage, at positions 2, 5 and 8; a dash counts as zero. -/
def taxColumnTotal (cells : TaxCells) : ℚ :=
  (cells 2).getD 0 + (cells 5).getD 0 + (cells 8).getD 0

/-- The Tax cell of a usage and band. -/
def FloorTotals.taxCell (totals : FloorTotals) (cell : Bool × ConstructionBand) : Option ℚ :=
  (if cell.1 then totals.residentialTaxCells else totals.nonResidentialTaxCells)
    (cell.2.offset + 2)

namespace SurveyTaxInput
variable (input : SurveyTaxInput)

def zoneCode : String := Js.trim input.taxRateZoneCode

def gisClass : Option GisUseClass := resolveSurveyGisUseClass input.gisUseCode input.surveyId

/-- The class of the property wins over the usage of the floor. -/
def usageResidential (floor : ExportTaxFloorInput) : Bool :=
  match input.gisClass with
  | some .residential => true
  | some .commercial | some .openLand => false
  | some .mixed | none => floor.usageResidential

def baseRate (floor : ExportTaxFloorInput) : ℚ :=
  (input.rates.rateByZoneAndConstruction
    (taxRateKey input.zoneCode floor.constructionCode)).getD 0

def floorRate (floor : ExportTaxFloorInput) : ℚ :=
  resolveEffectiveMonthlyRate (input.baseRate floor) floor.usageFactor floor.usageType
    input.propertyUse (rateGisClass input.gisClass)

def floorAlv (floor : ExportTaxFloorInput) : FloorAlv :=
  computeFloorAlv floor.areaSqFt (input.floorRate floor)
    (resolveAssessablePct input.propertyUse floor.usageType floor.usageFactor
      input.rates.assessableOpts (rateGisClass input.gisClass))
    input.rates.propertyTaxPct

/-- The area of a floor is added to its slot, priced or not. -/
def addArea (floor : ExportTaxFloorInput) (areas : Fin 8 → ℚ) : Fin 8 → ℚ :=
  match slotForFloor floor.floorKey (input.usageResidential floor) with
  | some slot => Function.update areas slot (roundMoney (areas slot + floor.areaSqFt))
  | none => areas

/-- `target[offset] = annualRate; target[offset + 2] = floorTax` -/
def writeCells (floor : ExportTaxFloorInput) (target : TaxCells) : TaxCells :=
  let offset := (constructionBand floor.constructionCode).offset
  Function.update (Function.update target offset (some (input.floorRate floor)))
    (offset + 2) (some (input.floorAlv floor).propertyTax)

/-- One round of the loop. A floor without a positive rate is only measured. -/
def addFloor (totals : FloorTotals) (floor : ExportTaxFloorInput) : FloorTotals :=
  let floorAreaBySlot := input.addArea floor totals.floorAreaBySlot
  if input.baseRate floor ≤ 0 then { totals with floorAreaBySlot }
  else
    { floorAreaBySlot
      propertyTax := roundMoney (totals.propertyTax + (input.floorAlv floor).propertyTax)
      totalAssessableAlv :=
        roundMoney (totals.totalAssessableAlv + (input.floorAlv floor).assessableAlv)
      residentialTaxCells :=
        if input.usageResidential floor then input.writeCells floor totals.residentialTaxCells
        else totals.residentialTaxCells
      nonResidentialTaxCells :=
        if input.usageResidential floor then totals.nonResidentialTaxCells
        else input.writeCells floor totals.nonResidentialTaxCells }

def floorTotals : FloorTotals := input.floors.foldl input.addFloor {}

def openLand : Bool :=
  decide (input.gisClass = some .openLand) ||
    (input.gisClass.isNone && usageLooksOpenLand (input.propertyUse.getD ""))

def openLandRate : ℚ :=
  (input.rates.rateByZoneAndConstruction (taxRateKey input.zoneCode "OPEN_LAND") <|>
    input.rates.anyRateByZone input.zoneCode).getD 0

/-- `plot || built-up || plinth` -/
def fallbackArea : ℚ :=
  let plot := toTaxNumber input.plotAreaSqFt
  let builtUp := toTaxNumber input.totalBuiltUpAreaSqFt
  if plot ≠ 0 then plot else if builtUp ≠ 0 then builtUp else toTaxNumber input.plinthAreaSqFt

def floorsHaveArea : Bool := input.floors.any fun floor => decide (floor.areaSqFt > 0)

/-- The plot stands in when no floor contributes area. -/
def plotFallback (totalAssessableAlv : ℚ) : Option FloorAlv :=
  if totalAssessableAlv = 0 ∧ input.floorsHaveArea = false ∧ input.openLandRate > 0 ∧
      input.fallbackArea > 0 then
    some (computeFloorAlv input.fallbackArea input.openLandRate
      (resolveAssessablePct input.propertyUse none none input.rates.assessableOpts input.gisClass)
      input.rates.propertyTaxPct)
  else none

/-- Open land is charged on its plot, whatever its floors came to. -/
def openPlot : Option FloorAlv :=
  if toTaxNumber input.plotAreaSqFt > 0 ∧ input.openLandRate > 0 then
    some (computeFloorAlv (toTaxNumber input.plotAreaSqFt) input.openLandRate 100
      input.rates.propertyTaxPct)
  else none

end SurveyTaxInput

structure SurveyExportTax where
  propertyTax : ℚ
  waterTax : ℚ
  drainageTax : ℚ
  penalty : ℚ
  totalDemand : ℚ
  floorAreaBySlot : Fin 8 → ℚ
  residentialTaxCells : TaxCells
  nonResidentialTaxCells : TaxCells
  plotRate : Option ℚ
  plotTax : ℚ

def computeSurveyExportTax (input : SurveyTaxInput) : Except String SurveyExportTax :=
  if input.zoneCode = "" then .error "Survey tax rate zone is missing"
  else
    let floors := input.floorTotals
    let fallback := input.plotFallback floors.totalAssessableAlv
    let propertyTax := (fallback.map FloorAlv.propertyTax).getD floors.propertyTax
    let totalAssessableAlv :=
      (fallback.map FloorAlv.assessableAlv).getD floors.totalAssessableAlv
    let totals := computeDemandTotals totalAssessableAlv propertyTax input.rates.waterTaxPct
      input.rates.drainageTaxPct input.rates.penaltyPct (!input.openLand) (!input.openLand)
    let result : SurveyExportTax :=
      { propertyTax
        waterTax := totals.waterTax
        drainageTax := totals.drainageTax
        penalty := totals.penalty
        totalDemand := totals.totalAnnualDemand
        floorAreaBySlot := floors.floorAreaBySlot
        residentialTaxCells := floors.residentialTaxCells
        nonResidentialTaxCells := floors.nonResidentialTaxCells
        plotRate := none
        plotTax := 0 }
    if input.openLand then
      let plot := input.openPlot
      let propertyTax := (plot.map FloorAlv.propertyTax).getD propertyTax
      let penalty := penaltyOn propertyTax input.rates.penaltyPct
      .ok { result with
        propertyTax
        waterTax := 0
        drainageTax := 0
        penalty
        totalDemand := roundMoney (propertyTax + penalty)
        plotRate := plot.map fun _ => input.openLandRate
        plotTax := (plot.map FloorAlv.propertyTax).getD 0 }
    else .ok result

end PropertyTax
