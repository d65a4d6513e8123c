import PropertyTax.TaxConfigs.Store

/-! `TaxConfigsService`. Publishing writes the live rates, then a snapshot of
what it was asked to write, then the version; copying does so ward by ward. -/
namespace PropertyTax
open KeyedTable Scripts

/-! ### Requests -/

structure UpdateTaxConfigParams where
  params : RateParams (Option ℚ)
  reason : Option String := none

structure PublishTaxConfig where
  reason : Option String := none
  effectiveFrom : Option String := none
  cells : Option (List UpsertTaxCell) := none
  params : RateParams (Option ℚ) := .none

structure CopyTaxToWards where
  sourceWardId : Id
  assessmentYearId : Id
  cells : Option (List UpsertTaxCell) := none
  params : RateParams (Option ℚ) := .none

structure CopyCounts where
  updated : Nat
  skippedArchived : Nat
  demandsCreated : Nat
  demandsUpdated : Nat

/-! ### Audit entries -/

def RateParams.json (params : RateParams ℚ) : Json :=
  .obj [("propertyTaxPct", .num params.propertyTaxPct), ("waterTaxPct", .num params.waterTaxPct),
    ("drainageTaxPct", .num params.drainageTaxPct), ("penaltyPct", .num params.penaltyPct),
    ("assessablePct", .num params.assessablePct),
    ("commercialAssessablePct", .num params.commercialAssessablePct)]

def cellsJson (cells : List UpsertTaxCell) : Json :=
  .arr (cells.map fun cell =>
    .obj [("roadWidthEntryId", .num cell.roadWidthEntryId),
      ("constructionEntryId", .num cell.constructionEntryId),
      ("annualRatePerSqFt", .num cell.annualRatePerSqFt)])

def reasonJson (reason : Option String) : Option Json :=
  (reason.filter (· ≠ "")).map fun text => .obj [("reason", .str text)]

def taxConfigEntry (action : String) (id : Id) (actorId : Option Id) (newValue : Json)
    (metadata : Option Json) : AuditEntry where
  action := action
  entity := "TaxConfig"
  entityId := some (toString id)
  newValue := some newValue
  metadata := metadata
  actorId := actorId

namespace TaxConfigsService

/-! ### Pure parts -/

def resolveParams (source : TaxConfigWithCells) (dto : RateParams (Option ℚ)) : RateParams ℚ :=
  dto.orElse (source.row.params.map toRate)

/-- The rates of a config, as a request would send them. -/
def storedCells (source : TaxConfigWithCells) : List UpsertTaxCell :=
  source.cells.map fun cell =>
    ⟨cell.key.roadWidthEntryId, cell.key.constructionEntryId, toRate cell.annualRatePerSqFt⟩

def resolveCells (source : TaxConfigWithCells) (cells : Option (List UpsertTaxCell)) :
    List UpsertTaxCell :=
  match cells with
  | some (cell :: rest) => cell :: rest
  | _ => storedCells source

def cellSortKey (cell : UpsertTaxCell) : String :=
  toString cell.roadWidthEntryId ++ ":" ++ toString cell.constructionEntryId

def buildRateSnapshot (billing : Billing) (cells : List UpsertTaxCell) (params : RateParams ℚ) :
    RateSnapshot where
  params := params
  cells := cells.insertionSort fun a b =>
    billing.localeCompare (cellSortKey a) (cellSortKey b) ≠ .gt

def rateSnapshotsEqual (a b : RateSnapshot) : Bool :=
  decide (a.params.toList = b.params.toList) && decide (a.cells.length = b.cells.length) &&
    (a.cells.zip b.cells).all fun pair =>
      decide (pair.1.roadWidthEntryId = pair.2.roadWidthEntryId) &&
        decide (pair.1.constructionEntryId = pair.2.constructionEntryId) &&
        decide (pair.1.annualRatePerSqFt = pair.2.annualRatePerSqFt)

/-! ### Statements that several calls make -/

def findUniqueOrThrow (id : Id) : TaxScript TaxConfigWithCells := fun db =>
  match db.configById? id with
  | some config => (db, .ok config)
  | none => (db, .error (.refused .recordNotFound))

def writeCells (ctx : TaxContext) (id : Id) (cells : List UpsertTaxCell) : TaxScript Unit :=
  cells.foldlM (fun _ cell => Script.execute (TaxDb.upsertCell ctx
    ⟨id, cell.roadWidthEntryId, cell.constructionEntryId⟩ cell.annualRatePerSqFt
    (some cell.annualRatePerSqFt))) ()

def writeParams (ctx : TaxContext) (id : Id) (params : RateParams ℚ) : TaxScript Unit :=
  Script.execute fun db => do
    let columns ← storeParams params
    db.updateConfig ctx id fun c => { c with params := columns }

/-- The pairs of active entries that a config has cells for. -/
def matrix (ctx : TaxContext) : List (CatalogEntry × CatalogEntry) :=
  ctx.activeEntries "TAX_RATE_ZONE" ×ˢ ctx.activeEntries "CONSTRUCTION_TYPE"

/-- A cell of rate 0 for each pair of the matrix that has none. -/
def ensureMatrixCells (ctx : TaxContext) (taxConfigId : Id) : TaxScript Unit :=
  (matrix ctx).foldlM (fun _ pair => Script.execute (TaxDb.upsertCell ctx
    ⟨taxConfigId, pair.1.ref.id, pair.2.ref.id⟩ 0 none)) ()

/-- The draft that `getOrCreate` opens, with its cells. -/
def createDraft (ctx : TaxContext) (wardId assessmentYearId : Id) (actorId : Option Id) :
    TaxScript TaxConfigWithCells := do
  let id ← Script.execute (TaxDb.createConfig ctx wardId assessmentYearId)
  ensureMatrixCells ctx id
  let full ← findUniqueOrThrow id
  Script.modify (TaxDb.log (taxConfigEntry "CREATE" full.row.id actorId
    (.obj [("wardId", .num wardId), ("assessmentYearId", .num assessmentYearId)]) none))
  return full

def getOrCreate (ctx : TaxContext) (wardId assessmentYearId : Id) (actorId : Option Id) :
    TaxScript TaxConfigWithCells := do
  let existing ← Script.query fun db => db.configFor? wardId assessmentYearId
  match existing with
  | some config => return config
  | none =>
      if wardId ∉ ctx.wards.map Ward.id then
        Script.fail (.api (.notFound none "Ward not found"))
      else if (ctx.entry? assessmentYearId).isNone then
        Script.fail (.api (.notFound none "Assessment year not found"))
      else createDraft ctx wardId assessmentYearId actorId

/-! ### Drafts -/

def immutable (subject : String) : TaxError :=
  .api (.badRequest none ("Published tax configs are immutable. " ++
    "Create a new draft or copy before editing " ++ subject ++ "."))

def notEditable : TaxError := .api (.badRequest none "Cannot edit archived tax config")

def notFound : TaxError := .api (.notFound none "Tax config not found")

/-- The row of an editable draft. -/
def editableDraft (id : Id) (subject : String) : TaxScript TaxConfigRow := fun db =>
  match db.configs.find? id with
  | none => (db, .error notFound)
  | some existing =>
      match existing.status with
      | .archived => (db, .error notEditable)
      | .published => (db, .error (immutable subject))
      | .draft => (db, .ok existing)

/-- A request field is written where it is set. -/
def updatedParams (dto : RateParams (Option ℚ)) (columns : RateParams Rate) :
    Except TaxError (RateParams Rate) :=
  (storeParams (dto.orElse (columns.map toRate)))

def updateParams (ctx : TaxContext) (id : Id) (dto : UpdateTaxConfigParams)
    (actorId : Option Id) : TaxScript TaxConfigWithCells := do
  let existing ← editableDraft id "parameters"
  Script.execute fun db => do
    let columns ← updatedParams dto.params existing.params
    db.updateConfig ctx id fun c => { c with params := columns }
  let updated ← findUniqueOrThrow id
  Script.modify (TaxDb.log { taxConfigEntry "UPDATE_PARAMS" id actorId
    (updated.row.params.map toRate).json (reasonJson dto.reason) with
      oldValue := some (existing.params.map toRate).json })
  return updated

def upsertCells (ctx : TaxContext) (id : Id) (cells : List UpsertTaxCell) (actorId : Option Id) :
    TaxScript TaxConfigWithCells := do
  let _ ← editableDraft id "rate cells"
  writeCells ctx id cells
  Script.modify (TaxDb.log (taxConfigEntry "UPSERT_CELLS" id actorId
    (.obj [("cells", cellsJson cells)]) none))
  findUniqueOrThrow id

/-! ### Publishing -/

/-- `dto.effectiveFrom ? new Date(dto.effectiveFrom) : undefined` -/
def effectiveFromOf (ctx : TaxContext) (text : Option String) :
    Except TaxError (Option Timestamp) :=
  match text.filter (· ≠ "") with
  | none => .ok none
  | some text =>
      match ctx.base.parseDate text with
      | some date => .ok (some date)
      | none => .error .invalidDate

def hasPayload (dto : PublishTaxConfig) : Bool :=
  decide (0 < (dto.cells.getD []).length) || !dto.params.isEmpty

/-- The config is published, and the request leaves its rates as they are. -/
def ratesUnchanged (ctx : TaxContext) (config : TaxConfigWithCells) (dto : PublishTaxConfig) :
    Bool :=
  decide (config.row.status = .published) &&
    rateSnapshotsEqual
      (buildRateSnapshot ctx.base.billing (resolveCells config none) (resolveParams config .none))
      (buildRateSnapshot ctx.base.billing (resolveCells config dto.cells)
        (resolveParams config dto.params))

/-- `nextVersion || config.version` -/
def orVersion (nextVersion version : Nat) : Nat := if nextVersion = 0 then version else nextVersion

/-- Write the rates, without a version, and read them back. -/
def writeRates (ctx : TaxContext) (id : Id) (cells : List UpsertTaxCell) (params : RateParams ℚ) :
    TaxScript TaxConfigWithCells := do
  writeCells ctx id cells
  writeParams ctx id params
  findUniqueOrThrow id

/-- The config to publish, with the rates of the request if it has any. -/
def writePayload (ctx : TaxContext) (id : Id) (found : TaxConfigWithCells)
    (dto : PublishTaxConfig) : TaxScript TaxConfigWithCells :=
  if hasPayload dto then
    writeRates ctx id (resolveCells found dto.cells) (resolveParams found dto.params)
  else pure found

/-- The last write of `publish`. -/
def markPublished (ctx : TaxContext) (id : Id) (version : Nat) (dto : PublishTaxConfig)
    (actorId : Option Id) : TaxScript Unit :=
  Script.execute fun db => do
    let effectiveFrom ← effectiveFromOf ctx dto.effectiveFrom
    db.updateConfig ctx id fun c => { c with
      status := .published
      version
      publishedAt := some ctx.base.now
      publishedById := actorId.or c.publishedById
      changeReason := dto.reason.or c.changeReason
      effectiveFrom := effectiveFrom.or c.effectiveFrom }

/-- The rates that `publish` puts on record. -/
def publishedSnapshot (ctx : TaxContext) (config : TaxConfigWithCells) (dto : PublishTaxConfig)
    (cells : List UpsertTaxCell) (params : RateParams ℚ) : RateSnapshot :=
  if hasPayload dto then
    buildRateSnapshot ctx.base.billing (resolveCells config (some cells))
      (resolveParams config (params.map some))
  else
    buildRateSnapshot ctx.base.billing (resolveCells config none) (resolveParams config .none)

/-- `publish`, up to the row that it publishes. -/
def publishRates (ctx : TaxContext) (id : Id) (found : TaxConfigWithCells)
    (dto : PublishTaxConfig) (actorId : Option Id) : TaxScript Unit := do
  if ratesUnchanged ctx found dto then
    markPublished ctx id (orVersion found.row.version found.row.version) dto actorId
  else do
    let config ← writePayload ctx id found dto
    let nextVersion := config.row.version + if config.row.status = .published then 1 else 0
    Script.execute (TaxDb.createVersion fun versionId =>
      { id := versionId
        taxConfigId := id
        version := orVersion nextVersion config.row.version
        snapshot := publishedSnapshot ctx config dto (resolveCells found dto.cells)
          (resolveParams found dto.params)
        reason := dto.reason
        createdById := actorId })
    markPublished ctx id (orVersion nextVersion config.row.version) dto actorId

def publish (ctx : TaxContext) (id : Id) (dto : PublishTaxConfig) (actorId : Option Id) :
    TaxScript (TaxConfigWithCells × PublishCounts × Bool) := do
  let found ← Script.query fun db => db.configById? id
  match found with
  | none => Script.fail notFound
  | some config =>
      if config.row.status = .archived then
        Script.fail (.api (.badRequest none "Cannot publish archived tax config"))
      else do
        publishRates ctx id config dto actorId
        let published ← findUniqueOrThrow id
        Script.modify (TaxDb.log (taxConfigEntry "PUBLISH" id actorId
          (.obj [("version", .num published.row.version),
            ("ratesUnchanged", .bool (ratesUnchanged ctx config dto))])
          (reasonJson dto.reason)))
        let demands ← TaxDb.publishForWard ctx published.row.wardId published.row.assessmentYearId
          actorId
        return (published, demands, ratesUnchanged ctx config dto)

/-! ### Copying -/

/-- The version that a published config gets of its own. -/
def appendVersion (ctx : TaxContext) (row : TaxConfigRow) (snapshot : RateSnapshot)
    (actorId : Option Id) : TaxScript Unit :=
  if row.status = .published then do
    Script.execute (TaxDb.createVersion fun versionId =>
      { id := versionId
        taxConfigId := row.id
        version := row.version + 1
        snapshot
        createdById := actorId })
    Script.execute fun db => db.updateConfig ctx row.id fun c => { c with
      version := row.version + 1
      publishedAt := some ctx.base.now
      publishedById := actorId.or c.publishedById }
  else pure ()

/-- Writes rates, and for published configs a version. -/
def applyRatesToConfig (ctx : TaxContext) (config : TaxConfigWithCells)
    (cells : List UpsertTaxCell) (params : RateParams ℚ) (actorId : Option Id) :
    TaxScript Unit :=
  if config.row.status = .archived then Script.fail notEditable
  else do
    writeCells ctx config.row.id cells
    writeParams ctx config.row.id params
    appendVersion ctx config.row ⟨params, cells⟩ actorId
    Script.modify (TaxDb.log (taxConfigEntry "APPLY_RATES" config.row.id actorId
      (.obj [("cells", cellsJson cells), ("params", params.json)]) none))

/-- The row of a version that is to be written again, or a new one. -/
def writeVersion (taxConfigId : Id) (version : Nat) (snapshot : RateSnapshot)
    (actorId : Option Id) : TaxScript Unit := do
  let existingVersion ← Script.query fun (db : TaxDb) =>
    db.versions.findFirst? fun v => v.taxConfigId = taxConfigId ∧ v.version = version
  match existingVersion with
  | some existing =>
      Script.execute (TaxDb.updateVersion existing.id fun v =>
        { v with snapshot, createdById := actorId.or v.createdById })
  | none =>
      Script.execute (TaxDb.createVersion fun versionId =>
        { id := versionId, taxConfigId, version, snapshot, createdById := actorId })

/-- Writes rates onto a ward config and publishes it at a fixed version. -/
def applyPublishedRatesAtVersion (ctx : TaxContext) (config : TaxConfigWithCells)
    (cells : List UpsertTaxCell) (params : RateParams ℚ) (version : Nat) (actorId : Option Id) :
    TaxScript Unit :=
  if config.row.status = .archived then Script.fail notEditable
  else do
    writeCells ctx config.row.id cells
    writeParams ctx config.row.id params
    writeVersion config.row.id version (buildRateSnapshot ctx.base.billing cells params) actorId
    Script.execute fun db => db.updateConfig ctx config.row.id fun c => { c with
      status := .published
      version
      publishedAt := some ctx.base.now
      publishedById := actorId.or c.publishedById }
    Script.modify (TaxDb.log (taxConfigEntry "COPY_PUBLISH" config.row.id actorId
      (.obj [("version", .num version), ("cells", cellsJson cells), ("params", params.json)])
      none))

/-- The config of a ward that is copied to. -/
def copyTarget (ctx : TaxContext) (dto : CopyTaxToWards) (actorId : Option Id)
    (source : TaxConfigWithCells) (ward : Ward) : TaxScript TaxConfigWithCells :=
  if ward.id = dto.sourceWardId then pure source
  else getOrCreate ctx ward.id dto.assessmentYearId actorId

/-- Copy the rates of a published source, and publish the demands of the ward. -/
def copyPublished (ctx : TaxContext) (dto : CopyTaxToWards) (actorId : Option Id)
    (source config : TaxConfigWithCells) : TaxScript PublishCounts := do
  applyPublishedRatesAtVersion ctx config (resolveCells source dto.cells)
    (resolveParams source dto.params) source.row.version actorId
  TaxDb.publishForWard ctx config.row.wardId dto.assessmentYearId actorId

/-- Copy the rates of any other source. -/
def copyDraft (ctx : TaxContext) (dto : CopyTaxToWards) (actorId : Option Id)
    (source config : TaxConfigWithCells) : TaxScript PublishCounts := do
  applyRatesToConfig ctx config (resolveCells source dto.cells) (resolveParams source dto.params)
    actorId
  return ⟨0, 0⟩

/-- The body of the loop over the wards. -/
def copyToWard (ctx : TaxContext) (dto : CopyTaxToWards) (actorId : Option Id)
    (source : TaxConfigWithCells) (counts : CopyCounts) (ward : Ward) : TaxScript CopyCounts := do
  let config ← copyTarget ctx dto actorId source ward
  let other := if ward.id = dto.sourceWardId then 0 else 1
  if config.row.status = .archived then
    return { counts with skippedArchived := counts.skippedArchived + other }
  else do
    let copy := if source.row.status = .published then copyPublished else copyDraft
    let demands ← copy ctx dto actorId source config
    return { counts with
      updated := counts.updated + other
      demandsCreated := counts.demandsCreated + demands.created
      demandsUpdated := counts.demandsUpdated + demands.updated }

def copyToAllWards (ctx : TaxContext) (dto : CopyTaxToWards) (actorId : Option Id) :
    TaxScript (CopyCounts × Option Nat) := do
  let source ← getOrCreate ctx dto.sourceWardId dto.assessmentYearId actorId
  let counts ← (ctx.wards.filter Ward.isActive).foldlM (copyToWard ctx dto actorId source)
    ⟨0, 0, 0, 0⟩
  return (counts, if source.row.status = .published then some source.row.version else none)

end TaxConfigsService

/-! ### Calls -/

inductive TaxOperation where
  | getOrCreate (wardId assessmentYearId : Id)
  | upsertCells (id : Id) (cells : List UpsertTaxCell)
  | updateParams (id : Id) (dto : UpdateTaxConfigParams)
  | publish (id : Id) (dto : PublishTaxConfig)
  | copyToAllWards (dto : CopyTaxToWards)

structure TaxCall where
  ctx : TaxContext
  actorId : Option Id
  operation : TaxOperation

/-- The tables after a call, whether it returned or threw. -/
def TaxDb.perform (db : TaxDb) (call : TaxCall) : TaxDb :=
  match call.operation with
  | .getOrCreate wardId assessmentYearId =>
      (TaxConfigsService.getOrCreate call.ctx wardId assessmentYearId call.actorId).after db
  | .upsertCells id cells => (TaxConfigsService.upsertCells call.ctx id cells call.actorId).after db
  | .updateParams id dto => (TaxConfigsService.updateParams call.ctx id dto call.actorId).after db
  | .publish id dto => (TaxConfigsService.publish call.ctx id dto call.actorId).after db
  | .copyToAllWards dto => (TaxConfigsService.copyToAllWards call.ctx dto call.actorId).after db

end PropertyTax
