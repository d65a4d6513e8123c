import PropertyTax.Demands.Publish
import PropertyTax.Library.Scripts

/-! The tables of the tax configuration service and its single statements. The
service opens no transaction, so a call is a script of such statements. -/
namespace PropertyTax
open KeyedTable Scripts

/-! ### Rates -/

/-- A `Decimal(8,4)` or `Decimal(14,4)` column, in units of the last place. -/
abbrev Rate := ℤ

/-- `toNumber(column)` -/
def toRate (column : Rate) : ℚ := FixedPoint.toNumber 10000 column

/-- The column a number is written to. -/
def toRateColumn (x : ℚ) : Rate := FixedPoint.store 10000 x

@[simp] theorem toRateColumn_toRate (column : Rate) : toRateColumn (toRate column) = column :=
  FixedPoint.store_toNumber column

/-- The number has four decimals at most. -/
def IsRate (x : ℚ) : Prop := toRate (toRateColumn x) = x

/-- What a column holds is a rate. -/
theorem isRate_toRate (column : Rate) : IsRate (toRate column) := by
  rw [IsRate, toRateColumn_toRate]

/-- The six percentages: numbers, columns, or the fields of a request. -/
structure RateParams (α : Type) where
  propertyTaxPct : α
  waterTaxPct : α
  drainageTaxPct : α
  penaltyPct : α
  assessablePct : α
  commercialAssessablePct : α
deriving DecidableEq

namespace RateParams
variable {α β : Type}

def map (f : α → β) (params : RateParams α) : RateParams β where
  propertyTaxPct := f params.propertyTaxPct
  waterTaxPct := f params.waterTaxPct
  drainageTaxPct := f params.drainageTaxPct
  penaltyPct := f params.penaltyPct
  assessablePct := f params.assessablePct
  commercialAssessablePct := f params.commercialAssessablePct

/-- `dto.field ?? source.field`, field by field. -/
def orElse (dto : RateParams (Option α)) (source : RateParams α) : RateParams α where
  propertyTaxPct := dto.propertyTaxPct.getD source.propertyTaxPct
  waterTaxPct := dto.waterTaxPct.getD source.waterTaxPct
  drainageTaxPct := dto.drainageTaxPct.getD source.drainageTaxPct
  penaltyPct := dto.penaltyPct.getD source.penaltyPct
  assessablePct := dto.assessablePct.getD source.assessablePct
  commercialAssessablePct := dto.commercialAssessablePct.getD source.commercialAssessablePct

def toList (params : RateParams α) : List α :=
  [params.propertyTaxPct, params.waterTaxPct, params.drainageTaxPct, params.penaltyPct,
    params.assessablePct, params.commercialAssessablePct]

/-- No field of the request is set. -/
def isEmpty (dto : RateParams (Option α)) : Bool := dto.toList.all Option.isNone

def none : RateParams (Option α) :=
  ⟨.none, .none, .none, .none, .none, .none⟩

end RateParams

/-! ### Rows -/

structure TaxConfigRow where
  id : Id
  wardId : Id
  assessmentYearId : Id
  status : PublicationStatus := .draft
  version : Nat := 1
  effectiveFrom : Option Timestamp := none
  params : RateParams Rate := ⟨100000, 75000, 25000, 0, 800000, 800000⟩
  publishedAt : Option Timestamp := none
  publishedById : Option Id := none
  changeReason : Option String := none
  updatedAt : Timestamp
deriving DecidableEq

/-- `@@unique([taxConfigId, roadWidthEntryId, constructionEntryId])` -/
structure RateKey where
  taxConfigId : Id
  roadWidthEntryId : Id
  constructionEntryId : Id
deriving DecidableEq

structure TaxRateCellRow where
  key : RateKey
  annualRatePerSqFt : Rate
deriving DecidableEq

@[ext] structure UpsertTaxCell where
  roadWidthEntryId : Id
  constructionEntryId : Id
  annualRatePerSqFt : ℚ
deriving DecidableEq

structure RateSnapshot where
  params : RateParams ℚ
  cells : List UpsertTaxCell
deriving DecidableEq

/-- The pair of `taxConfigId` and `version` is indexed, but not unique. -/
structure TaxConfigVersionRow where
  id : Id
  taxConfigId : Id
  version : Nat
  snapshot : RateSnapshot
  reason : Option String := none
  createdById : Option Id
deriving DecidableEq

instance : KeyedRow TaxConfigRow Id where
  key := TaxConfigRow.id
  clash c d := decide (c.id = d.id) ||
    decide (c.wardId = d.wardId ∧ c.assessmentYearId = d.assessmentYearId)
  clash_symm c d := by simp only [eq_comm]
  clash_of_key c d h := by simp [h]

instance : KeyedRow TaxRateCellRow RateKey where
  key := TaxRateCellRow.key
  clash c d := decide (c.key = d.key)
  clash_symm c d := by simp only [eq_comm]
  clash_of_key c d h := by simp [h]

instance : KeyedRow TaxConfigVersionRow Id where
  key := TaxConfigVersionRow.id
  clash v w := decide (v.id = w.id)
  clash_symm v w := by simp only [eq_comm]
  clash_of_key v w h := by simp [h]

/-- The tables of the service, next to the ledger that it publishes to. `writtenVersions` lists
every row that was written to `versions`, the latest first; no statement reads it. -/
structure TaxDb where
  ledger : Db
  configs : KeyedTable TaxConfigRow
  cells : KeyedTable TaxRateCellRow
  versions : KeyedTable TaxConfigVersionRow
  writtenVersions : List TaxConfigVersionRow

def TaxDb.empty : TaxDb := ⟨Db.empty, .empty, .empty, .empty, []⟩

/-! ### Reference data -/

structure Ward where
  id : Id
  isActive : Bool

structure CatalogEntry where
  ref : AssessmentYearRef
  categoryCode : String
  active : Bool
  sortOrder : Int

structure TaxContext where
  base : Context
  wards : List Ward
  entries : List CatalogEntry
  wards_nodup : (wards.map Ward.id).Nodup

namespace TaxContext

def entry? (ctx : TaxContext) (id : Id) : Option CatalogEntry :=
  ctx.entries.find? fun e => e.ref.id = id

/-- The active entries of a category, `orderBy: { sortOrder: "asc" }`. -/
def activeEntries (ctx : TaxContext) (categoryCode : String) : List CatalogEntry :=
  (ctx.entries.filter fun e => e.categoryCode = categoryCode ∧ e.active).insertionSort
    fun a b => a.sortOrder ≤ b.sortOrder

end TaxContext

/-- A row as the service reads it, `include: { cells: … }`. -/
structure TaxConfigWithCells where
  row : TaxConfigRow
  cells : List TaxRateCellRow

namespace TaxDb

def cellsOf (db : TaxDb) (taxConfigId : Id) : List TaxRateCellRow :=
  db.cells.rows.filter fun cell => cell.key.taxConfigId = taxConfigId

def withCells (db : TaxDb) (row : TaxConfigRow) : TaxConfigWithCells :=
  ⟨row, db.cellsOf row.id⟩

def configById? (db : TaxDb) (id : Id) : Option TaxConfigWithCells :=
  (db.configs.find? id).map db.withCells

def configFor? (db : TaxDb) (wardId assessmentYearId : Id) : Option TaxConfigWithCells :=
  (db.configs.findFirst? fun c => c.wardId = wardId ∧ c.assessmentYearId = assessmentYearId).map
    db.withCells

/-- The row as the ledger services read it. -/
def taxConfig (db : TaxDb) (ctx : TaxContext) (row : TaxConfigRow) : TaxConfig where
  id := row.id
  wardId := row.wardId
  assessmentYear :=
    ((ctx.entry? row.assessmentYearId).map CatalogEntry.ref).getD ⟨row.assessmentYearId, "", ""⟩
  status := row.status
  version := row.version
  assessablePct := toRate row.params.assessablePct
  commercialAssessablePct := toRate row.params.commercialAssessablePct
  propertyTaxPct := toRate row.params.propertyTaxPct
  waterTaxPct := toRate row.params.waterTaxPct
  drainageTaxPct := toRate row.params.drainageTaxPct
  penaltyPct := toRate row.params.penaltyPct
  cells := (db.cellsOf row.id).map fun cell =>
    { roadWidthCode :=
        ((ctx.entry? cell.key.roadWidthEntryId).map fun e => e.ref.code).getD ""
      constructionCode :=
        ((ctx.entry? cell.key.constructionEntryId).map fun e => e.ref.code).getD ""
      annualRatePerSqFt := toRate cell.annualRatePerSqFt }
  updatedAt := row.updatedAt

/-- What a call of the ledger services reads while the tables are as they are. -/
def context (db : TaxDb) (ctx : TaxContext) : Context :=
  { ctx.base with
    reference := { ctx.base.reference with
      taxConfigs := db.configs.rows.map (db.taxConfig ctx)
      referenceEntries := ctx.entries.map fun e => ⟨e.ref, e.categoryCode⟩
      wardIds := ctx.wards.map Ward.id } }

end TaxDb

/-! ### Statements -/

/-- Why a call of the service throws. -/
inductive TaxError where
  | api (error : ApiError)
  | refused (refusal : Refusal)
  | foreignKeyViolation
  | numericOverflow
  | invalidDate
deriving DecidableEq

abbrev TaxScript (α : Type) := Script TaxDb TaxError α

/-- Write a `Decimal` column with `precision` digits, four of them decimals. -/
def storeDecimal (precision : Nat) (x : ℚ) : Except TaxError Rate :=
  if (toRateColumn x).natAbs < 10 ^ precision then .ok (toRateColumn x)
  else .error .numericOverflow

def storeParams (params : RateParams ℚ) : Except TaxError (RateParams Rate) :=
  if params.toList.all fun x => decide ((toRateColumn x).natAbs < 10 ^ 8) then
    .ok (params.map toRateColumn)
  else .error .numericOverflow

namespace TaxDb

def insertCell (ctx : TaxContext) (key : RateKey) (rate : ℚ) (db : TaxDb) :
    Except TaxError (TaxDb × Unit) := do
  let column ← storeDecimal 14 rate
  if (ctx.entry? key.roadWidthEntryId).isNone || (ctx.entry? key.constructionEntryId).isNone then
    throw .foreignKeyViolation
  let cells ← (db.cells.insert ⟨key, column⟩).mapError .refused
  return ({ db with cells }, ())

/-- `taxRateCell.upsert`; `update` is `none` where the update is empty. -/
def upsertCell (ctx : TaxContext) (key : RateKey) (create : ℚ) (update : Option ℚ) (db : TaxDb) :
    Except TaxError (TaxDb × Unit) :=
  match db.cells.find? key, update with
  | none, _ => db.insertCell ctx key create
  | some _, none => .ok (db, ())
  | some _, some rate => do
      let column ← storeDecimal 14 rate
      let cells ← (db.cells.update key fun cell =>
        { cell with annualRatePerSqFt := column }).mapError .refused
      return ({ db with cells }, ())

def createConfig (ctx : TaxContext) (wardId assessmentYearId : Id) (db : TaxDb) :
    Except TaxError (TaxDb × Id) := do
  let id := db.ledger.nextId
  let configs ← (db.configs.insert
    { id, wardId, assessmentYearId, updatedAt := ctx.base.now }).mapError .refused
  return ({ db with configs, ledger := { db.ledger with nextId := id + 1 } }, id)

def updateConfig (ctx : TaxContext) (id : Id) (data : TaxConfigRow → TaxConfigRow) (db : TaxDb) :
    Except TaxError (TaxDb × Unit) := do
  let configs ← (db.configs.update id fun c =>
    { data c with updatedAt := ctx.base.now }).mapError .refused
  return ({ db with configs }, ())

def createVersion (row : Id → TaxConfigVersionRow) (db : TaxDb) :
    Except TaxError (TaxDb × Unit) := do
  let id := db.ledger.nextId
  let versions ← (db.versions.insert (row id)).mapError .refused
  return ({ db with
    versions
    writtenVersions := row id :: db.writtenVersions
    ledger := { db.ledger with nextId := id + 1 } }, ())

def updateVersion (id : Id) (data : TaxConfigVersionRow → TaxConfigVersionRow) (db : TaxDb) :
    Except TaxError (TaxDb × Unit) := do
  let versions ← (db.versions.update id data).mapError .refused
  return ({ db with
    versions
    writtenVersions := ((db.versions.find? id).map data).toList ++ db.writtenVersions }, ())

def log (entry : AuditEntry) (db : TaxDb) : TaxDb := { db with ledger := db.ledger.log entry }

/-- `publishForWard` of the ledger, in the middle of a script. -/
def publishForWard (ctx : TaxContext) (wardId assessmentYearId : Id) (actorId : Option Id)
    (db : TaxDb) : TaxDb × Except TaxError PublishCounts :=
  let (ledger, answer) :=
    PropertyTax.publishForWard (db.context ctx) wardId assessmentYearId actorId db.ledger
  ({ db with ledger }, answer.mapError .api)

end TaxDb

end PropertyTax
