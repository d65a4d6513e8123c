import PropertyTax.Ledger.PublishWard
import PropertyTax.TaxConfigs.Publication

/-! The config as a request makes it. The cells and the percentages of the request lie over the
stored ones, the version is counted up, and the demands of the ward are billed at the result. -/
namespace PropertyTax
open KeyedTable Scripts

/-! ### Cells, in their order -/

/-- `taxRateCell.upsert`, on a list of cells. -/
def putCell (id : Id) (cells : List TaxRateCellRow) (cell : UpsertTaxCell) : List TaxRateCellRow :=
  let key : RateKey := ⟨id, cell.roadWidthEntryId, cell.constructionEntryId⟩
  let row : TaxRateCellRow := ⟨key, toRateColumn cell.annualRatePerSqFt⟩
  if cells.any fun stored => decide (stored.key = key) then
    cells.map fun stored => if stored.key = key then row else stored
  else cells ++ [row]

def putCells (id : Id) : List TaxRateCellRow → List UpsertTaxCell → List TaxRateCellRow :=
  List.foldl (putCell id)

/-- A cell that is put in its place concerns the cells of its own config. -/
theorem filter_putCell (id : Id) (cells : List TaxRateCellRow) (cell : UpsertTaxCell) :
    (putCell id cells cell).filter (fun stored => stored.key.taxConfigId = id) =
      putCell id (cells.filter fun stored => stored.key.taxConfigId = id) cell := by
  have hAny : (cells.filter fun stored => stored.key.taxConfigId = id).any (fun stored =>
      decide (stored.key = ⟨id, cell.roadWidthEntryId, cell.constructionEntryId⟩)) =
      cells.any fun stored =>
        decide (stored.key = ⟨id, cell.roadWidthEntryId, cell.constructionEntryId⟩) := by
    rw [List.any_filter]
    congr 1
    funext stored
    by_cases hKey : stored.key = ⟨id, cell.roadWidthEntryId, cell.constructionEntryId⟩
    · simp [hKey]
    · simp [hKey]
  unfold putCell
  dsimp only
  rw [hAny]
  split
  · rw [List.filter_map]
    congr 1
    refine List.filter_congr fun stored _ => ?_
    by_cases hKey : stored.key = ⟨id, cell.roadWidthEntryId, cell.constructionEntryId⟩
    · simp [hKey]
    · simp [hKey]
  · simp

section Statements
variable {ctx : TaxContext} {db db' : TaxDb} {id : Id}

/-- One statement puts one cell in its place. -/
theorem upsertCell_rows {cell : UpsertTaxCell}
    (h : db.upsertCell ctx ⟨id, cell.roadWidthEntryId, cell.constructionEntryId⟩
      cell.annualRatePerSqFt (some cell.annualRatePerSqFt) = .ok (db', ())) :
    db'.cells.rows = putCell id db.cells.rows cell := by
  unfold TaxDb.upsertCell at h
  unfold putCell
  cases hStored : db.cells.find? ⟨id, cell.roadWidthEntryId, cell.constructionEntryId⟩ with
  | none =>
      have hNone : ¬ (db.cells.rows.any fun stored => decide
          (stored.key = ⟨id, cell.roadWidthEntryId, cell.constructionEntryId⟩)) = true := by
        rw [List.any_eq_true]
        rintro ⟨stored, hMem, hKey⟩
        exact find?_eq_none_iff.mp hStored stored hMem (of_decide_eq_true hKey)
      simp only [hStored] at h
      obtain ⟨column, hColumn, h⟩ := bind_ok h
      obtain ⟨-, rfl⟩ := storeDecimal_eq_ok.mp hColumn
      split_ifs at h with hMissing
      · cases h
      · obtain ⟨cells, hInsert, hDb⟩ := bind_ok h
        cases hDb
        have hInsert := mapError_ok hInsert
        unfold KeyedTable.insert at hInsert
        split_ifs at hInsert
        · cases hInsert
          rw [if_neg hNone]
  | some stored =>
      obtain ⟨hMem, hKey⟩ := find?_eq_some_iff.mp hStored
      have hSome : (db.cells.rows.any fun stored => decide
          (stored.key = ⟨id, cell.roadWidthEntryId, cell.constructionEntryId⟩)) = true :=
        List.any_eq_true.mpr ⟨stored, hMem, decide_eq_true hKey⟩
      simp only [hStored] at h
      obtain ⟨column, hColumn, h⟩ := bind_ok h
      obtain ⟨-, rfl⟩ := storeDecimal_eq_ok.mp hColumn
      obtain ⟨cells, hUpdate, hDb⟩ := bind_ok h
      cases hDb
      have hUpdate := mapError_ok hUpdate
      unfold KeyedTable.update at hUpdate
      split_ifs at hUpdate
      · cases hUpdate
        rw [if_pos hSome]
        refine List.map_congr_left fun row _ => ?_
        change (if row.key = _ then _ else row) = _
        by_cases hSame : row.key = ⟨id, cell.roadWidthEntryId, cell.constructionEntryId⟩
        · rw [if_pos hSame, if_pos hSame, ← hSame]
        · rw [if_neg hSame, if_neg hSame]

/-- An accepted cell is put among those of the configuration. -/
theorem upsertCell_cellsOf {cell : UpsertTaxCell}
    (h : db.upsertCell ctx ⟨id, cell.roadWidthEntryId, cell.constructionEntryId⟩
      cell.annualRatePerSqFt (some cell.annualRatePerSqFt) = .ok (db', ())) :
    db'.cellsOf id = putCell id (db.cellsOf id) cell := by
  rw [TaxDb.cellsOf, upsertCell_rows h, filter_putCell]
  rfl

/-- The cells of a list are put in their places one after the other. -/
theorem writeCells_cellsOf (cells : List UpsertTaxCell) (start : List TaxRateCellRow) :
    Meets (TaxConfigsService.writeCells ctx id cells) (fun db => db.cellsOf id = start)
      (fun _ db => db.cellsOf id = putCells id start cells) (fun _ => True) := by
  let invariant (rest : List UpsertTaxCell) (_ : Unit) (db : TaxDb) : Prop :=
    putCells id (db.cellsOf id) rest = putCells id start cells
  have hLoop : Meets (TaxConfigsService.writeCells ctx id cells) (invariant cells ())
      (invariant []) (fun _ => True) := by
    refine Meets.foldlM invariant (fun cell rest _ => .execute ?_ fun _ _ _ _ => trivial) _ _
    rintro db db' ⟨⟩ h hOk
    change putCells id (db'.cellsOf id) rest = _
    rw [upsertCell_cellsOf hOk]
    exact h
  refine hLoop.mono ?_ (fun _ _ h => h) fun _ h => h
  rintro db rfl
  rfl

end Statements

/-! ### The config of a request -/

/-- A row with its cells, as the ledger services read it. -/
def TaxConfigWithCells.taxConfig (config : TaxConfigWithCells) (ctx : TaxContext) : TaxConfig where
  id := config.row.id
  wardId := config.row.wardId
  assessmentYear := ((ctx.entry? config.row.assessmentYearId).map CatalogEntry.ref).getD
    ⟨config.row.assessmentYearId, "", ""⟩
  status := config.row.status
  version := config.row.version
  assessablePct := toRate config.row.params.assessablePct
  commercialAssessablePct := toRate config.row.params.commercialAssessablePct
  propertyTaxPct := toRate config.row.params.propertyTaxPct
  waterTaxPct := toRate config.row.params.waterTaxPct
  drainageTaxPct := toRate config.row.params.drainageTaxPct
  penaltyPct := toRate config.row.params.penaltyPct
  cells := config.cells.map fun cell =>
    { roadWidthCode :=
        ((ctx.entry? cell.key.roadWidthEntryId).map fun e => e.ref.code).getD ""
      constructionCode :=
        ((ctx.entry? cell.key.constructionEntryId).map fun e => e.ref.code).getD ""
      annualRatePerSqFt := toRate cell.annualRatePerSqFt }
  updatedAt := config.row.updatedAt

/-- A configuration is read from the row of what was found. -/
theorem taxConfig_withCells (db : TaxDb) (ctx : TaxContext) (row : TaxConfigRow) :
    (db.withCells row).taxConfig ctx = db.taxConfig ctx row := rfl

/-- The ledger services read the place, the status, the version and the rates. -/
theorem taxConfig_congr {config config' : TaxConfigWithCells} (ctx : TaxContext)
    (hStill : Still config.row config'.row) (hParams : config'.row.params = config.row.params)
    (hUpdated : config'.row.updatedAt = config.row.updatedAt)
    (hCells : config'.cells = config.cells) : config'.taxConfig ctx = config.taxConfig ctx := by
  unfold TaxConfigWithCells.taxConfig
  rw [hStill.place.id, hStill.place.wardId, hStill.place.assessmentYearId, hStill.status,
    hStill.version, hParams, hUpdated, hCells]

/-- A published config gets the next version, a draft keeps its own. -/
def TaxConfigWithCells.nextVersion (found : TaxConfigWithCells) : Nat :=
  TaxConfigsService.orVersion
    (found.row.version + if found.row.status = .published then 1 else 0) found.row.version

namespace PublishTaxConfig
variable (dto : PublishTaxConfig) (ctx : TaxContext) (found : TaxConfigWithCells)

/-- The percentages that the request asks for. -/
def paramsAfter : RateParams Rate :=
  if TaxConfigsService.hasPayload dto then
    (TaxConfigsService.resolveParams found dto.params).map toRateColumn
  else found.row.params

/-- The cells that the request asks for, over those that are stored. -/
def cellsAfter : List TaxRateCellRow :=
  if TaxConfigsService.hasPayload dto then
    putCells found.row.id found.cells (TaxConfigsService.resolveCells found dto.cells)
  else found.cells

/-- The config that is published when every rate of the request is stored. -/
def outcome : TaxConfigWithCells where
  row := { found.row with
    status := .published
    version := found.nextVersion
    params := dto.paramsAfter found
    updatedAt := ctx.base.now }
  cells := dto.cellsAfter found

end PublishTaxConfig

/-! ### What a publication makes of a config -/

section Outcome
variable {ctx : TaxContext} {db db' : TaxDb} {row : TaxConfigRow} {dto : PublishTaxConfig}
  {params : RateParams Rate} {cells : List TaxRateCellRow} {actorId : Option Id}

/-- The config has these percentages and these cells, and the ledger is as it was. -/
structure HasRates (db : TaxDb) (row : TaxConfigRow) (params : RateParams Rate)
    (cells : List TaxRateCellRow) (db' : TaxDb) : Prop where
  config : ∃ c ∈ db'.configs.rows, Still row c ∧ c.params = params
  cells : db'.cellsOf row.id = cells
  demands : db'.ledger.demands = db.ledger.demands
  payments : db'.ledger.payments = db.ledger.payments

theorem HasRates.start (hRow : row ∈ db.configs.rows) :
    HasRates db row row.params (db.cellsOf row.id) db :=
  ⟨⟨row, hRow, ⟨.refl row, rfl, rfl⟩, rfl⟩, rfl, rfl, rfl⟩

/-- After the cells are written, they are among its rates. -/
theorem writeCells_hasRates (asked : List UpsertTaxCell) :
    Meets (TaxConfigsService.writeCells ctx row.id asked) (HasRates db row params cells)
      (fun _ => HasRates db row params (putCells row.id cells asked)) (fun _ => True) := by
  intro state h
  refine ((writeCells_ends ctx row.id asked state).and
    (writeCells_cellsOf asked cells state h.cells)).mono ?_ fun _ _ => trivial
  rintro _ db' ⟨⟨-, hOnly, -⟩, hCells⟩
  exact ⟨by rw [hOnly.configs]; exact h.config, hCells, by rw [hOnly.ledger]; exact h.demands,
    by rw [hOnly.ledger]; exact h.payments⟩

/-- After the percentages are written, they are its percentages. -/
theorem writeParams_hasRates (asked : RateParams ℚ) :
    Meets (TaxConfigsService.writeParams ctx row.id asked) (HasRates db row params cells)
      (fun _ => HasRates db row (asked.map toRateColumn) cells) (fun _ => True) := by
  refine .execute ?_ fun _ _ _ _ => trivial
  rintro state db' ⟨⟩ h hOk
  obtain ⟨columns, hColumns, hUpdate⟩ := bind_ok hOk
  obtain ⟨-, rfl⟩ := storeParams_eq_ok.mp hColumns
  obtain ⟨c, configs, hId, hReplaced, rfl⟩ := TaxDb.updateConfig_ok hUpdate fun _ => rfl
  obtain ⟨stored, hStored, hStill, -⟩ := h.config
  obtain rfl : stored = c :=
    eq_of_key hStored hReplaced.mem_old (hStill.place.id.trans hId.symm)
  refine ⟨⟨_, hReplaced.mem_new, hStill.trans ?_, rfl⟩, h.cells, h.demands, h.payments⟩
  exact ⟨⟨rfl, rfl, rfl⟩, rfl, rfl⟩

/-- The config that is read back has the rates that were asked for. -/
theorem writePayload_hasRates (hRow : row ∈ db.configs.rows) :
    Meets (TaxConfigsService.writePayload ctx row.id (db.withCells row) dto) (· = db)
      (fun config db' => Still row config.row ∧ HasRates db row
        (dto.paramsAfter (db.withCells row)) (dto.cellsAfter (db.withCells row)) db')
      (fun _ => True) := by
  unfold TaxConfigsService.writePayload PublishTaxConfig.paramsAfter PublishTaxConfig.cellsAfter
  by_cases hPayload : TaxConfigsService.hasPayload dto = true
  · rw [if_pos hPayload, if_pos hPayload, if_pos hPayload]
    have hCells := @writeCells_hasRates ctx db row row.params (db.cellsOf row.id)
      (TaxConfigsService.resolveCells (db.withCells row) dto.cells)
    have hParams := @writeParams_hasRates ctx db row row.params
      (putCells row.id (db.cellsOf row.id)
        (TaxConfigsService.resolveCells (db.withCells row) dto.cells))
      (TaxConfigsService.resolveParams (db.withCells row) dto.params)
    have hStart : ∀ state, state = db →
        HasRates db row row.params (db.cellsOf row.id) state := by
      rintro _ rfl
      exact .start hRow
    refine (hCells.mono hStart (fun _ _ h => h) fun _ h => h).bind fun _ => hParams.bind fun _ => ?_
    intro state h
    obtain ⟨c, hc, hStill, -⟩ := h.config
    rw [findUniqueOrThrow_ends hc hStill.place.id]
    exact ⟨hStill, h⟩
  · rw [if_neg hPayload, if_neg hPayload, if_neg hPayload]
    refine .pure ?_
    rintro _ rfl
    exact ⟨⟨.refl row, rfl, rfl⟩, .start hRow⟩

/-- The published config is what the request makes of it, and the ledger is as it was. -/
structure ReadyToBill (dto : PublishTaxConfig) (ctx : TaxContext) (db : TaxDb) (row : TaxConfigRow)
    (db' : TaxDb) : Prop where
  config : ∃ c ∈ db'.configs.rows, SamePlace row c ∧ c.status = .published ∧
    db'.taxConfig ctx c = (dto.outcome ctx (db.withCells row)).taxConfig ctx
  demands : db'.ledger.demands = db.ledger.demands
  payments : db'.ledger.payments = db.ledger.payments

/-- A configuration marked as published is ready to bill. -/
theorem markPublished_readyToBill :
    Meets (TaxConfigsService.markPublished ctx row.id (db.withCells row).nextVersion dto actorId)
      (HasRates db row (dto.paramsAfter (db.withCells row)) (dto.cellsAfter (db.withCells row)))
      (fun _ => ReadyToBill dto ctx db row) (fun _ => True) := by
  unfold TaxConfigsService.markPublished
  refine .execute ?_ fun _ _ _ _ => trivial
  rintro state db' ⟨⟩ h hOk
  obtain ⟨effectiveFrom, -, hUpdate⟩ := bind_ok hOk
  obtain ⟨c, configs, hId, hReplaced, rfl⟩ := TaxDb.updateConfig_ok hUpdate fun _ => rfl
  obtain ⟨stored, hStored, hStill, hParams⟩ := h.config
  obtain rfl : stored = c :=
    eq_of_key hStored hReplaced.mem_old (hStill.place.id.trans hId.symm)
  refine ⟨⟨_, hReplaced.mem_new, hStill.place.trans ⟨rfl, rfl, rfl⟩, rfl, ?_⟩, h.demands,
    h.payments⟩
  rw [← taxConfig_withCells]
  have hPlace : SamePlace row stored := hStill.place
  refine taxConfig_congr ctx ⟨⟨hPlace.id, hPlace.wardId, hPlace.assessmentYearId⟩, rfl, rfl⟩ hParams
    rfl ?_
  change state.cellsOf stored.id = _
  rw [hStill.place.id]
  exact h.cells

/-- Rates that change are on record before the config is published with them. -/
theorem publishRates_readyToBill (hRow : row ∈ db.configs.rows)
    (hChanged : TaxConfigsService.ratesUnchanged ctx (db.withCells row) dto = false) :
    Meets (TaxConfigsService.publishRates ctx row.id (db.withCells row) dto actorId) (· = db)
      (fun _ => ReadyToBill dto ctx db row) (fun _ => True) := by
  unfold TaxConfigsService.publishRates
  rw [if_neg (by rw [hChanged]; exact Bool.false_ne_true)]
  refine (writePayload_hasRates hRow).bind fun config => Meets.given fun hStill => ?_
  have hVersion : TaxConfigsService.orVersion
      (config.row.version + if config.row.status = .published then 1 else 0) config.row.version =
        (db.withCells row).nextVersion := by
    rw [hStill.version, hStill.status]
    rfl
  dsimp only
  rw [hVersion]
  refine Meets.bind (.execute ?_ fun _ _ _ _ => trivial) fun _ => markPublished_readyToBill
  rintro state db' ⟨⟩ h hOk
  obtain ⟨versions, -, rfl⟩ := TaxDb.createVersion_ok hOk
  exact ⟨h.config, h.cells, h.demands, h.payments⟩

/-! ### The bills -/

/-- A bill depends on the rates, the demands and the payments only. -/
theorem wardBillable_congr {state : TaxDb} {wardId assessmentYearId : Id} {taxConfig : TaxConfig}
    (hDemands : state.ledger.demands = db.ledger.demands)
    (hPayments : state.ledger.payments = db.ledger.payments) :
    WardBillable (state.context ctx) wardId assessmentYearId taxConfig state.ledger ↔
      WardBillable (db.context ctx) wardId assessmentYearId taxConfig db.ledger := by
  refine forall₂_congr fun survey _ => ?_
  let input := wardInput (db.context ctx) assessmentYearId none taxConfig survey
  have hDemand : state.ledger.demandFor? input.survey.id input.assessmentYearId =
      db.ledger.demandFor? input.survey.id input.assessmentYearId := by
    unfold Db.demandFor?
    rw [hDemands]
  have hAmounts : input.amountsOn (db.context ctx) state.ledger =
      input.amountsOn (db.context ctx) db.ledger := amountsOn_congr hPayments hDemand
  constructor
  · intro h
    refine ⟨h.zone, ?_⟩
    rw [← hAmounts]
    exact h.fit
  · intro h
    have hFit := h.fit
    rw [← hAmounts] at hFit
    exact ⟨h.zone, hFit⟩

end Outcome

end PropertyTax
