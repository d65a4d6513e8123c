import PropertyTax.TaxConfigs.Service

/-! What the statements of the tax configuration service change. A config's
rates are seen as a function of the road and the construction. -/
namespace PropertyTax
open KeyedTable Scripts

/-! ### Single statements -/

/-- A number is stored when it fits the column. -/
theorem storeDecimal_eq_ok {precision : Nat} {x : ℚ} {column : Rate} :
    storeDecimal precision x = .ok column ↔
      (toRateColumn x).natAbs < 10 ^ precision ∧ toRateColumn x = column := by
  unfold storeDecimal
  split_ifs with hFits
  · exact ⟨fun h => ⟨hFits, Except.ok.inj h⟩, fun h => congrArg _ h.2⟩
  · exact ⟨fun h => (by cases h), fun h => absurd h.1 hFits⟩

/-- Percentages are stored when each fits its column. -/
theorem storeParams_eq_ok {params : RateParams ℚ} {columns : RateParams Rate} :
    storeParams params = .ok columns ↔
      (∀ x ∈ params.toList, (toRateColumn x).natAbs < 10 ^ 8) ∧
        params.map toRateColumn = columns := by
  unfold storeParams
  simp only [List.all_eq_true, decide_eq_true_eq]
  split_ifs with hFits
  · exact ⟨fun h => ⟨hFits, Except.ok.inj h⟩, fun h => congrArg _ h.2⟩
  · exact ⟨fun h => (by cases h), fun h => absurd h.1 hFits⟩

namespace TaxDb
variable {ctx : TaxContext} {db db' : TaxDb}

/-- The rate that is stored for a road and a construction. -/
def rates (db : TaxDb) (id roadWidthEntryId constructionEntryId : Id) : Option Rate :=
  (db.cells.find? ⟨id, roadWidthEntryId, constructionEntryId⟩).map
    TaxRateCellRow.annualRatePerSqFt

/-- The cells of a configuration are those that rate its pairs. -/
theorem mem_cellsOf {id : Id} {cell : TaxRateCellRow} :
    cell ∈ db.cellsOf id ↔ cell.key.taxConfigId = id ∧
      db.rates id cell.key.roadWidthEntryId cell.key.constructionEntryId =
        some cell.annualRatePerSqFt := by
  obtain ⟨⟨owner, road, construction⟩, rate⟩ := cell
  simp only [cellsOf, rates, List.mem_filter, decide_eq_true_eq, Option.map_eq_some_iff,
    find?_eq_some_iff]
  constructor
  · rintro ⟨hMem, rfl⟩
    exact ⟨rfl, _, ⟨hMem, rfl⟩, rfl⟩
  · rintro ⟨rfl, ⟨_, _⟩, ⟨hMem, rfl⟩, rfl⟩
    exact ⟨hMem, rfl⟩

/-- An updated configuration is rewritten in its place. -/
theorem updateConfig_ok {id : Id} {data : TaxConfigRow → TaxConfigRow}
    (h : db.updateConfig ctx id data = .ok (db', ())) (hData : ∀ c, (data c).id = c.id) :
    ∃ c configs, c.id = id ∧ Replaced db.configs configs c
      { data c with updatedAt := ctx.base.now } ∧ db' = { db with configs } := by
  obtain ⟨configs, hUpdate, hDb⟩ := bind_ok h
  have hUpdate := mapError_ok hUpdate
  cases hDb
  obtain ⟨c, hc, hKey⟩ := exists_of_update hUpdate
  exact ⟨c, configs, hKey, replaced_of_update hUpdate hc hKey (hData c), rfl⟩

/-- A created configuration is stored with an id drawn for it. -/
theorem createConfig_ok {wardId assessmentYearId id : Id}
    (h : db.createConfig ctx wardId assessmentYearId = .ok (db', id)) :
    ∃ configs, Added db.configs configs
        { id, wardId, assessmentYearId, updatedAt := ctx.base.now } ∧
      id = db.ledger.nextId ∧
      db' = { db with configs, ledger := { db.ledger with nextId := id + 1 } } := by
  obtain ⟨configs, hInsert, hDb⟩ := bind_ok h
  cases hDb
  exact ⟨configs, added_of_insert (mapError_ok hInsert), rfl, rfl⟩

/-- A created version is stored with an id drawn for it, and noted as written. -/
theorem createVersion_ok {row : Id → TaxConfigVersionRow}
    (h : db.createVersion row = .ok (db', ())) :
    ∃ versions, Added db.versions versions (row db.ledger.nextId) ∧
      db' = { db with
        versions
        writtenVersions := row db.ledger.nextId :: db.writtenVersions
        ledger := { db.ledger with nextId := db.ledger.nextId + 1 } } := by
  obtain ⟨versions, hInsert, hDb⟩ := bind_ok h
  cases hDb
  exact ⟨versions, added_of_insert (mapError_ok hInsert), rfl⟩

/-- An updated version is rewritten in its place, and noted as written. -/
theorem updateVersion_ok {id : Id} {data : TaxConfigVersionRow → TaxConfigVersionRow}
    (h : db.updateVersion id data = .ok (db', ())) (hData : ∀ v, (data v).id = v.id) :
    ∃ v versions, v.id = id ∧ Replaced db.versions versions v (data v) ∧
      db' = { db with versions, writtenVersions := data v :: db.writtenVersions } := by
  obtain ⟨versions, hUpdate, hDb⟩ := bind_ok h
  have hUpdate := mapError_ok hUpdate
  cases hDb
  obtain ⟨v, hv, hKey⟩ := exists_of_update hUpdate
  have hFound : db.versions.find? id = some v := find?_eq_some_iff.mpr ⟨hv, hKey⟩
  exact ⟨v, versions, hKey, replaced_of_update hUpdate hv hKey (hData v), by rw [hFound]; rfl⟩

end TaxDb

/-! ### Rates as a function -/

/-- The rates of a config, by road and construction. -/
abbrev RateMap := Id → Id → Option Rate

namespace RateMap

def put (rates : RateMap) (cell : UpsertTaxCell) : RateMap := fun road construction =>
  if road = cell.roadWidthEntryId ∧ construction = cell.constructionEntryId then
    some (toRateColumn cell.annualRatePerSqFt)
  else rates road construction

/-- Later cells of the list win. -/
def overlay : RateMap → List UpsertTaxCell → RateMap
  | rates, [] => rates
  | rates, cell :: rest => overlay (put rates cell) rest

/-- A pair has the rate of a written cell, or the one it had. -/
theorem overlay_cases (rates : RateMap) (cells : List UpsertTaxCell) (road construction : Id) :
    (∃ cell ∈ cells, (cell.roadWidthEntryId = road ∧ cell.constructionEntryId = construction) ∧
        overlay rates cells road construction = some (toRateColumn cell.annualRatePerSqFt)) ∨
      ((∀ cell ∈ cells, ¬ (cell.roadWidthEntryId = road ∧
          cell.constructionEntryId = construction)) ∧
        overlay rates cells road construction = rates road construction) := by
  induction cells generalizing rates with
  | nil => exact .inr ⟨fun _ hCell => absurd hCell List.not_mem_nil, rfl⟩
  | cons cell rest ih =>
      rcases ih (put rates cell) with ⟨other, hMem, hPair, hRate⟩ | ⟨hNone, hRate⟩
      · exact .inl ⟨other, List.mem_cons_of_mem _ hMem, hPair, hRate⟩
      · by_cases hPair : cell.roadWidthEntryId = road ∧ cell.constructionEntryId = construction
        · refine .inl ⟨cell, List.mem_cons_self, hPair, hRate.trans ?_⟩
          rw [put, if_pos ⟨hPair.1.symm, hPair.2.symm⟩]
        · refine .inr ⟨List.forall_mem_cons.mpr ⟨hPair, hNone⟩, hRate.trans ?_⟩
          rw [put, if_neg fun h => hPair ⟨h.1.symm, h.2.symm⟩]

end RateMap

/-- The database takes the cell: its rate fits the column, and it is stored
already or its entries exist. -/
def AcceptsCell (ctx : TaxContext) (rates : RateMap) (cell : UpsertTaxCell) : Prop :=
  (toRateColumn cell.annualRatePerSqFt).natAbs < 10 ^ 14 ∧
    (rates cell.roadWidthEntryId cell.constructionEntryId ≠ none ∨
      ctx.entry? cell.roadWidthEntryId ≠ none ∧ ctx.entry? cell.constructionEntryId ≠ none)

instance (ctx : TaxContext) (rates : RateMap) (cell : UpsertTaxCell) :
    Decidable (AcceptsCell ctx rates cell) :=
  inferInstanceAs (Decidable (_ ∧ (_ ∨ _ ∧ _)))

/-- The cells are written up to the first that is refused. -/
def RateMap.written (ctx : TaxContext) : RateMap → List UpsertTaxCell → RateMap
  | rates, [] => rates
  | rates, cell :: rest =>
      if AcceptsCell ctx rates cell then written ctx (put rates cell) rest else rates

/-- Only the rates of one config differ. -/
structure OnlyRates (id : Id) (db db' : TaxDb) : Prop where
  ledger : db'.ledger = db.ledger
  configs : db'.configs = db.configs
  versions : db'.versions = db.versions
  writtenVersions : db'.writtenVersions = db.writtenVersions
  others : ∀ other, other ≠ id → db'.rates other = db.rates other

namespace OnlyRates
variable {id : Id} {db db' db'' : TaxDb}

theorem refl (id : Id) (db : TaxDb) : OnlyRates id db db :=
  ⟨rfl, rfl, rfl, rfl, fun _ _ => rfl⟩

theorem trans (h : OnlyRates id db db') (h' : OnlyRates id db' db'') : OnlyRates id db db'' :=
  ⟨h'.ledger.trans h.ledger, h'.configs.trans h.configs, h'.versions.trans h.versions,
    h'.writtenVersions.trans h.writtenVersions,
    fun other hOther => (h'.others other hOther).trans (h.others other hOther)⟩

end OnlyRates

/-! ### Cells -/

section Cells
variable {ctx : TaxContext} {db db' : TaxDb} {id : Id}

/-- One cell was written. -/
theorem rates_of_find {cells : KeyedTable TaxRateCellRow} {key : RateKey} {column : Rate}
    (hNew : cells.find? key = some ⟨key, column⟩)
    (hOld : ∀ k, k ≠ key → cells.find? k = db.cells.find? k) (other road construction : Id) :
    ({ db with cells } : TaxDb).rates other road construction =
      if (⟨other, road, construction⟩ : RateKey) = key then some column
      else db.rates other road construction := by
  unfold TaxDb.rates
  split_ifs with hKey
  · rw [hKey, hNew]
    rfl
  · rw [hOld _ hKey]

/-- Putting one cell changes only its rate. -/
theorem onlyRates_of_find {cells : KeyedTable TaxRateCellRow} {cell : UpsertTaxCell}
    (hNew : cells.find? ⟨id, cell.roadWidthEntryId, cell.constructionEntryId⟩ =
      some ⟨⟨id, cell.roadWidthEntryId, cell.constructionEntryId⟩,
        toRateColumn cell.annualRatePerSqFt⟩)
    (hOld : ∀ k, k ≠ ⟨id, cell.roadWidthEntryId, cell.constructionEntryId⟩ →
      cells.find? k = db.cells.find? k) :
    OnlyRates id db { db with cells } ∧
      ({ db with cells } : TaxDb).rates id = RateMap.put (db.rates id) cell := by
  refine ⟨⟨rfl, rfl, rfl, rfl, fun other hOther => ?_⟩, ?_⟩
  · funext road construction
    rw [rates_of_find hNew hOld, if_neg]
    intro hKey
    exact hOther (congrArg RateKey.taxConfigId hKey)
  · funext road construction
    rw [rates_of_find hNew hOld, RateMap.put]
    simp only [RateKey.mk.injEq, true_and]

/-- A new cell, of any rate. -/
theorem insertCell_ok {cell : UpsertTaxCell}
    (h : db.insertCell ctx ⟨id, cell.roadWidthEntryId, cell.constructionEntryId⟩
      cell.annualRatePerSqFt = .ok (db', ())) :
    AcceptsCell ctx (db.rates id) cell ∧ OnlyRates id db db' ∧
      db'.rates id = RateMap.put (db.rates id) cell := by
  obtain ⟨column, hColumn, h⟩ := bind_ok h
  obtain ⟨hFits, rfl⟩ := storeDecimal_eq_ok.mp hColumn
  split_ifs at h with hMissing
  · cases h
  · simp only [Bool.or_eq_true, Option.isNone_iff_eq_none, not_or] at hMissing
    obtain ⟨cells, hInsert, hDb⟩ := bind_ok h
    cases hDb
    have hAdded := added_of_insert (mapError_ok hInsert)
    have hSet : OnlyRates id db { db with cells } ∧
        ({ db with cells } : TaxDb).rates id = RateMap.put (db.rates id) cell :=
      onlyRates_of_find hAdded.find?_new fun k hne => hAdded.find?_of_ne hne
    exact ⟨⟨hFits, .inr hMissing⟩, hSet⟩

/-- A written cell was accepted, and is put into the rates. -/
theorem upsertCell_ok {cell : UpsertTaxCell}
    (h : db.upsertCell ctx ⟨id, cell.roadWidthEntryId, cell.constructionEntryId⟩
      cell.annualRatePerSqFt (some cell.annualRatePerSqFt) = .ok (db', ())) :
    AcceptsCell ctx (db.rates id) cell ∧ OnlyRates id db db' ∧
      db'.rates id = RateMap.put (db.rates id) cell := by
  unfold TaxDb.upsertCell at h
  cases hStored : db.cells.find? ⟨id, cell.roadWidthEntryId, cell.constructionEntryId⟩ with
  | none =>
      simp only [hStored] at h
      exact insertCell_ok h
  | some stored =>
      simp only [hStored] at h
      obtain ⟨column, hColumn, h⟩ := bind_ok h
      obtain ⟨hFits, rfl⟩ := storeDecimal_eq_ok.mp hColumn
      obtain ⟨cells, hUpdate, hDb⟩ := bind_ok h
      cases hDb
      obtain ⟨hMem, hKey⟩ := find?_eq_some_iff.mp hStored
      have hReplaced := replaced_of_update (mapError_ok hUpdate) hMem hKey rfl
      have hOwn : stored.key = ⟨id, cell.roadWidthEntryId, cell.constructionEntryId⟩ := hKey
      have hSet : OnlyRates id db { db with cells } ∧
          ({ db with cells } : TaxDb).rates id = RateMap.put (db.rates id) cell := by
        refine onlyRates_of_find ?_ fun k hne => hReplaced.find?_of_ne (by rwa [hKey])
        have hNew := hReplaced.find?_new
        rw [hKey] at hNew
        rw [hNew, hOwn]
      refine ⟨⟨hFits, .inl ?_⟩, hSet⟩
      simp [TaxDb.rates, hStored]

theorem upsertCell_isOk {cell : UpsertTaxCell} (h : AcceptsCell ctx (db.rates id) cell) :
    ∃ db', db.upsertCell ctx ⟨id, cell.roadWidthEntryId, cell.constructionEntryId⟩
      cell.annualRatePerSqFt (some cell.annualRatePerSqFt) = .ok (db', ()) := by
  obtain ⟨hFits, hKnown⟩ := h
  have hColumn := storeDecimal_eq_ok.mpr ⟨hFits, rfl⟩
  cases hStored : db.cells.find? ⟨id, cell.roadWidthEntryId, cell.constructionEntryId⟩ with
  | none =>
      obtain ⟨hRoad, hConstruction⟩ := hKnown.resolve_left (by simp [TaxDb.rates, hStored])
      have hFree : ∀ r ∈ db.cells.rows, KeyedRow.clash r
          (⟨⟨id, cell.roadWidthEntryId, cell.constructionEntryId⟩,
            toRateColumn cell.annualRatePerSqFt⟩ : TaxRateCellRow) = false := by
        intro r hr
        exact decide_eq_false (find?_eq_none_iff.mp hStored r hr)
      obtain ⟨cells, hInsert⟩ := insert_isOk_iff.mpr hFree
      refine ⟨{ db with cells }, ?_⟩
      simp [TaxDb.upsertCell, hStored, TaxDb.insertCell, hColumn, hRoad, hConstruction, hInsert,
        Except.mapError, bind, Except.bind, pure, Except.pure]
  | some stored =>
      obtain ⟨hMem, hKey⟩ := find?_eq_some_iff.mp hStored
      have hUpdate : ∃ cells, db.cells.update
          ⟨id, cell.roadWidthEntryId, cell.constructionEntryId⟩ (fun c =>
            { c with annualRatePerSqFt := toRateColumn cell.annualRatePerSqFt }) = .ok cells := by
        refine update_isOk hMem hKey fun q hq hne => ?_
        by_contra hClash
        have hSame : q.key = stored.key := by simpa [KeyedRow.clash] using hClash
        exact hne (eq_of_key hq hMem hSame)
      obtain ⟨cells, hUpdate⟩ := hUpdate
      refine ⟨{ db with cells }, ?_⟩
      simp [TaxDb.upsertCell, hStored, hColumn, hUpdate, Except.mapError, bind, Except.bind, pure,
        Except.pure]

/-! ### Lists of cells -/

/-- What one cell of a list leaves accepted is what was accepted before. -/
theorem acceptsCell_put {rates : RateMap} {cell other : UpsertTaxCell}
    (hCell : AcceptsCell ctx rates cell) :
    AcceptsCell ctx (RateMap.put rates cell) other ↔ AcceptsCell ctx rates other := by
  unfold AcceptsCell
  refine and_congr_right fun _ => ?_
  by_cases hPair : other.roadWidthEntryId = cell.roadWidthEntryId ∧
      other.constructionEntryId = cell.constructionEntryId
  · obtain ⟨hRoad, hConstruction⟩ := hPair
    rw [RateMap.put, if_pos ⟨hRoad, hConstruction⟩, hRoad, hConstruction]
    exact ⟨fun _ => hCell.2, fun _ => .inl (Option.some_ne_none _)⟩
  · rw [RateMap.put, if_neg hPair]

/-- All cells of a list are written, or the first that is refused ends the
script. -/
theorem writeCells_ends (ctx : TaxContext) (id : Id) (cells : List UpsertTaxCell) (db : TaxDb) :
    Ends (fun _ db' => (∀ cell ∈ cells, AcceptsCell ctx (db.rates id) cell) ∧
        OnlyRates id db db' ∧ db'.rates id = RateMap.overlay (db.rates id) cells)
      (fun db' => (¬ ∀ cell ∈ cells, AcceptsCell ctx (db.rates id) cell) ∧ OnlyRates id db db' ∧
        db'.rates id = RateMap.written ctx (db.rates id) cells)
      (TaxConfigsService.writeCells ctx id cells db) := by
  induction cells generalizing db with
  | nil => exact ⟨fun _ hCell => absurd hCell List.not_mem_nil, .refl id db, rfl⟩
  | cons cell rest ih =>
      have hStep : Meets (Script.execute (TaxDb.upsertCell ctx
          ⟨id, cell.roadWidthEntryId, cell.constructionEntryId⟩ cell.annualRatePerSqFt
          (some cell.annualRatePerSqFt))) (fun state => state = db)
          (fun _ db' => AcceptsCell ctx (db.rates id) cell ∧ OnlyRates id db db' ∧
            db'.rates id = RateMap.put (db.rates id) cell)
          (fun db' => (¬ ∀ c ∈ cell :: rest, AcceptsCell ctx (db.rates id) c) ∧
            OnlyRates id db db' ∧
            db'.rates id = RateMap.written ctx (db.rates id) (cell :: rest)) := by
        refine .execute ?_ ?_
        · rintro state after ⟨⟩ rfl hOk
          exact upsertCell_ok hOk
        · rintro state failure rfl hError
          have hRefused : ¬ AcceptsCell ctx (state.rates id) cell := by
            intro hAccepts
            obtain ⟨after, hOk⟩ := upsertCell_isOk hAccepts
            rw [hOk] at hError
            cases hError
          refine ⟨fun hAll => hRefused (hAll cell List.mem_cons_self), .refl id state, ?_⟩
          rw [RateMap.written, if_neg hRefused]
      refine Meets.bind hStep (fun _ => ?_) db rfl
      rintro db₁ ⟨hAccepts, hOnly, hRates⟩
      have hRest := ih db₁
      rw [hRates] at hRest
      refine hRest.mono (fun _ db' h => ?_) (fun db' h => ?_)
      · obtain ⟨hAll, hOnly', hRates'⟩ := h
        refine ⟨fun c hc => ?_, hOnly.trans hOnly', hRates'⟩
        rcases List.mem_cons.mp hc with rfl | hMem
        · exact hAccepts
        · exact (acceptsCell_put hAccepts).mp (hAll c hMem)
      · obtain ⟨hNone, hOnly', hRates'⟩ := h
        refine ⟨fun hAll => hNone fun c hc => ?_, hOnly.trans hOnly', ?_⟩
        · exact (acceptsCell_put hAccepts).mpr (hAll c (List.mem_cons_of_mem _ hc))
        · rw [hRates', RateMap.written, if_pos hAccepts]

/-! ### The matrix -/

/-- A cell of rate 0, unless there is one. -/
def RateMap.fill (rates : RateMap) (pair : CatalogEntry × CatalogEntry) : RateMap :=
  fun road construction =>
    if road = pair.1.ref.id ∧ construction = pair.2.ref.id then
      some ((rates road construction).getD 0)
    else rates road construction

/-- The rates of a new config. -/
def matrixRates (ctx : TaxContext) : RateMap := fun road construction =>
  if ∃ pair ∈ TaxConfigsService.matrix ctx, road = pair.1.ref.id ∧ construction = pair.2.ref.id
    then some 0
  else none

/-- Filling gives the pairs of the matrix zero where they had no rate. -/
theorem foldl_fill (pairs : List (CatalogEntry × CatalogEntry)) (rates : RateMap)
    (road construction : Id) : pairs.foldl RateMap.fill rates road construction =
      if ∃ pair ∈ pairs, road = pair.1.ref.id ∧ construction = pair.2.ref.id then
        some ((rates road construction).getD 0)
      else rates road construction := by
  induction pairs generalizing rates with
  | nil => simp
  | cons pair rest ih =>
      rw [List.foldl_cons, ih, RateMap.fill]
      by_cases hFirst : road = pair.1.ref.id ∧ construction = pair.2.ref.id
      · simp [hFirst]
      · simp only [List.mem_cons, exists_eq_or_imp, hFirst, false_or, ↓reduceIte]

/-- Filling one pair changes only its rate. -/
theorem fillCell_ok {road construction : Id}
    (h : db.upsertCell ctx ⟨id, road, construction⟩ 0 none = .ok (db', ())) :
    OnlyRates id db db' ∧ db'.rates id = fun r c =>
      if r = road ∧ c = construction then some ((db.rates id r c).getD 0)
      else db.rates id r c := by
  unfold TaxDb.upsertCell at h
  cases hStored : db.cells.find? ⟨id, road, construction⟩ with
  | none =>
      simp only [hStored] at h
      obtain ⟨_, hOnly, hRates⟩ := @insertCell_ok ctx db db' id ⟨road, construction, 0⟩ h
      refine ⟨hOnly, hRates.trans ?_⟩
      funext r c
      unfold RateMap.put
      split_ifs with hPair
      · obtain ⟨rfl, rfl⟩ := hPair
        have hZero : toRateColumn 0 = 0 := by decide +kernel
        simp [TaxDb.rates, hStored, hZero]
      · rfl
  | some stored =>
      simp only [hStored, Except.ok.injEq, Prod.mk.injEq, and_true] at h
      subst h
      refine ⟨.refl id db, ?_⟩
      funext r c
      split_ifs with hPair
      · obtain ⟨rfl, rfl⟩ := hPair
        simp [TaxDb.rates, hStored]
      · rfl

/-- The matrix is filled pair by pair. -/
theorem ensureMatrixCells_ends (ctx : TaxContext) (id : Id) (db : TaxDb) :
    Ends (fun _ db' => OnlyRates id db db' ∧
        db'.rates id = (TaxConfigsService.matrix ctx).foldl RateMap.fill (db.rates id))
      (OnlyRates id db) (TaxConfigsService.ensureMatrixCells ctx id db) := by
  let invariant (rest : List (CatalogEntry × CatalogEntry)) (_ : Unit) (db' : TaxDb) : Prop :=
    OnlyRates id db db' ∧ (TaxConfigsService.matrix ctx).foldl RateMap.fill (db.rates id) =
      rest.foldl RateMap.fill (db'.rates id)
  have hLoop : Meets (TaxConfigsService.ensureMatrixCells ctx id)
      (invariant (TaxConfigsService.matrix ctx) ()) (invariant []) (OnlyRates id db) := by
    refine Meets.foldlM invariant (fun pair rest _ => .execute ?_ ?_) _ _
    · rintro state after ⟨⟩ ⟨hOnly, hRates⟩ hOk
      obtain ⟨hOnly', hRates'⟩ := fillCell_ok hOk
      refine ⟨hOnly.trans hOnly', hRates.trans ?_⟩
      rw [hRates', List.foldl_cons]
      rfl
    · rintro state failure ⟨hOnly, _⟩ _
      exact hOnly
  refine (hLoop db ⟨.refl id db, rfl⟩).mono ?_ fun _ hOnly => hOnly
  rintro _ db' ⟨hOnly, hRates⟩
  exact ⟨hOnly, hRates.symm⟩

end Cells

/-! ### Rows -/

section Rows
variable {ctx : TaxContext} {db db' : TaxDb} {id wardId assessmentYearId : Id}

/-- The columns that no call changes. -/
structure SamePlace (c c' : TaxConfigRow) : Prop where
  id : c'.id = c.id
  wardId : c'.wardId = c.wardId
  assessmentYearId : c'.assessmentYearId = c.assessmentYearId

theorem SamePlace.refl (c : TaxConfigRow) : SamePlace c c := ⟨rfl, rfl, rfl⟩

theorem SamePlace.trans {c c' c'' : TaxConfigRow} (h : SamePlace c c') (h' : SamePlace c' c'') :
    SamePlace c c'' :=
  ⟨h'.id.trans h.id, h'.wardId.trans h.wardId,
    h'.assessmentYearId.trans h.assessmentYearId⟩

/-- An update that leaves a stored row in its place is not refused. -/
theorem updateConfig_isOk {c : TaxConfigRow} {data : TaxConfigRow → TaxConfigRow}
    (hMem : c ∈ db.configs.rows) (hId : c.id = id) (hData : ∀ c, SamePlace c (data c)) :
    ∃ db', db.updateConfig ctx id data = .ok (db', ()) := by
  have hUpdate : ∃ configs, db.configs.update id
      (fun c => { data c with updatedAt := ctx.base.now }) = .ok configs := by
    refine update_isOk hMem hId fun q hq hne => ?_
    by_contra hClash
    refine hne (eq_of_clash hq hMem ?_)
    have hSame := hData c
    rw [Bool.not_eq_false] at hClash
    simpa only [KeyedRow.clash, hSame.id, hSame.wardId, hSame.assessmentYearId] using hClash
  obtain ⟨configs, hUpdate⟩ := hUpdate
  refine ⟨{ db with configs }, ?_⟩
  simp [TaxDb.updateConfig, hUpdate, Except.mapError, bind, Except.bind, pure, Except.pure]

/-- What is found is stored for the ward and year. -/
theorem configFor?_some {config : TaxConfigWithCells}
    (h : db.configFor? wardId assessmentYearId = some config) :
    config.row ∈ db.configs.rows ∧ config.row.wardId = wardId ∧
      config.row.assessmentYearId = assessmentYearId ∧ config = db.withCells config.row := by
  obtain ⟨row, hFound, rfl⟩ := Option.map_eq_some_iff.mp h
  have hPlace : row.wardId = wardId ∧ row.assessmentYearId = assessmentYearId := by
    simpa using List.find?_some hFound
  exact ⟨List.mem_of_find?_eq_some hFound, hPlace.1, hPlace.2, rfl⟩

/-- Where nothing is found, no configuration is stored for them. -/
theorem configFor?_none (h : db.configFor? wardId assessmentYearId = none) {c : TaxConfigRow}
    (hc : c ∈ db.configs.rows) : ¬ (c.wardId = wardId ∧ c.assessmentYearId = assessmentYearId) := by
  have hNone := List.find?_eq_none.mp (Option.map_eq_none_iff.mp h) c hc
  simpa using hNone

/-- The only config of its ward and year. -/
theorem configFor?_eq_some {c : TaxConfigRow} (hc : c ∈ db.configs.rows)
    (hWard : c.wardId = wardId) (hYear : c.assessmentYearId = assessmentYearId) :
    db.configFor? wardId assessmentYearId = some (db.withCells c) := by
  refine congrArg (Option.map db.withCells) (findFirst?_eq_some_of_mem hc ?_ fun q hq hPlace => ?_)
  · simp [hWard, hYear]
  · refine eq_of_clash hq hc ?_
    have hSame : q.wardId = wardId ∧ q.assessmentYearId = assessmentYearId := by simpa using hPlace
    simp [KeyedRow.clash, hWard, hYear, hSame]

/-- What is found is stored under the key. -/
theorem configById?_some {config : TaxConfigWithCells} (h : db.configById? id = some config) :
    config.row ∈ db.configs.rows ∧ config.row.id = id ∧ config = db.withCells config.row := by
  obtain ⟨row, hFound, rfl⟩ := Option.map_eq_some_iff.mp h
  obtain ⟨hMem, hId⟩ := find?_eq_some_iff.mp hFound
  exact ⟨hMem, hId, rfl⟩

/-- A stored configuration is found under its key. -/
theorem configById?_eq_some {c : TaxConfigRow} (hc : c ∈ db.configs.rows) (hId : c.id = id) :
    db.configById? id = some (db.withCells c) := by
  rw [TaxDb.configById?, find?_eq_some_iff.mpr ⟨hc, hId⟩]
  rfl

/-- The request that stands for the stored rates. -/
theorem mem_storedCells {row : TaxConfigRow} {cell : UpsertTaxCell} :
    cell ∈ TaxConfigsService.storedCells (db.withCells row) ↔ ∃ rate,
      db.rates row.id cell.roadWidthEntryId cell.constructionEntryId = some rate ∧
        toRate rate = cell.annualRatePerSqFt := by
  simp only [TaxConfigsService.storedCells, TaxDb.withCells, List.mem_map, TaxDb.mem_cellsOf]
  constructor
  · rintro ⟨stored, ⟨_, hRate⟩, rfl⟩
    exact ⟨_, hRate, rfl⟩
  · rintro ⟨rate, hRate, hCell⟩
    refine ⟨⟨⟨row.id, cell.roadWidthEntryId, cell.constructionEntryId⟩, rate⟩, ⟨rfl, hRate⟩, ?_⟩
    rw [hCell]

/-! ### New configs -/

def newConfig (ctx : TaxContext) (db : TaxDb) (wardId assessmentYearId : Id) : TaxConfigRow where
  id := db.ledger.nextId
  wardId := wardId
  assessmentYearId := assessmentYearId
  updatedAt := ctx.base.now

/-- A draft was added, and cells of it alone. -/
structure Opened (ctx : TaxContext) (wardId assessmentYearId : Id) (db db' : TaxDb) : Prop where
  configs : Added db.configs db'.configs (newConfig ctx db wardId assessmentYearId)
  versions : db'.versions = db.versions
  writtenVersions : db'.writtenVersions = db.writtenVersions
  others : ∀ other, other ≠ db.ledger.nextId → db'.rates other = db.rates other
  demands : db'.ledger.demands = db.ledger.demands
  nextId : db'.ledger.nextId = db.ledger.nextId + 1

/-- An opened configuration may be given rates. -/
theorem Opened.onlyRates {db₁ db₂ : TaxDb} (h : Opened ctx wardId assessmentYearId db db₁)
    (h' : OnlyRates db.ledger.nextId db₁ db₂) : Opened ctx wardId assessmentYearId db db₂ :=
  ⟨h'.configs ▸ h.configs, h'.versions.trans h.versions,
    h'.writtenVersions.trans h.writtenVersions,
    fun other hOther => (h'.others other hOther).trans (h.others other hOther),
    by rw [h'.ledger, h.demands], by rw [h'.ledger, h.nextId]⟩

/-- A stored configuration is found, and nothing is written. -/
theorem findUniqueOrThrow_ends {c : TaxConfigRow} (hc : c ∈ db.configs.rows) (hId : c.id = id) :
    TaxConfigsService.findUniqueOrThrow id db = (db, .ok (db.withCells c)) := by
  unfold TaxConfigsService.findUniqueOrThrow
  rw [configById?_eq_some hc hId]

/-- A created draft has the matrix filled with zeros. -/
theorem createDraft_ends (ctx : TaxContext) (wardId assessmentYearId : Id) (actorId : Option Id)
    (db : TaxDb) :
    Ends (fun config db' => Opened ctx wardId assessmentYearId db db' ∧
        config = db'.withCells (newConfig ctx db wardId assessmentYearId) ∧
        db'.rates db.ledger.nextId = (TaxConfigsService.matrix ctx).foldl RateMap.fill
          (db.rates db.ledger.nextId))
      (fun db' => db' = db ∨ Opened ctx wardId assessmentYearId db db')
      (TaxConfigsService.createDraft ctx wardId assessmentYearId actorId db) := by
  let row := newConfig ctx db wardId assessmentYearId
  let filled := (TaxConfigsService.matrix ctx).foldl RateMap.fill (db.rates row.id)
  let broken (db' : TaxDb) : Prop := db' = db ∨ Opened ctx wardId assessmentYearId db db'
  have hCreate : Meets (Script.execute (TaxDb.createConfig ctx wardId assessmentYearId))
      (· = db) (fun id db' => id = row.id ∧ Opened ctx wardId assessmentYearId db db' ∧
        db'.rates row.id = db.rates row.id) broken := by
    refine .execute ?_ ?_
    · rintro _ after id rfl hOk
      obtain ⟨configs, hAdded, rfl, rfl⟩ := TaxDb.createConfig_ok hOk
      exact ⟨rfl, ⟨hAdded, rfl, rfl, fun _ _ => rfl, rfl, rfl⟩, rfl⟩
    · rintro _ _ rfl _
      exact .inl rfl
  have hMatrix : Meets (TaxConfigsService.ensureMatrixCells ctx row.id)
      (fun db' => Opened ctx wardId assessmentYearId db db' ∧ db'.rates row.id = db.rates row.id)
      (fun _ db' => Opened ctx wardId assessmentYearId db db' ∧ db'.rates row.id = filled)
      broken := by
    rintro state ⟨hOpened, hRates⟩
    refine (ensureMatrixCells_ends ctx row.id state).mono ?_ ?_
    · rintro _ db' ⟨hOnly, hFilled⟩
      exact ⟨hOpened.onlyRates hOnly, by rw [hFilled, hRates]⟩
    · intro db' hOnly
      exact .inr (hOpened.onlyRates hOnly)
  refine Meets.bind hCreate (fun id => Meets.given ?_) db rfl
  rintro rfl
  refine hMatrix.bind fun _ => ?_
  rintro state ⟨hOpened, hRates⟩
  rw [Script.bind_of_ok (findUniqueOrThrow_ends hOpened.configs.mem_row rfl)]
  exact ⟨⟨hOpened.configs, hOpened.versions, hOpened.writtenVersions, hOpened.others,
    hOpened.demands, hOpened.nextId⟩, rfl, hRates⟩

/-- `getOrCreate` finds a config, or opens a draft with the rates of the
matrix. -/
theorem getOrCreate_ends (ctx : TaxContext) (wardId assessmentYearId : Id) (actorId : Option Id)
    (db : TaxDb) :
    Ends (fun config db' =>
        (db' = db ∧ db.configFor? wardId assessmentYearId = some config) ∨
        (db.configFor? wardId assessmentYearId = none ∧
          Opened ctx wardId assessmentYearId db db' ∧
          config = db'.withCells (newConfig ctx db wardId assessmentYearId) ∧
          db'.rates db.ledger.nextId = (TaxConfigsService.matrix ctx).foldl RateMap.fill
            (db.rates db.ledger.nextId)))
      (fun db' => db' = db ∨ (db.configFor? wardId assessmentYearId = none ∧
        Opened ctx wardId assessmentYearId db db'))
      (TaxConfigsService.getOrCreate ctx wardId assessmentYearId actorId db) := by
  rw [TaxConfigsService.getOrCreate, Script.query_bind]
  cases hFound : db.configFor? wardId assessmentYearId with
  | some config => exact Or.inl ⟨rfl, rfl⟩
  | none =>
      dsimp only
      by_cases hWard : wardId ∉ ctx.wards.map Ward.id
      · rw [if_pos hWard]
        exact Or.inl rfl
      · rw [if_neg hWard]
        by_cases hYear : (ctx.entry? assessmentYearId).isNone = true
        · rw [if_pos hYear]
          exact Or.inl rfl
        · rw [if_neg hYear]
          refine (createDraft_ends ctx wardId assessmentYearId actorId db).mono ?_ ?_
          · exact fun config db' hCreated => .inr ⟨rfl, hCreated⟩
          · exact fun db' hBroken => hBroken.imp id fun hOpened => ⟨rfl, hOpened⟩

end Rows
end PropertyTax
