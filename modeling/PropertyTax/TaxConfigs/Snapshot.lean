import PropertyTax.TaxConfigs.Versions

/-! The rates on record against the rates in force. A publication records what
it was asked to write, and bills are computed from what is stored after it. -/
namespace PropertyTax
open KeyedTable Scripts Runs

/-! ### Rates on record -/

/-- The snapshot has the percentages that are stored, and one cell for each rate
that is stored. -/
structure Recorded (snapshot : RateSnapshot) (params : RateParams Rate) (rates : RateMap) :
    Prop where
  params : snapshot.params = params.map toRate
  cells : ∀ cell, cell ∈ snapshot.cells ↔ ∃ rate,
    rates cell.roadWidthEntryId cell.constructionEntryId = some rate ∧
      toRate rate = cell.annualRatePerSqFt

/-- The rates are on record for the version of the config. -/
def TaxDb.RatesOnRecord (db : TaxDb) (id : Id) (version : Nat) (params : RateParams Rate)
    (rates : RateMap) : Prop :=
  ∃ v ∈ db.versions.rows, v.taxConfigId = id ∧ v.version = version ∧
    Recorded v.snapshot params rates

/-- The snapshot of each published config is the live matrix. -/
def SnapshotsLive (db : TaxDb) : Prop :=
  ∀ c ∈ db.configs.rows, c.status = .published →
    db.RatesOnRecord c.id c.version c.params (db.rates c.id)

/-- A snapshot records the rates whatever the order of its cells. -/
theorem recorded_sorted {billing : Billing} {cells : List UpsertTaxCell} {asked : RateParams ℚ}
    {params : RateParams Rate} {rates : RateMap} :
    Recorded (TaxConfigsService.buildRateSnapshot billing cells asked) params rates ↔
      Recorded ⟨asked, cells⟩ params rates := by
  constructor
  · exact fun h => ⟨h.params, fun cell => (List.mem_insertionSort _).symm.trans (h.cells cell)⟩
  · exact fun h => ⟨h.params, fun cell => (List.mem_insertionSort _).trans (h.cells cell)⟩

/-- What is read from the tables is what is stored. -/
theorem recorded_stored {db : TaxDb} (row : TaxConfigRow) :
    Recorded ⟨row.params.map toRate, TaxConfigsService.storedCells (db.withCells row)⟩ row.params
      (db.rates row.id) := ⟨rfl, fun _ => mem_storedCells⟩

/-! ### Requests that say what will be live -/

/-- The request names every stored rate, none of them twice in two ways, in no
more decimals than are stored. -/
structure RecordsLive (rates : RateMap) (cells : List UpsertTaxCell) (params : RateParams ℚ) :
    Prop where
  covers : ∀ road construction, rates road construction ≠ none →
    ∃ cell ∈ cells, cell.roadWidthEntryId = road ∧ cell.constructionEntryId = construction
  single : ∀ a ∈ cells, ∀ b ∈ cells, a.roadWidthEntryId = b.roadWidthEntryId →
    a.constructionEntryId = b.constructionEntryId → a.annualRatePerSqFt = b.annualRatePerSqFt
  rates : ∀ cell ∈ cells, IsRate cell.annualRatePerSqFt
  params : ∀ x ∈ params.toList, IsRate x

/-- Percentages read as they were sent when each is a rate. -/
theorem RateParams.eq_map_toRate_iff {params : RateParams ℚ} :
    params = (params.map toRateColumn).map toRate ↔ ∀ x ∈ params.toList, IsRate x := by
  obtain ⟨a, b, c, d, e, f⟩ := params
  simp only [RateParams.map, RateParams.mk.injEq, RateParams.toList, List.mem_cons,
    List.not_mem_nil, or_false, forall_eq_or_imp, forall_eq, IsRate]
  constructor
  · rintro ⟨ha, hb, hc, hd, he, hf⟩
    exact ⟨ha.symm, hb.symm, hc.symm, hd.symm, he.symm, hf.symm⟩
  · rintro ⟨ha, hb, hc, hd, he, hf⟩
    exact ⟨ha.symm, hb.symm, hc.symm, hd.symm, he.symm, hf.symm⟩

/-- RatesWritten over the stored rates, the request is what is live afterwards, for
such requests and for no others. -/
theorem recorded_overlay_iff {rates : RateMap} {cells : List UpsertTaxCell}
    {params : RateParams ℚ} :
    Recorded ⟨params, cells⟩ (params.map toRateColumn) (RateMap.overlay rates cells) ↔
      RecordsLive rates cells params := by
  constructor
  · rintro ⟨hParams, hCells⟩
    refine ⟨fun road construction hStored => ?_, fun a ha b hb hRoad hConstruction => ?_,
      fun cell hMem => ?_, RateParams.eq_map_toRate_iff.mp hParams⟩
    · rcases RateMap.overlay_cases rates cells road construction with
        ⟨cell, hMem, hPair, _⟩ | ⟨hNone, hRate⟩
      · exact ⟨cell, hMem, hPair⟩
      · obtain ⟨rate, hRate'⟩ := Option.ne_none_iff_exists'.mp hStored
        have hMem := (hCells ⟨road, construction, toRate rate⟩).mpr ⟨rate, hRate.trans hRate', rfl⟩
        exact absurd ⟨rfl, rfl⟩ (hNone _ hMem)
    · obtain ⟨rate, hRate, hA⟩ := (hCells a).mp ha
      obtain ⟨rate', hRate', hB⟩ := (hCells b).mp hb
      rw [hRoad, hConstruction, hRate'] at hRate
      rw [← hA, ← hB, Option.some.inj hRate]
    · obtain ⟨rate, _, hCell⟩ := (hCells cell).mp hMem
      exact hCell ▸ isRate_toRate rate
  · rintro ⟨hCovers, hSingle, hRates, hParams⟩
    refine ⟨RateParams.eq_map_toRate_iff.mpr hParams, fun cell => ?_⟩
    rcases RateMap.overlay_cases rates cells cell.roadWidthEntryId cell.constructionEntryId with
      ⟨other, hMem, ⟨hRoad, hConstruction⟩, hRate⟩ | ⟨hNone, hRate⟩
    · have hOther : toRate (toRateColumn other.annualRatePerSqFt) = other.annualRatePerSqFt :=
        hRates other hMem
      constructor
      · intro hCell
        refine ⟨_, hRate, hOther.trans ?_⟩
        exact hSingle other hMem cell hCell hRoad hConstruction
      · rintro ⟨rate, hStored, hCell⟩
        cases hRate.symm.trans hStored
        have hSame : other = cell :=
          UpsertTaxCell.ext hRoad hConstruction (hOther.symm.trans hCell)
        exact hSame ▸ hMem
    · constructor
      · exact fun hCell => absurd ⟨rfl, rfl⟩ (hNone cell hCell)
      · rintro ⟨rate, hStored, _⟩
        have hSome : rates cell.roadWidthEntryId cell.constructionEntryId ≠ none := by
          rw [← hRate, hStored]
          exact Option.some_ne_none _
        obtain ⟨other, hMem, hPair⟩ := hCovers _ _ hSome
        exact absurd hPair (hNone other hMem)

/-! ### Calls that touch one config -/

/-- The next number is used in none of the tables. -/
structure Numbered (db : TaxDb) : Prop where
  configs : ∀ c ∈ db.configs.rows, c.id < db.ledger.nextId
  versions : ∀ v ∈ db.versions.rows, v.id < db.ledger.nextId
  rates : ∀ id, db.ledger.nextId ≤ id → db.rates id = fun _ _ => none

/-- The row is the config of the ward and year. -/
def TaxConfigRow.IsFor (c : TaxConfigRow) (wardId assessmentYearId : Id) : Prop :=
  c.wardId = wardId ∧ c.assessmentYearId = assessmentYearId

/-- Only the config of one ward and year differs, with its rates and versions. -/
structure OnlyFor (wardId assessmentYearId : Id) (db db' : TaxDb) : Prop where
  configs : ∀ c, ¬ c.IsFor wardId assessmentYearId →
    (c ∈ db'.configs.rows ↔ c ∈ db.configs.rows)
  rates : ∀ c ∈ db.configs.rows, ¬ c.IsFor wardId assessmentYearId →
    db'.rates c.id = db.rates c.id
  versions : ∀ c ∈ db.configs.rows, ¬ c.IsFor wardId assessmentYearId →
    ∀ v, v.taxConfigId = c.id → (v ∈ db'.versions.rows ↔ v ∈ db.versions.rows)
  numbered : Numbered db → Numbered db'

namespace OnlyFor
variable {wardId assessmentYearId : Id} {db db' db'' : TaxDb}

theorem refl (wardId assessmentYearId : Id) (db : TaxDb) : OnlyFor wardId assessmentYearId db db :=
  ⟨fun _ _ => .rfl, fun _ _ _ => rfl, fun _ _ _ _ _ => .rfl, id⟩

theorem trans (h : OnlyFor wardId assessmentYearId db db')
    (h' : OnlyFor wardId assessmentYearId db' db'') : OnlyFor wardId assessmentYearId db db'' where
  configs c hc := (h'.configs c hc).trans (h.configs c hc)
  rates c hMem hc := (h'.rates c ((h.configs c hc).mpr hMem) hc).trans (h.rates c hMem hc)
  versions c hMem hc v hv :=
    (h'.versions c ((h.configs c hc).mpr hMem) hc v hv).trans (h.versions c hMem hc v hv)
  numbered hDb := h'.numbered (h.numbered hDb)

/-- The other configs are on record as before. -/
theorem snapshotsLive (h : OnlyFor wardId assessmentYearId db db') (hLive : SnapshotsLive db)
    (hFor : ∀ c ∈ db'.configs.rows, c.IsFor wardId assessmentYearId → c.status = .published →
      db'.RatesOnRecord c.id c.version c.params (db'.rates c.id)) : SnapshotsLive db' := by
  intro c hc hPublished
  by_cases hPlace : c.IsFor wardId assessmentYearId
  · exact hFor c hc hPlace hPublished
  · have hOld := (h.configs c hPlace).mp hc
    obtain ⟨v, hv, hOwner, hVersion, hRecorded⟩ := hLive c hOld hPublished
    refine ⟨v, (h.versions c hOld hPlace v hOwner).mpr hv, hOwner, hVersion, ?_⟩
    rwa [h.rates c hOld hPlace]

end OnlyFor

/-! ### Single statements -/

section Statements
variable {ctx : TaxContext} {wardId assessmentYearId : Id} {db db' : TaxDb} {row : TaxConfigRow}

/-- A ward has one configuration a year. -/
theorem eq_of_isFor {c c' : TaxConfigRow} (hMem : c ∈ db.configs.rows)
    (hMem' : c' ∈ db.configs.rows) (hFor : c.IsFor wardId assessmentYearId)
    (hFor' : c'.IsFor wardId assessmentYearId) : c = c' := by
  refine eq_of_clash hMem hMem' ?_
  simp [KeyedRow.clash, hFor.1, hFor.2, hFor'.1, hFor'.2]

/-- The ledger is no part of the configurations. -/
theorem onlyFor_ledger {ledger : Db} (h : db.ledger.nextId ≤ ledger.nextId) :
    OnlyFor wardId assessmentYearId db { db with ledger } where
  configs _ _ := .rfl
  rates _ _ _ := rfl
  versions _ _ _ _ _ := .rfl
  numbered hDb :=
    ⟨fun c hc => (hDb.configs c hc).trans_le h, fun v hv => (hDb.versions v hv).trans_le h,
      fun id hId => hDb.rates id (h.trans hId)⟩

/-- Writing rates changes only their configuration. -/
theorem onlyFor_rates (h : OnlyRates row.id db db') (hRow : row ∈ db.configs.rows)
    (hFor : row.IsFor wardId assessmentYearId) : OnlyFor wardId assessmentYearId db db' where
  configs c _ := by rw [h.configs]
  rates c hc hOther := by
    refine h.others c.id fun hId => hOther ?_
    rwa [eq_of_key hc hRow hId]
  versions _ _ _ v _ := by rw [h.versions]
  numbered hDb := by
    refine ⟨?_, ?_, fun id hId => ?_⟩
    · rw [h.configs, h.ledger]
      exact hDb.configs
    · rw [h.versions, h.ledger]
      exact hDb.versions
    · rw [h.ledger] at hId
      rw [h.others id ((hDb.configs row hRow).trans_le hId).ne', hDb.rates id hId]

/-- Rewriting a configuration in its place changes only it. -/
theorem onlyFor_config {configs : KeyedTable TaxConfigRow} {c c' : TaxConfigRow}
    (h : Replaced db.configs configs c c') (hPlace : SamePlace c c')
    (hFor : c.IsFor wardId assessmentYearId) :
    OnlyFor wardId assessmentYearId db { db with configs } where
  configs r hOther := by
    refine (h.mem_iff r).trans ⟨?_, fun hr => .inl ⟨hr, fun hKey => hOther ?_⟩⟩
    · rintro (hr | rfl)
      · exact hr.1
      · exact absurd ⟨hPlace.wardId.trans hFor.1, hPlace.assessmentYearId.trans hFor.2⟩ hOther
    · rwa [eq_of_key hr h.mem_old hKey]
  rates _ _ _ := rfl
  versions _ _ _ _ _ := .rfl
  numbered hDb := by
    refine ⟨h.forall_rows hDb.configs ?_, hDb.versions, hDb.rates⟩
    rw [hPlace.id]
    exact hDb.configs c h.mem_old

/-- A created version changes only its configuration. -/
theorem onlyFor_createVersion {versions : KeyedTable TaxConfigVersionRow}
    {v : TaxConfigVersionRow} (h : Added db.versions versions v) (hId : v.id = db.ledger.nextId)
    (hRow : row ∈ db.configs.rows) (hFor : row.IsFor wardId assessmentYearId)
    (hOwner : v.taxConfigId = row.id) :
    OnlyFor wardId assessmentYearId db
      { db with
        versions
        writtenVersions := v :: db.writtenVersions
        ledger := { db.ledger with nextId := db.ledger.nextId + 1 } } where
  configs _ _ := .rfl
  rates _ _ _ := rfl
  versions c hc hOther w hw := by
    refine (h.mem_iff w).trans ⟨?_, .inl⟩
    rintro (hOld | rfl)
    · exact hOld
    · refine absurd ?_ hOther
      rwa [eq_of_key hc hRow (hw.symm.trans hOwner)]
  numbered hDb := by
    refine ⟨fun c hc => (hDb.configs c hc).trans (Nat.lt_succ_self _), fun w hw => ?_,
      fun id hId => hDb.rates id (Nat.le_of_succ_le hId)⟩
    rcases (h.mem_iff w).mp hw with hOld | rfl
    · exact (hDb.versions w hOld).trans (Nat.lt_succ_self _)
    · rw [hId]
      exact Nat.lt_succ_self _

/-- An updated version changes only its configuration. -/
theorem onlyFor_updateVersion {versions : KeyedTable TaxConfigVersionRow}
    {v v' : TaxConfigVersionRow} (h : Replaced db.versions versions v v')
    (hSame : v'.taxConfigId = v.taxConfigId) (hRow : row ∈ db.configs.rows)
    (hFor : row.IsFor wardId assessmentYearId) (hOwner : v.taxConfigId = row.id) :
    OnlyFor wardId assessmentYearId db
      { db with versions, writtenVersions := v' :: db.writtenVersions } where
  configs _ _ := .rfl
  rates _ _ _ := rfl
  versions c hc hOther w hw := by
    have hNot : c.id ≠ row.id := by
      intro hId
      refine hOther ?_
      rwa [eq_of_key hc hRow hId]
    refine (h.mem_iff w).trans ⟨?_, fun hOld => .inl ⟨hOld, fun hKey => hNot ?_⟩⟩
    · rintro (hOld | rfl)
      · exact hOld.1
      · exact absurd (hw.symm.trans (hSame.trans hOwner)) hNot
    · rw [← hw, eq_of_key hOld h.mem_old hKey, hOwner]
  numbered hDb := by
    refine ⟨hDb.configs, h.forall_rows hDb.versions ?_, hDb.rates⟩
    have hKey : v'.id = v.id := h.key_eq
    rw [hKey]
    exact hDb.versions v h.mem_old

/-- Opening a configuration changes only it. -/
theorem onlyFor_opened (h : Opened ctx wardId assessmentYearId db db') :
    OnlyFor wardId assessmentYearId db db' where
  configs c hOther := by
    refine (h.configs.mem_iff c).trans ⟨?_, .inl⟩
    rintro (hOld | rfl)
    · exact hOld
    · exact absurd ⟨rfl, rfl⟩ hOther
  rates c hc _ := h.others c.id (h.configs.key_ne hc)
  versions _ _ _ v _ := by rw [h.versions]
  numbered hDb := by
    refine ⟨fun c hc => ?_, fun v hv => ?_, fun id hId => ?_⟩
    · rw [h.nextId]
      rcases (h.configs.mem_iff c).mp hc with hOld | rfl
      · exact (hDb.configs c hOld).trans (Nat.lt_succ_self _)
      · exact Nat.lt_succ_self _
    · rw [h.nextId]
      rw [h.versions] at hv
      exact (hDb.versions v hv).trans (Nat.lt_succ_self _)
    · rw [h.nextId] at hId
      have hNe : id ≠ db.ledger.nextId := Nat.ne_of_gt hId
      rw [h.others id hNe, hDb.rates id (Nat.le_of_succ_le hId)]

end Statements

/-! ### A publication on its way -/

/-- The snapshot is on record for the version of the config. -/
def TaxDb.OnRecord (db : TaxDb) (id : Id) (version : Nat) (snapshot : RateSnapshot) : Prop :=
  ∃ v ∈ db.versions.rows, v.taxConfigId = id ∧ v.version = version ∧ v.snapshot = snapshot

/-- Only the config that was read is touched. It has these percentages and rates
now, and the status and the version that were read. -/
structure RatesStored (db₀ : TaxDb) (row : TaxConfigRow) (params : RateParams Rate) (rates : RateMap)
    (db : TaxDb) : Prop where
  only : OnlyFor row.wardId row.assessmentYearId db₀ db
  config : ∃ c ∈ db.configs.rows, Still row c ∧ c.params = params
  rates : db.rates row.id = rates

/-- What was on record is still on record. -/
structure RatesWritten (db₀ : TaxDb) (row : TaxConfigRow) (params : RateParams Rate) (rates : RateMap)
    (db : TaxDb) : Prop extends RatesStored db₀ row params rates db where
  kept : ∀ v ∈ db₀.versions.rows, v ∈ db.versions.rows

/-- Only the config that was read is touched, and snapshots are live. -/
def Safe (db₀ : TaxDb) (row : TaxConfigRow) (db : TaxDb) : Prop :=
  OnlyFor row.wardId row.assessmentYearId db₀ db ∧ SnapshotsLive db

section Publication
variable {ctx : TaxContext} {db₀ db : TaxDb} {row : TaxConfigRow} {params : RateParams Rate}
  {rates : RateMap} {n : Nat} {snapshot : RateSnapshot} {broken : TaxDb → Prop}

/-- A row in the same place is for the same ward and year. -/
theorem SamePlace.isFor {c : TaxConfigRow} (h : SamePlace row c) :
    c.IsFor row.wardId row.assessmentYearId := ⟨h.wardId, h.assessmentYearId⟩

/-- So is a row that is still there. -/
theorem Still.isFor {c : TaxConfigRow} (h : Still row c) :
    c.IsFor row.wardId row.assessmentYearId := h.place.isFor

theorem RatesWritten.start (hRow : row ∈ db₀.configs.rows) :
    RatesWritten db₀ row row.params (db₀.rates row.id) db₀ :=
  ⟨⟨.refl _ _ db₀, ⟨row, hRow, ⟨.refl row, rfl, rfl⟩, rfl⟩, rfl⟩, fun _ hv => hv⟩

/-- A publication that stopped on its way is safe, if it changed no rate in force. -/
theorem RatesWritten.safe (h : RatesWritten db₀ row params rates db) (hRow : row ∈ db₀.configs.rows)
    (hLive : SnapshotsLive db₀) (hSame : row.status = .published →
      params = row.params ∧ rates = db₀.rates row.id) : Safe db₀ row db := by
  refine ⟨h.only, h.only.snapshotsLive hLive fun c hc hFor hPublished => ?_⟩
  obtain ⟨stored, hMem, hStill, hParams⟩ := h.config
  obtain rfl : c = stored := eq_of_isFor hc hMem hFor hStill.isFor
  have hRowPublished := hStill.status.symm.trans hPublished
  obtain ⟨v, hv, hOwner, hVersion, hRecorded⟩ := hLive row hRow hRowPublished
  obtain ⟨hOldParams, hOldRates⟩ := hSame hRowPublished
  refine ⟨v, h.kept v hv, hOwner.trans hStill.place.id.symm, hVersion.trans hStill.version.symm, ?_⟩
  rwa [hParams, hOldParams, hStill.place.id, h.rates, hOldRates]

/-- Whatever the ledger, a safe state is safe. -/
theorem Safe.ledger {ledger : Db} (h : Safe db₀ row db)
    (hNext : db.ledger.nextId ≤ ledger.nextId) : Safe db₀ row { db with ledger } :=
  ⟨h.1.trans (onlyFor_ledger hNext), h.2⟩

/-- Cells are written up to the first that is refused. -/
theorem writeCells_written (cells : List UpsertTaxCell) :
    Meets (TaxConfigsService.writeCells ctx row.id cells) (RatesWritten db₀ row params rates)
      (fun _ db => (∀ cell ∈ cells, AcceptsCell ctx rates cell) ∧
        RatesWritten db₀ row params (RateMap.overlay rates cells) db)
      (fun db => (¬ ∀ cell ∈ cells, AcceptsCell ctx rates cell) ∧
        RatesWritten db₀ row params (RateMap.written ctx rates cells) db) := by
  intro db h
  have hOnly {db' : TaxDb} {rates' : RateMap} (hRates : OnlyRates row.id db db')
      (hNew : db'.rates row.id = rates') : RatesWritten db₀ row params rates' db' := by
    obtain ⟨c, hc, hStill, hParams⟩ := h.config
    rw [← hStill.place.id] at hRates
    refine ⟨⟨h.only.trans (onlyFor_rates hRates hc hStill.isFor), ⟨c, ?_, hStill, hParams⟩,
      hNew⟩, ?_⟩
    · rwa [hRates.configs]
    · rw [hRates.versions]
      exact h.kept
  have hCells := writeCells_ends ctx row.id cells db
  rw [h.rates] at hCells
  exact hCells.mono (fun _ _ hOk => ⟨hOk.1, hOnly hOk.2.1 hOk.2.2⟩)
    fun _ hBroken => ⟨hBroken.1, hOnly hBroken.2.1 hBroken.2.2⟩

/-- A write to the config that leaves it in its place. -/
theorem RatesStored.update {configs : KeyedTable TaxConfigRow} {c c' : TaxConfigRow}
    (h : RatesStored db₀ row params rates db) (hReplaced : Replaced db.configs configs c c')
    (hId : c.id = row.id) (hPlace : SamePlace c c') :
    Still row c ∧ c.params = params ∧
      OnlyFor row.wardId row.assessmentYearId db₀ { db with configs } := by
  obtain ⟨stored, hMem, hStill, hParams⟩ := h.config
  obtain rfl : stored = c :=
    eq_of_key hMem hReplaced.mem_old (hStill.place.id.trans hId.symm)
  exact ⟨hStill, hParams, h.only.trans (onlyFor_config hReplaced hPlace hStill.isFor)⟩

/-- Percentages are written if they fit their columns. -/
theorem writeParams_written (asked : RateParams ℚ) :
    Meets (TaxConfigsService.writeParams ctx row.id asked) (RatesWritten db₀ row params rates)
      (fun _ db => (∀ x ∈ asked.toList, (toRateColumn x).natAbs < 10 ^ 8) ∧
        RatesWritten db₀ row (asked.map toRateColumn) rates db)
      (fun db => (¬ ∀ x ∈ asked.toList, (toRateColumn x).natAbs < 10 ^ 8) ∧
        RatesWritten db₀ row params rates db) := by
  refine .execute ?_ ?_
  · rintro db db' ⟨⟩ h hOk
    obtain ⟨columns, hColumns, hUpdate⟩ := bind_ok hOk
    obtain ⟨hFits, rfl⟩ := storeParams_eq_ok.mp hColumns
    obtain ⟨c, configs, hId, hReplaced, rfl⟩ := TaxDb.updateConfig_ok hUpdate fun _ => rfl
    obtain ⟨hStill, _, hOnly⟩ := h.toRatesStored.update hReplaced hId ⟨rfl, rfl, rfl⟩
    refine ⟨hFits, ⟨hOnly, ⟨_, hReplaced.mem_new, hStill.trans ?_, rfl⟩, h.rates⟩, h.kept⟩
    exact ⟨⟨rfl, rfl, rfl⟩, rfl, rfl⟩
  · intro db failure h hError
    refine ⟨fun hFits => ?_, h⟩
    obtain ⟨c, hc, hStill, _⟩ := h.config
    have hUpdate : ∃ db', db.updateConfig ctx row.id (fun c =>
        { c with params := asked.map toRateColumn }) = .ok (db', ()) :=
      updateConfig_isOk hc hStill.place.id fun c => ⟨rfl, rfl, rfl⟩
    obtain ⟨db', hUpdate⟩ := hUpdate
    simp only [storeParams_eq_ok.mpr ⟨hFits, rfl⟩, bind, Except.bind, hUpdate] at hError
    cases hError

/-- The number that a version gets is unused. -/
theorem createVersion_isOk (hNumbered : Numbered db) {v : Id → TaxConfigVersionRow}
    (hId : ∀ i, (v i).id = i) : ∃ db', db.createVersion v = .ok (db', ()) := by
  have hFree : ∀ w ∈ db.versions.rows, KeyedRow.clash w (v db.ledger.nextId) = false := by
    intro w hw
    refine decide_eq_false ?_
    rw [hId]
    exact (hNumbered.versions w hw).ne
  obtain ⟨versions, hInsert⟩ := insert_isOk_iff.mpr hFree
  refine ⟨{ db with
    versions
    writtenVersions := v db.ledger.nextId :: db.writtenVersions
    ledger := { db.ledger with nextId := db.ledger.nextId + 1 } }, ?_⟩
  simp [TaxDb.createVersion, hInsert, Except.mapError, bind, Except.bind, pure, Except.pure]

/-- A created version is on record, beside the rates. -/
theorem createVersion_written (hNumbered : Numbered db₀) {v : Id → TaxConfigVersionRow}
    (hRow : ∀ i, (v i).id = i ∧ (v i).taxConfigId = row.id ∧ (v i).version = n ∧
      (v i).snapshot = snapshot) :
    Meets (Script.execute (TaxDb.createVersion v)) (RatesWritten db₀ row params rates)
      (fun _ db => RatesWritten db₀ row params rates db ∧ db.OnRecord row.id n snapshot)
      broken := by
  refine .execute ?_ ?_
  · rintro db db' ⟨⟩ h hOk
    obtain ⟨versions, hAdded, rfl⟩ := TaxDb.createVersion_ok hOk
    obtain ⟨hId, hOwner, hVersion, hSnapshot⟩ := hRow db.ledger.nextId
    obtain ⟨c, hc, hStill, hParams⟩ := h.config
    have hOnly := onlyFor_createVersion hAdded hId hc hStill.isFor
      (hOwner.trans hStill.place.id.symm)
    refine ⟨⟨⟨h.only.trans hOnly, ⟨c, hc, hStill, hParams⟩, h.rates⟩, fun w hw => ?_⟩, ?_⟩
    · exact hAdded.mem_of_mem (h.kept w hw)
    · exact ⟨_, hAdded.mem_row, hOwner, hVersion, hSnapshot⟩
  · intro db failure h hError
    obtain ⟨db', hOk⟩ := createVersion_isOk (h.only.numbered hNumbered) fun i => (hRow i).1
    rw [hOk] at hError
    cases hError

/-- The last write of a publication, which makes the record the current one. -/
theorem updateConfig_safe (hLive : SnapshotsLive db₀) (hRecorded : Recorded snapshot params rates)
    {data : TaxConfigRow → TaxConfigRow}
    (hData : ∀ c, SamePlace c (data c) ∧ (data c).version = n ∧ (data c).params = c.params) :
    Meets (Script.execute (TaxDb.updateConfig ctx row.id data))
      (fun db => RatesStored db₀ row params rates db ∧ db.OnRecord row.id n snapshot)
      (fun _ => Safe db₀ row) broken := by
  refine .execute ?_ ?_
  · rintro db db' ⟨⟩ ⟨h, v, hv, hOwner, hN, rfl⟩ hUpdate
    obtain ⟨c, configs, hId, hReplaced, rfl⟩ :=
      TaxDb.updateConfig_ok hUpdate fun c => (hData c).1.id
    obtain ⟨hPlace, hVersion, hParams⟩ := hData c
    have hPlace' : SamePlace c { data c with updatedAt := ctx.base.now } :=
      ⟨hPlace.id, hPlace.wardId, hPlace.assessmentYearId⟩
    obtain ⟨hStill, hOldParams, hOnly⟩ := h.update hReplaced hId hPlace'
    refine ⟨hOnly, hOnly.snapshotsLive hLive fun r hr hFor _ => ?_⟩
    obtain rfl := eq_of_isFor hr hReplaced.mem_new hFor (hStill.place.trans hPlace').isFor
    refine ⟨v, hv, ?_, hN.trans hVersion.symm, ?_⟩
    · exact hOwner.trans (hPlace.id.trans hId).symm
    · change Recorded v.snapshot (data c).params (db.rates (data c).id)
      rw [hParams, hOldParams, hPlace.id, hId, h.rates]
      exact hRecorded
  · rintro db failure ⟨h, _⟩ hError
    obtain ⟨c, hc, hStill, _⟩ := h.config
    obtain ⟨db', hOk⟩ : ∃ db', db.updateConfig ctx row.id data = .ok (db', ()) :=
      updateConfig_isOk hc hStill.place.id fun c => (hData c).1
    rw [hOk] at hError
    cases hError

end Publication
end PropertyTax
