import PropertyTax.TaxConfigs.Snapshot

/-! When a publication puts on record what it makes live. -/
namespace PropertyTax
open KeyedTable Scripts Runs

/-! ### Requests that publish what they write -/

/-- What the outcome of a write of rates depends on. -/
structure RateTarget where
  status : PublicationStatus
  params : RateParams Rate
  rates : RateMap

def TaxDb.targetOf (db : TaxDb) (row : TaxConfigRow) : RateTarget :=
  ⟨row.status, row.params, db.rates row.id⟩

/-- The database takes the whole request. -/
structure RateTarget.Accepts (ctx : TaxContext) (target : RateTarget) (cells : List UpsertTaxCell)
    (params : RateParams ℚ) : Prop where
  cells : ∀ cell ∈ cells, AcceptsCell ctx target.rates cell
  params : ∀ x ∈ params.toList, (toRateColumn x).natAbs < 10 ^ 8

/-- A publication that gets through records all that it leaves live. One that
does not get through leaves the rates of a published config as they are. -/
structure RateTarget.PublishesLive (ctx : TaxContext) (target : RateTarget)
    (cells : List UpsertTaxCell) (params : RateParams ℚ) (completes : Prop) : Prop where
  done : target.Accepts ctx cells params → completes → RecordsLive target.rates cells params
  stopped : target.status = .published → ¬ (target.Accepts ctx cells params ∧ completes) →
    RateMap.written ctx target.rates cells = target.rates ∧
      (target.Accepts ctx cells params → params.map toRateColumn = target.params)

/-- When all cells are accepted, all are written. -/
theorem RateMap.written_eq_overlay {ctx : TaxContext} {rates : RateMap}
    {cells : List UpsertTaxCell} (h : ∀ cell ∈ cells, AcceptsCell ctx rates cell) :
    RateMap.written ctx rates cells = RateMap.overlay rates cells := by
  induction cells generalizing rates with
  | nil => rfl
  | cons cell rest ih =>
      have hCell := h cell List.mem_cons_self
      rw [RateMap.written, if_pos hCell, RateMap.overlay]
      exact ih fun c hc => (acceptsCell_put hCell).mpr (h c (List.mem_cons_of_mem _ hc))

/-! ### Writing a request -/

section Write
variable {ctx : TaxContext} {db₀ : TaxDb} {row : TaxConfigRow} {cells : List UpsertTaxCell}
  {asked : RateParams ℚ}

/-- The request is written as a whole, or the script ends in a safe state. -/
theorem writeRequest_meets {α : Type} {next : TaxScript α} {post : α → TaxDb → Prop}
    (hRow : row ∈ db₀.configs.rows) (hLive : SnapshotsLive db₀)
    (hStopped : row.status = .published → ¬ (db₀.targetOf row).Accepts ctx cells asked →
      RateMap.written ctx (db₀.rates row.id) cells = db₀.rates row.id)
    (hNext : (db₀.targetOf row).Accepts ctx cells asked →
      Meets next (RatesWritten db₀ row (asked.map toRateColumn)
        (RateMap.overlay (db₀.rates row.id) cells)) post (Safe db₀ row)) :
    Meets (do
        TaxConfigsService.writeCells ctx row.id cells
        TaxConfigsService.writeParams ctx row.id asked
        next) (· = db₀) post (Safe db₀ row) := by
  have hCells : Meets (TaxConfigsService.writeCells ctx row.id cells) (· = db₀)
      (fun _ db => (∀ cell ∈ cells, AcceptsCell ctx (db₀.rates row.id) cell) ∧
        RatesWritten db₀ row row.params (RateMap.overlay (db₀.rates row.id) cells) db)
      (Safe db₀ row) := by
    refine (writeCells_written cells).mono ?_ (fun _ _ h => h) fun db h => ?_
    · rintro db rfl
      exact .start hRow
    · exact h.2.safe hRow hLive fun hPublished =>
        ⟨rfl, hStopped hPublished fun hAccepts => h.1 hAccepts.cells⟩
  refine hCells.bind fun _ => Meets.given fun hAll => ?_
  have hParams : Meets (TaxConfigsService.writeParams ctx row.id asked)
      (RatesWritten db₀ row row.params (RateMap.overlay (db₀.rates row.id) cells))
      (fun _ db => (∀ x ∈ asked.toList, (toRateColumn x).natAbs < 10 ^ 8) ∧
        RatesWritten db₀ row (asked.map toRateColumn)
          (RateMap.overlay (db₀.rates row.id) cells) db) (Safe db₀ row) := by
    refine (writeParams_written asked).mono (fun _ h => h) (fun _ _ h => h) fun db h => ?_
    refine h.2.safe hRow hLive fun hPublished => ⟨rfl, ?_⟩
    rw [← RateMap.written_eq_overlay hAll]
    exact hStopped hPublished fun hAccepts => h.1 hAccepts.params
  exact hParams.bind fun _ => Meets.given fun hFits => hNext ⟨hAll, hFits⟩

end Write

/-! ### Ledger statements -/

section Ledger
variable {db₀ : TaxDb} {row : TaxConfigRow}

/-- Writing a demand does not take keys back. -/
theorem writePublishedDemand_nextId {ctx : Context} {input : PublishInput} {read : PublishRead}
    {db db' : Db} {demandId : Id}
    (h : writePublishedDemand ctx input read db = .ok (db', demandId)) : db.nextId ≤ db'.nextId := by
  unfold writePublishedDemand at h
  cases hExisting : read.existing with
  | some existing =>
      simp only [hExisting] at h
      obtain ⟨after, hUpdate, hPair⟩ := map_ok h
      obtain ⟨d, demands, _, _, rfl⟩ := Db.updateDemand_ok hUpdate fun _ => rfl
      cases hPair
      exact le_rfl
  | none =>
      simp only [hExisting] at h
      obtain ⟨after, hCreate, hPair⟩ := map_ok h
      obtain ⟨demands, _, rfl⟩ := Db.createDemand_ok hCreate
      cases hPair
      exact Nat.le_succ _

/-- Neither does publishing a ward. -/
theorem publishForWard_nextId (ctx : Context) (wardId assessmentYearId : Id)
    (actorId : Option Id) (db : Db) :
    db.nextId ≤ (publishForWard ctx wardId assessmentYearId actorId db).1.nextId := by
  refine publishForWard_invariant (fun ledger => db.nextId ≤ ledger.nextId) ?_ (fun _ _ h => h)
    le_rfl
  intro taxConfig _ survey _ ledger hLe
  rcases upsertPublishedDemandForSurvey_cases ctx _ ledger with ⟨error, hRefused⟩ | hWritten
  · rw [hRefused]
    exact hLe
  rw [hWritten]
  cases hWrite : writePublishedDemand ctx _ _ ledger with
  | error refusal => exact hLe
  | ok result => exact hLe.trans (writePublishedDemand_nextId hWrite)

/-- Logging is safe. -/
theorem log_safe (entry : AuditEntry) :
    Preserves (Script.modify (TaxDb.log entry) : TaxScript Unit) (Safe db₀ row) :=
  .modify fun _ h => h.ledger le_rfl

/-- Publishing a ward is safe. -/
theorem publishForWard_safe {ctx : TaxContext} {wardId assessmentYearId : Id}
    {actorId : Option Id} :
    Preserves (TaxDb.publishForWard ctx wardId assessmentYearId actorId) (Safe db₀ row) := by
  intro db h
  have hAfter := h.ledger (publishForWard_nextId (db.context ctx) wardId assessmentYearId actorId
    db.ledger)
  unfold TaxDb.publishForWard
  dsimp only
  cases (PropertyTax.publishForWard (db.context ctx) wardId assessmentYearId actorId
    db.ledger).2 with
  | error error => exact hAfter
  | ok counts => exact hAfter

end Ledger

/-! ### Publishing -/

section Publish
variable {ctx : TaxContext} {db₀ : TaxDb} {row : TaxConfigRow} {dto : PublishTaxConfig}
  {actorId : Option Id}

/-- The config is published at the version of the snapshot, or an invalid date
ends the script. -/
theorem markPublished_safe {params : RateParams Rate} {rates : RateMap} {n : Nat}
    {snapshot : RateSnapshot} (hRow : row ∈ db₀.configs.rows) (hLive : SnapshotsLive db₀)
    (hDone : (TaxConfigsService.effectiveFromOf ctx dto.effectiveFrom).isOk = true →
      Recorded snapshot params rates)
    (hStopped : row.status = .published →
      ¬ (TaxConfigsService.effectiveFromOf ctx dto.effectiveFrom).isOk = true →
        params = row.params ∧ rates = db₀.rates row.id) :
    Meets (TaxConfigsService.markPublished ctx row.id n dto actorId)
      (fun db => RatesWritten db₀ row params rates db ∧ db.OnRecord row.id n snapshot)
      (fun _ => Safe db₀ row) (Safe db₀ row) := by
  cases hDate : TaxConfigsService.effectiveFromOf ctx dto.effectiveFrom with
  | error failure =>
      rintro db ⟨hWritten, _⟩
      have hFails : TaxConfigsService.markPublished ctx row.id n dto actorId db =
          (db, .error failure) := by
        simp [TaxConfigsService.markPublished, Script.execute, hDate, bind, Except.bind]
      rw [hFails]
      refine hWritten.safe hRow hLive fun hPublished => hStopped hPublished ?_
      simp [hDate, Except.isOk, Except.toBool]
  | ok effectiveFrom =>
      have hRecorded : Recorded snapshot params rates :=
        hDone (by simp [hDate, Except.isOk, Except.toBool])
      unfold TaxConfigsService.markPublished
      rw [hDate]
      refine Meets.mono (updateConfig_safe hLive hRecorded ?_)
        (fun _ h => ⟨h.1.toRatesStored, h.2⟩) (fun _ _ h => h) fun _ h => h
      exact fun c => ⟨⟨rfl, rfl, rfl⟩, rfl, rfl⟩

/-- A version is put on record, and the config published at it. -/
theorem putOnRecord_safe {params : RateParams Rate} {rates : RateMap} {n : Nat}
    {snapshot : RateSnapshot} (hNumbered : Numbered db₀) (hRow : row ∈ db₀.configs.rows)
    (hLive : SnapshotsLive db₀)
    (hDone : (TaxConfigsService.effectiveFromOf ctx dto.effectiveFrom).isOk = true →
      Recorded snapshot params rates)
    (hStopped : row.status = .published →
      ¬ (TaxConfigsService.effectiveFromOf ctx dto.effectiveFrom).isOk = true →
        params = row.params ∧ rates = db₀.rates row.id) :
    Meets (do
        Script.execute (TaxDb.createVersion fun versionId =>
          { id := versionId, taxConfigId := row.id, version := n, snapshot, reason := dto.reason,
            createdById := actorId })
        TaxConfigsService.markPublished ctx row.id n dto actorId)
      (RatesWritten db₀ row params rates) (fun _ => Safe db₀ row) (Safe db₀ row) :=
  Meets.bind (createVersion_written hNumbered fun _ => ⟨rfl, rfl, rfl, rfl⟩) fun _ =>
    markPublished_safe hRow hLive hDone hStopped

/-- The snapshot of what was asked, if the rates that were read back are those
that the request left. -/
theorem recorded_resolved {config : TaxConfigWithCells} {rates : RateMap}
    {cells : List UpsertTaxCell} {asked : RateParams ℚ} (h : RecordsLive rates cells asked)
    (hStored : ∀ cell, cell ∈ TaxConfigsService.storedCells config ↔ ∃ rate,
      RateMap.overlay rates cells cell.roadWidthEntryId cell.constructionEntryId = some rate ∧
        toRate rate = cell.annualRatePerSqFt) :
    Recorded ⟨asked, TaxConfigsService.resolveCells config (some cells)⟩ (asked.map toRateColumn)
      (RateMap.overlay rates cells) := by
  have hAsked := recorded_overlay_iff.mpr h
  cases cells with
  | nil => exact ⟨hAsked.params, hStored⟩
  | cons cell rest => exact hAsked

/-- Publishing new rates is safe, if the request keeps the snapshots live. -/
theorem publishRates_safe (hNumbered : Numbered db₀) (hRow : row ∈ db₀.configs.rows)
    (hLive : SnapshotsLive db₀)
    (hRequest : TaxConfigsService.ratesUnchanged ctx (db₀.withCells row) dto = false →
      TaxConfigsService.hasPayload dto = true → (db₀.targetOf row).PublishesLive ctx
        (TaxConfigsService.resolveCells (db₀.withCells row) dto.cells)
        (TaxConfigsService.resolveParams (db₀.withCells row) dto.params)
        ((TaxConfigsService.effectiveFromOf ctx dto.effectiveFrom).isOk = true)) :
    Meets (TaxConfigsService.publishRates ctx row.id (db₀.withCells row) dto actorId) (· = db₀)
      (fun _ => Safe db₀ row) (Safe db₀ row) := by
  let cells := TaxConfigsService.resolveCells (db₀.withCells row) dto.cells
  let asked := TaxConfigsService.resolveParams (db₀.withCells row) dto.params
  unfold TaxConfigsService.publishRates
  dsimp only
  by_cases hUnchanged : TaxConfigsService.ratesUnchanged ctx (db₀.withCells row) dto = true
  · rw [if_pos hUnchanged]
    have hPublished : row.status = .published := by
      simp only [TaxConfigsService.ratesUnchanged, Bool.and_eq_true, decide_eq_true_eq]
        at hUnchanged
      exact hUnchanged.1
    have hSame : TaxConfigsService.orVersion row.version row.version = row.version := by
      simp [TaxConfigsService.orVersion]
    obtain ⟨v, hv, hOwner, hVersion, hRecorded⟩ := hLive row hRow hPublished
    change Meets (TaxConfigsService.markPublished ctx row.id
      (TaxConfigsService.orVersion row.version row.version) dto actorId) _ _ _
    rw [hSame]
    refine Meets.mono (markPublished_safe hRow hLive (fun _ => hRecorded) fun _ _ => ⟨rfl, rfl⟩)
      ?_ (fun _ _ h => h) fun _ h => h
    rintro db rfl
    exact ⟨.start hRow, v, hv, hOwner, hVersion, rfl⟩
  · rw [if_neg hUnchanged]
    by_cases hPayload : TaxConfigsService.hasPayload dto = true
    · obtain ⟨hDone, hStopped⟩ := hRequest (by simpa using hUnchanged) hPayload
      have hRead : Meets (TaxConfigsService.writePayload ctx row.id (db₀.withCells row) dto)
          (· = db₀) (fun config db =>
            ((db₀.targetOf row).Accepts ctx cells asked ∧
              ∀ cell, cell ∈ TaxConfigsService.storedCells config ↔ ∃ rate,
                RateMap.overlay (db₀.rates row.id) cells cell.roadWidthEntryId
                  cell.constructionEntryId = some rate ∧ toRate rate = cell.annualRatePerSqFt) ∧
            RatesWritten db₀ row (asked.map toRateColumn)
              (RateMap.overlay (db₀.rates row.id) cells) db) (Safe db₀ row) := by
        unfold TaxConfigsService.writePayload
        rw [if_pos hPayload]
        refine writeRequest_meets hRow hLive ?_ fun hAccepts => ?_
        · exact fun hPublished hRefused => (hStopped hPublished fun h => hRefused h.1).1
        · intro db hWritten
          obtain ⟨c, hc, hStill, _⟩ := hWritten.config
          rw [findUniqueOrThrow_ends hc hStill.place.id]
          refine ⟨⟨hAccepts, fun cell => ?_⟩, hWritten⟩
          rw [mem_storedCells, hStill.place.id, hWritten.rates]
      refine hRead.bind fun config => Meets.given ?_
      rintro ⟨hAccepts, hStored⟩
      refine putOnRecord_safe hNumbered hRow hLive (fun hDate => ?_) fun hPublished hDate => ?_
      · rw [TaxConfigsService.publishedSnapshot, if_pos hPayload]
        exact recorded_sorted.mpr (recorded_resolved (hDone hAccepts hDate) hStored)
      · obtain ⟨hRates, hParams⟩ := hStopped hPublished fun h => hDate h.2
        rw [RateMap.written_eq_overlay hAccepts.cells] at hRates
        exact ⟨hParams hAccepts, hRates⟩
    · have hRead : Meets (TaxConfigsService.writePayload ctx row.id (db₀.withCells row) dto)
          (· = db₀) (fun config db => config = db₀.withCells row ∧
            RatesWritten db₀ row row.params (db₀.rates row.id) db) (Safe db₀ row) := by
        unfold TaxConfigsService.writePayload
        rw [if_neg hPayload]
        refine .pure ?_
        rintro db rfl
        exact ⟨rfl, .start hRow⟩
      refine hRead.bind fun config => Meets.given ?_
      rintro rfl
      refine putOnRecord_safe hNumbered hRow hLive (fun _ => ?_) fun _ _ => ⟨rfl, rfl⟩
      rw [TaxConfigsService.publishedSnapshot, if_neg hPayload]
      exact recorded_sorted.mpr (recorded_stored row)

end Publish

/-! ### Copying to one config -/

section Copy
variable {ctx : TaxContext} {db₀ : TaxDb} {config : TaxConfigWithCells}
  {cells : List UpsertTaxCell} {asked : RateParams ℚ} {actorId : Option Id}

/-- Appending a version that records the rates is safe. -/
theorem appendVersion_safe (hNumbered : Numbered db₀) (hRow : config.row ∈ db₀.configs.rows)
    (hLive : SnapshotsLive db₀) {params : RateParams Rate} {rates : RateMap}
    {snapshot : RateSnapshot}
    (hRecorded : config.row.status = .published → Recorded snapshot params rates) :
    Meets (TaxConfigsService.appendVersion ctx config.row snapshot actorId)
      (RatesWritten db₀ config.row params rates) (fun _ => Safe db₀ config.row)
      (Safe db₀ config.row) := by
  unfold TaxConfigsService.appendVersion
  split_ifs with hPublished
  · refine Meets.bind (createVersion_written hNumbered fun _ => ⟨rfl, rfl, rfl, rfl⟩) fun _ => ?_
    refine Meets.mono (updateConfig_safe hLive (hRecorded hPublished) ?_)
      (fun _ h => ⟨h.1.toRatesStored, h.2⟩) (fun _ _ h => h) fun _ h => h
    exact fun c => ⟨⟨rfl, rfl, rfl⟩, rfl, rfl⟩
  · exact .pure fun db h => h.safe hRow hLive fun h' => absurd h' hPublished

/-- Applying copied rates is safe, if the request keeps the snapshots live. -/
theorem applyRatesToConfig_safe (hNumbered : Numbered db₀) (hRow : config.row ∈ db₀.configs.rows)
    (hLive : SnapshotsLive db₀) (hRequest : config.row.status = .published →
      (db₀.targetOf config.row).PublishesLive ctx cells asked True) :
    Meets (TaxConfigsService.applyRatesToConfig ctx config cells asked actorId) (· = db₀)
      (fun _ db => (db₀.targetOf config.row).Accepts ctx cells asked ∧ Safe db₀ config.row db)
      (Safe db₀ config.row) := by
  unfold TaxConfigsService.applyRatesToConfig
  split_ifs
  · refine .fail ?_
    rintro db rfl
    exact ⟨.refl _ _ _, hLive⟩
  · refine writeRequest_meets hRow hLive ?_ fun hAccepts => ?_
    · exact fun hPublished hRefused => ((hRequest hPublished).stopped hPublished
        fun h => hRefused h.1).1
    · have hRecorded : config.row.status = .published → Recorded ⟨asked, cells⟩
          (asked.map toRateColumn) (RateMap.overlay (db₀.rates config.row.id) cells) :=
        fun hPublished => recorded_overlay_iff.mpr ((hRequest hPublished).done hAccepts trivial)
      refine Meets.bind (appendVersion_safe hNumbered hRow hLive hRecorded) fun _ => ?_
      exact (log_safe _).mono (fun _ h => h) (fun _ _ h => ⟨hAccepts, h⟩) fun _ h => h

/-- After a version is written, the rates are stored with it. -/
theorem writeVersion_stored {row : TaxConfigRow} {params : RateParams Rate} {rates : RateMap}
    {n : Nat} {snapshot : RateSnapshot} {broken : TaxDb → Prop} (hNumbered : Numbered db₀) :
    Meets (TaxConfigsService.writeVersion row.id n snapshot actorId)
      (RatesWritten db₀ row params rates)
      (fun _ db => RatesStored db₀ row params rates db ∧ db.OnRecord row.id n snapshot)
      broken := by
  have hRead : Meets (Script.query fun (db : TaxDb) => db.versions.findFirst? fun v =>
        v.taxConfigId = row.id ∧ v.version = n : TaxScript _) (RatesWritten db₀ row params rates)
      (fun existingVersion db => RatesWritten db₀ row params rates db ∧
        ∀ v, existingVersion = some v → v ∈ db.versions.rows ∧ v.taxConfigId = row.id ∧
          v.version = n) broken := by
    refine .query fun db hDb => ⟨hDb, fun v hFound => ⟨List.mem_of_find?_eq_some hFound, ?_⟩⟩
    simpa using List.find?_some hFound
  refine hRead.bind fun existingVersion => ?_
  cases existingVersion with
  | none =>
      refine Meets.mono (createVersion_written hNumbered fun _ => ⟨rfl, rfl, rfl, rfl⟩)
        (fun _ h => h.1) (fun _ _ h => ⟨h.1.toRatesStored, h.2⟩) fun _ h => h
  | some existing =>
      refine .execute ?_ ?_
      · rintro db db' ⟨⟩ ⟨h, hExisting⟩ hOk
        obtain ⟨hMem, hOwner, hVersion⟩ := hExisting existing rfl
        obtain ⟨v, versions, hId, hReplaced, rfl⟩ := TaxDb.updateVersion_ok hOk fun _ => rfl
        obtain rfl : existing = v := eq_of_key hMem hReplaced.mem_old hId.symm
        obtain ⟨c, hc, hStill, hParams⟩ := h.config
        have hOnly := onlyFor_updateVersion hReplaced rfl hc hStill.isFor
          (hOwner.trans hStill.place.id.symm)
        exact ⟨⟨h.only.trans hOnly, ⟨c, hc, hStill, hParams⟩, h.rates⟩,
          _, hReplaced.mem_new, hOwner, hVersion, rfl⟩
      · rintro db failure ⟨_, hExisting⟩ hError
        obtain ⟨hMem, _, _⟩ := hExisting existing rfl
        obtain ⟨versions, hUpdate⟩ : ∃ versions, db.versions.update existing.id (fun v =>
            { v with snapshot, createdById := actorId.or v.createdById }) = .ok versions := by
          refine update_isOk hMem rfl fun q hq hne => ?_
          by_contra hClash
          have hSame : q.id = existing.id := by simpa [KeyedRow.clash] using hClash
          exact hne (eq_of_key hq hMem hSame)
        simp [TaxDb.updateVersion, hUpdate, Except.mapError, bind, Except.bind, pure,
          Except.pure] at hError

/-- Applying rates at the source's version is safe, if the request keeps the snapshots live. -/
theorem applyPublishedRatesAtVersion_safe {n : Nat} (hNumbered : Numbered db₀)
    (hRow : config.row ∈ db₀.configs.rows) (hLive : SnapshotsLive db₀)
    (hRequest : (db₀.targetOf config.row).PublishesLive ctx cells asked True) :
    Meets (TaxConfigsService.applyPublishedRatesAtVersion ctx config cells asked n actorId)
      (· = db₀)
      (fun _ db => (db₀.targetOf config.row).Accepts ctx cells asked ∧ Safe db₀ config.row db)
      (Safe db₀ config.row) := by
  unfold TaxConfigsService.applyPublishedRatesAtVersion
  split_ifs
  · refine .fail ?_
    rintro db rfl
    exact ⟨.refl _ _ _, hLive⟩
  · refine writeRequest_meets hRow hLive ?_ fun hAccepts => ?_
    · exact fun hPublished hRefused => (hRequest.stopped hPublished fun h => hRefused h.1).1
    · have hRecorded := recorded_overlay_iff.mpr (hRequest.done hAccepts trivial)
      refine Meets.bind (writeVersion_stored hNumbered) fun _ => ?_
      refine Meets.bind (updateConfig_safe hLive (recorded_sorted.mpr hRecorded) ?_) fun _ => ?_
      · exact fun c => ⟨⟨rfl, rfl, rfl⟩, rfl, rfl⟩
      · exact (log_safe _).mono (fun _ h => h) (fun _ _ h => ⟨hAccepts, h⟩) fun _ h => h

/-- What the loop over the wards does to one of them. -/
theorem copy_safe (ctx : TaxContext) (actorId : Option Id) {dto : CopyTaxToWards}
    {source : TaxConfigWithCells} (hNumbered : Numbered db₀)
    (hRow : config.row ∈ db₀.configs.rows) (hLive : SnapshotsLive db₀)
    (hRequest : source.row.status = .published ∨ config.row.status = .published →
      (db₀.targetOf config.row).PublishesLive ctx
        (TaxConfigsService.resolveCells source dto.cells)
        (TaxConfigsService.resolveParams source dto.params) True) :
    Meets ((if source.row.status = .published then TaxConfigsService.copyPublished
        else TaxConfigsService.copyDraft) ctx dto actorId source config) (· = db₀)
      (fun _ db => (db₀.targetOf config.row).Accepts ctx
        (TaxConfigsService.resolveCells source dto.cells)
        (TaxConfigsService.resolveParams source dto.params) ∧ Safe db₀ config.row db)
      (Safe db₀ config.row) := by
  split_ifs with hPublished
  · refine Meets.bind (applyPublishedRatesAtVersion_safe hNumbered hRow hLive
      (hRequest (.inl hPublished))) fun _ => Meets.given fun hAccepts => ?_
    exact publishForWard_safe.mono (fun _ h => h) (fun _ _ h => ⟨hAccepts, h⟩) fun _ h => h
  · exact Meets.bind (applyRatesToConfig_safe hNumbered hRow hLive
      fun h => hRequest (.inr h)) fun _ => .pure fun _ h => h

end Copy
end PropertyTax
