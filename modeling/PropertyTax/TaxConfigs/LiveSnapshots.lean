import PropertyTax.TaxConfigs.Publication

/-! Runs in which the snapshot of each published config is its live matrix. A
request that names a part of the matrix, or that the database takes a part of,
ends that. -/
namespace PropertyTax
open KeyedTable Scripts Runs

/-! ### Calls that publish what they write -/

namespace TaxDb

/-- The rates that `getOrCreate` finds or opens. -/
def target (db : TaxDb) (ctx : TaxContext) (wardId assessmentYearId : Id) : RateTarget :=
  match db.configFor? wardId assessmentYearId with
  | some config => db.targetOf config.row
  | none => ⟨.draft, (newConfig ctx db wardId assessmentYearId).params, matrixRates ctx⟩

/-- A config as `getOrCreate` returns it: as it is stored, or a draft that lists
the matrix. -/
structure Fetches (db : TaxDb) (ctx : TaxContext) (wardId assessmentYearId : Id)
    (config : TaxConfigWithCells) : Prop where
  status : config.row.status = (db.target ctx wardId assessmentYearId).status
  params : config.row.params = (db.target ctx wardId assessmentYearId).params
  cells : ∀ cell, cell ∈ TaxConfigsService.storedCells config ↔ ∃ rate,
    (db.target ctx wardId assessmentYearId).rates cell.roadWidthEntryId
      cell.constructionEntryId = some rate ∧ toRate rate = cell.annualRatePerSqFt
  stored : ∀ found, db.configFor? wardId assessmentYearId = some found → config = found

/-- The copies to the wards publish what they write, up to the first that is
refused. -/
def CopiesLive (db : TaxDb) (ctx : TaxContext) (assessmentYearId : Id) (published : Prop)
    (cells : List UpsertTaxCell) (asked : RateParams ℚ) : List Ward → Prop
  | [] => True
  | ward :: rest =>
      let target := db.target ctx ward.id assessmentYearId
      (target.status ≠ .archived → published ∨ target.status = .published →
        target.PublishesLive ctx cells asked True) ∧
      (target.status = .archived ∨ target.Accepts ctx cells asked →
        db.CopiesLive ctx assessmentYearId published cells asked rest)

/-- What the call publishes is what it writes. -/
def PublishesLive (db : TaxDb) (call : TaxCall) : Prop :=
  match call.operation with
  | .publish id dto => ∀ config, db.configById? id = some config → config.row.status ≠ .archived →
      TaxConfigsService.ratesUnchanged call.ctx config dto = false →
      TaxConfigsService.hasPayload dto = true →
        (db.targetOf config.row).PublishesLive call.ctx
          (TaxConfigsService.resolveCells config dto.cells)
          (TaxConfigsService.resolveParams config dto.params)
          ((TaxConfigsService.effectiveFromOf call.ctx dto.effectiveFrom).isOk = true)
  | .copyToAllWards dto => ∀ source,
      db.Fetches call.ctx dto.sourceWardId dto.assessmentYearId source →
        db.CopiesLive call.ctx dto.assessmentYearId (source.row.status = .published)
          (TaxConfigsService.resolveCells source dto.cells)
          (TaxConfigsService.resolveParams source dto.params) (call.ctx.wards.filter Ward.isActive)
  | _ => True

end TaxDb

/-! ### Fetching a config -/

section Fetch
variable {ctx : TaxContext} {db db' : TaxDb} {wardId assessmentYearId : Id}

theorem target_of_mem {row : TaxConfigRow} (hRow : row ∈ db.configs.rows)
    (hFor : row.IsFor wardId assessmentYearId) :
    db.target ctx wardId assessmentYearId = db.targetOf row := by
  unfold TaxDb.target
  rw [configFor?_eq_some hRow hFor.1 hFor.2]
  rfl

/-- What other wards would fetch is as it was. -/
theorem OnlyFor.target (h : OnlyFor wardId assessmentYearId db db') {other : Id}
    (hOther : other ≠ wardId) :
    db'.target ctx other assessmentYearId = db.target ctx other assessmentYearId := by
  cases hFound : db.configFor? other assessmentYearId with
  | some config =>
      obtain ⟨hMem, hWard, hYear, _⟩ := configFor?_some hFound
      have hElse : ¬ config.row.IsFor wardId assessmentYearId :=
        fun hFor => hOther (hWard.symm.trans hFor.1)
      rw [target_of_mem ((h.configs _ hElse).mpr hMem) ⟨hWard, hYear⟩,
        target_of_mem hMem ⟨hWard, hYear⟩, TaxDb.targetOf, TaxDb.targetOf, h.rates _ hMem hElse]
  | none =>
      have hNone : db'.configFor? other assessmentYearId = none := by
        by_contra hSome
        obtain ⟨config, hConfig⟩ := Option.ne_none_iff_exists'.mp hSome
        obtain ⟨hMem, hWard, hYear, _⟩ := configFor?_some hConfig
        have hElse : ¬ config.row.IsFor wardId assessmentYearId :=
          fun hFor => hOther (hWard.symm.trans hFor.1)
        exact configFor?_none hFound ((h.configs _ hElse).mp hMem) ⟨hWard, hYear⟩
      unfold TaxDb.target
      rw [hFound, hNone]
      rfl

/-- A draft that was opened has the matrix. -/
theorem target_opened (hNumbered : Numbered db)
    (hNone : db.configFor? wardId assessmentYearId = none)
    (hRates : db'.rates db.ledger.nextId =
      (TaxConfigsService.matrix ctx).foldl RateMap.fill (db.rates db.ledger.nextId)) :
    db'.targetOf (newConfig ctx db wardId assessmentYearId) =
      db.target ctx wardId assessmentYearId := by
  unfold TaxDb.target TaxDb.targetOf
  rw [hNone]
  have hMatrix : db'.rates db.ledger.nextId = matrixRates ctx := by
    rw [hRates, hNumbered.rates _ le_rfl]
    funext road construction
    rw [foldl_fill]
    rfl
  exact congrArg _ hMatrix

/-- A config was fetched, and nothing of another ward or year was touched. -/
structure Fetched (ctx : TaxContext) (wardId assessmentYearId : Id) (db : TaxDb)
    (config : TaxConfigWithCells) (db' : TaxDb) : Prop where
  only : OnlyFor wardId assessmentYearId db db'
  live : SnapshotsLive db'
  row : config.row ∈ db'.configs.rows
  isFor : config.row.IsFor wardId assessmentYearId
  read : config = db'.withCells config.row
  target : db'.targetOf config.row = db.target ctx wardId assessmentYearId
  stored : ∀ found, db.configFor? wardId assessmentYearId = some found → config = found

/-- What is got or created is fetched, and keeps the snapshots live. -/
theorem getOrCreate_fetched (ctx : TaxContext) (wardId assessmentYearId : Id)
    (actorId : Option Id) (hNumbered : Numbered db) (hLive : SnapshotsLive db) :
    Meets (TaxConfigsService.getOrCreate ctx wardId assessmentYearId actorId) (· = db)
      (Fetched ctx wardId assessmentYearId db)
      (fun db' => Numbered db' ∧ SnapshotsLive db') := by
  have hDraft {db' : TaxDb} (hOpened : Opened ctx wardId assessmentYearId db db') :
      SnapshotsLive db' := by
    refine (onlyFor_opened hOpened).snapshotsLive hLive fun c hc hFor hPublished => ?_
    obtain rfl := eq_of_isFor hc hOpened.configs.mem_row hFor ⟨rfl, rfl⟩
    cases hPublished
  rintro db rfl
  refine (getOrCreate_ends ctx wardId assessmentYearId actorId db).mono ?_ ?_
  · rintro config db' (⟨rfl, hFound⟩ | ⟨hNone, hOpened, rfl, hRates⟩)
    · obtain ⟨hMem, hWard, hYear, hRead⟩ := configFor?_some hFound
      exact ⟨.refl _ _ _, hLive, hMem, ⟨hWard, hYear⟩, hRead,
        (target_of_mem hMem ⟨hWard, hYear⟩).symm, fun found h => Option.some.inj (hFound.symm.trans h)⟩
    · refine ⟨onlyFor_opened hOpened, hDraft hOpened, hOpened.configs.mem_row, ⟨rfl, rfl⟩, rfl,
        target_opened hNumbered hNone hRates, fun found hFound => ?_⟩
      rw [hNone] at hFound
      cases hFound
  · rintro db' (rfl | ⟨_, hOpened⟩)
    · exact ⟨hNumbered, hLive⟩
    · exact ⟨(onlyFor_opened hOpened).numbered hNumbered, hDraft hOpened⟩

/-- What was fetched is what a request fetches. -/
theorem Fetched.fetches {config : TaxConfigWithCells}
    (h : Fetched ctx wardId assessmentYearId db config db') :
    db.Fetches ctx wardId assessmentYearId config where
  status := congrArg RateTarget.status h.target
  params := congrArg RateTarget.params h.target
  cells cell := by
    rw [← h.target, h.read]
    exact mem_storedCells
  stored := h.stored

end Fetch

/-! ### The loop over the wards -/

section Loop
variable {ctx : TaxContext} {db₀ db db' : TaxDb} {dto : CopyTaxToWards} {actorId : Option Id}
  {source : TaxConfigWithCells} {ward : Ward} {rest : List Ward}

/-- The tables while the wards `rest` are still to come. What these fetch is as it
was at the start. -/
structure CopyLoop (ctx : TaxContext) (dto : CopyTaxToWards) (source : TaxConfigWithCells)
    (db₀ : TaxDb) (rest : List Ward) (db : TaxDb) : Prop where
  numbered : Numbered db
  live : SnapshotsLive db
  nodup : (rest.map Ward.id).Nodup
  targets : ∀ ward ∈ rest,
    db.target ctx ward.id dto.assessmentYearId = db₀.target ctx ward.id dto.assessmentYearId
  sourceRow : dto.sourceWardId ∈ rest.map Ward.id → source.row ∈ db.configs.rows
  copies : db₀.CopiesLive ctx dto.assessmentYearId (source.row.status = .published)
    (TaxConfigsService.resolveCells source dto.cells)
    (TaxConfigsService.resolveParams source dto.params) rest

/-- A ward is done when its config is archived, or took the whole request. -/
theorem CopyLoop.next (h : CopyLoop ctx dto source db₀ (ward :: rest) db)
    (hSource : source.row.IsFor dto.sourceWardId dto.assessmentYearId)
    (hOnly : OnlyFor ward.id dto.assessmentYearId db db') (hLive : SnapshotsLive db')
    (hDone : (db₀.target ctx ward.id dto.assessmentYearId).status = .archived ∨
      (db₀.target ctx ward.id dto.assessmentYearId).Accepts ctx
        (TaxConfigsService.resolveCells source dto.cells)
        (TaxConfigsService.resolveParams source dto.params)) :
    CopyLoop ctx dto source db₀ rest db' := by
  obtain ⟨hFresh, hNodup⟩ := List.nodup_cons.mp h.nodup
  refine ⟨hOnly.numbered h.numbered, hLive, hNodup, fun other hMem => ?_, fun hMem => ?_,
    h.copies.2 hDone⟩
  · have hOther : other.id ≠ ward.id := fun hId => hFresh (hId ▸ List.mem_map_of_mem hMem)
    rw [hOnly.target hOther]
    exact h.targets other (List.mem_cons_of_mem _ hMem)
  · refine (hOnly.configs _ fun hFor => hFresh ?_).mpr
      (h.sourceRow (List.mem_cons_of_mem _ hMem))
    rwa [← hFor.1, hSource.1]

/-- The config of the ward that is next. -/
theorem copyTarget_fetched (h : CopyLoop ctx dto source db₀ (ward :: rest) db)
    (hSource : source.row.IsFor dto.sourceWardId dto.assessmentYearId) :
    Meets (TaxConfigsService.copyTarget ctx dto actorId source ward) (· = db)
      (fun config db' => config.row ∈ db'.configs.rows ∧
        config.row.IsFor ward.id dto.assessmentYearId ∧
        OnlyFor ward.id dto.assessmentYearId db db' ∧ SnapshotsLive db' ∧
        db'.targetOf config.row = db₀.target ctx ward.id dto.assessmentYearId)
      (fun db' => Numbered db' ∧ SnapshotsLive db') := by
  have hTarget := h.targets ward List.mem_cons_self
  unfold TaxConfigsService.copyTarget
  split_ifs with hOwn
  · refine .pure ?_
    rintro db' rfl
    have hRow := h.sourceRow (by simp [hOwn])
    rw [← hOwn] at hSource
    exact ⟨hRow, hSource, .refl _ _ _, h.live, (target_of_mem hRow hSource).symm.trans hTarget⟩
  · refine (getOrCreate_fetched ctx _ _ actorId h.numbered h.live).mono (fun _ h => h) ?_
      fun _ h => h
    exact fun config db' hFetched => ⟨hFetched.row, hFetched.isFor, hFetched.only, hFetched.live,
      hFetched.target.trans hTarget⟩

/-- One ward of the copy carries the loop on. -/
theorem copyToWard_loop (actorId : Option Id)
    (hSource : source.row.IsFor dto.sourceWardId dto.assessmentYearId) (counts : CopyCounts) :
    Meets (TaxConfigsService.copyToWard ctx dto actorId source counts ward)
      (CopyLoop ctx dto source db₀ (ward :: rest)) (fun _ => CopyLoop ctx dto source db₀ rest)
      (fun db => Numbered db ∧ SnapshotsLive db) := by
  intro db h
  refine Meets.bind (copyTarget_fetched h hSource) (fun config => ?_) db rfl
  rintro db₁ ⟨hRow, hFor, hOnly, hLive, hTarget⟩
  dsimp only
  by_cases hArchived : config.row.status = .archived
  · rw [if_pos hArchived]
    refine h.next hSource hOnly hLive (.inl ?_)
    rw [← hTarget]
    exact hArchived
  · rw [if_neg hArchived]
    have hRequest := h.copies.1
    rw [← hTarget] at hRequest
    have hNumbered := hOnly.numbered h.numbered
    have hPlace {db₂ : TaxDb} (hSafe : Safe db₁ config.row db₂) :
        OnlyFor ward.id dto.assessmentYearId db db₂ := by
      have hOnly' := hSafe.1
      rw [hFor.1, hFor.2] at hOnly'
      exact hOnly.trans hOnly'
    have hCopy : Meets ((if source.row.status = .published then TaxConfigsService.copyPublished
          else TaxConfigsService.copyDraft) ctx dto actorId source config) (· = db₁)
        (fun _ => CopyLoop ctx dto source db₀ rest)
        (fun db => Numbered db ∧ SnapshotsLive db) := by
      refine (copy_safe ctx actorId hNumbered hRow hLive (hRequest hArchived)).mono
        (fun _ h => h) (fun _ db₂ hDone => ?_) fun db₂ hSafe => ?_
      · rw [hTarget] at hDone
        exact h.next hSource (hPlace hDone.2) hDone.2.2 (.inr hDone.1)
      · exact ⟨(hPlace hSafe).numbered h.numbered, hSafe.2⟩
    refine Meets.bind hCopy (fun _ => ?_) db₁ rfl
    exact .pure fun _ h => h

/-- Copying to all wards keeps the snapshots live. -/
theorem copyToAllWards_live (hNumbered : Numbered db) (hLive : SnapshotsLive db)
    (hRequest : db.PublishesLive ⟨ctx, actorId, .copyToAllWards dto⟩) :
    Meets (TaxConfigsService.copyToAllWards ctx dto actorId) (· = db)
      (fun _ db' => Numbered db' ∧ SnapshotsLive db')
      (fun db' => Numbered db' ∧ SnapshotsLive db') := by
  refine Meets.bind (getOrCreate_fetched ctx _ _ actorId hNumbered hLive) fun source => ?_
  intro db₁ hFetched
  have hStart : CopyLoop ctx dto source db (ctx.wards.filter Ward.isActive) db₁ := by
    refine ⟨hFetched.only.numbered hNumbered, hFetched.live, ?_, fun ward _ => ?_,
      fun _ => hFetched.row, hRequest source hFetched.fetches⟩
    · exact ctx.wards_nodup.sublist (List.filter_sublist.map _)
    · by_cases hWard : ward.id = dto.sourceWardId
      · rw [hWard, ← hFetched.target, target_of_mem hFetched.row hFetched.isFor]
      · exact hFetched.only.target hWard
  have hLoop := Meets.foldlM (fun rest (_ : CopyCounts) => CopyLoop ctx dto source db rest)
    (fun ward rest counts => copyToWard_loop actorId hFetched.isFor counts)
    (ctx.wards.filter Ward.isActive) ⟨0, 0, 0, 0⟩
  exact (hLoop.bind fun _ => .pure fun _ h => ⟨h.numbered, h.live⟩) db₁ hStart

end Loop

/-! ### The other calls -/

section Calls
variable {ctx : TaxContext} {db : TaxDb} {id : Id} {actorId : Option Id}

/-- A safe state keeps the snapshots live. -/
theorem Safe.kept {db' : TaxDb} {row : TaxConfigRow} (h : Safe db row db')
    (hNumbered : Numbered db) : Numbered db' ∧ SnapshotsLive db' :=
  ⟨h.1.numbered hNumbered, h.2⟩

/-- What is read is a stored draft. -/
theorem editableDraft_ends (subject : String) :
    Ends (fun row db' => db' = db ∧ row ∈ db.configs.rows ∧ row.id = id ∧ row.status = .draft)
      (· = db) (TaxConfigsService.editableDraft id subject db) := by
  unfold TaxConfigsService.editableDraft
  cases hFound : db.configs.find? id with
  | none => exact rfl
  | some existing =>
      obtain ⟨hMem, hId⟩ := find?_eq_some_iff.mp hFound
      dsimp only
      cases hStatus : existing.status with
      | archived => exact rfl
      | published => exact rfl
      | draft => exact ⟨rfl, hMem, hId, hStatus⟩

/-- The rates of a draft are on record nowhere. -/
theorem RatesWritten.safe_of_draft {db' : TaxDb} {row : TaxConfigRow} {params : RateParams Rate}
    {rates : RateMap} (h : RatesWritten db row params rates db') (hRow : row ∈ db.configs.rows)
    (hLive : SnapshotsLive db) (hDraft : row.status = .draft) : Safe db row db' :=
  h.safe hRow hLive fun hPublished => absurd (hDraft.symm.trans hPublished) nofun

/-- An edit of a draft, and what follows it. -/
theorem editDraft_live {α β : Type} {subject : String} {write : TaxConfigRow → TaxScript α}
    {next : TaxConfigRow → α → TaxScript β} (hNumbered : Numbered db) (hLive : SnapshotsLive db)
    (hWrite : ∀ row ∈ db.configs.rows, row.id = id → row.status = .draft →
      Ends (fun _ => Safe db row) (Safe db row) (write row db))
    (hNext : ∀ row answer, Preserves (next row answer) (Safe db row)) :
    Ends (fun _ db' => Numbered db' ∧ SnapshotsLive db')
      (fun db' => Numbered db' ∧ SnapshotsLive db')
      ((do
        let row ← TaxConfigsService.editableDraft id subject
        let answer ← write row
        next row answer : TaxScript β) db) := by
  have hRead : Meets (TaxConfigsService.editableDraft id subject) (· = db)
      (fun row db' => (row ∈ db.configs.rows ∧ row.id = id ∧ row.status = .draft) ∧ db' = db)
      (fun db' => Numbered db' ∧ SnapshotsLive db') := by
    rintro db rfl
    refine (editableDraft_ends _).mono (fun _ _ h => ⟨h.2, h.1⟩) ?_
    rintro db' rfl
    exact ⟨hNumbered, hLive⟩
  refine Meets.bind hRead (fun row => Meets.given ?_) db rfl
  rintro ⟨hRow, hId, hDraft⟩ db' rfl
  have hRow' : Meets (write row) (· = db') (fun _ => Safe db' row) (Safe db' row) := by
    rintro db rfl
    exact hWrite row hRow hId hDraft
  exact (Meets.bind hRow' (hNext row) db' rfl).mono (fun _ _ h => h.kept hNumbered)
    fun _ h => h.kept hNumbered

/-- Editing the cells of a draft keeps the snapshots live. -/
theorem upsertCells_live (cells : List UpsertTaxCell) (hNumbered : Numbered db)
    (hLive : SnapshotsLive db) :
    Ends (fun _ db' => Numbered db' ∧ SnapshotsLive db')
      (fun db' => Numbered db' ∧ SnapshotsLive db')
      (TaxConfigsService.upsertCells ctx id cells actorId db) := by
  refine editDraft_live hNumbered hLive (fun row hRow hId hDraft => ?_) fun row _ => ?_
  · subst hId
    exact (writeCells_written cells db (.start hRow)).mono
      (fun _ _ h => h.2.safe_of_draft hRow hLive hDraft)
      fun _ h => h.2.safe_of_draft hRow hLive hDraft
  · exact Preserves.bind (log_safe _) fun _ => TaxFrame.findUniqueOrThrow

/-- Editing the percentages of a draft keeps the snapshots live. -/
theorem updateParams_live (dto : UpdateTaxConfigParams) (hNumbered : Numbered db)
    (hLive : SnapshotsLive db) :
    Ends (fun _ db' => Numbered db' ∧ SnapshotsLive db')
      (fun db' => Numbered db' ∧ SnapshotsLive db')
      (TaxConfigsService.updateParams ctx id dto actorId db) := by
  refine editDraft_live hNumbered hLive (fun row hRow hId hDraft => ?_) fun row _ => ?_
  · subst hId
    have hWrite : Ends _ _ (TaxConfigsService.writeParams ctx row.id
        (dto.params.orElse (row.params.map toRate)) db) :=
      writeParams_written _ db (.start hRow)
    exact hWrite.mono (fun _ _ h => h.2.safe_of_draft hRow hLive hDraft)
      fun _ h => h.2.safe_of_draft hRow hLive hDraft
  · exact Preserves.bind TaxFrame.findUniqueOrThrow fun _ =>
      Preserves.bind (log_safe _) fun _ => .pure fun _ h => h

/-- A publication whose request does keeps the snapshots live. -/
theorem publish_live (dto : PublishTaxConfig) (hNumbered : Numbered db) (hLive : SnapshotsLive db)
    (hRequest : db.PublishesLive ⟨ctx, actorId, .publish id dto⟩) :
    Ends (fun _ db' => Numbered db' ∧ SnapshotsLive db')
      (fun db' => Numbered db' ∧ SnapshotsLive db')
      (TaxConfigsService.publish ctx id dto actorId db) := by
  rw [TaxConfigsService.publish, Script.query_bind]
  cases hFound : db.configById? id with
  | none => exact ⟨hNumbered, hLive⟩
  | some config =>
      have hConfig := hRequest config hFound
      obtain ⟨hRow, rfl, hRead⟩ := configById?_some hFound
      dsimp only
      by_cases hArchived : config.row.status = .archived
      · rw [if_pos hArchived]
        exact ⟨hNumbered, hLive⟩
      · rw [if_neg hArchived, hRead]
        rw [hRead] at hConfig
        have hRates : Meets (TaxConfigsService.publishRates ctx config.row.id
            (db.withCells config.row) dto actorId) (· = db) (fun _ => Safe db config.row)
            (Safe db config.row) :=
          publishRates_safe hNumbered hRow hLive (hConfig hArchived)
        refine Ends.mono (Meets.bind hRates (fun _ => ?_) db rfl)
          (fun _ _ (h : Safe db config.row _) => h.kept hNumbered) fun _ h => h.kept hNumbered
        exact Preserves.bind TaxFrame.findUniqueOrThrow fun _ => Preserves.bind (log_safe _)
          fun _ => Preserves.bind publishForWard_safe fun _ => .pure fun _ h => h

end Calls

/-! ### Runs -/

/-- Every call whose request does keeps the snapshots live. -/
theorem perform_live {db : TaxDb} {call : TaxCall} (hNumbered : Numbered db)
    (hLive : SnapshotsLive db) (hRequest : db.PublishesLive call) :
    Numbered (db.perform call) ∧ SnapshotsLive (db.perform call) := by
  obtain ⟨ctx, actorId, operation⟩ := call
  cases operation with
  | getOrCreate wardId assessmentYearId =>
      have hEnds := (getOrCreate_fetched ctx wardId assessmentYearId actorId hNumbered hLive) db rfl
      exact Ends.after (hEnds.mono
        (fun _ _ hFetched => ⟨hFetched.only.numbered hNumbered, hFetched.live⟩) fun _ h => h)
  | upsertCells id cells => exact Ends.after (upsertCells_live cells hNumbered hLive)
  | updateParams id dto => exact Ends.after (updateParams_live dto hNumbered hLive)
  | publish id dto => exact Ends.after (publish_live dto hNumbered hLive hRequest)
  | copyToAllWards dto => exact Ends.after (copyToAllWards_live hNumbered hLive hRequest db rfl)

/-- In every run whose calls publish what they write, the snapshot of each
published config is its live matrix. -/
theorem published_snapshots_live (calls : List TaxCall)
    (hAlong : Along TaxDb.perform TaxDb.PublishesLive TaxDb.empty calls) :
    SnapshotsLive (run TaxDb.perform TaxDb.empty calls) := by
  have hEmpty : Numbered TaxDb.empty ∧ SnapshotsLive TaxDb.empty :=
    ⟨⟨fun _ hc => absurd hc List.not_mem_nil, fun _ hv => absurd hv List.not_mem_nil,
      fun _ _ => rfl⟩, fun _ hc => absurd hc List.not_mem_nil⟩
  exact (run_invariant_along (fun db => Numbered db ∧ SnapshotsLive db)
    (fun _ _ h hRequest => perform_live h.1 h.2 hRequest) hEmpty hAlong).2

namespace Sample

/-- The matrix of a ward with one road and two constructions. -/
def twoConstructions : TaxContext :=
  { twoWards with entries := ⟨year 41, "CONSTRUCTION_TYPE", true, 1⟩ :: twoWards.entries }

/-- A new config is published with a rate for one of its two cells. -/
def publishedInPart : List TaxCall :=
  [⟨twoConstructions, none, .getOrCreate 5 20⟩,
    ⟨twoConstructions, none, .publish 0 { cells := some [⟨30, 40, 1⟩] }⟩]

/-- A rate for each cell. -/
def wholeMatrix : List UpsertTaxCell := [⟨30, 40, 1⟩, ⟨30, 41, 3 / 2⟩]

/-- A new config is published with the whole matrix. -/
def publishedWhole : List TaxCall :=
  [⟨twoConstructions, none, .getOrCreate 5 20⟩,
    ⟨twoConstructions, none, .publish 0 { cells := some wholeMatrix }⟩]

theorem wholeMatrix_exact :
    (∀ a ∈ wholeMatrix, ∀ b ∈ wholeMatrix, a.roadWidthEntryId = b.roadWidthEntryId →
      a.constructionEntryId = b.constructionEntryId → a.annualRatePerSqFt = b.annualRatePerSqFt) ∧
    ∀ cell ∈ wholeMatrix, toRate (toRateColumn cell.annualRatePerSqFt) = cell.annualRatePerSqFt := by
  decide +kernel

end Sample

/-- Both rates are published, and on record. -/
theorem published_snapshots_live_whole :
    SnapshotsLive (run TaxDb.perform TaxDb.empty Sample.publishedWhole) ∧
      ∃ c ∈ (run TaxDb.perform TaxDb.empty Sample.publishedWhole).configs.rows,
        c.status = .published := by
  refine ⟨published_snapshots_live _ ⟨trivial, fun config hFound _ _ _ => ?_, trivial⟩,
    by decide +kernel⟩
  have hDraft : ∀ c ∈ (TaxDb.empty.perform
      ⟨Sample.twoConstructions, none, .getOrCreate 5 20⟩).configs.rows,
      c.status ≠ .published := by decide +kernel
  have hCells : ∀ cell ∈ (TaxDb.empty.perform
      ⟨Sample.twoConstructions, none, .getOrCreate 5 20⟩).cells.rows,
      cell.key = ⟨0, 30, 40⟩ ∨ cell.key = ⟨0, 30, 41⟩ := by
    decide +kernel
  obtain ⟨hRow, hId, _⟩ := configById?_some hFound
  refine ⟨fun _ _ => ⟨fun road construction hStored => ?_, ?_, ?_, ?_⟩,
    fun hPublished => absurd hPublished (hDraft _ hRow)⟩
  · obtain ⟨rate, hRate⟩ := Option.ne_none_iff_exists'.mp hStored
    obtain ⟨cell, hCell, _⟩ := Option.map_eq_some_iff.mp hRate
    obtain ⟨hMem, hKey⟩ := find?_eq_some_iff.mp hCell
    rcases hCells cell hMem with hFirst | hSecond
    · obtain ⟨_, hRoad, hConstruction⟩ := RateKey.mk.inj (hKey.symm.trans hFirst)
      exact ⟨_, List.mem_cons_self, hRoad.symm, hConstruction.symm⟩
    · obtain ⟨_, hRoad, hConstruction⟩ := RateKey.mk.inj (hKey.symm.trans hSecond)
      exact ⟨_, List.mem_cons_of_mem _ (List.mem_singleton_self _), hRoad.symm, hConstruction.symm⟩
  · exact Sample.wholeMatrix_exact.1
  · exact Sample.wholeMatrix_exact.2
  · refine RateParams.eq_map_toRate_iff.mp ?_
    change config.row.params.map toRate =
      ((config.row.params.map toRate).map toRateColumn).map toRate
    simp only [RateParams.map, toRateColumn_toRate]

/-- Both cells are live, and the snapshot has one of them. -/
theorem partial_list_not_live :
    ¬ ∀ calls, SnapshotsLive (run TaxDb.perform TaxDb.empty calls) := by
  intro h
  have hShort : ∃ c ∈ (run TaxDb.perform TaxDb.empty Sample.publishedInPart).configs.rows,
      c.status = .published ∧ (run TaxDb.perform TaxDb.empty Sample.publishedInPart).rates c.id
        30 41 = some 0 ∧
      ∀ v ∈ (run TaxDb.perform TaxDb.empty Sample.publishedInPart).versions.rows,
        (⟨30, 41, 0⟩ : UpsertTaxCell) ∉ v.snapshot.cells := by
    decide +kernel
  obtain ⟨c, hc, hPublished, hRate, hShort⟩ := hShort
  obtain ⟨v, hv, _, _, hRecorded⟩ := h Sample.publishedInPart c hc hPublished
  refine hShort v hv ((hRecorded.cells _).mpr ⟨0, hRate, ?_⟩)
  decide +kernel

end PropertyTax