import PropertyTax.TaxConfigs.Outcome

/-! Publishing a config writes statement by statement, with no transaction around
them. What was written before an error stays, and here is when nothing of it shows. -/
namespace PropertyTax
open KeyedTable Scripts

/-! ### What an error leaves -/

/-- The columns that a config is published with. -/
def TaxConfigRow.inForce (c : TaxConfigRow) : PublicationStatus × Nat × RateParams Rate :=
  (c.status, c.version, c.params)

/-- The config, its rates and the versions are what they were. -/
structure KeptAsBefore (id : Id) (db db' : TaxDb) : Prop where
  config : (db'.configs.find? id).map TaxConfigRow.inForce =
    (db.configs.find? id).map TaxConfigRow.inForce
  rates : db'.rates id = db.rates id
  versions : db'.versions = db.versions

/-- The database takes the rates of the request, if it has any. -/
def PublishTaxConfig.Fits (dto : PublishTaxConfig) (ctx : TaxContext) (db : TaxDb)
    (row : TaxConfigRow) : Prop :=
  TaxConfigsService.hasPayload dto = true → (db.targetOf row).Accepts ctx
    (TaxConfigsService.resolveCells (db.withCells row) dto.cells)
    (TaxConfigsService.resolveParams (db.withCells row) dto.params)

/-- The checks that `publishForWard` makes of a ward and a year. -/
structure TaxContext.Billable (ctx : TaxContext) (wardId assessmentYearId : Id) : Prop where
  ward : wardId ∈ ctx.wards.map Ward.id
  year : ∃ entry, ctx.entry? assessmentYearId = some entry ∧
    entry.categoryCode = "ASSESSMENT_YEAR"

/-- No statement of the publication fails. -/
structure PublishTaxConfig.Completes (dto : PublishTaxConfig) (ctx : TaxContext) (db : TaxDb)
    (row : TaxConfigRow) : Prop where
  payload : dto.Fits ctx db row
  date : (TaxConfigsService.effectiveFromOf ctx dto.effectiveFrom).isOk = true
  billable : ctx.Billable row.wardId row.assessmentYearId
  bills : WardBillable (db.context ctx) row.wardId row.assessmentYearId
    ((dto.outcome ctx (db.withCells row)).taxConfig ctx) db.ledger

/-- The rates of the request are refused, after cells that say what is stored. -/
structure PublishTaxConfig.StopsAtOnce (dto : PublishTaxConfig) (ctx : TaxContext) (db : TaxDb)
    (row : TaxConfigRow) : Prop where
  refused : ¬ dto.Fits ctx db row
  written : RateMap.written ctx (db.rates row.id)
    (TaxConfigsService.resolveCells (db.withCells row) dto.cells) = db.rates row.id

/-! ### Rates that no version records yet -/

section Unrecorded
variable {ctx : TaxContext} {db : TaxDb} {row : TaxConfigRow} {dto : PublishTaxConfig}
  {params : RateParams Rate} {rates : RateMap} {actorId : Option Id} {n : Nat}

/-- Rates were written, and no version and no demand yet. -/
structure Unrecorded (db : TaxDb) (row : TaxConfigRow) (params : RateParams Rate) (rates : RateMap)
    (db' : TaxDb) : Prop extends RatesWritten db row params rates db' where
  ledger : db'.ledger = db.ledger
  versions : db'.versions = db.versions

theorem Unrecorded.start (hRow : row ∈ db.configs.rows) :
    Unrecorded db row row.params (db.rates row.id) db :=
  ⟨.start hRow, rfl, rfl⟩

/-- Cells are written without a version, up to the first that is refused. -/
theorem writeCells_unrecorded (cells : List UpsertTaxCell) :
    Meets (TaxConfigsService.writeCells ctx row.id cells) (Unrecorded db row params rates)
      (fun _ db' => (∀ cell ∈ cells, AcceptsCell ctx rates cell) ∧
        Unrecorded db row params (RateMap.overlay rates cells) db')
      (fun db' => (¬ ∀ cell ∈ cells, AcceptsCell ctx rates cell) ∧
        Unrecorded db row params (RateMap.written ctx rates cells) db') := by
  intro state h
  refine ((writeCells_written cells state h.toRatesWritten).and
    (writeCells_ends ctx row.id cells state)).mono ?_ ?_
  · rintro _ db' ⟨⟨hAll, hWritten⟩, _, hOnly, _⟩
    exact ⟨hAll, hWritten, hOnly.ledger.trans h.ledger, hOnly.versions.trans h.versions⟩
  · rintro db' ⟨⟨hNot, hWritten⟩, _, hOnly, _⟩
    exact ⟨hNot, hWritten, hOnly.ledger.trans h.ledger, hOnly.versions.trans h.versions⟩

/-- Percentages are written without a version, if they fit their columns. -/
theorem writeParams_unrecorded (asked : RateParams ℚ) :
    Meets (TaxConfigsService.writeParams ctx row.id asked) (Unrecorded db row params rates)
      (fun _ db' => (∀ x ∈ asked.toList, (toRateColumn x).natAbs < 10 ^ 8) ∧
        Unrecorded db row (asked.map toRateColumn) rates db')
      (fun db' => (¬ ∀ x ∈ asked.toList, (toRateColumn x).natAbs < 10 ^ 8) ∧
        Unrecorded db row params rates db') := by
  have hFrame : Preserves (TaxConfigsService.writeParams ctx row.id asked)
      (fun db' => db'.ledger = db.ledger ∧ db'.versions = db.versions) := by
    refine .execute ?_ fun _ _ h _ => h
    rintro state db' ⟨⟩ h hOk
    obtain ⟨columns, -, hUpdate⟩ := bind_ok hOk
    obtain ⟨c, configs, -, -, rfl⟩ := TaxDb.updateConfig_ok hUpdate fun _ => rfl
    exact h
  intro state h
  refine ((writeParams_written asked state h.toRatesWritten).and
    (hFrame state ⟨h.ledger, h.versions⟩)).mono ?_ ?_
  · exact fun _ db' hEnd => ⟨hEnd.1.1, hEnd.1.2, hEnd.2.1, hEnd.2.2⟩
  · exact fun db' hEnd => ⟨hEnd.1.1, hEnd.1.2, hEnd.2.1, hEnd.2.2⟩

/-- The rates of the request are written as a whole, or up to the first that is refused. -/
theorem writePayload_unrecorded (hRow : row ∈ db.configs.rows) :
    Meets (TaxConfigsService.writePayload ctx row.id (db.withCells row) dto) (· = db)
      (fun config db' => dto.Fits ctx db row ∧ Still row config.row ∧
        ∃ params rates, Unrecorded db row params rates db')
      (fun db' => ¬ dto.Fits ctx db row ∧ Unrecorded db row row.params
        (RateMap.written ctx (db.rates row.id)
          (TaxConfigsService.resolveCells (db.withCells row) dto.cells)) db') := by
  unfold TaxConfigsService.writePayload
  by_cases hPayload : TaxConfigsService.hasPayload dto = true
  · rw [if_pos hPayload]
    let cells := TaxConfigsService.resolveCells (db.withCells row) dto.cells
    let asked := TaxConfigsService.resolveParams (db.withCells row) dto.params
    have hCells : Meets (TaxConfigsService.writeCells ctx row.id cells) (· = db)
        (fun _ db' => (∀ cell ∈ cells, AcceptsCell ctx (db.rates row.id) cell) ∧
          Unrecorded db row row.params (RateMap.overlay (db.rates row.id) cells) db')
        (fun db' => ¬ dto.Fits ctx db row ∧
          Unrecorded db row row.params (RateMap.written ctx (db.rates row.id) cells) db') := by
      refine (writeCells_unrecorded cells).mono ?_ (fun _ _ h => h) fun db' h => ?_
      · rintro _ rfl
        exact .start hRow
      · exact ⟨fun hFits => h.1 (hFits hPayload).cells, h.2⟩
    refine hCells.bind fun _ => Meets.given fun hAll => ?_
    have hParams : Meets (TaxConfigsService.writeParams ctx row.id asked)
        (Unrecorded db row row.params (RateMap.overlay (db.rates row.id) cells))
        (fun _ db' => dto.Fits ctx db row ∧ Unrecorded db row (asked.map toRateColumn)
          (RateMap.overlay (db.rates row.id) cells) db')
        (fun db' => ¬ dto.Fits ctx db row ∧
          Unrecorded db row row.params (RateMap.written ctx (db.rates row.id) cells) db') := by
      refine (writeParams_unrecorded asked).mono (fun _ h => h) (fun _ db' h => ?_) fun db' h => ?_
      · exact ⟨fun _ => ⟨hAll, h.1⟩, h.2⟩
      · rw [RateMap.written_eq_overlay hAll]
        exact ⟨fun hFits => h.1 (hFits hPayload).params, h.2⟩
    refine hParams.bind fun _ => Meets.given fun hFits => ?_
    intro state h
    obtain ⟨c, hc, hStill, -⟩ := h.config
    rw [findUniqueOrThrow_ends hc hStill.place.id]
    exact ⟨hFits, hStill, _, _, h⟩
  · rw [if_neg hPayload]
    refine .pure ?_
    rintro _ rfl
    exact ⟨fun h => absurd h hPayload, ⟨.refl row, rfl, rfl⟩, _, _, .start hRow⟩

end Unrecorded

/-! ### After the version -/

section Recorded
variable {ctx : TaxContext} {db : TaxDb} {row : TaxConfigRow} {dto : PublishTaxConfig}
  {params : RateParams Rate} {rates : RateMap} {actorId : Option Id} {n : Nat}

/-- There is a version that was not there before. -/
structure VersionAdded (db : TaxDb) (row : TaxConfigRow) (db' : TaxDb) : Prop where
  version : ∃ v ∈ db'.versions.rows, v ∉ db.versions.rows
  config : ∃ c ∈ db'.configs.rows, SamePlace row c
  drawn : KeysDrawn db.ledger → KeysDrawn db'.ledger

/-- A configuration with a new version is not as before. -/
theorem VersionAdded.not_kept {db' : TaxDb} (h : VersionAdded db row db') :
    ¬ KeptAsBefore row.id db db' := by
  intro hKept
  obtain ⟨v, hv, hNew⟩ := h.version
  rw [hKept.versions] at hv
  exact hNew hv

/-- A created version is added to those of the configuration. -/
theorem createVersion_added {broken : TaxDb → Prop} (hNumbered : Numbered db)
    {v : Id → TaxConfigVersionRow} (hId : ∀ i, (v i).id = i) :
    Meets (Script.execute (TaxDb.createVersion v)) (Unrecorded db row params rates)
      (fun _ => VersionAdded db row) broken := by
  refine .execute ?_ ?_
  · rintro state db' ⟨⟩ h hOk
    obtain ⟨versions, hAdded, rfl⟩ := TaxDb.createVersion_ok hOk
    obtain ⟨c, hc, hStill, -⟩ := h.config
    refine ⟨⟨_, hAdded.mem_row, fun hOld => ?_⟩, ⟨c, hc, hStill.place⟩, fun hDrawn => ?_⟩
    · have hUsed := hNumbered.versions _ hOld
      rw [hId, h.ledger] at hUsed
      exact lt_irrefl _ hUsed
    · rw [h.ledger]
      exact ⟨fun d hd => (hDrawn.demands d hd).trans (Nat.lt_succ_self _),
        fun a ha => (hDrawn.demandArrears a ha).trans (Nat.lt_succ_self _),
        fun r hr => (hDrawn.yearEndRuns r hr).trans (Nat.lt_succ_self _)⟩
  · intro state failure h hError
    obtain ⟨db', hOk⟩ := createVersion_isOk (h.only.numbered hNumbered) hId
    rw [hOk] at hError
    cases hError

/-- The config is published, unless the date is invalid. -/
theorem markPublished_meets {pre post broken : TaxDb → Prop}
    (hRow : ∀ state, pre state → ∃ c ∈ state.configs.rows, c.id = row.id)
    (hDone : (TaxConfigsService.effectiveFromOf ctx dto.effectiveFrom).isOk = true →
      ∀ state configs c c', pre state → Replaced state.configs configs c c' → c.id = row.id →
        SamePlace c c' → c'.inForce = (.published, n, c.params) → post { state with configs })
    (hStopped : ¬ (TaxConfigsService.effectiveFromOf ctx dto.effectiveFrom).isOk = true →
      ∀ state, pre state → broken state) :
    Meets (TaxConfigsService.markPublished ctx row.id n dto actorId) pre (fun _ => post)
      broken := by
  unfold TaxConfigsService.markPublished
  cases hDate : TaxConfigsService.effectiveFromOf ctx dto.effectiveFrom with
  | error failure =>
      have hInvalid : ¬ (TaxConfigsService.effectiveFromOf ctx dto.effectiveFrom).isOk = true := by
        simp [hDate, Except.isOk, Except.toBool]
      refine .execute ?_ fun state _ h _ => hStopped hInvalid state h
      rintro state db' ⟨⟩ h hOk
      cases hOk
  | ok effectiveFrom =>
      refine .execute ?_ ?_
      · rintro state db' ⟨⟩ h hOk
        obtain ⟨c, configs, hId, hReplaced, rfl⟩ := TaxDb.updateConfig_ok hOk fun _ => rfl
        exact hDone (by simp [hDate, Except.isOk, Except.toBool]) state configs c _ h hReplaced hId
          ⟨rfl, rfl, rfl⟩ rfl
      · intro state failure h hError
        obtain ⟨c, hc, hId⟩ := hRow state h
        obtain ⟨db', hOk⟩ : ∃ db', state.updateConfig ctx row.id (fun c => { c with
            status := .published
            version := n
            publishedAt := some ctx.base.now
            publishedById := actorId.or c.publishedById
            changeReason := dto.reason.or c.changeReason
            effectiveFrom := effectiveFrom.or c.effectiveFrom }) = .ok (db', ()) :=
          updateConfig_isOk hc hId fun c => ⟨rfl, rfl, rfl⟩
        refine absurd (hOk.symm.trans hError) ?_
        rintro ⟨⟩

/-- Marking the configuration as published keeps the version added. -/
theorem markPublished_added :
    Meets (TaxConfigsService.markPublished ctx row.id n dto actorId) (VersionAdded db row)
      (fun _ db' => (TaxConfigsService.effectiveFromOf ctx dto.effectiveFrom).isOk = true ∧
        VersionAdded db row db')
      (fun db' => ¬ (TaxConfigsService.effectiveFromOf ctx dto.effectiveFrom).isOk = true ∧
        VersionAdded db row db') := by
  refine markPublished_meets ?_ ?_ fun hDate state h => ⟨hDate, h⟩
  · intro state h
    obtain ⟨c, hc, hPlace⟩ := h.config
    exact ⟨c, hc, hPlace.id⟩
  · intro hDate state configs c c' h hReplaced hId hPlace _
    obtain ⟨stored, hStored, hRow⟩ := h.config
    obtain rfl : stored = c := eq_of_key hStored hReplaced.mem_old (hRow.id.trans hId.symm)
    exact ⟨hDate, h.version, ⟨c', hReplaced.mem_new, hRow.trans hPlace⟩, h.drawn⟩

/-! ### The demands of the ward -/

/-- The year is accepted when its entry is one of the years. -/
theorem assertAssessmentYear_isOk_iff {assessmentYearId : Id} :
    (assertAssessmentYear (db.context ctx).reference assessmentYearId).isOk = true ↔
      ∃ entry, ctx.entry? assessmentYearId = some entry ∧
        entry.categoryCode = "ASSESSMENT_YEAR" := by
  have hEntry : (db.context ctx).reference.referenceEntries.find?
      (fun e => e.ref.id = assessmentYearId) =
        (ctx.entry? assessmentYearId).map fun e => ⟨e.ref, e.categoryCode⟩ := by
    rw [TaxDb.context, List.find?_map]
    rfl
  rw [assertAssessmentYear, hEntry]
  cases ctx.entry? assessmentYearId with
  | none => simp [Except.isOk, Except.toBool]
  | some entry =>
      simp only [Option.map_some, Option.some.injEq, exists_eq_left']
      split_ifs with hCode
      · simp [hCode, Except.isOk, Except.toBool]
      · simp [hCode, Except.isOk, Except.toBool]

/-- A configuration is read with its own year. -/
theorem taxConfig_yearId (db : TaxDb) (ctx : TaxContext) (c : TaxConfigRow) :
    (db.taxConfig ctx c).assessmentYear.id = c.assessmentYearId := by
  unfold TaxDb.taxConfig TaxContext.entry?
  cases hEntry : ctx.entries.find? fun e => e.ref.id = c.assessmentYearId with
  | none => rfl
  | some entry => simpa using List.find?_some hEntry

/-- The rates of a published config are found for its ward and year. -/
theorem loadPublishedTaxConfigForDues_isOk {c : TaxConfigRow} (hc : c ∈ db.configs.rows)
    (hPublished : c.status = .published) :
    loadPublishedTaxConfigForDues (db.context ctx).reference c.wardId c.assessmentYearId =
      .ok (db.taxConfig ctx c) := by
  have hFound : (db.context ctx).reference.taxConfigs.find? (fun t =>
      t.wardId = c.wardId ∧ t.assessmentYear.id = c.assessmentYearId) =
        some (db.taxConfig ctx c) := by
    rw [TaxDb.context, List.find?_map]
    refine congrArg (Option.map (db.taxConfig ctx))
      (findFirst?_eq_some_of_mem hc ?_ fun q hq hPlace => ?_)
    · exact decide_eq_true ⟨rfl, taxConfig_yearId db ctx c⟩
    · refine eq_of_clash hq hc ?_
      obtain ⟨hWard, hYear⟩ := decide_eq_true_eq.mp hPlace
      rw [taxConfig_yearId] at hYear
      have hSame : q.wardId = c.wardId ∧ q.assessmentYearId = c.assessmentYearId := ⟨hWard, hYear⟩
      simp [KeyedRow.clash, hSame]
  rw [loadPublishedTaxConfigForDues, hFound]
  exact if_pos hPublished

/-- With a published config, only the ward and the year can be turned down. -/
theorem wardTaxConfig_cases {c : TaxConfigRow} (hc : c ∈ db.configs.rows) (hPlace : SamePlace row c)
    (hPublished : c.status = .published) :
    (ctx.Billable row.wardId row.assessmentYearId ∧
      wardTaxConfig (db.context ctx) row.wardId row.assessmentYearId =
        .ok (db.taxConfig ctx c)) ∨
    (¬ ctx.Billable row.wardId row.assessmentYearId ∧ ∃ error,
      wardTaxConfig (db.context ctx) row.wardId row.assessmentYearId = .error error) := by
  have hRates := @loadPublishedTaxConfigForDues_isOk ctx db c hc hPublished
  rw [hPlace.wardId, hPlace.assessmentYearId] at hRates
  have hYear := @assertAssessmentYear_isOk_iff ctx db row.assessmentYearId
  unfold wardTaxConfig
  by_cases hWard : row.wardId ∉ (db.context ctx).reference.wardIds
  · rw [if_pos hWard]
    exact .inr ⟨fun h => hWard h.ward, _, rfl⟩
  rw [if_neg hWard]
  cases hCheck : assertAssessmentYear (db.context ctx).reference row.assessmentYearId with
  | error error =>
      rw [hCheck] at hYear
      refine .inr ⟨fun h => ?_, error, rfl⟩
      cases hYear.mpr h.year
  | ok checked =>
      rw [hCheck] at hYear
      exact .inl ⟨⟨not_not.mp hWard, hYear.mp rfl⟩, hRates⟩

/-- Whatever the ledger, the version stays added. -/
theorem VersionAdded.ledger {ledger : Db} {db' : TaxDb} (h : VersionAdded db row db')
    (hLedger : KeysDrawn db'.ledger → KeysDrawn ledger) :
    VersionAdded db row { db' with ledger } :=
  ⟨h.version, h.config, fun hDrawn => hLedger (h.drawn hDrawn)⟩

/-- The ward and the year pass, and every active survey can be billed at the rates asked for. -/
def PublishTaxConfig.Bills (dto : PublishTaxConfig) (ctx : TaxContext) (db : TaxDb)
    (row : TaxConfigRow) : Prop :=
  ctx.Billable row.wardId row.assessmentYearId ∧
    WardBillable (db.context ctx) row.wardId row.assessmentYearId
      ((dto.outcome ctx (db.withCells row)).taxConfig ctx) db.ledger

/-- A version is on record, and the config is published with the rates asked for. -/
structure Announced (dto : PublishTaxConfig) (ctx : TaxContext) (db : TaxDb) (row : TaxConfigRow)
    (db' : TaxDb) : Prop where
  added : VersionAdded db row db'
  ready : ReadyToBill dto ctx db row db'

/-- Publishing a ward keeps the keys drawn. -/
theorem publishForWard_keysDrawn {base : Context} {wardId assessmentYearId : Id} {ledger : Db}
    (hDrawn : KeysDrawn ledger) :
    KeysDrawn (PropertyTax.publishForWard base wardId assessmentYearId actorId ledger).1 := by
  refine publishForWard_invariant KeysDrawn ?_ (fun _ _ h => ⟨h.demands, h.demandArrears,
    h.yearEndRuns⟩) hDrawn
  intro taxConfig _ survey _ state hState
  by_cases hBill : (wardInput base assessmentYearId actorId taxConfig survey).CanBill base state
  · obtain ⟨after, id, hUpsert, hOne⟩ := upsert_isOk base _ hState hBill
    rw [hUpsert]
    exact hOne.drawn
  · obtain ⟨error, hRefused⟩ := upsert_of_not_canBill hBill
    rw [hRefused]
    exact hState

/-- The demands of the ward, unless the ward, the year or a bill is turned down. -/
theorem publishForWard_ends (hIds : (ctx.base.reference.surveys.map Survey.id).Nodup)
    (hDrawn : KeysDrawn db.ledger) :
    Meets (TaxDb.publishForWard ctx row.wardId row.assessmentYearId actorId)
      (Announced dto ctx db row) (fun _ _ => dto.Bills ctx db row)
      (fun db' => ¬ dto.Bills ctx db row ∧ VersionAdded db row db') := by
  intro state h
  have hState : KeysDrawn state.ledger := h.added.drawn hDrawn
  have hAdded := h.added.ledger fun hKeys => @publishForWard_keysDrawn actorId (state.context ctx)
    row.wardId row.assessmentYearId _ hKeys
  obtain ⟨c, hc, hPlace, hPublished, hTaxConfig⟩ := h.ready.config
  have hSame := @wardBillable_congr ctx db state row.wardId row.assessmentYearId
    (state.taxConfig ctx c) h.ready.demands h.ready.payments
  unfold TaxDb.publishForWard
  dsimp only
  rcases wardTaxConfig_cases hc hPlace hPublished with ⟨hBillable, hConfig⟩ | ⟨hNot, error, hConfig⟩
  · by_cases hBills : WardBillable (state.context ctx) row.wardId row.assessmentYearId
        (state.taxConfig ctx c) state.ledger
    · obtain ⟨after, hRun, -⟩ := publishForWard_isOk actorId hState hConfig hIds hBills
      rw [hRun]
      rw [hSame, hTaxConfig] at hBills
      exact ⟨hBillable, hBills⟩
    · obtain ⟨after, error, hRun⟩ := publishForWard_stopped actorId hState hConfig hIds hBills
      rw [hRun] at hAdded ⊢
      rw [hSame, hTaxConfig] at hBills
      exact ⟨fun h => hBills h.2, hAdded⟩
  · have hRun : PropertyTax.publishForWard (state.context ctx) row.wardId row.assessmentYearId
        actorId state.ledger = (state.ledger, .error error) := by
      rw [PropertyTax.publishForWard, hConfig]
    rw [hRun] at hAdded ⊢
    exact ⟨fun h => hNot h.1, hAdded⟩

end Recorded

/-! ### A publication that changes rates -/

section Publish
variable {ctx : TaxContext} {db : TaxDb} {row : TaxConfigRow} {dto : PublishTaxConfig}
  {actorId : Option Id}

/-- Where a publication can stop: at the rates, or with a version on record. -/
structure PublishTaxConfig.StoppedAt (dto : PublishTaxConfig) (ctx : TaxContext) (db : TaxDb)
    (row : TaxConfigRow) (db' : TaxDb) : Prop where
  incomplete : ¬ dto.Completes ctx db row
  added : dto.Fits ctx db row → VersionAdded db row db'
  refused : ¬ dto.Fits ctx db row → Unrecorded db row row.params
    (RateMap.written ctx (db.rates row.id)
      (TaxConfigsService.resolveCells (db.withCells row) dto.cells)) db'

/-- A publication that does not complete stops with its version added. -/
theorem VersionAdded.stoppedAt {db' : TaxDb} (h : VersionAdded db row db')
    (hFits : dto.Fits ctx db row) (hIncomplete : ¬ dto.Completes ctx db row) :
    dto.StoppedAt ctx db row db' :=
  ⟨hIncomplete, fun _ => h, fun hRefused => absurd hFits hRefused⟩

/-- Where a publication of new rates stops. -/
theorem publishRates_stoppedAt (hNumbered : Numbered db) (hRow : row ∈ db.configs.rows)
    (hChanged : TaxConfigsService.ratesUnchanged ctx (db.withCells row) dto = false) :
    Meets (TaxConfigsService.publishRates ctx row.id (db.withCells row) dto actorId) (· = db)
      (fun _ db' => (dto.Fits ctx db row ∧
        (TaxConfigsService.effectiveFromOf ctx dto.effectiveFrom).isOk = true) ∧
          Announced dto ctx db row db')
      (dto.StoppedAt ctx db row) := by
  have hReady := @publishRates_readyToBill ctx db row dto actorId hRow hChanged
  suffices hStops : Meets (TaxConfigsService.publishRates ctx row.id (db.withCells row) dto actorId)
      (· = db) (fun _ db' => (dto.Fits ctx db row ∧
        (TaxConfigsService.effectiveFromOf ctx dto.effectiveFrom).isOk = true) ∧
          VersionAdded db row db') (dto.StoppedAt ctx db row) from fun state hState =>
    ((hStops state hState).and (hReady state hState)).mono
      (fun _ _ h => ⟨h.1.1, h.1.2, h.2⟩) fun _ h => h.1
  unfold TaxConfigsService.publishRates
  rw [if_neg (by rw [hChanged]; exact Bool.false_ne_true)]
  have hRead : Meets (TaxConfigsService.writePayload ctx row.id (db.withCells row) dto) (· = db)
      (fun config db' => dto.Fits ctx db row ∧ Still row config.row ∧
        ∃ params rates, Unrecorded db row params rates db') (dto.StoppedAt ctx db row) :=
    (writePayload_unrecorded hRow).mono (fun _ h => h) (fun _ _ h => h) fun db' h =>
      ⟨fun hCompletes => h.1 hCompletes.payload, fun hFits => absurd hFits h.1, fun _ => h.2⟩
  refine hRead.bind fun config => Meets.given fun hFits => Meets.given fun _ => ?_
  rintro state ⟨params, rates, hUnrecorded⟩
  refine Meets.bind (createVersion_added hNumbered fun _ => rfl) (fun _ => ?_) state hUnrecorded
  refine markPublished_added.mono (fun _ h => h) (fun _ db' h => ?_) fun db' h => ?_
  · exact ⟨⟨hFits, h.1⟩, h.2⟩
  · exact h.2.stoppedAt hFits fun hCompletes => h.1 hCompletes.date

/-- What follows the rates: the row is read, the publication logged and the ward billed. -/
theorem publish_stoppedAt (hNumbered : Numbered db) (hDrawn : KeysDrawn db.ledger)
    (hIds : (ctx.base.reference.surveys.map Survey.id).Nodup) (hRow : row ∈ db.configs.rows)
    (hActive : row.status ≠ .archived)
    (hChanged : TaxConfigsService.ratesUnchanged ctx (db.withCells row) dto = false) :
    Ends (fun _ _ => dto.Completes ctx db row) (dto.StoppedAt ctx db row)
      (TaxConfigsService.publish ctx row.id dto actorId db) := by
  rw [TaxConfigsService.publish, Script.query_bind, configById?_eq_some hRow rfl]
  dsimp only
  rw [if_neg (show (db.withCells row).row.status ≠ .archived from hActive)]
  refine Meets.bind (publishRates_stoppedAt hNumbered hRow hChanged) (fun _ => ?_) db rfl
  refine Meets.given fun hSoFar => ?_
  intro state hAnnounced
  obtain ⟨c, hc, hPlace, -⟩ := hAnnounced.ready.config
  rw [Script.bind_of_ok (findUniqueOrThrow_ends hc hPlace.id)]
  have hLog (entry : AuditEntry) :
      Meets (Script.modify (TaxDb.log entry) : TaxScript Unit) (Announced dto ctx db row)
        (fun _ => Announced dto ctx db row) (dto.StoppedAt ctx db row) :=
    .modify fun _ h => ⟨h.added.ledger fun hKeys => ⟨hKeys.demands, hKeys.demandArrears,
      hKeys.yearEndRuns⟩, h.ready.config, h.ready.demands, h.ready.payments⟩
  have hBilled : Meets (TaxDb.publishForWard ctx row.wardId row.assessmentYearId actorId)
      (Announced dto ctx db row) (fun _ _ => dto.Completes ctx db row)
      (dto.StoppedAt ctx db row) := by
    refine (publishForWard_ends hIds hDrawn).mono (fun _ h => h) (fun _ _ h => ?_) fun db' h => ?_
    · exact ⟨hSoFar.1, hSoFar.2, h.1, h.2⟩
    · exact h.2.stoppedAt hSoFar.1 fun hCompletes => h.1 ⟨hCompletes.billable, hCompletes.bills⟩
  refine Meets.bind (hLog _) (fun _ => ?_) state hAnnounced
  refine Meets.seq (fun _ => dto.Completes ctx db row) ?_ fun _ => .pure fun _ h => h
  change Meets (TaxDb.publishForWard ctx c.wardId c.assessmentYearId actorId) _ _ _
  rw [hPlace.wardId, hPlace.assessmentYearId]
  exact hBilled

/-! ### A publication that changes no rate -/

/-- The row's config, its rates and the versions are as they were. -/
structure Untouched (db : TaxDb) (row : TaxConfigRow) (db' : TaxDb) : Prop where
  config : ∃ c ∈ db'.configs.rows, SamePlace row c ∧ c.inForce = row.inForce
  rates : db'.rates row.id = db.rates row.id
  versions : db'.versions = db.versions

theorem Untouched.start (hRow : row ∈ db.configs.rows) : Untouched db row db :=
  ⟨⟨row, hRow, .refl row, rfl⟩, rfl, rfl⟩

/-- An untouched configuration is as before. -/
theorem Untouched.keptAsBefore {db' : TaxDb} (h : Untouched db row db')
    (hRow : row ∈ db.configs.rows) : KeptAsBefore row.id db db' := by
  obtain ⟨c, hc, hPlace, hForce⟩ := h.config
  have hNow : db'.configs.find? row.id = some c := find?_eq_some_iff.mpr ⟨hc, hPlace.id⟩
  have hBefore : db.configs.find? row.id = some row := find?_eq_some_iff.mpr ⟨hRow, rfl⟩
  exact ⟨by rw [hNow, hBefore, Option.map_some, Option.map_some, hForce], h.rates, h.versions⟩

/-- A configuration with its own rates is untouched. -/
theorem Unrecorded.untouched {db' : TaxDb}
    (h : Unrecorded db row row.params (db.rates row.id) db') : Untouched db row db' := by
  obtain ⟨c, hc, hStill, hParams⟩ := h.config
  refine ⟨⟨c, hc, hStill.place, ?_⟩, h.rates, h.versions⟩
  rw [TaxConfigRow.inForce, hStill.status, hStill.version, hParams]
  rfl

/-- Publishing at the same version touches nothing. -/
theorem markPublished_untouched (hPublished : row.status = .published) :
    Preserves (TaxConfigsService.markPublished ctx row.id row.version dto actorId)
      (Untouched db row) := by
  refine markPublished_meets ?_ ?_ fun _ state h => h
  · intro state h
    obtain ⟨c, hc, hPlace, -⟩ := h.config
    exact ⟨c, hc, hPlace.id⟩
  · intro _ state configs c c' h hReplaced hId hPlace hForce
    obtain ⟨stored, hStored, hRow, hStoredForce⟩ := h.config
    obtain rfl : stored = c := eq_of_key hStored hReplaced.mem_old (hRow.id.trans hId.symm)
    refine ⟨⟨c', hReplaced.mem_new, hRow.trans hPlace, hForce.trans ?_⟩, h.rates, h.versions⟩
    have hParams : stored.params = row.params := congrArg (fun force => force.2.2) hStoredForce
    rw [TaxConfigRow.inForce, hPublished, hParams]

/-- Publishing unchanged rates touches nothing. -/
theorem publish_untouched (hRow : row ∈ db.configs.rows) (hActive : row.status ≠ .archived)
    (hUnchanged : TaxConfigsService.ratesUnchanged ctx (db.withCells row) dto = true) :
    Untouched db row ((TaxConfigsService.publish ctx row.id dto actorId).after db) := by
  have hPublished : row.status = .published := by
    simp only [TaxConfigsService.ratesUnchanged, Bool.and_eq_true, decide_eq_true_eq] at hUnchanged
    exact hUnchanged.1
  have hVersion : TaxConfigsService.orVersion row.version row.version = row.version := by
    simp [TaxConfigsService.orVersion]
  have hRates : Meets (TaxConfigsService.publishRates ctx row.id (db.withCells row) dto actorId)
      (· = db) (fun _ => Untouched db row) (Untouched db row) := by
    unfold TaxConfigsService.publishRates
    rw [if_pos hUnchanged]
    change Meets (TaxConfigsService.markPublished ctx row.id
      (TaxConfigsService.orVersion row.version row.version) dto actorId) _ _ _
    rw [hVersion]
    refine Meets.mono (markPublished_untouched hPublished) ?_ (fun _ _ h => h) fun _ h => h
    rintro _ rfl
    exact .start hRow
  refine Ends.after ?_
  rw [TaxConfigsService.publish, Script.query_bind, configById?_eq_some hRow rfl]
  dsimp only
  rw [if_neg (show (db.withCells row).row.status ≠ .archived from hActive)]
  refine Meets.bind hRates (fun _ => ?_) db rfl
  have hRead : Preserves (TaxConfigsService.findUniqueOrThrow row.id) (Untouched db row) := by
    intro state h
    obtain ⟨c, hc, hPlace, -⟩ := h.config
    rw [findUniqueOrThrow_ends hc hPlace.id]
    exact h
  have hLog (entry : AuditEntry) :
      Preserves (Script.modify (TaxDb.log entry) : TaxScript Unit) (Untouched db row) :=
    .modify fun _ h => ⟨h.config, h.rates, h.versions⟩
  have hDemands (wardId assessmentYearId : Id) :
      Preserves (TaxDb.publishForWard ctx wardId assessmentYearId actorId) (Untouched db row) := by
    intro state h
    unfold TaxDb.publishForWard
    dsimp only
    cases (PropertyTax.publishForWard (state.context ctx) wardId assessmentYearId actorId
      state.ledger).2 with
    | error error => exact ⟨h.config, h.rates, h.versions⟩
    | ok counts => exact ⟨h.config, h.rates, h.versions⟩
  exact hRead.bind fun _ => (hLog _).bind fun _ => (hDemands _ _).bind fun _ => .pure fun _ h => h

end Publish

/-! ### All or nothing -/

section Atomicity
variable {ctx : TaxContext} {db : TaxDb} {id : Id} {row : TaxConfigRow} {dto : PublishTaxConfig}
  {actorId : Option Id}

/-- A request that is turned down at once. -/
theorem publish_turnedDown (h : ∀ config, db.configById? id = some config →
    config.row.status = .archived) :
    (TaxConfigsService.publish ctx id dto actorId).after db = db := by
  unfold Script.after
  rw [TaxConfigsService.publish, Script.query_bind]
  cases hFound : db.configById? id with
  | none => rfl
  | some config =>
      dsimp only
      rw [if_pos (h config hFound)]
      rfl

/-- What an error leaves of a publication that changes rates. -/
theorem kept_of_stoppedAt {db' : TaxDb} (hRow : row ∈ db.configs.rows)
    (h : dto.StoppedAt ctx db row db') :
    KeptAsBefore row.id db db' ↔ dto.StopsAtOnce ctx db row := by
  by_cases hFits : dto.Fits ctx db row
  · have hNot := (h.added hFits).not_kept
    exact ⟨fun hKept => absurd hKept hNot, fun hStops => absurd hFits hStops.refused⟩
  · have hUnrecorded := h.refused hFits
    constructor
    · exact fun hKept => ⟨hFits, hUnrecorded.rates.symm.trans hKept.rates⟩
    · intro hStops
      rw [hStops.written] at hUnrecorded
      exact hUnrecorded.untouched.keptAsBefore hRow

/-- A publication that throws leaves the config as it was, exactly when it changes no
rate, or nothing in it fails, or the rates fail before one of them is changed. -/
theorem publish_kept_iff (hNumbered : Numbered db) (hDrawn : KeysDrawn db.ledger)
    (hIds : (ctx.base.reference.surveys.map Survey.id).Nodup) :
    ((TaxConfigsService.publish ctx id dto actorId db).2.isOk = false →
        KeptAsBefore id db (TaxConfigsService.publish ctx id dto actorId db).1) ↔
      ∀ row ∈ db.configs.rows, row.id = id → row.status ≠ .archived →
        TaxConfigsService.ratesUnchanged ctx (db.withCells row) dto = true ∨
          dto.Completes ctx db row ∨ dto.StopsAtOnce ctx db row := by
  constructor
  · rintro hKept row hRow rfl hActive
    cases hChanged : TaxConfigsService.ratesUnchanged ctx (db.withCells row) dto with
    | true => exact .inl rfl
    | false =>
        have hEnd : Ends (fun _ _ => dto.Completes ctx db row) (dto.StoppedAt ctx db row)
            (TaxConfigsService.publish ctx row.id dto actorId db) :=
          publish_stoppedAt hNumbered hDrawn hIds hRow hActive hChanged
        rcases hResult : TaxConfigsService.publish ctx row.id dto actorId db with
          ⟨db', error | done⟩
        · rw [hResult] at hEnd hKept
          exact .inr (.inr ((kept_of_stoppedAt hRow hEnd).mp (hKept rfl)))
        · rw [hResult] at hEnd
          exact .inr (.inl hEnd)
  · intro hWhen hThrown
    by_cases hActive : ∃ row ∈ db.configs.rows, row.id = id ∧ row.status ≠ .archived
    · obtain ⟨row, hRow, rfl, hActive⟩ := hActive
      cases hChanged : TaxConfigsService.ratesUnchanged ctx (db.withCells row) dto with
      | true => exact (publish_untouched hRow hActive hChanged).keptAsBefore hRow
      | false =>
          have hEnd : Ends (fun _ _ => dto.Completes ctx db row) (dto.StoppedAt ctx db row)
              (TaxConfigsService.publish ctx row.id dto actorId db) :=
            publish_stoppedAt hNumbered hDrawn hIds hRow hActive hChanged
          rcases hResult : TaxConfigsService.publish ctx row.id dto actorId db with
            ⟨db', error | done⟩
          · rw [hResult] at hEnd
            rcases hWhen row hRow rfl hActive with hSame | hCompletes | hStops
            · rw [hChanged] at hSame
              cases hSame
            · exact absurd hCompletes hEnd.incomplete
            · exact (kept_of_stoppedAt hRow hEnd).mpr hStops
          · rw [hResult] at hThrown
            cases hThrown
    · have hNothing := @publish_turnedDown ctx db id dto actorId fun config hFound => by
        obtain ⟨hRow, hId, -⟩ := configById?_some hFound
        by_contra hStatus
        exact hActive ⟨config.row, hRow, hId, hStatus⟩
      unfold Script.after at hNothing
      rw [hNothing]
      exact ⟨rfl, rfl, rfl⟩

end Atomicity

namespace Sample

/-- A draft of ward 5, with any entry for its year. -/
def opened (assessmentYearId : Id) : TaxDb :=
  (TaxConfigsService.getOrCreate twoWards 5 assessmentYearId none).after TaxDb.empty

theorem opened_numbered (assessmentYearId : Id) : Numbered (opened assessmentYearId) := by
  have hEmpty : Numbered TaxDb.empty :=
    ⟨fun _ hc => absurd hc List.not_mem_nil, fun _ hv => absurd hv List.not_mem_nil, fun _ _ => rfl⟩
  refine Ends.after ((getOrCreate_ends twoWards 5 assessmentYearId none TaxDb.empty).mono ?_ ?_)
  · rintro config db' (⟨rfl, -⟩ | ⟨-, hOpened, -⟩)
    · exact hEmpty
    · exact (onlyFor_opened hOpened).numbered hEmpty
  · rintro db' (rfl | ⟨-, hOpened⟩)
    · exact hEmpty
    · exact (onlyFor_opened hOpened).numbered hEmpty

/-- A request for a road that no entry stands for. -/
def unknownRoad : PublishTaxConfig := { cells := some [⟨99, 40, 1⟩] }

end Sample

/-- The rate of an unknown road is turned down before anything is written. -/
theorem publish_kept_iff_unknownRoad :
    (TaxConfigsService.publish Sample.twoWards 0 Sample.unknownRoad none
      (Sample.opened 20)).2.isOk = false ∧
    KeptAsBefore 0 (Sample.opened 20) (TaxConfigsService.publish Sample.twoWards 0
      Sample.unknownRoad none (Sample.opened 20)).1 := by
  have hThrows : (TaxConfigsService.publish Sample.twoWards 0 Sample.unknownRoad none
      (Sample.opened 20)).2.isOk = false := by decide +kernel
  have hDrawn : KeysDrawn (Sample.opened 20).ledger := by constructor <;> decide +kernel
  have hNone : (Sample.opened 20).rates 0 99 40 = none := by decide +kernel
  refine ⟨hThrows, (publish_kept_iff (Sample.opened_numbered 20) hDrawn (by decide)).mpr ?_ hThrows⟩
  rintro row hRow hId -
  have hRefused : ¬ AcceptsCell Sample.twoWards ((Sample.opened 20).rates row.id) ⟨99, 40, 1⟩ := by
    rintro ⟨-, hStored | ⟨hRoad, -⟩⟩
    · rw [hId] at hStored
      exact hStored hNone
    · exact hRoad rfl
  refine .inr (.inr ⟨fun hFits => ?_, if_neg hRefused⟩)
  exact hRefused ((hFits rfl).cells _ (List.mem_singleton_self _))

/-- A construction type is taken for a year, published, and turned down as a year after
that. -/
theorem publish_not_atomic :
    ¬ ∀ (ctx : TaxContext) (wardId assessmentYearId : Id) (dto : PublishTaxConfig) (db : TaxDb),
      (TaxConfigsService.getOrCreate ctx wardId assessmentYearId none).after TaxDb.empty = db →
        ∀ config ∈ db.configs.rows,
          (TaxConfigsService.publish ctx config.id dto none db).2.isOk = false →
            KeptAsBefore config.id db (TaxConfigsService.publish ctx config.id dto none db).1 := by
  intro h
  have hChanged : ∃ config ∈ (Sample.opened 40).configs.rows,
      (TaxConfigsService.publish Sample.twoWards config.id {} none
        (Sample.opened 40)).2.isOk = false ∧
      ((TaxConfigsService.publish Sample.twoWards config.id {} none
        (Sample.opened 40)).1.configs.find? config.id).map TaxConfigRow.inForce ≠
          ((Sample.opened 40).configs.find? config.id).map TaxConfigRow.inForce := by
    decide +kernel
  obtain ⟨config, hConfig, hThrows, hChanged⟩ := hChanged
  exact hChanged (h _ _ _ _ _ rfl config hConfig hThrows).config

end PropertyTax
