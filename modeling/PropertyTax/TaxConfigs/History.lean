import PropertyTax.Library.Runs
import PropertyTax.TaxConfigs.Writes

/-! The versions of a config. Publishing adds a version after the last; a copy
from a published config sets other configs to its version, and writes what they
had on record for that version again. -/
namespace PropertyTax
open KeyedTable Scripts Runs

/-! ### What most statements keep -/

/-- Only percentages and dates differ. -/
structure Still (c c' : TaxConfigRow) : Prop where
  place : SamePlace c c'
  status : c'.status = c.status
  version : c'.version = c.version

/-- The predicate is kept by writes of rates, of drafts and of the audit log. -/
structure TaxFrame (keeps : TaxDb → Prop) : Prop where
  cells {db : TaxDb} (cells : KeyedTable TaxRateCellRow) : keeps db → keeps { db with cells }
  ledger {db : TaxDb} {ledger : Db} : ledger.demands = db.ledger.demands →
    keeps db → keeps { db with ledger }
  config {db : TaxDb} {configs : KeyedTable TaxConfigRow} {c c' : TaxConfigRow} :
    Replaced db.configs configs c c' → Still c c' → keeps db → keeps { db with configs }
  draft {db : TaxDb} {configs : KeyedTable TaxConfigRow} {c : TaxConfigRow} :
    Added db.configs configs c → c.status = .draft → keeps db → keeps { db with configs }

namespace TaxFrame
variable {keeps keeps' : TaxDb → Prop} {ctx : TaxContext} {id wardId assessmentYearId : Id}
  {db db' : TaxDb}

theorem and (frame : TaxFrame keeps) (frame' : TaxFrame keeps') :
    TaxFrame fun db => keeps db ∧ keeps' db where
  cells cells h := ⟨frame.cells cells h.1, frame'.cells cells h.2⟩
  ledger hSame h := ⟨frame.ledger hSame h.1, frame'.ledger hSame h.2⟩
  config hReplaced hStill h :=
    ⟨frame.config hReplaced hStill h.1, frame'.config hReplaced hStill h.2⟩
  draft hAdded hDraft h := ⟨frame.draft hAdded hDraft h.1, frame'.draft hAdded hDraft h.2⟩

variable (frame : TaxFrame keeps)
include frame

/-- Writing rates keeps the condition. -/
theorem onlyRates (h : OnlyRates id db db') (hDb : keeps db) : keeps db' := by
  obtain ⟨ledger, configs, cells, versions, writtenVersions⟩ := db'
  obtain ⟨rfl, rfl, rfl, rfl, _⟩ := h
  exact frame.cells cells hDb

/-- Opening a configuration keeps the condition. -/
theorem opened (h : Opened ctx wardId assessmentYearId db db') (hDb : keeps db) : keeps db' := by
  obtain ⟨ledger, configs, cells, versions, writtenVersions⟩ := db'
  obtain ⟨hConfigs, rfl, rfl, _, hDemands, _⟩ := h
  have hDraft : keeps { db with configs, cells } := frame.cells cells (frame.draft hConfigs rfl hDb)
  refine frame.ledger ?_ hDraft
  exact hDemands

/-- Writing cells keeps the condition. -/
theorem writeCells (cells : List UpsertTaxCell) :
    Preserves (TaxConfigsService.writeCells ctx id cells) keeps := fun db hDb =>
  (writeCells_ends ctx id cells db).mono (fun _ _ h => frame.onlyRates h.2.1 hDb)
    fun _ h => frame.onlyRates h.2.1 hDb

/-- A statement that writes percentages or dates. -/
theorem updateStill {statement : TaxDb → Except TaxError (TaxDb × Unit)}
    (hData : ∀ db db', statement db = .ok (db', ()) → ∃ c c' configs,
      Replaced db.configs configs c c' ∧ Still c c' ∧ db' = { db with configs }) :
    Preserves (Script.execute statement) keeps := by
  refine .execute ?_ fun _ _ hDb _ => hDb
  rintro db db' ⟨⟩ hDb hOk
  obtain ⟨c, c', configs, hReplaced, hStill, rfl⟩ := hData db db' hOk
  exact frame.config hReplaced hStill hDb

/-- Writing percentages keeps the condition. -/
theorem writeParams (params : RateParams ℚ) :
    Preserves (TaxConfigsService.writeParams ctx id params) keeps := by
  refine frame.updateStill fun db db' hOk => ?_
  obtain ⟨columns, _, hUpdate⟩ := bind_ok hOk
  obtain ⟨c, configs, _, hReplaced, rfl⟩ := TaxDb.updateConfig_ok hUpdate fun _ => rfl
  exact ⟨c, _, configs, hReplaced, ⟨⟨rfl, rfl, rfl⟩, rfl, rfl⟩, rfl⟩

/-- Logging keeps the condition. -/
theorem log (entry : AuditEntry) :
    Preserves (Script.modify (TaxDb.log entry) : TaxScript Unit) keeps :=
  .modify fun _ hDb => frame.ledger rfl hDb

omit frame in
/-- Reading a configuration keeps the condition. -/
theorem findUniqueOrThrow : Preserves (TaxConfigsService.findUniqueOrThrow id) keeps := by
  intro db hDb
  unfold TaxConfigsService.findUniqueOrThrow
  cases db.configById? id with
  | none => exact hDb
  | some config => exact hDb

omit frame in
/-- Reading a draft keeps the condition. -/
theorem editableDraft (subject : String) :
    Preserves (TaxConfigsService.editableDraft id subject) keeps := by
  intro db hDb
  unfold TaxConfigsService.editableDraft
  cases db.configs.find? id with
  | none => exact hDb
  | some existing =>
      dsimp only
      cases existing.status with
      | archived => exact hDb
      | published => exact hDb
      | draft => exact hDb

/-- The config that is found or opened is stored, in its ward and year. -/
theorem getOrCreate (actorId : Option Id) :
    Meets (TaxConfigsService.getOrCreate ctx wardId assessmentYearId actorId) keeps
      (fun config db => config.row ∈ db.configs.rows ∧ config.row.wardId = wardId ∧
        config.row.assessmentYearId = assessmentYearId ∧ keeps db) keeps := by
  intro db hDb
  refine (getOrCreate_ends ctx wardId assessmentYearId actorId db).mono ?_ ?_
  · rintro config db' (⟨rfl, hFound⟩ | ⟨_, hOpened, rfl, _⟩)
    · obtain ⟨hMem, hWard, hYear, _⟩ := configFor?_some hFound
      exact ⟨hMem, hWard, hYear, hDb⟩
    · exact ⟨hOpened.configs.mem_row, rfl, rfl, frame.opened hOpened hDb⟩
  · rintro db' (rfl | ⟨_, hOpened⟩)
    · exact hDb
    · exact frame.opened hOpened hDb

theorem getOrCreate_keeps (actorId : Option Id) :
    Preserves (TaxConfigsService.getOrCreate ctx wardId assessmentYearId actorId) keeps :=
  (frame.getOrCreate actorId).mono (fun _ h => h) (fun _ _ h => h.2.2.2) fun _ h => h

/-- Editing the percentages of a draft keeps the condition. -/
theorem updateParams (dto : UpdateTaxConfigParams) (actorId : Option Id) :
    Preserves (TaxConfigsService.updateParams ctx id dto actorId) keeps := by
  refine Preserves.bind (editableDraft _) fun existing => Preserves.bind ?_ fun _ =>
    Preserves.bind findUniqueOrThrow fun _ => Preserves.bind (frame.log _) fun _ => .pure fun _ h => h
  refine frame.updateStill fun db db' hOk => ?_
  obtain ⟨columns, _, hUpdate⟩ := bind_ok hOk
  obtain ⟨c, configs, _, hReplaced, rfl⟩ := TaxDb.updateConfig_ok hUpdate fun _ => rfl
  exact ⟨c, _, configs, hReplaced, ⟨⟨rfl, rfl, rfl⟩, rfl, rfl⟩, rfl⟩

/-- Editing the cells of a draft keeps the condition. -/
theorem upsertCells (cells : List UpsertTaxCell) (actorId : Option Id) :
    Preserves (TaxConfigsService.upsertCells ctx id cells actorId) keeps :=
  Preserves.bind (editableDraft _) fun _ => Preserves.bind (frame.writeCells cells) fun _ =>
    Preserves.bind (frame.log _) fun _ => findUniqueOrThrow

end TaxFrame

/-! ### Publishing -/

/-- There is a row for the version. -/
def TaxDb.HasVersion (db : TaxDb) (taxConfigId : Id) (version : Nat) : Prop :=
  ∃ v ∈ db.versions.rows, v.taxConfigId = taxConfigId ∧ v.version = version

/-- The stored config with this id is as it was read. -/
def TaxDb.Holds (db : TaxDb) (row : TaxConfigRow) : Prop :=
  ∃ c ∈ db.configs.rows, Still row c

theorem Still.trans {c c' c'' : TaxConfigRow} (h : Still c c') (h' : Still c' c'') : Still c c'' :=
  ⟨h.place.trans h'.place, h'.status.trans h.status, h'.version.trans h.version⟩

/-- A relation to a stored row survives the rewriting of a row, if it survives
the change of that row. -/
theorem exists_replaced {P : TaxConfigRow → Prop} {configs configs' : KeyedTable TaxConfigRow}
    {c c' : TaxConfigRow} (hReplaced : Replaced configs configs' c c') (hNew : P c → P c')
    (h : ∃ r ∈ configs.rows, P r) : ∃ r ∈ configs'.rows, P r := by
  obtain ⟨r, hr, hP⟩ := h
  rcases hReplaced.exists_row hr with hKept | rfl
  · exact ⟨r, hKept, hP⟩
  · exact ⟨c', hReplaced.mem_new, hNew hP⟩

/-- The row that an update rewrites is the one that was read. -/
theorem TaxDb.Holds.still {db : TaxDb} {configs : KeyedTable TaxConfigRow}
    {row c c' : TaxConfigRow} (h : db.Holds row) (hReplaced : Replaced db.configs configs c c')
    (hId : c.id = row.id) : Still row c := by
  obtain ⟨stored, hMem, hStill⟩ := h
  obtain rfl : stored = c :=
    eq_of_key hMem hReplaced.mem_old (hStill.place.id.trans hId.symm)
  exact hStill

/-- Kept by a new version, too, and by the demands that are published. -/
structure RecordFrame (keeps : TaxDb → Prop) : Prop extends TaxFrame keeps where
  version {db : TaxDb} {versions : KeyedTable TaxConfigVersionRow} {v : TaxConfigVersionRow} :
    Added db.versions versions v → keeps db →
      keeps { db with versions, writtenVersions := v :: db.writtenVersions }
  demands {db : TaxDb} (ctx : TaxContext) (wardId assessmentYearId : Id) (actorId : Option Id) :
    keeps db → keeps (TaxDb.publishForWard ctx wardId assessmentYearId actorId db).1

theorem RecordFrame.and {keeps keeps' : TaxDb → Prop} (frame : RecordFrame keeps)
    (frame' : RecordFrame keeps') : RecordFrame fun db => keeps db ∧ keeps' db where
  toTaxFrame := frame.toTaxFrame.and frame'.toTaxFrame
  version hAdded h := ⟨frame.version hAdded h.1, frame'.version hAdded h.2⟩
  demands ctx wardId assessmentYearId actorId h :=
    ⟨frame.demands ctx wardId assessmentYearId actorId h.1,
      frame'.demands ctx wardId assessmentYearId actorId h.2⟩

theorem holds_frame (row : TaxConfigRow) : RecordFrame fun db => db.Holds row where
  cells _ h := h
  ledger _ h := h
  config hReplaced hStill h := exists_replaced hReplaced (fun hRow => hRow.trans hStill) h
  draft hAdded _ h := by
    obtain ⟨c, hc, hStill⟩ := h
    exact ⟨c, hAdded.mem_of_mem hc, hStill⟩
  version _ h := h
  demands _ _ _ _ h := h

/-- A config that was read stays as it was read. -/
theorem RecordFrame.holding {keeps : TaxDb → Prop} (frame : RecordFrame keeps)
    (row : TaxConfigRow) : RecordFrame fun db => keeps db ∧ db.Holds row :=
  frame.and (holds_frame row)

/-- Kept by publishing: a config is published at a version on record that is no
lower than the one it had. -/
structure PublishFrame (keeps : TaxDb → Prop) : Prop extends RecordFrame keeps where
  raised {db : TaxDb} {configs : KeyedTable TaxConfigRow} {c c' : TaxConfigRow} :
    Replaced db.configs configs c c' → SamePlace c c' → c.version ≤ c'.version →
      db.HasVersion c'.id c'.version → keeps db → keeps { db with configs }
  onRecord {db : TaxDb} : keeps db → ∀ c ∈ db.configs.rows, c.status = .published →
    db.HasVersion c.id c.version

/-- Kept by a copy at a version: what is on record for the version is written
again, and configs of the year are published at it. -/
structure StampFrame (assessmentYearId : Id) (n : Nat) (keeps : TaxDb → Prop) : Prop
    extends RecordFrame keeps where
  rewritten {db : TaxDb} {versions : KeyedTable TaxConfigVersionRow} {v v' : TaxConfigVersionRow} :
    Replaced db.versions versions v v' → v'.taxConfigId = v.taxConfigId → v'.version = v.version →
      v.version = n →
      (∃ c ∈ db.configs.rows, c.id = v.taxConfigId ∧ c.assessmentYearId = assessmentYearId) →
      keeps db → keeps { db with versions, writtenVersions := v' :: db.writtenVersions }
  stamped {db : TaxDb} {configs : KeyedTable TaxConfigRow} {c c' : TaxConfigRow} :
    Replaced db.configs configs c c' → SamePlace c c' → c.assessmentYearId = assessmentYearId →
      c'.status = .published → c'.version = n → db.HasVersion c'.id n → keeps db →
      keeps { db with configs }

/-- The version does not go back. -/
theorem le_orVersion (version step : Nat) :
    version ≤ TaxConfigsService.orVersion (version + step) version := by
  unfold TaxConfigsService.orVersion
  split_ifs <;> omega

section Record
variable {keeps : TaxDb → Prop} {ctx : TaxContext} (frame : RecordFrame keeps)
include frame

theorem createVersion_keeps {id : Id} {n : Nat} {row : Id → TaxConfigVersionRow}
    (hRow : ∀ i, (row i).taxConfigId = id ∧ (row i).version = n) :
    Meets (Script.execute (TaxDb.createVersion row)) keeps
      (fun _ db => keeps db ∧ db.HasVersion id n) keeps := by
  refine .execute ?_ fun _ _ hDb _ => hDb
  rintro db db' ⟨⟩ hDb hOk
  obtain ⟨versions, hAdded, rfl⟩ := TaxDb.createVersion_ok hOk
  refine ⟨?_, _, hAdded.mem_row, hRow _⟩
  have hVersion := frame.version hAdded hDb
  refine frame.ledger ?_ hVersion
  rfl

/-- So it does while the configuration is held. -/
theorem createVersion_holding {found : TaxConfigRow} {id : Id} {n : Nat}
    {row : Id → TaxConfigVersionRow} (hRow : ∀ i, (row i).taxConfigId = id ∧ (row i).version = n) :
    Meets (Script.execute (TaxDb.createVersion row)) (fun db => keeps db ∧ db.Holds found)
      (fun _ db => (keeps db ∧ db.Holds found) ∧ db.HasVersion id n) keeps :=
  (createVersion_keeps (frame.holding found) hRow).mono (fun _ h => h) (fun _ _ h => h)
    fun _ h => h.1

theorem publishForWard_keeps {wardId assessmentYearId : Id} {actorId : Option Id} :
    Preserves (TaxDb.publishForWard ctx wardId assessmentYearId actorId) keeps := by
  intro db hDb
  have hPublished := frame.demands ctx wardId assessmentYearId actorId hDb
  rcases hResult : TaxDb.publishForWard ctx wardId assessmentYearId actorId db with
    ⟨after, _ | counts⟩
  · rw [hResult] at hPublished
    exact hPublished
  · rw [hResult] at hPublished
    exact hPublished

end Record

section Publish
variable {keeps : TaxDb → Prop} {ctx : TaxContext} {id : Id} (frame : PublishFrame keeps)
include frame

/-- An update that raises the version of a config to one on record. -/
theorem updateConfig_keeps (ctx : TaxContext) {found : TaxConfigRow} {n : Nat}
    (hLe : found.version ≤ n) {statement : TaxDb → Except TaxError (TaxDb × Unit)}
    (hStatement : ∀ db db', statement db = .ok (db', ()) → ∃ data : TaxConfigRow → TaxConfigRow,
      (∀ c, SamePlace c (data c) ∧ (data c).version = n) ∧
        db.updateConfig ctx found.id data = .ok (db', ())) :
    Meets (Script.execute statement)
      (fun db => (keeps db ∧ db.Holds found) ∧ db.HasVersion found.id n) (fun _ => keeps)
      keeps := by
  refine .execute ?_ fun _ _ hDb _ => hDb.1.1
  rintro db db' ⟨⟩ ⟨⟨hDb, hHolds⟩, hRecord⟩ hOk
  obtain ⟨data, hData, hUpdate⟩ := hStatement db db' hOk
  obtain ⟨c, configs, hId, hReplaced, rfl⟩ :=
    TaxDb.updateConfig_ok hUpdate fun c => (hData c).1.id
  obtain ⟨hPlace, hVersion⟩ := hData c
  have hStill := hHolds.still hReplaced hId
  refine frame.raised hReplaced ⟨hPlace.id, hPlace.wardId, hPlace.assessmentYearId⟩ ?_ ?_ hDb
  · change c.version ≤ (data c).version
    rw [hVersion, hStill.version]
    exact hLe
  · change db.HasVersion (data c).id (data c).version
    rw [hVersion, hPlace.id, hId]
    exact hRecord

theorem markPublished_keeps {found : TaxConfigRow} {n : Nat} {dto : PublishTaxConfig}
    {actorId : Option Id} (hLe : found.version ≤ n) :
    Meets (TaxConfigsService.markPublished ctx found.id n dto actorId)
      (fun db => (keeps db ∧ db.Holds found) ∧ db.HasVersion found.id n) (fun _ => keeps)
      keeps := by
  refine updateConfig_keeps frame ctx hLe fun db db' hOk => ?_
  obtain ⟨effectiveFrom, _, hUpdate⟩ := bind_ok hOk
  refine ⟨_, ?_, hUpdate⟩
  exact fun c => ⟨⟨rfl, rfl, rfl⟩, rfl⟩

/-- What is read back after the rates were written. -/
theorem writeRates_keeps {found : TaxConfigRow} {cells : List UpsertTaxCell}
    {params : RateParams ℚ} :
    Meets (TaxConfigsService.writeRates ctx found.id cells params)
      (fun db => keeps db ∧ db.Holds found)
      (fun config db => Still found config.row ∧ keeps db ∧ db.Holds found)
      (fun db => keeps db ∧ db.Holds found) := by
  have hBoth := frame.toRecordFrame.holding found
  refine Meets.bind (hBoth.writeCells cells) fun _ => Meets.bind (hBoth.writeParams params)
    fun _ => ?_
  rintro db ⟨hDb, c, hc, hStill⟩
  rw [findUniqueOrThrow_ends hc hStill.place.id]
  exact ⟨hStill, hDb, c, hc, hStill⟩

theorem writePayload_keeps {found : TaxConfigWithCells} {dto : PublishTaxConfig} :
    Meets (TaxConfigsService.writePayload ctx found.row.id found dto)
      (fun db => keeps db ∧ db.Holds found.row)
      (fun config db => Still found.row config.row ∧ keeps db ∧ db.Holds found.row)
      (fun db => keeps db ∧ db.Holds found.row) := by
  unfold TaxConfigsService.writePayload
  split_ifs
  · exact writeRates_keeps frame
  · exact .pure fun db h => ⟨⟨.refl _, rfl, rfl⟩, h⟩

/-- A version is put on record, and the config is published at it. -/
theorem publishRates_keeps {found : TaxConfigWithCells} {dto : PublishTaxConfig}
    {actorId : Option Id} :
    Meets (TaxConfigsService.publishRates ctx found.row.id found dto actorId)
      (fun db => keeps db ∧ found.row ∈ db.configs.rows) (fun _ => keeps) keeps := by
  have hHolds : ∀ db : TaxDb, keeps db ∧ found.row ∈ db.configs.rows →
      keeps db ∧ db.Holds found.row :=
    fun db h => ⟨h.1, found.row, h.2, ⟨.refl _, rfl, rfl⟩⟩
  have hBroken : ∀ db : TaxDb, keeps db ∧ db.Holds found.row → keeps db := fun _ h => h.1
  unfold TaxConfigsService.publishRates
  dsimp only
  by_cases hUnchanged : TaxConfigsService.ratesUnchanged ctx found dto = true
  · rw [if_pos hUnchanged]
    have hPublished : found.row.status = .published := by
      simp only [TaxConfigsService.ratesUnchanged, Bool.and_eq_true, decide_eq_true_eq]
        at hUnchanged
      exact hUnchanged.1
    have hSame : TaxConfigsService.orVersion found.row.version found.row.version =
        found.row.version := by simp [TaxConfigsService.orVersion]
    rw [hSame]
    refine (markPublished_keeps frame le_rfl).mono (fun db h => ?_) (fun _ _ h => h) fun _ h => h
    exact ⟨hHolds db h, frame.onRecord h.1 _ h.2 hPublished⟩
  · rw [if_neg hUnchanged]
    refine Meets.bind ((writePayload_keeps frame).mono hHolds (fun _ _ h => h) hBroken)
      fun config => Meets.given fun hStill => ?_
    refine Meets.bind (createVersion_holding frame.toRecordFrame ?_) fun _ =>
      markPublished_keeps frame ?_
    · exact fun _ => ⟨rfl, rfl⟩
    · rw [hStill.version]
      exact le_orVersion _ _

theorem publish_keeps (dto : PublishTaxConfig) (actorId : Option Id) :
    Preserves (TaxConfigsService.publish ctx id dto actorId) keeps := by
  intro db hDb
  rw [TaxConfigsService.publish, Script.query_bind]
  cases hFound : db.configById? id with
  | none => exact hDb
  | some config =>
      obtain ⟨hMem, rfl, _⟩ := configById?_some hFound
      dsimp only
      split_ifs
      · exact hDb
      · refine (Meets.bind (publishRates_keeps frame) fun _ => ?_) db ⟨hDb, hMem⟩
        exact Preserves.bind TaxFrame.findUniqueOrThrow fun _ => Preserves.bind (frame.log _) fun _ =>
          Preserves.bind (publishForWard_keeps frame.toRecordFrame) fun _ => .pure fun _ h => h

/-! ### Copying a draft -/

theorem appendVersion_keeps {row : TaxConfigRow} {snapshot : RateSnapshot} {actorId : Option Id} :
    Meets (TaxConfigsService.appendVersion ctx row snapshot actorId)
      (fun db => keeps db ∧ (row.status = .published → db.Holds row)) (fun _ => keeps) keeps := by
  unfold TaxConfigsService.appendVersion
  split_ifs with hPublished
  · have hRead : ∀ db : TaxDb, keeps db ∧ (row.status = .published → db.Holds row) →
        keeps db ∧ db.Holds row := fun _ h => ⟨h.1, h.2 hPublished⟩
    refine Meets.mono ?_ hRead (fun _ _ h => h) fun _ h => h
    refine Meets.bind (createVersion_holding frame.toRecordFrame ?_) fun _ =>
      updateConfig_keeps frame ctx (Nat.le_add_right _ 1) fun db db' hOk => ?_
    · exact fun _ => ⟨rfl, rfl⟩
    · refine ⟨_, ?_, hOk⟩
      exact fun c => ⟨⟨rfl, rfl, rfl⟩, rfl⟩
  · exact .pure fun _ h => h.1

theorem applyRatesToConfig_keeps {config : TaxConfigWithCells} {cells : List UpsertTaxCell}
    {params : RateParams ℚ} {actorId : Option Id} :
    Meets (TaxConfigsService.applyRatesToConfig ctx config cells params actorId)
      (fun db => keeps db ∧ (config.row.status = .published → db.Holds config.row))
      (fun _ => keeps) keeps := by
  have hBroken : ∀ db : TaxDb, keeps db ∧ (config.row.status = .published →
      db.Holds config.row) → keeps db := fun _ h => h.1
  have hBoth : TaxFrame fun db => keeps db ∧ (config.row.status = .published →
      db.Holds config.row) := by
    by_cases hPublished : config.row.status = .published
    · simpa only [hPublished, forall_const] using (frame.toRecordFrame.holding config.row).toTaxFrame
    · simpa only [hPublished, IsEmpty.forall_iff, and_true] using frame.toTaxFrame
  unfold TaxConfigsService.applyRatesToConfig
  split_ifs
  · exact .fail hBroken
  · refine Meets.bind ((hBoth.writeCells cells).mono (fun _ h => h) (fun _ _ h => h) hBroken)
      fun _ => ?_
    refine Meets.bind ((hBoth.writeParams params).mono (fun _ h => h) (fun _ _ h => h) hBroken)
      fun _ => ?_
    exact Meets.bind (appendVersion_keeps frame) fun _ => frame.log _

theorem copyDraft_keeps {dto : CopyTaxToWards} {source config : TaxConfigWithCells}
    {actorId : Option Id} :
    Meets (TaxConfigsService.copyDraft ctx dto actorId source config)
      (fun db => keeps db ∧ (config.row.status = .published → db.Holds config.row))
      (fun _ => keeps) keeps :=
  Meets.bind (applyRatesToConfig_keeps frame) fun _ => .pure fun _ h => h

end Publish

/-! ### Copying from a published config -/

section Stamp
variable {keeps : TaxDb → Prop} {ctx : TaxContext} {source : TaxConfigRow}

/-- Publishing a config at the version of the source leaves the source as it was
read, should it be the source itself. -/
theorem holds_stamp (hPublished : source.status = .published) :
    StampFrame source.assessmentYearId source.version fun db => db.Holds source where
  toRecordFrame := holds_frame source
  rewritten _ _ _ _ _ h := h
  stamped hReplaced hPlace _ hStatus hVersion _ h :=
    exists_replaced hReplaced (fun hRow => ⟨hRow.place.trans hPlace,
      hStatus.trans hPublished.symm, hVersion⟩) h

theorem StampFrame.and {keeps' : TaxDb → Prop} {assessmentYearId : Id} {n : Nat}
    (frame : StampFrame assessmentYearId n keeps) (frame' : StampFrame assessmentYearId n keeps') :
    StampFrame assessmentYearId n fun db => keeps db ∧ keeps' db where
  toRecordFrame := frame.toRecordFrame.and frame'.toRecordFrame
  rewritten hReplaced hOwner hVersion hOld hConfig h :=
    ⟨frame.rewritten hReplaced hOwner hVersion hOld hConfig h.1,
      frame'.rewritten hReplaced hOwner hVersion hOld hConfig h.2⟩
  stamped hReplaced hPlace hYear hStatus hVersion hRecord h :=
    ⟨frame.stamped hReplaced hPlace hYear hStatus hVersion hRecord h.1,
      frame'.stamped hReplaced hPlace hYear hStatus hVersion hRecord h.2⟩

variable {assessmentYearId : Id} {n : Nat} (frame : StampFrame assessmentYearId n keeps)
include frame

theorem writeVersion_keeps {config : TaxConfigRow} {snapshot : RateSnapshot}
    {actorId : Option Id} (hYear : config.assessmentYearId = assessmentYearId) :
    Meets (TaxConfigsService.writeVersion config.id n snapshot actorId)
      (fun db => keeps db ∧ db.Holds config)
      (fun _ db => (keeps db ∧ db.Holds config) ∧ db.HasVersion config.id n) keeps := by
  have hRead : Meets (Script.query fun (db : TaxDb) => db.versions.findFirst? fun v =>
        v.taxConfigId = config.id ∧ v.version = n : TaxScript _)
      (fun db => keeps db ∧ db.Holds config)
      (fun existingVersion db => (keeps db ∧ db.Holds config) ∧ ∀ v, existingVersion = some v →
        v ∈ db.versions.rows ∧ v.taxConfigId = config.id ∧ v.version = n) keeps := by
    refine .query fun db hDb => ⟨hDb, fun v hFound => ⟨List.mem_of_find?_eq_some hFound, ?_⟩⟩
    simpa using List.find?_some hFound
  refine hRead.bind fun existingVersion => ?_
  cases existingVersion with
  | none =>
      refine Meets.mono (createVersion_holding frame.toRecordFrame ?_) (fun _ h => h.1)
        (fun _ _ h => h) fun _ h => h
      exact fun _ => ⟨rfl, rfl⟩
  | some existing =>
      refine .execute ?_ fun _ _ hDb _ => hDb.1.1
      rintro db db' ⟨⟩ ⟨⟨hDb, hHolds⟩, hExisting⟩ hOk
      obtain ⟨hMem, hOwner, hVersion⟩ := hExisting existing rfl
      obtain ⟨v, versions, hId, hReplaced, rfl⟩ := TaxDb.updateVersion_ok hOk fun _ => rfl
      obtain rfl : existing = v := eq_of_key hMem hReplaced.mem_old hId.symm
      obtain ⟨c, hc, hStill⟩ := hHolds
      have hConfig : ∃ c ∈ db.configs.rows, c.id = existing.taxConfigId ∧
          c.assessmentYearId = assessmentYearId :=
        ⟨c, hc, hStill.place.id.trans hOwner.symm, hStill.place.assessmentYearId.trans hYear⟩
      have hKept := frame.rewritten hReplaced rfl rfl hVersion hConfig hDb
      exact ⟨⟨hKept, c, hc, hStill⟩, _, hReplaced.mem_new, hOwner, hVersion⟩

theorem applyPublishedRatesAtVersion_keeps {config : TaxConfigWithCells}
    {cells : List UpsertTaxCell} {params : RateParams ℚ} {actorId : Option Id}
    (hYear : config.row.assessmentYearId = assessmentYearId) :
    Meets (TaxConfigsService.applyPublishedRatesAtVersion ctx config cells params n actorId)
      (fun db => keeps db ∧ db.Holds config.row) (fun _ => keeps) keeps := by
  have hBroken : ∀ db : TaxDb, keeps db ∧ db.Holds config.row → keeps db := fun _ h => h.1
  have hBoth := frame.toRecordFrame.holding config.row
  unfold TaxConfigsService.applyPublishedRatesAtVersion
  split_ifs
  · exact .fail hBroken
  · refine Meets.bind ((hBoth.writeCells cells).mono (fun _ h => h) (fun _ _ h => h) hBroken)
      fun _ => ?_
    refine Meets.bind ((hBoth.writeParams params).mono (fun _ h => h) (fun _ _ h => h) hBroken)
      fun _ => ?_
    refine Meets.bind (writeVersion_keeps frame hYear) fun _ => ?_
    refine Meets.bind (.execute ?_ fun _ _ hDb _ => hDb.1.1) fun _ => frame.log _
    rintro db db' ⟨⟩ ⟨⟨hDb, hHolds⟩, hRecord⟩ hOk
    obtain ⟨c, configs, hId, hReplaced, rfl⟩ := TaxDb.updateConfig_ok hOk fun _ => rfl
    have hStill := hHolds.still hReplaced hId
    refine frame.stamped hReplaced ⟨rfl, rfl, rfl⟩ ?_ rfl rfl ?_ hDb
    · rw [hStill.place.assessmentYearId, hYear]
    · change db.HasVersion c.id n
      rwa [hId]

theorem copyPublished_keeps {dto : CopyTaxToWards} {found config : TaxConfigWithCells}
    {actorId : Option Id} (hVersion : found.row.version = n)
    (hYear : config.row.assessmentYearId = assessmentYearId) :
    Meets (TaxConfigsService.copyPublished ctx dto actorId found config)
      (fun db => keeps db ∧ db.Holds config.row) (fun _ => keeps) keeps := by
  unfold TaxConfigsService.copyPublished
  rw [hVersion]
  exact Meets.bind (applyPublishedRatesAtVersion_keeps frame hYear) fun _ =>
    publishForWard_keeps frame.toRecordFrame

end Stamp

/-! ### The loop over the wards -/

section Copy
variable {keeps : TaxDb → Prop} {ctx : TaxContext} {dto : CopyTaxToWards} {actorId : Option Id}
  {source : TaxConfigWithCells}

/-- A ward is copied to, where the config that it has is `known` after it was
fetched. -/
theorem copyToWard_keeps (known : TaxConfigWithCells → TaxDb → Prop) {ward : Ward}
    (hTarget : Meets (TaxConfigsService.copyTarget ctx dto actorId source ward) keeps
      (fun config db => keeps db ∧ known config db) keeps)
    (hCopy : ∀ config, Meets ((if source.row.status = .published then
        TaxConfigsService.copyPublished else TaxConfigsService.copyDraft) ctx dto actorId source
          config) (fun db => keeps db ∧ known config db) (fun _ => keeps) keeps)
    (counts : CopyCounts) :
    Preserves (TaxConfigsService.copyToWard ctx dto actorId source counts ward) keeps := by
  refine Meets.bind hTarget fun config => ?_
  dsimp only
  by_cases hArchived : config.row.status = .archived
  · rw [if_pos hArchived]
    exact .pure fun _ h => h.1
  · rw [if_neg hArchived]
    exact Meets.bind (hCopy config) fun _ => .pure fun _ h => h

theorem copyFromDraft_keeps (frame : PublishFrame keeps)
    (hDraft : source.row.status ≠ .published) (counts : CopyCounts) (ward : Ward) :
    Preserves (TaxConfigsService.copyToWard ctx dto actorId source counts ward) keeps := by
  refine copyToWard_keeps (fun config db => config.row.status = .published → db.Holds config.row)
    ?_ (fun config => ?_) counts
  · unfold TaxConfigsService.copyTarget
    split_ifs
    · exact .pure fun db hDb => ⟨hDb, fun hPublished => absurd hPublished hDraft⟩
    · refine (frame.getOrCreate actorId).mono (fun _ h => h) (fun config db h => ?_) fun _ h => h
      exact ⟨h.2.2.2, fun _ => ⟨config.row, h.1, .refl _, rfl, rfl⟩⟩
  · rw [if_neg hDraft]
    exact copyDraft_keeps frame

theorem copyFromPublished_keeps {n : Nat} (frame : StampFrame dto.assessmentYearId n keeps)
    (hPublished : source.row.status = .published) (hVersion : source.row.version = n)
    (hYear : source.row.assessmentYearId = dto.assessmentYearId) (counts : CopyCounts)
    (ward : Ward) :
    Preserves (TaxConfigsService.copyToWard ctx dto actorId source counts ward)
      (fun db => keeps db ∧ db.Holds source.row) := by
  have hHolds := holds_stamp hPublished
  rw [hYear, hVersion] at hHolds
  have hBoth := frame.and hHolds
  refine copyToWard_keeps (fun config db =>
    config.row.assessmentYearId = dto.assessmentYearId ∧ db.Holds config.row) ?_ (fun config => ?_)
    counts
  · unfold TaxConfigsService.copyTarget
    split_ifs
    · exact .pure fun db hDb => ⟨hDb, hYear, hDb.2⟩
    · refine (hBoth.toTaxFrame.getOrCreate actorId).mono (fun _ h => h) (fun config db h => ?_)
        fun _ h => h
      exact ⟨h.2.2.2, h.2.2.1, config.row, h.1, .refl _, rfl, rfl⟩
  · rw [if_pos hPublished]
    intro db ⟨hDb, hConfig, hStill⟩
    exact copyPublished_keeps hBoth hVersion hConfig db ⟨hDb, hStill⟩

/-- A copy publishes at most, if its source is not published. -/
theorem copyToAllWards_keeps {db : TaxDb} (frame : PublishFrame keeps)
    (hDraft : ∀ c ∈ db.configs.rows, c.wardId = dto.sourceWardId →
      c.assessmentYearId = dto.assessmentYearId → c.status ≠ .published) (hDb : keeps db) :
    keeps ((TaxConfigsService.copyToAllWards ctx dto actorId).after db) := by
  have hSource : Meets (TaxConfigsService.getOrCreate ctx dto.sourceWardId dto.assessmentYearId
      actorId) (· = db) (fun source db' => source.row.status ≠ .published ∧ keeps db') keeps := by
    rintro state rfl
    refine (getOrCreate_ends ctx _ _ actorId state).mono ?_ ?_
    · rintro source db' (⟨rfl, hFound⟩ | ⟨_, hOpened, rfl, _⟩)
      · obtain ⟨hMem, hWard, hYear, _⟩ := configFor?_some hFound
        exact ⟨hDraft _ hMem hWard hYear, hDb⟩
      · exact ⟨nofun, frame.opened hOpened hDb⟩
    · rintro db' (rfl | ⟨_, hOpened⟩)
      · exact hDb
      · exact frame.opened hOpened hDb
  refine Ends.after (Meets.bind hSource (fun source => Meets.given fun hStatus => ?_) db rfl)
  refine Preserves.bind (Preserves.foldlM fun ward counts => ?_) fun _ => .pure fun _ h => h
  exact copyFromDraft_keeps frame hStatus counts ward

/-- A copy from a published config stamps the version of that config. -/
theorem copyToAllWards_stamps {db : TaxDb} {c : TaxConfigRow} (hMem : c ∈ db.configs.rows)
    (hWard : c.wardId = dto.sourceWardId) (hYear : c.assessmentYearId = dto.assessmentYearId)
    (hPublished : c.status = .published) (frame : StampFrame dto.assessmentYearId c.version keeps)
    (hDb : keeps db) : keeps ((TaxConfigsService.copyToAllWards ctx dto actorId).after db) := by
  have hSource : Meets (TaxConfigsService.getOrCreate ctx dto.sourceWardId dto.assessmentYearId
      actorId) (· = db) (fun source db' => source.row = c ∧ keeps db' ∧ db'.Holds c) keeps := by
    rintro state rfl
    refine (getOrCreate_ends ctx _ _ actorId state).mono ?_ ?_
    · rintro source db' (⟨rfl, hFound⟩ | ⟨hNone, _⟩)
      · rw [configFor?_eq_some hMem hWard hYear] at hFound
        cases hFound
        exact ⟨rfl, hDb, c, hMem, .refl _, rfl, rfl⟩
      · exact absurd ⟨hWard, hYear⟩ (configFor?_none hNone hMem)
    · rintro db' (rfl | ⟨_, hOpened⟩)
      · exact hDb
      · exact frame.opened hOpened hDb
  refine Ends.after (Meets.bind hSource (fun source => Meets.given ?_) db rfl)
  rintro rfl
  refine Meets.mono (Preserves.bind (Preserves.foldlM fun ward counts => ?_) fun _ => .pure fun _ h => h)
    (fun _ h => h) (fun _ _ h => h.1) fun _ h => h.1
  exact copyFromPublished_keeps frame hPublished rfl hYear counts ward

end Copy
end PropertyTax
