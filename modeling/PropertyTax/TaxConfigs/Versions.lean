import PropertyTax.Ledger.Operation
import PropertyTax.TaxConfigs.History

/-! The record of published rates. A row of it is never deleted, and rewritten
by a copy from a published config of its year alone, so that what was last written
for a version can be looked up. -/
namespace PropertyTax
open KeyedTable Scripts Runs

/-! ### Versions on record -/

/-- There are rates on record for what is published, and for what demands refer
to. -/
structure VersionsOnRecord (db : TaxDb) : Prop where
  configs : ∀ c ∈ db.configs.rows, c.status = .published → db.HasVersion c.id c.version
  demands : ∀ d ∈ db.ledger.demands.rows, ∀ snapshot ∈ d.snapshot,
    db.HasVersion snapshot.taxConfigId snapshot.taxConfigVersion

section
variable {ctx : TaxContext} {db : TaxDb} {id : Id} {n : Nat}

/-- A version on record stays when one is added. -/
theorem TaxDb.HasVersion.added {versions : KeyedTable TaxConfigVersionRow}
    {v : TaxConfigVersionRow} {written : List TaxConfigVersionRow} (h : db.HasVersion id n)
    (hAdded : Added db.versions versions v) :
    ({ db with versions, writtenVersions := written } : TaxDb).HasVersion id n := by
  obtain ⟨w, hw, hRow⟩ := h
  exact ⟨w, hAdded.mem_of_mem hw, hRow⟩

/-- A version on record stays when one is rewritten. -/
theorem TaxDb.HasVersion.rewritten {versions : KeyedTable TaxConfigVersionRow}
    {v v' : TaxConfigVersionRow} {written : List TaxConfigVersionRow} (h : db.HasVersion id n)
    (hReplaced : Replaced db.versions versions v v') (hOwner : v'.taxConfigId = v.taxConfigId)
    (hVersion : v'.version = v.version) :
    ({ db with versions, writtenVersions := written } : TaxDb).HasVersion id n := by
  obtain ⟨w, hw, hId, hN⟩ := h
  rcases hReplaced.exists_row hw with hKept | rfl
  · exact ⟨w, hKept, hId, hN⟩
  · exact ⟨v', hReplaced.mem_new, hOwner.trans hId, hVersion.trans hN⟩

/-- The rates that the demands of a ward are published with are on record. -/
theorem wardTaxConfig_hasVersion {wardId assessmentYearId : Id} {taxConfig : TaxConfig}
    (hRecord : ∀ c ∈ db.configs.rows, c.status = .published → db.HasVersion c.id c.version)
    (h : wardTaxConfig (db.context ctx) wardId assessmentYearId = .ok taxConfig) :
    db.HasVersion taxConfig.id taxConfig.version := by
  unfold wardTaxConfig at h
  split_ifs at h
  cases hYear : assertAssessmentYear (db.context ctx).reference assessmentYearId with
  | error error => simp only [hYear, reduceCtorEq] at h
  | ok _ =>
      simp only [hYear, loadPublishedTaxConfigForDues] at h
      split at h
      · rename_i found hFound
        split_ifs at h with hPublished
        cases h
        obtain ⟨c, hc, rfl⟩ := List.mem_map.mp (List.mem_of_find?_eq_some hFound)
        exact hRecord c hc hPublished
      · cases h

/-- A published demand is stamped with a version on record. -/
theorem upsert_onRecord {base : Context} {input : PublishInput} {ledger : Db}
    (hConfig : db.HasVersion input.taxConfig.id input.taxConfig.version)
    (h : ∀ d ∈ ledger.demands.rows, ∀ snapshot ∈ d.snapshot,
      db.HasVersion snapshot.taxConfigId snapshot.taxConfigVersion) :
    ∀ d ∈ (upsertPublishedDemandForSurvey base input ledger).1.demands.rows,
      ∀ snapshot ∈ d.snapshot, db.HasVersion snapshot.taxConfigId snapshot.taxConfigVersion := by
  rcases upsertPublishedDemandForSurvey_cases base input ledger with ⟨error, hRefused⟩ | hWritten
  · rw [hRefused]
    exact h
  rw [hWritten]
  generalize input.read ledger = read
  have hNew : ∀ d, ∀ snapshot ∈ (publishedDemandData base input read d).snapshot,
      db.HasVersion snapshot.taxConfigId snapshot.taxConfigVersion := by
    rintro d _ ⟨⟩
    exact hConfig
  cases hWrite : writePublishedDemand base input read ledger with
  | error refusal => exact h
  | ok result =>
      obtain ⟨after, demandId⟩ := result
      obtain ⟨_, _, hDemand⟩ := writePublishedDemand_ok hWrite
      rcases hDemand with ⟨_, d, _, _, hReplaced⟩ | ⟨_, hAdded⟩
      · exact hReplaced.forall_rows h (hNew d)
      · intro d hd
        rcases (hAdded.mem_iff d).mp hd with hOld | rfl
        · exact h d hOld
        · exact hNew _

end

theorem versionsOnRecord_frame : RecordFrame VersionsOnRecord where
  cells _ h := ⟨h.configs, h.demands⟩
  ledger hSame h := ⟨h.configs, fun d hd => h.demands d (hSame ▸ hd)⟩
  config hReplaced hStill h := by
    refine ⟨hReplaced.forall_rows h.configs fun hPublished => ?_, h.demands⟩
    rw [hStill.place.id, hStill.version]
    exact h.configs _ hReplaced.mem_old (hStill.status.symm.trans hPublished)
  draft hAdded hDraft h := by
    refine ⟨fun c hc hPublished => ?_, h.demands⟩
    rcases (hAdded.mem_iff c).mp hc with hOld | rfl
    · exact h.configs c hOld hPublished
    · rw [hDraft] at hPublished
      cases hPublished
  version hAdded h :=
    ⟨fun c hc hPublished => (h.configs c hc hPublished).added hAdded,
      fun d hd snapshot hSnapshot => (h.demands d hd snapshot hSnapshot).added hAdded⟩
  demands {db} ctx wardId assessmentYearId actorId h := by
    refine ⟨h.configs, ?_⟩
    refine publishForWard_invariant (fun ledger => ∀ d ∈ ledger.demands.rows,
      ∀ snapshot ∈ d.snapshot, db.HasVersion snapshot.taxConfigId snapshot.taxConfigVersion) ?_
      (fun _ _ hKept => hKept) h.demands
    intro taxConfig hConfig survey _ ledger hKept
    exact upsert_onRecord (wardTaxConfig_hasVersion h.configs hConfig) hKept

/-! ### What was last written -/

/-- The row that was last written for a version. -/
def TaxDb.lastWritten? (db : TaxDb) (taxConfigId : Id) (version : Nat) :
    Option TaxConfigVersionRow :=
  db.writtenVersions.find? fun v => v.taxConfigId = taxConfigId ∧ v.version = version

/-- What was last written for the version is in the table. -/
def TaxDb.OnFile (db : TaxDb) (taxConfigId : Id) (version : Nat) : Prop :=
  ∃ v ∈ db.versions.rows, db.lastWritten? taxConfigId version = some v

/-- Every row was written, and none that was last written for its version is lost. -/
structure WritesKept (db : TaxDb) : Prop where
  written : ∀ v ∈ db.versions.rows, v ∈ db.writtenVersions
  stored : ∀ taxConfigId version v, db.lastWritten? taxConfigId version = some v →
    v ∈ db.versions.rows

/-- The rates of what is published, and of what demands refer to, can be looked up as they were
last written. -/
structure RatesOnFile (db : TaxDb) : Prop where
  configs : ∀ c ∈ db.configs.rows, c.status = .published → db.OnFile c.id c.version
  demands : ∀ d ∈ db.ledger.demands.rows, ∀ snapshot ∈ d.snapshot,
    db.OnFile snapshot.taxConfigId snapshot.taxConfigVersion

/-- A version on record is on file as it was last written. -/
theorem WritesKept.onFile {db : TaxDb} {id : Id} {n : Nat} (h : WritesKept db)
    (hVersion : db.HasVersion id n) : db.OnFile id n := by
  obtain ⟨v, hv, hId, hN⟩ := hVersion
  cases hLast : db.lastWritten? id n with
  | some last => exact ⟨last, h.stored id n last hLast, hLast⟩
  | none =>
      have hNone := List.find?_eq_none.mp hLast v (h.written v hv)
      exact absurd (decide_eq_true ⟨hId, hN⟩) hNone

/-- So are the rates of every stamp. -/
theorem WritesKept.ratesOnFile {db : TaxDb} (h : WritesKept db) (hRecord : VersionsOnRecord db) :
    RatesOnFile db where
  configs c hc hPublished := h.onFile (hRecord.configs c hc hPublished)
  demands d hd snapshot hSnapshot := h.onFile (hRecord.demands d hd snapshot hSnapshot)

/-- A row that is written last is found, and the rows of the other versions are found as before. -/
theorem lastWritten?_cons {db : TaxDb} {versions : KeyedTable TaxConfigVersionRow}
    {v w : TaxConfigVersionRow} {id : Id} {n : Nat}
    (h : ({ db with versions, writtenVersions := v :: db.writtenVersions } : TaxDb).lastWritten?
      id n = some w) :
    w = v ∨ ¬ (v.taxConfigId = w.taxConfigId ∧ v.version = w.version) ∧
      db.lastWritten? id n = some w := by
  unfold TaxDb.lastWritten? at h ⊢
  rw [List.find?_cons] at h
  by_cases hRow : v.taxConfigId = id ∧ v.version = n
  · rw [decide_eq_true hRow] at h
    exact .inl (Option.some.inj h).symm
  · rw [decide_eq_false hRow] at h
    have hBefore : db.writtenVersions.find?
        (fun v => v.taxConfigId = id ∧ v.version = n) = some w := h
    have hFound : w.taxConfigId = id ∧ w.version = n := by simpa using List.find?_some hBefore
    exact .inr ⟨by rwa [hFound.1, hFound.2], hBefore⟩

theorem writesKept_frame : RecordFrame WritesKept where
  cells _ h := ⟨h.written, h.stored⟩
  ledger _ h := ⟨h.written, h.stored⟩
  config _ _ h := ⟨h.written, h.stored⟩
  draft _ _ h := ⟨h.written, h.stored⟩
  version hAdded h := by
    refine ⟨fun w hw => ?_, fun id n w hLast => ?_⟩
    · rcases (hAdded.mem_iff w).mp hw with hOld | rfl
      · exact List.mem_cons_of_mem _ (h.written w hOld)
      · exact List.mem_cons_self
    · rcases lastWritten?_cons hLast with rfl | ⟨-, hBefore⟩
      · exact hAdded.mem_row
      · exact hAdded.mem_of_mem (h.stored id n w hBefore)
  demands _ _ _ _ h := ⟨h.written, h.stored⟩

/-- A row that is written again is the last one for its version. -/
theorem WritesKept.rewritten {db : TaxDb} {versions : KeyedTable TaxConfigVersionRow}
    {v v' : TaxConfigVersionRow} (h : WritesKept db) (hReplaced : Replaced db.versions versions v v')
    (hOwner : v'.taxConfigId = v.taxConfigId) (hVersion : v'.version = v.version) :
    WritesKept { db with versions, writtenVersions := v' :: db.writtenVersions } := by
  refine ⟨fun w hw => ?_, fun id n w hLast => ?_⟩
  · rcases (hReplaced.mem_iff w).mp hw with ⟨hOld, -⟩ | rfl
    · exact List.mem_cons_of_mem _ (h.written w hOld)
    · exact List.mem_cons_self
  · rcases lastWritten?_cons hLast with rfl | ⟨hOther, hBefore⟩
    · exact hReplaced.mem_new
    · rcases hReplaced.exists_row (h.stored id n w hBefore) with hKept | rfl
      · exact hKept
      · exact absurd ⟨hOwner, hVersion⟩ hOther

/-! ### What calls do to the rows -/

/-- What a call that stamps the versions `stamps`, year by year, does to a config. -/
structure ConfigKept (stamps : Id → Nat → Prop) (c c' : TaxConfigRow) : Prop where
  place : SamePlace c c'
  version : c.version ≤ c'.version ∨ stamps c.assessmentYearId c'.version

/-- What such a call does to the record of a version: it writes the rates of a version that it
stamps in the year of the config. -/
structure VersionKept (stamps : Id → Nat → Prop) (configs : KeyedTable TaxConfigRow)
    (v v' : TaxConfigVersionRow) : Prop where
  id : v'.id = v.id
  taxConfigId : v'.taxConfigId = v.taxConfigId
  version : v'.version = v.version
  rates : v' = v ∨ ∃ c ∈ configs.rows, c.id = v.taxConfigId ∧ stamps c.assessmentYearId v.version

theorem ConfigKept.refl (stamps : Id → Nat → Prop) (c : TaxConfigRow) : ConfigKept stamps c c :=
  ⟨.refl c, .inl le_rfl⟩

theorem VersionKept.refl (stamps : Id → Nat → Prop) (configs : KeyedTable TaxConfigRow)
    (v : TaxConfigVersionRow) : VersionKept stamps configs v v := ⟨rfl, rfl, rfl, .inl rfl⟩

/-- No config leaves its year. -/
theorem VersionKept.mono {stamps stamps' : Id → Nat → Prop}
    {configs configs' : KeyedTable TaxConfigRow} {v v' : TaxConfigVersionRow}
    (h : VersionKept stamps configs v v') (hStamps : ∀ year n, stamps year n → stamps' year n)
    (hConfigs : KeyedTable.Evolves SamePlace configs configs') :
    VersionKept stamps' configs' v v' := by
  refine ⟨h.id, h.taxConfigId, h.version, h.rates.imp_right ?_⟩
  rintro ⟨c, hc, hOwner, hStamp⟩
  obtain ⟨c', hc', hPlace⟩ := hConfigs c hc
  refine ⟨c', hc', hPlace.id.trans hOwner, hStamps _ _ ?_⟩
  rwa [hPlace.assessmentYearId]

/-- What a call may do to configs and to what is on record. -/
structure TaxDb.Evolves (stamps : Id → Nat → Prop) (db db' : TaxDb) : Prop where
  configs : KeyedTable.Evolves (ConfigKept stamps) db.configs db'.configs
  versions : KeyedTable.Evolves (VersionKept stamps db'.configs) db.versions db'.versions

theorem TaxDb.Evolves.refl (stamps : Id → Nat → Prop) (db : TaxDb) : db.Evolves stamps db :=
  ⟨.refl (.refl stamps) _, .refl (.refl stamps _) _⟩

/-- A row of the configs is rewritten in its place. -/
theorem samePlace_of_replaced {configs configs' : KeyedTable TaxConfigRow} {c c' : TaxConfigRow}
    (h : Replaced configs configs' c c') (hPlace : SamePlace c c') :
    KeyedTable.Evolves SamePlace configs configs' :=
  (Evolves.refl SamePlace.refl configs).replaced h fun _ hOld => hOld.trans hPlace

/-- A step on the versions in use, from the tables that the call began with. -/
theorem evolves_frame (stamps : Id → Nat → Prop) (db₀ : TaxDb) :
    RecordFrame (TaxDb.Evolves stamps db₀) where
  cells _ h := ⟨h.configs, h.versions⟩
  ledger _ h := ⟨h.configs, h.versions⟩
  config hReplaced hStill h :=
    ⟨h.configs.replaced hReplaced fun c hKept => ⟨hKept.place.trans hStill.place,
      by rw [hStill.version]; exact hKept.version⟩,
      h.versions.mono fun _ _ hKept => hKept.mono (fun _ _ => id)
        (samePlace_of_replaced hReplaced hStill.place)⟩
  draft hAdded _ h :=
    ⟨h.configs.added hAdded, h.versions.mono fun _ _ hKept => hKept.mono (fun _ _ => id)
      ((Evolves.refl SamePlace.refl _).added hAdded)⟩
  version hAdded h := ⟨h.configs, h.versions.added hAdded⟩
  demands _ _ _ _ h := ⟨h.configs, h.versions⟩

/-- Nothing is stamped. -/
theorem publishFrame (db₀ : TaxDb) :
    PublishFrame fun db =>
      db₀.Evolves (fun _ _ => False) db ∧ VersionsOnRecord db ∧ WritesKept db where
  toRecordFrame := (evolves_frame _ db₀).and (versionsOnRecord_frame.and writesKept_frame)
  raised hReplaced hPlace hLe hRecord h := by
    refine ⟨⟨h.1.configs.replaced hReplaced fun c hKept => ?_,
      h.1.versions.mono fun _ _ hKept => hKept.mono (fun _ _ => id)
        (samePlace_of_replaced hReplaced hPlace)⟩,
      ⟨hReplaced.forall_rows h.2.1.configs fun _ => hRecord, h.2.1.demands⟩,
      h.2.2.written, h.2.2.stored⟩
    exact ⟨hKept.place.trans hPlace, .inl ((hKept.version.resolve_right not_false).trans hLe)⟩
  onRecord h := h.2.1.configs

/-- One version is stamped, in one year. -/
theorem stampFrame {stamps : Id → Nat → Prop} {assessmentYearId : Id} {n : Nat}
    (hStamps : stamps assessmentYearId n) (db₀ : TaxDb) :
    StampFrame assessmentYearId n fun db =>
      db₀.Evolves stamps db ∧ VersionsOnRecord db ∧ WritesKept db where
  toRecordFrame := (evolves_frame _ db₀).and (versionsOnRecord_frame.and writesKept_frame)
  rewritten {db _ w _} hReplaced hOwner hVersion hN hConfig h := by
    refine ⟨⟨h.1.configs, h.1.versions.replaced hReplaced fun v hKept => ?_⟩, ⟨?_, ?_⟩,
      h.2.2.rewritten hReplaced hOwner hVersion⟩
    · obtain ⟨c, hc, hOf, hYear⟩ := hConfig
      refine ⟨hReplaced.key_eq.trans hKept.id, hOwner.trans hKept.taxConfigId,
        hVersion.trans hKept.version, .inr ⟨c, hc, hOf.trans hKept.taxConfigId, ?_⟩⟩
      rwa [hYear, ← hKept.version, hN]
    · exact fun c hc hPublished =>
        (h.2.1.configs c hc hPublished).rewritten hReplaced hOwner hVersion
    · exact fun d hd snapshot hSnapshot =>
        (h.2.1.demands d hd snapshot hSnapshot).rewritten hReplaced hOwner hVersion
  stamped hReplaced hPlace hYear _ hN hRecord h := by
    refine ⟨⟨h.1.configs.replaced hReplaced fun c hKept => ⟨hKept.place.trans hPlace, .inr ?_⟩,
      h.1.versions.mono fun _ _ hKept => hKept.mono (fun _ _ => id)
        (samePlace_of_replaced hReplaced hPlace)⟩,
      ⟨hReplaced.forall_rows h.2.1.configs fun _ => ?_, h.2.1.demands⟩,
      h.2.2.written, h.2.2.stored⟩
    · rwa [hN, ← hKept.place.assessmentYearId, hYear]
    · rwa [hN]

/-! ### Runs -/

/-- The call copies the rates of a published config, which is at version `n`, to
every ward in the year. -/
def TaxDb.Stamps (db : TaxDb) (call : TaxCall) (assessmentYearId : Id) (n : Nat) : Prop :=
  ∃ dto source, call.operation = .copyToAllWards dto ∧ source ∈ db.configs.rows ∧
    source.wardId = dto.sourceWardId ∧ source.assessmentYearId = dto.assessmentYearId ∧
    source.status = .published ∧ dto.assessmentYearId = assessmentYearId ∧ source.version = n

theorem TaxDb.Evolves.mono {stamps stamps' : Id → Nat → Prop} {db db' : TaxDb}
    (h : db.Evolves stamps db') (hStamps : ∀ year n, stamps year n → stamps' year n) :
    db.Evolves stamps' db' where
  configs := h.configs.mono fun _ _ hKept =>
    ⟨hKept.place, hKept.version.imp id (hStamps _ _)⟩
  versions := h.versions.mono fun _ _ hKept =>
    hKept.mono hStamps (.refl .refl _)

/-- The record of rates is complete, and nothing last written is lost. -/
structure RecordKept (db : TaxDb) : Prop where
  onRecord : VersionsOnRecord db
  writes : WritesKept db

/-- Every call lets the database evolve and keeps the record. -/
theorem perform_kept (db : TaxDb) (call : TaxCall) (h : RecordKept db) :
    db.Evolves (db.Stamps call) (db.perform call) ∧ RecordKept (db.perform call) := by
  have hFrame := publishFrame db
  have hStart (stamps : Id → Nat → Prop) :
      db.Evolves stamps db ∧ VersionsOnRecord db ∧ WritesKept db :=
    ⟨.refl stamps db, h.onRecord, h.writes⟩
  have hNone (db' : TaxDb)
      (h : db.Evolves (fun _ _ => False) db' ∧ VersionsOnRecord db' ∧ WritesKept db') :
      db.Evolves (db.Stamps call) db' ∧ RecordKept db' :=
    ⟨h.1.mono fun _ _ => False.elim, h.2.1, h.2.2⟩
  obtain ⟨ctx, actorId, operation⟩ := call
  cases operation with
  | getOrCreate wardId assessmentYearId =>
      exact hNone _ (Ends.after (hFrame.getOrCreate_keeps actorId db (hStart _)))
  | upsertCells id cells =>
      exact hNone _ (Ends.after (hFrame.upsertCells cells actorId db (hStart _)))
  | updateParams id dto =>
      exact hNone _ (Ends.after (hFrame.updateParams dto actorId db (hStart _)))
  | publish id dto => exact hNone _ (Ends.after (publish_keeps hFrame dto actorId db (hStart _)))
  | copyToAllWards dto =>
      by_cases hSource : ∃ c ∈ db.configs.rows, c.wardId = dto.sourceWardId ∧
          c.assessmentYearId = dto.assessmentYearId ∧ c.status = .published
      · obtain ⟨c, hMem, hWard, hYear, hPublished⟩ := hSource
        have hStamp : db.Stamps ⟨ctx, actorId, .copyToAllWards dto⟩ dto.assessmentYearId
            c.version := ⟨dto, c, rfl, hMem, hWard, hYear, hPublished, rfl, rfl⟩
        obtain ⟨hEvolves, hRecord, hWrites⟩ :=
          copyToAllWards_stamps hMem hWard hYear hPublished (stampFrame hStamp db) (hStart _)
        exact ⟨hEvolves, hRecord, hWrites⟩
      · refine hNone _ (copyToAllWards_keeps hFrame ?_ (hStart _))
        exact fun c hMem hWard hYear hPublished => hSource ⟨c, hMem, hWard, hYear, hPublished⟩

namespace Sample

def twoWards : TaxContext where
  base := ward
  wards := [⟨5, true⟩, ⟨6, true⟩]
  entries := [⟨year 20, "ASSESSMENT_YEAR", true, 0⟩, ⟨year 30, "TAX_RATE_ZONE", true, 0⟩,
    ⟨year 40, "CONSTRUCTION_TYPE", true, 0⟩]
  wards_nodup := by decide

/-- Publish a config at one rate for the only road and construction. -/
def publishAt (id : Id) (rate : ℚ) : TaxCall :=
  ⟨twoWards, none, .publish id { cells := some [⟨30, 40, rate⟩] }⟩

/-- Ward 5 is published once, and ward 6 twice. -/
def publishedTwice : List TaxCall :=
  [⟨twoWards, none, .getOrCreate 5 20⟩, publishAt 0 1, ⟨twoWards, none, .getOrCreate 6 20⟩,
    publishAt 3 2, publishAt 3 3]

def copyFromWard : TaxCall :=
  ⟨twoWards, none, .copyToAllWards { sourceWardId := 5, assessmentYearId := 20 }⟩

end Sample

end PropertyTax
