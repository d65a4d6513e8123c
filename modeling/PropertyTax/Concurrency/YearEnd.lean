import PropertyTax.Ledger.Arrears

/-! One year-end run among payments. The run previews the unpaid demands, and
then reads and writes the carry targets statement by statement in a transaction.
What it has written is seen by nobody else before it commits, and a payment on
a demand that it has updated waits for that. -/
namespace PropertyTax
open KeyedTable Runs

/-- A write of the transaction. -/
inductive CarryWrite where
  | createDemand (row : PropertyDemand)
  | createDemandArrear (row : DemandArrear)
  | updateDemand (target : PropertyDemand) (arrearsSum : ℚ)

namespace CarryWrite

def apply : CarryWrite → Db → Except Refusal Db
  | .createDemand row, db => (db.demands.insert row).map fun demands => { db with demands }
  | .createDemandArrear row, db =>
      (db.demandArrears.insert row).map fun demandArrears => { db with demandArrears }
  | .updateDemand target arrearsSum, db =>
      db.updateDemand target.id (carriedDemandData target arrearsSum)

/-- The demand that stays locked by a write. -/
def locks : CarryWrite → Option Id
  | .updateDemand target _ => some target.id
  | _ => none

end CarryWrite

/-- The database as the transaction sees it: what is committed, and its own
writes on top. -/
def applyWrites : List CarryWrite → Db → Except Refusal Db
  | [], db => .ok db
  | write :: rest, db => do
      let db ← write.apply db
      applyWrites rest db

/-- The transaction between two statements: what it has read, the rows that are
left and the writes so far. -/
structure YearEndTx where
  existingRun : Option YearEndRun
  preview : YearEndPreview
  rows : List ProposedArrear
  counts : CarryCounts
  writes : List CarryWrite

/-- How far a year-end run has come. -/
inductive Committer where
  | start
  | checked (existingRun : Option YearEndRun)
  | carrying (tx : YearEndTx)
  | missing (tx : YearEndTx) (row : ProposedArrear)
  | located (tx : YearEndTx) (row : ProposedArrear) (target : PropertyDemand)
      (arrearRows : List DemandArrear)
  | arrearCreated (tx : YearEndTx) (row : ProposedArrear) (target : PropertyDemand)
      (arrearRows : List DemandArrear)
  | finished (result : Except ApiError YearEndResult)

def YearEndTx.skip (tx : YearEndTx) : YearEndTx :=
  { tx with counts := { tx.counts with skipped := tx.counts.skipped + 1 } }

def YearEndTx.carried (tx : YearEndTx) (write : CarryWrite) : YearEndTx :=
  { tx with
    writes := tx.writes ++ [write]
    counts := { tx.counts with carried := tx.counts.carried + 1 } }

/-- The draft that is created for a row without a target. -/
def carryDraft (row : ProposedArrear) (id : Id) : PropertyDemand where
  id := id
  surveyId := row.surveyId
  assessmentYearId := row.targetAssessmentYearId
  status := .draft
  arrears := toColumn row.fromOutstanding
  totalPayable := toColumn row.fromOutstanding
  outstanding := toColumn row.fromOutstanding
  amountPaid := 0
  currentDemand := 0
  verified := true

/-- Send a write: the transaction goes on, or is rolled back. -/
def YearEndTx.send (tx : YearEndTx) (write : CarryWrite) (next : Committer) (db after : Db) :
    Committer × Db :=
  match applyWrites (tx.writes ++ [write]) db with
  | .ok _ => (next, after)
  | .error refusal => (.finished (.error (.database refusal)), db)

/-- The last statement marks the run as committed, and the writes become
visible to all. -/
def YearEndTx.commit (tx : YearEndTx) (ctx : Context) (actorId : Option Id) (db : Db) :
    Committer × Db :=
  let summary : YearEndSummary :=
    { count := tx.preview.count, totalArrears := tx.preview.totalArrears,
      carried := tx.counts.carried, skipped := tx.counts.skipped }
  match (applyWrites tx.writes db).bind (writeYearEndRun tx.existingRun tx.preview.fromYearId
      tx.preview.toYearId summary ctx.now actorId) with
  | .error refusal => (.finished (.error (.database refusal)), db)
  | .ok (after, runId) =>
      let run := after.yearEndRuns.find? runId
      let entry : AuditEntry :=
        { action := "YEAR_END_COMMIT"
          entity := "YearEndRun"
          entityId := run.map fun run => toString run.id
          actorId
          newValue := some (.obj
            [("count", .num summary.count), ("totalArrears", .num summary.totalArrears),
             ("carried", .num summary.carried), ("skipped", .num summary.skipped)]) }
      (.finished (.ok
        { noop := false, run, summary := some summary, carried := some tx.counts.carried,
          skipped := some tx.counts.skipped }), after.log entry)

/-- The next statement of `commitYearEnd`. -/
def Committer.next (ctx : Context) (fromYearId toYearId : Id) (actorId : Option Id) (db : Db) :
    Committer → Committer × Db
  | .start =>
      match assertDistinctAssessmentYears ctx.reference fromYearId toYearId with
      | .error error => (.finished (.error error), db)
      | .ok () =>
          let existingRun := yearEndRun? db fromYearId toYearId
          match existingRun.filter fun r => r.status = .committed with
          | some run =>
              (.finished (.ok { noop := true, run := some run, summary := run.summary,
                                carried := none, skipped := none }), db)
          | none => (.checked existingRun, db)
  | .checked existingRun =>
      match previewYearEnd ctx fromYearId toYearId db with
      | .error error => (.finished (.error error), db)
      | .ok preview =>
          (.carrying { existingRun, preview, rows := preview.proposedArrears, counts := ⟨0, 0⟩,
                       writes := [] }, db)
  | .carrying tx =>
      match tx.rows with
      | [] => tx.commit ctx actorId db
      | row :: rest =>
          match applyWrites tx.writes db with
          | .error refusal => (.finished (.error (.database refusal)), db)
          | .ok view =>
              match view.demandFor? row.surveyId row.targetAssessmentYearId with
              | some target =>
                  (.located { tx with rows := rest } row target
                    (demandArrearsOf view.demandArrears target.id), db)
              | none => (.missing { tx with rows := rest } row, db)
  | .missing tx row =>
      let draft := carryDraft row db.nextId
      let write := CarryWrite.createDemand draft
      tx.send write (.located { tx with writes := tx.writes ++ [write] } row draft []) db
        { db with nextId := db.nextId + 1 }
  | .located tx row target arrearRows =>
      if arrearRows.any fun a => a.sourceAssessmentYearId = row.sourceAssessmentYearId then
        (.carrying tx.skip, db)
      else
        let write := CarryWrite.createDemandArrear
          { id := db.nextId
            demandId := target.id
            sourceAssessmentYearId := row.sourceAssessmentYearId
            amount := toColumn row.fromOutstanding }
        tx.send write (.arrearCreated { tx with writes := tx.writes ++ [write] } row target
          arrearRows) db { db with nextId := db.nextId + 1 }
  | .arrearCreated tx row target arrearRows =>
      let arrearsSum := (arrearRows.map fun a => toMoney a.amount).sum + row.fromOutstanding
      let write := CarryWrite.updateDemand target arrearsSum
      tx.send write (.carrying (tx.carried write)) db db
  | .finished result => (.finished result, db)

/-- The transaction of a run, from the preview until it is committed. -/
def Committer.tx? : Committer → Option YearEndTx
  | .carrying tx => some tx
  | .missing tx _ => some tx
  | .located tx _ _ _ => some tx
  | .arrearCreated tx _ _ _ => some tx
  | _ => none

/-- The carry target that has been read and not yet written. -/
def Committer.target? : Committer → Option PropertyDemand
  | .located _ _ target _ => some target
  | .arrearCreated _ _ target _ => some target
  | _ => none

/-- The run has committed, and not found that it was committed before. -/
def Committer.hasCommitted : Committer → Bool
  | .finished (.ok result) => !result.noop
  | _ => false

/-- The demands that are locked. -/
def Committer.locked (committer : Committer) : List Id :=
  match committer.tx? with
  | some tx => tx.writes.filterMap CarryWrite.locks
  | none => []

structure YearEnding where
  committer : Committer
  db : Db

/-- A statement of the year-end run, or a whole payment call. -/
inductive YearEndMove where
  | committer
  | call (call : Call)

/-- A call that would rewrite a locked demand waits. -/
def YearEnding.move (ctx : Context) (fromYearId toYearId : Id) (actorId : Option Id)
    (s : YearEnding) : YearEndMove → YearEnding
  | .committer =>
      let next := s.committer.next ctx fromYearId toYearId actorId s.db
      ⟨next.1, next.2⟩
  | .call call =>
      let after := perform s.db call
      if ∀ id ∈ s.committer.locked, after.demands.find? id = s.db.demands.find? id then
        ⟨s.committer, after⟩
      else s

/-! ### What the transaction sees -/

theorem applyWrites_append (first second : List CarryWrite) (db : Db) :
    applyWrites (first ++ second) db = (applyWrites first db).bind (applyWrites second) := by
  induction first generalizing db with
  | nil => rfl
  | cons write rest ih =>
      rw [List.cons_append, applyWrites, applyWrites]
      cases hWrite : write.apply db with
      | error refusal => rfl
      | ok after => exact ih after

/-- The last write is applied to what the others have left. -/
theorem applyWrites_snoc {writes : List CarryWrite} {write : CarryWrite} {db view : Db}
    (h : applyWrites writes db = .ok view) :
    applyWrites (writes ++ [write]) db = write.apply view := by
  rw [applyWrites_append, h]
  change applyWrites [write] view = _
  rw [applyWrites]
  cases write.apply view <;> rfl

/-- Writes that go through have gone through before the last of them. -/
theorem applyWrites_snoc_ok {writes : List CarryWrite} {write : CarryWrite} {db view : Db}
    (h : applyWrites (writes ++ [write]) db = .ok view) :
    ∃ before, applyWrites writes db = .ok before ∧ write.apply before = .ok view := by
  cases hBefore : applyWrites writes db with
  | error refusal =>
      rw [applyWrites_append, hBefore] at h
      cases h
  | ok before => exact ⟨before, rfl, (applyWrites_snoc hBefore).symm.trans h⟩

/-- No write of the transaction draws an id itself. -/
theorem CarryWrite.apply_nextId (write : CarryWrite) (db : Db) (nextId : Id) :
    write.apply { db with nextId } = (write.apply db).map fun db => { db with nextId } := by
  cases write with
  | createDemand row => cases hInsert : db.demands.insert row <;> simp [apply, hInsert, Except.map]
  | createDemandArrear row =>
      cases hInsert : db.demandArrears.insert row <;> simp [apply, hInsert, Except.map]
  | updateDemand target arrearsSum =>
      cases hUpdate : db.demands.update target.id (carriedDemandData target arrearsSum) <;>
        simp [apply, Db.updateDemand, hUpdate, Except.map]

/-- The view of a transaction does not depend on the ids drawn meanwhile. -/
theorem applyWrites_nextId (writes : List CarryWrite) (db : Db) (nextId : Id) :
    applyWrites writes { db with nextId } =
      (applyWrites writes db).map fun db => { db with nextId } := by
  induction writes generalizing db with
  | nil => rfl
  | cons write rest ih =>
      rw [applyWrites, applyWrites, write.apply_nextId]
      cases write.apply db with
      | error refusal => rfl
      | ok after => exact ih after

/-- The keys that the transaction draws are drawn for all. -/
theorem applyWrites_keepsNextId {writes : List CarryWrite} {db view : Db}
    (h : applyWrites writes db = .ok view) : view.nextId = db.nextId := by
  have hSame : applyWrites writes db = _ := applyWrites_nextId writes db db.nextId
  rw [h] at hSame
  have hView : view = { view with nextId := db.nextId } := by simpa [Except.map] using hSame
  rw [hView]

/-- A write of the transaction, by what it does to the tables. -/
theorem CarryWrite.apply_ok {write : CarryWrite} {db db' : Db} (h : write.apply db = .ok db') :
    (∃ row demands, write = .createDemand row ∧ Added db.demands demands row ∧
      db' = { db with demands }) ∨
    (∃ row demandArrears, write = .createDemandArrear row ∧
      Added db.demandArrears demandArrears row ∧ db' = { db with demandArrears }) ∨
    (∃ target arrearsSum d demands, write = .updateDemand target arrearsSum ∧ d.id = target.id ∧
      Replaced db.demands demands d (carriedDemandData target arrearsSum d) ∧
      db' = { db with demands }) := by
  cases write with
  | createDemand row =>
      obtain ⟨demands, hInsert, hDb⟩ := map_ok h
      exact .inl ⟨row, demands, rfl, added_of_insert hInsert, hDb.symm⟩
  | createDemandArrear row =>
      obtain ⟨demandArrears, hInsert, hDb⟩ := map_ok h
      exact .inr (.inl ⟨row, demandArrears, rfl, added_of_insert hInsert, hDb.symm⟩)
  | updateDemand target arrearsSum =>
      obtain ⟨d, demands, hId, hReplaced, hDb⟩ := Db.updateDemand_ok h fun _ => rfl
      exact .inr (.inr ⟨target, arrearsSum, d, demands, rfl, hId, hReplaced, hDb⟩)

/-- The demands that the transaction sees, as they were before its updates. -/
def Seen (demands : KeyedTable PropertyDemand) (writes : List CarryWrite) (d : PropertyDemand) :
    Prop := d ∈ demands.rows ∨ .createDemand d ∈ writes

/-- The columns that the year-end run leaves alone. -/
structure SameAccount (d d' : PropertyDemand) : Prop where
  id : d'.id = d.id
  surveyId : d'.surveyId = d.surveyId
  assessmentYearId : d'.assessmentYearId = d.assessmentYearId
  amountPaid : d'.amountPaid = d.amountPaid
  currentDemand : d'.currentDemand = d.currentDemand

theorem SameAccount.refl (d : PropertyDemand) : SameAccount d d := ⟨rfl, rfl, rfl, rfl, rfl⟩

theorem SameAccount.trans {a b c : PropertyDemand} (h : SameAccount a b) (h' : SameAccount b c) :
    SameAccount a c :=
  ⟨h'.id.trans h.id, h'.surveyId.trans h.surveyId, h'.assessmentYearId.trans h.assessmentYearId,
    h'.amountPaid.trans h.amountPaid, h'.currentDemand.trans h.currentDemand⟩

/-- A carried balance leaves what was paid on the demand, and to whom it belongs. -/
theorem sameAccount_carried (target d : PropertyDemand) (arrearsSum : ℚ) :
    SameAccount d (carriedDemandData target arrearsSum d) := ⟨rfl, rfl, rfl, rfl, rfl⟩

/-- Every demand that is seen has one row, and every row is one of them. -/
theorem applyWrites_demands {writes : List CarryWrite} {db view : Db}
    (h : applyWrites writes db = .ok view) :
    (∀ d' ∈ view.demands.rows, ∃ d, Seen db.demands writes d ∧ SameAccount d d') ∧
      ∀ d, Seen db.demands writes d → ∃ d' ∈ view.demands.rows, SameAccount d d' := by
  induction writes generalizing db with
  | nil =>
      cases h
      exact ⟨fun d' hd' => ⟨d', .inl hd', SameAccount.refl d'⟩,
        fun d hd => ⟨d, hd.resolve_right List.not_mem_nil, SameAccount.refl d⟩⟩
  | cons write rest ih =>
      rw [applyWrites] at h
      obtain ⟨after, hWrite, h⟩ := bind_ok h
      obtain ⟨hOf, hTo⟩ := ih h
      -- One write: what is seen of the rest after it, is seen of all before it, and back.
      have hStep : (∀ d, Seen after.demands rest d → ∃ e, Seen db.demands (write :: rest) e ∧ SameAccount e d) ∧
          ∀ e, Seen db.demands (write :: rest) e → ∃ d, Seen after.demands rest d ∧ SameAccount e d := by
        rcases CarryWrite.apply_ok hWrite with
          ⟨row, demands, rfl, hAdded, rfl⟩ | ⟨row, demandArrears, rfl, _, rfl⟩ |
          ⟨target, arrearsSum, old, demands, rfl, _, hReplaced, rfl⟩
        · refine ⟨fun d hd => ⟨d, ?_, SameAccount.refl d⟩,
            fun e he => ⟨e, ?_, SameAccount.refl e⟩⟩
          · rcases hd with hMem | hDraft
            · rcases (hAdded.mem_iff d).mp hMem with hOld | rfl
              · exact .inl hOld
              · exact .inr List.mem_cons_self
            · exact .inr (List.mem_cons_of_mem _ hDraft)
          · rcases he with hMem | hDraft
            · exact .inl (hAdded.mem_of_mem hMem)
            · rcases List.mem_cons.mp hDraft with hSame | hRest
              · cases hSame
                exact .inl hAdded.mem_row
              · exact .inr hRest
        · refine ⟨fun d hd => ⟨d, hd.imp_right (List.mem_cons_of_mem _), SameAccount.refl d⟩,
            fun e he => ⟨e, he.imp_right fun hDraft => ?_, SameAccount.refl e⟩⟩
          exact (List.mem_cons.mp hDraft).resolve_left fun hSame => by cases hSame
        · refine ⟨fun d hd => ?_, fun e he => ?_⟩
          · rcases hd with hMem | hDraft
            · rcases (hReplaced.mem_iff d).mp hMem with ⟨hOld, _⟩ | rfl
              · exact ⟨d, .inl hOld, SameAccount.refl d⟩
              · exact ⟨old, .inl hReplaced.mem_old, sameAccount_carried _ _ _⟩
            · exact ⟨d, .inr (List.mem_cons_of_mem _ hDraft), SameAccount.refl d⟩
          · rcases he with hMem | hDraft
            · rcases hReplaced.exists_row hMem with hRow | rfl
              · exact ⟨e, .inl hRow, SameAccount.refl e⟩
              · exact ⟨_, .inl hReplaced.mem_new, sameAccount_carried _ _ _⟩
            · refine ⟨e, .inr ?_, SameAccount.refl e⟩
              exact (List.mem_cons.mp hDraft).resolve_left fun hSame => by cases hSame
      constructor
      · intro d' hd'
        obtain ⟨d, hSeen, hSame⟩ := hOf d' hd'
        obtain ⟨e, hSeen', hSame'⟩ := hStep.1 d hSeen
        exact ⟨e, hSeen', hSame'.trans hSame⟩
      · intro e he
        obtain ⟨d, hSeen, hSame⟩ := hStep.2 e he
        obtain ⟨d', hd', hSame'⟩ := hTo d hSeen
        exact ⟨d', hd', hSame.trans hSame'⟩

/-- Every arrear in the view was there before, or is one of the writes. -/
theorem applyWrites_demandArrears {writes : List CarryWrite} {db view : Db}
    (h : applyWrites writes db = .ok view) :
    ∀ a ∈ view.demandArrears.rows, a ∈ db.demandArrears.rows ∨ .createDemandArrear a ∈ writes := by
  induction writes generalizing db with
  | nil =>
      cases h
      exact fun a ha => .inl ha
  | cons write rest ih =>
      rw [applyWrites] at h
      obtain ⟨after, hWrite, h⟩ := bind_ok h
      intro a ha
      rcases ih h a ha with hMem | hRest
      · rcases CarryWrite.apply_ok hWrite with
          ⟨row, demands, rfl, _, rfl⟩ | ⟨row, demandArrears, rfl, hAdded, rfl⟩ |
          ⟨target, arrearsSum, old, demands, rfl, _, _, rfl⟩
        · exact .inl hMem
        · rcases (hAdded.mem_iff a).mp hMem with hOld | rfl
          · exact .inl hOld
          · exact .inr List.mem_cons_self
        · exact .inl hMem
      · exact .inr (List.mem_cons_of_mem _ hRest)

/-- The update of a demand balances it, if nothing was paid on it since the
target was read. -/
theorem carriedDemandData_balanced {target d : PropertyDemand} (arrears : Money)
    (hPaid : d.amountPaid = target.amountPaid) (hCurrent : d.currentDemand = target.currentDemand) :
    (carriedDemandData target (toMoney arrears) d).Balanced := by
  rw [carriedDemandData_toMoney]
  exact ⟨congrArg (· + arrears) hCurrent.symm, by rw [← hPaid]⟩

/-- No update of the transaction is out of date. -/
def Current (demands : KeyedTable PropertyDemand) (writes : List CarryWrite) : Prop :=
  ∀ target arrearsSum, .updateDemand target arrearsSum ∈ writes →
    (∃ arrears : Money, arrearsSum = toMoney arrears) ∧
    ∀ d, Seen demands writes d → d.id = target.id →
      d.amountPaid = target.amountPaid ∧ d.currentDemand = target.currentDemand

/-- The demands in the view balance when those that were read did and are current. -/
theorem applyWrites_balanced {writes : List CarryWrite} {db view : Db}
    (h : applyWrites writes db = .ok view) (hBalanced : ∀ d, Seen db.demands writes d → d.Balanced)
    (hCurrent : Current db.demands writes) : ∀ d ∈ view.demands.rows, d.Balanced := by
  induction writes generalizing db with
  | nil =>
      cases h
      exact fun d hd => hBalanced d (.inl hd)
  | cons write rest ih =>
      rw [applyWrites] at h
      obtain ⟨after, hWrite, hNext⟩ := bind_ok h
      have hRest : ∀ {w}, w ∈ rest → w ∈ write :: rest := List.mem_cons_of_mem write
      rcases CarryWrite.apply_ok hWrite with
        ⟨row, demands, rfl, hAdded, rfl⟩ | ⟨row, demandArrears, rfl, _, rfl⟩ |
        ⟨target, arrearsSum, old, demands, rfl, hId, hReplaced, rfl⟩
      · have hSeen : ∀ d, Seen demands rest d →
            Seen db.demands (.createDemand row :: rest) d := by
          rintro d (hMem | hDraft)
          · rcases (hAdded.mem_iff d).mp hMem with hOld | rfl
            · exact .inl hOld
            · exact .inr List.mem_cons_self
          · exact .inr (hRest hDraft)
        refine ih hNext (fun d hd => hBalanced d (hSeen d hd)) fun target arrearsSum hUpdate => ?_
        obtain ⟨hSum, hSame⟩ := hCurrent target arrearsSum (hRest hUpdate)
        exact ⟨hSum, fun d hd => hSame d (hSeen d hd)⟩
      · refine ih hNext (fun d hd => hBalanced d (hd.imp_right hRest))
          fun target arrearsSum hUpdate => ?_
        obtain ⟨hSum, hSame⟩ := hCurrent target arrearsSum (hRest hUpdate)
        exact ⟨hSum, fun d hd => hSame d (hd.imp_right hRest)⟩
      · obtain ⟨⟨arrears, rfl⟩, hTarget⟩ := hCurrent target arrearsSum List.mem_cons_self
        obtain ⟨hPaid, hDue⟩ := hTarget old (.inl hReplaced.mem_old) hId
        refine ih hNext ?_ fun target' arrearsSum' hUpdate => ?_
        · rintro d (hMem | hDraft)
          · rcases (hReplaced.mem_iff d).mp hMem with ⟨hOld, _⟩ | rfl
            · exact hBalanced d (.inl hOld)
            · exact carriedDemandData_balanced arrears hPaid hDue
          · exact hBalanced d (.inr (hRest hDraft))
        · obtain ⟨hSum, hSame⟩ := hCurrent target' arrearsSum' (hRest hUpdate)
          refine ⟨hSum, ?_⟩
          rintro d (hMem | hDraft) hdId
          · rcases (hReplaced.mem_iff d).mp hMem with ⟨hOld, _⟩ | rfl
            · exact hSame d (.inl hOld) hdId
            · exact hSame old (.inl hReplaced.mem_old) hdId
          · exact hSame d (.inr (hRest hDraft)) hdId

/-! ### A run that nothing comes between -/

section Uninterrupted
variable {ctx : Context} {fromYearId toYearId : Id} {actorId : Option Id}

/-- The year-end run gets from one state to the other by itself. -/
def Reaches (ctx : Context) (fromYearId toYearId : Id) (actorId : Option Id)
    (s s' : YearEnding) : Prop :=
  ∃ n, run (YearEnding.move ctx fromYearId toYearId actorId) s (List.replicate n .committer) = s'

theorem Reaches.trans {a b c : YearEnding} (h : Reaches ctx fromYearId toYearId actorId a b)
    (h' : Reaches ctx fromYearId toYearId actorId b c) :
    Reaches ctx fromYearId toYearId actorId a c := by
  obtain ⟨n, rfl⟩ := h
  obtain ⟨m, rfl⟩ := h'
  exact ⟨n + m, by rw [List.replicate_add, run_append]⟩

theorem Reaches.step {s : YearEnding} {committer : Committer} {db : Db}
    (h : s.committer.next ctx fromYearId toYearId actorId s.db = (committer, db)) :
    Reaches ctx fromYearId toYearId actorId s ⟨committer, db⟩ := by
  refine ⟨1, ?_⟩
  change YearEnding.move ctx fromYearId toYearId actorId s .committer = _
  rw [YearEnding.move, h]

/-- A statement that goes through in the view of its transaction brings the committer on. -/
theorem send_ok {tx : YearEndTx} {write : CarryWrite} {next : Committer} {db after view view' : Db}
    (hView : applyWrites tx.writes db = .ok view) (hWrite : write.apply view = .ok view') :
    tx.send write next db after = (next, after) := by
  rw [YearEndTx.send, applyWrites_snoc hView, hWrite]

/-- An arrear row and the update of its target. -/
theorem reaches_carried {tx : YearEndTx} {row : ProposedArrear} {target : PropertyDemand}
    {arrearRows : List DemandArrear} {db view created updated : Db}
    (hView : applyWrites tx.writes db = .ok view)
    (hOpen : ¬ (arrearRows.any fun a =>
      a.sourceAssessmentYearId = row.sourceAssessmentYearId) = true)
    (hCreate : view.createDemandArrear (fun id =>
      { id, demandId := target.id, sourceAssessmentYearId := row.sourceAssessmentYearId
        amount := toColumn row.fromOutstanding }) = .ok created)
    (hUpdate : created.updateDemand target.id (carriedDemandData target
      ((arrearRows.map fun a => toMoney a.amount).sum + row.fromOutstanding)) = .ok updated) :
    ∃ tx' db', Reaches ctx fromYearId toYearId actorId ⟨.located tx row target arrearRows, db⟩
        ⟨.carrying tx', db'⟩ ∧ applyWrites tx'.writes db' = .ok updated ∧ tx'.rows = tx.rows ∧
      tx'.counts = { tx.counts with carried := tx.counts.carried + 1 } ∧
      tx'.existingRun = tx.existingRun ∧ tx'.preview = tx.preview := by
  obtain ⟨demandArrears, hInsert, hCreated⟩ := map_ok hCreate
  have hNextId := applyWrites_keepsNextId hView
  let arrear := CarryWrite.createDemandArrear
    { id := db.nextId, demandId := target.id, sourceAssessmentYearId := row.sourceAssessmentYearId
      amount := toColumn row.fromOutstanding }
  have hArrear : arrear.apply view = .ok { view with demandArrears } := by
    rw [hNextId] at hInsert
    change (view.demandArrears.insert _).map _ = _
    rw [hInsert]
    rfl
  have hSnoc : applyWrites (tx.writes ++ [arrear]) { db with nextId := db.nextId + 1 } =
      .ok created := by
    rw [applyWrites_nextId, applyWrites_snoc hView, hArrear, ← hCreated, ← hNextId]
    rfl
  let total := CarryWrite.updateDemand target
    ((arrearRows.map fun a => toMoney a.amount).sum + row.fromOutstanding)
  let middle : YearEnding :=
    ⟨.arrearCreated { tx with writes := tx.writes ++ [arrear] } row target arrearRows,
      { db with nextId := db.nextId + 1 }⟩
  have hFirst : Reaches ctx fromYearId toYearId actorId ⟨.located tx row target arrearRows, db⟩
      middle := by
    refine Reaches.step ?_
    dsimp only [Committer.next]
    rw [if_neg hOpen]
    exact send_ok hView hArrear
  have hSecond : Reaches ctx fromYearId toYearId actorId middle
      ⟨.carrying (({ tx with writes := tx.writes ++ [arrear] } : YearEndTx).carried total),
        { db with nextId := db.nextId + 1 }⟩ := Reaches.step (send_ok hSnoc hUpdate)
  have hTotal : applyWrites ((tx.writes ++ [arrear]) ++ [total]) { db with nextId := db.nextId + 1 }
      = .ok updated := (applyWrites_snoc hSnoc).trans hUpdate
  exact ⟨_, _, hFirst.trans hSecond, hTotal, rfl, rfl, rfl, rfl⟩

/-- The carry of one row. -/
theorem reaches_row {tx : YearEndTx} {row : ProposedArrear} {rest : List ProposedArrear}
    {db view after : Db} {counts : CarryCounts} (hOwned : view.ledger.Owned)
    (hRows : tx.rows = row :: rest) (hView : applyWrites tx.writes db = .ok view)
    (hRow : carryRow row tx.counts view = .ok (after, counts)) :
    ∃ tx' db', Reaches ctx fromYearId toYearId actorId ⟨.carrying tx, db⟩ ⟨.carrying tx', db'⟩ ∧
      applyWrites tx'.writes db' = .ok after ∧ tx'.rows = rest ∧ tx'.counts = counts ∧
      tx'.existingRun = tx.existingRun ∧ tx'.preview = tx.preview := by
  unfold carryRow at hRow
  obtain ⟨⟨placed, target⟩, hTarget, hRow⟩ := bind_ok hRow
  dsimp only at hRow
  unfold carryTarget at hTarget
  cases hFound : view.demandFor? row.surveyId row.targetAssessmentYearId with
  | some found =>
      rw [hFound] at hTarget
      cases hTarget
      have hLocated : Reaches ctx fromYearId toYearId actorId ⟨.carrying tx, db⟩
          ⟨.located { tx with rows := rest } row target
            (demandArrearsOf view.demandArrears target.id), db⟩ := by
        refine Reaches.step ?_
        dsimp only [Committer.next]
        rw [hRows]
        dsimp only
        rw [hView]
        dsimp only
        rw [hFound]
      split_ifs at hRow with hAlready
      · cases hRow
        have hSkip : Reaches ctx fromYearId toYearId actorId
            ⟨.located { tx with rows := rest } row target
              (demandArrearsOf view.demandArrears target.id), db⟩
            ⟨.carrying ({ tx with rows := rest } : YearEndTx).skip, db⟩ := by
          refine Reaches.step ?_
          dsimp only [Committer.next]
          rw [if_pos hAlready]
        exact ⟨_, _, hLocated.trans hSkip, hView, rfl, rfl, rfl, rfl⟩
      · obtain ⟨created, hCreate, hRow⟩ := bind_ok hRow
        obtain ⟨updated, hUpdate, hRow⟩ := bind_ok hRow
        cases hRow
        obtain ⟨tx', db', hReaches, hWrites, hRest, hCounts, hRun, hPreview⟩ :=
          @reaches_carried ctx fromYearId toYearId actorId { tx with rows := rest } _ _ _ _ _ _ _
            hView hAlready hCreate hUpdate
        exact ⟨tx', db', hLocated.trans hReaches, hWrites, hRest, hCounts, hRun, hPreview⟩
  | none =>
      rw [hFound] at hTarget
      obtain ⟨drafted, hDraft, hPair⟩ := map_ok hTarget
      cases hPair
      obtain ⟨demands, hInsert, hDrafted⟩ := map_ok hDraft
      have hNextId := applyWrites_keepsNextId hView
      have hNone : demandArrearsOf view.demandArrears view.nextId = [] :=
        demandArrearsOf_eq_nil hOwned (added_of_insert hInsert)
      subst hDrafted
      rw [hNone] at hRow
      simp only [List.any_nil, Bool.false_eq_true, ↓reduceIte] at hRow
      obtain ⟨created, hCreate, hRow⟩ := bind_ok hRow
      obtain ⟨updated, hUpdate, hRow⟩ := bind_ok hRow
      cases hRow
      let write := CarryWrite.createDemand (carryDraft row db.nextId)
      have hApply : write.apply view = .ok { view with demands } := by
        rw [hNextId] at hInsert
        change (view.demands.insert _).map _ = _
        rw [carryDraft, hInsert]
        rfl
      have hSnoc : applyWrites (tx.writes ++ [write]) { db with nextId := db.nextId + 1 } =
          .ok { view with demands, nextId := view.nextId + 1 } := by
        rw [applyWrites_nextId, applyWrites_snoc hView, hApply, hNextId]
        rfl
      have hMissing : Reaches ctx fromYearId toYearId actorId ⟨.carrying tx, db⟩
          ⟨.missing { tx with rows := rest } row, db⟩ := by
        refine Reaches.step ?_
        dsimp only [Committer.next]
        rw [hRows]
        dsimp only
        rw [hView]
        dsimp only
        rw [hFound]
      have hDrafts : Reaches ctx fromYearId toYearId actorId
          ⟨.missing { tx with rows := rest } row, db⟩
          ⟨.located { tx with rows := rest, writes := tx.writes ++ [write] } row
            (carryDraft row db.nextId) [], { db with nextId := db.nextId + 1 }⟩ :=
        Reaches.step (send_ok hView hApply)
      rw [hNextId] at hCreate hUpdate
      obtain ⟨tx', db', hReaches, hWrites, hRest, hCounts, hRun, hPreview⟩ :=
        @reaches_carried ctx fromYearId toYearId actorId
          { tx with rows := rest, writes := tx.writes ++ [write] } row
          (carryDraft row db.nextId) [] _ _ _ _ hSnoc (by simp) (by rw [hNextId]; exact hCreate)
          hUpdate
      exact ⟨tx', db', (hMissing.trans hDrafts).trans hReaches, hWrites, hRest, hCounts, hRun,
        hPreview⟩

/-- The committer sends, row by row, what the carrying of all rows in one go writes. -/
theorem reaches_rows {reference : Reference} {sources : List PropertyDemand} {tx : YearEndTx}
    {db view after : Db} {counts : CarryCounts} (hOwned : view.ledger.Owned)
    (hRows : tx.rows = sources.map (proposedArrear reference fromYearId toYearId))
    (hView : applyWrites tx.writes db = .ok view)
    (hCarry : carryRows (sources.map (proposedArrear reference fromYearId toYearId)) tx.counts
      view = .ok (after, counts)) :
    ∃ tx' db', Reaches ctx fromYearId toYearId actorId ⟨.carrying tx, db⟩ ⟨.carrying tx', db'⟩ ∧
      applyWrites tx'.writes db' = .ok after ∧ tx'.rows = [] ∧ tx'.counts = counts ∧
      tx'.existingRun = tx.existingRun ∧ tx'.preview = tx.preview := by
  induction sources generalizing tx db view with
  | nil =>
      cases hCarry
      exact ⟨tx, db, ⟨0, rfl⟩, hView, hRows, rfl, rfl, rfl⟩
  | cons source rest ih =>
      rw [List.map_cons, carryRows] at hCarry
      obtain ⟨⟨carried, counts'⟩, hRow, hRest⟩ := bind_ok hCarry
      obtain ⟨tx', db', hReaches, hWrites, hLeft, hCounts, hRun, hPreview⟩ :=
        reaches_row hOwned hRows hView hRow
      subst hCounts
      obtain ⟨tx'', db'', hReaches', hWrites', hNil, hCounts', hRun', hPreview'⟩ :=
        ih ((carryRow_cases hOwned hRow).owned hOwned) hLeft hWrites hRest
      exact ⟨tx'', db'', hReaches.trans hReaches', hWrites', hNil, hCounts', hRun'.trans hRun,
        hPreview'.trans hPreview⟩

/-- The preview proposes one arrear for each unpaid demand. -/
theorem previewYearEnd_ok {db : Db} {preview : YearEndPreview}
    (h : previewYearEnd ctx fromYearId toYearId db = .ok preview) :
    preview.proposedArrears =
      (unpaidDemands db fromYearId).map (proposedArrear ctx.reference fromYearId toYearId) := by
  obtain ⟨_, _, hPreview⟩ := map_ok h
  rw [← hPreview]

/-- Statement by statement, a run that nothing comes between is the service's
`commitYearEnd`. -/
theorem committer_uninterrupted {db after : Db} {result : YearEndResult} (hOwned : db.ledger.Owned)
    (h : commitYearEnd ctx fromYearId toYearId actorId db = (after, .ok result)) :
    Reaches ctx fromYearId toYearId actorId ⟨.start, db⟩ ⟨.finished (.ok result), after⟩ := by
  unfold commitYearEnd at h
  cases hYears : assertDistinctAssessmentYears ctx.reference fromYearId toYearId with
  | error error =>
      rw [hYears] at h
      cases h
  | ok _ =>
      rw [hYears] at h
      dsimp only at h
      cases hRun : (yearEndRun? db fromYearId toYearId).filter fun r => r.status = .committed with
      | some run =>
          rw [hRun] at h
          cases h
          refine Reaches.step ?_
          dsimp only [Committer.next]
          rw [hYears]
          dsimp only
          rw [hRun]
      | none =>
          rw [hRun] at h
          dsimp only at h
          have hChecked : Reaches ctx fromYearId toYearId actorId ⟨.start, db⟩
              ⟨.checked (yearEndRun? db fromYearId toYearId), db⟩ := by
            refine Reaches.step ?_
            dsimp only [Committer.next]
            rw [hYears]
            dsimp only
            rw [hRun]
          cases hPreview : previewYearEnd ctx fromYearId toYearId db with
          | error error =>
              rw [hPreview] at h
              cases h
          | ok preview =>
              rw [hPreview] at h
              dsimp only at h
              let tx : YearEndTx :=
                { existingRun := yearEndRun? db fromYearId toYearId, preview,
                  rows := preview.proposedArrears, counts := ⟨0, 0⟩, writes := [] }
              have hPreviewed : Reaches ctx fromYearId toYearId actorId
                  ⟨.checked (yearEndRun? db fromYearId toYearId), db⟩ ⟨.carrying tx, db⟩ := by
                refine Reaches.step ?_
                dsimp only [Committer.next]
                rw [hPreview]
              split at h
              · cases h
              · rename_i committed answer hCommit
                cases h
                have hBody := commit_ok hCommit
                unfold yearEndTransaction at hBody
                rw [previewYearEnd_ok hPreview] at hBody
                obtain ⟨⟨carried, counts⟩, hRows, hBody⟩ := bind_ok hBody
                obtain ⟨⟨written, runId⟩, hWrite, hBody⟩ := bind_ok hBody
                cases hBody
                obtain ⟨tx', db', hReaches, hWrites, hNil, hCounts, hRun', hPreview'⟩ :=
                  @reaches_rows ctx fromYearId toYearId actorId _ _ tx db db carried counts hOwned
                    (previewYearEnd_ok hPreview) rfl hRows
                refine ((hChecked.trans hPreviewed).trans hReaches).trans (Reaches.step ?_)
                dsimp only [Committer.next]
                rw [hNil]
                dsimp only [YearEndTx.commit]
                rw [hWrites, hRun', hPreview', hCounts]
                dsimp only [Except.bind]
                rw [hWrite]
                rfl

end Uninterrupted

end PropertyTax
