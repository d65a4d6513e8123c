import PropertyTax.Concurrency.YearEnd

/-! When year-end and payments commute. What the run carries is what the demand
of the old year still owes, and the demand of the new year stays balanced, if no
payment lands on either while the run holds a reading of it. -/
namespace PropertyTax
open KeyedTable Runs

section Invariant
variable {ctx : Context} {fromYearId toYearId : Id} {actorId : Option Id}

/-- The row proposes what a stored demand of the old year owes. -/
def ProposedFrom (fromYearId toYearId : Id) (demands : KeyedTable PropertyDemand) (row : ProposedArrear) : Prop :=
  row.sourceAssessmentYearId = fromYearId ∧ row.targetAssessmentYearId = toYearId ∧
    ∃ d ∈ demands.rows, d.surveyId = row.surveyId ∧ d.assessmentYearId = fromYearId ∧
      0 < d.outstanding ∧ row.fromOutstanding = toMoney d.outstanding

/-- The arrear row carries what a demand of the old year owes in `demands` to a
demand of the new year of the same survey. -/
def CarriedFrom (fromYearId toYearId : Id) (demands : KeyedTable PropertyDemand) (targets : PropertyDemand → Prop)
    (a : DemandArrear) : Prop :=
  a.sourceAssessmentYearId = fromYearId ∧ ∃ d ∈ demands.rows, d.assessmentYearId = fromYearId ∧
    a.amount = d.outstanding ∧ ∃ target, targets target ∧ target.id = a.demandId ∧
      target.surveyId = d.surveyId ∧ target.assessmentYearId = toYearId

/-- The transaction proposes, and has written, only what still holds. -/
structure Carries (fromYearId toYearId : Id) (demands : KeyedTable PropertyDemand) (tx : YearEndTx) : Prop where
  rows : ∀ row ∈ tx.rows, ProposedFrom fromYearId toYearId demands row
  drafts : ∀ d, .createDemand d ∈ tx.writes → d.Balanced
  arrears : ∀ a, .createDemandArrear a ∈ tx.writes →
    CarriedFrom fromYearId toYearId demands (Seen demands tx.writes) a
  current : Current demands tx.writes
  stored : ∀ target arrearsSum, .updateDemand target arrearsSum ∈ tx.writes →
    ∃ d, Seen demands tx.writes d ∧ d.id = target.id

/-- The target is up to date, and it is the demand of the row's survey. -/
structure Reads (toYearId : Id) (demands : KeyedTable PropertyDemand) (writes : List CarryWrite) (row : ProposedArrear)
    (target : PropertyDemand) : Prop where
  current : ∀ d, Seen demands writes d → d.id = target.id →
    d.amountPaid = target.amountPaid ∧ d.currentDemand = target.currentDemand
  stored : ∃ d, Seen demands writes d ∧ d.id = target.id ∧ d.surveyId = row.surveyId ∧
    d.assessmentYearId = toYearId

/-- What the run relies on, wherever it stands. -/
def Committer.Holds (fromYearId toYearId : Id) (demands : KeyedTable PropertyDemand) : Committer → Prop
  | .carrying tx => Carries fromYearId toYearId demands tx
  | .missing tx row => Carries fromYearId toYearId demands tx ∧ ProposedFrom fromYearId toYearId demands row
  | .located tx row target _ => Carries fromYearId toYearId demands tx ∧
      ProposedFrom fromYearId toYearId demands row ∧ Reads toYearId demands tx.writes row target
  | .arrearCreated tx row target _ => Carries fromYearId toYearId demands tx ∧
      ProposedFrom fromYearId toYearId demands row ∧ Reads toYearId demands tx.writes row target
  | _ => True

/-! ### A payment that comes between -/

section Credit
variable {demands demands' : KeyedTable PropertyDemand} {d : PropertyDemand} {amount : Money}

/-- A payment on another year leaves the proposed arrears as they were. -/
theorem proposedFrom_credit (hDemand : Replaced demands demands' d (d.credit amount))
    (hYear : d.assessmentYearId ≠ fromYearId) {row : ProposedArrear}
    (h : ProposedFrom fromYearId toYearId demands row) : ProposedFrom fromYearId toYearId demands' row := by
  obtain ⟨hSource, hTarget, e, he, hSurvey, heYear, hOwes⟩ := h
  rcases hDemand.exists_row he with hRow | rfl
  · exact ⟨hSource, hTarget, e, hRow, hSurvey, heYear, hOwes⟩
  · exact absurd heYear hYear

/-- A credited demand is seen under the same key, survey and year. -/
theorem seen_credit (hDemand : Replaced demands demands' d (d.credit amount))
    {writes : List CarryWrite} {e : PropertyDemand} (h : Seen demands writes e) :
    ∃ e', Seen demands' writes e' ∧ e'.id = e.id ∧ e'.surveyId = e.surveyId ∧
      e'.assessmentYearId = e.assessmentYearId := by
  rcases h with hMem | hDraft
  · rcases hDemand.exists_row hMem with hRow | rfl
    · exact ⟨e, .inl hRow, rfl, rfl, rfl⟩
    · exact ⟨_, .inl hDemand.mem_new, rfl, rfl, rfl⟩
  · exact ⟨e, .inr hDraft, rfl, rfl, rfl⟩

/-- A payment on another year leaves a carried arrear what its source owed. -/
theorem carriedFrom_credit (hDemand : Replaced demands demands' d (d.credit amount))
    (hYear : d.assessmentYearId ≠ fromYearId) {writes : List CarryWrite} {a : DemandArrear}
    (h : CarriedFrom fromYearId toYearId demands (Seen demands writes) a) :
    CarriedFrom fromYearId toYearId demands' (Seen demands' writes) a := by
  obtain ⟨hSource, e, he, heYear, hAmount, target, hSeen, hId, hSurvey, hTargetYear⟩ := h
  obtain ⟨target', hSeen', hId', hSurvey', hYear'⟩ := seen_credit hDemand hSeen
  rcases hDemand.exists_row he with hRow | rfl
  · exact ⟨hSource, e, hRow, heYear, hAmount, target', hSeen', hId'.trans hId,
      hSurvey'.trans hSurvey, hYear'.trans hTargetYear⟩
  · exact absurd heYear hYear

/-- What is seen under another key than that of the credited demand is as before. -/
theorem seen_of_credit (hDemand : Replaced demands demands' d (d.credit amount))
    {writes : List CarryWrite} {e : PropertyDemand} (h : Seen demands' writes e)
    (hOther : e.id = d.id → d.credit amount = d) : Seen demands writes e := by
  refine h.imp_left fun hMem => ?_
  rcases (hDemand.mem_iff e).mp hMem with ⟨hOld, _⟩ | rfl
  · exact hOld
  · rw [hOther rfl]
    exact hDemand.mem_old

/-- A payment that hits no demand the transaction has written leaves what it carries in order. -/
theorem carries_credit (hDemand : Replaced demands demands' d (d.credit amount))
    (hYear : d.assessmentYearId ≠ fromYearId) {tx : YearEndTx}
    (hLocked : ∀ target arrearsSum, .updateDemand target arrearsSum ∈ tx.writes →
      target.id = d.id → d.credit amount = d)
    (h : Carries fromYearId toYearId demands tx) : Carries fromYearId toYearId demands' tx where
  rows row hRow := proposedFrom_credit hDemand hYear (h.rows row hRow)
  drafts := h.drafts
  arrears a ha := carriedFrom_credit hDemand hYear (h.arrears a ha)
  current target arrearsSum hUpdate := by
    obtain ⟨hSum, hSame⟩ := h.current target arrearsSum hUpdate
    refine ⟨hSum, fun e he heId => hSame e (seen_of_credit hDemand he fun hId => ?_) heId⟩
    exact hLocked target arrearsSum hUpdate (heId.symm.trans hId)
  stored target arrearsSum hUpdate := by
    obtain ⟨e, he, heId⟩ := h.stored target arrearsSum hUpdate
    obtain ⟨e', he', heId', _, _⟩ := seen_credit hDemand he
    exact ⟨e', he', heId'.trans heId⟩

/-- A payment on another demand leaves the reading of the target current. -/
theorem reads_credit (hDemand : Replaced demands demands' d (d.credit amount))
    {writes : List CarryWrite} {row : ProposedArrear} {target : PropertyDemand}
    (hOther : d.id ≠ target.id) (h : Reads toYearId demands writes row target) :
    Reads toYearId demands' writes row target where
  current e he heId :=
    h.current e (seen_of_credit hDemand he fun hId => absurd (hId.symm.trans heId) hOther) heId
  stored := by
    obtain ⟨e, he, heId, hSurvey, hYear⟩ := h.stored
    obtain ⟨e', he', heId', hSurvey', hYear'⟩ := seen_credit hDemand he
    exact ⟨e', he', heId'.trans heId, hSurvey'.trans hSurvey, hYear'.trans hYear⟩

end Credit

/-! ### A statement of the run -/

section Statement
variable {db view : Db} {tx : YearEndTx} {row : ProposedArrear} {target : PropertyDemand}

/-- Fewer rows are left to carry, the rest is as before. -/
theorem Carries.subset {tx' : YearEndTx} (h : Carries fromYearId toYearId db.demands tx)
    (hRows : ∀ row ∈ tx'.rows, row ∈ tx.rows) (hWrites : tx'.writes = tx.writes) :
    Carries fromYearId toYearId db.demands tx' where
  rows row hRow := h.rows row (hRows row hRow)
  drafts := hWrites ▸ h.drafts
  arrears := hWrites ▸ h.arrears
  current := hWrites ▸ h.current
  stored := hWrites ▸ h.stored

/-- The preview proposes what the demands owe. -/
theorem carries_preview {reference : Reference} {existingRun : Option YearEndRun}
    {preview : YearEndPreview}
    (hPreview : preview.proposedArrears =
      (unpaidDemands db fromYearId).map (proposedArrear reference fromYearId toYearId)) :
    Carries fromYearId toYearId db.demands ⟨existingRun, preview, preview.proposedArrears, ⟨0, 0⟩, []⟩ where
  rows row hRow := by
    dsimp only at hRow
    rw [hPreview] at hRow
    obtain ⟨d, hd, rfl⟩ := List.mem_map.mp hRow
    obtain ⟨hMem, hYear, _, hOwes⟩ := mem_of_unpaidDemands hd
    exact ⟨rfl, rfl, d, hMem, rfl, hYear, hOwes, rfl⟩
  drafts d hd := absurd hd List.not_mem_nil
  arrears a ha := absurd ha List.not_mem_nil
  current target arrearsSum hUpdate := absurd hUpdate List.not_mem_nil
  stored target arrearsSum hUpdate := absurd hUpdate List.not_mem_nil

/-- A target that the transaction finds is the one demand it sees there. -/
theorem reads_found (hView : applyWrites tx.writes db = .ok view)
    (hRow : ProposedFrom fromYearId toYearId db.demands row)
    (hFound : view.demandFor? row.surveyId row.targetAssessmentYearId = some target) :
    Reads toYearId db.demands tx.writes row target := by
  obtain ⟨hMem, hSurvey, hYear⟩ := Db.demandFor?_spec hFound
  obtain ⟨hOf, hTo⟩ := applyWrites_demands hView
  constructor
  · intro d hd hId
    obtain ⟨d', hd', hSame⟩ := hTo d hd
    obtain rfl : d' = target := eq_of_key hd' hMem (hSame.id.trans hId)
    exact ⟨hSame.amountPaid.symm, hSame.currentDemand.symm⟩
  · obtain ⟨d, hd, hSame⟩ := hOf target hMem
    exact ⟨d, hd, hSame.id.symm, hSame.surveyId.symm.trans hSurvey,
      (hSame.assessmentYearId.symm.trans hYear).trans hRow.2.1⟩

/-- A transaction sees the demands that it creates. -/
theorem seen_snoc {writes : List CarryWrite} {write : CarryWrite} {d : PropertyDemand} :
    Seen db.demands (writes ++ [write]) d ↔ Seen db.demands writes d ∨ write = .createDemand d := by
  unfold Seen
  rw [List.mem_append, List.mem_singleton, or_assoc, eq_comm]

/-- The draft of a row is balanced. -/
theorem carryDraft_balanced (hRow : ProposedFrom fromYearId toYearId db.demands row) (id : Id) :
    (carryDraft row id).Balanced := by
  obtain ⟨_, _, d, _, _, _, hOwes, hAmount⟩ := hRow
  refine ⟨(zero_add _).symm, ?_⟩
  change toColumn row.fromOutstanding = max 0 (toColumn row.fromOutstanding - 0)
  rw [hAmount, toColumn_toMoney, sub_zero, max_eq_right hOwes.le]

/-- A draft is a demand of its own: nothing that was seen before has its key. -/
theorem carries_drafted {view' : Db} {id : Id} (hView : applyWrites tx.writes db = .ok view)
    (hWrite : (CarryWrite.createDemand (carryDraft row id)).apply view = .ok view')
    (hRow : ProposedFrom fromYearId toYearId db.demands row) (h : Carries fromYearId toYearId db.demands tx) :
    Carries fromYearId toYearId db.demands
        { tx with writes := tx.writes ++ [.createDemand (carryDraft row id)] } ∧
      Reads toYearId db.demands (tx.writes ++ [.createDemand (carryDraft row id)]) row
        (carryDraft row id) := by
  obtain ⟨demands, hInsert, _⟩ := map_ok hWrite
  have hAdded := added_of_insert hInsert
  have hFresh : ∀ d, Seen db.demands tx.writes d → d.id ≠ id := by
    intro d hd
    obtain ⟨d', hd', hSame⟩ := (applyWrites_demands hView).2 d hd
    exact hSame.id ▸ hAdded.key_ne hd'
  have hSeen : ∀ d, Seen db.demands (tx.writes ++ [.createDemand (carryDraft row id)]) d ↔
      Seen db.demands tx.writes d ∨ d = carryDraft row id := by
    intro d
    rw [seen_snoc, CarryWrite.createDemand.injEq]
    exact or_congr_right eq_comm
  have hMem : ∀ {write}, write ∈ tx.writes ++ [.createDemand (carryDraft row id)] →
      write ∈ tx.writes ∨ write = .createDemand (carryDraft row id) := by
    intro write hWritten
    simpa using hWritten
  refine ⟨⟨h.rows, ?_, ?_, ?_, ?_⟩, ?_, ?_⟩
  · intro d hd
    rcases hMem hd with hOld | hNew
    · exact h.drafts d hOld
    · cases hNew
      exact carryDraft_balanced hRow id
  · intro a ha
    obtain ⟨hSource, d, hd, hYear, hAmount, target, hTarget, hRest⟩ :=
      h.arrears a ((hMem ha).resolve_right fun hNew => by cases hNew)
    exact ⟨hSource, d, hd, hYear, hAmount, target, (hSeen target).mpr (.inl hTarget), hRest⟩
  · intro target arrearsSum hUpdate
    have hOld := (hMem hUpdate).resolve_right fun hNew => by cases hNew
    obtain ⟨hSum, hSame⟩ := h.current target arrearsSum hOld
    refine ⟨hSum, fun d hd hId => ?_⟩
    rcases (hSeen d).mp hd with hBefore | rfl
    · exact hSame d hBefore hId
    · obtain ⟨e, he, heId⟩ := h.stored target arrearsSum hOld
      exact absurd (heId.trans hId.symm) (hFresh e he)
  · intro target arrearsSum hUpdate
    obtain ⟨d, hd, hId⟩ := h.stored target arrearsSum
      ((hMem hUpdate).resolve_right fun hNew => by cases hNew)
    exact ⟨d, (hSeen d).mpr (.inl hd), hId⟩
  · intro d hd hId
    rcases (hSeen d).mp hd with hBefore | rfl
    · exact absurd hId (hFresh d hBefore)
    · exact ⟨rfl, rfl⟩
  · exact ⟨carryDraft row id, (hSeen _).mpr (.inr rfl), rfl, rfl, hRow.2.1⟩

/-- A write that drafts nothing, and is true of what is seen. -/
theorem Carries.snoc (row : ProposedArrear) {write : CarryWrite}
    (h : Carries fromYearId toYearId db.demands tx) (hDraft : ∀ d, write ≠ .createDemand d)
    (hArrear : ∀ a, write = .createDemandArrear a →
      CarriedFrom fromYearId toYearId db.demands (Seen db.demands tx.writes) a)
    (hUpdate : ∀ target arrearsSum, write = .updateDemand target arrearsSum →
      (∃ arrears : Money, arrearsSum = toMoney arrears) ∧ Reads toYearId db.demands tx.writes row target) :
    Carries fromYearId toYearId db.demands { tx with writes := tx.writes ++ [write] } := by
  have hSeen : ∀ d, Seen db.demands (tx.writes ++ [write]) d ↔ Seen db.demands tx.writes d := fun d =>
    seen_snoc.trans (or_iff_left (hDraft d))
  have hMem : ∀ {w}, w ∈ tx.writes ++ [write] → w ∈ tx.writes ∨ write = w := by
    intro w hWritten
    rw [List.mem_append, List.mem_singleton] at hWritten
    exact hWritten.imp_right Eq.symm
  refine ⟨h.rows, ?_, ?_, ?_, ?_⟩
  · exact fun d hd => h.drafts d ((hMem hd).resolve_right (hDraft d))
  · intro a ha
    obtain ⟨hSource, d, hd, hYear, hAmount, e, he, hRest⟩ := (hMem ha).elim (h.arrears a) (hArrear a)
    exact ⟨hSource, d, hd, hYear, hAmount, e, (hSeen e).mpr he, hRest⟩
  · intro target arrearsSum hWritten
    rcases hMem hWritten with hOld | hNew
    · obtain ⟨hSum, hSame⟩ := h.current target arrearsSum hOld
      exact ⟨hSum, fun d hd => hSame d ((hSeen d).mp hd)⟩
    · obtain ⟨hSum, hReads⟩ := hUpdate target arrearsSum hNew
      exact ⟨hSum, fun d hd => hReads.current d ((hSeen d).mp hd)⟩
  · intro target arrearsSum hWritten
    rcases hMem hWritten with hOld | hNew
    · obtain ⟨d, hd, hId⟩ := h.stored target arrearsSum hOld
      exact ⟨d, (hSeen d).mpr hd, hId⟩
    · obtain ⟨d, hd, hId, _⟩ := (hUpdate target arrearsSum hNew).2.stored
      exact ⟨d, (hSeen d).mpr hd, hId⟩

/-- The arrear row of a located target. -/
theorem carries_arrearCreated {write : CarryWrite} {id : Id}
    (hWrite : write = .createDemandArrear
      ⟨id, target.id, row.sourceAssessmentYearId, toColumn row.fromOutstanding⟩)
    (hRow : ProposedFrom fromYearId toYearId db.demands row)
    (hReads : Reads toYearId db.demands tx.writes row target) (h : Carries fromYearId toYearId db.demands tx) :
    Carries fromYearId toYearId db.demands { tx with writes := tx.writes ++ [write] } ∧
      Reads toYearId db.demands (tx.writes ++ [write]) row target := by
  subst hWrite
  have hDraft : ∀ d, CarryWrite.createDemandArrear
      ⟨id, target.id, row.sourceAssessmentYearId, toColumn row.fromOutstanding⟩ ≠
        .createDemand d := fun d hNew => by cases hNew
  refine ⟨h.snoc row hDraft (fun a hNew => ?_) (fun _ _ hNew => by cases hNew), ?_, ?_⟩
  · cases hNew
    obtain ⟨hSource, _, d, hd, hSurvey, hYear, _, hAmount⟩ := hRow
    obtain ⟨e, he, heId, heSurvey, heYear⟩ := hReads.stored
    refine ⟨hSource, d, hd, hYear, ?_, e, he, heId, heSurvey.trans hSurvey.symm, heYear⟩
    rw [hAmount, toColumn_toMoney]
  · exact fun d hd => hReads.current d ((seen_snoc.mp hd).resolve_right (hDraft d))
  · obtain ⟨e, he, hRest⟩ := hReads.stored
    exact ⟨e, seen_snoc.mpr (.inl he), hRest⟩

/-- The update of a target that is still up to date. -/
theorem carries_updated {arrearRows : List DemandArrear}
    (hRow : ProposedFrom fromYearId toYearId db.demands row)
    (hReads : Reads toYearId db.demands tx.writes row target) (h : Carries fromYearId toYearId db.demands tx) :
    Carries fromYearId toYearId db.demands (tx.carried (.updateDemand target
      ((arrearRows.map fun a => toMoney a.amount).sum + row.fromOutstanding))) := by
  refine (h.snoc row (fun _ hNew => by cases hNew) (fun _ hNew => by cases hNew)
    fun _ _ hNew => ?_).subset (fun _ hLeft => hLeft) rfl
  cases hNew
  obtain ⟨_, _, d, _, _, _, _, hAmount⟩ := hRow
  refine ⟨⟨(arrearRows.map DemandArrear.amount).sum + d.outstanding, ?_⟩, hReads⟩
  rw [toMoney_add, ← sum_map_toMoney, List.map_map, hAmount]
  rfl

end Statement

/-! ### Up to the commit -/

/-- The run has not finished, what it relies on holds, and nothing of it is
visible yet. -/
structure Underway (fromYearId toYearId : Id) (before : Db) (s : YearEnding) : Prop where
  holds : s.committer.Holds fromYearId toYearId s.db.demands
  balanced : ∀ d ∈ s.db.demands.rows, d.Balanced
  demandArrears : s.db.demandArrears = before.demandArrears

/-- What holds from the commit on: new arrear rows carry what was owed at the
commit, and every demand is balanced. -/
structure Agreed (fromYearId toYearId : Id) (before atCommit : Db) (db : Db) : Prop where
  carried : ∀ a ∈ db.demandArrears.rows, a ∈ before.demandArrears.rows ∨
    CarriedFrom fromYearId toYearId atCommit.demands (fun d => d ∈ db.demands.rows) a
  balanced : ∀ d ∈ db.demands.rows, d.Balanced

variable {before : Db} {s : YearEnding}

/-- A write that is sent leads on, or the transaction is rolled back. -/
theorem send_cases (tx : YearEndTx) (write : CarryWrite) (next : Committer) (db after : Db) :
    (∃ error, tx.send write next db after = (.finished (.error error), db)) ∨
      (∃ view, applyWrites (tx.writes ++ [write]) db = .ok view) ∧
        tx.send write next db after = (next, after) := by
  unfold YearEndTx.send
  cases hWrites : applyWrites (tx.writes ++ [write]) db with
  | error refusal => exact .inl ⟨_, rfl⟩
  | ok view => exact .inr ⟨⟨view, rfl⟩, rfl⟩

/-- The commit puts the view of the transaction into the database, or changes nothing. -/
theorem commit_cases (tx : YearEndTx) (ctx : Context) (actorId : Option Id) (db : Db) :
    (∃ error, tx.commit ctx actorId db = (.finished (.error error), db)) ∨
      ∃ view after result, applyWrites tx.writes db = .ok view ∧ after.ledger = view.ledger ∧
        tx.commit ctx actorId db = (.finished (.ok result), after) := by
  unfold YearEndTx.commit
  cases hWrites : applyWrites tx.writes db with
  | error refusal => exact .inl ⟨_, rfl⟩
  | ok view =>
      dsimp only [Except.bind]
      split
      · exact .inl ⟨_, rfl⟩
      · rename_i hWrite
        have hLedger := writeYearEndRun_ledger hWrite
        refine .inr ⟨view, _, _, rfl, ?_, rfl⟩
        exact hLedger

/-- The committer's own step finishes it or leaves it underway. -/
theorem next_underway (h : Underway fromYearId toYearId before s) :
    (∃ result, (s.committer.next ctx fromYearId toYearId actorId s.db).1 = .finished result) ∨
      Underway fromYearId toYearId before
        ⟨(s.committer.next ctx fromYearId toYearId actorId s.db).1,
          (s.committer.next ctx fromYearId toYearId actorId s.db).2⟩ := by
  obtain ⟨committer, db⟩ := s
  obtain ⟨hHolds, hBalanced, hArrears⟩ := h
  cases committer with
  | start =>
      dsimp only [Committer.next]
      split
      · exact .inl ⟨_, rfl⟩
      · split
        · exact .inl ⟨_, rfl⟩
        · exact .inr ⟨trivial, hBalanced, hArrears⟩
  | checked existingRun =>
      dsimp only [Committer.next]
      cases hPreview : previewYearEnd ctx fromYearId toYearId db with
      | error error => exact .inl ⟨_, rfl⟩
      | ok preview =>
          exact .inr ⟨carries_preview (previewYearEnd_ok hPreview), hBalanced, hArrears⟩
  | carrying tx =>
      have hCarries : Carries fromYearId toYearId db.demands tx := hHolds
      dsimp only [Committer.next]
      split
      · rcases commit_cases tx ctx actorId db with ⟨error, hCommit⟩ | ⟨_, _, _, _, _, hCommit⟩
        · exact .inl ⟨_, by rw [hCommit]⟩
        · exact .inl ⟨_, by rw [hCommit]⟩
      · rename_i row rest hRows
        have hRow : ProposedFrom fromYearId toYearId db.demands row :=
          hCarries.rows row (hRows ▸ List.mem_cons_self)
        have hRest : Carries fromYearId toYearId db.demands { tx with rows := rest } :=
          hCarries.subset (fun r hr => hRows ▸ List.mem_cons_of_mem _ hr) rfl
        cases hView : applyWrites tx.writes db with
        | error refusal => exact .inl ⟨_, rfl⟩
        | ok view =>
            dsimp only
            cases hFound : view.demandFor? row.surveyId row.targetAssessmentYearId with
            | none => exact .inr ⟨⟨hRest, hRow⟩, hBalanced, hArrears⟩
            | some target =>
                exact .inr ⟨⟨hRest, hRow, reads_found hView hRow hFound⟩, hBalanced, hArrears⟩
  | missing tx row =>
      obtain ⟨hCarries, hRow⟩ := hHolds
      dsimp only [Committer.next]
      rcases send_cases tx (.createDemand (carryDraft row db.nextId)) _ db _ with
        ⟨error, hSend⟩ | ⟨⟨view', hWrites⟩, hSend⟩
      · exact .inl ⟨_, by rw [hSend]⟩
      · rw [hSend]
        obtain ⟨view, hView, hWrite⟩ := applyWrites_snoc_ok hWrites
        obtain ⟨hCarries', hReads⟩ := carries_drafted hView hWrite hRow hCarries
        exact .inr ⟨⟨hCarries', hRow, hReads⟩, hBalanced, hArrears⟩
  | located tx row target arrearRows =>
      obtain ⟨hCarries, hRow, hReads⟩ := hHolds
      dsimp only [Committer.next]
      split_ifs
      · exact .inr ⟨hCarries.subset (fun _ hLeft => hLeft) rfl, hBalanced, hArrears⟩
      · rcases send_cases tx (.createDemandArrear ⟨db.nextId, target.id,
          row.sourceAssessmentYearId, toColumn row.fromOutstanding⟩) _ db _ with
          ⟨error, hSend⟩ | ⟨_, hSend⟩
        · exact .inl ⟨_, by rw [hSend]⟩
        · rw [hSend]
          obtain ⟨hCarries', hReads'⟩ := carries_arrearCreated rfl hRow hReads hCarries
          exact .inr ⟨⟨hCarries', hRow, hReads'⟩, hBalanced, hArrears⟩
  | arrearCreated tx row target arrearRows =>
      obtain ⟨hCarries, hRow, hReads⟩ := hHolds
      dsimp only [Committer.next]
      rcases send_cases tx (.updateDemand target
        ((arrearRows.map fun a => toMoney a.amount).sum + row.fromOutstanding)) _ db _ with
        ⟨error, hSend⟩ | ⟨_, hSend⟩
      · exact .inl ⟨_, by rw [hSend]⟩
      · rw [hSend]
        exact .inr ⟨carries_updated hRow hReads hCarries, hBalanced, hArrears⟩
  | finished result => exact .inl ⟨result, rfl⟩

/-- The commit makes visible what the run relied on. -/
theorem next_agreed (h : Underway fromYearId toYearId before s) {tx : YearEndTx}
    (hTx : s.committer.tx? = some tx) {result : YearEndResult}
    (hDone : (s.committer.next ctx fromYearId toYearId actorId s.db).1 = .finished (.ok result)) :
    Agreed fromYearId toYearId before s.db
      (s.committer.next ctx fromYearId toYearId actorId s.db).2 := by
  obtain ⟨committer, db⟩ := s
  obtain ⟨hHolds, hBalanced, hArrears⟩ := h
  cases committer with
  | start => cases hTx
  | checked existingRun => cases hTx
  | finished result => cases hTx
  | missing tx row =>
      dsimp only [Committer.next] at hDone
      rcases send_cases tx (.createDemand (carryDraft row db.nextId)) _ db _ with
        ⟨error, hSend⟩ | ⟨_, hSend⟩
      · rw [hSend] at hDone
        cases hDone
      · rw [hSend] at hDone
        cases hDone
  | located tx row target arrearRows =>
      dsimp only [Committer.next] at hDone
      split_ifs at hDone
      · rcases send_cases tx (.createDemandArrear ⟨db.nextId, target.id,
          row.sourceAssessmentYearId, toColumn row.fromOutstanding⟩) _ db _ with
          ⟨error, hSend⟩ | ⟨_, hSend⟩
        · rw [hSend] at hDone
          cases hDone
        · rw [hSend] at hDone
          cases hDone
  | arrearCreated tx row target arrearRows =>
      dsimp only [Committer.next] at hDone
      rcases send_cases tx (.updateDemand target
        ((arrearRows.map fun a => toMoney a.amount).sum + row.fromOutstanding)) _ db _ with
        ⟨error, hSend⟩ | ⟨_, hSend⟩
      · rw [hSend] at hDone
        cases hDone
      · rw [hSend] at hDone
        cases hDone
  | carrying tx' =>
      have hCarries : Carries fromYearId toYearId db.demands tx' := hHolds
      dsimp only [Committer.next] at hDone ⊢
      split at hDone
      · rcases commit_cases tx' ctx actorId db with
          ⟨error, hCommit⟩ | ⟨view, after, result', hView, hLedger, hCommit⟩
        · rw [hCommit] at hDone
          cases hDone
        · rw [hCommit]
          have hDemands : after.demands = view.demands := congrArg Ledger.demands hLedger
          have hRows : after.demandArrears = view.demandArrears :=
            congrArg Ledger.demandArrears hLedger
          refine ⟨fun a ha => ?_, ?_⟩
          · rw [hRows] at ha
            rcases applyWrites_demandArrears hView a ha with hOld | hNew
            · exact .inl (hArrears ▸ hOld)
            · obtain ⟨hSource, d, hd, hYear, hAmount, target, hTarget, hId, hSurvey, hTo⟩ :=
                hCarries.arrears a hNew
              obtain ⟨target', hMem, hSame⟩ := (applyWrites_demands hView).2 target hTarget
              exact .inr ⟨hSource, d, hd, hYear, hAmount, target', hDemands ▸ hMem,
                hSame.id.trans hId, hSame.surveyId.trans hSurvey, hSame.assessmentYearId.trans hTo⟩
          · rw [hDemands]
            exact applyWrites_balanced hView
              (fun d hd => hd.elim (hBalanced d) (hCarries.drafts d)) hCarries.current
      · cases hView : applyWrites tx'.writes db with
        | error refusal =>
            rw [hView] at hDone
            cases hDone
        | ok view =>
            rw [hView] at hDone
            dsimp only at hDone
            split at hDone <;> cases hDone

/-! ### Every interleaving -/

/-- No payment lands on a demand of the old year between the preview and the
commit, nor on a carry target between its reading and its update. -/
def Undisturbed (fromYearId : Id) (s : YearEnding) : YearEndMove → Prop
  | .committer => True
  | .call call => call.IsPayment ∧ ∀ p d, call.Pays s.db p d →
      (s.committer.tx?.isSome → d.assessmentYearId ≠ fromYearId) ∧
        ∀ target, s.committer.target? = some target → d.id ≠ target.id

/-- A call that is no publishing and no year-end run. -/
def YearEndMove.IsPayment : YearEndMove → Prop
  | .committer => True
  | .call c => c.IsPayment

/-- An update locks its target: a demand that it stays the same for is not credited. -/
theorem credit_eq_of_locked {demands demands' : KeyedTable PropertyDemand} {d : PropertyDemand}
    {amount : Money} (hDemand : Replaced demands demands' d (d.credit amount)) {tx : YearEndTx}
    (hLocked : ∀ id ∈ tx.writes.filterMap CarryWrite.locks, demands'.find? id = demands.find? id)
    {target : PropertyDemand} {arrearsSum : ℚ}
    (hUpdate : .updateDemand target arrearsSum ∈ tx.writes) (hId : target.id = d.id) :
    d.credit amount = d := by
  have hSame := hLocked target.id (List.mem_filterMap.mpr ⟨_, hUpdate, rfl⟩)
  have hOld : demands.find? target.id = some d :=
    find?_eq_some_iff.mpr ⟨hDemand.mem_old, hId.symm⟩
  have hNew : demands'.find? target.id = some (d.credit amount) :=
    find?_eq_some_iff.mpr ⟨hDemand.mem_new, hId.symm⟩
  rw [hOld, hNew] at hSame
  exact Option.some.inj hSame

/-- What the committer holds survives a payment that touches none of it. -/
theorem holds_credit {demands demands' : KeyedTable PropertyDemand} {d : PropertyDemand}
    {amount : Money} (hDemand : Replaced demands demands' d (d.credit amount))
    {committer : Committer}
    (hLocked : ∀ id ∈ committer.locked, demands'.find? id = demands.find? id)
    (hYear : committer.tx?.isSome → d.assessmentYearId ≠ fromYearId)
    (hTarget : ∀ target, committer.target? = some target → d.id ≠ target.id)
    (h : committer.Holds fromYearId toYearId demands) :
    committer.Holds fromYearId toYearId demands' := by
  cases committer with
  | start => trivial
  | checked existingRun => trivial
  | finished result => trivial
  | carrying tx =>
      exact carries_credit hDemand (hYear rfl) (fun _ _ => credit_eq_of_locked hDemand hLocked) h
  | missing tx row =>
      exact ⟨carries_credit hDemand (hYear rfl) (fun _ _ => credit_eq_of_locked hDemand hLocked) h.1,
        proposedFrom_credit hDemand (hYear rfl) h.2⟩
  | located tx row target arrearRows =>
      exact ⟨carries_credit hDemand (hYear rfl) (fun _ _ => credit_eq_of_locked hDemand hLocked) h.1,
        proposedFrom_credit hDemand (hYear rfl) h.2.1,
        reads_credit hDemand (hTarget target rfl) h.2.2⟩
  | arrearCreated tx row target arrearRows =>
      exact ⟨carries_credit hDemand (hYear rfl) (fun _ _ => credit_eq_of_locked hDemand hLocked) h.1,
        proposedFrom_credit hDemand (hYear rfl) h.2.1,
        reads_credit hDemand (hTarget target rfl) h.2.2⟩

/-- An undisturbed move finishes the committer or leaves it underway. -/
theorem move_underway (h : Underway fromYearId toYearId before s) {m : YearEndMove}
    (hMove : Undisturbed fromYearId s m) :
    (∃ result, (s.move ctx fromYearId toYearId actorId m).committer = .finished result) ∨
      Underway fromYearId toYearId before (s.move ctx fromYearId toYearId actorId m) := by
  cases m with
  | committer => exact next_underway h
  | call call =>
      obtain ⟨hPayment, hPays⟩ := hMove
      dsimp only [YearEnding.move]
      split_ifs with hLocked
      · obtain ⟨committer, db⟩ := s
        obtain ⟨hHolds, hBalanced, hArrears⟩ := h
        obtain ⟨hSameArrears, hPaid⟩ := perform_paid db hPayment
        refine .inr ⟨?_, ?_, hSameArrears.trans hArrears⟩
        · rcases hPaid with hDemands | ⟨p, d, hPaid, hDemand⟩
          · have hSame : (perform db call).demands = db.demands := hDemands
            rw [hSame]
            exact hHolds
          · obtain ⟨hYear, hTarget⟩ := hPays p d hPaid
            exact holds_credit hDemand hLocked hYear hTarget hHolds
        · rcases hPaid with hDemands | ⟨p, d, _, hDemand⟩
          · have hSame : (perform db call).demands = db.demands := hDemands
            rwa [hSame]
          · exact hDemand.forall_rows hBalanced
              (credit_balanced (hBalanced d hDemand.mem_old) p.amount)
      · exact .inr h

/-- Payments after the commit leave what it wrote in agreement. -/
theorem move_agreed {atCommit : Db} {result : Except ApiError YearEndResult}
    (hFinished : s.committer = .finished result)
    (h : Agreed fromYearId toYearId before atCommit s.db) {m : YearEndMove} (hMove : m.IsPayment) :
    (s.move ctx fromYearId toYearId actorId m).committer = .finished result ∧
      Agreed fromYearId toYearId before atCommit (s.move ctx fromYearId toYearId actorId m).db := by
  obtain ⟨committer, db⟩ := s
  obtain rfl : committer = .finished result := hFinished
  cases m with
  | committer => exact ⟨rfl, h⟩
  | call call =>
      dsimp only [YearEnding.move]
      split_ifs
      · refine ⟨rfl, ?_⟩
        obtain ⟨hSameArrears, hPaid⟩ := perform_paid db hMove
        have hRows : (perform db call).demandArrears = db.demandArrears := hSameArrears
        rcases hPaid with hDemands | ⟨p, d, _, hDemand⟩
        · have hSame : (perform db call).demands = db.demands := hDemands
          exact ⟨by rw [hRows, hSame]; exact h.carried, by rw [hSame]; exact h.balanced⟩
        · refine ⟨fun a ha => ?_, hDemand.forall_rows h.balanced
            (credit_balanced (h.balanced d hDemand.mem_old) p.amount)⟩
          rw [hRows] at ha
          refine (h.carried a ha).imp_right ?_
          rintro ⟨hSource, e, he, hYear, hAmount, target, hTarget, hRest⟩
          rcases hDemand.exists_row hTarget with hRow | rfl
          · exact ⟨hSource, e, he, hYear, hAmount, target, hRow, hRest⟩
          · exact ⟨hSource, e, he, hYear, hAmount, _, hDemand.mem_new, hRest⟩
      · exact ⟨rfl, h⟩

/-- A run that has finished stays so, and starts nothing again. -/
theorem run_finished_committer {result : Except ApiError YearEndResult} (moves : List YearEndMove)
    (hFinished : s.committer = .finished result) :
    (run (YearEnding.move ctx fromYearId toYearId actorId) s moves).committer =
      .finished result := by
  refine run_invariant (fun s : YearEnding => s.committer = .finished result) ?_ hFinished moves
  intro s m hFinished
  cases m with
  | committer =>
      rw [YearEnding.move, hFinished]
      rfl
  | call call =>
      dsimp only [YearEnding.move]
      split_ifs
      · exact hFinished
      · exact hFinished

/-- After these moves the next statement of the run is its commit. -/
def CommitsAfter (ctx : Context) (fromYearId toYearId : Id) (actorId : Option Id) (db : Db)
    (earlier : List YearEndMove) : Prop :=
  let s := run (YearEnding.move ctx fromYearId toYearId actorId) ⟨.start, db⟩ earlier
  s.committer.hasCommitted = false ∧
    (s.move ctx fromYearId toYearId actorId .committer).committer.hasCommitted = true

/-- A payment does not move the committer. -/
theorem move_call_committer (call : Call) :
    (s.move ctx fromYearId toYearId actorId (.call call)).committer = s.committer := by
  dsimp only [YearEnding.move]
  split_ifs <;> rfl

/-- Every interleaving in which the run commits has a moment at which it does. -/
theorem exists_commit {db : Db} {moves : List YearEndMove}
    (hFinal : (run (YearEnding.move ctx fromYearId toYearId actorId) ⟨.start, db⟩
      moves).committer.hasCommitted = true) :
    ∃ earlier later, moves = earlier ++ .committer :: later ∧
      CommitsAfter ctx fromYearId toYearId actorId db earlier := by
  unfold CommitsAfter
  have hOpen : (⟨.start, db⟩ : YearEnding).committer.hasCommitted = false := rfl
  generalize (⟨.start, db⟩ : YearEnding) = s at hFinal hOpen ⊢
  induction moves generalizing s with
  | nil =>
      rw [run_nil, hOpen] at hFinal
      cases hFinal
  | cons m rest ih =>
      cases hNext : (s.move ctx fromYearId toYearId actorId m).committer.hasCommitted with
      | false =>
          obtain ⟨earlier, later, hRest, hCommits⟩ := ih _ hFinal hNext
          exact ⟨m :: earlier, later, by rw [hRest, List.cons_append], hCommits⟩
      | true =>
          cases m with
          | committer => exact ⟨[], rest, rfl, hOpen, hNext⟩
          | call call =>
              rw [move_call_committer, hOpen] at hNext
              cases hNext

/-- Only a transaction commits. -/
theorem tx_of_commit (hOpen : s.committer.hasCommitted = false)
    (hCommits : (s.move ctx fromYearId toYearId actorId .committer).committer.hasCommitted = true) :
    (∃ tx, s.committer.tx? = some tx) ∧ ∃ result,
      (s.move ctx fromYearId toYearId actorId .committer).committer = .finished (.ok result) := by
  constructor
  · obtain ⟨committer, db⟩ := s
    cases committer with
    | start =>
        dsimp only [YearEnding.move, Committer.next] at hCommits
        split at hCommits
        · cases hCommits
        · split at hCommits <;> cases hCommits
    | checked existingRun =>
        dsimp only [YearEnding.move, Committer.next] at hCommits
        split at hCommits <;> cases hCommits
    | finished result =>
        have hSame : (Committer.finished result).hasCommitted = true := hCommits
        exact absurd (hSame.symm.trans hOpen) (by decide)
    | carrying tx => exact ⟨tx, rfl⟩
    | missing tx row => exact ⟨tx, rfl⟩
    | located tx row target arrearRows => exact ⟨tx, rfl⟩
    | arrearCreated tx row target arrearRows => exact ⟨tx, rfl⟩
  · cases hNext : (s.move ctx fromYearId toYearId actorId .committer).committer with
    | finished result =>
        cases result with
        | ok result => exact ⟨result, rfl⟩
        | error error =>
            rw [hNext] at hCommits
            cases hCommits
    | _ =>
        rw [hNext] at hCommits
        cases hCommits

/-- New arrear rows carry what their old demand owed when the run committed, and
every demand of the new year is balanced. -/
structure YearEndAgrees (fromYearId toYearId : Id) (before atCommit final : Db) : Prop where
  carried : ∀ a ∈ final.demandArrears.rows, a ∉ before.demandArrears.rows →
    a.sourceAssessmentYearId = fromYearId ∧
    ∃ d ∈ atCommit.demands.rows, ∃ target ∈ final.demands.rows,
      d.assessmentYearId = fromYearId ∧ target.assessmentYearId = toYearId ∧
      target.surveyId = d.surveyId ∧ a.demandId = target.id ∧ a.amount = d.outstanding
  balanced : ∀ d ∈ final.demands.rows, d.assessmentYearId = toYearId →
    d.outstanding = max 0 (d.totalPayable - d.amountPaid)

/-- Year-end and payments commute in every interleaving that leaves what the
run has read undisturbed until the run has used it. -/
theorem yearEnd_agrees_of_undisturbed {calls : List Call} {earlier later : List YearEndMove}
    (hCommits : CommitsAfter ctx fromYearId toYearId actorId (run perform Db.empty calls) earlier)
    (hAlong : Along (YearEnding.move ctx fromYearId toYearId actorId) (Undisturbed fromYearId)
      ⟨.start, run perform Db.empty calls⟩ (earlier ++ .committer :: later)) :
    YearEndAgrees fromYearId toYearId (run perform Db.empty calls)
      (run (YearEnding.move ctx fromYearId toYearId actorId)
        ⟨.start, run perform Db.empty calls⟩ earlier).db
      (run (YearEnding.move ctx fromYearId toYearId actorId)
        ⟨.start, run perform Db.empty calls⟩ (earlier ++ .committer :: later)).db := by
  obtain ⟨hEarlier, _, hLater⟩ := Along.append.mp hAlong
  have hStart : Underway fromYearId toYearId (run perform Db.empty calls)
      ⟨.start, run perform Db.empty calls⟩ := ⟨trivial, (inBalance_of_run calls).balanced, rfl⟩
  have hUnderway := run_invariant_along
    (fun s => (∃ result, s.committer = .finished result) ∨
      Underway fromYearId toYearId (run perform Db.empty calls) s)
    (fun s m h hMove => by
      rcases h with ⟨result, hFinished⟩ | h
      · exact .inl ⟨result, run_finished_committer [m] hFinished⟩
      · exact move_underway h hMove) (.inr hStart) hEarlier
  obtain ⟨⟨tx, hTx⟩, result, hDone⟩ := tx_of_commit hCommits.1 hCommits.2
  rw [run_append, run_cons]
  generalize run (YearEnding.move ctx fromYearId toYearId actorId)
    ⟨.start, run perform Db.empty calls⟩ earlier = s at hUnderway hTx hDone hLater ⊢
  rcases hUnderway with ⟨result', hFinished⟩ | hUnderway
  · rw [hFinished] at hTx
    cases hTx
  · have hAgreed := next_agreed hUnderway hTx hDone
    obtain ⟨_, hFinal⟩ := run_invariant_along
      (fun s' : YearEnding => s'.committer = .finished (.ok result) ∧
        Agreed fromYearId toYearId (run perform Db.empty calls) s.db s'.db)
      (fun s' m h hMove => by
        refine move_agreed h.1 h.2 ?_
        cases m with
        | committer => trivial
        | call call => exact hMove.1) ⟨hDone, hAgreed⟩ hLater
    refine ⟨fun a ha hNew => ?_, fun d hd _ => (hFinal.balanced d hd).outstanding⟩
    obtain ⟨hSource, d, hd, hYear, hAmount, target, hTarget, hId, hSurvey, hTo⟩ :=
      (hFinal.carried a ha).resolve_left hNew
    exact ⟨hSource, d, hd, target, hTarget, hYear, hTo, hSurvey, hId.symm, hAmount⟩

end Invariant

namespace Sample

/-- One property with a published demand in each of two years. -/
def bothYears : Db :=
  run perform Db.empty [⟨ward, .publish 10 20 none⟩, ⟨ward, .publish 10 21 none⟩]

/-- The balance of year 20 is carried into year 21, while payments are made. -/
def yearEnding (moves : List YearEndMove) : YearEnding :=
  run (YearEnding.move ward 20 21 none) ⟨.start, bothYears⟩ moves

def pay400 (yearId : Id) : YearEndMove := .call ⟨ward, .createOffline (cash 400 yearId) administrator "a"⟩

/-- All statements of the run up to its commit. -/
def upToCommit : List YearEndMove := List.replicate 5 .committer

/-- A payment for the old year comes after the preview. -/
def paidAfterPreview : List YearEndMove :=
  [.committer, .committer, pay400 20, .committer, .committer, .committer]

/-- A payment for the new year comes after its demand was read. -/
def paidAfterRead : List YearEndMove :=
  [.committer, .committer, .committer, pay400 21, .committer, .committer]

end Sample

/-- A payment on the new year, after the commit, leaves the carried arrear as it was. -/
theorem yearEnd_agrees_of_paidLater :
    (Sample.yearEnding (Sample.upToCommit ++ [.committer])).db.demandArrears.rows.length = 1 ∧
    YearEndAgrees 20 21 Sample.bothYears (Sample.yearEnding Sample.upToCommit).db
      (Sample.yearEnding (Sample.upToCommit ++ .committer :: [Sample.pay400 21])).db := by
  refine ⟨by decide +kernel, yearEnd_agrees_of_undisturbed ⟨by decide +kernel, by decide +kernel⟩ ?_⟩
  refine ⟨trivial, trivial, trivial, trivial, trivial, trivial, ⟨trivial, fun p d _ => ⟨?_, ?_⟩⟩,
    trivial⟩
  · intro hOpen
    exact absurd hOpen (by decide +kernel)
  · intro target hTarget
    exact absurd (Option.isSome_of_eq_some hTarget) (by decide +kernel)

/-- The arrears are those of the preview, 400 rupees more than is owed, and the
demand of the new year shows 400 rupees as paid and as owed. -/
theorem yearEnd_disturbed :
    ((Sample.yearEnding (Sample.paidAfterPreview ++ [.committer])).committer.hasCommitted ∧
      ¬ YearEndAgrees 20 21 Sample.bothYears (Sample.yearEnding Sample.paidAfterPreview).db
        (Sample.yearEnding (Sample.paidAfterPreview ++ [.committer])).db) ∧
    (Sample.yearEnding (Sample.paidAfterRead ++ [.committer])).committer.hasCommitted ∧
      ¬ YearEndAgrees 20 21 Sample.bothYears (Sample.yearEnding Sample.paidAfterRead).db
        (Sample.yearEnding (Sample.paidAfterRead ++ [.committer])).db :=
  ⟨⟨by decide +kernel, fun h => absurd h.carried (by decide +kernel)⟩,
    by decide +kernel, fun h => absurd h.balanced (by decide +kernel)⟩

end PropertyTax
