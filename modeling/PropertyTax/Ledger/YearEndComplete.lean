import PropertyTax.Ledger.Operation

/-! Whether a committed year-end run carried everything. The run reads at most
5000 unpaid demands and is never repeated, so what it leaves out stays behind. -/
namespace PropertyTax
open KeyedTable

/-- The published demands of a year that are not paid, all of them. -/
def owingDemands (db : Db) (yearId : Id) : List PropertyDemand :=
  db.demands.rows.filter fun d => d.assessmentYearId = yearId ∧ d.status = .published ∧
    0 < d.outstanding

/-- The arrear rows of one year on the demand of a survey in another. -/
def carriedArrears (db : Db) (surveyId fromYearId toYearId : Id) : List DemandArrear :=
  match db.demandFor? surveyId toYearId with
  | none => []
  | some target => db.demandArrears.rows.filter fun a =>
      a.demandId = target.id ∧ a.sourceAssessmentYearId = fromYearId

/-- Every balance of `before` is carried once, the run that is stored in `after`
counts what was carried, and to commit again changes nothing. -/
structure YearEndComplete (before after : Db) (fromYearId toYearId : Id) : Prop where
  carried : ∀ d ∈ owingDemands before fromYearId,
    (carriedArrears after d.surveyId fromYearId toYearId).map DemandArrear.amount =
      [d.outstanding]
  total : ∃ run summary, yearEndRun? after fromYearId toYearId = some run ∧
    run.status = .committed ∧ run.summary = some summary ∧
    summary.totalArrears = toMoney (((owingDemands before fromYearId).flatMap fun d =>
      carriedArrears after d.surveyId fromYearId toYearId).map DemandArrear.amount).sum
  settled : ∀ ctx actorId, (commitYearEnd ctx fromYearId toYearId actorId after).1 = after

/-- The preview reads every unpaid demand, and no arrear row of another amount
stands in the way of one. -/
def CarriesAll (db : Db) (fromYearId toYearId : Id) : Prop :=
  (owingDemands db fromYearId).length ≤ 5000 ∧
    ∀ d ∈ owingDemands db fromYearId, ∀ a ∈ carriedArrears db d.surveyId fromYearId toYearId,
      a.amount = d.outstanding

/-! ### The demand of a survey and its arrear rows -/

/-- There is one demand of a survey and year. -/
theorem demandFor?_eq_some_iff {db : Db} {surveyId yearId : Id} {d : PropertyDemand} :
    db.demandFor? surveyId yearId = some d ↔
      d ∈ db.demands.rows ∧ d.surveyId = surveyId ∧ d.assessmentYearId = yearId := by
  refine ⟨Db.demandFor?_spec, fun h => ?_⟩
  obtain ⟨hMem, hSurvey, hYear⟩ := h
  refine findFirst?_eq_some_of_mem hMem (by simp [hSurvey, hYear]) fun q hq hFound => ?_
  have hSame : q.surveyId = surveyId ∧ q.assessmentYearId = yearId := by simpa using hFound
  exact eq_of_clash hq hMem (by simp [KeyedRow.clash, hSame, hSurvey, hYear])

/-- What was carried of a survey are the arrears of its new demand that come from the old year. -/
theorem mem_carriedArrears {db : Db} {surveyId fromYearId toYearId : Id} {a : DemandArrear} :
    a ∈ carriedArrears db surveyId fromYearId toYearId ↔
      a ∈ db.demandArrears.rows ∧ a.sourceAssessmentYearId = fromYearId ∧
        ∃ d ∈ db.demands.rows, d.surveyId = surveyId ∧ d.assessmentYearId = toYearId ∧
          a.demandId = d.id := by
  unfold carriedArrears
  cases hFound : db.demandFor? surveyId toYearId with
  | none =>
      refine ⟨fun h => absurd h List.not_mem_nil, fun h => ?_⟩
      obtain ⟨_, _, d, hd, hSurvey, hYear, _⟩ := h
      exact absurd hYear (Db.demandFor?_eq_none hFound d hd hSurvey)
  | some target =>
      obtain ⟨hMem, hSurvey, hYear⟩ := Db.demandFor?_spec hFound
      rw [List.mem_filter, decide_eq_true_eq]
      constructor
      · rintro ⟨ha, hDemandId, hSource⟩
        exact ⟨ha, hSource, target, hMem, hSurvey, hYear, hDemandId⟩
      · rintro ⟨ha, hSource, d, hd, hSurvey', hYear', hDemandId⟩
        have hSame := hFound.symm.trans (demandFor?_eq_some_iff.mpr ⟨hd, hSurvey', hYear'⟩)
        cases hSame
        exact ⟨ha, hDemandId, hSource⟩

/-- The rows are at most one: target and source year are a unique pair. -/
theorem carriedArrears_eq_singleton {db : Db} {surveyId fromYearId toYearId : Id}
    {a : DemandArrear} (h : a ∈ carriedArrears db surveyId fromYearId toYearId) :
    carriedArrears db surveyId fromYearId toYearId = [a] := by
  have hApart : (carriedArrears db surveyId fromYearId toYearId).Pairwise
      fun p q => KeyedRow.clash p q = false := by
    unfold carriedArrears
    split
    · exact List.Pairwise.nil
    · exact db.demandArrears.apart.filter _
  have hOnly : ∀ b ∈ carriedArrears db surveyId fromYearId toYearId,
      ∀ c ∈ carriedArrears db surveyId fromYearId toYearId, KeyedRow.clash b c = true := by
    intro b hb c hc
    obtain ⟨_, hSource, d, hd, hSurvey, hYear, hDemandId⟩ := mem_carriedArrears.mp hb
    obtain ⟨_, hSource', d', hd', hSurvey', hYear', hDemandId'⟩ := mem_carriedArrears.mp hc
    have hSame : d = d' := eq_of_clash hd hd'
      (by simp [KeyedRow.clash, hSurvey, hSurvey', hYear, hYear'])
    simp [KeyedRow.clash, hSource, hSource', hDemandId, hDemandId', hSame]
  match carriedArrears db surveyId fromYearId toYearId, h, hApart, hOnly with
  | [b], h, _, _ => rw [List.mem_singleton.mp h]
  | b :: c :: rest, _, hApart, hOnly =>
      have hClash := hOnly b List.mem_cons_self c (List.mem_cons_of_mem _ List.mem_cons_self)
      rw [(List.pairwise_cons.mp hApart).1 c List.mem_cons_self] at hClash
      cases hClash

/-! ### What carrying one balance does to the arrears of every survey -/

namespace RowCarried
variable {fromYearId toYearId : Id} {source : PropertyDemand} {db db' : Db}

/-- Arrears that are there stay. -/
theorem mem_arrears (h : RowCarried source fromYearId toYearId db db') {a : DemandArrear}
    (ha : a ∈ db.demandArrears.rows) : a ∈ db'.demandArrears.rows := by
  cases h with
  | skipped _ _ _ _ _ _ hSame => rwa [hSame]
  | carried _ _ _ _ _ _ hArrear => exact hArrear.mem_of_mem ha
  | drafted _ _ _ _ _ _ _ _ _ _ hArrear => exact hArrear.mem_of_mem ha

theorem carriedArrears_mono (h : RowCarried source fromYearId toYearId db db') {surveyId : Id}
    {a : DemandArrear} (ha : a ∈ carriedArrears db surveyId fromYearId toYearId) :
    a ∈ carriedArrears db' surveyId fromYearId toYearId := by
  obtain ⟨hMem, hSource, d, hd, hSurvey, hYear, hDemandId⟩ := mem_carriedArrears.mp ha
  obtain ⟨d', hd', hKept⟩ := h.keeps d hd
  exact mem_carriedArrears.mpr ⟨h.mem_arrears hMem, hSource, d', hd',
    hKept.surveyId.trans hSurvey, hKept.assessmentYearId.trans hYear,
    hDemandId.trans hKept.id.symm⟩

/-- The target of the source has a row, stored before or of its balance. -/
theorem exists_carried (h : RowCarried source fromYearId toYearId db db') :
    ∃ a ∈ carriedArrears db' source.surveyId fromYearId toYearId,
      a ∈ carriedArrears db source.surveyId fromYearId toYearId ∨
        a.amount = source.outstanding := by
  cases h with
  | skipped target a hTarget hArrear hDemandId hSource hSame =>
      obtain ⟨hMem, hSurvey, hYear⟩ := Db.demandFor?_spec hTarget
      have hThere := mem_carriedArrears.mpr
        ⟨hArrear, hSource, target, hMem, hSurvey, hYear, hDemandId⟩
      exact ⟨a, hSame ▸ hThere, .inl hThere⟩
  | carried target d' a hTarget hDemand hData hArrear hDemandId hSource hAmount =>
      obtain ⟨_, hSurvey, hYear⟩ := Db.demandFor?_spec hTarget
      subst hData
      exact ⟨a, mem_carriedArrears.mpr ⟨hArrear.mem_row, hSource, _, hDemand.mem_new, hSurvey,
        hYear, hDemandId⟩, .inr hAmount⟩
  | drafted draft d' a hDemand hData hSurvey hYear _ _ _ hArrear hDemandId hSource hAmount =>
      subst hData
      exact ⟨a, mem_carriedArrears.mpr ⟨hArrear.mem_row, hSource, _, hDemand.mem_row, hSurvey,
        hYear, hDemandId⟩, .inr hAmount⟩

/-- The other surveys get no row. -/
theorem carriedArrears_of_ne (h : RowCarried source fromYearId toYearId db db') {surveyId : Id}
    (hne : surveyId ≠ source.surveyId) {a : DemandArrear}
    (ha : a ∈ carriedArrears db' surveyId fromYearId toYearId) :
    a ∈ carriedArrears db surveyId fromYearId toYearId := by
  obtain ⟨hMem, hSource, d, hd, hSurvey, hYear, hDemandId⟩ := mem_carriedArrears.mp ha
  cases h with
  | skipped _ _ _ _ _ _ hSame =>
      subst hSame
      exact ha
  | carried target d' b hTarget hDemand hData hArrear hTargetId =>
      obtain ⟨_, hTargetSurvey, _⟩ := Db.demandFor?_spec hTarget
      rcases (hDemand.mem_iff d).mp hd with ⟨hOld, hKey⟩ | rfl
      · rcases (hArrear.mem_iff a).mp hMem with hThere | rfl
        · exact mem_carriedArrears.mpr ⟨hThere, hSource, d, hOld, hSurvey, hYear, hDemandId⟩
        · exact absurd (hDemandId.symm.trans hTargetId) hKey
      · subst hData
        exact absurd (hSurvey.symm.trans hTargetSurvey) hne
  | drafted draft d' b hDemand hData hDraftSurvey _ _ _ _ hArrear hDraftId =>
      rcases (hDemand.mem_iff d).mp hd with hOld | rfl
      · rcases (hArrear.mem_iff a).mp hMem with hThere | rfl
        · exact mem_carriedArrears.mpr ⟨hThere, hSource, d, hOld, hSurvey, hYear, hDemandId⟩
        · exact absurd (hDemandId.symm.trans hDraftId) (hDemand.key_ne hOld)
      · subst hData
        exact absurd (hSurvey.symm.trans hDraftSurvey) hne

end RowCarried

/-- Rows of distinct surveys are carried one by one: none disturbs another. -/
theorem carryRows_carried {reference : Reference} {fromYearId toYearId : Id}
    {sources : List PropertyDemand} (hDistinct : sources.Pairwise fun d e => d.surveyId ≠ e.surveyId)
    {counts counts' : CarryCounts} {db db' : Db} (hOwned : db.ledger.Owned)
    (h : carryRows (sources.map (proposedArrear reference fromYearId toYearId)) counts db =
      .ok (db', counts')) :
    (∀ surveyId, ∀ a ∈ carriedArrears db surveyId fromYearId toYearId,
      a ∈ carriedArrears db' surveyId fromYearId toYearId) ∧
    (∀ d ∈ sources, ∃ a ∈ carriedArrears db' d.surveyId fromYearId toYearId,
      a ∈ carriedArrears db d.surveyId fromYearId toYearId ∨ a.amount = d.outstanding) ∧
    db'.yearEndRuns = db.yearEndRuns := by
  induction sources generalizing counts db with
  | nil =>
      cases h
      exact ⟨fun _ _ ha => ha, fun _ hd => absurd hd List.not_mem_nil, rfl⟩
  | cons source rest ih =>
      rw [List.map_cons, carryRows] at h
      obtain ⟨⟨after, carried⟩, hRow, h⟩ := bind_ok h
      obtain ⟨hHead, hTail⟩ := List.pairwise_cons.mp hDistinct
      have hCarried := carryRow_cases hOwned hRow
      obtain ⟨hMono, hRest, hRuns⟩ := ih hTail (hCarried.owned hOwned) h
      refine ⟨fun surveyId a ha => hMono surveyId a (hCarried.carriedArrears_mono ha), ?_, ?_⟩
      · intro d hd
        rcases List.mem_cons.mp hd with rfl | hd
        · obtain ⟨a, ha, hAmount⟩ := hCarried.exists_carried
          exact ⟨a, hMono d.surveyId a ha, hAmount⟩
        · obtain ⟨a, ha, hThere | hAmount⟩ := hRest d hd
          · exact ⟨a, ha, .inl (hCarried.carriedArrears_of_ne (hHead d hd).symm hThere)⟩
          · exact ⟨a, ha, .inr hAmount⟩
      · rw [hRuns]
        cases hCarried with
        | skipped _ _ _ _ _ _ hSame => rw [hSame]
        | carried _ _ _ _ _ _ _ _ _ _ _ hRuns => exact hRuns
        | drafted _ _ _ _ _ _ _ _ _ _ _ _ _ _ _ hRuns => exact hRuns

/-! ### The balances that the preview reads -/

/-- The run takes the five thousand that owe most. -/
theorem unpaidDemands_eq (db : Db) (yearId : Id) :
    unpaidDemands db yearId = ((owingDemands db yearId).insertionSort
      fun d e => e.outstanding ≤ d.outstanding).take 5000 := rfl

/-- A demand owes when it is published and something of it is outstanding. -/
theorem mem_owingDemands {db : Db} {yearId : Id} {d : PropertyDemand} :
    d ∈ owingDemands db yearId ↔ d ∈ db.demands.rows ∧ d.assessmentYearId = yearId ∧
      d.status = .published ∧ 0 < d.outstanding := by
  rw [owingDemands, List.mem_filter, decide_eq_true_eq]

/-- One demand a survey and year, so the surveys of one year differ. -/
theorem unpaidDemands_distinct (db : Db) (yearId : Id) :
    (unpaidDemands db yearId).Pairwise fun d e => d.surveyId ≠ e.surveyId := by
  have hOwing : (owingDemands db yearId).Pairwise fun d e => d.surveyId ≠ e.surveyId := by
    refine List.Pairwise.imp_of_mem ?_ (db.demands.apart.filter _)
    intro d e hd he hApart hSurvey
    have hYear := (mem_owingDemands.mp hd).2.1.trans (mem_owingDemands.mp he).2.1.symm
    have hClash : KeyedRow.clash d e = true := by simp [KeyedRow.clash, hSurvey, hYear]
    rw [hApart] at hClash
    cases hClash
  have hSorted := (List.perm_insertionSort (fun d e : PropertyDemand =>
    e.outstanding ≤ d.outstanding) (owingDemands db yearId)).symm.pairwise hOwing Ne.symm
  exact hSorted.sublist (List.take_sublist _ _)

/-- The total of the proposal is the sum of its rows. -/
theorem foldl_fromOutstanding (rows : List ProposedArrear) (total : ℚ) :
    rows.foldl (fun s r => s + r.fromOutstanding) total =
      total + (rows.map ProposedArrear.fromOutstanding).sum := by
  induction rows generalizing total with
  | nil => simp
  | cons row rest ih => rw [List.foldl_cons, ih, List.map_cons, List.sum_cons, add_assoc]

/-- The arrears total of a preview is exact. -/
theorem roundMoney_totalArrears (reference : Reference) (fromYearId toYearId : Id)
    (sources : List PropertyDemand) :
    roundMoney ((sources.map (proposedArrear reference fromYearId toYearId)).foldl
      (fun s r => s + r.fromOutstanding) 0) =
        toMoney (sources.map PropertyDemand.outstanding).sum := by
  have hRows : (sources.map (proposedArrear reference fromYearId toYearId)).map
      ProposedArrear.fromOutstanding =
        (sources.map PropertyDemand.outstanding).map toMoney := by
    rw [List.map_map, List.map_map]
    rfl
  rw [foldl_fromOutstanding, zero_add, hRows, sum_map_toMoney, roundMoney_toMoney]

/-- What the preview leaves out is money: the totals agree only if nothing is
left out. -/
theorem unpaidDemands_sum_eq_iff (db : Db) (yearId : Id) :
    ((unpaidDemands db yearId).map PropertyDemand.outstanding).sum =
        ((owingDemands db yearId).map PropertyDemand.outstanding).sum ↔
      (owingDemands db yearId).length ≤ 5000 := by
  have hPerm := List.perm_insertionSort (fun d e : PropertyDemand =>
    e.outstanding ≤ d.outstanding) (owingDemands db yearId)
  rw [unpaidDemands_eq, ← (hPerm.map _).sum_eq, ← hPerm.length_eq]
  have hPos : ∀ d ∈ (owingDemands db yearId).insertionSort
      (fun d e => e.outstanding ≤ d.outstanding), 0 < d.outstanding := fun d hd =>
    (mem_owingDemands.mp (hPerm.mem_iff.mp hd)).2.2.2
  generalize (owingDemands db yearId).insertionSort
    (fun d e => e.outstanding ≤ d.outstanding) = sorted at hPos
  constructor
  · intro hSum
    by_contra hLong
    have hSplit : (sorted.map PropertyDemand.outstanding).sum =
        ((sorted.take 5000).map PropertyDemand.outstanding).sum +
          ((sorted.drop 5000).map PropertyDemand.outstanding).sum := by
      rw [← List.sum_append, ← List.map_append, List.take_append_drop]
    have hDropped : 0 < ((sorted.drop 5000).map PropertyDemand.outstanding).sum := by
      refine List.sum_pos _ ?_ ?_
      · intro m hm
        obtain ⟨d, hd, rfl⟩ := List.mem_map.mp hm
        exact hPos d (List.mem_of_mem_drop hd)
      · intro hNil
        exact hLong (List.drop_eq_nil_iff.mp (List.map_eq_nil_iff.mp hNil))
    linarith
  · intro hShort
    rw [List.take_of_length_le hShort]

/-! ### The committed run -/

/-- A run that is written as committed is found again as such. -/
theorem writeYearEndRun_found {fromYearId toYearId : Id} {summary : YearEndSummary}
    {now : Timestamp} {actorId : Option Id} {db db' carried : Db} {runId : Id}
    (hRuns : carried.yearEndRuns = db.yearEndRuns)
    (h : writeYearEndRun (yearEndRun? db fromYearId toYearId) fromYearId toYearId summary now
      actorId carried = .ok (db', runId)) :
    ∃ run, yearEndRun? db' fromYearId toYearId = some run ∧ run.status = .committed ∧
      run.summary = some summary := by
  have hFound : ∀ run ∈ db'.yearEndRuns.rows, run.fromAssessmentYearId = fromYearId →
      run.toAssessmentYearId = toYearId → yearEndRun? db' fromYearId toYearId = some run := by
    intro run hRun hFrom hTo
    refine findFirst?_eq_some_of_mem hRun (by simp [hFrom, hTo]) fun r hr hSame => ?_
    have hYears : r.fromAssessmentYearId = fromYearId ∧ r.toAssessmentYearId = toYearId := by
      simpa using hSame
    exact eq_of_clash hr hRun (by simp [KeyedRow.clash, hYears, hFrom, hTo])
  unfold writeYearEndRun at h
  cases hOld : yearEndRun? db fromYearId toYearId with
  | some old =>
      rw [hOld] at h
      obtain ⟨after, hUpdate, hPair⟩ := map_ok h
      cases hPair
      obtain ⟨yearEndRuns, hRows, hDb⟩ := map_ok hUpdate
      subst hDb
      have hOldMem : old ∈ carried.yearEndRuns.rows := hRuns ▸ List.mem_of_find?_eq_some hOld
      have hYears : old.fromAssessmentYearId = fromYearId ∧ old.toAssessmentYearId = toYearId := by
        simpa using List.find?_some hOld
      have hNew := (replaced_of_update hRows hOldMem rfl rfl).mem_new
      exact ⟨_, hFound _ hNew hYears.1 hYears.2, rfl, rfl⟩
  | none =>
      rw [hOld] at h
      obtain ⟨after, hCreate, hPair⟩ := map_ok h
      cases hPair
      obtain ⟨yearEndRuns, hRows, hDb⟩ := map_ok hCreate
      subst hDb
      exact ⟨_, hFound _ (added_of_insert hRows).mem_row rfl rfl, rfl, rfl⟩

/-- A committed run is not repeated. -/
theorem commitYearEnd_noop {db : Db} {fromYearId toYearId : Id} {run : YearEndRun}
    (hRun : yearEndRun? db fromYearId toYearId = some run) (hStatus : run.status = .committed)
    (ctx : Context) (actorId : Option Id) :
    (commitYearEnd ctx fromYearId toYearId actorId db).1 = db := by
  have hCases := commitYearEnd_cases ctx fromYearId toYearId actorId db
  generalize commitYearEnd ctx fromYearId toYearId actorId db = reply at hCases ⊢
  cases hCases with
  | refused error => rfl
  | noop => rfl
  | committed _ _ _ _ _ _ hOpen =>
      rw [hRun, Option.filter_eq_none_iff] at hOpen
      exact absurd (by simpa using hStatus) (hOpen run rfl)

/-- What a committed run leaves behind, whether it is complete or not. -/
structure YearEndOutcome (before after : Db) (fromYearId toYearId : Id) : Prop where
  stays : ∀ surveyId, ∀ a ∈ carriedArrears before surveyId fromYearId toYearId,
    a ∈ carriedArrears after surveyId fromYearId toYearId
  read : ∀ d ∈ unpaidDemands before fromYearId,
    ∃ a ∈ carriedArrears after d.surveyId fromYearId toYearId,
      a ∈ carriedArrears before d.surveyId fromYearId toYearId ∨ a.amount = d.outstanding
  run : ∃ run summary, yearEndRun? after fromYearId toYearId = some run ∧
    run.status = .committed ∧ run.summary = some summary ∧ summary.totalArrears =
      toMoney ((unpaidDemands before fromYearId).map PropertyDemand.outstanding).sum

/-- What a new run leaves. -/
theorem commitYearEnd_outcome {ctx : Context} {fromYearId toYearId : Id} {actorId : Option Id}
    {db after : Db} {result : YearEndResult} (hOwned : db.ledger.Owned)
    (h : commitYearEnd ctx fromYearId toYearId actorId db = (after, .ok result))
    (hNew : result.noop = false) : YearEndOutcome db after fromYearId toYearId := by
  have hCases := commitYearEnd_cases ctx fromYearId toYearId actorId db
  rw [h] at hCases
  cases hCases with
  | noop _ _ _ _ hNoop =>
      rw [hNew] at hNoop
      cases hNoop
  | committed carried written counts runId summary _ _ hRows hTotal hWrite entry =>
      obtain ⟨hStays, hRead, hRuns⟩ :=
        carryRows_carried (unpaidDemands_distinct db fromYearId) hOwned hRows
      obtain ⟨run, hRun, hStatus, hSummary⟩ := writeYearEndRun_found hRuns hWrite
      have hLedger := writeYearEndRun_ledger hWrite
      have hSame : ∀ surveyId, carriedArrears (written.log entry) surveyId fromYearId toYearId =
          carriedArrears carried surveyId fromYearId toYearId := by
        intro surveyId
        have hDemands : written.demands = carried.demands := congrArg Ledger.demands hLedger
        have hArrears : written.demandArrears = carried.demandArrears :=
          congrArg Ledger.demandArrears hLedger
        simp only [carriedArrears, Db.demandFor?, Db.log_demands, Db.log_demandArrears, hDemands,
          hArrears]
      refine ⟨fun surveyId a ha => hSame surveyId ▸ hStays surveyId a ha, fun d hd => ?_, ?_⟩
      · rw [hSame]
        exact hRead d hd
      · rw [roundMoney_totalArrears] at hTotal
        exact ⟨run, summary, hRun, hStatus, hSummary, hTotal⟩

/-- Rows that each give one entry give the entries in their order. -/
theorem map_flatMap_singletons {α β γ : Type} {rows : List α} {f : α → List β} {g : β → γ}
    {h : α → γ} (hOne : ∀ a ∈ rows, (f a).map g = [h a]) :
    (rows.flatMap f).map g = rows.map h := by
  induction rows with
  | nil => rfl
  | cons a rest ih =>
      rw [List.flatMap_cons, List.map_append, hOne a List.mem_cons_self,
        ih fun b hb => hOne b (List.mem_cons_of_mem _ hb)]
      rfl

namespace YearEndOutcome
variable {before after : Db} {fromYearId toYearId : Id}

theorem length_le (h : YearEndOutcome before after fromYearId toYearId)
    (hComplete : YearEndComplete before after fromYearId toYearId) :
    (owingDemands before fromYearId).length ≤ 5000 := by
  obtain ⟨run, summary, hRun, _, hSummary, hTotal⟩ := h.run
  obtain ⟨run', summary', hRun', _, hSummary', hTotal'⟩ := hComplete.total
  obtain rfl : run = run' := Option.some.inj (hRun.symm.trans hRun')
  obtain rfl : summary = summary' := Option.some.inj (hSummary.symm.trans hSummary')
  rw [map_flatMap_singletons hComplete.carried] at hTotal'
  refine (unpaidDemands_sum_eq_iff before fromYearId).mp ?_
  have hEq := hTotal.symm.trans hTotal'
  exact le_antisymm ((toMoney_le_iff _ _).mp hEq.le) ((toMoney_le_iff _ _).mp hEq.ge)

/-- What a complete run carries is all there is to carry. -/
theorem carriesAll (h : YearEndOutcome before after fromYearId toYearId)
    (hComplete : YearEndComplete before after fromYearId toYearId) :
    CarriesAll before fromYearId toYearId := by
  refine ⟨h.length_le hComplete, fun d hd a ha => ?_⟩
  have hOne := hComplete.carried d hd
  rw [carriedArrears_eq_singleton (h.stays d.surveyId a ha)] at hOne
  exact List.head_eq_of_cons_eq hOne

/-- A run that carries all there is to carry is complete. -/
theorem complete (h : YearEndOutcome before after fromYearId toYearId)
    (hAll : CarriesAll before fromYearId toYearId) :
    YearEndComplete before after fromYearId toYearId := by
  obtain ⟨hLength, hStored⟩ := hAll
  have hRead : ∀ d ∈ owingDemands before fromYearId, d ∈ unpaidDemands before fromYearId := by
    intro d hd
    rw [unpaidDemands_eq, List.take_of_length_le (by rwa [List.length_insertionSort])]
    exact (List.mem_insertionSort _).mpr hd
  have hCarried : ∀ d ∈ owingDemands before fromYearId,
      (carriedArrears after d.surveyId fromYearId toYearId).map DemandArrear.amount =
        [d.outstanding] := by
    intro d hd
    obtain ⟨a, ha, hAmount⟩ := h.read d (hRead d hd)
    rw [carriedArrears_eq_singleton ha, List.map_singleton]
    rcases hAmount with hThere | hAmount
    · rw [hStored d hd a hThere]
    · rw [hAmount]
  obtain ⟨run, summary, hRun, hStatus, hSummary, hTotal⟩ := h.run
  refine ⟨hCarried, ⟨run, summary, hRun, hStatus, hSummary, ?_⟩, commitYearEnd_noop hRun hStatus⟩
  rw [map_flatMap_singletons hCarried, hTotal,
    (unpaidDemands_sum_eq_iff before fromYearId).mpr hLength]

end YearEndOutcome

/-- A year-end run is complete if and only if it could read every unpaid demand
and found no arrear row of another amount in place. -/
theorem commitYearEnd_complete_iff {ctx : Context} {fromYearId toYearId : Id}
    {actorId : Option Id} {db after : Db} {result : YearEndResult} (hOwned : db.ledger.Owned)
    (h : commitYearEnd ctx fromYearId toYearId actorId db = (after, .ok result))
    (hNew : result.noop = false) :
    YearEndComplete db after fromYearId toYearId ↔ CarriesAll db fromYearId toYearId :=
  have hOutcome := commitYearEnd_outcome hOwned h hNew
  ⟨hOutcome.carriesAll, hOutcome.complete⟩

/-! ### The database never refuses a run -/

/-- Every key of the tables that a run writes was drawn from the counter. -/
structure KeysDrawn (db : Db) : Prop where
  demands : ∀ d ∈ db.demands.rows, d.id < db.nextId
  demandArrears : ∀ a ∈ db.demandArrears.rows, a.id < db.nextId
  yearEndRuns : ∀ r ∈ db.yearEndRuns.rows, r.id < db.nextId

theorem createDemand_isOk {db : Db} (hDrawn : KeysDrawn db) {draft : Id → PropertyDemand}
    (hId : ∀ id, (draft id).id = id)
    (hNone : db.demandFor? (draft db.nextId).surveyId (draft db.nextId).assessmentYearId = none) :
    ∃ db', db.createDemand draft = .ok db' ∧ KeysDrawn db' ∧ draft db.nextId ∈ db'.demands.rows := by
  have hFree : ∀ d ∈ db.demands.rows, KeyedRow.clash d (draft db.nextId) = false := by
    intro d hd
    have hKey : d.id ≠ (draft db.nextId).id := by
      rw [hId]
      exact (hDrawn.demands d hd).ne
    have hPair := Db.demandFor?_eq_none hNone d hd
    simpa [KeyedRow.clash, hKey] using hPair
  obtain ⟨demands, hInsert⟩ := insert_isOk_iff.mpr hFree
  have hAdded := added_of_insert hInsert
  refine ⟨{ db with demands, nextId := db.nextId + 1 }, by rw [Db.createDemand, hInsert]; rfl,
    ⟨?_, ?_, ?_⟩, hAdded.mem_row⟩
  · exact hAdded.forall_rows (fun d hd => Nat.lt_succ_of_lt (hDrawn.demands d hd))
      (by rw [hId]; exact Nat.lt_succ_self _)
  · exact fun a ha => Nat.lt_succ_of_lt (hDrawn.demandArrears a ha)
  · exact fun r hr => Nat.lt_succ_of_lt (hDrawn.yearEndRuns r hr)

theorem createDemandArrear_isOk {db : Db} (hDrawn : KeysDrawn db) {demandId sourceYearId : Id}
    {amount : Money}
    (hNone : ∀ a ∈ db.demandArrears.rows, a.demandId = demandId →
      a.sourceAssessmentYearId ≠ sourceYearId) :
    ∃ db', db.createDemandArrear (fun id => ⟨id, demandId, sourceYearId, amount⟩) = .ok db' ∧
      KeysDrawn db' ∧ db'.demands = db.demands := by
  have hFree : ∀ a ∈ db.demandArrears.rows,
      KeyedRow.clash a ⟨db.nextId, demandId, sourceYearId, amount⟩ = false := by
    intro a ha
    have hKey : a.id ≠ db.nextId := (hDrawn.demandArrears a ha).ne
    simpa [KeyedRow.clash, hKey] using hNone a ha
  obtain ⟨demandArrears, hInsert⟩ := insert_isOk_iff.mpr hFree
  have hAdded := added_of_insert hInsert
  refine ⟨{ db with demandArrears, nextId := db.nextId + 1 },
    by rw [Db.createDemandArrear, hInsert]; rfl, ⟨?_, ?_, ?_⟩, rfl⟩
  · exact fun d hd => Nat.lt_succ_of_lt (hDrawn.demands d hd)
  · exact hAdded.forall_rows (fun a ha => Nat.lt_succ_of_lt (hDrawn.demandArrears a ha))
      (Nat.lt_succ_self _)
  · exact fun r hr => Nat.lt_succ_of_lt (hDrawn.yearEndRuns r hr)

theorem updateDemand_isOk {db : Db} (hDrawn : KeysDrawn db) {d : PropertyDemand}
    (hd : d ∈ db.demands.rows) {data : PropertyDemand → PropertyDemand}
    (hData : ∀ e, (data e).id = e.id ∧ (data e).surveyId = e.surveyId ∧
      (data e).assessmentYearId = e.assessmentYearId) :
    ∃ db', db.updateDemand d.id data = .ok db' ∧ KeysDrawn db' := by
  have hFree : ∀ e ∈ db.demands.rows, e ≠ d → KeyedRow.clash e (data d) = false := by
    intro e he hne
    have hApart : KeyedRow.clash e d ≠ true := fun hClash => hne (eq_of_clash he hd hClash)
    obtain ⟨hId, hSurvey, hYear⟩ := hData d
    simpa [KeyedRow.clash, hId, hSurvey, hYear] using hApart
  have hUpdates : ∃ demands, db.demands.update d.id data = .ok demands :=
    update_isOk hd rfl hFree
  obtain ⟨demands, hUpdate⟩ := hUpdates
  have hReplaced := replaced_of_update hUpdate hd rfl (hData d).1
  refine ⟨{ db with demands }, by rw [Db.updateDemand, hUpdate]; rfl, ⟨?_, hDrawn.demandArrears,
    hDrawn.yearEndRuns⟩⟩
  exact hReplaced.forall_rows hDrawn.demands ((hData d).1 ▸ hDrawn.demands d hd)

theorem carryTarget_isOk {db : Db} (hDrawn : KeysDrawn db) (row : ProposedArrear) :
    ∃ db' target, carryTarget row db = .ok (db', target) ∧ KeysDrawn db' ∧
      target ∈ db'.demands.rows := by
  unfold carryTarget
  cases hFound : db.demandFor? row.surveyId row.targetAssessmentYearId with
  | some target => exact ⟨db, target, rfl, hDrawn, (Db.demandFor?_spec hFound).1⟩
  | none =>
      let draft (id : Id) : PropertyDemand :=
        { id, surveyId := row.surveyId, assessmentYearId := row.targetAssessmentYearId
          status := .draft, arrears := toColumn row.fromOutstanding
          totalPayable := toColumn row.fromOutstanding
          outstanding := toColumn row.fromOutstanding }
      obtain ⟨db', hCreate, hDrawn', hMem⟩ :=
        @createDemand_isOk db hDrawn draft (fun _ => rfl) hFound
      refine ⟨db', draft db.nextId, ?_, hDrawn', hMem⟩
      change (db.createDemand draft).map _ = _
      rw [hCreate]
      rfl

theorem carryRow_isOk {db : Db} (hDrawn : KeysDrawn db) (row : ProposedArrear)
    (counts : CarryCounts) :
    ∃ db' counts', carryRow row counts db = .ok (db', counts') ∧ KeysDrawn db' := by
  obtain ⟨placed, target, hTarget, hPlaced, hMem⟩ := carryTarget_isOk hDrawn row
  unfold carryRow
  simp only [hTarget, Bind.bind, Except.bind]
  split
  · exact ⟨_, _, rfl, hPlaced⟩
  · rename_i hAbsent
    obtain ⟨created, hCreate, hCreated, hDemands⟩ :=
      @createDemandArrear_isOk placed hPlaced target.id row.sourceAssessmentYearId
        (toColumn row.fromOutstanding) (by
          intro a ha hDemandId hSource
          exact hAbsent (List.any_eq_true.mpr
            ⟨a, List.mem_filter.mpr ⟨ha, by simpa using hDemandId⟩, by simpa using hSource⟩))
    obtain ⟨updated, hUpdate, hUpdated⟩ :=
      @updateDemand_isOk created hCreated target (hDemands ▸ hMem)
        (carriedDemandData target _) fun _ => ⟨rfl, rfl, rfl⟩
    rw [hCreate]
    dsimp only
    rw [hUpdate]
    exact ⟨_, _, rfl, hUpdated⟩

theorem carryRows_isOk {db : Db} (hDrawn : KeysDrawn db) (rows : List ProposedArrear)
    (counts : CarryCounts) :
    ∃ db' counts', carryRows rows counts db = .ok (db', counts') ∧ KeysDrawn db' := by
  induction rows generalizing db counts with
  | nil => exact ⟨db, counts, rfl, hDrawn⟩
  | cons row rest ih =>
      obtain ⟨after, carried, hRow, hAfter⟩ := carryRow_isOk hDrawn row counts
      obtain ⟨db', counts', hRest, hDrawn'⟩ := ih hAfter carried
      refine ⟨db', counts', ?_, hDrawn'⟩
      rw [carryRows, hRow]
      exact hRest

theorem writeYearEndRun_isOk {db carried : Db} (hDrawn : KeysDrawn carried)
    (hRuns : carried.yearEndRuns = db.yearEndRuns) (fromYearId toYearId : Id)
    (summary : YearEndSummary) (now : Timestamp) (actorId : Option Id) :
    ∃ written runId, writeYearEndRun (yearEndRun? db fromYearId toYearId) fromYearId toYearId
      summary now actorId carried = .ok (written, runId) := by
  unfold writeYearEndRun
  cases hOld : yearEndRun? db fromYearId toYearId with
  | some old =>
      have hMem : old ∈ carried.yearEndRuns.rows := hRuns ▸ List.mem_of_find?_eq_some hOld
      have hUpdates : ∃ yearEndRuns, carried.yearEndRuns.update old.id (fun r => { r with
          status := .committed
          summary := some summary
          committedAt := some now
          createdById := actorId.or r.createdById }) = .ok yearEndRuns := by
        refine update_isOk hMem rfl fun r hr hne => ?_
        have hApart : KeyedRow.clash r old ≠ true := fun hClash =>
          hne (eq_of_clash hr hMem hClash)
        simpa [KeyedRow.clash] using hApart
      obtain ⟨yearEndRuns, hUpdate⟩ := hUpdates
      refine ⟨{ carried with yearEndRuns }, old.id, ?_⟩
      dsimp only [Db.updateYearEndRun]
      rw [hUpdate]
      rfl
  | none =>
      have hFree : ∀ r ∈ carried.yearEndRuns.rows, KeyedRow.clash r
          (⟨carried.nextId, fromYearId, toYearId, .committed, some summary, actorId,
            some now⟩ : YearEndRun) = false := by
        intro r hr
        have hKey : r.id ≠ carried.nextId := (hDrawn.yearEndRuns r hr).ne
        have hMiss := List.find?_eq_none.mp hOld r (hRuns ▸ hr)
        simpa [KeyedRow.clash, hKey] using hMiss
      obtain ⟨yearEndRuns, hInsert⟩ := insert_isOk_iff.mpr hFree
      refine ⟨{ carried with yearEndRuns, nextId := carried.nextId + 1 }, carried.nextId, ?_⟩
      dsimp only [Db.createYearEndRun]
      rw [hInsert]
      rfl

/-- A run of two assessment years that was not committed before commits. -/
theorem commitYearEnd_isOk {ctx : Context} {fromYearId toYearId : Id} {db : Db}
    (hDrawn : KeysDrawn db) (hOwned : db.ledger.Owned)
    (hYears : assertDistinctAssessmentYears ctx.reference fromYearId toYearId = .ok ())
    (hRun : ((yearEndRun? db fromYearId toYearId).filter fun r => r.status = .committed) = none)
    (actorId : Option Id) :
    ∃ after result, commitYearEnd ctx fromYearId toYearId actorId db = (after, .ok result) ∧
      result.noop = false := by
  obtain ⟨carried, counts, hRows, hCarried⟩ := carryRows_isOk hDrawn
    ((unpaidDemands db fromYearId).map (proposedArrear ctx.reference fromYearId toYearId)) ⟨0, 0⟩
  have hRuns := (carryRows_carried (unpaidDemands_distinct db fromYearId) hOwned hRows).2.2
  unfold commitYearEnd previewYearEnd
  rw [hYears]
  dsimp only [Except.map]
  rw [hRun]
  dsimp only
  unfold yearEndTransaction
  dsimp only
  rw [hRows]
  dsimp only [Bind.bind, Except.bind]
  obtain ⟨written, runId, hWrite⟩ := writeYearEndRun_isOk hCarried hRuns fromYearId toYearId
    _ ctx.now actorId
  rw [hWrite]
  exact ⟨_, _, rfl, rfl⟩

namespace Sample

/-- A published demand of one rupee, unpaid. -/
def unpaid (surveyId : Id) : PropertyDemand where
  id := surveyId
  surveyId := surveyId
  assessmentYearId := 20
  status := .published
  currentDemand := 100
  totalPayable := 100
  outstanding := 100

/-- As many properties as given, each with one unpaid demand. -/
def unpaidYear (count : Nat) : Db :=
  { Db.empty with
    demands :=
      { rows := (List.range count).map unpaid
        apart := List.pairwise_map.mpr (List.nodup_range.imp fun {a b} hne => by
          simp [KeyedRow.clash, unpaid, hne]) }
    nextId := count }

/-- No arrear is without its demand. -/
theorem unpaidYear_owned (count : Nat) : (unpaidYear count).ledger.Owned :=
  fun _ ha => absurd ha List.not_mem_nil

/-- Every demand of the year is owing. -/
theorem owingDemands_unpaidYear (count : Nat) :
    owingDemands (unpaidYear count) 20 = (List.range count).map unpaid := by
  refine List.filter_eq_self.mpr fun d hd => ?_
  obtain ⟨surveyId, _, rfl⟩ := List.mem_map.mp hd
  rfl

/-- The year-end run over the unpaid year goes through. -/
theorem unpaidYear_commits (count : Nat) :
    ∃ after result, commitYearEnd ward 20 21 none (unpaidYear count) = (after, .ok result) ∧
      result.noop = false := by
  refine commitYearEnd_isOk ⟨?_, ?_, ?_⟩ (unpaidYear_owned count) (by decide) rfl none
  · intro d hd
    obtain ⟨surveyId, hMem, rfl⟩ := List.mem_map.mp hd
    exact List.mem_range.mp hMem
  · exact fun _ ha => absurd ha List.not_mem_nil
  · exact fun _ hr => absurd hr List.not_mem_nil

end Sample

theorem commitYearEnd_complete_three :
    ∃ after result, commitYearEnd Sample.ward 20 21 none (Sample.unpaidYear 3) =
      (after, .ok result) ∧ YearEndComplete (Sample.unpaidYear 3) after 20 21 := by
  obtain ⟨after, result, hCommit, hNew⟩ := Sample.unpaidYear_commits 3
  refine ⟨after, result, hCommit, ?_⟩
  refine (commitYearEnd_complete_iff (Sample.unpaidYear_owned 3) hCommit hNew).mpr ⟨?_, ?_⟩
  · rw [Sample.owingDemands_unpaidYear]
    decide
  · intro d _ a ha
    exact absurd (mem_carriedArrears.mp ha).1 List.not_mem_nil

/-- One property too many: its demand is not carried. -/
theorem commitYearEnd_incomplete :
    ∃ after result, commitYearEnd Sample.ward 20 21 none (Sample.unpaidYear 5001) =
      (after, .ok result) ∧ result.noop = false ∧
        ¬ YearEndComplete (Sample.unpaidYear 5001) after 20 21 := by
  obtain ⟨after, result, hCommit, hNew⟩ := Sample.unpaidYear_commits 5001
  refine ⟨after, result, hCommit, hNew, fun hComplete => ?_⟩
  have hLength := (commitYearEnd_outcome (Sample.unpaidYear_owned 5001) hCommit hNew).length_le
    hComplete
  rw [Sample.owingDemands_unpaidYear, List.length_map, List.length_range] at hLength
  omega

end PropertyTax
