import PropertyTax.Ledger.Payments
import PropertyTax.Ledger.Publish

/-! A committed year-end run as steps on the ledger: one for every balance that
is carried. -/
namespace PropertyTax
open KeyedTable Relation

/-- Paise are summed before or after they are shown as rupees. -/
theorem sum_map_toMoney (amounts : List Money) :
    (amounts.map toMoney).sum = toMoney amounts.sum := by
  induction amounts with
  | nil => simp
  | cons m rest ih => rw [List.map_cons, List.sum_cons, List.sum_cons, ih, toMoney_add]

/-- The arrears of a demand come to their sum. -/
theorem demandArrearsOf_sum (demandArrears : KeyedTable DemandArrear) (demandId : Id) :
    ((demandArrearsOf demandArrears demandId).map fun a => toMoney a.amount).sum =
      toMoney (arrearSum demandArrears demandId) := by
  rw [arrearSum, sumWhere, ← sum_map_toMoney, List.map_map]
  rfl

/-- In paise, the totals of a carry target are exact. -/
theorem carriedDemandData_toMoney (target d : PropertyDemand) (arrears : Money) :
    carriedDemandData target (toMoney arrears) d =
      { d with
        arrears
        totalPayable := target.currentDemand + arrears
        outstanding := max 0 (target.currentDemand + arrears - target.amountPaid) } := by
  unfold carriedDemandData
  simp only [← toMoney_add, roundMoney_toMoney, toColumn_toMoney, ← toMoney_sub,
    toMoney_max_zero]

/-- What is carried are published demands of the year with something outstanding. -/
theorem mem_of_unpaidDemands {db : Db} {yearId : Id} {d : PropertyDemand}
    (h : d ∈ unpaidDemands db yearId) : d ∈ db.demands.rows ∧ d.assessmentYearId = yearId ∧
      d.status = .published ∧ 0 < d.outstanding := by
  have hRow := List.mem_of_mem_take h
  rw [List.mem_insertionSort, List.mem_filter, decide_eq_true_eq] at hRow
  exact hRow

/-- A new draft has no arrear rows. -/
theorem demandArrearsOf_eq_nil {l : Ledger} {demands : KeyedTable PropertyDemand}
    {d : PropertyDemand} (hOwned : l.Owned) (hDemand : Added l.demands demands d) :
    demandArrearsOf l.demandArrears d.id = [] := by
  refine List.filter_eq_nil_iff.mpr fun a ha => ?_
  obtain ⟨e, he, hId⟩ := hOwned a ha
  intro hOwner
  have hSame : a.demandId = d.id := by simpa using hOwner
  exact hDemand.key_ne he (hId.trans hSame)

/-- What carrying the balance of `source` did: its target had an arrear row of
the year already, or it was stored and got one, or it was drafted for it. -/
inductive RowCarried (source : PropertyDemand) (fromYearId toYearId : Id) (db db' : Db) : Prop where
  | skipped (target : PropertyDemand) (a : DemandArrear)
      (hTarget : db.demandFor? source.surveyId toYearId = some target)
      (hArrear : a ∈ db.demandArrears.rows) (hDemandId : a.demandId = target.id)
      (hSource : a.sourceAssessmentYearId = fromYearId) (hSame : db' = db)
  | carried (target d' : PropertyDemand) (a : DemandArrear)
      (hTarget : db.demandFor? source.surveyId toYearId = some target)
      (hDemand : Replaced db.demands db'.demands target d')
      (hData : d' = carriedDemandData target
        (toMoney (arrearSum db.demandArrears target.id + source.outstanding)) target)
      (hArrear : Added db.demandArrears db'.demandArrears a) (hDemandId : a.demandId = target.id)
      (hSource : a.sourceAssessmentYearId = fromYearId) (hAmount : a.amount = source.outstanding)
      (hPayments : db'.payments = db.payments) (hRuns : db'.yearEndRuns = db.yearEndRuns)
  | drafted (draft d' : PropertyDemand) (a : DemandArrear)
      (hDemand : Added db.demands db'.demands d')
      (hData : d' = carriedDemandData draft (toMoney source.outstanding) draft)
      (hSurvey : draft.surveyId = source.surveyId) (hYear : draft.assessmentYearId = toYearId)
      (hStatus : draft.status = .draft) (hCurrent : draft.currentDemand = 0)
      (hPaid : draft.amountPaid = 0)
      (hArrear : Added db.demandArrears db'.demandArrears a) (hDemandId : a.demandId = d'.id)
      (hSource : a.sourceAssessmentYearId = fromYearId) (hAmount : a.amount = source.outstanding)
      (hPayments : db'.payments = db.payments) (hRuns : db'.yearEndRuns = db.yearEndRuns)

/-- What carrying one balance does. -/
theorem carryRow_cases {reference : Reference} {fromYearId toYearId : Id}
    {source : PropertyDemand} {counts counts' : CarryCounts} {db db' : Db}
    (hOwned : db.ledger.Owned)
    (h : carryRow (proposedArrear reference fromYearId toYearId source) counts db =
      .ok (db', counts')) : RowCarried source fromYearId toYearId db db' := by
  unfold carryRow at h
  obtain ⟨⟨placed, target⟩, hTarget, h⟩ := bind_ok h
  dsimp only at h
  unfold carryTarget at hTarget
  cases hFound : db.demandFor? source.surveyId toYearId with
  | some found =>
      simp only [proposedArrear, hFound] at hTarget
      cases hTarget
      split_ifs at h with hAlready
      · cases h
        obtain ⟨a, hArrear, hSource⟩ := List.any_eq_true.mp hAlready
        obtain ⟨hMem, hDemandId⟩ := List.mem_filter.mp hArrear
        exact .skipped target a hFound hMem (by simpa using hDemandId)
          (of_decide_eq_true hSource) rfl
      · obtain ⟨created, hCreate, h⟩ := bind_ok h
        obtain ⟨updated, hUpdate, h⟩ := bind_ok h
        cases h
        obtain ⟨demandArrears, hArrear, rfl⟩ := Db.createDemandArrear_ok hCreate
        obtain ⟨d, demands, hId, hReplaced, rfl⟩ := Db.updateDemand_ok hUpdate fun _ => rfl
        obtain ⟨hMem, _, _⟩ := Db.demandFor?_spec hFound
        have hOld := eq_of_key hReplaced.mem_old hMem hId
        subst hOld
        rw [demandArrearsOf_sum] at hReplaced
        simp only [proposedArrear, ← toMoney_add] at hReplaced
        exact .carried _ _ _ hFound hReplaced rfl hArrear rfl rfl (toColumn_toMoney _) rfl rfl
  | none =>
      simp only [proposedArrear, hFound] at hTarget
      obtain ⟨drafted, hDraft, hPair⟩ := map_ok hTarget
      cases hPair
      obtain ⟨demands, hAdded, rfl⟩ := Db.createDemand_ok hDraft
      have hNone := demandArrearsOf_eq_nil hOwned hAdded
      dsimp only at hNone h
      change demandArrearsOf db.demandArrears db.nextId = [] at hNone
      rw [hNone] at h
      simp only [List.any_nil, Bool.false_eq_true, ↓reduceIte, List.map_nil, List.sum_nil,
        zero_add] at h
      obtain ⟨created, hCreate, h⟩ := bind_ok h
      obtain ⟨updated, hUpdate, h⟩ := bind_ok h
      cases h
      obtain ⟨demandArrears, hArrear, rfl⟩ := Db.createDemandArrear_ok hCreate
      obtain ⟨d, demands', hId, hReplaced, rfl⟩ := Db.updateDemand_ok hUpdate fun _ => rfl
      have hOld := eq_of_key hReplaced.mem_old hAdded.mem_row hId
      subst hOld
      exact .drafted _ _ _ (hReplaced.added_trans hAdded) rfl rfl rfl rfl rfl rfl hArrear rfl rfl
        (toColumn_toMoney _) rfl rfl

/-- Carrying the balance of a source is one carry step, or nothing is written. -/
theorem RowCarried.step {fromYearId toYearId : Id} {sources : List PropertyDemand}
    {source : PropertyDemand} (hMem : source ∈ sources) {db db' : Db}
    (h : RowCarried source fromYearId toYearId db db') :
    db'.ledger = db.ledger ∨ CarryStep sources toYearId db.ledger db'.ledger := by
  cases h with
  | skipped _ _ _ _ _ _ hSame => exact .inl (hSame ▸ rfl)
  | carried target d' a hTarget hDemand hData hArrear hDemandId _ hAmount hPayments _ =>
      obtain ⟨_, hSurvey, hYear⟩ := Db.demandFor?_spec hTarget
      rw [carriedDemandData_toMoney] at hData
      subst hData
      exact .inr (.carried source target _ a hMem hDemand hSurvey hYear rfl rfl rfl rfl rfl rfl
        ⟨rfl, rfl⟩ hArrear hDemandId hAmount hPayments)
  | drafted draft d' a hDemand hData hSurvey hYear hStatus hCurrent hPaid hArrear hDemandId _
      hAmount hPayments _ =>
      rw [carriedDemandData_toMoney] at hData
      subst hData
      exact .inr (.drafted source _ a hMem hDemand hSurvey hYear hStatus hCurrent hPaid rfl
        ⟨rfl, rfl⟩ hArrear hDemandId hAmount hPayments)

/-! ### Well-formed ledgers stay well-formed -/

theorem Ledger.Owned.of_keeps {l l' : Ledger} (h : l.Owned)
    (hArrears : l'.demandArrears = l.demandArrears) (hDemands : Keeps l.demands l'.demands) :
    l'.Owned := by
  intro a ha
  rw [hArrears] at ha
  obtain ⟨d, hd, hId⟩ := h a ha
  obtain ⟨d', hd', hKept⟩ := hDemands d hd
  exact ⟨d', hd', hKept.id.trans hId⟩

/-- A carried balance leaves the arrears with their demands. -/
theorem CarryStep.owned {sources : List PropertyDemand} {toYearId : Id} {l l' : Ledger}
    (h : CarryStep sources toYearId l l') (hOwned : l.Owned) : l'.Owned := by
  have hSame : Ledger.Owned ⟨l'.payments, l'.demands, l.demandArrears⟩ :=
    hOwned.of_keeps rfl h.keeps
  cases h with
  | carried _ d d' _ _ hDemand _ _ _ _ _ _ _ _ _ hArrear hDemandId =>
      exact hArrear.forall_rows hSame ⟨d', hDemand.mem_new, hDemand.key_eq.trans hDemandId.symm⟩
  | drafted _ d' _ _ hDemand _ _ _ _ _ _ _ hArrear hDemandId =>
      exact hArrear.forall_rows hSame ⟨d', hDemand.mem_row, hDemandId.symm⟩

/-- A payment step leaves receipt snapshots to successful payments, among all
payments or among those of one survey and year. -/
theorem PaymentStep.snapshots {allowed : Payment → PropertyDemand → Prop} {l l' : Ledger}
    {among : Payment → Prop} (h : PaymentStep allowed l l')
    (hAmong : ∀ p p', SamePurpose p p' → among p' → among p)
    (hBefore : ∀ p ∈ l.payments.rows, among p → p.receiptSnapshot ≠ none → p.status = .success) :
    ∀ p ∈ l'.payments.rows, among p → p.receiptSnapshot ≠ none → p.status = .success := by
  cases h with
  | opened p hPayment _ hSnapshot =>
      exact hPayment.forall_rows hBefore fun _ hSome => absurd hSnapshot hSome
  | revised p p' hPayment hSame hStatus _ hSnapshot =>
      refine hPayment.forall_rows hBefore fun hFor hSome => hStatus.mpr ?_
      exact hBefore p hPayment.mem_old (hAmong p p' hSame hFor) (hSnapshot ▸ hSome)
  | succeeded _ _ hPayment _ _ hAfter => exact hPayment.forall_rows hBefore fun _ _ => hAfter
  | credited _ _ _ hPayment _ _ hAfter => exact hPayment.forall_rows hBefore fun _ _ => hAfter
  | collected _ _ hPayment hStatus => exact hPayment.forall_rows hBefore fun _ _ => hStatus

/-- A step of a payment leaves the ledger well formed. -/
theorem PaymentStep.wellFormed {allowed : Payment → PropertyDemand → Prop} {l l' : Ledger}
    (h : PaymentStep allowed l l') (hWf : l.WellFormed) : l'.WellFormed where
  snapshots p hp := by
    have hAmong : ∀ p p', SamePurpose p p' → True → True := fun _ _ _ => id
    exact h.snapshots hAmong (fun p hp _ => hWf.snapshots p hp) p hp trivial
  owned := hWf.owned.of_keeps h.keeps.2 h.keeps.1

/-- A publication leaves the ledger well formed. -/
theorem PublishStep.wellFormed {ctx : Context} {input : PublishInput} {l l' : Ledger}
    (h : PublishStep ctx input l l') (hWf : l.WellFormed) : l'.WellFormed := by
  obtain ⟨hPayments, hArrears⟩ := h.same
  exact ⟨hPayments ▸ hWf.snapshots, hWf.owned.of_keeps hArrears h.keeps⟩

/-- A carried balance leaves the ledger well formed. -/
theorem CarryStep.wellFormed {sources : List PropertyDemand} {toYearId : Id} {l l' : Ledger}
    (h : CarryStep sources toYearId l l') (hWf : l.WellFormed) : l'.WellFormed := by
  exact ⟨h.payments ▸ hWf.snapshots, h.owned hWf.owned⟩

/-- A carried balance keeps the demands in their place. -/
theorem RowCarried.keeps {fromYearId toYearId : Id} {source : PropertyDemand} {db db' : Db}
    (h : RowCarried source fromYearId toYearId db db') :
    Keeps db.demands db'.demands := by
  rcases h.step (List.mem_singleton_self source) with hSame | hStep
  · have hDemands : db'.demands = db.demands := congrArg Ledger.demands hSame
    exact hDemands ▸ Keeps.refl _
  · exact hStep.keeps

/-- A carried balance leaves the arrears with their demands. -/
theorem RowCarried.owned {fromYearId toYearId : Id} {source : PropertyDemand} {db db' : Db}
    (h : RowCarried source fromYearId toYearId db db') (hOwned : db.ledger.Owned) :
    db'.ledger.Owned := by
  rcases h.step (List.mem_singleton_self source) with hSame | hStep
  · rwa [hSame]
  · exact hStep.owned hOwned

/-! ### The whole run -/

/-- Carrying all balances is made of steps that carry one. -/
theorem carryRows_steps {reference : Reference} {fromYearId toYearId : Id}
    {sources rows : List PropertyDemand} (hRows : ∀ d ∈ rows, d ∈ sources)
    {counts counts' : CarryCounts} {db db' : Db} (hOwned : db.ledger.Owned)
    (h : carryRows (rows.map (proposedArrear reference fromYearId toYearId)) counts db =
      .ok (db', counts')) :
    ReflTransGen (CarryStep sources toYearId) db.ledger db'.ledger := by
  induction rows generalizing counts db with
  | nil =>
      cases h
      exact .refl
  | cons source rest ih =>
      rw [List.map_cons, carryRows] at h
      obtain ⟨⟨after, carried⟩, hRow, h⟩ := bind_ok h
      have hMem : ∀ d ∈ rest, d ∈ sources := fun d hd => hRows d (List.mem_cons_of_mem _ hd)
      rcases (carryRow_cases hOwned hRow).step (hRows source List.mem_cons_self) with hSame | hStep
      · rw [← hSame]
        exact ih hMem (hSame ▸ hOwned) h
      · exact .head hStep (ih hMem (hStep.owned hOwned) h)

/-- The record of a run is no part of the ledger. -/
theorem writeYearEndRun_ledger {existingRun : Option YearEndRun} {fromYearId toYearId : Id}
    {summary : YearEndSummary} {now : Timestamp} {actorId : Option Id} {db db' : Db} {runId : Id}
    (h : writeYearEndRun existingRun fromYearId toYearId summary now actorId db =
      .ok (db', runId)) : db'.ledger = db.ledger := by
  unfold writeYearEndRun at h
  cases existingRun with
  | some run =>
      obtain ⟨after, hUpdate, hPair⟩ := map_ok h
      obtain ⟨yearEndRuns, rfl⟩ := Db.updateYearEndRun_ok hUpdate
      cases hPair
      rfl
  | none =>
      obtain ⟨after, hCreate, hPair⟩ := map_ok h
      obtain ⟨yearEndRuns, rfl⟩ := Db.createYearEndRun_ok hCreate
      cases hPair
      rfl

/-- A year-end run is refused, was committed before, or carries the unpaid
demands of one year into another year and is marked as committed. -/
inductive YearEndCommitted (ctx : Context) (fromYearId toYearId : Id) (actorId : Option Id)
    (db : Db) : Reply YearEndResult → Prop where
  | refused (error : ApiError) : YearEndCommitted ctx fromYearId toYearId actorId db (db, .error error)
  | noop (run : YearEndRun) (hRun : yearEndRun? db fromYearId toYearId = some run)
      (hStatus : run.status = .committed) (result : YearEndResult) (hNoop : result.noop = true) :
      YearEndCommitted ctx fromYearId toYearId actorId db (db, .ok result)
  | committed (carried written : Db) (counts : CarryCounts) (runId : Id) (summary : YearEndSummary)
      (hYears : assertDistinctAssessmentYears ctx.reference fromYearId toYearId = .ok ())
      (hRun : ((yearEndRun? db fromYearId toYearId).filter fun r => r.status = .committed) = none)
      (hRows : carryRows ((unpaidDemands db fromYearId).map
        (proposedArrear ctx.reference fromYearId toYearId)) ⟨0, 0⟩ db = .ok (carried, counts))
      (hTotal : summary.totalArrears = roundMoney (((unpaidDemands db fromYearId).map
        (proposedArrear ctx.reference fromYearId toYearId)).foldl
          (fun s r => s + r.fromOutstanding) 0))
      (hWrite : writeYearEndRun (yearEndRun? db fromYearId toYearId) fromYearId toYearId summary
        ctx.now actorId carried = .ok (written, runId))
      (entry : AuditEntry) (result : YearEndResult) (hNoop : result.noop = false) :
      YearEndCommitted ctx fromYearId toYearId actorId db (written.log entry, .ok result)

/-- What a year-end run does. -/
theorem commitYearEnd_cases (ctx : Context) (fromYearId toYearId : Id) (actorId : Option Id)
    (db : Db) : YearEndCommitted ctx fromYearId toYearId actorId db
      (commitYearEnd ctx fromYearId toYearId actorId db) := by
  unfold commitYearEnd
  cases hYears : assertDistinctAssessmentYears ctx.reference fromYearId toYearId with
  | error error => exact .refused error
  | ok _ =>
      dsimp only
      cases hRun : (yearEndRun? db fromYearId toYearId).filter fun r => r.status = .committed with
      | some run =>
          obtain ⟨hFound, hStatus⟩ := Option.filter_eq_some_iff.mp hRun
          exact .noop run hFound (by simpa using hStatus) _ rfl
      | none =>
          dsimp only [previewYearEnd]
          rw [hYears]
          dsimp only [Except.map]
          cases hBody : yearEndTransaction ctx (yearEndRun? db fromYearId toYearId) _ actorId
              db with
          | error refusal => exact .refused _
          | ok answer =>
              obtain ⟨final, result⟩ := answer
              unfold yearEndTransaction at hBody
              obtain ⟨⟨carried, counts⟩, hRows, hBody⟩ := bind_ok hBody
              obtain ⟨⟨written, runId⟩, hWrite, hBody⟩ := bind_ok hBody
              cases hBody
              exact .committed carried final counts runId _ hYears hRun hRows rfl hWrite _ _ rfl

/-- A year-end run carries the unpaid demands, or does nothing. -/
theorem commitYearEnd_steps (ctx : Context) (fromYearId toYearId : Id) (actorId : Option Id)
    {db : Db} (hOwned : db.ledger.Owned) :
    (commitYearEnd ctx fromYearId toYearId actorId db).1.ledger = db.ledger ∨
      assertDistinctAssessmentYears ctx.reference fromYearId toYearId = .ok () ∧
      ((yearEndRun? db fromYearId toYearId).filter fun r => r.status = .committed) = none ∧
      ReflTransGen (CarryStep (unpaidDemands db fromYearId) toYearId) db.ledger
        (commitYearEnd ctx fromYearId toYearId actorId db).1.ledger := by
  have hCases := commitYearEnd_cases ctx fromYearId toYearId actorId db
  generalize commitYearEnd ctx fromYearId toYearId actorId db = reply at hCases ⊢
  cases hCases with
  | refused error => exact .inl rfl
  | noop => exact .inl rfl
  | committed carried written counts runId summary hYears hRun hRows _ hWrite =>
      refine .inr ⟨hYears, hRun, ?_⟩
      have hSteps := carryRows_steps (fun d hd => hd) hOwned hRows
      rw [← writeYearEndRun_ledger hWrite] at hSteps
      exact hSteps

end PropertyTax
