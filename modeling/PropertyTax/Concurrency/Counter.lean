import PropertyTax.Library.Runs
import PropertyTax.Ledger.Reconciled

/-! Overlapping collections at the counter. A call of `createOffline` looks for
a payment under its key, reads the demand, and collects in a transaction that
locks it; after a unique violation it looks for the key once more. -/
namespace PropertyTax
open KeyedTable Runs

/-- A call of `createOffline`. -/
structure CounterAttempt where
  ctx : Context
  input : OfflineInput
  user : AuthUser
  suffix : String

/-- Where a call stands. It has seen no payment under its key, or also passed
its checks, or lost a race for a unique column. -/
inductive CounterProgress where
  | waiting
  | unseen (surveyId : Id) (idempotencyKey : Option String)
  | checked (request : OfflineRequest)
  | raced (request : OfflineRequest)
  | finished (answer : Except ApiError (Option Payment))

/-- The checks of the input, and the look for a payment under its key. -/
def offlinePrecheck (input : OfflineInput) (db : Db) :
    Except ApiError (Payment ⊕ Id × Option String) := do
  assertOfflinePaymentMode input.paymentMode
  match input.surveyId with
  | none => throw (.badRequest (some "SURVEY_REQUIRED")
      "Select a property/survey before recording offline payment")
  | some surveyId =>
      assertOfflineReference input.paymentMode input.chequeDdReference
      let idempotencyKey := nonBlank input.clientIdempotencyKey
      match idempotencyKey.bind (paymentByClientKey? db) with
      | some existing => return .inl existing
      | none => return .inr (surveyId, idempotencyKey)

/-- The survey and the demand to collect on, before the transaction. -/
def offlineChecks (ctx : Context) (input : OfflineInput) (user : AuthUser) (surveyId : Id)
    (idempotencyKey : Option String) (db : Db) : Except ApiError OfflineRequest :=
  match ctx.reference.survey? surveyId with
  | none => .error (.notFound (some "SURVEY_NOT_FOUND") "Property/survey was not found")
  | some survey => do
      assertSurveyAccess user survey.createdById .read
      assertPaymentAccess user (some user.id) .createOffline
      let wardId := input.wardId.getD survey.wardId
      let found := findPublishedDemandForOffline ctx survey.id input.assessmentYearId wardId db
      let demand ← assertPublishedDemandPresent found
      assertOfflineAmountAgainstOutstanding input.amount (toMoney demand.outstanding)
      return { survey, wardId, demand, idempotencyKey }

def offlineAuditEntry (attempt : CounterAttempt) (request : OfflineRequest) (paymentId : Id) :
    AuditEntry :=
  let paymentReference := offlinePaymentReference attempt.ctx.now attempt.suffix
  { action := "PAYMENT_OFFLINE_CREATED"
    entity := "Payment"
    entityId := some (toString paymentId)
    actorId := some attempt.user.id
    newValue := some (jsonFields
      [("paymentReference", some (.str paymentReference)),
       ("amount", some (.num attempt.input.amount)),
       ("surveyId", some (.num request.survey.id)),
       ("receiptNumber", some (.str
          ((nonBlank attempt.input.receiptNumber).getD paymentReference))),
       ("propertyDemandId", some (.num request.demand.id))]) }

/-- The transaction on a locked demand, and what the call does with its outcome. -/
def collectLocked (attempt : CounterAttempt) (request : OfflineRequest) (locked : PropertyDemand)
    (collectionDate : Timestamp) (db : Db) : CounterProgress × Db :=
  match collect attempt.ctx attempt.input attempt.user request locked
      (offlinePaymentReference attempt.ctx.now attempt.suffix) collectionDate db with
  | .error .uniqueViolation => (.raced request, db)
  | .error .recordNotFound => (.finished (.error (.database .recordNotFound)), db)
  | .ok (after, paymentId) => (.finished (.ok (after.payments.find? paymentId)),
      after.log (offlineAuditEntry attempt request paymentId))

variable {Process : Type}

/-- The next step of a call. -/
def counterStep (attempts : Process → CounterAttempt) (process : Process)
    (progress : CounterProgress) (db : Db) : CounterProgress × Db :=
  let attempt := attempts process
  match progress with
  | .waiting =>
      match offlinePrecheck attempt.input db with
      | .error error => (.finished (.error error), db)
      | .ok (.inl existing) => (.finished (.ok (some existing)), db)
      | .ok (.inr (surveyId, idempotencyKey)) => (.unseen surveyId idempotencyKey, db)
  | .unseen surveyId idempotencyKey =>
      match offlineChecks attempt.ctx attempt.input attempt.user surveyId idempotencyKey db with
      | .error error => (.finished (.error error), db)
      | .ok request => (.checked request, db)
  | .checked request =>
      match lockForCollection request attempt.input.amount db with
      | .error error => (.finished (.error error), db)
      | .ok locked =>
          match offlineCollectionDate attempt.ctx attempt.input with
          | .error error => (.finished (.error error), db)
          | .ok collectionDate => collectLocked attempt request locked collectionDate db
  | .raced request => (.finished (answerCollision request db).2, db)
  | .finished answer => (.finished answer, db)

def uncollected (db : Db) : System Process CounterProgress Db :=
  { shared := db, locals := fun _ => .waiting }

/-- The checks of `createOffline` are those of its first two steps. -/
theorem offlineRequest_eq (ctx : Context) (input : OfflineInput) (user : AuthUser) (db : Db) :
    offlineRequest ctx input user db = (offlinePrecheck input db).bind
      (Sum.elim (fun existing => .ok (.inl existing)) fun unseen =>
        (offlineChecks ctx input user unseen.1 unseen.2 db).map .inr) := by
  unfold offlineRequest offlinePrecheck
  cases assertOfflinePaymentMode input.paymentMode with
  | error error => rfl
  | ok _ =>
      cases input.surveyId with
      | none => rfl
      | some surveyId =>
          cases assertOfflineReference input.paymentMode input.chequeDdReference with
          | error error => rfl
          | ok _ =>
              cases hKey : (nonBlank input.clientIdempotencyKey).bind (paymentByClientKey? db) with
              | some existing => simp [bind, Except.bind, pure, Except.pure, hKey]
              | none =>
                  simp only [bind, Except.bind, pure, Except.pure, hKey, Sum.elim_inr,
                    offlineChecks]
                  cases ctx.reference.survey? surveyId with
                  | none => rfl
                  | some survey =>
                      dsimp only
                      cases assertSurveyAccess user survey.createdById .read with
                      | error error => rfl
                      | ok _ =>
                          cases assertPaymentAccess user (some user.id) .createOffline with
                          | error error => rfl
                          | ok _ =>
                              dsimp only
                              cases assertPublishedDemandPresent (findPublishedDemandForOffline ctx
                                  survey.id input.assessmentYearId
                                  (input.wardId.getD survey.wardId) db) with
                              | error error => rfl
                              | ok demand =>
                                  dsimp only
                                  cases assertOfflineAmountAgainstOutstanding input.amount
                                    (toMoney demand.outstanding) <;> rfl

/-- A call that no other comes between is the service's call. -/
theorem counter_uninterrupted [DecidableEq Process] (attempts : Process → CounterAttempt)
    (process : Process) (db : Db) :
    let final := run (fire (counterStep attempts)) (uncollected db)
      [process, process, process, process]
    let reply := createOffline (attempts process).ctx (attempts process).input
      (attempts process).user (attempts process).suffix db
    final.shared = reply.1 ∧ final.locals process = .finished reply.2 := by
  simp only [run_cons, run_nil, fire, uncollected, Function.update_self, createOffline,
    offlineRequest_eq]
  cases hPrecheck : offlinePrecheck (attempts process).input db with
  | error error => simp [counterStep, hPrecheck, Except.bind]
  | ok answer =>
      cases answer with
      | inl existing => simp [counterStep, hPrecheck, Except.bind]
      | inr unseen =>
          cases hChecks : offlineChecks (attempts process).ctx (attempts process).input
              (attempts process).user unseen.1 unseen.2 db with
          | error error => simp [counterStep, hPrecheck, hChecks, Except.bind, Except.map]
          | ok request =>
              cases hLocked : lockForCollection request (attempts process).input.amount db with
              | error error =>
                  simp [counterStep, hPrecheck, hChecks, hLocked, Except.bind, Except.map]
              | ok locked =>
                  cases hDate : offlineCollectionDate (attempts process).ctx
                      (attempts process).input with
                  | error error =>
                      simp [counterStep, hPrecheck, hChecks, hLocked, hDate, Except.bind,
                        Except.map]
                  | ok collectionDate =>
                      cases hCollect : collect (attempts process).ctx (attempts process).input
                          (attempts process).user request locked (offlinePaymentReference
                            (attempts process).ctx.now (attempts process).suffix)
                          collectionDate db with
                      | ok result =>
                          simp [counterStep, collectLocked, hPrecheck, hChecks, hLocked, hDate,
                            hCollect, Except.bind, Except.map, offlineAuditEntry]
                      | error refusal =>
                          cases refusal with
                          | recordNotFound =>
                              simp [counterStep, collectLocked, hPrecheck, hChecks, hLocked, hDate,
                                hCollect, Except.bind, Except.map]
                          | uniqueViolation =>
                              cases hRaced : request.idempotencyKey.bind
                                  (paymentByClientKey? db) <;>
                                simp [counterStep, collectLocked, hPrecheck, hChecks, hLocked,
                                  hDate, hCollect, Except.bind, Except.map, answerCollision,
                                  hRaced]

/-! ### What a step does -/

/-- What a collection on a locked demand writes: the payment, and its credit. -/
structure CounterCollected (attempt : CounterAttempt) (request : OfflineRequest)
    (locked : PropertyDemand) (p : Payment) (db db' : Db) : Prop where
  payment : Added db.payments db'.payments p
  demand : Replaced db.demands db'.demands locked
    (locked.credit (toColumn attempt.input.amount))
  rows : ∃ balance, locked.withBalance balance = locked.credit (toColumn attempt.input.amount) ∧
    db'.demands.rows = db.demands.rows.map fun d =>
      if d.id = locked.id then d.withBalance balance else d
  amount : p.amount = toColumn attempt.input.amount
  status : p.status = .success
  propertyDemandId : p.propertyDemandId = some locked.id
  clientIdempotencyKey : p.clientIdempotencyKey = request.idempotencyKey

/-- A step leaves the database as it is, or collects on a demand that it locks. -/
inductive CounterStepped (attempt : CounterAttempt) (progress progress' : CounterProgress)
    (db db' : Db) : Prop where
  | quiet (hDb : db' = db)
  | collected (request : OfflineRequest) (locked : PropertyDemand) (p : Payment)
      (hProgress : progress = .checked request)
      (hLocked : lockForCollection request attempt.input.amount db = .ok locked)
      (hCollected : CounterCollected attempt request locked p db db')
      (hFinished : progress' = .finished (.ok (some p)))

section Collecting
variable {attempt : CounterAttempt} {request : OfflineRequest} {locked : PropertyDemand} {db : Db}
  {collectionDate : Timestamp}

theorem collectLocked_of_ok {result : Db × Id}
    (hLocked : lockForCollection request attempt.input.amount db = .ok locked)
    (hCollect : collect attempt.ctx attempt.input attempt.user request locked
      (offlinePaymentReference attempt.ctx.now attempt.suffix) collectionDate db = .ok result) :
    ∃ p, CounterCollected attempt request locked p db
        (collectLocked attempt request locked collectionDate db).2 ∧
      (collectLocked attempt request locked collectionDate db).1 = .finished (.ok (some p)) := by
  obtain ⟨hMem, _, _, hWithin⟩ := lockForCollection_ok hLocked
  have hPositive := pos_of_offlineAmount hWithin
  simp only [collectLocked, hCollect]
  unfold collect at hCollect
  obtain ⟨after, hCreate, hCollect⟩ := bind_ok hCollect
  obtain ⟨final, hUpdate, hCollect⟩ := bind_ok hCollect
  cases hCollect
  obtain ⟨payments, hAdded, rfl⟩ := Db.createPayment_ok hCreate
  obtain ⟨demands, hDemands, rfl⟩ := map_ok hUpdate
  have hCredit := withBalance_eq_credit locked hPositive.le
  have hReplaced := replaced_of_update hDemands hMem rfl rfl
  rw [hCredit] at hReplaced
  refine ⟨_, ⟨hAdded, hReplaced, ⟨_, hCredit, update_rows hDemands⟩, rfl, rfl, rfl, rfl⟩, ?_⟩
  exact congrArg (fun found => CounterProgress.finished (.ok found)) hAdded.find?_new

/-- The transaction of a collection credits the demand it has locked, or changes nothing. -/
theorem collectLocked_stepped (collectionDate : Timestamp)
    (hLocked : lockForCollection request attempt.input.amount db = .ok locked) :
    CounterStepped attempt (.checked request)
      (collectLocked attempt request locked collectionDate db).1 db
      (collectLocked attempt request locked collectionDate db).2 := by
  cases hCollect : collect attempt.ctx attempt.input attempt.user request locked
      (offlinePaymentReference attempt.ctx.now attempt.suffix) collectionDate db with
  | error refusal =>
      unfold collectLocked
      rw [hCollect]
      cases refusal <;> exact .quiet rfl
  | ok result =>
      obtain ⟨p, hCollected, hFinished⟩ := collectLocked_of_ok hLocked hCollect
      exact .collected request locked p rfl hLocked hCollected hFinished

end Collecting

/-- What one step of a collection can do. -/
theorem counterStep_stepped (attempts : Process → CounterAttempt) (process : Process)
    (progress : CounterProgress) (db : Db) :
    CounterStepped (attempts process) progress (counterStep attempts process progress db).1 db
      (counterStep attempts process progress db).2 := by
  cases progress with
  | waiting =>
      unfold counterStep
      dsimp only
      split <;> exact .quiet rfl
  | unseen surveyId idempotencyKey =>
      unfold counterStep
      dsimp only
      split <;> exact .quiet rfl
  | checked request =>
      unfold counterStep
      dsimp only
      cases hLocked : lockForCollection request (attempts process).input.amount db with
      | error error => exact .quiet rfl
      | ok locked =>
          dsimp only
          cases offlineCollectionDate (attempts process).ctx (attempts process).input with
          | error error => exact .quiet rfl
          | ok collectionDate => exact collectLocked_stepped collectionDate hLocked
  | raced request => exact .quiet rfl
  | finished answer => exact .quiet rfl

/-- How many steps a call has left, at most. -/
def CounterProgress.stepsLeft : CounterProgress → Nat
  | .waiting => 4
  | .unseen _ _ => 3
  | .checked _ => 2
  | .raced _ => 1
  | .finished _ => 0

/-- Every step brings a collection closer to its answer. -/
theorem counterStep_stepsLeft (attempts : Process → CounterAttempt) (process : Process)
    (progress : CounterProgress) (db : Db) :
    (counterStep attempts process progress db).1.stepsLeft ≤ progress.stepsLeft - 1 := by
  cases progress with
  | waiting =>
      unfold counterStep
      dsimp only
      split <;> simp [CounterProgress.stepsLeft]
  | unseen surveyId idempotencyKey =>
      unfold counterStep
      dsimp only
      split <;> simp [CounterProgress.stepsLeft]
  | checked request =>
      unfold counterStep collectLocked
      dsimp only
      repeat' split
      all_goals simp [CounterProgress.stepsLeft]
  | raced request => simp [counterStep, CounterProgress.stepsLeft]
  | finished answer => simp [counterStep, CounterProgress.stepsLeft]

/-- A call that has taken four steps has answered. -/
theorem counter_answers [DecidableEq Process] (attempts : Process → CounterAttempt) (db : Db)
    {schedule : List Process} {process : Process} (h : 4 ≤ schedule.count process) :
    ∃ answer, (run (fire (counterStep attempts)) (uncollected db) schedule).locals process =
      .finished answer := by
  have hLeft : ∀ (schedule : List Process) (system : System Process CounterProgress Db),
      ((run (fire (counterStep attempts)) system schedule).locals process).stepsLeft ≤
        (system.locals process).stepsLeft - schedule.count process := by
    intro schedule
    induction schedule with
    | nil => simp
    | cons next rest ih =>
        intro system
        have hRest := ih (fire (counterStep attempts) system next)
        rw [run_cons]
        by_cases hNext : next = process
        · subst hNext
          rw [fire_locals_self] at hRest
          have hStep := counterStep_stepsLeft attempts next (system.locals next) system.shared
          rw [List.count_cons_self]
          omega
        · rw [fire_locals_of_ne system (Ne.symm hNext)] at hRest
          rw [List.count_cons_of_ne hNext]
          exact hRest
  have hNone := hLeft schedule (uncollected db)
  have hStart : ((uncollected db : System Process CounterProgress Db).locals process).stepsLeft =
      4 := rfl
  cases hLocal : (run (fire (counterStep attempts)) (uncollected db) schedule).locals process with
  | finished answer => exact ⟨answer, rfl⟩
  | _ =>
      rw [hLocal, hStart] at hNone
      simp only [CounterProgress.stepsLeft] at hNone
      omega

/-! ### The balance of the demand -/

/-- What is stored as paid on a demand. -/
def collectedOn (payments : KeyedTable Payment) (demandId : Id) : Money :=
  payments.sumWhere (fun p => p.propertyDemandId = some demandId ∧ p.status = .success)
    Payment.amount

section Steps
variable [DecidableEq Process] (attempts : Process → CounterAttempt)

/-- The step stores a payment on the demand. -/
def AcceptsOn (demandId : Id) (system : System Process CounterProgress Db) (process : Process)
    (p : Payment) : Prop :=
  Added system.shared.payments (fire (counterStep attempts) system process).shared.payments p ∧
    p.propertyDemandId = some demandId

/-- A payment accepted on the demand keeps what is paid within the total, takes
exactly its stored amount off the outstanding, and leaves as paid what was paid
at the start and all amounts stored since. -/
def CollectsExactly (db₀ : Db) (d₀ : PropertyDemand)
    (system : System Process CounterProgress Db) (process : Process) : Prop :=
  ∀ p, AcceptsOn attempts d₀.id system process p →
    let next := (fire (counterStep attempts) system process).shared
    ∃ d d', system.shared.demands.find? d₀.id = some d ∧ next.demands.find? d₀.id = some d' ∧
      d'.amountPaid ≤ d'.totalPayable ∧ d'.outstanding = d.outstanding - p.amount ∧
      d'.amountPaid =
        d₀.amountPaid + (collectedOn next.payments d₀.id - collectedOn db₀.payments d₀.id)

/-- What the call collects on the demand in this step has at most two decimals. -/
def CollectsPaise (demandId : Id) (system : System Process CounterProgress Db)
    (process : Process) : Prop :=
  ∀ p, AcceptsOn attempts demandId system process p → InPaise (attempts process).input.amount

/-- The demand holds the balance it started with and all payments since. -/
structure CounterBalance (db₀ : Db) (d₀ : PropertyDemand) (db : Db) (d : PropertyDemand) :
    Prop where
  found : db.demands.find? d₀.id = some d
  outstanding : d.outstanding = max 0 (d.totalPayable - d.amountPaid)
  paid : d.amountPaid =
    d₀.amountPaid + (collectedOn db.payments d₀.id - collectedOn db₀.payments d₀.id)

variable {attempts} {db₀ : Db} {d₀ d : PropertyDemand}
  {system : System Process CounterProgress Db} {process : Process}

/-- One write adds one row. -/
theorem added_unique {payments payments' : KeyedTable Payment} {p q : Payment}
    (hp : Added payments payments' p) (hq : Added payments payments' q) : p = q := by
  obtain hOld | hNew := (hq.mem_iff p).mp hp.mem_row
  · exact absurd rfl (hp.key_ne hOld)
  · exact hNew

/-- A new payment adds its amount to what was collected on its demand, and on no other. -/
theorem collectedOn_added {payments payments' : KeyedTable Payment} {p : Payment}
    (h : Added payments payments' p) (hStatus : p.status = .success) {demandId : Id}
    (hOn : p.propertyDemandId = some demandId) (otherId : Id) :
    collectedOn payments' otherId =
      collectedOn payments otherId + if demandId = otherId then p.amount else 0 := by
  rw [collectedOn, h.sumWhere_eq, hOn, hStatus]
  simp [collectedOn]

/-- What one step does to the demand: nothing, or the credit of a payment on it. -/
theorem CounterBalance.step (h : CounterBalance db₀ d₀ system.shared d) (process : Process) :
    (CounterBalance db₀ d₀ (fire (counterStep attempts) system process).shared d ∧
      ∀ p, ¬ AcceptsOn attempts d₀.id system process p) ∨
    ∃ p, AcceptsOn attempts d₀.id system process p ∧
      p.amount = toColumn (attempts process).input.amount ∧
      assertOfflineAmountAgainstOutstanding (attempts process).input.amount
        (toMoney d.outstanding) = .ok () ∧
      CounterBalance db₀ d₀ (fire (counterStep attempts) system process).shared
        (d.credit p.amount) := by
  have hStepped := counterStep_stepped attempts process (system.locals process) system.shared
  cases hStepped with
  | quiet hDb =>
      left
      constructor
      · rw [fire_shared, hDb]
        exact h
      · intro p hAccepts
        have hAdded := hAccepts.1
        rw [fire_shared, hDb] at hAdded
        exact hAdded.key_ne hAdded.mem_row rfl
  | collected request locked p hProgress hLocked hCollected =>
      obtain ⟨hPayment, hDemand, -, hAmount, hStatus, hOn, -⟩ := hCollected
      obtain ⟨hMem, _, _, hWithin⟩ := lockForCollection_ok hLocked
      have hSum := collectedOn_added hPayment hStatus hOn d₀.id
      obtain ⟨hRow, hKey⟩ := find?_eq_some_iff.mp h.found
      by_cases hSame : locked.id = d₀.id
      · obtain rfl : locked = d := eq_of_key hMem hRow (hSame.trans hKey.symm)
        right
        refine ⟨p, ⟨hPayment, hOn.trans (congrArg some hSame)⟩, hAmount, hWithin, ?_, rfl, ?_⟩
        · rw [hAmount, ← hSame]
          exact hDemand.find?_new
        · rw [if_pos hSame] at hSum
          rw [PropertyDemand.credit_amountPaid, fire_shared, hSum, h.paid]
          ring
      · left
        constructor
        · refine ⟨?_, h.outstanding, ?_⟩
          · rw [fire_shared, hDemand.find?_of_ne (Ne.symm hSame)]
            exact h.found
          · rw [if_neg hSame, add_zero] at hSum
            rw [fire_shared, hSum]
            exact h.paid
        · intro q hAccepts
          obtain rfl : q = p := added_unique hAccepts.1 hPayment
          exact hSame (Option.some.inj (hOn.symm.trans hAccepts.2))

/-- The tolerance is half a paisa, which no whole paise can use. -/
theorem toColumn_le_of_accepted {amount : ℚ} {outstanding : Money} (hPaise : InPaise amount)
    (h : assertOfflineAmountAgainstOutstanding amount (toMoney outstanding) = .ok ()) :
    toColumn amount ≤ outstanding := by
  obtain ⟨m, rfl⟩ := hPaise
  unfold assertOfflineAmountAgainstOutstanding at h
  split_ifs at h with hPositive hNone hOver
  have hAmount : toMoney m * 100 = m := FixedPoint.toNumber_mul_scale m
  have hUnits : toMoney outstanding * 100 = outstanding := FixedPoint.toNumber_mul_scale outstanding
  have hBelow : (m : ℚ) < (outstanding + 1 : ℤ) := by
    rw [amountEps] at hOver
    push_cast
    linarith
  rw [toColumn_toMoney]
  exact Int.lt_add_one_iff.mp (Int.cast_lt.mp hBelow)

/-- What one step accepts in whole paise goes to the demand to the paisa. -/
theorem CounterBalance.collects (h : CounterBalance db₀ d₀ system.shared d)
    (hPaise : CollectsPaise attempts d₀.id system process) :
    CollectsExactly attempts db₀ d₀ system process := by
  obtain ⟨-, hNone⟩ | ⟨p, hAccepts, hAmount, hWithin, hNext⟩ := h.step process
  · exact fun p hAccepts => absurd hAccepts (hNone p)
  · -- The outstanding is positive, so it is what the total leaves.
    have hLeft : d.outstanding = d.totalPayable - d.amountPaid := by
      have hPositive : 0 < d.outstanding := by
        unfold assertOfflineAmountAgainstOutstanding at hWithin
        split_ifs at hWithin with _ hOutstanding
        exact (toMoney_pos_iff _).mp (not_le.mp hOutstanding)
      rw [h.outstanding] at hPositive ⊢
      obtain hZero | hLeft := lt_max_iff.mp hPositive
      · exact absurd hZero (lt_irrefl _)
      · exact max_eq_right hLeft.le
    have hFits : p.amount ≤ d.outstanding := by
      rw [hAmount]
      exact toColumn_le_of_accepted (hPaise p hAccepts) hWithin
    intro q hAcceptsQ next
    obtain rfl : q = p := added_unique hAcceptsQ.1 hAccepts.1
    refine ⟨d, d.credit q.amount, h.found, hNext.found, ?_, ?_, hNext.paid⟩
    · change d.amountPaid + q.amount ≤ d.totalPayable
      linarith
    · change max 0 (d.totalPayable - (d.amountPaid + q.amount)) = d.outstanding - q.amount
      rw [max_eq_right (by linarith)]
      linarith

/-- In every run of any calls of `createOffline` that accepts whole paise on the demand, every
payment accepted on it is within the total, taken off the outstanding and added to what is paid,
to the paisa. -/
theorem counter_collects_of_paise (attempts : Process → CounterAttempt) {db₀ : Db}
    {d₀ : PropertyDemand} (hFound : db₀.demands.find? d₀.id = some d₀)
    (hOutstanding : d₀.outstanding = max 0 (d₀.totalPayable - d₀.amountPaid))
    {schedule : List Process}
    (hPaise : Along (fire (counterStep attempts)) (CollectsPaise attempts d₀.id) (uncollected db₀)
      schedule) :
    Along (fire (counterStep attempts)) (CollectsExactly attempts db₀ d₀) (uncollected db₀)
      schedule := by
  refine hPaise.mono_of_invariant (fun system => ∃ d, CounterBalance db₀ d₀ system.shared d)
    ?_ ?_ ⟨d₀, hFound, hOutstanding, by simp [uncollected]⟩
  · rintro system process ⟨d, h⟩ hStep
    exact h.collects hStep
  · rintro system process ⟨d, h⟩ -
    obtain ⟨hNext, -⟩ | ⟨p, -, -, -, hNext⟩ := h.step process
    · exact ⟨d, hNext⟩
    · exact ⟨_, hNext⟩

end Steps

namespace Sample

/-- The demand of 1000 rupees, before any payment. -/
def uncollectedDb : Db := { db with payments := .empty }

/-- Calls with cash at the counter, the second by another clerk a second later. -/
def atCounter (amount : ℚ) (second : Bool) : CounterAttempt where
  ctx := if second then { ward with now := 2000 } else ward
  input := cash amount 20
  user := if second then { administrator with id := 1 } else administrator
  suffix := if second then "b" else "a"

end Sample

/-- Two clerks take 400 rupees each, step by step. -/
theorem counter_collects_400 :
    Along (fire (counterStep (Sample.atCounter 400)))
      (CollectsExactly (Sample.atCounter 400) Sample.uncollectedDb Sample.demand)
      (uncollected Sample.uncollectedDb)
      [false, true, false, true, false, true, false, true] :=
  counter_collects_of_paise (Sample.atCounter 400) rfl rfl
    (along_of_invariant (fun _ => True)
      (fun _ process _ => ⟨trivial, fun _ _ => ⟨40000, by cases process <;> decide +kernel⟩⟩)
      trivial _)

/-- 1000.005 rupees are taken for an outstanding of 1000, and 1000.01 stored. -/
theorem counter_overpays_half_paisa :
    ¬ Along (fire (counterStep (Sample.atCounter (200001 / 200))))
      (CollectsExactly (Sample.atCounter (200001 / 200)) Sample.uncollectedDb Sample.demand)
      (uncollected Sample.uncollectedDb) [false, false, false] := by
  rintro ⟨-, -, hExact, -⟩
  let system := run (fire (counterStep (Sample.atCounter (200001 / 200))))
    (uncollected Sample.uncollectedDb) [false, false]
  change CollectsExactly _ _ _ system false at hExact
  have hBefore : CounterBalance Sample.uncollectedDb Sample.demand system.shared
      Sample.demand := ⟨by decide +kernel, by decide +kernel, by decide +kernel⟩
  obtain ⟨hSame, -⟩ | ⟨p, hAccepts, -⟩ := hBefore.step false
  · have hChanged : (fire (counterStep (Sample.atCounter (200001 / 200))) system
        false).shared.demands.find? 1 ≠ some Sample.demand := by decide +kernel
    exact hChanged hSame.found
  · have hOver : ((fire (counterStep (Sample.atCounter (200001 / 200))) system
        false).shared.demands.find? 1).all fun d => d.totalPayable < d.amountPaid := by
      decide +kernel
    obtain ⟨d, d', -, hAfter, hWithin, -⟩ := hExact p hAccepts
    rw [show Sample.demand.id = 1 from rfl] at hAfter
    rw [hAfter] at hOver
    exact absurd hWithin (not_le.mpr (of_decide_eq_true hOver))

end PropertyTax
