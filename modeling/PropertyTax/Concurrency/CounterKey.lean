import PropertyTax.Concurrency.Counter

/-! Calls of `createOffline` that repeat one collection under one client key. The
unique key lets one of them through, and the answer to a violation finds the
payment that won. The checks of the outstanding come first, though, and what the
winner has left of it may be too little. -/
namespace PropertyTax
open KeyedTable Runs

/-- What repeated calls may differ in. -/
structure CounterCaller where
  user : AuthUser
  now : Timestamp
  suffix : String

/-- A call of the collection by one of the callers. -/
def repeatedCall (ctx : Context) (input : OfflineInput) (caller : CounterCaller) :
    CounterAttempt where
  ctx := { ctx with now := caller.now }
  input := input
  user := caller.user
  suffix := caller.suffix

abbrev repeatedCalls {Process : Type} (ctx : Context) (input : OfflineInput)
    (callers : Process → CounterCaller) (process : Process) : CounterAttempt :=
  repeatedCall ctx input (callers process)

/-- The demand that the input is to be collected on. -/
def demandToCollectOn (ctx : Context) (input : OfflineInput) (db : Db) : Option PropertyDemand :=
  (input.surveyId.bind ctx.reference.survey?).bind fun survey =>
    findPublishedDemandForOffline ctx survey.id input.assessmentYearId
      (input.wardId.getD survey.wardId) db

/-- What the collection leaves outstanding would pass the checks once more. -/
def OutstandingCoversAnother (ctx : Context) (input : OfflineInput) (db : Db) : Prop :=
  ∀ d, demandToCollectOn ctx input db = some d →
    assertOfflineAmountAgainstOutstanding input.amount
      (toMoney (d.credit (toColumn input.amount)).outstanding) = .ok ()

/-- One payment was stored since, under the key, and credited to its demand. -/
structure CollectedOnce (key : String) (db₀ : Db) (p : Payment) (db : Db) : Prop where
  payment : Added db₀.payments db.payments p
  key : p.clientIdempotencyKey = some key
  demand : ∃ d, p.propertyDemandId = some d.id ∧
    Replaced db₀.demands db.demands d (d.credit p.amount)

/-- The calls collect once: those that have taken their steps have answered, and
every answer is the one payment. -/
structure CollectsOnce {Process : Type} [DecidableEq Process] (key : String) (db₀ : Db)
    (schedule : List Process) (system : System Process CounterProgress Db) : Prop where
  answered : ∀ process, 4 ≤ schedule.count process →
    ∃ answer, system.locals process = .finished answer
  same : ∀ process answer, system.locals process = .finished answer →
    ∃ p, answer = .ok (some p) ∧ CollectedOnce key db₀ p system.shared
  atMostOnce : (system.shared.payments = db₀.payments ∧ system.shared.demands = db₀.demands) ∨
    ∃ p, CollectedOnce key db₀ p system.shared

/-! ### The steps of a call -/

section Calls
variable {ctx : Context} {input : OfflineInput} {user : AuthUser} {surveyId : Id}
  {idempotencyKey : Option String} {db db' : Db} {request : OfflineRequest}

/-- The checks before the transaction pass, for the request. -/
structure OfflineChecked (ctx : Context) (input : OfflineInput) (user : AuthUser) (surveyId : Id)
    (idempotencyKey : Option String) (db : Db) (request : OfflineRequest) : Prop where
  survey : ctx.reference.survey? surveyId = some request.survey
  surveyAccess : assertSurveyAccess user request.survey.createdById .read = .ok ()
  access : assertPaymentAccess user (some user.id) .createOffline = .ok ()
  wardId : request.wardId = input.wardId.getD request.survey.wardId
  demand : findPublishedDemandForOffline ctx request.survey.id input.assessmentYearId
    request.wardId db = some request.demand
  published : request.demand.status = .published
  amount : assertOfflineAmountAgainstOutstanding input.amount
    (toMoney request.demand.outstanding) = .ok ()
  idempotencyKey : request.idempotencyKey = idempotencyKey

/-- The checks pass exactly for a request that meets each of them. -/
theorem offlineChecks_iff : offlineChecks ctx input user surveyId idempotencyKey db = .ok request ↔
    OfflineChecked ctx input user surveyId idempotencyKey db request := by
  unfold offlineChecks
  constructor
  · intro h
    cases hSurvey : ctx.reference.survey? surveyId with
    | none =>
        rw [hSurvey] at h
        cases h
    | some survey =>
        rw [hSurvey] at h
        obtain ⟨_, hSurveyAccess, h⟩ := bind_ok h
        obtain ⟨_, hAccess, h⟩ := bind_ok h
        obtain ⟨demand, hPresent, h⟩ := bind_ok h
        obtain ⟨_, hAmount, h⟩ := bind_ok h
        cases h
        cases hFound : findPublishedDemandForOffline ctx survey.id input.assessmentYearId
            (input.wardId.getD survey.wardId) db with
        | none => simp [hFound, assertPublishedDemandPresent] at hPresent
        | some found =>
            simp only [hFound, assertPublishedDemandPresent] at hPresent
            split_ifs at hPresent with hPublished
            cases hPresent
            exact ⟨hSurvey, hSurveyAccess, hAccess, rfl, hFound, hPublished, hAmount, rfl⟩
  · intro h
    obtain ⟨survey, wardId, demand, key⟩ := request
    obtain ⟨hSurvey, hSurveyAccess, hAccess, hWard, hDemand, hPublished, hAmount, hKey⟩ := h
    dsimp only at *
    subst hWard hKey
    simp only [hSurvey, hSurveyAccess, hAccess, hDemand, assertPublishedDemandPresent, hPublished,
      hAmount, bind, Except.bind, pure, Except.pure, ↓reduceIte]

/-- Of the database the first step reads only the payment under the key. -/
theorem offlinePrecheck_ok {answer : Payment ⊕ Id × Option String}
    (h : offlinePrecheck input db = .ok answer) :
    ∃ surveyId, input.surveyId = some surveyId ∧ ∀ db', offlinePrecheck input db' =
      .ok (((nonBlank input.clientIdempotencyKey).bind (paymentByClientKey? db')).elim
        (.inr (surveyId, nonBlank input.clientIdempotencyKey)) .inl) := by
  unfold offlinePrecheck at h
  obtain ⟨_, hMode, h⟩ := bind_ok h
  cases hSurvey : input.surveyId with
  | none =>
      rw [hSurvey] at h
      cases h
  | some surveyId =>
      rw [hSurvey] at h
      obtain ⟨_, hReference, -⟩ := bind_ok h
      refine ⟨surveyId, rfl, fun db' => ?_⟩
      simp only [offlinePrecheck, hMode, hSurvey, hReference, bind, Except.bind, pure, Except.pure]
      cases (nonBlank input.clientIdempotencyKey).bind (paymentByClientKey? db') <;> rfl

/-- A rewriting of the demands that leaves what they are found by. -/
structure KeepsStanding (f : PropertyDemand → PropertyDemand) : Prop where
  surveyId : ∀ d, (f d).surveyId = d.surveyId
  assessmentYearId : ∀ d, (f d).assessmentYearId = d.assessmentYearId
  status : ∀ d, (f d).status = d.status
  publishedAt : ∀ d, (f d).publishedAt = d.publishedAt

/-- A new balance leaves survey, year, status and the other columns of a demand as they were. -/
theorem keepsStanding_withBalance (id : Id) (balance : Balance) :
    KeepsStanding fun d => if d.id = id then d.withBalance balance else d := by
  constructor <;> intro d <;> split <;> rfl

section Standing
variable {f : PropertyDemand → PropertyDemand} (hf : KeepsStanding f)
  (hRows : db'.demands.rows = db.demands.rows.map f)
include hf hRows

/-- A change of balances does not change which demand is found for a survey and year. -/
theorem demandFor?_map (surveyId assessmentYearId : Id) :
    db'.demandFor? surveyId assessmentYearId = (db.demandFor? surveyId assessmentYearId).map f := by
  unfold Db.demandFor? findFirst?
  rw [hRows, List.find?_map]
  simp only [Function.comp_def, hf.surveyId, hf.assessmentYearId]

/-- A change of balances does not change which published demand is the latest. -/
theorem latestPublishedDemand?_map (surveyId : Id) :
    latestPublishedDemand? db' surveyId = (latestPublishedDemand? db surveyId).map f := by
  unfold latestPublishedDemand?
  rw [hRows, List.filter_map]
  simp only [Function.comp_def, hf.surveyId, hf.status]
  rw [← List.map_insertionSort (fun d e => publishedLater d e = true), List.head?_map]
  intro d _ e _
  simp only [publishedLater, hf.publishedAt]

/-- A change of balances does not change on which demand the counter collects. -/
theorem findPublishedDemandForOffline_map (surveyId : Id) (assessmentYearId : Option Id)
    (wardId : Id) :
    findPublishedDemandForOffline ctx surveyId assessmentYearId wardId db' =
      (findPublishedDemandForOffline ctx surveyId assessmentYearId wardId db).map f := by
  unfold findPublishedDemandForOffline
  cases assessmentYearId with
  | some yearId => exact demandFor?_map hf hRows surveyId yearId
  | none =>
      dsimp only
      rw [latestPublishedDemand?_map hf hRows, Option.map_or, Option.map_bind]
      congr 2
      funext config
      rw [Function.comp_apply, demandFor?_map hf hRows]
      cases db.demandFor? surveyId config.assessmentYear.id with
      | none => rfl
      | some d => simp only [Option.map_some, Option.filter_some, hf.status]; split <;> rfl

end Standing

end Calls

/-- A call that collects if no other comes between. -/
structure CollectsAlone (key : String) (db₀ : Db) (attempt : CounterAttempt) (surveyId : Id)
    (request : OfflineRequest) : Prop where
  survey : attempt.input.surveyId = some surveyId
  precheck : ∀ db, offlinePrecheck attempt.input db =
    .ok ((paymentByClientKey? db key).elim (.inr (surveyId, some key)) .inl)
  checked : OfflineChecked attempt.ctx attempt.input attempt.user surveyId (some key) db₀ request
  locked : lockForCollection request attempt.input.amount db₀ = .ok request.demand
  collected : ∃ date result, offlineCollectionDate attempt.ctx attempt.input = .ok date ∧
    collect attempt.ctx attempt.input attempt.user request request.demand
      (offlinePaymentReference attempt.ctx.now attempt.suffix) date db₀ = .ok result

/-- A call that is answered with a payment, under a key that was free, has passed the checks. -/
theorem collectsAlone_of_createOffline (attempt : CounterAttempt) {key : String} {db₀ : Db}
    {p : Payment} (hKey : nonBlank attempt.input.clientIdempotencyKey = some key)
    (hNew : paymentByClientKey? db₀ key = none)
    (h : (createOffline attempt.ctx attempt.input attempt.user attempt.suffix db₀).2 =
      .ok (some p)) :
    ∃ surveyId request, CollectsAlone key db₀ attempt surveyId request := by
  rw [createOffline, offlineRequest_eq] at h
  cases hPrecheck : offlinePrecheck attempt.input db₀ with
  | error error => simp [hPrecheck, Except.bind] at h
  | ok answer =>
      obtain ⟨surveyId, hSurvey, hAny⟩ := offlinePrecheck_ok hPrecheck
      simp only [hKey, Option.bind_some] at hAny
      rw [hAny, hNew] at h
      simp only [Option.elim_none, Except.bind, Sum.elim_inr] at h
      cases hChecks : offlineChecks attempt.ctx attempt.input attempt.user surveyId (some key)
          db₀ with
      | error error => simp [hChecks, Except.map] at h
      | ok request =>
          have hChecked := offlineChecks_iff.mp hChecks
          simp only [hChecks, Except.map] at h
          cases hLocked : lockForCollection request attempt.input.amount db₀ with
          | error error => simp [hLocked] at h
          | ok locked =>
              obtain rfl : locked = request.demand := by
                obtain ⟨hMem, hId, -⟩ := lockForCollection_ok hLocked
                exact eq_of_key hMem (findPublishedDemandForOffline_survey hChecked.demand).1 hId
              simp only [hLocked] at h
              cases hDate : offlineCollectionDate attempt.ctx attempt.input with
              | error error => simp [hDate] at h
              | ok date =>
                  simp only [hDate] at h
                  cases hCollect : collect attempt.ctx attempt.input attempt.user request
                      request.demand (offlinePaymentReference attempt.ctx.now attempt.suffix)
                      date db₀ with
                  | ok result =>
                      exact ⟨surveyId, request, hSurvey, hAny, hChecked, hLocked, date, result,
                        hDate, hCollect⟩
                  | error refusal =>
                      rw [hCollect] at h
                      cases refusal with
                      | recordNotFound => cases h
                      | uniqueViolation =>
                          simp [answerCollision, hChecked.idempotencyKey, hNew] at h

/-! ### After the collection -/

theorem paymentByClientKey?_of_mem {key : String} {db : Db} {p : Payment}
    (hp : p ∈ db.payments.rows) (hKey : p.clientIdempotencyKey = some key) :
    paymentByClientKey? db key = some p := by
  apply findFirst?_eq_some_of_mem hp (by simp [hKey])
  intro q hq hSame
  apply eq_of_clash hq hp
  have hBoth : sameValue q.clientIdempotencyKey p.clientIdempotencyKey = true :=
    sameValue_iff.mpr ⟨key, of_decide_eq_true hSame, hKey⟩
  simp [KeyedRow.clash, hBoth]

/-- The unique column refuses a second payment under the key. -/
theorem collect_of_key_taken {ctx : Context} {input : OfflineInput} {user : AuthUser}
    {request : OfflineRequest} {locked : PropertyDemand} {paymentReference key : String}
    {date : Timestamp} {db : Db} {p : Payment} (hp : p ∈ db.payments.rows)
    (hKey : p.clientIdempotencyKey = some key) (hRequest : request.idempotencyKey = some key) :
    collect ctx input user request locked paymentReference date db = .error .uniqueViolation := by
  have hInsert : db.payments.insert (collectedPayment ctx input user request locked
      paymentReference date db.nextId) = .error .uniqueViolation := by
    cases h : db.payments.insert (collectedPayment ctx input user request locked paymentReference
        date db.nextId) with
    | error refusal =>
        unfold KeyedTable.insert at h
        split_ifs at h
        exact h.symm
    | ok payments =>
        have hFree := insert_isOk_iff.mp ⟨payments, h⟩ p hp
        have hBoth : sameValue p.clientIdempotencyKey (some key) = true :=
          sameValue_iff.mpr ⟨key, hKey, rfl⟩
        simp [KeyedRow.clash, collectedPayment, hRequest, hBoth] at hFree
  simp only [collect, Db.createPayment, hInsert, Except.map, bind, Except.bind]

section After
variable {ctx : Context} {input : OfflineInput} {user : AuthUser} {surveyId : Id}
  {idempotencyKey : Option String} {db db' : Db} {request request' : OfflineRequest}
  {f : PropertyDemand → PropertyDemand}

/-- Other balances lead the checks to the same demand. -/
theorem OfflineChecked.demand_eq (h : OfflineChecked ctx input user surveyId idempotencyKey db
    request) (hf : KeepsStanding f) (hRows : db'.demands.rows = db.demands.rows.map f)
    (h' : OfflineChecked ctx input user surveyId idempotencyKey db' request') :
    request'.demand = f request.demand := by
  have hSurvey : request'.survey = request.survey :=
    Option.some.inj (h'.survey.symm.trans h.survey)
  have hFound := h'.demand
  rw [findPublishedDemandForOffline_map hf hRows, h'.wardId, hSurvey, ← h.wardId,
    h.demand] at hFound
  exact (Option.some.inj hFound).symm

/-- The checks pass once more after a change of balances that leaves enough to be paid. -/
theorem OfflineChecked.again (h : OfflineChecked ctx input user surveyId idempotencyKey db request)
    (hf : KeepsStanding f) (hRows : db'.demands.rows = db.demands.rows.map f)
    (hAmount : assertOfflineAmountAgainstOutstanding input.amount
      (toMoney (f request.demand).outstanding) = .ok ()) :
    OfflineChecked ctx input user surveyId idempotencyKey db'
      { request with demand := f request.demand } where
  survey := h.survey
  surveyAccess := h.surveyAccess
  access := h.access
  wardId := h.wardId
  demand := by rw [findPublishedDemandForOffline_map hf hRows, h.demand, Option.map_some]
  published := (hf.status _).trans h.published
  amount := hAmount
  idempotencyKey := h.idempotencyKey

end After

section Alone
variable {ctx : Context} {input : OfflineInput} {key : String} {db₀ db : Db} {surveyId : Id}
  {caller caller' : CounterCaller} {request request' : OfflineRequest} {p : Payment}

/-- The demand of the checks is the one on which the input collects. -/
theorem CollectsAlone.demandToCollectOn
    (h : CollectsAlone key db₀ (repeatedCall ctx input caller) surveyId request) :
    demandToCollectOn ctx input db₀ = some request.demand := by
  have hSurvey : input.surveyId = some surveyId := h.survey
  have hFound : ctx.reference.survey? surveyId = some request.survey := h.checked.survey
  have hDemand := h.checked.demand
  rw [h.checked.wardId] at hDemand
  rw [PropertyTax.demandToCollectOn, hSurvey, Option.bind_some, hFound, Option.bind_some]
  exact hDemand

/-- All callers collect on one demand. -/
theorem CollectsAlone.demand_eq
    (h : CollectsAlone key db₀ (repeatedCall ctx input caller) surveyId request)
    (h' : CollectsAlone key db₀ (repeatedCall ctx input caller') surveyId request') :
    request'.demand = request.demand :=
  Option.some.inj (h'.demandToCollectOn.symm.trans h.demandToCollectOn)

/-- The transaction of one call leaves the payment that all calls ask for. -/
theorem CounterCollected.collectedOnce
    (h : CollectsAlone key db₀ (repeatedCall ctx input caller) surveyId request)
    (hCollected : CounterCollected (repeatedCall ctx input caller) request request.demand p db₀
      db) : CollectedOnce key db₀ p db where
  payment := hCollected.payment
  key := hCollected.clientIdempotencyKey.trans h.checked.idempotencyKey
  demand := by
    refine ⟨request.demand, hCollected.propertyDemandId, ?_⟩
    rw [hCollected.amount]
    exact hCollected.demand

/-- After a collection another call passes its checks exactly if what is left
covers it. -/
theorem CollectsAlone.checks_after_iff
    (h : CollectsAlone key db₀ (repeatedCall ctx input caller) surveyId request)
    (hCollected : CounterCollected (repeatedCall ctx input caller) request request.demand p db₀ db)
    (h' : CollectsAlone key db₀ (repeatedCall ctx input caller') surveyId request') :
    (∃ again, offlineChecks (repeatedCall ctx input caller').ctx input caller'.user surveyId
        (some key) db = .ok again ∧ again.demand.id = request.demand.id ∧
        again.idempotencyKey = some key) ↔
      OutstandingCoversAnother ctx input db₀ := by
  obtain ⟨balance, hCredit, hRows⟩ := hCollected.rows
  have hf := keepsStanding_withBalance request.demand.id balance
  have hSame := h.demand_eq h'
  have hLeft : (if request'.demand.id = request.demand.id then
      request'.demand.withBalance balance else request'.demand) =
      request.demand.credit (toColumn input.amount) := by
    rw [hSame, if_pos rfl]
    exact hCredit
  constructor
  · rintro ⟨again, hAgain, -⟩ d hd
    obtain rfl : request.demand = d := Option.some.inj (h.demandToCollectOn.symm.trans hd)
    have hChecked := offlineChecks_iff.mp hAgain
    have hDemand := h'.checked.demand_eq hf hRows hChecked
    have hAmount := hChecked.amount
    rw [hDemand] at hAmount
    rw [← hLeft]
    exact hAmount
  · intro hCovers
    have hAmount := hCovers _ h.demandToCollectOn
    rw [← hLeft] at hAmount
    refine ⟨_, offlineChecks_iff.mpr (h'.checked.again hf hRows hAmount), ?_,
      h'.checked.idempotencyKey⟩
    dsimp only
    rw [hLeft, PropertyDemand.credit_id]

/-- Another call that has passed its checks also passes them under the lock. -/
theorem CollectsAlone.lock_after
    (h : CollectsAlone key db₀ (repeatedCall ctx input caller) surveyId request)
    (hCollected : CounterCollected (repeatedCall ctx input caller) request request.demand p db₀ db)
    (hCovers : OutstandingCoversAnother ctx input db₀)
    (hId : request'.demand.id = request.demand.id) :
    ∃ locked, lockForCollection request' input.amount db = .ok locked := by
  have hFound := hCollected.demand.find?_new
  have hAmount := hCovers _ h.demandToCollectOn
  refine ⟨request.demand.credit (toColumn input.amount), ?_⟩
  have hLocked : (db.demands.find? request'.demand.id).filter (fun d => d.status = .published) =
      some (request.demand.credit (toColumn input.amount)) := by
    rw [hId]
    refine Option.filter_eq_some_iff.mpr ⟨hFound, ?_⟩
    exact decide_eq_true h.checked.published
  simp only [lockForCollection, hLocked, hAmount, Except.map]

end Alone

/-! ### All calls together -/

section Calls
variable {Process : Type} (ctx : Context) (input : OfflineInput) (key : String) (db₀ : Db)
  (surveyId : Id)

/-- Before the collection: the call goes as if it were alone. -/
inductive CountingAlone (caller : CounterCaller) : CounterProgress → Prop where
  | waiting : CountingAlone caller .waiting
  | unseen : CountingAlone caller (.unseen surveyId (some key))
  | checked {request : OfflineRequest}
      (h : CollectsAlone key db₀ (repeatedCall ctx input caller) surveyId request) :
      CountingAlone caller (.checked request)

/-- After the collection on the demand: the call is still to find its payment. -/
inductive CountingBehind (d : PropertyDemand) : CounterProgress → Prop where
  | waiting : CountingBehind d .waiting
  | unseen : CountingBehind d (.unseen surveyId (some key))
  | checked {request : OfflineRequest} (hKey : request.idempotencyKey = some key)
      (hId : request.demand.id = d.id) : CountingBehind d (.checked request)
  | raced {request : OfflineRequest} (hKey : request.idempotencyKey = some key) :
      CountingBehind d (.raced request)

/-- The two stages of a run. -/
inductive CounterStage (callers : Process → CounterCaller)
    (system : System Process CounterProgress Db) : Prop where
  | before (hShared : system.shared = db₀)
      (hLocals : ∀ process, CountingAlone ctx input key db₀ surveyId (callers process)
        (system.locals process))
  | after (winner : Process) (request : OfflineRequest) (p : Payment)
      (hWinner : CollectsAlone key db₀ (repeatedCall ctx input (callers winner)) surveyId request)
      (hCollected : CounterCollected (repeatedCall ctx input (callers winner)) request
        request.demand p db₀ system.shared)
      (hLocals : ∀ process, system.locals process = .finished (.ok (some p)) ∨
        OutstandingCoversAnother ctx input db₀ ∧
          CountingBehind key surveyId request.demand (system.locals process))

variable {ctx input key db₀ surveyId} {callers : Process → CounterCaller}
  {system : System Process CounterProgress Db}

/-- A call behind the collection comes closer to its payment, and changes nothing. -/
theorem CountingBehind.step {winner process : Process} {request : OfflineRequest} {p : Payment}
    {progress : CounterProgress} {db : Db}
    (hWinner : CollectsAlone key db₀ (repeatedCall ctx input (callers winner)) surveyId request)
    (hCollected : CounterCollected (repeatedCall ctx input (callers winner)) request
      request.demand p db₀ db)
    (hAlone : ∃ own, CollectsAlone key db₀ (repeatedCall ctx input (callers process)) surveyId own)
    (hCovers : OutstandingCoversAnother ctx input db₀)
    (h : CountingBehind key surveyId request.demand progress) :
    (counterStep (repeatedCalls ctx input callers) process progress
        db).2 = db ∧
      ((counterStep (repeatedCalls ctx input callers) process progress
          db).1 = .finished (.ok (some p)) ∨
        CountingBehind key surveyId request.demand
          (counterStep (repeatedCalls ctx input callers) process progress
            db).1) := by
  obtain ⟨own, hOwn⟩ := hAlone
  have hMem := hCollected.payment.mem_row
  have hKey := hCollected.clientIdempotencyKey.trans hWinner.checked.idempotencyKey
  have hFound := paymentByClientKey?_of_mem hMem hKey
  cases h with
  | waiting =>
      have hPrecheck := hOwn.precheck db
      rw [hFound, Option.elim_some] at hPrecheck
      simp only [counterStep, hPrecheck, true_and]
      exact .inl trivial
  | unseen =>
      obtain ⟨again, hAgain, hId, hAgainKey⟩ :=
        (hWinner.checks_after_iff hCollected hOwn).mpr hCovers
      change offlineChecks _ _ (repeatedCall ctx input (callers process)).user _ _ _ = _ at hAgain
      have hInput : (repeatedCall ctx input (callers process)).input = input := rfl
      simp only [counterStep, hInput, hAgain, true_and]
      exact .inr (.checked hAgainKey hId)
  | @checked late hLateKey hId =>
      obtain ⟨locked, hLocked⟩ := hWinner.lock_after hCollected hCovers hId
      obtain ⟨date, _, hDate, -⟩ := hOwn.collected
      have hInput : (repeatedCall ctx input (callers process)).input = input := rfl
      rw [hInput] at hDate
      simp only [counterStep, hInput, hLocked, hDate, collectLocked,
        collect_of_key_taken hMem hKey hLateKey, true_and]
      exact .inr (.raced hLateKey)
  | @raced late hLateKey =>
      simp only [counterStep, answerCollision, hLateKey, Option.bind_some, hFound, true_and]
      exact .inl trivial

/-- One step of a call that goes as if it were alone. -/
theorem CountingAlone.step {process : Process} {progress : CounterProgress}
    (hAlone : ∃ own, CollectsAlone key db₀ (repeatedCall ctx input (callers process)) surveyId own)
    (hNew : paymentByClientKey? db₀ key = none)
    (h : CountingAlone ctx input key db₀ surveyId (callers process) progress) :
    ((counterStep (repeatedCalls ctx input callers) process progress
        db₀).2 = db₀ ∧
      CountingAlone ctx input key db₀ surveyId (callers process)
        (counterStep (repeatedCalls ctx input callers) process progress
          db₀).1) ∨
    ∃ request p, CollectsAlone key db₀ (repeatedCall ctx input (callers process)) surveyId
        request ∧
      CounterCollected (repeatedCall ctx input (callers process)) request request.demand p db₀
        (counterStep (repeatedCalls ctx input callers) process progress
          db₀).2 ∧
      (counterStep (repeatedCalls ctx input callers) process progress
        db₀).1 = .finished (.ok (some p)) := by
  obtain ⟨own, hOwn⟩ := hAlone
  cases h with
  | waiting =>
      have hPrecheck := hOwn.precheck db₀
      rw [hNew, Option.elim_none] at hPrecheck
      left
      simp only [counterStep, hPrecheck, true_and]
      exact .unseen
  | unseen =>
      have hChecks := offlineChecks_iff.mpr hOwn.checked
      left
      simp only [counterStep, hChecks, true_and]
      exact .checked hOwn
  | @checked request hRequest =>
      obtain ⟨date, result, hDate, hCollect⟩ := hRequest.collected
      obtain ⟨p, hCollected, hFinished⟩ := collectLocked_of_ok hRequest.locked hCollect
      right
      refine ⟨request, p, hRequest, ?_⟩
      simp only [counterStep, hRequest.locked, hDate]
      exact ⟨hCollected, hFinished⟩

/-- A call that is counting alone is behind for every other call of the same key. -/
theorem CountingAlone.behind {caller caller' : CounterCaller} {request : OfflineRequest}
    {progress : CounterProgress} (h : CountingAlone ctx input key db₀ surveyId caller progress)
    (hOther : CollectsAlone key db₀ (repeatedCall ctx input caller') surveyId request) :
    CountingBehind key surveyId request.demand progress := by
  cases h with
  | waiting => exact .waiting
  | unseen => exact .unseen
  | checked hOwn =>
      exact .checked hOwn.checked.idempotencyKey
        (congrArg PropertyDemand.id (hOther.demand_eq hOwn))

variable [DecidableEq Process]

/-- A step of any call keeps the stage, if what is left covers another
collection or there is no other call. -/
theorem CounterStage.step
    (h : CounterStage ctx input key db₀ surveyId callers system)
    (hAlone : ∀ process, ∃ own,
      CollectsAlone key db₀ (repeatedCall ctx input (callers process)) surveyId own)
    (hNew : paymentByClientKey? db₀ key = none)
    (hCovers : OutstandingCoversAnother ctx input db₀ ∨ ∀ p q : Process, p = q)
    (process : Process) :
    CounterStage ctx input key db₀ surveyId callers
      (fire (counterStep (repeatedCalls ctx input callers)) system process) := by
  cases h with
  | before hShared hLocals =>
      obtain ⟨hSame, hNext⟩ | ⟨request, p, hRequest, hCollected, hFinished⟩ :=
        (hLocals process).step (hAlone process) hNew
      · refine .before ?_ fun other => ?_
        · rw [fire_shared, hShared, hSame]
        · by_cases hOther : other = process
          · subst hOther
            rw [fire_locals_self, hShared]
            exact hNext
          · rw [fire_locals_of_ne system hOther]
            exact hLocals other
      · refine .after process request p hRequest ?_ fun other => ?_
        · rw [fire_shared, hShared]
          exact hCollected
        · by_cases hOther : other = process
          · subst hOther
            rw [fire_locals_self, hShared]
            exact .inl hFinished
          · rw [fire_locals_of_ne system hOther]
            right
            refine ⟨hCovers.resolve_right fun hAll => hOther (hAll _ _), ?_⟩
            exact (hLocals other).behind hRequest
  | after winner request p hWinner hCollected hLocals =>
      have hQuiet : (counterStep (repeatedCalls ctx input callers) process
            (system.locals process) system.shared).2 = system.shared ∧
          ((counterStep (repeatedCalls ctx input callers) process (system.locals process)
              system.shared).1 = .finished (.ok (some p)) ∨
            OutstandingCoversAnother ctx input db₀ ∧ CountingBehind key surveyId request.demand
              (counterStep (repeatedCalls ctx input callers) process (system.locals process)
                system.shared).1) := by
        obtain hFinished | ⟨hEnough, hBehind⟩ := hLocals process
        · rw [hFinished]
          exact ⟨rfl, .inl rfl⟩
        · obtain ⟨hSame, hNext⟩ :=
            hBehind.step hWinner hCollected (hAlone process) hEnough
          exact ⟨hSame, hNext.imp_right fun hStill => ⟨hEnough, hStill⟩⟩
      refine .after winner request p hWinner ?_ fun other => ?_
      · rw [fire_shared, hQuiet.1]
        exact hCollected
      · by_cases hOther : other = process
        · subst hOther
          rw [fire_locals_self]
          exact hQuiet.2
        · rw [fire_locals_of_ne system hOther]
          exact hLocals other

/-- In either stage every answer is the one payment. -/
theorem CounterStage.collectsOnce {schedule : List Process}
    (h : CounterStage ctx input key db₀ surveyId callers
      (run (fire (counterStep (repeatedCalls ctx input callers))) (uncollected db₀) schedule)) :
    CollectsOnce key db₀ schedule
      (run (fire (counterStep (repeatedCalls ctx input callers))) (uncollected db₀) schedule) where
  answered _ hCount := counter_answers _ _ hCount
  same process answer hFinished := by
    cases h with
    | before _ hLocals =>
        have hLocal := hLocals process
        rw [hFinished] at hLocal
        cases hLocal
    | after winner request p hWinner hCollected hLocals =>
        obtain hAnswer | ⟨-, hBehind⟩ := hLocals process
        · rw [hFinished] at hAnswer
          cases hAnswer
          exact ⟨p, rfl, hCollected.collectedOnce hWinner⟩
        · rw [hFinished] at hBehind
          cases hBehind
  atMostOnce := by
    cases h with
    | before hShared _ => exact .inl ⟨by rw [hShared], by rw [hShared]⟩
    | after winner request p hWinner hCollected _ =>
        exact .inr ⟨p, hCollected.collectedOnce hWinner⟩

/-- Two calls have looked for the key when one of them collects: the other is
refused if what is left does not cover it. -/
theorem second_call_refused {first second : Process} (hNe : first ≠ second)
    {request own : OfflineRequest}
    (hFirst : CollectsAlone key db₀ (repeatedCall ctx input (callers first)) surveyId request)
    (hSecond : CollectsAlone key db₀ (repeatedCall ctx input (callers second)) surveyId own)
    (hNew : paymentByClientKey? db₀ key = none)
    (hCovers : ¬ OutstandingCoversAnother ctx input db₀) :
    ∃ error, (run (fire (counterStep (repeatedCalls ctx input callers))) (uncollected db₀)
      [first, second, first, first, second]).locals second = .finished (.error error) := by
  obtain ⟨date, result, hDate, hCollect⟩ := hFirst.collected
  obtain ⟨p, hCollected, hFinished⟩ := collectLocked_of_ok hFirst.locked hCollect
  have hChecks := offlineChecks_iff.mpr hFirst.checked
  have hPrecheck := hFirst.precheck db₀
  have hPrecheck' := hSecond.precheck db₀
  rw [hNew, Option.elim_none] at hPrecheck hPrecheck'
  cases hRefused : offlineChecks (repeatedCall ctx input (callers second)).ctx
      (repeatedCall ctx input (callers second)).input (callers second).user surveyId (some key)
      (collectLocked (repeatedCall ctx input (callers first)) request request.demand date
        db₀).2 with
  | ok again =>
      have hAgain := offlineChecks_iff.mp hRefused
      obtain ⟨balance, -, hRows⟩ := hCollected.rows
      have hDemand := hSecond.checked.demand_eq (keepsStanding_withBalance _ balance) hRows hAgain
      refine absurd ((hFirst.checks_after_iff hCollected hSecond).mp ⟨again, hRefused, ?_,
        hAgain.idempotencyKey⟩) hCovers
      rw [hDemand, hFirst.demand_eq hSecond]
      split <;> rfl
  | error error =>
      refine ⟨error, ?_⟩
      change offlineChecks _ _ (repeatedCall ctx input (callers second)).user _ _ _ = _ at hRefused
      simp only [run_cons, run_nil, fire, uncollected, Function.update_self,
        Function.update_of_ne hNe, Function.update_of_ne hNe.symm, counterStep, repeatedCalls,
        hPrecheck, hPrecheck', hChecks, hFirst.locked, hDate, hRefused]

end Calls

/-- However calls of one collection under one key interleave, each alone valid,
they collect once and all answer with the one payment, exactly if what the
collection leaves outstanding covers another or there is only one call. -/
theorem offline_idempotent_iff {Process : Type} [DecidableEq Process] (ctx : Context)
    (input : OfflineInput) (callers : Process → CounterCaller) (key : String) (db₀ : Db)
    (hKey : nonBlank input.clientIdempotencyKey = some key)
    (hNew : paymentByClientKey? db₀ key = none)
    (hValid : ∀ process, ∃ p, (createOffline { ctx with now := (callers process).now } input
      (callers process).user (callers process).suffix db₀).2 = .ok (some p)) :
    (∀ schedule, CollectsOnce key db₀ schedule
      (run (fire (counterStep (repeatedCalls ctx input callers))) (uncollected db₀) schedule)) ↔
    OutstandingCoversAnother ctx input db₀ ∨ ∀ p q : Process, p = q := by
  have hAlone : ∀ process, ∃ surveyId own,
      CollectsAlone key db₀ (repeatedCall ctx input (callers process)) surveyId own := by
    intro process
    obtain ⟨p, hp⟩ := hValid process
    exact collectsAlone_of_createOffline (repeatedCall ctx input (callers process)) hKey hNew hp
  constructor
  · intro hAll
    by_contra hNot
    obtain ⟨hCovers, hTwo⟩ := not_or.mp hNot
    push Not at hTwo
    obtain ⟨first, second, hNe⟩ := hTwo
    obtain ⟨surveyId, request, hFirst⟩ := hAlone first
    obtain ⟨surveyId', own, hSecond⟩ := hAlone second
    obtain rfl : surveyId = surveyId' := Option.some.inj (hFirst.survey.symm.trans hSecond.survey)
    obtain ⟨error, hRefused⟩ := second_call_refused hNe hFirst hSecond hNew hCovers
    obtain ⟨p, hAnswer, -⟩ := (hAll _).same second _ hRefused
    cases hAnswer
  · intro hCovers schedule
    have hShared : ∀ process, ∃ own, CollectsAlone key db₀
        (repeatedCall ctx input (callers process)) (input.surveyId.getD 0) own := by
      intro process
      obtain ⟨surveyId, own, hOwn⟩ := hAlone process
      have hSurvey : input.surveyId = some surveyId := hOwn.survey
      rw [hSurvey, Option.getD_some]
      exact ⟨own, hOwn⟩
    apply CounterStage.collectsOnce
    exact run_invariant (CounterStage ctx input key db₀ (input.surveyId.getD 0) callers)
      (fun _ process h => h.step hShared hNew hCovers process) (.before rfl fun _ => .waiting)
      schedule

namespace Sample

/-- A cash payment that is sent again by another clerk's device. -/
def keyedCash (amount : ℚ) : OfflineInput :=
  { cash amount 20 with clientIdempotencyKey := some "k1" }

def clerks (second : Bool) : CounterCaller where
  user := if second then { administrator with id := 1 } else administrator
  now := if second then 2000 else 1000
  suffix := if second then "b" else "a"

end Sample

/-- The call was refused. -/
def CounterProgress.refused : CounterProgress → Bool
  | .finished (.error _) => true
  | _ => false

theorem CounterProgress.exists_of_refused {progress : CounterProgress}
    (h : progress.refused = true) : ∃ error, progress = .finished (.error error) := by
  cases progress with
  | finished answer =>
      cases answer with
      | error error => exact ⟨error, rfl⟩
      | ok found => cases h
  | _ => cases h

/-- An answer that holds a payment is no error. -/
theorem exists_collected {answer : Except ApiError (Option Payment)}
    (h : (answer.toOption.bind id).isSome = true) : ∃ p, answer = .ok (some p) := by
  cases answer with
  | error error => cases h
  | ok found =>
      obtain ⟨p, rfl⟩ := Option.isSome_iff_exists.mp h
      exact ⟨p, rfl⟩

/-- 400 of 1000 rupees under one key: what is left covers the amount again. -/
theorem offline_idempotent_400 : CollectsOnce "k1" Sample.uncollectedDb
    [false, true, false, false, true, true, true]
    (run (fire (counterStep (repeatedCalls Sample.ward (Sample.keyedCash 400) Sample.clerks)))
      (uncollected Sample.uncollectedDb) [false, true, false, false, true, true, true]) := by
  refine (offline_idempotent_iff Sample.ward (Sample.keyedCash 400) Sample.clerks "k1"
    Sample.uncollectedDb (by decide) rfl ?_).mpr (.inl ?_) _
  · intro process
    apply exists_collected
    cases process <;> decide +kernel
  · intro d hd
    have hDemand : demandToCollectOn Sample.ward (Sample.keyedCash 400) Sample.uncollectedDb =
        some Sample.demand := by decide
    obtain rfl : Sample.demand = d := Option.some.inj (hDemand.symm.trans hd)
    decide +kernel

/-- 1000 of 1000 rupees under one key: the second call passes the look for the
key, and finds nothing outstanding. -/
theorem repeated_call_refused : ¬ CollectsOnce "k1" Sample.uncollectedDb
    [false, true, false, false, true]
    (run (fire (counterStep (repeatedCalls Sample.ward (Sample.keyedCash 1000) Sample.clerks)))
      (uncollected Sample.uncollectedDb) [false, true, false, false, true]) := by
  intro h
  have hRefused : ((run (fire (counterStep (repeatedCalls Sample.ward (Sample.keyedCash 1000)
      Sample.clerks))) (uncollected Sample.uncollectedDb)
      [false, true, false, false, true]).locals true).refused = true := by decide +kernel
  obtain ⟨error, hError⟩ := CounterProgress.exists_of_refused hRefused
  obtain ⟨p, hAnswer, -⟩ := h.same true _ hError
  cases hAnswer

end PropertyTax
