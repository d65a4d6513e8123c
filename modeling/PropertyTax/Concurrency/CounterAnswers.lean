import PropertyTax.Concurrency.CounterKey

/-! Whose receipt a call of `createOffline` answers with. It may be the one stored
under the key that the client chose, which is looked for before the access
checks, and again after a unique violation. -/
namespace PropertyTax
open KeyedTable Runs

variable {Process : Type}

/-- What happens next: a step of a call, or any other change of the database. -/
inductive CounterEvent (Process : Type) where
  | call (process : Process)
  | elsewhere (change : Db → Db)

def counterEvent [DecidableEq Process] (attempts : Process → CounterAttempt)
    (system : System Process CounterProgress Db) :
    CounterEvent Process → System Process CounterProgress Db
  | .call process => fire (counterStep attempts) system process
  | .elsewhere change => { system with shared := change system.shared }

/-- The payment is a collection of what the call asks for, by its caller. -/
structure IsReceiptOf (attempt : CounterAttempt) (p : Payment) : Prop where
  status : p.status = .success
  amount : toMoney p.amount = attempt.input.amount
  survey : p.surveyId = attempt.input.surveyId
  collector : p.collectedById = some attempt.user.id

/-- A call that now returns a receipt returns a recorded one of its own. -/
def AnswersItself (attempts : Process → CounterAttempt)
    (system : System Process CounterProgress Db) : CounterEvent Process → Prop
  | .call process =>
      let next := counterStep attempts process (system.locals process) system.shared
      (∀ answer, system.locals process ≠ .finished answer) →
      ∀ found, next.1 = .finished (.ok found) →
        ∃ p, found = some p ∧ p ∈ next.2.payments.rows ∧ IsReceiptOf (attempts process) p
  | .elsewhere _ => True

/-- The payment that is stored under the key of the call. -/
def keyPayment? (attempt : CounterAttempt) (db : Db) : Option Payment :=
  (nonBlank attempt.input.clientIdempotencyKey).bind (paymentByClientKey? db)

/-- The checks of the input that come before the look for the key. -/
structure InputChecked (input : OfflineInput) : Prop where
  mode : assertOfflinePaymentMode input.paymentMode = .ok ()
  survey : ∃ surveyId, input.surveyId = some surveyId
  reference : assertOfflineReference input.paymentMode input.chequeDdReference = .ok ()

/-- The next step of the call looks for a payment under the key. -/
def LooksUpKey (attempt : CounterAttempt) : CounterProgress → Prop
  | .waiting => InputChecked attempt.input
  | .raced _ => True
  | _ => False

/-- The next step of the call stores a payment. -/
def StoresPayment (attempt : CounterAttempt) (progress : CounterProgress) (db : Db) : Prop :=
  ∃ request locked collectionDate result, progress = .checked request ∧
    lockForCollection request attempt.input.amount db = .ok locked ∧
    offlineCollectionDate attempt.ctx attempt.input = .ok collectionDate ∧
    collect attempt.ctx attempt.input attempt.user request locked
      (offlinePaymentReference attempt.ctx.now attempt.suffix) collectionDate db = .ok result

/-- A payment that the call finds under its key is its own, and what it stores is
an amount of whole paise. -/
def ReceiptIsOwn (attempts : Process → CounterAttempt)
    (system : System Process CounterProgress Db) : CounterEvent Process → Prop
  | .call process =>
      (LooksUpKey (attempts process) (system.locals process) →
        ∀ p ∈ keyPayment? (attempts process) system.shared, IsReceiptOf (attempts process) p) ∧
      (StoresPayment (attempts process) (system.locals process) system.shared →
        InPaise (attempts process).input.amount)
  | .elsewhere _ => True

/-- What a call carries along is what its input says. -/
def CarriesInput (attempt : CounterAttempt) : CounterProgress → Prop
  | .unseen surveyId idempotencyKey => attempt.input.surveyId = some surveyId ∧
      idempotencyKey = nonBlank attempt.input.clientIdempotencyKey
  | .checked request | .raced request => attempt.input.surveyId = some request.survey.id ∧
      request.idempotencyKey = nonBlank attempt.input.clientIdempotencyKey
  | _ => True

/-! ### The steps of a call -/

section Steps
variable {attempts : Process → CounterAttempt} {attempt : CounterAttempt} {process : Process}
  {progress : CounterProgress} {request : OfflineRequest} {db : Db} {p : Payment}

theorem keyPayment?_mem (h : keyPayment? attempt db = some p) : p ∈ db.payments.rows := by
  obtain ⟨key, -, hFound⟩ := Option.bind_eq_some_iff.mp h
  exact List.mem_of_find?_eq_some hFound

theorem survey?_id {ref : Reference} {id : Id} {survey : Survey}
    (h : ref.survey? id = some survey) : survey.id = id := by
  have hFound := List.find?_some h
  exact of_decide_eq_true hFound

/-- Checked input leads to the look for the key, and only that does. -/
theorem offlinePrecheck_iff {answer : Payment ⊕ Id × Option String} :
    offlinePrecheck attempt.input db = .ok answer ↔
      InputChecked attempt.input ∧ ∃ surveyId, attempt.input.surveyId = some surveyId ∧
        answer = (keyPayment? attempt db).elim
          (.inr (surveyId, nonBlank attempt.input.clientIdempotencyKey)) .inl := by
  constructor
  · intro h
    obtain ⟨surveyId, hSurvey, hAnswer⟩ := offlinePrecheck_ok h
    refine ⟨?_, surveyId, hSurvey, Except.ok.inj (h.symm.trans (hAnswer db))⟩
    unfold offlinePrecheck at h
    obtain ⟨_, hMode, h⟩ := bind_ok h
    rw [hSurvey] at h
    obtain ⟨_, hReference, -⟩ := bind_ok h
    exact ⟨hMode, ⟨surveyId, hSurvey⟩, hReference⟩
  · rintro ⟨⟨hMode, -, hReference⟩, surveyId, hSurvey, rfl⟩
    simp only [offlinePrecheck, hMode, hSurvey, hReference, bind, Except.bind, pure, Except.pure,
      keyPayment?]
    cases (nonBlank attempt.input.clientIdempotencyKey).bind (paymentByClientKey? db) <;> rfl

/-- What a collection stores is for its request, up to the rounding of the amount. -/
theorem collect_answer {locked : PropertyDemand} {paymentReference : String}
    {collectionDate : Timestamp} {result : Db × Id}
    (h : collect attempt.ctx attempt.input attempt.user request locked paymentReference
      collectionDate db = .ok result) :
    ∃ p, result.1.payments.find? result.2 = some p ∧ p ∈ result.1.payments.rows ∧
      p.status = .success ∧ p.amount = toColumn attempt.input.amount ∧
      p.surveyId = some request.survey.id ∧ p.collectedById = some attempt.user.id := by
  unfold collect at h
  obtain ⟨after, hCreate, h⟩ := bind_ok h
  obtain ⟨final, hUpdate, h⟩ := bind_ok h
  cases h
  obtain ⟨payments, hAdded, rfl⟩ := Db.createPayment_ok hCreate
  obtain ⟨demands, -, rfl⟩ := map_ok hUpdate
  exact ⟨_, hAdded.find?_new, hAdded.mem_row, rfl, rfl, rfl, rfl⟩

/-- What a call carries along is what its input says, after any step of it. -/
theorem carriesInput_counterStep (h : CarriesInput (attempts process) progress) :
    CarriesInput (attempts process) (counterStep attempts process progress db).1 := by
  cases progress with
  | waiting =>
      unfold counterStep
      dsimp only
      cases hPrecheck : offlinePrecheck (attempts process).input db with
      | error error => trivial
      | ok answer =>
          obtain ⟨-, surveyId, hSurvey, rfl⟩ := offlinePrecheck_iff.mp hPrecheck
          cases keyPayment? (attempts process) db with
          | none => exact ⟨hSurvey, rfl⟩
          | some existing => trivial
  | unseen surveyId idempotencyKey =>
      unfold counterStep
      dsimp only
      cases hChecks : offlineChecks (attempts process).ctx (attempts process).input
          (attempts process).user surveyId idempotencyKey db with
      | error error => trivial
      | ok request =>
          have hChecked := offlineChecks_iff.mp hChecks
          exact ⟨h.1.trans (congrArg some (survey?_id hChecked.survey).symm),
            hChecked.idempotencyKey.trans h.2⟩
  | checked request =>
      unfold counterStep collectLocked
      dsimp only
      repeat' split
      all_goals trivial
  | raced request => trivial
  | finished answer => trivial

end Steps

/-! ### The calls -/

section Calls
variable {attempts : Process → CounterAttempt}
  {system : System Process CounterProgress Db}

/-- Every call carries along what its input says. -/
def AllCarryInput (attempts : Process → CounterAttempt)
    (system : System Process CounterProgress Db) : Prop :=
  ∀ process, CarriesInput (attempts process) (system.locals process)

/-- No event changes what a call has been given. -/
theorem AllCarryInput.next [DecidableEq Process] (h : AllCarryInput attempts system)
    (event : CounterEvent Process) : AllCarryInput attempts (counterEvent attempts system event) := by
  cases event with
  | call process =>
      intro other
      by_cases hOther : other = process
      · subst hOther
        rw [counterEvent, fire_locals_self]
        exact carriesInput_counterStep (h other)
      · rw [counterEvent, fire_locals_of_ne system hOther]
        exact h other
  | elsewhere change => exact h

variable {process : Process} {request : OfflineRequest}

/-- The look for the key that comes first. -/
theorem waiting_iff (hProgress : system.locals process = .waiting) :
    AnswersItself attempts system (.call process) ↔ ReceiptIsOwn attempts system (.call process) := by
  simp only [AnswersItself, ReceiptIsOwn, hProgress, LooksUpKey]
  constructor
  · intro h
    refine ⟨fun hChecked p hp => ?_, ?_⟩
    · obtain ⟨surveyId, hSurvey⟩ := hChecked.survey
      have hFound : offlinePrecheck (attempts process).input system.shared = .ok (.inl p) :=
        offlinePrecheck_iff.mpr ⟨hChecked, surveyId, hSurvey, by rw [hp]; rfl⟩
      have hAnswer : (counterStep attempts process .waiting system.shared).1 =
          .finished (.ok (some p)) := by
        simp only [counterStep, hFound]
      obtain ⟨q, hq, -, hReceipt⟩ := h (fun answer hOpen => by cases hOpen) (some p) hAnswer
      cases hq
      exact hReceipt
    · rintro ⟨request, locked, collectionDate, result, hStores, -⟩
      cases hStores
  · rintro ⟨hOwn, -⟩ - found hFound
    unfold counterStep at hFound ⊢
    dsimp only at hFound ⊢
    cases hPrecheck : offlinePrecheck (attempts process).input system.shared with
    | error error =>
        rw [hPrecheck] at hFound
        cases hFound
    | ok answer =>
        obtain ⟨hChecked, surveyId, -, rfl⟩ := offlinePrecheck_iff.mp hPrecheck
        rw [hPrecheck] at hFound
        cases hKey : keyPayment? (attempts process) system.shared with
        | none =>
            rw [hKey] at hFound
            cases hFound
        | some p =>
            rw [hKey] at hFound
            cases hFound
            exact ⟨p, rfl, keyPayment?_mem hKey, hOwn hChecked p hKey⟩

/-- The look for the key that comes after a unique violation. -/
theorem raced_iff (hProgress : system.locals process = .raced request)
    (hCarries : CarriesInput (attempts process) (.raced request)) :
    AnswersItself attempts system (.call process) ↔ ReceiptIsOwn attempts system (.call process) := by
  have hAnswer : (counterStep attempts process (.raced request) system.shared).1 = .finished
      ((keyPayment? (attempts process) system.shared).elim (.error receiptNumberExists)
        fun raced => .ok (some raced)) := by
    simp only [counterStep, answerCollision, keyPayment?, hCarries.2]
    cases (nonBlank (attempts process).input.clientIdempotencyKey).bind
      (paymentByClientKey? system.shared) <;> rfl
  simp only [AnswersItself, ReceiptIsOwn, hProgress, LooksUpKey, hAnswer]
  constructor
  · intro h
    refine ⟨fun _ p hp => ?_, ?_⟩
    · obtain ⟨q, hq, -, hReceipt⟩ := h (fun answer hOpen => by cases hOpen) (some p) (by rw [hp]; rfl)
      cases hq
      exact hReceipt
    · rintro ⟨request, locked, collectionDate, result, hStores, -⟩
      cases hStores
  · rintro ⟨hOwn, -⟩ - found hFound
    cases hKey : keyPayment? (attempts process) system.shared with
    | none =>
        rw [hKey] at hFound
        cases hFound
    | some p =>
        rw [hKey] at hFound
        cases hFound
        exact ⟨p, rfl, keyPayment?_mem hKey, hOwn trivial p hKey⟩

/-- The transaction. -/
theorem checked_iff (hProgress : system.locals process = .checked request)
    (hCarries : CarriesInput (attempts process) (.checked request)) :
    AnswersItself attempts system (.call process) ↔ ReceiptIsOwn attempts system (.call process) := by
  simp only [AnswersItself, ReceiptIsOwn, hProgress, LooksUpKey]
  constructor
  · intro h
    refine ⟨False.elim, ?_⟩
    rintro ⟨_, locked, collectionDate, result, hRequest, hLocked, hDate, hCollect⟩
    cases hRequest
    obtain ⟨p, hFound, -, -, hAmount, -⟩ := collect_answer hCollect
    have hAnswer : (counterStep attempts process (.checked request) system.shared).1 =
        .finished (.ok (some p)) := by
      simp only [counterStep, hLocked, hDate, collectLocked, hCollect, hFound]
    obtain ⟨q, hq, -, hReceipt⟩ := h (fun answer hOpen => by cases hOpen) (some p) hAnswer
    cases hq
    exact ⟨p.amount, hReceipt.amount.symm⟩
  · rintro ⟨-, hPaise⟩ - found hFound
    cases hLocked : lockForCollection request (attempts process).input.amount system.shared with
    | error error =>
        simp only [counterStep, hLocked] at hFound
        cases hFound
    | ok locked =>
        cases hDate : offlineCollectionDate (attempts process).ctx (attempts process).input with
        | error error =>
            simp only [counterStep, hLocked, hDate] at hFound
            cases hFound
        | ok collectionDate =>
            cases hCollect : collect (attempts process).ctx (attempts process).input
                (attempts process).user request locked (offlinePaymentReference
                  (attempts process).ctx.now (attempts process).suffix) collectionDate
                system.shared with
            | error refusal =>
                simp only [counterStep, hLocked, hDate, collectLocked, hCollect] at hFound
                cases refusal <;> cases hFound
            | ok result =>
                obtain ⟨p, hStored, hMem, hStatus, hAmount, hSurvey, hCollector⟩ :=
                  collect_answer hCollect
                obtain ⟨m, hm⟩ := hPaise ⟨request, locked, collectionDate, result, rfl, hLocked,
                  hDate, hCollect⟩
                simp only [counterStep, hLocked, hDate, collectLocked, hCollect, hStored] at hFound ⊢
                cases hFound
                refine ⟨p, rfl, hMem, hStatus, ?_, hSurvey.trans hCarries.1.symm, hCollector⟩
                rw [hAmount, hm, toColumn_toMoney]

/-- One step of a call answers with a receipt of its own exactly if its key leads
to none but its own. -/
theorem answersItself_iff (h : AllCarryInput attempts system) (event : CounterEvent Process) :
    AnswersItself attempts system event ↔ ReceiptIsOwn attempts system event := by
  cases event with
  | elsewhere change => rfl
  | call process =>
      have hCarries := h process
      cases hProgress : system.locals process with
      | waiting => exact waiting_iff hProgress
      | checked request => exact checked_iff hProgress (hProgress ▸ hCarries)
      | raced request => exact raced_iff hProgress (hProgress ▸ hCarries)
      | unseen surveyId idempotencyKey =>
          simp only [AnswersItself, ReceiptIsOwn, hProgress, LooksUpKey]
          apply iff_of_true
          · intro _ found hFound
            unfold counterStep at hFound
            dsimp only at hFound
            split at hFound <;> cases hFound
          · refine ⟨False.elim, ?_⟩
            rintro ⟨request, locked, collectionDate, result, hStores, -⟩
            cases hStores
      | finished answer =>
          simp only [AnswersItself, ReceiptIsOwn, hProgress, LooksUpKey]
          apply iff_of_true
          · exact fun hOpen => absurd rfl (hOpen answer)
          · refine ⟨False.elim, ?_⟩
            rintro ⟨request, locked, collectionDate, result, hStores, -⟩
            cases hStores

end Calls

/-- In every run of any calls of `createOffline`, whatever else changes the
database between their steps, every receipt returned is a recorded one of the
call that returns it, exactly if every payment found under a key is its call's
own and every amount stored is one of whole paise. -/
theorem counter_answers_itself_iff [DecidableEq Process] (attempts : Process → CounterAttempt)
    (db₀ : Db) (events : List (CounterEvent Process)) :
    Along (counterEvent attempts) (AnswersItself attempts) (uncollected db₀) events ↔
      Along (counterEvent attempts) (ReceiptIsOwn attempts) (uncollected db₀) events :=
  along_iff (AllCarryInput attempts) (fun _ event h => answersItself_iff h event)
    (fun _ event h _ => h.next event)
    (fun _ => by simp only [uncollected, CarriesInput]) events

namespace Sample

/-- The key of the first clerk's payment, sent for another property. -/
def sameKey (second : Bool) : CounterAttempt :=
  if second then
    { atCounter 300 true with input := { keyedCash 300 with surveyId := some 21 } }
  else { atCounter 400 false with input := keyedCash 400 }

end Sample

/-- The second clerk asks for 300 rupees on another property and is given the
receipt of the first clerk's 400. -/
theorem counter_answers_with_other_receipt :
    ¬ Along (counterEvent Sample.sameKey) (AnswersItself Sample.sameKey)
      (uncollected Sample.uncollectedDb)
      [.call false, .call false, .call false, .call true] := by
  rintro ⟨-, -, -, hAnswers, -⟩
  let system := run (counterEvent Sample.sameKey) (uncollected Sample.uncollectedDb)
    [.call false, .call false, .call false]
  change AnswersItself Sample.sameKey system (.call true) at hAnswers
  have hOwn := ((waiting_iff rfl).mp hAnswers).1
  have hOther : (keyPayment? (Sample.sameKey true) system.shared).any
      fun p => p.surveyId ≠ some 21 := by decide +kernel
  cases hKey : keyPayment? (Sample.sameKey true) system.shared with
  | none =>
      rw [hKey] at hOther
      cases hOther
  | some p =>
      rw [hKey] at hOther
      have hSurvey := (hOwn ⟨rfl, ⟨21, rfl⟩, rfl⟩ p hKey).survey
      exact absurd hSurvey (of_decide_eq_true hOther)

end PropertyTax
