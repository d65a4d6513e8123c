import PropertyTax.Ledger.Operation

/-! Overlapping checkouts of one property. The citizen's `createPayment` looks
for an open payment and inserts its own in a later statement; the staff's
`createOnline` inserts without looking. -/
namespace PropertyTax
open KeyedTable Runs

inductive CheckoutRequest where
  | citizen (dto : CitizenPaymentDto)
  | staff (input : CreateOnlineInput) (user : AuthUser)

def CheckoutRequest.collectedById : CheckoutRequest → Option Id
  | .citizen _ => none
  | .staff _ user => some user.id

/-- A call that opens a checkout, with the answer its gateway will give. -/
structure CheckoutAttempt where
  request : CheckoutRequest
  suffix : String
  reply : CreatePaymentReply

/-- Where a call stands. `seen` are the payments that were stored when it looked
for open ones, `none` for a call that does not look. -/
inductive CheckoutProgress where
  | waiting
  | due (dto : CitizenPaymentDto) (dues : CitizenDues)
  | checked (input : OnlinePaymentInput) (seen : Option (List Id))
  | opened (paymentId : Id)
  | finished

/-- The database, and the clock that all calls share. -/
structure Clocked where
  now : Timestamp
  db : Db

/-- The reads of `getDues` and the checks on them. -/
def citizenDues (ctx : Context) (dto : CitizenPaymentDto) (db : Db) : Except ApiError CitizenDues :=
  match getDues ctx dto.surveyId db with
  | .error error => .error error
  | .ok dues =>
      if dues.payableAmount ≤ 0 then .error duesNotPayable
      else if dues.paidForAssessmentYear then
        .error (.conflict (some "ALREADY_PAID_FOR_YEAR")
          ("Property tax for assessment year " ++ dues.config.assessmentYear.name ++
            " has already been paid."))
      else .ok dues

def insertCheckout (ctx : Context) (attempt : CheckoutAttempt) (input : OnlinePaymentInput)
    (s : Clocked) : Except Refusal Db :=
  s.db.createPayment (openedPayment { ctx with now := s.now } input
    (newCitizenMerchTxnId s.now attempt.suffix) attempt.request.collectedById)

variable {Process : Type} (ctx : Context) (attempts : Process → CheckoutAttempt)

/-- The next step of a call. -/
def checkoutStep (process : Process) (progress : CheckoutProgress) (s : Clocked) :
    CheckoutProgress × Clocked :=
  let attempt := attempts process
  let current : Context := { ctx with now := s.now }
  match progress with
  | .waiting =>
      match attempt.request with
      | .citizen dto =>
          match citizenDues current dto s.db with
          | .error _ => (.finished, s)
          | .ok dues => (.due dto dues, s)
      | .staff input user =>
          match onlineInput current input user s.db with
          | .error _ => (.finished, s)
          | .ok input => (.checked input none, s)
  | .due dto dues =>
      if hasRecentOpenCitizenPayment dues.survey.id dues.config.assessmentYear.id s.now s.db then
        (.finished, s)
      else
        (.checked (citizenPaymentInput dto dues) (some (s.db.payments.rows.map Payment.id)), s)
  | .checked input _ =>
      match insertCheckout ctx attempt input s with
      | .error _ => (.finished, s)
      | .ok after => (.opened s.db.nextId, { s with db := after })
  | .opened paymentId => (.finished, { s with db := (finishOpened paymentId attempt.reply s.db).1 })
  | .finished => (.finished, s)

def unopened (s : Clocked) : System Process CheckoutProgress Clocked :=
  { shared := s, locals := fun _ => .waiting }

/-- A call takes its next step, or time passes. -/
inductive CheckoutMove (Process : Type) where
  | step (process : Process)
  | pass (elapsed : Nat)

variable [DecidableEq Process]

def checkoutMove (system : System Process CheckoutProgress Clocked) :
    CheckoutMove Process → System Process CheckoutProgress Clocked
  | .step process => fire (checkoutStep ctx attempts) system process
  | .pass elapsed =>
      { system with shared := { system.shared with now := system.shared.now + elapsed } }

/-- A citizen's checkout is refused without dues, while another one is open, or when nothing is due;
else its input follows from the dues. -/
theorem citizenInput_eq (ctx : Context) (dto : CitizenPaymentDto) (db : Db) :
    citizenInput ctx dto db =
      match citizenDues ctx dto db with
      | .error error => .error error
      | .ok dues =>
          if hasRecentOpenCitizenPayment dues.survey.id dues.config.assessmentYear.id ctx.now
              db then
            .error (.conflict (some "PAYMENT_IN_PROGRESS")
              ("A payment for this property is already in progress. Please wait a few minutes and " ++
                "try again, or check your payment status if you already paid."))
          else .ok (citizenPaymentInput dto dues) := by
  unfold citizenInput citizenDues
  cases getDues ctx dto.surveyId db with
  | error error => rfl
  | ok dues =>
      by_cases hPayable : dues.payableAmount ≤ 0
      · simp only [hPayable, ↓reduceIte]
      · cases hPaid : dues.paidForAssessmentYear <;>
          simp only [hPayable, hPaid, Bool.false_eq_true, ↓reduceIte]

/-- A refused checkout leaves the database alone, an accepted one opens an online payment. -/
theorem createCitizenPayment_db (ctx : Context) (dto : CitizenPaymentDto) (suffix : String)
    (reply : CreatePaymentReply) (db : Db) :
    (createCitizenPayment ctx dto suffix reply db).1 =
      match citizenInput ctx dto db with
      | .error _ => db
      | .ok input => (createOnlinePayment ctx input none suffix reply db).1 := by
  unfold createCitizenPayment
  cases citizenInput ctx dto db with
  | error error => rfl
  | ok input =>
      dsimp only
      rcases createOnlinePayment ctx input none suffix reply db with
        ⟨after, _ | ⟨payment, gateway⟩⟩
      · rfl
      · dsimp only
        split_ifs <;> rfl

/-- A call that no other comes between is the service's call. -/
theorem checkout_uninterrupted (process : Process) (s : Clocked) :
    (run (checkoutMove ctx attempts) (unopened s)
      [.step process, .step process, .step process, .step process]).shared.db =
      match (attempts process).request with
      | .citizen dto => (createCitizenPayment { ctx with now := s.now } dto
          (attempts process).suffix (attempts process).reply s.db).1
      | .staff input user => (createOnline { ctx with now := s.now } input user
          (attempts process).suffix (attempts process).reply s.db).1 := by
  simp only [run_cons, run_nil, checkoutMove, fire, unopened, Function.update_self]
  cases hRequest : (attempts process).request with
  | citizen dto =>
      simp only [createCitizenPayment_db, citizenInput_eq]
      cases hDues : citizenDues { ctx with now := s.now } dto s.db with
      | error error => simp only [checkoutStep, hRequest, hDues]
      | ok dues =>
          cases hOpen : hasRecentOpenCitizenPayment dues.survey.id dues.config.assessmentYear.id
              s.now s.db with
          | true => simp only [checkoutStep, hRequest, hDues, hOpen, ↓reduceIte]
          | false =>
              simp only [checkoutStep, hRequest, hDues, hOpen, Bool.false_eq_true, ↓reduceIte,
                createOnlinePayment, insertCheckout, CheckoutRequest.collectedById]
              cases s.db.createPayment _ <;> rfl
  | staff input user =>
      simp only [createOnline]
      cases hInput : onlineInput { ctx with now := s.now } input user s.db with
      | error error => simp only [checkoutStep, hRequest, hInput]
      | ok request =>
          simp only [checkoutStep, hRequest, hInput, createOnlinePayment, insertCheckout,
            CheckoutRequest.collectedById]
          cases s.db.createPayment _ <;> rfl

/-! ### Open checkouts -/

/-- The payment is an online checkout of the property and year that is open and
inside the window of the last minutes. -/
def Payment.OpenCheckout (surveyId yearId : Id) (now : Timestamp) (p : Payment) : Prop :=
  p.surveyId = some surveyId ∧ p.assessmentYearId = some yearId ∧ p.paymentMode = .online ∧
    (p.status = .initiated ∨ p.status = .pending) ∧
    now ≤ p.createdAt + citizenPaymentInProgressWindowMs

instance (surveyId yearId : Id) (now : Timestamp) (p : Payment) :
    Decidable (p.OpenCheckout surveyId yearId now) := inferInstanceAs (Decidable (_ ∧ _))

/-- At most one checkout of the property and year is open. -/
def OneOpenCheckout (surveyId yearId : Id) (s : Clocked) : Prop :=
  ∀ p ∈ s.db.payments.rows, ∀ q ∈ s.db.payments.rows, p.OpenCheckout surveyId yearId s.now →
    q.OpenCheckout surveyId yearId s.now → p = q

instance (surveyId yearId : Id) (s : Clocked) : Decidable (OneOpenCheckout surveyId yearId s) :=
  inferInstanceAs (Decidable (∀ p ∈ s.db.payments.rows, ∀ q ∈ s.db.payments.rows, _ → _ → p = q))

/-- No payment that the move inserts for the property and year finds a checkout
open there, but for those that its call saw when it looked. -/
def InsertsUnopposed (surveyId yearId : Id) (system : System Process CheckoutProgress Clocked) :
    CheckoutMove Process → Prop
  | .step process => ∀ input seen after, system.locals process = .checked input seen →
      input.surveyId = some surveyId → input.assessmentYearId = some yearId →
      insertCheckout ctx (attempts process) input system.shared = .ok after →
      ∀ p ∈ system.shared.db.payments.rows, p.OpenCheckout surveyId yearId system.shared.now →
        ∃ ids, seen = some ids ∧ p.id ∈ ids
  | .pass _ => True

omit [DecidableEq Process] in
/-- The check looks for a payment of the survey and year that is still open. -/
theorem hasRecentOpenCitizenPayment_iff {surveyId yearId : Id} {now : Timestamp} {db : Db} :
    hasRecentOpenCitizenPayment surveyId yearId now db = true ↔
      ∃ p ∈ db.payments.rows, p.OpenCheckout surveyId yearId now := by
  simp only [hasRecentOpenCitizenPayment, List.any_eq_true, decide_eq_true_eq,
    Payment.OpenCheckout]

/-! ### What a step does -/

/-- What a step from `progress` to `progress'` does to the payments. -/
inductive CheckoutStepped (attempt : CheckoutAttempt) (progress progress' : CheckoutProgress)
    (s s' : Clocked) : Prop where
  | read (hNow : s'.now = s.now) (hPayments : s'.db.payments = s.db.payments)
      (hChecked : ∀ input ids, progress' = .checked input (some ids) →
        ids = s.db.payments.rows.map Payment.id ∧
        ∀ surveyId yearId, input.surveyId = some surveyId → input.assessmentYearId = some yearId →
          ∀ p ∈ s.db.payments.rows, ¬ p.OpenCheckout surveyId yearId s.now)
      (hOpened : ∀ paymentId, progress' ≠ .opened paymentId)
      (hInsert : ∀ input seen after, progress = .checked input seen →
        insertCheckout ctx attempt input s ≠ .ok after)
  | inserted (input : OnlinePaymentInput) (seen : Option (List Id)) (p : Payment)
      (hProgress : progress = .checked input seen)
      (hInsert : insertCheckout ctx attempt input s = .ok s'.db) (hNow : s'.now = s.now)
      (hPayment : Added s.db.payments s'.db.payments p) (hSurvey : p.surveyId = input.surveyId)
      (hYear : p.assessmentYearId = input.assessmentYearId) (hMode : p.paymentMode = .online)
      (hStatus : p.status = .initiated) (hCreated : p.createdAt = s.now)
      (hOpened : progress' = .opened p.id)
  | settled (p : Payment) (status : PaymentStatus) (hProgress : progress = .opened p.id)
      (hNow : s'.now = s.now)
      (hPayment : Replaced s.db.payments s'.db.payments p (setPaymentStatus status p))
      (hFinished : progress' = .finished)

/-- A checkout that the gateway refuses changes the status of its own payment, if anything. -/
theorem failOpened_payments {α : Type} (paymentId : Id) (error : ApiError) (db : Db) :
    (failOpened paymentId error db : Reply α).1.payments = db.payments ∨
      ∃ p status, p.id = paymentId ∧ Replaced db.payments
        (failOpened paymentId error db : Reply α).1.payments p (setPaymentStatus status p) := by
  unfold failOpened
  cases hUpdate : db.updatePayment paymentId (setPaymentStatus .failed) with
  | error refusal => exact .inl rfl
  | ok after =>
      obtain ⟨p, _, hId, hReplaced, rfl⟩ := Db.updatePayment_ok hUpdate fun _ => rfl
      exact .inr ⟨p, .failed, hId, hReplaced⟩

/-- The answer of the gateway changes the status of the payment it is about, if anything. -/
theorem finishOpened_payments (paymentId : Id) (reply : CreatePaymentReply) (db : Db) :
    (finishOpened paymentId reply db).1.payments = db.payments ∨
      ∃ p status, p.id = paymentId ∧ Replaced db.payments
        (finishOpened paymentId reply db).1.payments p (setPaymentStatus status p) := by
  unfold finishOpened
  cases reply with
  | invalid code message => exact failOpened_payments paymentId _ db
  | threw => exact failOpened_payments paymentId _ db
  | answered result =>
      dsimp only
      split_ifs
      · exact failOpened_payments paymentId _ _
      · cases hUpdate : (db.addTransaction _).updatePayment paymentId
            (setPaymentStatus .pending) with
        | error refusal => exact .inl rfl
        | ok after =>
            obtain ⟨p, _, hId, hReplaced, rfl⟩ := Db.updatePayment_ok hUpdate fun _ => rfl
            exact .inr ⟨p, .pending, hId, hReplaced⟩

omit [DecidableEq Process] in
/-- What one step of a checkout can do. -/
theorem checkoutStep_stepped (process : Process) (progress : CheckoutProgress) (s : Clocked) :
    CheckoutStepped ctx (attempts process) progress
      (checkoutStep ctx attempts process progress s).1 s
      (checkoutStep ctx attempts process progress s).2 := by
  cases progress with
  | waiting =>
      have hRead : ∀ progress', (∀ input ids, progress' ≠ .checked input (some ids)) →
          (∀ paymentId, progress' ≠ .opened paymentId) →
          CheckoutStepped ctx (attempts process) .waiting progress' s s := by
        intro progress' hChecked hOpened
        exact .read rfl rfl (fun input ids h => absurd h (hChecked input ids)) hOpened
          (fun _ _ _ h => by cases h)
      unfold checkoutStep
      dsimp only
      split
      · split
        · exact hRead _ (fun _ _ => by nofun) (fun _ => by nofun)
        · exact hRead _ (fun _ _ => by nofun) (fun _ => by nofun)
      · split
        · exact hRead _ (fun _ _ => by nofun) (fun _ => by nofun)
        · exact hRead _ (fun _ _ => by nofun) (fun _ => by nofun)
  | due dto dues =>
      unfold checkoutStep
      dsimp only
      split_ifs with hOpen
      · exact .read rfl rfl (fun _ _ h => by cases h) (fun _ => by nofun)
          (fun _ _ _ h => by cases h)
      · refine .read rfl rfl ?_ (fun _ => by nofun) (fun _ _ _ h => by cases h)
        rintro input ids hChecked
        cases hChecked
        refine ⟨rfl, fun surveyId yearId hSurvey hYear p hp hOpenP => hOpen ?_⟩
        cases hSurvey
        cases hYear
        exact hasRecentOpenCitizenPayment_iff.mpr ⟨p, hp, hOpenP⟩
  | checked input seen =>
      unfold checkoutStep
      dsimp only
      cases hInsert : insertCheckout ctx (attempts process) input s with
      | error refusal =>
          refine .read rfl rfl (fun _ _ h => by cases h) (fun _ => by nofun) ?_
          intro input' seen' after hProgress
          cases hProgress
          rw [hInsert]
          nofun
      | ok after =>
          have hInserted := hInsert
          unfold insertCheckout at hInserted
          obtain ⟨payments, hAdded, rfl⟩ := Db.createPayment_ok hInserted
          exact .inserted input seen _ rfl hInsert rfl hAdded rfl rfl rfl rfl rfl rfl
  | opened paymentId =>
      rcases finishOpened_payments paymentId (attempts process).reply s.db with
        hSame | ⟨p, status, rfl, hReplaced⟩
      · exact .read rfl hSame (fun _ _ h => by cases h) (fun _ => by nofun)
          (fun _ _ _ h => by cases h)
      · exact .settled p status rfl rfl hReplaced rfl
  | finished =>
      exact .read rfl rfl (fun _ _ h => by cases h) (fun _ => by nofun)
        (fun _ _ _ h => by cases h)

/-! ### The invariant -/

/-- At most one checkout is open, no call that is about to insert saw one of the
open ones, and every call that waits for its gateway has an initiated payment
of its own. -/
structure CheckoutsApart (surveyId yearId : Id) (system : System Process CheckoutProgress Clocked) :
    Prop where
  one : OneOpenCheckout surveyId yearId system.shared
  unseen : ∀ process input ids, system.locals process = .checked input (some ids) →
    input.surveyId = some surveyId → input.assessmentYearId = some yearId →
    ∀ p ∈ system.shared.db.payments.rows, p.OpenCheckout surveyId yearId system.shared.now →
      p.id ∉ ids
  stored : ∀ process input ids, system.locals process = .checked input (some ids) →
    ∀ id ∈ ids, ∃ p ∈ system.shared.db.payments.rows, p.id = id
  initiated : ∀ process paymentId, system.locals process = .opened paymentId →
    ∃ p ∈ system.shared.db.payments.rows, p.id = paymentId ∧ p.status = .initiated
  apart : ∀ process other paymentId, system.locals process = .opened paymentId →
    system.locals other = .opened paymentId → process = other

section Invariant
variable {ctx attempts} {surveyId yearId : Id} {process : Process}
  {system : System Process CheckoutProgress Clocked}

/-- Time only closes checkouts. -/
theorem CheckoutsApart.pass (h : CheckoutsApart surveyId yearId system) (elapsed : Nat) :
    CheckoutsApart surveyId yearId (checkoutMove ctx attempts system (.pass elapsed)) := by
  have hOpen {p : Payment}
      (hp : p.OpenCheckout surveyId yearId (system.shared.now + elapsed)) :
      p.OpenCheckout surveyId yearId system.shared.now := by
    obtain ⟨hSurvey, hYear, hMode, hStatus, hRecent⟩ := hp
    exact ⟨hSurvey, hYear, hMode, hStatus, (Nat.le_add_right _ _).trans hRecent⟩
  exact ⟨fun p hp q hq hOpenP hOpenQ => h.one p hp q hq (hOpen hOpenP) (hOpen hOpenQ),
    fun r input ids hLocal hSurvey hYear p hp hOpenP =>
      h.unseen r input ids hLocal hSurvey hYear p hp (hOpen hOpenP),
    h.stored, h.initiated, h.apart⟩

/-- What the step of one call does to the invariant, from what it does to the
payments. `progress` and `shared` are what the step leaves. -/
theorem CheckoutsApart.fired {progress : CheckoutProgress} {shared : Clocked}
    (h : CheckoutsApart surveyId yearId system) (hOne : OneOpenCheckout surveyId yearId shared)
    (hOpen : ∀ p ∈ shared.db.payments.rows, p.OpenCheckout surveyId yearId shared.now →
      (∃ q ∈ system.shared.db.payments.rows,
        q.OpenCheckout surveyId yearId system.shared.now ∧ q.id = p.id) ∨
      ∀ q ∈ system.shared.db.payments.rows, q.id ≠ p.id)
    (hKept : ∀ p ∈ system.shared.db.payments.rows, ∃ q ∈ shared.db.payments.rows, q.id = p.id ∧
      (q.status = p.status ∨ system.locals process = .opened p.id))
    (hChecked : ∀ input ids, progress = .checked input (some ids) →
      shared.db.payments = system.shared.db.payments ∧ shared.now = system.shared.now ∧
      ids = system.shared.db.payments.rows.map Payment.id ∧
      (input.surveyId = some surveyId → input.assessmentYearId = some yearId →
        ∀ p ∈ system.shared.db.payments.rows, ¬ p.OpenCheckout surveyId yearId system.shared.now))
    (hOpened : ∀ paymentId, progress = .opened paymentId →
      (∃ p ∈ shared.db.payments.rows, p.id = paymentId ∧ p.status = .initiated) ∧
      ∀ p ∈ system.shared.db.payments.rows, p.id ≠ paymentId) :
    CheckoutsApart surveyId yearId ⟨shared, Function.update system.locals process progress⟩ := by
  have hLocal {r : Process} {progress' : CheckoutProgress}
      (hr : Function.update system.locals process progress r = progress') :
      (r = process ∧ progress = progress') ∨ (r ≠ process ∧ system.locals r = progress') := by
    by_cases hEq : r = process
    · subst hEq
      rw [Function.update_self] at hr
      exact .inl ⟨rfl, hr⟩
    · rw [Function.update_of_ne hEq] at hr
      exact .inr ⟨hEq, hr⟩
  have hOther {r : Process} {paymentId : Id} (hr : system.locals r = .opened paymentId)
      (hNew : progress = .opened paymentId) : False := by
    obtain ⟨p, hp, hId, _⟩ := h.initiated r paymentId hr
    exact (hOpened paymentId hNew).2 p hp hId
  refine ⟨hOne, ?_, ?_, ?_, ?_⟩
  · intro r input ids hr hSurvey hYear p hp hOpenP hSeen
    rcases hLocal hr with ⟨_, hNew⟩ | ⟨_, hOld⟩
    · obtain ⟨hPayments, hNow, _, hNone⟩ := hChecked input ids hNew
      rw [hPayments] at hp
      rw [hNow] at hOpenP
      exact hNone hSurvey hYear p hp hOpenP
    · rcases hOpen p hp hOpenP with ⟨q, hq, hOpenQ, hId⟩ | hFresh
      · exact h.unseen r input ids hOld hSurvey hYear q hq hOpenQ (hId ▸ hSeen)
      · obtain ⟨q, hq, hId⟩ := h.stored r input ids hOld p.id hSeen
        exact hFresh q hq hId
  · intro r input ids hr id hSeen
    rcases hLocal hr with ⟨_, hNew⟩ | ⟨_, hOld⟩
    · obtain ⟨hPayments, _, hIds, _⟩ := hChecked input ids hNew
      rw [hIds] at hSeen
      obtain ⟨p, hp, hId⟩ := List.mem_map.mp hSeen
      exact ⟨p, hPayments ▸ hp, hId⟩
    · obtain ⟨p, hp, hId⟩ := h.stored r input ids hOld id hSeen
      obtain ⟨q, hq, hSame, _⟩ := hKept p hp
      exact ⟨q, hq, hSame.trans hId⟩
  · intro r paymentId hr
    rcases hLocal hr with ⟨_, hNew⟩ | ⟨hNe, hOld⟩
    · exact (hOpened paymentId hNew).1
    · obtain ⟨p, hp, hId, hStatus⟩ := h.initiated r paymentId hOld
      obtain ⟨q, hq, hSame, hSameStatus | hMine⟩ := hKept p hp
      · exact ⟨q, hq, hSame.trans hId, hSameStatus.trans hStatus⟩
      · rw [hId] at hMine
        exact absurd (h.apart r process paymentId hOld hMine) hNe
  · intro r other paymentId hr hOther'
    rcases hLocal hr with ⟨rfl, hNew⟩ | ⟨_, hOld⟩ <;>
      rcases hLocal hOther' with ⟨rfl, hNew'⟩ | ⟨_, hOld'⟩
    · rfl
    · exact (hOther hOld' hNew).elim
    · exact (hOther hOld hNew').elim
    · exact h.apart r other paymentId hOld hOld'

theorem CheckoutsApart.step (h : CheckoutsApart surveyId yearId system)
    (hUnopposed : InsertsUnopposed ctx attempts surveyId yearId system (.step process)) :
    CheckoutsApart surveyId yearId (checkoutMove ctx attempts system (.step process)) := by
  change CheckoutsApart surveyId yearId ⟨_, _⟩
  have hStepped := checkoutStep_stepped ctx attempts process (system.locals process) system.shared
  generalize checkoutStep ctx attempts process (system.locals process) system.shared = next
    at hStepped ⊢
  obtain ⟨progress, shared⟩ := next
  dsimp only at hStepped
  cases hStepped with
  | read hNow hPayments hChecked hOpened =>
      refine h.fired ?_ ?_ ?_ ?_ fun paymentId hNew => absurd hNew (hOpened paymentId)
      · intro p hp q hq
        rw [hPayments] at hp hq
        rw [hNow]
        exact h.one p hp q hq
      · intro p hp hOpenP
        rw [hPayments] at hp
        rw [hNow] at hOpenP
        exact .inl ⟨p, hp, hOpenP, rfl⟩
      · exact fun p hp => ⟨p, hPayments ▸ hp, rfl, .inl rfl⟩
      · intro input ids hNew
        obtain ⟨hIds, hNone⟩ := hChecked input ids hNew
        exact ⟨hPayments, hNow, hIds, hNone surveyId yearId⟩
  | inserted input seen new hProgress hInsert hNow hPayment hSurvey hYear hMode hStatus hCreated
      hOpened =>
      have hOld {p : Payment} (hp : p ∈ shared.db.payments.rows)
          (hOpenP : p.OpenCheckout surveyId yearId shared.now) :
          p = new ∨ p ∈ system.shared.db.payments.rows ∧
            p.OpenCheckout surveyId yearId system.shared.now := by
        rcases (hPayment.mem_iff p).mp hp with hMem | hNew
        · exact .inr ⟨hMem, hNow ▸ hOpenP⟩
        · exact .inl hNew
      -- An open checkout that the call did not see would oppose its insert.
      have hAlone {p : Payment} (hp : p ∈ system.shared.db.payments.rows)
          (hOpenP : p.OpenCheckout surveyId yearId system.shared.now)
          (hOpenNew : new.OpenCheckout surveyId yearId shared.now) : False := by
        have hSurveyId : input.surveyId = some surveyId := hSurvey.symm.trans hOpenNew.1
        have hYearId : input.assessmentYearId = some yearId := hYear.symm.trans hOpenNew.2.1
        obtain ⟨ids, rfl, hSeen⟩ :=
          hUnopposed input seen _ hProgress hSurveyId hYearId hInsert p hp hOpenP
        exact h.unseen process input ids hProgress hSurveyId hYearId p hp hOpenP hSeen
      refine h.fired ?_ ?_ ?_ ?_ ?_
      · intro p hp q hq hOpenP hOpenQ
        rcases hOld hp hOpenP with rfl | ⟨hMemP, hOldP⟩ <;>
          rcases hOld hq hOpenQ with rfl | ⟨hMemQ, hOldQ⟩
        · rfl
        · exact (hAlone hMemQ hOldQ hOpenP).elim
        · exact (hAlone hMemP hOldP hOpenQ).elim
        · exact h.one p hMemP q hMemQ hOldP hOldQ
      · intro p hp hOpenP
        rcases hOld hp hOpenP with rfl | ⟨hMem, hOldP⟩
        · exact .inr fun q hq => hPayment.key_ne hq
        · exact .inl ⟨p, hMem, hOldP, rfl⟩
      · exact fun p hp => ⟨p, hPayment.mem_of_mem hp, rfl, .inl rfl⟩
      · intro input' ids hNew
        rw [hOpened] at hNew
        cases hNew
      · intro paymentId hNew
        rw [hOpened] at hNew
        cases hNew
        exact ⟨⟨new, hPayment.mem_row, rfl, hStatus⟩, fun p hp => hPayment.key_ne hp⟩
  | settled p status hProgress hNow hPayment hFinished =>
      have hInitiated : p.status = .initiated := by
        obtain ⟨q, hq, hId, hStatus⟩ := h.initiated process p.id hProgress
        exact eq_of_key hq hPayment.mem_old hId ▸ hStatus
      have hOld {q : Payment} (hq : q ∈ shared.db.payments.rows)
          (hOpenQ : q.OpenCheckout surveyId yearId shared.now) :
          (q ∈ system.shared.db.payments.rows ∧ q.id ≠ p.id ∧
            q.OpenCheckout surveyId yearId system.shared.now) ∨
          q = setPaymentStatus status p ∧ p.OpenCheckout surveyId yearId system.shared.now := by
        rw [hNow] at hOpenQ
        rcases (hPayment.mem_iff q).mp hq with ⟨hMem, hKey⟩ | rfl
        · exact .inl ⟨hMem, hKey, hOpenQ⟩
        · obtain ⟨hSurvey, hYear, hMode, _, hRecent⟩ := hOpenQ
          exact .inr ⟨rfl, hSurvey, hYear, hMode, .inl hInitiated, hRecent⟩
      refine h.fired ?_ ?_ ?_ ?_ ?_
      · intro q hq r hr hOpenQ hOpenR
        rcases hOld hq hOpenQ with ⟨hMemQ, hKeyQ, hOldQ⟩ | ⟨rfl, hOldQ⟩ <;>
          rcases hOld hr hOpenR with ⟨hMemR, hKeyR, hOldR⟩ | ⟨rfl, hOldR⟩
        · exact h.one q hMemQ r hMemR hOldQ hOldR
        · have hSame := h.one q hMemQ p hPayment.mem_old hOldQ hOldR
          exact absurd (congrArg Payment.id hSame) hKeyQ
        · have hSame := h.one r hMemR p hPayment.mem_old hOldR hOldQ
          exact absurd (congrArg Payment.id hSame) hKeyR
        · rfl
      · intro q hq hOpenQ
        rcases hOld hq hOpenQ with ⟨hMem, _, hOldQ⟩ | ⟨rfl, hOldP⟩
        · exact .inl ⟨q, hMem, hOldQ, rfl⟩
        · exact .inl ⟨p, hPayment.mem_old, hOldP, rfl⟩
      · intro q hq
        rcases hPayment.exists_row hq with hRow | rfl
        · exact ⟨q, hRow, rfl, .inl rfl⟩
        · exact ⟨_, hPayment.mem_new, rfl, .inr hProgress⟩
      · intro input ids hNew
        rw [hFinished] at hNew
        cases hNew
      · intro paymentId hNew
        rw [hFinished] at hNew
        cases hNew

/-- Neither a step nor the passing of time brings two open payments together. -/
theorem CheckoutsApart.move (h : CheckoutsApart surveyId yearId system)
    {move : CheckoutMove Process}
    (hUnopposed : InsertsUnopposed ctx attempts surveyId yearId system move) :
    CheckoutsApart surveyId yearId (checkoutMove ctx attempts system move) := by
  cases move with
  | step process => exact h.step hUnopposed
  | pass elapsed => exact h.pass elapsed

/-- An insert leaves two checkouts open exactly if it is opposed. -/
theorem CheckoutsApart.unopposed_iff (h : CheckoutsApart surveyId yearId system)
    (move : CheckoutMove Process) :
    InsertsUnopposed ctx attempts surveyId yearId system move ↔
      OneOpenCheckout surveyId yearId (checkoutMove ctx attempts system move).shared := by
  refine ⟨fun hUnopposed => (h.move hUnopposed).one, fun hOne => ?_⟩
  cases move with
  | pass elapsed => trivial
  | step process =>
      intro input seen after hLocal hSurveyId hYearId hInsert p hp hOpenP
      have hStepped :=
        checkoutStep_stepped ctx attempts process (system.locals process) system.shared
      cases hStepped with
      | read _ _ _ _ hNoInsert => exact absurd hInsert (hNoInsert input seen after hLocal)
      | inserted input' seen' new hProgress _ hNow hPayment hSurvey hYear hMode hStatus hCreated =>
          rw [hLocal] at hProgress
          cases hProgress
          have hOpenNew : new.OpenCheckout surveyId yearId system.shared.now :=
            ⟨hSurvey.trans hSurveyId, hYear.trans hYearId, hMode, .inl hStatus,
              hCreated ▸ Nat.le_add_right _ _⟩
          have hSame := hOne p (hPayment.mem_of_mem hp) new hPayment.mem_row
            (hNow ▸ hOpenP) (hNow ▸ hOpenNew)
          exact absurd (congrArg Payment.id hSame) (hPayment.key_ne hp)
      | settled _ _ hProgress =>
          rw [hLocal] at hProgress
          cases hProgress

end Invariant

/-- From any database with at most one open checkout of the property and year,
there is at most one in every state of an interleaving exactly if no insert is
opposed. -/
theorem one_open_checkout_iff (surveyId yearId : Id) {s : Clocked}
    (hStart : OneOpenCheckout surveyId yearId s) (moves : List (CheckoutMove Process)) :
    Along (checkoutMove ctx attempts) (fun system move =>
        OneOpenCheckout surveyId yearId (checkoutMove ctx attempts system move).shared)
      (unopened s) moves ↔
    Along (checkoutMove ctx attempts) (InsertsUnopposed ctx attempts surveyId yearId)
      (unopened s) moves := by
  refine (along_iff (CheckoutsApart surveyId yearId)
    (fun system move h => h.unopposed_iff move) (fun _ _ h hGuard => h.move hGuard) ?_ moves).symm
  refine ⟨hStart, ?_, ?_, ?_, ?_⟩
  · intro _ _ _ hLocal
    cases hLocal
  · intro _ _ _ hLocal
    cases hLocal
  · intro _ _ hLocal
    cases hLocal
  · intro _ _ _ hLocal
    cases hLocal

namespace Sample

/-- Two calls for one property, by the given request and by a citizen. -/
def checkouts (request : CheckoutRequest) (first : Bool) : CheckoutAttempt where
  request := if first then .citizen ⟨some 10, "", ""⟩ else request
  suffix := if first then "a" else "b"
  reply := .answered ⟨none, some "m", some "token", none⟩

def anotherCitizen : CheckoutRequest := .citizen ⟨some 10, "", ""⟩

def atTheCounter : CheckoutRequest := .staff ⟨some 10, none, none, none, none⟩ administrator

/-- One call after the other, more than the window later. -/
def inTurn : List (CheckoutMove Bool) :=
  [.step true, .step true, .step true, .step true, .pass 1000000,
    .step false, .step false, .step false, .step false]

/-- Both calls look before either inserts. -/
def inStep : List (CheckoutMove Bool) :=
  [.step true, .step false, .step true, .step false, .step true, .step false]

end Sample

/-- Staff open a checkout a quarter of an hour after a citizen. -/
theorem inserts_unopposed_inTurn :
    Along (checkoutMove Sample.ward (Sample.checkouts Sample.atTheCounter))
      (InsertsUnopposed Sample.ward (Sample.checkouts Sample.atTheCounter) 10 20)
      (unopened ⟨0, Db.empty⟩) Sample.inTurn :=
  (one_open_checkout_iff Sample.ward (Sample.checkouts Sample.atTheCounter) 10 20
    (by decide) Sample.inTurn).mp
    ⟨by decide +kernel, by decide +kernel, by decide +kernel, by decide +kernel,
      by decide +kernel, by decide +kernel, by decide +kernel, by decide +kernel,
      by decide +kernel, trivial⟩

/-- Two citizens who look at the same time both open a checkout. So do a citizen
and staff, who do not look, in any order. -/
theorem checkouts_overlap :
    (¬ ∀ (attempts : Bool → CheckoutAttempt) (s : Clocked) (surveyId yearId : Id)
      (moves : List (CheckoutMove Bool)), OneOpenCheckout surveyId yearId s →
      OneOpenCheckout surveyId yearId
        (run (checkoutMove Sample.ward attempts) (unopened s) moves).shared) ∧
    ¬ OneOpenCheckout 10 20 (run (checkoutMove Sample.ward (Sample.checkouts Sample.atTheCounter))
      (unopened ⟨0, Db.empty⟩) [.step true, .step true, .step true, .step true, .step false,
        .step false]).shared := by
  refine ⟨fun h => ?_, by decide +kernel⟩
  have hTwo : ¬ OneOpenCheckout 10 20 (run (checkoutMove Sample.ward
      (Sample.checkouts Sample.anotherCitizen)) (unopened ⟨0, Db.empty⟩) Sample.inStep).shared := by
    decide +kernel
  exact hTwo (h _ _ 10 20 _ (by decide))

end PropertyTax
