import PropertyTax.Library.Runs
import PropertyTax.Payments.Requery

/-! Deliveries of one payment's result that overlap. Each is two atomic steps:
the read of the payment and callback rows, and the transaction. The transaction
locks the demand alone, so what was read may be out of date by then. -/
namespace PropertyTax
open Runs KeyedTable

/-- The ways the result of a payment reaches the service: a callback from the
webhook or the browser return, a staff requery, and the citizen's polling. -/
inductive Delivery where
  | callback (payload : Json.Fields)
  | requery (user : AuthUser) (paymentId : Id) (reply : Option RequeryResult)
  | sync (merchTxnId : String) (reply : Option RequeryResult)

structure Attempt where
  ctx : Context
  delivery : Delivery

/-- What a delivery carries from its read to its transaction. -/
inductive DeliveryRead where
  | callback (read : CallbackRead)
  | requery (user : AuthUser) (payment : Payment) (reply : Option RequeryResult)
  | sync (payment : Payment) (reply : Option RequeryResult)

/-- `settled` says that the delivery committed its writes. -/
inductive Progress where
  | waiting
  | entered (read : DeliveryRead)
  | finished (settled : Bool)

def beginDelivery (ctx : Context) (delivery : Delivery) (db : Db) : Progress × Db :=
  match delivery with
  | .callback payload =>
      match readCallback ctx payload db with
      | (db, .ok (.inr read)) => (.entered (.callback read), db)
      | (db, _) => (.finished false, db)
  | .requery user paymentId reply =>
      match requeryRead user paymentId db with
      | .ok payment => (.entered (.requery user payment reply), db)
      | .error _ => (.finished false, db)
  | .sync merchTxnId reply =>
      match syncRead merchTxnId db with
      | .ok payment => (.entered (.sync payment reply), db)
      | .error _ => (.finished false, db)

def finishDelivery (ctx : Context) (read : DeliveryRead) (db : Db) : Progress × Db :=
  match read with
  | .callback read =>
      match finishCallback ctx read db with
      | (db, .ok outcome) => (.finished outcome.isProcessed, db)
      | (db, .error _) => (.finished false, db)
  | .requery user payment reply =>
      match finishRequery ctx user payment reply db with
      | (db, .ok _) => (.finished true, db)
      | (db, .error _) => (.finished false, db)
  | .sync payment reply =>
      match finishSync ctx payment reply db with
      | (db, .ok _) => (.finished (!syncAnswersAsStored payment.status), db)
      | (db, .error _) => (.finished false, db)

/-- The next atomic step of a delivery. -/
def deliver {Process : Type} (attempts : Process → Attempt) (process : Process)
    (progress : Progress) (db : Db) : Progress × Db :=
  match progress with
  | .waiting => beginDelivery (attempts process).ctx (attempts process).delivery db
  | .entered read => finishDelivery (attempts process).ctx read db
  | .finished settled => (.finished settled, db)

/-- No delivery has begun. -/
def undelivered {Process : Type} (db : Db) : System Process Progress Db :=
  { shared := db, locals := fun _ => .waiting }

namespace DeliveryRead

def payment : DeliveryRead → Payment
  | callback read => read.payment
  | requery _ payment _ => payment
  | sync payment _ => payment

/-- The gateway reports success. -/
def success : DeliveryRead → Bool
  | callback read => read.success
  | requery _ _ reply => (reply.map RequeryResult.success).getD false
  | sync _ reply => (reply.map RequeryResult.success).getD false

/-- The status the transaction writes. -/
def status : DeliveryRead → PaymentStatus
  | callback read => read.effectiveStatus
  | requery _ payment reply =>
      if (reply.map RequeryResult.success).getD false then .success else payment.status
  | sync payment reply =>
      if (reply.map RequeryResult.success).getD false then .success else payment.status

/-- The delivery is a first success as far as it has read. -/
def credits : DeliveryRead → Bool
  | callback read => read.firstSuccess
  | requery _ payment reply =>
      (reply.map RequeryResult.success).getD false && requeryFirstSuccess payment
  | sync payment reply =>
      (reply.map RequeryResult.success).getD false && requeryFirstSuccess payment

/-- The delivery gets as far as its transaction: it is no duplicate, its amount
matches, and its payment is one the gateway is asked about. -/
def proceeds (provider : ProviderName) : DeliveryRead → Bool
  | callback read => read.duplicateOf.isNone && !read.amountMismatch provider
  | requery _ _ _ => true
  | sync payment _ => !syncAnswersAsStored payment.status

/-- A delivery credits the demand if it reports the first success of a payment without a receipt. -/
theorem credits_iff (read : DeliveryRead) : read.credits = true ↔
    read.success = true ∧ read.payment.status ≠ .success ∧
      read.payment.receiptSnapshot = none := by
  cases read <;>
    simp [credits, success, DeliveryRead.payment, CallbackRead.firstSuccess,
      requeryFirstSuccess, and_assoc]

/-- A reported success makes the payment successful, whatever its status was. -/
theorem status_of_success {read : DeliveryRead} (h : read.success = true) :
    read.status = .success := by
  cases read with
  | callback read =>
      have hSuccess : read.success = true := h
      simp [status, CallbackRead.effectiveStatus, CallbackRead.nextStatus, hSuccess]
  | requery _ _ reply =>
      have hSuccess : (reply.map RequeryResult.success).getD false = true := h
      simp only [status, hSuccess, ↓reduceIte]
  | sync _ reply =>
      have hSuccess : (reply.map RequeryResult.success).getD false = true := h
      simp only [status, hSuccess, ↓reduceIte]

/-- A delivery that read a success writes a success, whatever it reports. -/
theorem status_of_read_success {read : DeliveryRead} (h : read.payment.status = .success) :
    read.status = .success := by
  cases hSuccess : read.success with
  | true => exact status_of_success hSuccess
  | false =>
      cases read with
      | callback read =>
          have hRead : read.payment.status = .success := h
          have hFailure : read.success = false := hSuccess
          simp [status, CallbackRead.effectiveStatus, hRead, hFailure]
      | requery _ payment reply =>
          have hFailure : (reply.map RequeryResult.success).getD false = false := hSuccess
          simp only [status, hFailure]
          exact h
      | sync payment reply =>
          have hFailure : (reply.map RequeryResult.success).getD false = false := hSuccess
          simp only [status, hFailure]
          exact h

/-- The callback is to create a row, and its idempotency key is taken. -/
def keyTaken (db : Db) : DeliveryRead → Prop
  | callback read => read.existing = none ∧
      ∃ c ∈ db.callbacks.rows, c.idempotencyKey = some read.idempotencyKey
  | _ => False

end DeliveryRead

/-- The transaction of a callback is refused when its key is taken. -/
theorem callbackTransaction_of_keyTaken (ctx : Context) {read : CallbackRead} {db : Db}
    (h : (DeliveryRead.callback read).keyTaken db) :
    ∃ refusal, callbackTransaction ctx read db = .error refusal := by
  obtain ⟨hNone, c, hc, hKey⟩ := h
  cases hBody : callbackTransaction ctx read db with
  | error refusal => exact ⟨refusal, rfl⟩
  | ok answer =>
      obtain ⟨⟨db₁, callbackId⟩, hWrite, _⟩ := bind_ok hBody
      simp only [writeCallback, hNone] at hWrite
      obtain ⟨after, hCreate, _⟩ := map_ok hWrite
      obtain ⟨_, hAdded, _⟩ := Db.createCallback_ok hCreate
      have hClash := hAdded.fresh c hc
      simp [KeyedRow.clash, hKey, sameValue] at hClash

/-- One transaction: either the ledger stays as it is, or the delivery settles
the payment it read, with a status and a credit decided from that reading. -/
theorem finishDelivery_cases (ctx : Context) (read : DeliveryRead) (db : Db) :
    (SameLedger db (finishDelivery ctx read db).2 ∧
      (finishDelivery ctx read db).1 = .finished false) ∨
    ((finishDelivery ctx read db).1 = .finished true ∧ read.proceeds ctx.gateway.name = true ∧
      ¬ read.keyTaken db ∧
      Settled read.payment read.status read.credits db (finishDelivery ctx read db).2) := by
  cases read with
  | callback read =>
      rcases finishCallback_cases ctx read db with
        ⟨hSame, hOutcome⟩ | ⟨hDuplicate, hMismatch, hBody, hSettled, outcome, hOk, hProcessed⟩
      · refine Or.inl ?_
        rcases hResult : finishCallback ctx read db with ⟨after, _ | outcome⟩
        · rw [hResult] at hSame
          simpa [finishDelivery, hResult] using hSame
        · rw [hResult] at hSame hOutcome
          simpa [finishDelivery, hResult, hOutcome outcome rfl] using hSame
      · refine Or.inr ?_
        have hFree : ¬ (DeliveryRead.callback read).keyTaken db := by
          intro hTaken
          obtain ⟨refusal, hRefused⟩ := callbackTransaction_of_keyTaken ctx hTaken
          obtain ⟨answer, hAnswer⟩ := hBody
          rw [hRefused] at hAnswer
          cases hAnswer
        rcases hResult : finishCallback ctx read db with ⟨after, _ | result⟩
        · rw [hResult] at hOk
          cases hOk
        · rw [hResult] at hOk hSettled
          cases hOk
          simp only [finishDelivery, hResult, hProcessed]
          refine ⟨trivial, ?_, hFree, hSettled⟩
          simp [DeliveryRead.proceeds, hDuplicate, hMismatch]
  | requery user payment reply =>
      cases reply with
      | none => exact Or.inl ⟨SameLedger.refl db, rfl⟩
      | some result =>
          rcases finalizeRequerySuccess_recorded ctx payment
            { success := result.success, atomTxnId := result.atomTxnId,
              keepPendingWhenUnsuccessful := false } db
            (requeryTransactionRow payment result) with
            ⟨hSame, error, hError⟩ | ⟨⟨answer, hOk⟩, hSettled⟩
          · refine Or.inl ?_
            rcases hResult : finalizeRequerySuccess ctx payment _ _ with ⟨after, final⟩
            rw [hResult] at hSame hError
            subst hError
            simpa [finishDelivery, finishRequery, hResult] using hSame
          · refine Or.inr ?_
            rcases hResult : finalizeRequerySuccess ctx payment _ _ with ⟨after, final⟩
            rw [hResult] at hSettled hOk
            subst hOk
            simp only [finishDelivery, finishRequery, hResult]
            refine ⟨trivial, rfl, id, ?_⟩
            exact hSettled.congr (SameLedger.refl db) (SameLedger.log after _)
  | sync payment reply =>
      cases hStored : syncAnswersAsStored payment.status with
      | true =>
          refine Or.inl ?_
          simp only [finishDelivery, finishSync, hStored, ↓reduceIte, Bool.not_true]
          exact ⟨SameLedger.refl db, trivial⟩
      | false =>
          cases reply with
          | none =>
              refine Or.inl ?_
              simp only [finishDelivery, finishSync, hStored, Bool.false_eq_true, ↓reduceIte]
              exact ⟨SameLedger.refl db, trivial⟩
          | some result =>
              rcases finalizeRequerySuccess_recorded ctx payment
                { success := result.success, atomTxnId := result.atomTxnId,
                  keepPendingWhenUnsuccessful := true } db
                (requeryTransactionRow payment result) with
                ⟨hSame, error, hError⟩ | ⟨⟨answer, hOk⟩, hSettled⟩
              · refine Or.inl ?_
                rcases hResult : finalizeRequerySuccess ctx payment _ _ with ⟨after, final⟩
                rw [hResult] at hSame hError
                subst hError
                simpa [finishDelivery, finishSync, hStored, hResult] using hSame
              · refine Or.inr ?_
                rcases hResult : finalizeRequerySuccess ctx payment _ _ with ⟨after, final⟩
                rw [hResult] at hSettled hOk
                subst hOk
                simp only [finishDelivery, finishSync, hStored, hResult, Bool.false_eq_true,
                  ↓reduceIte]
                exact ⟨rfl, by simp [DeliveryRead.proceeds, hStored], id, hSettled⟩

/-! ### Readings of one payment -/

/-- The delivery is about the payment with this id and transaction id. -/
def Attempt.Concerns (attempt : Attempt) (id : Id) (merchTxnId : Option String) : Prop :=
  match attempt.delivery with
  | .callback payload =>
      ∀ parsed, parseCallbackPayload attempt.ctx.gateway payload = .ok parsed →
        parsed.merchTxnId = merchTxnId
  | .requery _ paymentId _ => paymentId = id
  | .sync m _ => some m = merchTxnId

/-- The delivery reports success. -/
def Attempt.ReportsSuccess (attempt : Attempt) : Prop :=
  match attempt.delivery with
  | .callback payload =>
      ∀ parsed, parseCallbackPayload attempt.ctx.gateway payload = .ok parsed →
        isGatewaySuccess parsed.statusCode = true
  | .requery _ _ reply => ∃ result, reply = some result ∧ result.success = true
  | .sync _ reply => ∃ result, reply = some result ∧ result.success = true

/-- There is one payment of each merchant transaction. -/
theorem payment_eq_of_merchTxnId {payments : KeyedTable Payment} {p q : Payment}
    {merchTxnId : String} (hp : p ∈ payments.rows) (hq : q ∈ payments.rows)
    (hpMerch : p.merchTxnId = some merchTxnId) (hqMerch : q.merchTxnId = some merchTxnId) :
    p = q := by
  refine eq_of_clash hp hq ?_
  simp [KeyedRow.clash, hpMerch, hqMerch, sameValue]

/-- The reads of a delivery change no row, and find the stored payment. -/
theorem beginDelivery_cases {attempt : Attempt} {p : Payment} {db : Db}
    (hConcerns : attempt.Concerns p.id p.merchTxnId) (hp : p ∈ db.payments.rows) :
    SameLedger db (beginDelivery attempt.ctx attempt.delivery db).2 ∧
      ((beginDelivery attempt.ctx attempt.delivery db).1 = .finished false ∨
        ∃ read, (beginDelivery attempt.ctx attempt.delivery db).1 = .entered read ∧
          read.payment = p ∧ (attempt.ReportsSuccess → read.success = true)) := by
  obtain ⟨ctx, delivery⟩ := attempt
  cases delivery with
  | callback payload =>
      have hSame := (readCallback_same ctx payload db).1
      rcases hRead : readCallback ctx payload db with ⟨after, _ | outcome | read⟩
      · rw [hRead] at hSame
        simpa [beginDelivery, hRead] using hSame
      · rw [hRead] at hSame
        simpa [beginDelivery, hRead] using hSame
      · rw [hRead] at hSame
        obtain ⟨⟨parsed, hParsed, hMerch, _, hCode, _⟩, _, hPayment, _⟩ := readCallback_inr hRead
        obtain ⟨hMem, hMemMerch⟩ := Db.paymentByMerchTxnId?_spec hPayment
        have hpMerch : p.merchTxnId = some read.merchTxnId :=
          (hConcerns parsed hParsed).symm.trans hMerch
        simp only [beginDelivery, hRead]
        refine ⟨hSame, Or.inr ⟨_, rfl, payment_eq_of_merchTxnId hMem hp hMemMerch hpMerch, ?_⟩⟩
        intro hReports
        have hSuccess := hReports parsed hParsed
        rw [hCode] at hSuccess
        exact hSuccess
  | requery user paymentId reply =>
      have hSuccess : Attempt.ReportsSuccess ⟨ctx, .requery user paymentId reply⟩ →
          (reply.map RequeryResult.success).getD false = true := by
        intro hReports
        obtain ⟨result, rfl, hResult⟩ := hReports
        exact hResult
      cases hRead : requeryRead user paymentId db with
      | error error => simpa [beginDelivery, hRead] using SameLedger.refl db
      | ok payment =>
          simp only [beginDelivery, hRead]
          refine ⟨SameLedger.refl db, Or.inr ⟨_, rfl, ?_, hSuccess⟩⟩
          have hFound : db.payments.find? p.id = some p := find?_eq_some_iff.mpr ⟨hp, rfl⟩
          have hId : paymentId = p.id := hConcerns
          simp only [requeryRead, hId, hFound] at hRead
          split_ifs at hRead
          cases hAccess : assertPaymentAccess user p.collectedById .requery with
          | error error => simp [hAccess, Except.map] at hRead
          | ok _ =>
              simp only [hAccess, Except.map, Except.ok.injEq] at hRead
              exact hRead.symm
  | sync merchTxnId reply =>
      have hSuccess : Attempt.ReportsSuccess ⟨ctx, .sync merchTxnId reply⟩ →
          (reply.map RequeryResult.success).getD false = true := by
        intro hReports
        obtain ⟨result, rfl, hResult⟩ := hReports
        exact hResult
      cases hRead : syncRead merchTxnId db with
      | error error => simpa [beginDelivery, hRead] using SameLedger.refl db
      | ok payment =>
          simp only [beginDelivery, hRead]
          refine ⟨SameLedger.refl db, Or.inr ⟨_, rfl, ?_, hSuccess⟩⟩
          have hMerch : some merchTxnId = p.merchTxnId := hConcerns
          unfold syncRead at hRead
          cases hFound : db.paymentByMerchTxnId? merchTxnId with
          | none => simp [hFound] at hRead
          | some q =>
              simp only [hFound] at hRead
              split_ifs at hRead
              cases hRead
              obtain ⟨hMem, hMemMerch⟩ := Db.paymentByMerchTxnId?_spec hFound
              exact payment_eq_of_merchTxnId hMem hp hMemMerch hMerch.symm

/-! ### A service to run examples on -/

namespace Sample

def context : Context where
  reference := ⟨[], [], [], [], []⟩
  billing := ⟨fun _ _ => ⟨0, 0, 0, 0, 0⟩, compare⟩
  gateway := ⟨.sandbox, fun _ => none, none, fun _ text => text⟩
  parseDate := fun _ => none
  now := 1000

def administrator : AuthUser := { id := 0, permissions := [], roles := ["SUPER_ADMIN"] }

/-- A published demand of 1000 rupees. -/
def demand : PropertyDemand :=
  { id := 1, surveyId := 10, assessmentYearId := 20, status := .published,
    currentDemand := 100000, totalPayable := 100000, outstanding := 100000 }

/-- A pending online payment of 400 rupees on it. -/
def payment : Payment :=
  { id := 2, paymentReference := "CHH-1-a", merchTxnId := some "CHH-1-a", surveyId := some 10,
    assessmentYearId := some 20, propertyDemandId := some 1, amount := 40000,
    paymentMode := .online, status := .pending, refundableAmount := some 40000, createdAt := 0 }

def db : Db :=
  { Db.empty with
    payments := ⟨[payment], List.pairwise_singleton _ _⟩
    demands := ⟨[demand], List.pairwise_singleton _ _⟩
    nextId := 3 }

end Sample

end PropertyTax
