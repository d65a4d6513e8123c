import PropertyTax.Payments.OnlineSuccess

/-! `handleCallback`, as the two steps other calls can come between: the reads
up to the callback row, and the transaction with what is decided before it from
the rows read. -/
namespace PropertyTax
open Json

/-- Primary identity is `merchTxnId`, unless the body names a key of its own. -/
def buildPaymentCallbackIdempotencyKey (idempotencyKey merchTxnId : Option String) : String :=
  let key := Js.trim (idempotencyKey.getD "")
  let merch := Js.trim (merchTxnId.getD "")
  if key ≠ "" then key else if merch ≠ "" then merch else "na"

/-- `payload.idempotencyKey as string | undefined`, on which `trim` is called. -/
def idempotencyKeyOf (payload : Fields) : Except ApiError (Option String) :=
  match payload.get "idempotencyKey" with
  | none => .ok none
  | some .null => .ok none
  | some (.str text) => .ok (some text)
  | some _ => .error (.typeError "idempotencyKey.trim is not a function")

inductive CallbackOutcome where
  | rejected (reason code : String) (merchTxnId : Option String)
  | duplicate (callback : Option PaymentCallback) (merchTxnId : String)
  | processed (callback : Option PaymentCallback) (payment : Option Payment) (merchTxnId : String)

def CallbackOutcome.merchTxnId? : CallbackOutcome → Option String
  | rejected _ _ merchTxnId => merchTxnId
  | duplicate _ merchTxnId => some merchTxnId
  | processed _ _ merchTxnId => some merchTxnId

/-- What a callback knows when it enters its transaction. -/
structure CallbackRead where
  merchTxnId : String
  atomTxnId : Option String
  statusCode : String
  gatewayAmount : Option ℚ
  storedPayload : Json
  idempotencyKey : String
  payment : Payment
  existing : Option PaymentCallback

def rejectWebhook (reason code : String) (payload : Json)
    (merchTxnId atomTxnId : Option String) (paymentId : Option Id) (db : Db) :
    Db × CallbackOutcome :=
  let entry : AuditEntry :=
    { action := "PAYMENT_WEBHOOK_REJECTED"
      entity := "Payment"
      entityId := paymentId.map toString
      newValue := some (jsonFields [("code", some (.str code)), ("reason", some (.str reason)),
        ("merchTxnId", merchTxnId.map .str), ("atomTxnId", atomTxnId.map .str)])
      metadata := some (.obj [("payload", redactSensitivePaymentPayload payload)]) }
  (db.log entry, .rejected reason code merchTxnId)

/-- The entry logged for every body, whatever becomes of it. -/
def webhookReceived (gateway : Gateway) (payload : Fields) : AuditEntry where
  action := "PAYMENT_WEBHOOK_RECEIVED"
  entity := "PaymentCallback"
  newValue := some (jsonFields [("provider", some (.str gateway.name.text)),
    ("hasEncData", some (.bool (encDataOf payload ≠ "")))])
  metadata := some (.obj [("payload", redactSensitivePaymentPayload (.obj payload))])

/-- The stored row of a callback: by key first, then by transaction id. -/
def existingCallback (db : Db) (idempotencyKey merchTxnId : String) : Option PaymentCallback :=
  (db.callbackByKey? idempotencyKey).or (db.callbackByMerchTxnId? merchTxnId)

/-- An answer given before the rows are read. -/
def early (result : Db × CallbackOutcome) : Reply (CallbackOutcome ⊕ CallbackRead) :=
  (result.1, .ok (.inl result.2))

/-- Parse the body and read the payment and callback rows. -/
def readCallback (ctx : Context) (payload : Fields) (db : Db) :
    Reply (CallbackOutcome ⊕ CallbackRead) :=
  let db := db.log (webhookReceived ctx.gateway payload)
  match parseCallbackPayload ctx.gateway payload with
  | .error (.callbackParse code message) =>
      early (rejectWebhook message code (.obj payload) none none none db)
  | .error (.typeError message) => (db, .error (.typeError message))
  | .ok parsed =>
      let storedPayload := redactSensitivePaymentPayload (.obj parsed.normalized)
      match idempotencyKeyOf payload with
      | .error error => (db, .error error)
      | .ok key =>
          let idempotencyKey := buildPaymentCallbackIdempotencyKey key parsed.merchTxnId
          match parsed.merchTxnId.filter (· ≠ "") with
          | none =>
              early (rejectWebhook "merchTxnId is required" "MISSING_MERCH_TXN_ID"
                storedPayload none parsed.atomTxnId none db)
          | some merchTxnId =>
              match db.paymentByMerchTxnId? merchTxnId with
              | none =>
                  early (rejectWebhook "Payment not found for merchTxnId"
                    "UNKNOWN_MERCH_TXN_ID" storedPayload (some merchTxnId) parsed.atomTxnId none
                    db)
              | some payment =>
                  (db, .ok (.inr
                    { merchTxnId
                      atomTxnId := parsed.atomTxnId
                      statusCode := parsed.statusCode
                      gatewayAmount := parsed.gatewayAmount
                      storedPayload
                      idempotencyKey
                      payment
                      existing := existingCallback db idempotencyKey merchTxnId }))

namespace CallbackRead

def success (read : CallbackRead) : Bool := isGatewaySuccess read.statusCode

/-- The processed row that makes this callback a duplicate. -/
def duplicateOf (read : CallbackRead) : Option PaymentCallback :=
  read.existing.filter fun existing =>
    existing.processed && !shouldReprocessProcessedCallback true read.success read.payment.status

def amountMismatch (read : CallbackRead) (provider : ProviderName) : Bool :=
  match read.gatewayAmount with
  | none => provider = .atomNdps
  | some gatewayAmount =>
      !amountsMatchWithinTolerance (toMoney read.payment.amount) gatewayAmount

def nextStatus (read : CallbackRead) : PaymentStatus :=
  if read.success then .success
  else if read.statusCode = "UNKNOWN" then read.payment.status
  else .failed

def effectiveStatus (read : CallbackRead) : PaymentStatus :=
  if read.payment.status = .success ∧ !read.success then .success else read.nextStatus

def firstSuccess (read : CallbackRead) : Bool :=
  read.success && read.payment.status ≠ .success && read.payment.receiptSnapshot.isNone

end CallbackRead

/-- `payment.receiptNumber ?? "RCP-..."` -/
def receiptNumberOf (payment : Payment) : String :=
  payment.receiptNumber.getD ("RCP-" ++ payment.merchTxnId.getD payment.paymentReference)

/-- A missing receipt number is `null` or empty. -/
def hasReceiptNumber (payment : Payment) : Bool := payment.receiptNumber.getD "" ≠ ""

/-- Update the callback row that was found, or create one. -/
def writeCallback (read : CallbackRead) (db : Db) : Except Refusal (Db × Id) :=
  match read.existing with
  | some existing =>
      (db.updateCallback existing.id fun c => { c with
        statusCode := some read.statusCode
        atomTxnId := read.atomTxnId.or existing.atomTxnId
        rawPayload := read.storedPayload
        idempotencyKey := some read.idempotencyKey
        processed := false }).map fun after => (after, existing.id)
  | none =>
      (db.createCallback fun id =>
        { id
          paymentId := some read.payment.id
          merchTxnId := some read.merchTxnId
          atomTxnId := read.atomTxnId
          statusCode := some read.statusCode
          rawPayload := read.storedPayload
          idempotencyKey := some read.idempotencyKey
          processed := false }).map fun after => (after, db.nextId)

/-- `data` of the payment update, over the row that is stored by then. -/
def callbackPaymentData (read : CallbackRead) (receiptNumber : String)
    (collectionDate : Timestamp) (extras : Option DemandExtras) (p : Payment) : Payment :=
  let p := { p with
    status := read.effectiveStatus
    atomTxnId := read.atomTxnId.or read.payment.atomTxnId
    gatewayReference := read.atomTxnId.or read.payment.gatewayReference }
  let p :=
    if read.success && !hasReceiptNumber read.payment then
      { p with receiptNumber := some receiptNumber, collectionDate := some collectionDate }
    else p
  p.withExtras extras

def callbackTransaction (ctx : Context) (read : CallbackRead) (db : Db) :
    Except Refusal (Db × Option PaymentCallback × Option Payment) := do
  let (db, callbackId) ← writeCallback read db
  let receiptNumber := receiptNumberOf read.payment
  let collectionDate := read.payment.collectionDate.getD ctx.now
  let (db, demandExtras) ←
    demandExtrasOn read.firstSuccess ctx read.payment receiptNumber collectionDate db
  let db ← db.updatePayment read.payment.id
    (callbackPaymentData read receiptNumber collectionDate demandExtras)
  let db := db.addTransaction
    { paymentId := read.payment.id
      direction := "callback"
      responsePayload := some read.storedPayload
      statusCode := some read.statusCode }
  let db ← db.updateCallback callbackId fun c => { c with processed := true }
  return (db, db.callbacks.find? callbackId, db.payments.find? read.payment.id)

def PaymentStatus.text : PaymentStatus → String
  | initiated => "INITIATED"
  | pending => "PENDING"
  | success => "SUCCESS"
  | failed => "FAILED"
  | cancelled => "CANCELLED"
  | refunded => "REFUNDED"
  | partiallyRefunded => "PARTIALLY_REFUNDED"

/-- The entries logged when the status of the payment that was read changes. -/
def logStatusChange (read : CallbackRead) (db : Db) : Db :=
  let entry (action : String) (detail : String × Option Json) : AuditEntry :=
    { action
      entity := "Payment"
      entityId := some (toString read.payment.id)
      oldValue := some (.obj [("status", .str read.payment.status.text)])
      newValue := some (jsonFields [("status", some (.str read.effectiveStatus.text)),
        ("merchTxnId", some (.str read.merchTxnId)), ("atomTxnId", read.atomTxnId.map .str),
        detail]) }
  let statusChanged := read.effectiveStatus ≠ read.payment.status
  if read.success && statusChanged then
    db.log (entry "PAYMENT_SUCCESS" ("gatewayAmount", read.gatewayAmount.map .num))
  else if !read.success && statusChanged && read.effectiveStatus = .failed then
    db.log (entry "PAYMENT_FAILED" ("statusCode", some (.str read.statusCode)))
  else db

/-- A later callback may still attach `atomTxnId` onto the processed row. -/
def attachToDuplicate (read : CallbackRead) (existing : PaymentCallback) (db : Db) :
    Reply CallbackOutcome :=
  if read.atomTxnId.isSome ∧ existing.atomTxnId ≠ read.atomTxnId then
    commit db ((db.updateCallback existing.id fun c => { c with
      atomTxnId := read.atomTxnId
      statusCode := some read.statusCode
      rawPayload := read.storedPayload
      idempotencyKey := some read.idempotencyKey }).map fun after =>
        (after, .duplicate (after.callbacks.find? existing.id) read.merchTxnId))
  else (db, .ok (.duplicate (some existing) read.merchTxnId))

/-- Everything after the reads. -/
def finishCallback (ctx : Context) (read : CallbackRead) (db : Db) : Reply CallbackOutcome :=
  match read.duplicateOf with
  | some existing => attachToDuplicate read existing db
  | none =>
      if read.amountMismatch ctx.gateway.name then
        let rejection := rejectWebhook "Gateway amount does not match payment amount"
          "AMOUNT_MISMATCH" read.storedPayload (some read.merchTxnId) read.atomTxnId
          (some read.payment.id) db
        (rejection.1, .ok rejection.2)
      else
        match commit db (callbackTransaction ctx read db) with
        | (db, .error error) => (db, .error error)
        | (db, .ok (callback, payment)) =>
            (logStatusChange read db, .ok (.processed callback payment read.merchTxnId))

def handleCallback (ctx : Context) (payload : Fields) (db : Db) : Reply CallbackOutcome :=
  match readCallback ctx payload db with
  | (db, .error error) => (db, .error error)
  | (db, .ok (.inl outcome)) => (db, .ok outcome)
  | (db, .ok (.inr read)) => finishCallback ctx read db

/-- The browser return: the same processing, and the transaction id that the
redirect names. -/
def handleGatewayReturn (ctx : Context) (payload : Fields) (db : Db) :
    Reply (CallbackOutcome × Option String) :=
  match handleCallback ctx payload db with
  | (db, .error error) => (db, .error error)
  | (db, .ok outcome) =>
      match outcome.merchTxnId? with
      | some merchTxnId => (db, .ok (outcome, some merchTxnId))
      | none =>
          match normalizeGatewayPayload ctx.gateway payload with
          | .error (.callbackParse _ message) => (db, .error (.typeError message))
          | .error (.typeError message) => (db, .error (.typeError message))
          | .ok normalized => (db, .ok (outcome, match normalized.get "merchTxnId" with
              | some (.str text) => some text
              | _ => none))

/-! ### What a callback changes -/

/-- A stored callback is no part of the ledger. -/
theorem SameLedger.writeCallback {read : CallbackRead} {db db' : Db} {callbackId : Id}
    (h : writeCallback read db = .ok (db', callbackId)) : SameLedger db db' := by
  unfold PropertyTax.writeCallback at h
  cases hExisting : read.existing with
  | some existing =>
      simp only [hExisting] at h
      obtain ⟨after, hUpdate, hPair⟩ := map_ok h
      obtain ⟨_, _, _, _, rfl⟩ := Db.updateCallback_ok hUpdate fun _ => rfl
      cases hPair
      exact ⟨rfl, rfl, rfl, rfl⟩
  | none =>
      simp only [hExisting] at h
      obtain ⟨after, hCreate, hPair⟩ := map_ok h
      obtain ⟨_, _, rfl⟩ := Db.createCallback_ok hCreate
      cases hPair
      exact ⟨rfl, rfl, rfl, rfl⟩

/-- A callback leaves what a payment is for. -/
theorem callbackPaymentData_same (read : CallbackRead) (receiptNumber : String)
    (collectionDate : Timestamp) (extras : Option DemandExtras) (p : Payment) :
    SamePurpose p (callbackPaymentData read receiptNumber collectionDate extras p) := by
  unfold callbackPaymentData
  cases extras <;> split_ifs <;> exact ⟨rfl, rfl, rfl, rfl, rfl, rfl⟩

/-- A payment ends with the status that its callback gives. -/
theorem callbackPaymentData_status (read : CallbackRead) (receiptNumber : String)
    (collectionDate : Timestamp) (extras : Option DemandExtras) (p : Payment) :
    (callbackPaymentData read receiptNumber collectionDate extras p).status =
      read.effectiveStatus := by
  unfold callbackPaymentData
  cases extras <;> split_ifs <;> rfl

/-- A committed callback settles the payment it read with the status decided
from that reading, and credits the demand exactly when it was a first success. -/
theorem callbackTransaction_settled {ctx : Context} {read : CallbackRead} {db db' : Db}
    {answer : Option PaymentCallback × Option Payment}
    (h : callbackTransaction ctx read db = .ok (db', answer)) :
    Settled read.payment read.effectiveStatus read.firstSuccess db db' := by
  unfold callbackTransaction at h
  obtain ⟨⟨db₁, callbackId⟩, hWrite, h⟩ := bind_ok h
  obtain ⟨⟨db₂, extras⟩, hCredit, h⟩ := bind_ok h
  obtain ⟨db₃, hPayment, h⟩ := bind_ok h
  obtain ⟨db₄, hProcessed, h⟩ := bind_ok h
  obtain ⟨_, _, _, _, rfl⟩ := Db.updateCallback_ok hProcessed fun _ => rfl
  cases h
  obtain ⟨p, payments, hId, hReplaced, rfl⟩ := Db.updatePayment_ok hPayment fun p =>
    (callbackPaymentData_same read _ _ extras p).id
  have hSame := callbackPaymentData_same read (receiptNumberOf read.payment)
    (read.payment.collectionDate.getD ctx.now) extras p
  have hStatus := callbackPaymentData_status read (receiptNumberOf read.payment)
    (read.payment.collectionDate.getD ctx.now) extras p
  refine Settled.congr (SameLedger.writeCallback hWrite) ?_ (SameLedger.refl _)
  rcases demandExtrasOn_ok hCredit with
    ⟨hNone, rfl, rfl⟩ | ⟨d, demands, snapshot, hFirst, hTarget, hDemand, rfl, rfl⟩
  · refine .uncredited p _ hNone hReplaced hId hSame hStatus ?_ ?_ rfl rfl rfl
    · unfold callbackPaymentData
      split_ifs <;> rfl
    · unfold callbackPaymentData
      split_ifs <;> rfl
  · refine .credited p _ d hFirst hTarget hReplaced hId hSame hStatus rfl ?_ hDemand rfl rfl
    simp [callbackPaymentData, Payment.withExtras]

/-- The log of a status change touches neither the ledger nor the callbacks. -/
theorem logStatusChange_same (read : CallbackRead) (db : Db) :
    SameLedger db (logStatusChange read db) ∧
      (logStatusChange read db).callbacks = db.callbacks := by
  unfold logStatusChange
  dsimp only
  split_ifs <;> exact ⟨⟨rfl, rfl, rfl, rfl⟩, rfl⟩

/-- A callback attached to a stored one is no part of the ledger. -/
theorem SameLedger.attachToDuplicate (read : CallbackRead) (existing : PaymentCallback)
    (db : Db) : SameLedger db (attachToDuplicate read existing db).1 := by
  unfold PropertyTax.attachToDuplicate
  split_ifs
  · cases hUpdate : db.updateCallback existing.id fun c => { c with
        atomTxnId := read.atomTxnId
        statusCode := some read.statusCode
        rawPayload := read.storedPayload
        idempotencyKey := some read.idempotencyKey } with
    | error refusal => exact SameLedger.refl db
    | ok after =>
        obtain ⟨_, _, _, _, rfl⟩ := Db.updateCallback_ok hUpdate fun _ => rfl
        exact ⟨rfl, rfl, rfl, rfl⟩
  · exact SameLedger.refl db

/-- The callback went through its transaction. -/
def CallbackOutcome.isProcessed : CallbackOutcome → Bool
  | processed .. => true
  | _ => false

/-- A callback past its reads leaves the ledger alone, or settles the payment
it read. It settles only when it is no duplicate and its amount matches. -/
theorem finishCallback_cases (ctx : Context) (read : CallbackRead) (db : Db) :
    (SameLedger db (finishCallback ctx read db).1 ∧
      ∀ outcome, (finishCallback ctx read db).2 = .ok outcome → outcome.isProcessed = false) ∨
    (read.duplicateOf = none ∧ read.amountMismatch ctx.gateway.name = false ∧
      (∃ answer, callbackTransaction ctx read db = .ok answer) ∧
      Settled read.payment read.effectiveStatus read.firstSuccess db
        (finishCallback ctx read db).1 ∧
      ∃ outcome, (finishCallback ctx read db).2 = .ok outcome ∧ outcome.isProcessed = true) := by
  unfold finishCallback
  cases hDuplicate : read.duplicateOf with
  | some existing =>
      refine Or.inl ⟨SameLedger.attachToDuplicate read existing db, ?_⟩
      intro outcome hOutcome
      simp only [attachToDuplicate, commit] at hOutcome
      split_ifs at hOutcome
      · cases hUpdate : db.updateCallback existing.id fun c => { c with
            atomTxnId := read.atomTxnId
            statusCode := some read.statusCode
            rawPayload := read.storedPayload
            idempotencyKey := some read.idempotencyKey } with
        | error refusal => simp [hUpdate, Except.map] at hOutcome
        | ok after =>
            simp only [hUpdate, Except.map, Except.ok.injEq] at hOutcome
            rw [← hOutcome]
            rfl
      · cases hOutcome
        rfl
  | none =>
      cases hMismatch : read.amountMismatch ctx.gateway.name with
      | true =>
          refine Or.inl ⟨SameLedger.log db _, ?_⟩
          intro outcome hOutcome
          cases hOutcome
          rfl
      | false =>
          cases hBody : callbackTransaction ctx read db with
          | error refusal =>
              refine Or.inl ⟨SameLedger.refl db, ?_⟩
              intro outcome hOutcome
              cases hOutcome
          | ok result =>
              obtain ⟨after, callback, payment⟩ := result
              refine Or.inr ⟨rfl, rfl, ⟨_, rfl⟩, ?_, _, rfl, rfl⟩
              exact (callbackTransaction_settled hBody).congr (SameLedger.refl db)
                (logStatusChange_same read after).1

/-- The reads change no row. -/
theorem readCallback_same (ctx : Context) (payload : Fields) (db : Db) :
    SameLedger db (readCallback ctx payload db).1 ∧
      (readCallback ctx payload db).1.callbacks = db.callbacks := by
  unfold readCallback
  dsimp only
  split
  · exact ⟨⟨rfl, rfl, rfl, rfl⟩, rfl⟩
  · exact ⟨⟨rfl, rfl, rfl, rfl⟩, rfl⟩
  · split
    · exact ⟨⟨rfl, rfl, rfl, rfl⟩, rfl⟩
    · split
      · exact ⟨⟨rfl, rfl, rfl, rfl⟩, rfl⟩
      · split <;> exact ⟨⟨rfl, rfl, rfl, rfl⟩, rfl⟩

/-- What a callback past its reads knows of the body and of the database. -/
structure CallbackReadFrom (ctx : Context) (payload : Fields) (db : Db)
    (read : CallbackRead) : Prop where
  parsed : ∃ parsed, parseCallbackPayload ctx.gateway payload = .ok parsed ∧
    parsed.merchTxnId = some read.merchTxnId ∧ parsed.atomTxnId = read.atomTxnId ∧
    parsed.statusCode = read.statusCode ∧ parsed.gatewayAmount = read.gatewayAmount
  key : ∃ key, idempotencyKeyOf payload = .ok key ∧
    read.idempotencyKey = buildPaymentCallbackIdempotencyKey key (some read.merchTxnId)
  payment : db.paymentByMerchTxnId? read.merchTxnId = some read.payment
  existing : read.existing = existingCallback db read.idempotencyKey read.merchTxnId

/-- A callback that is read found its payment, and no stored callback of its key. -/
theorem readCallback_inr {ctx : Context} {payload : Fields} {db db' : Db} {read : CallbackRead}
    (h : readCallback ctx payload db = (db', .ok (.inr read))) :
    CallbackReadFrom ctx payload db read := by
  unfold readCallback at h
  dsimp only at h
  cases hParsed : parseCallbackPayload ctx.gateway payload with
  | error failure =>
      rw [hParsed] at h
      cases failure <;> simp [early] at h
  | ok parsed =>
      rw [hParsed] at h
      cases hKey : idempotencyKeyOf payload with
      | error error => simp [hKey] at h
      | ok key =>
          simp only [hKey] at h
          cases hMerch : parsed.merchTxnId.filter (· ≠ "") with
          | none =>
              simp only [hMerch, early] at h
              cases h
          | some merchTxnId =>
              have hSome : parsed.merchTxnId = some merchTxnId :=
                (Option.filter_eq_some_iff.mp hMerch).1
              simp only [hMerch] at h
              cases hPayment : (db.log (webhookReceived ctx.gateway payload)).paymentByMerchTxnId?
                  merchTxnId with
              | none =>
                  simp only [hPayment, early] at h
                  cases h
              | some payment =>
                  simp only [hPayment, Prod.mk.injEq, Except.ok.injEq, Sum.inr.injEq] at h
                  obtain ⟨_, hRead⟩ := h
                  subst hRead
                  exact ⟨⟨parsed, hParsed, hSome, rfl, rfl, rfl⟩, ⟨key, hKey, by rw [hSome]⟩,
                    hPayment, rfl⟩

end PropertyTax
