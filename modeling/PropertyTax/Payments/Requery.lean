import PropertyTax.Auth
import PropertyTax.Payments.Callback

/-! `requery` and `syncCitizenPaymentByMerchTxnId`: ask the gateway for the
status of a payment that was read, and finish from its reply. A reply is an
input of the call, `none` where the gateway throws. -/
namespace PropertyTax
open KeyedTable

structure RequeryResult where
  statusCode : String
  success : Bool
  atomTxnId : Option String
  raw : Json

/-- The sandbox provider reports success for every payment. -/
def sandboxRequery (merchTxnId : String) : RequeryResult where
  statusCode := "OTS0000"
  success := true
  atomTxnId := some ("SANDBOX-" ++ merchTxnId)
  raw := .obj [("provider", .str "sandbox"), ("merchTxnId", .str merchTxnId)]

/-- The live provider, from the reply that it decoded. -/
def atomRequery (decoded : Json) : RequeryResult :=
  let fields := extractAtomTxnFields decoded
  { statusCode := fields.statusCode
    success := fields.statusCode == "OTS0000" || fields.statusCode == "SUCCESS" ||
      fields.message == some "SUCCESS"
    atomTxnId := fields.atomTxnId
    raw := decoded }

structure FinalizeOptions where
  success : Bool
  atomTxnId : Option String
  keepPendingWhenUnsuccessful : Bool

/-- First success, decided from the payment that was read. -/
def requeryFirstSuccess (payment : Payment) : Bool :=
  payment.status ≠ .success && payment.receiptSnapshot.isNone

def unsuccessfulStatus (payment : Payment) (opts : FinalizeOptions) : PaymentStatus :=
  if opts.keepPendingWhenUnsuccessful then
    if payment.status = .pending then .pending else payment.status
  else payment.status

/-- `data` of the update after a success. -/
def requeryPaymentData (payment : Payment) (opts : FinalizeOptions) (receiptNumber : String)
    (collectionDate : Timestamp) (extras : Option DemandExtras) (p : Payment) : Payment :=
  let p := { p with status := .success, atomTxnId := opts.atomTxnId.or payment.atomTxnId }
  let p :=
    if hasReceiptNumber payment then p
    else { p with receiptNumber := some receiptNumber, collectionDate := some collectionDate }
  p.withExtras extras

def requeryTransaction (ctx : Context) (payment : Payment) (opts : FinalizeOptions) (db : Db) :
    Except Refusal (Db × Option Payment) := do
  let receiptNumber := receiptNumberOf payment
  let collectionDate := payment.collectionDate.getD ctx.now
  let (db, demandExtras) ←
    demandExtrasOn (requeryFirstSuccess payment) ctx payment receiptNumber collectionDate db
  let db ← db.updatePayment payment.id
    (requeryPaymentData payment opts receiptNumber collectionDate demandExtras)
  return (db, db.payments.find? payment.id)

def finalizeRequerySuccess (ctx : Context) (payment : Payment) (opts : FinalizeOptions)
    (db : Db) : Reply (Option Payment) :=
  if !opts.success then
    commit db ((db.updatePayment payment.id fun p => { p with
      status := unsuccessfulStatus payment opts
      atomTxnId := opts.atomTxnId.or payment.atomTxnId }).map fun after =>
        (after, after.payments.find? payment.id))
  else commit db (requeryTransaction ctx payment opts db)

def requeryTransactionRow (payment : Payment) (result : RequeryResult) : PaymentTransaction where
  paymentId := payment.id
  direction := "requery"
  responsePayload := some result.raw
  statusCode := some result.statusCode

/-! ### Staff requery -/

def requeryRead (user : AuthUser) (paymentId : Id) (db : Db) : Except ApiError Payment :=
  match db.payments.find? paymentId with
  | none => .error (.notFound none "Payment not found")
  | some payment =>
      if payment.merchTxnId.getD "" = "" then .error (.notFound none "Payment not found")
      else (assertPaymentAccess user payment.collectedById .requery).map fun _ => payment

def finishRequery (ctx : Context) (user : AuthUser) (payment : Payment)
    (reply : Option RequeryResult) (db : Db) : Reply (Option Payment × RequeryResult) :=
  match reply with
  | none => (db, .error .gateway)
  | some result =>
      let opts : FinalizeOptions :=
        { success := result.success, atomTxnId := result.atomTxnId,
          keepPendingWhenUnsuccessful := false }
      match finalizeRequerySuccess ctx payment opts
          (db.addTransaction (requeryTransactionRow payment result)) with
      | (db, .error error) => (db, .error error)
      | (db, .ok updated) =>
          let entry : AuditEntry :=
            { action := "PAYMENT_REQUERY"
              entity := "Payment"
              entityId := some (toString payment.id)
              actorId := some user.id
              newValue := some (.obj [("statusCode", .str result.statusCode)]) }
          (db.log entry, .ok (updated, result))

def requery (ctx : Context) (user : AuthUser) (paymentId : Id) (reply : Option RequeryResult)
    (db : Db) : Reply (Option Payment × RequeryResult) :=
  match requeryRead user paymentId db with
  | .error error => (db, .error error)
  | .ok payment => finishRequery ctx user payment reply db

/-! ### Citizen sync -/

def syncRead (merchTxnId : String) (db : Db) : Except ApiError Payment :=
  match db.paymentByMerchTxnId? merchTxnId with
  | none => .error (.notFound (some "PAYMENT_NOT_FOUND") "Payment was not found")
  | some payment =>
      if payment.merchTxnId.getD "" = "" then
        .error (.notFound (some "PAYMENT_NOT_FOUND") "Payment was not found")
      else .ok payment

/-- Statuses for which the gateway is not asked again. -/
def syncAnswersAsStored (status : PaymentStatus) : Bool :=
  status = .success ∨ status = .failed ∨ status = .refunded

def finishSync (ctx : Context) (payment : Payment) (reply : Option RequeryResult) (db : Db) :
    Reply (Option Payment) :=
  if syncAnswersAsStored payment.status then (db, .ok (some payment))
  else
    match reply with
    | none => (db, .error .gateway)
    | some result =>
        finalizeRequerySuccess ctx payment
          { success := result.success, atomTxnId := result.atomTxnId,
            keepPendingWhenUnsuccessful := true }
          (db.addTransaction (requeryTransactionRow payment result))

def syncCitizenPaymentByMerchTxnId (ctx : Context) (merchTxnId : String)
    (reply : Option RequeryResult) (db : Db) : Reply (Option Payment) :=
  match syncRead merchTxnId db with
  | .error error => (db, .error error)
  | .ok payment => finishSync ctx payment reply db

/-! ### What a requery changes -/

/-- A requery leaves what a payment is for. -/
theorem requeryPaymentData_same (payment : Payment) (opts : FinalizeOptions)
    (receiptNumber : String) (collectionDate : Timestamp) (extras : Option DemandExtras)
    (p : Payment) :
    SamePurpose p (requeryPaymentData payment opts receiptNumber collectionDate extras p) := by
  unfold requeryPaymentData
  cases extras <;> split_ifs <;> exact ⟨rfl, rfl, rfl, rfl, rfl, rfl⟩

/-- A requery settles its payment as a success. -/
theorem requeryTransaction_settled {ctx : Context} {payment : Payment} {opts : FinalizeOptions}
    {db db' : Db} {answer : Option Payment}
    (h : requeryTransaction ctx payment opts db = .ok (db', answer)) :
    Settled payment .success (requeryFirstSuccess payment) db db' := by
  unfold requeryTransaction at h
  obtain ⟨⟨db₁, extras⟩, hCredit, h⟩ := bind_ok h
  obtain ⟨db₂, hPayment, h⟩ := bind_ok h
  cases h
  obtain ⟨p, payments, hId, hReplaced, rfl⟩ := Db.updatePayment_ok hPayment fun p =>
    (requeryPaymentData_same payment opts _ _ extras p).id
  have hSame := requeryPaymentData_same payment opts (receiptNumberOf payment)
    (payment.collectionDate.getD ctx.now) extras p
  have hStatus : (requeryPaymentData payment opts (receiptNumberOf payment)
      (payment.collectionDate.getD ctx.now) extras p).status = .success := by
    unfold requeryPaymentData
    cases extras <;> split_ifs <;> rfl
  rcases demandExtrasOn_ok hCredit with
    ⟨hNone, rfl, rfl⟩ | ⟨d, demands, snapshot, hFirst, hTarget, hDemand, rfl, rfl⟩
  · refine .uncredited p _ hNone hReplaced hId hSame hStatus ?_ ?_ rfl rfl rfl
    · unfold requeryPaymentData
      split_ifs <;> rfl
    · unfold requeryPaymentData
      split_ifs <;> rfl
  · refine .credited p _ d hFirst hTarget hReplaced hId hSame hStatus rfl ?_ hDemand rfl rfl
    simp [requeryPaymentData, Payment.withExtras]

/-- Status a finalized requery writes, from the payment that was read. -/
def finalizedStatus (payment : Payment) (opts : FinalizeOptions) : PaymentStatus :=
  if opts.success then .success else payment.status

/-- A reply that is no success leaves the status there was. -/
theorem unsuccessfulStatus_eq (payment : Payment) (opts : FinalizeOptions) :
    unsuccessfulStatus payment opts = payment.status := by
  unfold unsuccessfulStatus
  split_ifs with _ hPending
  · exact hPending.symm
  · rfl
  · rfl

/-- A requery refused by the database changes nothing; any other settles the
payment that was read, and credits it only on a first success. -/
theorem finalizeRequerySuccess_cases (ctx : Context) (payment : Payment)
    (opts : FinalizeOptions) (db : Db) :
    ((finalizeRequerySuccess ctx payment opts db).1 = db ∧
      ∃ error, (finalizeRequerySuccess ctx payment opts db).2 = .error error) ∨
    ((∃ answer, (finalizeRequerySuccess ctx payment opts db).2 = .ok answer) ∧
      Settled payment (finalizedStatus payment opts)
        (opts.success && requeryFirstSuccess payment) db
        (finalizeRequerySuccess ctx payment opts db).1) := by
  unfold finalizeRequerySuccess finalizedStatus
  cases hSuccess : opts.success with
  | true =>
      cases hBody : requeryTransaction ctx payment opts db with
      | error refusal => exact Or.inl ⟨rfl, _, rfl⟩
      | ok result =>
          obtain ⟨after, answer⟩ := result
          exact Or.inr ⟨⟨answer, rfl⟩, requeryTransaction_settled hBody⟩
  | false =>
      cases hUpdate : db.updatePayment payment.id fun p => { p with
          status := unsuccessfulStatus payment opts
          atomTxnId := opts.atomTxnId.or payment.atomTxnId } with
      | error refusal =>
          simp only [Except.map, commit]
          exact Or.inl ⟨rfl, _, rfl⟩
      | ok after =>
          obtain ⟨p, payments, hId, hReplaced, rfl⟩ := Db.updatePayment_ok hUpdate fun _ => rfl
          simp only [Except.map, commit]
          refine Or.inr ⟨⟨_, rfl⟩, ?_⟩
          exact .uncredited p _ (.inl rfl) hReplaced hId ⟨rfl, rfl, rfl, rfl, rfl, rfl⟩
            (unsuccessfulStatus_eq payment opts) rfl rfl rfl rfl rfl

/-- The same, from the database before the gateway's answer was recorded. -/
theorem finalizeRequerySuccess_recorded (ctx : Context) (payment : Payment)
    (opts : FinalizeOptions) (db : Db) (row : PaymentTransaction) :
    (SameLedger db (finalizeRequerySuccess ctx payment opts (db.addTransaction row)).1 ∧
      ∃ error, (finalizeRequerySuccess ctx payment opts (db.addTransaction row)).2 =
        .error error) ∨
    ((∃ answer, (finalizeRequerySuccess ctx payment opts (db.addTransaction row)).2 =
        .ok answer) ∧
      Settled payment (finalizedStatus payment opts)
        (opts.success && requeryFirstSuccess payment) db
        (finalizeRequerySuccess ctx payment opts (db.addTransaction row)).1) := by
  rcases finalizeRequerySuccess_cases ctx payment opts (db.addTransaction row) with
    ⟨hSame, hError⟩ | ⟨hOk, hSettled⟩
  · refine Or.inl ⟨?_, hError⟩
    rw [hSame]
    exact SameLedger.addTransaction db row
  · exact Or.inr ⟨hOk, hSettled.congr (SameLedger.addTransaction db row) (SameLedger.refl _)⟩

end PropertyTax
