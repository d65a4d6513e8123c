import PropertyTax.Auth
import PropertyTax.Payments.Rules
import PropertyTax.Store

/-! `refund`, as the steps other calls can come between: the read with its
checks, the call of the gateway, the refund row, and the payment update. -/
namespace PropertyTax
open KeyedTable

structure RefundResult where
  statusCode : String
  success : Bool
  gatewayRefundId : Option String
  raw : Json

/-- The sandbox provider accepts every refund. -/
def sandboxRefund (merchTxnId : String) : RefundResult where
  statusCode := "OTS0000"
  success := true
  gatewayRefundId := some ("RFD-" ++ merchTxnId)
  raw := .obj [("provider", .str "sandbox")]

/-- What a refund carries from its read to its writes. -/
structure RefundRead where
  payment : Payment
  refundable : ℚ
  amount : ℚ

/-- The balance left to refund, in paise. -/
def Payment.refundable (p : Payment) : Money := p.refundableAmount.getD p.amount

def refundRead (user : AuthUser) (paymentId : Id) (amount : ℚ) (db : Db) :
    Except ApiError RefundRead :=
  match db.payments.find? paymentId with
  | none => .error (.notFound none "Payment not found")
  | some payment =>
      match assertPaymentAccess user payment.collectedById .refund with
      | .error error => .error error
      | .ok () =>
          if payment.status ≠ .success then
            .error (.badRequest none "Only successful payments can be refunded")
          else if Js.isBlank (payment.atomTxnId.getD "") then
            .error (.badRequest (some "ATOM_TXN_REQUIRED")
              "Gateway transaction id is required before refund")
          else
            let refundable := toMoney payment.refundable
            if amount > refundable then
              .error (.badRequest none "Refund amount exceeds refundable balance")
            else .ok { payment, refundable, amount }

/-- The row of a refund, under a reference drawn from the clock. -/
def refundRow (read : RefundRead) (reason : Option String) (user : AuthUser)
    (gateway : RefundResult) (now : Timestamp) (id : Id) : PaymentRefund where
  id := id
  paymentId := read.payment.id
  refundReference := "RF-" ++ toString now
  amount := toColumn read.amount
  status := if gateway.success then .success else .failed
  gatewayRefundId := gateway.gatewayRefundId
  reason := reason
  rawResponse := some (redactSensitivePaymentPayload gateway.raw)
  createdById := some user.id

def createRefundRow (read : RefundRead) (reason : Option String) (user : AuthUser)
    (gateway : RefundResult) (now : Timestamp) (db : Db) : Except Refusal Db :=
  db.createRefund (refundRow read reason user gateway now)

def RefundRead.remaining (read : RefundRead) : ℚ := read.refundable - read.amount

/-- `data` of the payment update, computed from the balance that was read. -/
def refundedPaymentData (read : RefundRead) (p : Payment) : Payment :=
  { p with
    refundableAmount := some (toColumn read.remaining)
    status := if read.remaining ≤ 0 then .refunded else .partiallyRefunded }

def applyRefund (read : RefundRead) (db : Db) : Except Refusal Db :=
  db.updatePayment read.payment.id (refundedPaymentData read)

/-- The whole call, with the gateway's answer as an input. -/
def refund (user : AuthUser) (paymentId : Id) (amount : ℚ) (reason : Option String)
    (reply : Option RefundResult) (now : Timestamp) (db : Db) : Reply Id :=
  match refundRead user paymentId amount db with
  | .error error => (db, .error error)
  | .ok read =>
      match reply with
      | none => (db, .error .gateway)
      | some gateway =>
          match createRefundRow read reason user gateway now db with
          | .error refusal => (db, .error (.database refusal))
          | .ok created =>
              if !canApplyRefundToPayment gateway.success then (created, .ok db.nextId)
              else
                match applyRefund read created with
                | .error refusal => (created, .error (.database refusal))
                | .ok after => (after, .ok db.nextId)

/-! ### What the steps of a refund change -/

section Steps
variable {user : AuthUser} {paymentId : Id} {amount : ℚ} {db db' : Db} {read : RefundRead}

/-- A refund goes ahead only on a stored success, within the balance it read. -/
theorem refundRead_ok (h : refundRead user paymentId amount db = .ok read) :
    read.payment ∈ db.payments.rows ∧ read.payment.id = paymentId ∧
      read.payment.status = .success ∧ read.refundable = toMoney read.payment.refundable ∧
      read.amount = amount ∧ amount ≤ read.refundable := by
  unfold refundRead at h
  cases hFound : db.payments.find? paymentId with
  | none => simp [hFound] at h
  | some payment =>
      simp only [hFound] at h
      obtain ⟨hMem, hId⟩ := find?_eq_some_iff.mp hFound
      cases hAccess : assertPaymentAccess user payment.collectedById .refund with
      | error error => simp [hAccess] at h
      | ok _ =>
          simp only [hAccess] at h
          split_ifs at h with hStatus hAtom hAmount
          cases h
          exact ⟨hMem, hId, not_not.mp hStatus, rfl, rfl, not_lt.mp hAmount⟩

/-- The refund is recorded with an id drawn for it. -/
theorem createRefundRow_ok {reason : Option String} {gateway : RefundResult} {now : Timestamp}
    (h : createRefundRow read reason user gateway now db = .ok db') :
    ∃ refunds, Added db.refunds refunds (refundRow read reason user gateway now db.nextId) ∧
      db' = { db with refunds, nextId := db.nextId + 1 } := Db.createRefund_ok h

/-- The refunded payment is rewritten in its place. -/
theorem applyRefund_ok (h : applyRefund read db = .ok db') :
    ∃ p payments, p.id = read.payment.id ∧
      Replaced db.payments payments p (refundedPaymentData read p) ∧
      db' = { db with payments } := Db.updatePayment_ok h fun _ => rfl

/-- The update of a stored payment cannot be refused: it touches no unique
column. -/
theorem applyRefund_isOk {q : Payment}
    (hq : q ∈ db.payments.rows) (hId : q.id = read.payment.id) :
    ∃ after, applyRefund read db = .ok after := by
  obtain ⟨payments, hUpdate⟩ := update_isOk (f := refundedPaymentData read) hq hId
    fun r hr hne => by
      have hSame : KeyedRow.clash r (refundedPaymentData read q) = KeyedRow.clash r q := rfl
      by_contra hClash
      exact hne (eq_of_clash hr hq (Bool.eq_true_of_not_eq_false (hSame ▸ hClash)))
  exact ⟨_, by rw [applyRefund, Db.updatePayment, hUpdate]; rfl⟩

/-- A refund that gets as far as its row adds it, and updates the payment only
after the gateway accepted it. -/
theorem refund_cases (user : AuthUser) (paymentId : Id) (amount : ℚ) (reason : Option String)
    (reply : Option RefundResult) (now : Timestamp) (db : Db) :
    (refund user paymentId amount reason reply now db).1 = db ∨
    ∃ read gateway refunds, refundRead user paymentId amount db = .ok read ∧
      reply = some gateway ∧
      Added db.refunds refunds (refundRow read reason user gateway now db.nextId) ∧
      ((refund user paymentId amount reason reply now db).1 =
          { db with refunds, nextId := db.nextId + 1 } ∨
        gateway.success = true ∧ ∃ p payments, p.id = read.payment.id ∧
          Replaced db.payments payments p (refundedPaymentData read p) ∧
          (refund user paymentId amount reason reply now db).1 =
            { db with refunds, payments, nextId := db.nextId + 1 }) := by
  unfold refund
  cases hRead : refundRead user paymentId amount db with
  | error error => exact .inl rfl
  | ok read =>
      cases reply with
      | none => exact .inl rfl
      | some gateway =>
          dsimp only
          cases hCreate : createRefundRow read reason user gateway now db with
          | error refusal => exact .inl rfl
          | ok created =>
              obtain ⟨refunds, hAdded, rfl⟩ := createRefundRow_ok hCreate
              refine .inr ⟨read, gateway, refunds, rfl, rfl, hAdded, ?_⟩
              cases hSuccess : gateway.success with
              | false => exact .inl (by simp [canApplyRefundToPayment])
              | true =>
                  simp only [canApplyRefundToPayment, Bool.not_true, Bool.false_eq_true,
                    ↓reduceIte]
                  cases hApply : applyRefund read
                      { db with refunds, nextId := db.nextId + 1 } with
                  | error refusal => exact .inl rfl
                  | ok after =>
                      obtain ⟨p, payments, hId, hReplaced, rfl⟩ := applyRefund_ok hApply
                      exact .inr ⟨trivial, p, payments, hId, hReplaced, rfl⟩

/-- A refund that the gateway and the service accept adds its row and lowers the
balance of the payment it has read. -/
theorem refund_ok {reason : Option String} {gateway : RefundResult} {now : Timestamp} {id : Id}
    (h : refund user paymentId amount reason (some gateway) now db = (db', .ok id))
    (hSuccess : gateway.success = true) :
    ∃ read refunds payments, refundRead user paymentId amount db = .ok read ∧ id = db.nextId ∧
      Added db.refunds refunds (refundRow read reason user gateway now db.nextId) ∧
      Replaced db.payments payments read.payment (refundedPaymentData read read.payment) ∧
      db' = { db with refunds, payments, nextId := db.nextId + 1 } := by
  unfold refund at h
  cases hRead : refundRead user paymentId amount db with
  | error error =>
      rw [hRead] at h
      cases h
  | ok read =>
      rw [hRead] at h
      dsimp only at h
      cases hCreate : createRefundRow read reason user gateway now db with
      | error refusal =>
          rw [hCreate] at h
          cases h
      | ok created =>
          obtain ⟨refunds, hAdded, rfl⟩ := createRefundRow_ok hCreate
          rw [hCreate] at h
          simp only [canApplyRefundToPayment, hSuccess, Bool.not_true, Bool.false_eq_true,
            ↓reduceIte] at h
          cases hApply : applyRefund read { db with refunds, nextId := db.nextId + 1 } with
          | error refusal =>
              rw [hApply] at h
              cases h
          | ok after =>
              obtain ⟨p, payments, hId, hReplaced, rfl⟩ := applyRefund_ok hApply
              rw [hApply] at h
              cases h
              obtain rfl : p = read.payment :=
                eq_of_key hReplaced.mem_old (refundRead_ok hRead).1 hId
              exact ⟨read, refunds, payments, rfl, rfl, hAdded, hReplaced, rfl⟩

/-- A refund of a successful payment within its balance goes through, if the
clock gives it a reference of its own. -/
theorem refund_isOk {payment : Payment} {gateway : RefundResult} {now : Timestamp}
    (reason : Option String) (hFound : db.payments.find? paymentId = some payment)
    (hAccess : assertPaymentAccess user payment.collectedById .refund = .ok ())
    (hStatus : payment.status = .success)
    (hAtom : Js.isBlank (payment.atomTxnId.getD "") = false)
    (hAmount : amount ≤ toMoney payment.refundable)
    (hFresh : ∀ r ∈ db.refunds.rows, r.id ≠ db.nextId ∧
      r.refundReference ≠ "RF-" ++ toString now)
    (hSuccess : gateway.success = true) :
    ∃ db', refund user paymentId amount reason (some gateway) now db =
      (db', .ok db.nextId) := by
  obtain ⟨hMem, hId⟩ := find?_eq_some_iff.mp hFound
  obtain ⟨read, hRead, hReadId⟩ : ∃ read, refundRead user paymentId amount db = .ok read ∧
      read.payment = payment := by
    refine ⟨⟨payment, toMoney payment.refundable, amount⟩, ?_, rfl⟩
    rw [refundRead, hFound]
    simp [hAccess, hStatus, hAtom, not_lt.mpr hAmount]
  obtain ⟨refunds, hInsert⟩ : ∃ refunds, db.refunds.insert
      (refundRow read reason user gateway now db.nextId) = .ok refunds := by
    refine insert_isOk_iff.mpr fun r hr => ?_
    have hReference := (hFresh r hr).2
    simpa [KeyedRow.clash, refundRow, (hFresh r hr).1] using hReference
  have hCreate : createRefundRow read reason user gateway now db =
      .ok { db with refunds, nextId := db.nextId + 1 } := by
    rw [createRefundRow, Db.createRefund, hInsert]
    rfl
  obtain ⟨after, hApply⟩ :
      ∃ after, applyRefund read { db with refunds, nextId := db.nextId + 1 } = .ok after :=
    applyRefund_isOk hMem (by rw [hReadId])
  refine ⟨after, ?_⟩
  simp only [refund, hRead, hCreate, canApplyRefundToPayment, hSuccess, hApply]
  rfl

end Steps
end PropertyTax
