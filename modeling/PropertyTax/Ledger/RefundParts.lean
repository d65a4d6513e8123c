import PropertyTax.Concurrency.Refunds

/-! Returning a payment in parts. The balance left after a refund is kept, and a
status is set aside for it, but a refund asks for the status of a payment that
nothing was refunded of: the second part is always refused. -/
namespace PropertyTax
open KeyedTable Runs

/-- One of the refunds a payment is returned by. -/
structure RefundCall where
  part : Money
  reason : Option String
  gateway : RefundResult
  now : Timestamp

def issueRefund (user : AuthUser) (paymentId : Id) (db : Db) (call : RefundCall) : Reply Id :=
  refund user paymentId (toMoney call.part) call.reason (some call.gateway) call.now db

/-- The database after refunds issued one after another. -/
def afterRefunds (user : AuthUser) (paymentId : Id) (db : Db) (calls : List RefundCall) : Db :=
  run (fun db call => (issueRefund user paymentId db call).1) db calls

/-- Every part is accepted, the payment is partially refunded in between, and in
the end it is refunded, with successful refunds that come to its amount. -/
structure RefundedInParts (user : AuthUser) (payment : Payment) (db : Db)
    (calls : List RefundCall) : Prop where
  accepted : ∀ before call after, calls = before ++ call :: after →
    ∃ id, (issueRefund user payment.id (afterRefunds user payment.id db before) call).2 = .ok id
  partly : ∀ before call after, calls = before ++ call :: after → before ≠ [] →
    ∃ p, (afterRefunds user payment.id db before).payments.find? payment.id = some p ∧
      p.status = .partiallyRefunded
  refunded : ∃ p, (afterRefunds user payment.id db calls).payments.find? payment.id = some p ∧
    p.status = .refunded ∧ p.refundableAmount = some 0
  returned : refundedSum (afterRefunds user payment.id db calls).refunds payment.id =
    payment.amount

/-- Nothing of the payment was refunded before. -/
structure NothingRefunded (payment : Payment) (db : Db) : Prop where
  refundable : payment.refundable = payment.amount
  refundedSum : refundedSum db.refunds payment.id = 0

section Parts
variable {user : AuthUser} {payment : Payment} {db : Db}

/-- What an accepted refund leaves. -/
theorem issueRefund_ok {call : RefundCall} {id : Id}
    (hFound : db.payments.find? payment.id = some payment)
    (hSuccess : call.gateway.success = true)
    (h : (issueRefund user payment.id db call).2 = .ok id) :
    ∃ p, (issueRefund user payment.id db call).1.payments.find? payment.id = some p ∧
      p.refundableAmount = some (payment.refundable - call.part) ∧
      p.status = (if payment.refundable - call.part ≤ 0 then .refunded
        else .partiallyRefunded) ∧
      refundedSum (issueRefund user payment.id db call).1.refunds payment.id =
        refundedSum db.refunds payment.id + call.part := by
  obtain ⟨read, refunds, payments, hRead, -, hAdded, hReplaced, hDb⟩ :=
    refund_ok (Prod.ext rfl h) hSuccess
  obtain ⟨hMem, hId, -, hRefundable, hAmount, -⟩ := refundRead_ok hRead
  have hRemaining : read.remaining = toMoney (payment.refundable - call.part) := by
    obtain rfl : read.payment = payment :=
      eq_of_key hMem (find?_eq_some_iff.mp hFound).1 hId
    rw [RefundRead.remaining, hRefundable, hAmount, ← toMoney_sub]
  have hShared : (issueRefund user payment.id db call).1 =
      { db with refunds, payments, nextId := db.nextId + 1 } := hDb
  refine ⟨refundedPaymentData read read.payment, ?_, ?_, ?_, ?_⟩
  · rw [hShared, ← hId]
    exact hReplaced.find?_new
  · rw [refundedPaymentData, hRemaining, toColumn_toMoney]
  · rw [refundedPaymentData, hRemaining, ← toMoney_zero]
    simp only [toMoney_le_iff]
  · rw [hShared, refundedSum_added hAdded]
    simp [refundRow, hId, hAmount, hSuccess]

/-- A payment that something was refunded of is refused a further refund. -/
theorem issueRefund_refused {call : RefundCall} {p : Payment}
    (hFound : db.payments.find? payment.id = some p) (hStatus : p.status ≠ .success) (id : Id) :
    (issueRefund user payment.id db call).2 ≠ .ok id := by
  intro h
  cases hRead : refundRead user payment.id (toMoney call.part) db with
  | error error =>
      rw [issueRefund, refund, hRead] at h
      cases h
  | ok read =>
      obtain ⟨hMem, hId, hReadStatus, -⟩ := refundRead_ok hRead
      obtain ⟨hStored, hKey⟩ := find?_eq_some_iff.mp hFound
      obtain rfl : read.payment = p := eq_of_key hMem hStored (hId.trans hKey.symm)
      exact hStatus hReadStatus

/-- A payment is returned in parts as it should be exactly when there is a single
part, and nothing was refunded before it. -/
theorem refundedInParts_iff {calls : List RefundCall}
    (hFound : db.payments.find? payment.id = some payment)
    (hStatus : payment.status = .success)
    (hAtom : Js.isBlank (payment.atomTxnId.getD "") = false)
    (hAccess : assertPaymentAccess user payment.collectedById .refund = .ok ())
    (hSum : (calls.map RefundCall.part).sum = payment.amount)
    (hGateway : ∀ call ∈ calls, call.gateway.success = true)
    (hFresh : ∀ call ∈ calls, ∀ r ∈ db.refunds.rows, r.id ≠ db.nextId ∧
      r.refundReference ≠ "RF-" ++ toString call.now) :
    RefundedInParts user payment db calls ↔ calls.length = 1 ∧ NothingRefunded payment db := by
  constructor
  · intro h
    cases calls with
    | nil =>
        obtain ⟨p, hp, hRefunded, -⟩ := h.refunded
        obtain rfl : payment = p := Option.some.inj (hFound.symm.trans hp)
        rw [hStatus] at hRefunded
        cases hRefunded
    | cons first rest =>
        obtain ⟨id, hAccepted⟩ := h.accepted [] first rest rfl
        obtain ⟨p, hp, hBalance, hPartly, hReturned⟩ :=
          issueRefund_ok hFound (hGateway first List.mem_cons_self) hAccepted
        cases rest with
        | nil =>
            obtain ⟨q, hq, -, hZero⟩ := h.refunded
            obtain rfl : p = q := Option.some.inj (hp.symm.trans hq)
            have hTotal := h.returned
            have hPart : first.part = payment.amount := by simpa using hSum
            rw [hBalance, Option.some_inj, hPart] at hZero
            change refundedSum (issueRefund user payment.id db first).1.refunds payment.id = _
              at hTotal
            rw [hReturned, hPart] at hTotal
            exact ⟨rfl, sub_eq_zero.mp hZero, by simpa using hTotal⟩
        | cons second rest =>
            obtain ⟨id', hSecond⟩ := h.accepted [first] second rest rfl
            refine absurd hSecond (issueRefund_refused hp ?_ id')
            rw [hPartly]
            split_ifs <;> decide
  · rintro ⟨hLength, hRefundable, hNone⟩
    obtain ⟨call, rfl⟩ := List.length_eq_one_iff.mp hLength
    have hPart : call.part = payment.amount := by simpa using hSum
    have hSuccess := hGateway call List.mem_cons_self
    have hWithin : toMoney call.part ≤ toMoney payment.refundable := by rw [hPart, hRefundable]
    obtain ⟨db', hRefund⟩ := refund_isOk call.reason hFound hAccess hStatus hAtom hWithin
      (hFresh call List.mem_cons_self) hSuccess
    have hAccepted : (issueRefund user payment.id db call).2 = .ok db.nextId :=
      congrArg Prod.snd hRefund
    obtain ⟨p, hp, hBalance, hRefunded, hReturned⟩ := issueRefund_ok hFound hSuccess hAccepted
    have hOnly : ∀ before other after, [call] = before ++ other :: after →
        before = [] ∧ other = call := by
      intro before other after hSplit
      cases before with
      | nil => exact ⟨rfl, (List.cons.inj hSplit).1.symm⟩
      | cons first before => simp at hSplit
    refine ⟨?_, ?_, ⟨p, hp, ?_, ?_⟩, ?_⟩
    · intro before other after hSplit
      obtain ⟨rfl, rfl⟩ := hOnly before other after hSplit
      exact ⟨_, hAccepted⟩
    · intro before other after hSplit hBefore
      exact absurd (hOnly before other after hSplit).1 hBefore
    · rw [hRefunded, hPart, hRefundable]
      simp
    · rw [hBalance, hPart, hRefundable, sub_self]
    · change refundedSum (issueRefund user payment.id db call).1.refunds payment.id = _
      rw [hReturned, hNone, hPart, zero_add]

end Parts

namespace Sample

def refundCall (part : Money) (now : Timestamp) : RefundCall :=
  ⟨part, none, sandboxRefund "CHH-1-a", now⟩

end Sample

/-- Of a payment of 400 rupees the second half is refused. -/
theorem second_part_refused : ¬ ∀ (user : AuthUser) (payment : Payment) (db : Db)
    (calls : List RefundCall), db.payments.find? payment.id = some payment →
    payment.status = .success → Js.isBlank (payment.atomTxnId.getD "") = false →
    assertPaymentAccess user payment.collectedById .refund = .ok () →
    (∀ call ∈ calls, 0 < call.part) → (calls.map RefundCall.part).sum = payment.amount →
    (∀ call ∈ calls, call.gateway.success = true) →
    (∀ call ∈ calls, ∀ r ∈ db.refunds.rows, r.id ≠ db.nextId ∧
      r.refundReference ≠ "RF-" ++ toString call.now) →
    NothingRefunded payment db → RefundedInParts user payment db calls := by
  intro hLaw
  have hParts := hLaw Sample.administrator Sample.paidPayment Sample.paidDb
    [Sample.refundCall 20000 2000, Sample.refundCall 20000 3000] rfl rfl (by decide)
    (by decide) (by decide) (by decide) (by decide)
    (by decide) ⟨by decide, by decide⟩
  obtain ⟨id, hSecond⟩ := hParts.accepted [Sample.refundCall 20000 2000] _ [] rfl
  have hRefused : ((issueRefund Sample.administrator Sample.paidPayment.id
      (afterRefunds Sample.administrator Sample.paidPayment.id Sample.paidDb
        [Sample.refundCall 20000 2000]) (Sample.refundCall 20000 3000)).2.toOption).isNone = true := by
    decide +kernel
  rw [hSecond] at hRefused
  cases hRefused

/-- The whole payment in one part. -/
theorem refundedInParts_iff_whole :
    RefundedInParts Sample.administrator Sample.paidPayment Sample.paidDb
      [Sample.refundCall 40000 2000] :=
  (refundedInParts_iff rfl rfl (by decide) (by decide) (by decide)
    (by decide) (by decide)).mpr
    ⟨rfl, by decide, by decide⟩

end PropertyTax
