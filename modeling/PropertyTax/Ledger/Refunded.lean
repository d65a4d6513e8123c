import PropertyTax.Ledger.Operation

/-! What becomes of a refunded payment. Only a processed callback row, the
REFUNDED check of the sync and the SUCCESS check of the refund stand between a
refund and the calls that follow it. -/
namespace PropertyTax
open KeyedTable Runs

def PaymentStatus.IsRefunded (status : PaymentStatus) : Prop :=
  status = .refunded ∨ status = .partiallyRefunded

theorem PaymentStatus.IsRefunded.ne_success {status : PaymentStatus} (h : status.IsRefunded) :
    status ≠ .success := by
  rintro rfl
  rcases h with h | h <;> cases h

/-- The call is a delivery or a refund of this payment. -/
def Call.Concerns (call : Call) (p : Payment) : Prop :=
  match call.operation with
  | .deliver delivery => Attempt.Concerns ⟨call.ctx, delivery⟩ p.id p.merchTxnId
  | .gatewayReturn payload => Attempt.Concerns ⟨call.ctx, .callback payload⟩ p.id p.merchTxnId
  | .refund _ paymentId _ _ _ => paymentId = p.id
  | _ => False

/-- The delivery has nothing to tell a refunded payment: a callback is a
duplicate, is off in its amount or knows no status, and the gateway reports no
success to a requery, nor to a sync that asks it. -/
def Delivery.SparesRefund (ctx : Context) (db : Db) : Delivery → Prop
  | .callback payload => ∀ read, CallbackReadFrom ctx payload db read →
      read.duplicateOf ≠ none ∨ read.amountMismatch ctx.gateway.name = true ∨
        read.statusCode = "UNKNOWN"
  | .requery _ _ reply => ∀ result, reply = some result → result.success = false
  | .sync merchTxnId reply =>
      (∀ p, db.paymentByMerchTxnId? merchTxnId = some p → p.status = .refunded) ∨
        ∀ result, reply = some result → result.success = false

def Call.SparesRefund (db : Db) (call : Call) : Prop :=
  match call.operation with
  | .deliver delivery => delivery.SparesRefund call.ctx db
  | .gatewayReturn payload => (Delivery.callback payload).SparesRefund call.ctx db
  | _ => True

/-! ### Deliveries -/

/-- Where no reply reports a success, there is none. -/
theorem success_of_noSuccess {reply : Option RequeryResult}
    (h : ∀ result, reply = some result → result.success = false) :
    (reply.map RequeryResult.success).getD false = false := by
  cases reply with
  | none => rfl
  | some result => exact h result rfl

/-- A delivery that spares the refund and still gets through writes back the
status it read. -/
theorem status_of_spares {ctx : Context} {delivery : Delivery} {db after : Db}
    {read : DeliveryRead} (hSpares : delivery.SparesRefund ctx db)
    (hBegin : beginDelivery ctx delivery db = (.entered read, after))
    (hProceeds : read.proceeds ctx.gateway.name = true)
    (hStatus : read.payment.status.IsRefunded) :
    read.success = false ∧ read.status = read.payment.status := by
  cases delivery with
  | callback payload =>
      unfold beginDelivery at hBegin
      rcases hRead : readCallback ctx payload db with ⟨after', _ | outcome | callback⟩
      · simp [hRead] at hBegin
      · simp [hRead] at hBegin
      · simp only [hRead, Prod.mk.injEq, Progress.entered.injEq] at hBegin
        obtain ⟨rfl, _⟩ := hBegin
        have hUnknown : callback.statusCode = "UNKNOWN" := by
          simp only [DeliveryRead.proceeds, Bool.and_eq_true, Option.isNone_iff_eq_none,
            Bool.not_eq_true'] at hProceeds
          rcases hSpares callback (readCallback_inr hRead) with hDuplicate | hMismatch | hCode
          · exact absurd hProceeds.1 hDuplicate
          · rw [hProceeds.2] at hMismatch
            cases hMismatch
          · exact hCode
        have hFailure : callback.success = false := by
          rw [CallbackRead.success, hUnknown]
          decide
        have hOld : callback.payment.status ≠ .success := hStatus.ne_success
        refine ⟨hFailure, ?_⟩
        simp [DeliveryRead.status, DeliveryRead.payment, CallbackRead.effectiveStatus,
          CallbackRead.nextStatus, hFailure, hUnknown, hOld]
  | requery user paymentId reply =>
      unfold beginDelivery at hBegin
      cases hRead : requeryRead user paymentId db with
      | error error => simp [hRead] at hBegin
      | ok payment =>
          simp only [hRead, Prod.mk.injEq, Progress.entered.injEq] at hBegin
          obtain ⟨rfl, _⟩ := hBegin
          have hFailure := success_of_noSuccess hSpares
          exact ⟨hFailure, by simp [DeliveryRead.status, DeliveryRead.payment, hFailure]⟩
  | sync merchTxnId reply =>
      unfold beginDelivery at hBegin
      cases hRead : syncRead merchTxnId db with
      | error error => simp [hRead] at hBegin
      | ok payment =>
          simp only [hRead, Prod.mk.injEq, Progress.entered.injEq] at hBegin
          obtain ⟨rfl, _⟩ := hBegin
          rcases hSpares with hRefunded | hNone
          · -- A refunded payment is answered as it is stored.
            unfold syncRead at hRead
            cases hFound : db.paymentByMerchTxnId? merchTxnId with
            | none => simp [hFound] at hRead
            | some p =>
                simp only [hFound] at hRead
                split_ifs at hRead
                cases hRead
                simp [DeliveryRead.proceeds, syncAnswersAsStored, hRefunded _ hFound] at hProceeds
          · have hFailure := success_of_noSuccess hNone
            exact ⟨hFailure, by simp [DeliveryRead.status, DeliveryRead.payment, hFailure]⟩

/-! ### Runs -/

/-- The payment is stored with the status it had, and no demand has changed. -/
structure StaysRefunded (db₀ : Db) (p : Payment) (db : Db) : Prop where
  stored : ∃ q ∈ db.payments.rows, q.id = p.id ∧ q.merchTxnId = p.merchTxnId ∧
    q.status = p.status
  demands : db.demands = db₀.demands

section Steps
variable {db₀ db : Db} {p : Payment}

theorem StaysRefunded.same {db' : Db} (h : StaysRefunded db₀ p db) (hSame : SameLedger db db') :
    StaysRefunded db₀ p db' :=
  ⟨hSame.payments ▸ h.stored, hSame.demands.trans h.demands⟩

/-- A delivery that spares the refund leaves the payment refunded. -/
theorem StaysRefunded.deliver {ctx : Context} {delivery : Delivery}
    (hStatus : p.status.IsRefunded) (h : StaysRefunded db₀ p db)
    (hConcerns : Attempt.Concerns ⟨ctx, delivery⟩ p.id p.merchTxnId)
    (hSpares : delivery.SparesRefund ctx db) :
    StaysRefunded db₀ p (deliverWhole ctx delivery db) := by
  obtain ⟨q, hq, hId, hMerch, hSameStatus⟩ := h.stored
  rcases deliverWhole_cases ctx delivery db with
    hSame | ⟨read, _, ⟨entered, hBegin, _⟩, _, hProceeds, hSettled⟩
  · exact h.same hSame
  · have hRead : read.payment = q := by
      have hq' : Attempt.Concerns ⟨ctx, delivery⟩ q.id q.merchTxnId := by
        rw [hId, hMerch]
        exact hConcerns
      rcases (beginDelivery_cases hq' hq).2 with hDone | ⟨read', hEntered, hPayment, _⟩
      · rw [hBegin] at hDone
        cases hDone
      · rw [hBegin] at hEntered
        cases hEntered
        exact hPayment
    obtain ⟨hFailure, hWritten⟩ := status_of_spares hSpares hBegin hProceeds (by
      rw [hRead, hSameStatus]
      exact hStatus)
    cases hSettled with
    | credited _ _ _ hCredits =>
        rw [(DeliveryRead.credits_iff read).mp hCredits |>.1] at hFailure
        cases hFailure
    | uncredited old new _ hPayment hOldId hSame hNewStatus _ _ hDemands =>
        have hOld : old = q := eq_of_key hPayment.mem_old hq (hOldId.trans (congrArg _ hRead))
        subst hOld
        refine ⟨⟨new, hPayment.mem_new, hSame.id.trans hId, hSame.merchTxnId.trans hMerch, ?_⟩,
          hDemands.trans h.demands⟩
        rw [hNewStatus, hWritten, hRead, hSameStatus]

/-- A refund of a payment that is not a success is refused. -/
theorem refund_of_refunded {user : AuthUser} {amount : ℚ} {reason : Option String}
    {reply : Option RefundResult} {now : Timestamp} (hStatus : p.status.IsRefunded)
    (h : StaysRefunded db₀ p db) : (refund user p.id amount reason reply now db).1 = db := by
  obtain ⟨q, hq, hId, _, hSameStatus⟩ := h.stored
  unfold refund
  cases hRead : refundRead user p.id amount db with
  | error error => rfl
  | ok read =>
      obtain ⟨hMem, hReadId, hSuccess, _⟩ := refundRead_ok hRead
      have hSame : read.payment = q := eq_of_key hMem hq (hReadId.trans hId.symm)
      rw [hSame, hSameStatus] at hSuccess
      exact absurd hSuccess hStatus.ne_success

theorem StaysRefunded.step {call : Call} (hStatus : p.status.IsRefunded)
    (h : StaysRefunded db₀ p db) (hConcerns : call.Concerns p) (hSpares : call.SparesRefund db) :
    StaysRefunded db₀ p (perform db call) := by
  obtain ⟨ctx, operation⟩ := call
  cases operation with
  | deliver delivery =>
      change StaysRefunded db₀ p (delivery.perform ctx db)
      rw [delivery.perform_eq]
      exact h.deliver hStatus hConcerns hSpares
  | gatewayReturn payload =>
      change StaysRefunded db₀ p (handleGatewayReturn ctx payload db).1
      rw [handleGatewayReturn_db]
      exact h.deliver hStatus hConcerns hSpares
  | refund user paymentId amount reason reply =>
      have hPayment : paymentId = p.id := hConcerns
      change StaysRefunded db₀ p (refund user paymentId amount reason reply ctx.now db).1
      rw [hPayment, refund_of_refunded hStatus h]
      exact h
  | _ => exact hConcerns.elim

end Steps

/-- A refunded payment stays as it is, and its demand uncredited, in every run of
calls that have nothing to tell it. -/
theorem refunded_of_run {db : Db} {p : Payment} (hp : p ∈ db.payments.rows)
    (hStatus : p.status.IsRefunded) {calls : List Call}
    (hConcerns : ∀ call ∈ calls, call.Concerns p)
    (hAlong : Along perform (fun db call => call.SparesRefund db) db calls) :
    (∃ q ∈ (run perform db calls).payments.rows, q.id = p.id ∧ q.status.IsRefunded) ∧
      (run perform db calls).demands = db.demands := by
  have hAll := (along_of_forall (fun call => call.Concerns p) hConcerns).and hAlong
  have hStays := run_invariant_along (StaysRefunded db p)
    (fun _ _ h hGuard => h.step hStatus hGuard.1 hGuard.2)
    ⟨⟨p, hp, rfl, rfl, rfl⟩, rfl⟩ hAll
  obtain ⟨q, hq, hId, _, hSame⟩ := hStays.stored
  exact ⟨⟨q, hq, hId, hSame ▸ hStatus⟩, hStays.demands⟩

namespace Sample

/-- The sample payment is confirmed by a requery and refunded. -/
def refundedDb : Db :=
  run perform db
    [⟨context, .deliver (.requery administrator 2 (some (sandboxRequery "CHH-1-a")))⟩,
      ⟨context, .refund administrator 2 400 none (some (sandboxRefund "CHH-1-a"))⟩]

def refundedPayment : Payment := (refundedDb.payments.find? 2).getD payment

/-- The gateway does not know the transaction any more. -/
def unknownReply : RequeryResult := ⟨"UNKNOWN", false, none, .null⟩

end Sample

/-- A requery without success leaves a refunded payment refunded. -/
theorem refunded_of_unsuccessful_requery :
    (∃ q ∈ (run perform Sample.refundedDb [⟨Sample.context,
        .deliver (.requery Sample.administrator 2 (some Sample.unknownReply))⟩]).payments.rows,
      q.id = Sample.refundedPayment.id ∧ q.status.IsRefunded) ∧
    (run perform Sample.refundedDb [⟨Sample.context,
        .deliver (.requery Sample.administrator 2 (some Sample.unknownReply))⟩]).demands =
      Sample.refundedDb.demands := by
  refine refunded_of_run (p := Sample.refundedPayment) (by decide +kernel)
    (Or.inl (by decide +kernel)) ?_ ⟨?_, trivial⟩
  · intro call hCall
    rw [List.mem_singleton.mp hCall]
    change (2 : Id) = Sample.refundedPayment.id
    decide +kernel
  · intro result hResult
    rw [← Option.some.inj hResult]
    rfl

/-- A requery of the refunded payment makes it a success again. -/
theorem requery_undoes_refund :
    Sample.refundedPayment ∈ Sample.refundedDb.payments.rows ∧
      Sample.refundedPayment.status = .refunded ∧
      (run perform Sample.refundedDb [⟨Sample.context, .deliver (.requery Sample.administrator 2
        (some (sandboxRequery "CHH-1-a")))⟩]).payments.rows.map Payment.status = [.success] := by
  decide +kernel

end PropertyTax
