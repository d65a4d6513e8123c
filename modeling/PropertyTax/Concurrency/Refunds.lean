import PropertyTax.Library.Runs
import PropertyTax.Payments.Refund
import PropertyTax.Concurrency.Delivery

/-! Overlapping refunds of one payment. Every refund reads the payment, calls
the gateway, creates its row and updates the payment in four separate steps,
and computes the balance it leaves from the payment it read. -/
namespace PropertyTax
open KeyedTable Runs

/-- A call of `refund`, with the answer its gateway will give. -/
structure RefundAttempt where
  user : AuthUser
  amount : ℚ
  reason : Option String
  reply : Option RefundResult
  now : Timestamp

inductive RefundProgress where
  | waiting
  | checked (read : RefundRead)
  | answered (read : RefundRead) (gateway : RefundResult)
  | created (read : RefundRead)
  | finished

variable {Process : Type}

/-- The next step of a refund. -/
def refundStep (attempts : Process → RefundAttempt) (paymentId : Id) (process : Process)
    (progress : RefundProgress) (db : Db) : RefundProgress × Db :=
  let attempt := attempts process
  match progress with
  | .waiting =>
      match refundRead attempt.user paymentId attempt.amount db with
      | .error _ => (.finished, db)
      | .ok read => (.checked read, db)
  | .checked read =>
      match attempt.reply with
      | none => (.finished, db)
      | some gateway => (.answered read gateway, db)
  | .answered read gateway =>
      match createRefundRow read attempt.reason attempt.user gateway attempt.now db with
      | .error _ => (.finished, db)
      | .ok after =>
          if canApplyRefundToPayment gateway.success then (.created read, after)
          else (.finished, after)
  | .created read =>
      match applyRefund read db with
      | .error _ => (.finished, db)
      | .ok after => (.finished, after)
  | .finished => (.finished, db)

def unrefunded (db : Db) : System Process RefundProgress Db :=
  { shared := db, locals := fun _ => .waiting }

/-- A refund that no other comes between is the service's call. -/
theorem refund_uninterrupted [DecidableEq Process] (attempts : Process → RefundAttempt)
    (paymentId : Id) (process : Process) (db : Db) :
    (run (fire (refundStep attempts paymentId)) (unrefunded db)
      [process, process, process, process]).shared =
      (refund (attempts process).user paymentId (attempts process).amount
        (attempts process).reason (attempts process).reply (attempts process).now db).1 := by
  simp only [run_cons, run_nil, fire, unrefunded, Function.update_self, refund]
  cases hRead : refundRead (attempts process).user paymentId (attempts process).amount db with
  | error error => simp only [refundStep, hRead]
  | ok read =>
      cases hReply : (attempts process).reply with
      | none => simp only [refundStep, hRead, hReply]
      | some gateway =>
          cases hCreate : createRefundRow read (attempts process).reason (attempts process).user
              gateway (attempts process).now db with
          | error refusal => simp only [refundStep, hRead, hReply, hCreate]
          | ok created =>
              cases hSuccess : gateway.success with
              | false =>
                  simp [refundStep, hRead, hReply, hCreate, canApplyRefundToPayment, hSuccess]
              | true =>
                  cases hApply : applyRefund read created with
                  | error refusal =>
                      simp [refundStep, hRead, hReply, hCreate, canApplyRefundToPayment, hSuccess,
                        hApply]
                  | ok after =>
                      simp [refundStep, hRead, hReply, hCreate, canApplyRefundToPayment, hSuccess,
                        hApply]

/-- The successful refunds of a payment, in paise. -/
def refundedSum (refunds : KeyedTable PaymentRefund) (paymentId : Id) : Money :=
  refunds.sumWhere (fun r => r.paymentId = paymentId ∧ r.status = .success) PaymentRefund.amount

/-- The reading that a refund works from. -/
def RefundProgress.reading? : RefundProgress → Option RefundRead
  | .checked read => some read
  | .answered read _ => some read
  | .created read => some read
  | _ => none

/-- A refund that is recorded as a success finds the payment as it read it and
no other refund on its way to the payment, and is of an amount in paise that
is not negative. -/
def RefundsApart (attempts : Process → RefundAttempt)
    (system : System Process RefundProgress Db) (process : Process) : Prop :=
  ∀ read gateway after, system.locals process = .answered read gateway →
    gateway.success = true →
    createRefundRow read (attempts process).reason (attempts process).user gateway
      (attempts process).now system.shared = .ok after →
    read.payment ∈ system.shared.payments.rows ∧
      (∀ other r, system.locals other ≠ .created r) ∧
      0 ≤ toColumn read.amount ∧ NoTie read.amount

/-- Every reading is of the payment, and within the balance it read. -/
def RefundReads (p : Payment) (system : System Process RefundProgress Db) : Prop :=
  ∀ process read, (system.locals process).reading? = some read → read.payment.id = p.id ∧
    read.refundable = toMoney read.payment.refundable ∧ read.amount ≤ read.refundable

/-- The two stages of a run: the balance is what the refunds have left, or one
refund is recorded that the balance does not show yet. -/
inductive RefundStage (p : Payment) (system : System Process RefundProgress Db) : Prop where
  | settled (q : Payment) (hq : q ∈ system.shared.payments.rows) (hId : q.id = p.id)
      (hAmount : q.amount = p.amount) (hNonneg : 0 ≤ q.refundable)
      (hSum : 0 ≤ refundedSum system.shared.refunds p.id)
      (hTotal : q.refundable + refundedSum system.shared.refunds p.id = q.amount)
      (hNone : ∀ other r, system.locals other ≠ .created r)
  | recorded (q : Payment) (process : Process) (read : RefundRead)
      (hq : q ∈ system.shared.payments.rows) (hId : q.id = p.id) (hAmount : q.amount = p.amount)
      (hCreated : system.locals process = .created read)
      (hOnly : ∀ other r, system.locals other = .created r → other = process)
      (hPart : 0 ≤ toColumn read.amount)
      (hLeft : toColumn read.remaining = q.refundable - toColumn read.amount)
      (hNonneg : 0 ≤ toColumn read.remaining)
      (hSum : toColumn read.amount ≤ refundedSum system.shared.refunds p.id)
      (hTotal : q.refundable + refundedSum system.shared.refunds p.id =
        q.amount + toColumn read.amount)

section Steps
variable [DecidableEq Process] {attempts : Process → RefundAttempt} {p : Payment}
  {system : System Process RefundProgress Db} {process : Process}

theorem RefundReads.step (h : RefundReads p system) :
    RefundReads p (fire (refundStep attempts p.id) system process) := by
  intro q read hRead
  by_cases hq : q = process
  · subst hq
    rw [fire_locals_self] at hRead
    cases hLocal : system.locals q with
    | waiting =>
        rw [hLocal] at hRead
        unfold refundStep at hRead
        dsimp only at hRead
        cases hFirst : refundRead (attempts q).user p.id (attempts q).amount system.shared with
        | error error =>
            rw [hFirst] at hRead
            cases hRead
        | ok found =>
            rw [hFirst] at hRead
            obtain ⟨_, hId, _, hRefundable, hAmount, hWithin⟩ := refundRead_ok hFirst
            cases hRead
            exact ⟨hId, hRefundable, hAmount ▸ hWithin⟩
    | checked found =>
        rw [hLocal] at hRead
        unfold refundStep at hRead
        dsimp only at hRead
        have hOld := h q found (by rw [hLocal]; rfl)
        cases hReply : (attempts q).reply with
        | none =>
            rw [hReply] at hRead
            cases hRead
        | some gateway =>
            rw [hReply] at hRead
            cases hRead
            exact hOld
    | answered found gateway =>
        rw [hLocal] at hRead
        unfold refundStep at hRead
        dsimp only at hRead
        have hOld := h q found (by rw [hLocal]; rfl)
        split at hRead
        · cases hRead
        · split_ifs at hRead
          · cases hRead
            exact hOld
          · cases hRead
    | created found =>
        rw [hLocal] at hRead
        unfold refundStep at hRead
        dsimp only at hRead
        split at hRead <;> cases hRead
    | finished =>
        rw [hLocal] at hRead
        cases hRead
  · rw [fire_locals_of_ne system hq] at hRead
    exact h q read hRead

/-- A step that neither records nor applies a refund keeps the stage. -/
theorem RefundStage.quiet {current next : RefundProgress} {after : Db} (h : RefundStage p system)
    (hLocal : system.locals process = current)
    (hStep : refundStep attempts p.id process current system.shared = (next, after))
    (hPayments : after.payments = system.shared.payments)
    (hRefunds : refundedSum after.refunds p.id = refundedSum system.shared.refunds p.id)
    (hBefore : ∀ r, current ≠ .created r) (hAfter : ∀ r, next ≠ .created r) :
    RefundStage p (fire (refundStep attempts p.id) system process) := by
  subst hLocal
  have hShared : (fire (refundStep attempts p.id) system process).shared = after := by
    rw [fire_shared, hStep]
  have hSame : ∀ other r, (fire (refundStep attempts p.id) system process).locals other =
      .created r ↔ system.locals other = .created r := by
    intro other r
    by_cases hOther : other = process
    · rw [hOther, fire_locals_self, hStep]
      exact ⟨fun hNew => absurd hNew (hAfter r), fun hOld => absurd hOld (hBefore r)⟩
    · rw [fire_locals_of_ne system hOther]
  cases h with
  | settled q hq hId hAmount hNonneg hSum hTotal hNone =>
      refine .settled q ?_ hId hAmount hNonneg ?_ ?_ fun other r hNew =>
        hNone other r ((hSame other r).mp hNew)
      · rw [hShared, hPayments]
        exact hq
      · rw [hShared, hRefunds]
        exact hSum
      · rw [hShared, hRefunds]
        exact hTotal
  | recorded q c read hq hId hAmount hCreated hOnly hPart hLeft hNonneg hSum hTotal =>
      refine .recorded q c read ?_ hId hAmount ((hSame c read).mpr hCreated)
        (fun other r hNew => hOnly other r ((hSame other r).mp hNew)) hPart hLeft hNonneg ?_ ?_
      · rw [hShared, hPayments]
        exact hq
      · rw [hShared, hRefunds]
        exact hSum
      · rw [hShared, hRefunds]
        exact hTotal

/-- A row that is no success adds nothing to the refunded sum. -/
theorem refundedSum_added {refunds refunds' : KeyedTable PaymentRefund} {row : PaymentRefund}
    (h : Added refunds refunds' row) (paymentId : Id) :
    refundedSum refunds' paymentId = refundedSum refunds paymentId +
      if row.paymentId = paymentId ∧ row.status = .success then row.amount else 0 := by
  rw [refundedSum, h.sumWhere_eq]
  simp only [decide_eq_true_eq]
  rfl

/-- Creating the row of a refund records it, or a failure. -/
theorem RefundStage.create {read : RefundRead} {gateway : RefundResult} (h : RefundStage p system)
    (hReads : RefundReads p system) (hApart : RefundsApart attempts system process)
    (hLocal : system.locals process = .answered read gateway) :
    RefundStage p (fire (refundStep attempts p.id) system process) := by
  obtain ⟨hReadId, hRefundable, hWithin⟩ := hReads process read (by rw [hLocal]; rfl)
  cases hCreate : createRefundRow read (attempts process).reason (attempts process).user gateway
      (attempts process).now system.shared with
  | error refusal =>
      have hStep : refundStep attempts p.id process (.answered read gateway) system.shared =
          (.finished, system.shared) := by simp only [refundStep, hCreate]
      exact h.quiet hLocal hStep rfl rfl (fun _ h => by cases h) fun _ h => by cases h
  | ok after =>
      obtain ⟨refunds, hAdded, hAfter⟩ := createRefundRow_ok hCreate
      have hAmount := refundedSum_added hAdded p.id
      cases hSuccess : gateway.success with
      | false =>
          have hStep : refundStep attempts p.id process (.answered read gateway) system.shared =
              (.finished, after) := by
            simp [refundStep, hCreate, canApplyRefundToPayment, hSuccess]
          refine h.quiet hLocal hStep (by rw [hAfter]) ?_ (fun _ h => by cases h)
            fun _ h => by cases h
          rw [hAfter, hAmount]
          simp [refundRow, hSuccess]
      | true =>
          have hStep : refundStep attempts p.id process (.answered read gateway) system.shared =
              (.created read, after) := by
            simp [refundStep, hCreate, canApplyRefundToPayment, hSuccess]
          obtain ⟨hStored, hOthers, hPart, hTie⟩ := hApart read gateway after hLocal hSuccess hCreate
          cases h with
          | recorded _ c r _ _ _ hCreated => exact absurd hCreated (hOthers c r)
          | settled q hq hId hSame hNonneg hSum hTotal hNone =>
              have hRow : read.payment = q := eq_of_key hStored hq (hReadId.trans hId.symm)
              have hLeft : toColumn read.remaining = q.refundable - toColumn read.amount := by
                rw [RefundRead.remaining, hRefundable, toColumn_sub hTie, hRow]
              have hGrown : refundedSum refunds p.id =
                  refundedSum system.shared.refunds p.id + toColumn read.amount := by
                rw [hAmount]
                simp [refundRow, hSuccess, hReadId]
              refine .recorded q process read ?_ hId hSame ?_ ?_ hPart hLeft
                (toColumn_nonneg (sub_nonneg.mpr hWithin)) ?_ ?_
              · rw [fire_shared, hLocal, hStep, hAfter]
                exact hq
              · rw [fire_locals_self, hLocal, hStep]
              · intro other r hCreated
                by_contra hOther
                rw [fire_locals_of_ne system hOther] at hCreated
                exact hNone other r hCreated
              · rw [fire_shared, hLocal, hStep, hAfter]
                change toColumn read.amount ≤ refundedSum refunds p.id
                linarith
              · rw [fire_shared, hLocal, hStep, hAfter]
                change q.refundable + refundedSum refunds p.id = _
                linarith

/-- Updating the payment settles the refund that is recorded. -/
theorem RefundStage.apply {read : RefundRead} (h : RefundStage p system)
    (hReads : RefundReads p system) (hLocal : system.locals process = .created read) :
    RefundStage p (fire (refundStep attempts p.id) system process) := by
  obtain ⟨hReadId, _⟩ := hReads process read (by rw [hLocal]; rfl)
  cases h with
  | settled _ _ _ _ _ _ _ hNone => exact absurd hLocal (hNone process read)
  | recorded q c r hq hId hSame hCreated hOnly hPart hLeft hNonneg hSum hTotal =>
      have hProcess : process = c := hOnly process read hLocal
      subst hProcess
      rw [hLocal] at hCreated
      cases hCreated
      obtain ⟨after, hApply⟩ := applyRefund_isOk hq (hId.trans hReadId.symm)
      have hStep : refundStep attempts p.id process (.created read) system.shared =
          (.finished, after) := by simp only [refundStep, hApply]
      obtain ⟨old, payments, hOldId, hReplaced, hAfter⟩ := applyRefund_ok hApply
      have hOld : old = q := eq_of_key hReplaced.mem_old hq (hOldId.trans (hReadId.trans hId.symm))
      subst hOld
      have hRefundable : (refundedPaymentData read old).refundable = toColumn read.remaining := rfl
      refine .settled (refundedPaymentData read old) ?_ hId hSame (hRefundable ▸ hNonneg) ?_ ?_ ?_
      · rw [fire_shared, hLocal, hStep, hAfter]
        exact hReplaced.mem_new
      · rw [fire_shared, hLocal, hStep, hAfter]
        exact hPart.trans hSum
      · rw [fire_shared, hLocal, hStep, hAfter, hRefundable, hLeft]
        change old.refundable - toColumn read.amount + refundedSum system.shared.refunds p.id =
          old.amount
        linarith
      · intro other r hNew
        by_cases hOther : other = process
        · rw [hOther, fire_locals_self, hLocal, hStep] at hNew
          cases hNew
        · rw [fire_locals_of_ne system hOther] at hNew
          exact hOther (hOnly other r hNew)

theorem RefundStage.step (h : RefundStage p system) (hReads : RefundReads p system)
    (hApart : RefundsApart attempts system process) :
    RefundStage p (fire (refundStep attempts p.id) system process) := by
  cases hLocal : system.locals process with
  | waiting =>
      cases hRead : refundRead (attempts process).user p.id (attempts process).amount
          system.shared with
      | error error =>
          have hStep : refundStep attempts p.id process .waiting system.shared =
              (.finished, system.shared) := by simp only [refundStep, hRead]
          exact h.quiet hLocal hStep rfl rfl (fun _ h => by cases h) fun _ h => by cases h
      | ok read =>
          have hStep : refundStep attempts p.id process .waiting system.shared =
              (.checked read, system.shared) := by simp only [refundStep, hRead]
          exact h.quiet hLocal hStep rfl rfl (fun _ h => by cases h) fun _ h => by cases h
  | checked read =>
      cases hReply : (attempts process).reply with
      | none =>
          have hStep : refundStep attempts p.id process (.checked read) system.shared =
              (.finished, system.shared) := by simp only [refundStep, hReply]
          exact h.quiet hLocal hStep rfl rfl (fun _ h => by cases h) fun _ h => by cases h
      | some gateway =>
          have hStep : refundStep attempts p.id process (.checked read) system.shared =
              (.answered read gateway, system.shared) := by simp only [refundStep, hReply]
          exact h.quiet hLocal hStep rfl rfl (fun _ h => by cases h) fun _ h => by cases h
  | answered read gateway => exact h.create hReads hApart hLocal
  | created read => exact h.apply hReads hLocal
  | finished => exact h.quiet hLocal rfl rfl rfl (fun _ h => by cases h) fun _ h => by cases h

/-- In every run of any number of refunds whose recorded successes are apart,
the refunds never exceed the payment, and the balance is what they have left
except while one is recorded that the balance does not show yet. -/
theorem refunds_within_payment {db₀ : Db} (hp : p ∈ db₀.payments.rows)
    (hNonneg : 0 ≤ p.refundable) (hSum : 0 ≤ refundedSum db₀.refunds p.id)
    (hTotal : p.refundable = p.amount - refundedSum db₀.refunds p.id) {schedule : List Process}
    (hAlong : Along (fire (refundStep attempts p.id)) (RefundsApart attempts) (unrefunded db₀)
      schedule) :
    let final := run (fire (refundStep attempts p.id)) (unrefunded db₀) schedule
    ∃ q ∈ final.shared.payments.rows, q.id = p.id ∧ q.amount = p.amount ∧
      0 ≤ q.refundable ∧ q.refundable ≤ q.amount ∧
      refundedSum final.shared.refunds p.id ≤ q.amount ∧
      (q.refundable = q.amount - refundedSum final.shared.refunds p.id ↔
        ∀ process read, final.locals process = .created read → toColumn read.amount = 0) := by
  have hStart : RefundReads p (unrefunded db₀ : System Process RefundProgress Db) ∧
      RefundStage p (unrefunded db₀ : System Process RefundProgress Db) :=
    ⟨fun _ _ hRead => (by cases hRead), .settled p hp rfl rfl hNonneg hSum (by
      rw [hTotal]
      exact sub_add_cancel _ _) fun _ _ hCreated => (by cases hCreated)⟩
  have hStage := run_invariant_along (fun system => RefundReads p system ∧ RefundStage p system)
    (fun system process h hApart => ⟨h.1.step, h.2.step h.1 hApart⟩) hStart hAlong
  intro final
  rcases hStage.2 with ⟨q, hq, hId, hAmount, hNonneg, hSum, hTotal, hNone⟩ |
    ⟨q, c, read, hq, hId, hAmount, hCreated, hOnly, hPart, hLeft, hNonneg, hSum, hTotal⟩
  · refine ⟨q, hq, hId, hAmount, hNonneg, ?_, ?_, ?_⟩
    · linarith
    · linarith
    · exact iff_of_true (by linarith) fun process read h => absurd h (hNone process read)
  · refine ⟨q, hq, hId, hAmount, ?_, ?_, ?_, ?_⟩
    · linarith
    · linarith
    · linarith
    · constructor
      · intro hBalance process r hr
        rw [hOnly process r hr, hCreated] at hr
        cases hr
        linarith
      · intro hZero
        have hAmountZero := hZero c read hCreated
        linarith

end Steps

namespace Sample

def paidPayment : Payment := { payment with status := .success, atomTxnId := some "A1" }

def paidDb : Db := { db with payments := ⟨[paidPayment], List.pairwise_singleton _ _⟩ }

/-- Two refunds of 300 rupees, of a payment of 400. -/
def twoRefunds (second : Bool) : RefundAttempt where
  user := administrator
  amount := 300
  reason := none
  reply := some (sandboxRefund "CHH-1-a")
  now := if second then 2001 else 2000

/-- The first refund does all its steps before the second. -/
def successive : List Bool := [false, false, false, false, true, true, true, true]

/-- The refunds one after the other, up to some step. -/
def refundSteps (steps : Nat) : System Bool RefundProgress Db :=
  run (fire (refundStep twoRefunds 2)) (unrefunded paidDb) (successive.take steps)

end Sample

/-- The refund is about to create its row. -/
def RefundProgress.isAnswered : RefundProgress → Bool
  | .answered _ _ => true
  | _ => false

/-- Only the creation of a refund's row has to come apart from the others. -/
theorem refundsApart_of_not_answered {attempts : Process → RefundAttempt}
    (system : System Process RefundProgress Db) {process : Process}
    (h : (system.locals process).isAnswered = false) : RefundsApart attempts system process := by
  intro read gateway after hLocal
  rw [hLocal] at h
  cases h

/-- The second refund is refused, since the first has left too little. -/
theorem refunds_within_payment_twice :
    ∃ q ∈ (Sample.refundSteps 8).shared.payments.rows, q.id = Sample.paidPayment.id ∧
      q.amount = Sample.paidPayment.amount ∧ 0 ≤ q.refundable ∧ q.refundable ≤ q.amount ∧
      refundedSum (Sample.refundSteps 8).shared.refunds Sample.paidPayment.id ≤ q.amount ∧
      (q.refundable =
        q.amount - refundedSum (Sample.refundSteps 8).shared.refunds Sample.paidPayment.id ↔
        ∀ process read, (Sample.refundSteps 8).locals process = .created read →
          toColumn read.amount = 0) := by
  have hReading : ((Sample.refundSteps 2).locals false).reading?.map
      (fun r => (r.payment, r.amount)) = some (Sample.paidPayment, 300) := by decide +kernel
  have hPayment : Sample.paidPayment ∈ Sample.paidDb.payments.rows := List.mem_cons_self
  have hAlong (h : Along (fire (refundStep Sample.twoRefunds 2))
      (RefundsApart Sample.twoRefunds) (unrefunded Sample.paidDb) Sample.successive) :=
    refunds_within_payment hPayment (by decide) (by decide) (by decide) h
  refine hAlong ⟨?_, ?_, ?_, ?_, ?_, ?_, ?_, ?_, trivial⟩
  · exact refundsApart_of_not_answered (unrefunded Sample.paidDb) rfl
  · exact refundsApart_of_not_answered (Sample.refundSteps 1) (by decide +kernel)
  · intro read gateway after hLocal _ _
    rw [show (Sample.refundSteps 2).locals false = .answered read gateway from hLocal] at hReading
    obtain ⟨hPayment, hAmount⟩ := Prod.mk.inj (Option.some.inj hReading)
    refine ⟨?_, ?_, ?_, ?_⟩
    · rw [hPayment]
      change Sample.paidPayment ∈ (Sample.refundSteps 2).shared.payments.rows
      decide +kernel
    · intro other r hCreated
      cases other with
      | false =>
          rw [hLocal] at hCreated
          cases hCreated
      | true => cases hCreated
    · rw [hAmount]
      decide +kernel
    · rw [hAmount]
      intro z hTie
      have hTwice : ((60000 : ℤ) : ℚ) = ((2 * z + 1 : ℤ) : ℚ) := by
        push_cast
        linarith
      have hEven := Int.cast_injective hTwice
      omega
  · exact refundsApart_of_not_answered (Sample.refundSteps 3) (by decide +kernel)
  · exact refundsApart_of_not_answered (Sample.refundSteps 4) (by decide)
  · exact refundsApart_of_not_answered (Sample.refundSteps 5) (by decide +kernel)
  · exact refundsApart_of_not_answered (Sample.refundSteps 6) (by decide +kernel)
  · exact refundsApart_of_not_answered (Sample.refundSteps 7) (by decide +kernel)

/-- Both refunds read the payment before either updates it: 600 rupees of 400
are refunded. -/
theorem overlapping_refunds_exceed_payment :
    Sample.paidPayment.status = .success ∧
      Sample.paidPayment.refundable = Sample.paidPayment.amount ∧
      ¬ refundedSum (run (fire (refundStep Sample.twoRefunds 2)) (unrefunded Sample.paidDb)
          [false, true, false, true, false, false, true, true]).shared.refunds
          Sample.paidPayment.id ≤ Sample.paidPayment.amount := by
  decide +kernel

end PropertyTax
