import PropertyTax.Concurrency.CreditOnce

/-! Failures that arrive while a success is being recorded. The guard that
keeps a success looks at the payment as it was read, so only a failure whose
reading is up to date is harmless. -/
namespace PropertyTax
open Runs KeyedTable
variable {Process : Type} [DecidableEq Process]

/-- The step to come is not an unsuccessful transaction on an outdated reading. -/
def FailsFresh (attempts : Process → Attempt) (system : System Process Progress Db)
    (process : Process) : Prop :=
  ∀ read, system.locals process = .entered read → read.success = false →
    ¬ ActsOnStale (attempts process).ctx.gateway.name read system.shared

/-- Until the payment is a success no demand has changed; afterwards it stays
one. -/
structure SuccessKept (db₀ : Db) (payment : Payment) (demand : PropertyDemand)
    (system : System Process Progress Db) : Prop where
  stored : ∃ p ∈ system.shared.payments.rows, p.id = payment.id ∧
    p.merchTxnId = payment.merchTxnId ∧ (p.status = .success ∨
      (payment.status ≠ .success ∧ system.shared.demands = db₀.demands))
  demand : ∃ d ∈ system.shared.demands.rows, d.id = demand.id
  reads : ∀ process read, system.locals process = .entered read → read.payment.id = payment.id

section Run
variable {attempts : Process → Attempt} {db₀ : Db} {payment : Payment} {demand : PropertyDemand}

/-- Steps that leave the ledger alone keep the invariant. -/
theorem SuccessKept.of_same {system : System Process Progress Db} {process : Process}
    (h : SuccessKept db₀ payment demand system)
    (hSame : SameLedger system.shared (fire (deliver attempts) system process).shared)
    (hRead : ∀ read, (deliver attempts process (system.locals process) system.shared).1 =
      .entered read → read.payment.id = payment.id) :
    SuccessKept db₀ payment demand (fire (deliver attempts) system process) where
  stored := by
    rw [hSame.payments, hSame.demands]
    exact h.stored
  demand := by
    rw [hSame.demands]
    exact h.demand
  reads := reads_after h.reads hRead

/-- A transaction writes a success when it reports one or has read one. Any
other runs while the payment is not a success, and credits nothing. -/
theorem SuccessKept.of_settled {system : System Process Progress Db} {process : Process}
    {read : DeliveryRead} (h : SuccessKept db₀ payment demand system)
    (hLocal : system.locals process = .entered read)
    (hFresh : FailsFresh attempts system process)
    (hFinished : (finishDelivery (attempts process).ctx read system.shared).1 = .finished true)
    (hProceeds : read.proceeds (attempts process).ctx.gateway.name = true)
    (hFree : ¬ read.keyTaken system.shared)
    (hSettled : Settled read.payment read.status read.credits system.shared
      (finishDelivery (attempts process).ctx read system.shared).2) :
    SuccessKept db₀ payment demand (fire (deliver attempts) system process) := by
  obtain ⟨p, hp, hId, hMerch, hStage⟩ := h.stored
  obtain ⟨d, hd, hdId⟩ := h.demand
  have hReadId := h.reads process read hLocal
  have hShared : (fire (deliver attempts) system process).shared =
      (finishDelivery (attempts process).ctx read system.shared).2 := by
    rw [fire_shared, hLocal, deliver]
  have hReads : ∀ q entered, (fire (deliver attempts) system process).locals q =
      .entered entered → entered.payment.id = payment.id := by
    refine reads_after h.reads ?_
    intro entered hEntered
    rw [hLocal, deliver, hFinished] at hEntered
    cases hEntered
  have hStatus : p.status = .success → read.status = .success := by
    intro hSuccess
    by_contra hOther
    have hFailure : read.success = false := by
      by_contra hReported
      exact hOther (DeliveryRead.status_of_success (by simpa using hReported))
    have hStale : read.payment.status ≠ .success := fun hRead =>
      hOther (DeliveryRead.status_of_read_success hRead)
    exact hFresh read hLocal hFailure
      ⟨hProceeds, hFree, hStale, p, hp, hId.trans hReadId.symm, hSuccess⟩
  cases hSettled with
  | credited r r' e hCredits _ hReplaced hrId hSame hrStatus _ _ hDemand _ _ =>
      have hReported := ((DeliveryRead.credits_iff read).mp hCredits).1
      have hOld : r = p := eq_of_key hReplaced.mem_old hp
        (hrId.trans (hReadId.trans hId.symm))
      subst hOld
      refine ⟨⟨r', ?_, hSame.id.trans hId, hSame.merchTxnId.trans hMerch, Or.inl ?_⟩, ?_, hReads⟩
      · rw [hShared]
        exact hReplaced.mem_new
      · rw [hrStatus, DeliveryRead.status_of_success hReported]
      · rw [hShared]
        rcases hDemand.exists_row hd with hMem | rfl
        · exact ⟨d, hMem, hdId⟩
        · exact ⟨_, hDemand.mem_new, hdId⟩
  | uncredited r r' _ hReplaced hrId hSame hrStatus _ _ hDemands _ _ =>
      have hOld : r = p := eq_of_key hReplaced.mem_old hp
        (hrId.trans (hReadId.trans hId.symm))
      subst hOld
      refine ⟨⟨r', ?_, hSame.id.trans hId, hSame.merchTxnId.trans hMerch, ?_⟩, ?_, hReads⟩
      · rw [hShared]
        exact hReplaced.mem_new
      · rcases hStage with hSuccess | ⟨hStart, hUntouched⟩
        · exact Or.inl (hrStatus.trans (hStatus hSuccess))
        · rw [hShared, hDemands]
          exact Or.inr ⟨hStart, hUntouched⟩
      · rw [hShared, hDemands]
        exact ⟨d, hd, hdId⟩

theorem SuccessKept.step {system : System Process Progress Db} {process : Process}
    (hDeliveries : ∀ process, (attempts process).Concerns payment.id payment.merchTxnId)
    (h : SuccessKept db₀ payment demand system) (hFresh : FailsFresh attempts system process) :
    SuccessKept db₀ payment demand (fire (deliver attempts) system process) := by
  cases hLocal : system.locals process with
  | waiting =>
      obtain ⟨p, hp, hId, hMerch, _⟩ := h.stored
      have hConcerns := hDeliveries process
      rw [← hId, ← hMerch] at hConcerns
      obtain ⟨hSame, hProgress⟩ := beginDelivery_cases hConcerns hp
      refine h.of_same ?_ ?_
      · rw [fire_shared, hLocal, deliver]
        exact hSame
      · intro read hRead
        rw [hLocal, deliver] at hRead
        rcases hProgress with hFinished | ⟨entered, hEntered, hRow, _⟩
        · rw [hFinished] at hRead
          cases hRead
        · rw [hEntered] at hRead
          cases hRead
          rw [hRow, hId]
  | entered read =>
      rcases finishDelivery_cases (attempts process).ctx read system.shared with
        ⟨hSame, hFinished⟩ | ⟨hFinished, hProceeds, hFree, hSettled⟩
      · refine h.of_same ?_ ?_
        · rw [fire_shared, hLocal, deliver]
          exact hSame
        · intro entered hEntered
          rw [hLocal, deliver, hFinished] at hEntered
          cases hEntered
      · exact h.of_settled hLocal hFresh hFinished hProceeds hFree hSettled
  | finished settled =>
      have hStutter : fire (deliver attempts) system process = system :=
        fire_eq_self (by rw [hLocal]; rfl)
      rw [hStutter]
      exact h

/-- In every run of any number of deliveries, successful or not and in any
order of their steps, a payment that was a success or whose demand has been
credited since is a success. -/
theorem success_kept_of_fresh_failures
    (hDeliveries : ∀ process, (attempts process).Concerns payment.id payment.merchTxnId)
    (hPayment : payment ∈ db₀.payments.rows) (hDemand : demand ∈ db₀.demands.rows)
    {schedule : List Process}
    (hFresh : Along (fire (deliver attempts)) (FailsFresh attempts) (undelivered db₀) schedule) :
    let final := run (fire (deliver attempts)) (undelivered db₀) schedule
    ∃ p ∈ final.shared.payments.rows, ∃ d ∈ final.shared.demands.rows,
      p.id = payment.id ∧ d.id = demand.id ∧
      (payment.status = .success ∨ d.amountPaid ≠ demand.amountPaid → p.status = .success) := by
  have hStart : SuccessKept db₀ payment demand (undelivered db₀ : System Process Progress Db) :=
    { stored := by
        refine ⟨payment, hPayment, rfl, rfl, ?_⟩
        by_cases hStatus : payment.status = .success
        · exact Or.inl hStatus
        · exact Or.inr ⟨hStatus, rfl⟩
      demand := ⟨demand, hDemand, rfl⟩
      reads := fun _ _ h => by cases h }
  have hKept := run_invariant_along (SuccessKept db₀ payment demand)
    (fun _ _ h hGuard => h.step hDeliveries hGuard) hStart hFresh
  intro final
  obtain ⟨p, hp, hId, _, hStage⟩ := hKept.stored
  obtain ⟨d, hd, hdId⟩ := hKept.demand
  refine ⟨p, hp, d, hd, hId, hdId, ?_⟩
  intro hEither
  rcases hStage with hSuccess | ⟨hStatus, hUntouched⟩
  · exact hSuccess
  · rcases hEither with hBefore | hCredited
    · exact absurd hBefore hStatus
    · have hSame : d = demand := by
        rw [hUntouched] at hd
        exact eq_of_key hd hDemand hdId
      rw [hSame] at hCredited
      exact absurd rfl hCredited

end Run

/-- A failure callback and a staff requery of the sample payment. -/
def failureAndRequery : Bool → Attempt
  | true =>
      { ctx := Sample.context
        delivery := .callback [("merchTxnId", .str "CHH-1-a"), ("statusCode", .str "OTS0600")] }
  | false => twoRequeries false

theorem failureAndRequery_concerns (process : Bool) :
    (failureAndRequery process).Concerns Sample.payment.id Sample.payment.merchTxnId := by
  cases process with
  | true =>
      intro parsed hParsed
      have hMerch : (parseCallbackPayload Sample.context.gateway
          [("merchTxnId", .str "CHH-1-a"), ("statusCode", .str "OTS0600")]).map
            ParsedCallback.merchTxnId = .ok (some "CHH-1-a") := by rfl
      rw [show parseCallbackPayload Sample.context.gateway
          [("merchTxnId", .str "CHH-1-a"), ("statusCode", .str "OTS0600")] = .ok parsed
        from hParsed] at hMerch
      exact Except.ok.inj hMerch
  | false => rfl

/-- The payment a delivery has read, while it holds it. -/
def Progress.payment? : Progress → Option Payment
  | .entered read => some read.payment
  | _ => none

/-- A failure that arrives after the requery has settled the payment changes nothing. -/
theorem success_kept_of_failure_after_requery :
    let final := run (fire (deliver failureAndRequery)) (undelivered Sample.db)
      [false, false, true, true]
    ∃ p ∈ final.shared.payments.rows, ∃ d ∈ final.shared.demands.rows,
      p.id = Sample.payment.id ∧ d.id = Sample.demand.id ∧
      (Sample.payment.status = .success ∨ d.amountPaid ≠ Sample.demand.amountPaid →
        p.status = .success) := by
  have hRequery : ((run (fire (deliver failureAndRequery)) (undelivered Sample.db)
      [false]).shared.payments.rows.map Payment.status) = [.pending] := by decide
  have hFailure : ((run (fire (deliver failureAndRequery)) (undelivered Sample.db)
      [false, false, true]).locals true).payment?.map Payment.status = some .success := by
    decide
  have hPayment : Sample.payment ∈ Sample.db.payments.rows := List.mem_cons_self
  have hDemand : Sample.demand ∈ Sample.db.demands.rows := List.mem_cons_self
  refine success_kept_of_fresh_failures failureAndRequery_concerns hPayment hDemand
    ⟨?_, ?_, ?_, ?_, trivial⟩
  · intro read hRead
    cases hRead
  · intro read _ _ hStale
    obtain ⟨_, _, _, p, hp, _, hSuccess⟩ := hStale
    have hPending : p.status ∈ [PaymentStatus.pending] := by
      rw [← hRequery]
      exact List.mem_map_of_mem hp
    rw [hSuccess] at hPending
    cases List.mem_singleton.mp hPending
  · intro read hRead
    cases hRead
  · intro read hRead _ hStale
    obtain ⟨_, _, hNot, _⟩ := hStale
    rw [show (run (fire (deliver failureAndRequery)) (undelivered Sample.db)
      [false, false, true]).locals true = .entered read from hRead] at hFailure
    exact hNot (Option.some.inj hFailure)

/-- The failure is read first and committed last: the payment ends failed, with
its 400 rupees on the demand. -/
theorem late_failure_undoes_success :
    (∀ process, (failureAndRequery process).Concerns Sample.payment.id
      Sample.payment.merchTxnId) ∧
    let final := run (fire (deliver failureAndRequery)) (undelivered Sample.db)
      [true, false, false, true]
    final.shared.demands.rows.map PropertyDemand.amountPaid =
        [Sample.demand.amountPaid + Sample.payment.amount] ∧
      final.shared.payments.rows.map Payment.status = [.failed] := by
  refine ⟨failureAndRequery_concerns, ?_⟩
  decide +kernel

end PropertyTax
