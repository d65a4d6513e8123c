import PropertyTax.Concurrency.Delivery

/-! How often overlapping success deliveries credit the demand of one payment.
A transaction that acts on an outdated reading credits it again; in a run
without such a transaction the credit happens once. -/
namespace PropertyTax
open Runs KeyedTable
variable {Process : Type} [DecidableEq Process]

/-- The delivery reaches a transaction that the database accepts, and the
payment it read as not successful has succeeded since. -/
def ActsOnStale (provider : ProviderName) (read : DeliveryRead) (db : Db) : Prop :=
  read.proceeds provider = true ∧ ¬ read.keyTaken db ∧ read.payment.status ≠ .success ∧
    ∃ p ∈ db.payments.rows, p.id = read.payment.id ∧ p.status = .success

/-- The step to come is not a transaction on an outdated reading. -/
def ReadsFresh (attempts : Process → Attempt) (system : System Process Progress Db)
    (process : Process) : Prop :=
  ∀ read, system.locals process = .entered read →
    ¬ ActsOnStale (attempts process).ctx.gateway.name read system.shared

/-- Every delivery is a success delivery of the payment. -/
def SuccessDeliveries (attempts : Process → Attempt) (payment : Payment) : Prop :=
  ∀ process, (attempts process).Concerns payment.id payment.merchTxnId ∧
    (attempts process).ReportsSuccess

/-- The two stages of a run: nothing has been committed and every reading is of
the payment as it was, or the payment has succeeded and was credited once. -/
inductive CreditStage (db₀ : Db) (payment : Payment) (demand : PropertyDemand)
    (system : System Process Progress Db) : Prop where
  | pristine (hSame : SameLedger db₀ system.shared)
      (hReads : ∀ process read, system.locals process = .entered read →
        read.success = true ∧ read.payment = payment)
      (hNone : ∀ process, system.locals process ≠ .finished true)
  | credited (p : Payment) (d : PropertyDemand) (hp : p ∈ system.shared.payments.rows)
      (hId : p.id = payment.id) (hMerch : p.merchTxnId = payment.merchTxnId)
      (hSuccess : p.status = .success) (hd : d ∈ system.shared.demands.rows)
      (hdId : d.id = demand.id) (hPaid : d.amountPaid = demand.amountPaid + payment.amount)
      (hReads : ∀ process read, system.locals process = .entered read →
        read.success = true ∧ read.payment.id = payment.id)
      (hSome : ∃ process, system.locals process = .finished true)

/-- What holds of every reading, and of the one just taken, holds after a step. -/
theorem reads_after {P : DeliveryRead → Prop}
    {step : Process → Progress → Db → Progress × Db} {system : System Process Progress Db}
    {process : Process} (hOld : ∀ q read, system.locals q = .entered read → P read)
    (hNew : ∀ read, (step process (system.locals process) system.shared).1 = .entered read →
      P read) : ∀ q read, (fire step system process).locals q = .entered read → P read := by
  intro q read hRead
  by_cases hq : q = process
  · subst hq
    rw [fire_locals_self] at hRead
    exact hNew read hRead
  · rw [fire_locals_of_ne system hq] at hRead
    exact hOld q read hRead

/-- A process that has finished stays finished. -/
theorem finished_after {attempts : Process → Attempt} {system : System Process Progress Db}
    {process q : Process} {settled : Bool} (h : system.locals q = .finished settled) :
    (fire (deliver attempts) system process).locals q = .finished settled := by
  by_cases hq : q = process
  · subst hq
    rw [fire_locals_self, h]
    rfl
  · rw [fire_locals_of_ne system hq, h]

section Run
variable {attempts : Process → Attempt} {db₀ : Db} {payment : Payment} {demand : PropertyDemand}

/-- The first transaction to commit credits the demand and makes the payment a
success; no delivery has read anything but the payment as it was. -/
theorem creditStage_of_pristine {system : System Process Progress Db} {process : Process}
    (hDeliveries : SuccessDeliveries attempts payment) (hPayment : payment ∈ db₀.payments.rows)
    (hStatus : payment.status ≠ .success) (hSnapshot : payment.receiptSnapshot = none)
    (hDemand : demand ∈ db₀.demands.rows) (hPublished : demand.status = .published)
    (hLink : payment.propertyDemandId = some demand.id)
    (hSame : SameLedger db₀ system.shared)
    (hReads : ∀ process read, system.locals process = .entered read →
      read.success = true ∧ read.payment = payment)
    (hNone : ∀ process, system.locals process ≠ .finished true) :
    CreditStage db₀ payment demand (fire (deliver attempts) system process) := by
  have hStored : payment ∈ system.shared.payments.rows := by
    rw [hSame.payments]
    exact hPayment
  cases hLocal : system.locals process with
  | waiting =>
      obtain ⟨hSame', hProgress⟩ := beginDelivery_cases (hDeliveries process).1 hStored
      refine .pristine ?_ (reads_after hReads ?_) ?_
      · rw [fire_shared, hLocal]
        exact hSame.trans hSame'
      · intro read hRead
        rw [hLocal] at hRead
        rcases hProgress with hFinished | ⟨entered, hEntered, hRow, hReports⟩
        · rw [deliver, hFinished] at hRead
          cases hRead
        · rw [deliver, hEntered] at hRead
          cases hRead
          exact ⟨hReports (hDeliveries process).2, hRow⟩
      · intro q hFinished
        by_cases hq : q = process
        · subst hq
          rw [fire_locals_self, hLocal, deliver] at hFinished
          rcases hProgress with hFalse | ⟨entered, hEntered, _⟩
          · rw [hFalse] at hFinished
            cases hFinished
          · rw [hEntered] at hFinished
            cases hFinished
        · rw [fire_locals_of_ne system hq] at hFinished
          exact hNone q hFinished
  | entered read =>
      obtain ⟨hSuccess, hRow⟩ := hReads process read hLocal
      rcases finishDelivery_cases (attempts process).ctx read system.shared with
        ⟨hSame', hFinished⟩ | ⟨hFinished, _, _, hSettled⟩
      · refine .pristine ?_ (reads_after hReads ?_) ?_
        · rw [fire_shared, hLocal]
          exact hSame.trans hSame'
        · intro entered hEntered
          rw [hLocal, deliver, hFinished] at hEntered
          cases hEntered
        · intro q hTrue
          by_cases hq : q = process
          · subst hq
            rw [fire_locals_self, hLocal, deliver, hFinished] at hTrue
            cases hTrue
          · rw [fire_locals_of_ne system hq] at hTrue
            exact hNone q hTrue
      · have hCredits : read.credits = true := by
          rw [DeliveryRead.credits_iff, hRow]
          exact ⟨hSuccess, hStatus, hSnapshot⟩
        have hTarget : creditTarget read.payment system.shared.demands = some demand := by
          rw [hRow, hSame.demands]
          exact creditTarget_of_linked hDemand hPublished hLink
        have hReads' : ∀ q entered, (fire (deliver attempts) system process).locals q =
            .entered entered → entered.success = true ∧ entered.payment.id = payment.id := by
          refine reads_after (fun q entered hEntered => ?_) ?_
          · obtain ⟨hReported, hRead⟩ := hReads q entered hEntered
            exact ⟨hReported, by rw [hRead]⟩
          · intro entered hEntered
            rw [hLocal, deliver, hFinished] at hEntered
            cases hEntered
        have hDone : (fire (deliver attempts) system process).locals process = .finished true := by
          rw [fire_locals_self, hLocal, deliver, hFinished]
        cases hSettled with
        | credited p p' d _ hTarget' hReplaced hId hSamePurpose hStatus' _ _ hDemand' _ _ =>
            rw [hTarget] at hTarget'
            cases hTarget'
            have hOld : p = payment := by
              refine eq_of_key hReplaced.mem_old hStored ?_
              rw [← hRow]
              exact hId
            subst hOld
            refine .credited p' (demand.credit p.amount) ?_ hSamePurpose.id
              hSamePurpose.merchTxnId ?_ ?_ rfl rfl hReads' ⟨process, hDone⟩
            · rw [fire_shared, hLocal]
              exact hReplaced.mem_new
            · rw [hStatus', DeliveryRead.status_of_success hSuccess]
            · rw [fire_shared, hLocal, ← hRow]
              exact hDemand'.mem_new
        | uncredited _ _ hUncredited =>
            rcases hUncredited with hFalse | hNoTarget
            · rw [hCredits] at hFalse
              cases hFalse
            · rw [hTarget] at hNoTarget
              cases hNoTarget
  | finished settled =>
      have hStutter : fire (deliver attempts) system process = system :=
        fire_eq_self (by rw [hLocal]; rfl)
      rw [hStutter]
      exact .pristine hSame hReads hNone

/-- Once credited, a delivery that reads the payment finds it a success, and
one that read it before is not fresh. Neither credits the demand. -/
theorem creditStage_of_credited {system : System Process Progress Db} {process : Process}
    (hDeliveries : SuccessDeliveries attempts payment)
    (hFresh : ReadsFresh attempts system process) {p : Payment} {d : PropertyDemand}
    (hp : p ∈ system.shared.payments.rows) (hId : p.id = payment.id)
    (hMerch : p.merchTxnId = payment.merchTxnId) (hSuccess : p.status = .success)
    (hd : d ∈ system.shared.demands.rows) (hdId : d.id = demand.id)
    (hPaid : d.amountPaid = demand.amountPaid + payment.amount)
    (hReads : ∀ process read, system.locals process = .entered read →
      read.success = true ∧ read.payment.id = payment.id)
    (hSome : ∃ process, system.locals process = .finished true) :
    CreditStage db₀ payment demand (fire (deliver attempts) system process) := by
  obtain ⟨q, hq⟩ := hSome
  have hSome' : ∃ q, (fire (deliver attempts) system process).locals q = .finished true :=
    ⟨q, finished_after hq⟩
  cases hLocal : system.locals process with
  | waiting =>
      have hConcerns := (hDeliveries process).1
      rw [← hId, ← hMerch] at hConcerns
      obtain ⟨hSame, hProgress⟩ := beginDelivery_cases hConcerns hp
      refine .credited p d ?_ hId hMerch hSuccess ?_ hdId hPaid (reads_after hReads ?_) hSome'
      · rw [fire_shared, hLocal, deliver, hSame.payments]
        exact hp
      · rw [fire_shared, hLocal, deliver, hSame.demands]
        exact hd
      · intro read hRead
        rw [hLocal] at hRead
        rcases hProgress with hFinished | ⟨entered, hEntered, hRow, hReports⟩
        · rw [deliver, hFinished] at hRead
          cases hRead
        · rw [deliver, hEntered] at hRead
          cases hRead
          exact ⟨hReports (hDeliveries process).2, by rw [hRow, hId]⟩
  | entered read =>
      obtain ⟨hReported, hReadId⟩ := hReads process read hLocal
      rcases finishDelivery_cases (attempts process).ctx read system.shared with
        ⟨hSame, hFinished⟩ | ⟨hFinished, hProceeds, hFree, hSettled⟩
      · refine .credited p d ?_ hId hMerch hSuccess ?_ hdId hPaid (reads_after hReads ?_) hSome'
        · rw [fire_shared, hLocal, deliver, hSame.payments]
          exact hp
        · rw [fire_shared, hLocal, deliver, hSame.demands]
          exact hd
        · intro entered hEntered
          rw [hLocal, deliver, hFinished] at hEntered
          cases hEntered
      · -- The payment was read as a success: otherwise the reading is outdated.
        have hReadSuccess : read.payment.status = .success := by
          by_contra hStale
          exact hFresh read hLocal
            ⟨hProceeds, hFree, hStale, p, hp, by rw [hId, hReadId], hSuccess⟩
        cases hSettled with
        | credited _ _ _ hCredits =>
            have hNot := ((DeliveryRead.credits_iff read).mp hCredits).2.1
            exact absurd hReadSuccess hNot
        | uncredited r r' _ hReplaced hrId hSamePurpose hStatus' _ _ hDemands _ _ =>
            have hOld : r = p := by
              refine eq_of_key hReplaced.mem_old hp ?_
              exact hrId.trans (hReadId.trans hId.symm)
            subst hOld
            refine .credited r' d ?_ (hSamePurpose.id.trans hId)
              (hSamePurpose.merchTxnId.trans hMerch) ?_ ?_ hdId hPaid (reads_after hReads ?_)
              hSome'
            · rw [fire_shared, hLocal]
              exact hReplaced.mem_new
            · rw [hStatus', DeliveryRead.status_of_success hReported]
            · rw [fire_shared, hLocal, deliver, hDemands]
              exact hd
            · intro entered hEntered
              rw [hLocal, deliver, hFinished] at hEntered
              cases hEntered
  | finished settled =>
      have hStutter : fire (deliver attempts) system process = system :=
        fire_eq_self (by rw [hLocal]; rfl)
      rw [hStutter]
      exact .credited p d hp hId hMerch hSuccess hd hdId hPaid hReads ⟨q, hq⟩

/-- In every run of any number of success deliveries, in any order of their
steps, the demand holds the payment's amount exactly once as soon as one of the
transactions has committed, and is untouched before. -/
theorem amountPaid_of_fresh_run (hDeliveries : SuccessDeliveries attempts payment)
    (hPayment : payment ∈ db₀.payments.rows) (hStatus : payment.status ≠ .success)
    (hSnapshot : payment.receiptSnapshot = none) (hDemand : demand ∈ db₀.demands.rows)
    (hPublished : demand.status = .published) (hLink : payment.propertyDemandId = some demand.id)
    {schedule : List Process}
    (hFresh : Along (fire (deliver attempts)) (ReadsFresh attempts) (undelivered db₀) schedule) :
    let final := run (fire (deliver attempts)) (undelivered db₀) schedule
    ∃ d ∈ final.shared.demands.rows, d.id = demand.id ∧
      ((∃ process, final.locals process = .finished true) →
        d.amountPaid = demand.amountPaid + payment.amount) ∧
      ((∀ process, final.locals process ≠ .finished true) →
        d.amountPaid = demand.amountPaid) := by
  have hStart : CreditStage db₀ payment demand (undelivered db₀ : System Process Progress Db) :=
    .pristine (SameLedger.refl db₀) (fun _ _ h => by cases h) (fun _ h => by cases h)
  have hStage := run_invariant_along (CreditStage db₀ payment demand)
    (fun system process hStage hGuard => by
      cases hStage with
      | pristine hSame hReads hNone =>
          exact creditStage_of_pristine hDeliveries hPayment hStatus hSnapshot hDemand hPublished
            hLink hSame hReads hNone
      | credited p d hp hId hMerch hSuccess hd hdId hPaid hReads hSome =>
          exact creditStage_of_credited hDeliveries hGuard hp hId hMerch hSuccess hd hdId hPaid
            hReads hSome) hStart hFresh
  intro final
  cases hStage with
  | pristine hSame hReads hNone =>
      refine ⟨demand, by rw [hSame.demands]; exact hDemand, rfl, ?_, fun _ => rfl⟩
      intro hFinished
      obtain ⟨process, hProcess⟩ := hFinished
      exact absurd hProcess (hNone process)
  | credited p d hp hId hMerch hSuccess hd hdId hPaid hReads hSome =>
      refine ⟨d, hd, hdId, fun _ => hPaid, ?_⟩
      intro hNone
      obtain ⟨process, hProcess⟩ := hSome
      exact absurd hProcess (hNone process)

end Run

/-- Two staff requeries of the sample payment, answered by the sandbox. -/
def twoRequeries (_ : Bool) : Attempt where
  ctx := Sample.context
  delivery := .requery Sample.administrator 2 (some (sandboxRequery "CHH-1-a"))

/-- What a delivery that is about to act has read. -/
def Progress.read? : Progress → Option DeliveryRead
  | .entered read => some read
  | _ => none

omit [DecidableEq Process] in
/-- A delivery that has read a successful payment acts on no outdated reading. -/
theorem readsFresh_of_read? {attempts : Process → Attempt} {system : System Process Progress Db}
    {process : Process}
    (h : (system.locals process).read?.all (fun read => read.payment.status = .success) = true) :
    ReadsFresh attempts system process := by
  rintro read hLocal ⟨-, -, hNot, -⟩
  rw [hLocal] at h
  exact hNot (of_decide_eq_true h)

/-- The second requery reads the payment after the first has settled it. -/
theorem amountPaid_of_fresh_requery :
    let final := run (fire (deliver twoRequeries)) (undelivered Sample.db) [true, true, false, false]
    ∃ d ∈ final.shared.demands.rows, d.id = Sample.demand.id ∧
      ((∃ process, final.locals process = .finished true) → d.amountPaid = 0 + 40000) ∧
      ((∀ process, final.locals process ≠ .finished true) → d.amountPaid = 0) := by
  have hRows : (fire (deliver twoRequeries) (undelivered Sample.db) true).shared.payments.rows =
      [Sample.payment] := by decide
  have hDeliveries : SuccessDeliveries twoRequeries Sample.payment :=
    fun _ => ⟨rfl, _, rfl, rfl⟩
  have hDemand : Sample.demand ∈ Sample.db.demands.rows := List.mem_cons_self
  refine amountPaid_of_fresh_run hDeliveries List.mem_cons_self (by decide) rfl hDemand rfl rfl
    ⟨readsFresh_of_read? rfl, ?_, readsFresh_of_read? ?_, readsFresh_of_read? ?_, trivial⟩
  · intro read _ hStale
    obtain ⟨_, _, _, p, hp, _, hSuccess⟩ := hStale
    rw [hRows, List.mem_singleton] at hp
    subst hp
    cases hSuccess
  · decide
  · decide

/-- Both requeries read the pending payment, and each credits its 400 rupees. -/
theorem overlapping_requeries_credit_twice :
    SuccessDeliveries twoRequeries Sample.payment ∧
      Sample.payment ∈ Sample.db.payments.rows ∧ Sample.payment.status ≠ .success ∧
      Sample.payment.receiptSnapshot = none ∧ Sample.demand ∈ Sample.db.demands.rows ∧
      Sample.demand.status = .published ∧
      Sample.payment.propertyDemandId = some Sample.demand.id ∧
      (run (fire (deliver twoRequeries)) (undelivered Sample.db)
        [true, false, true, false]).shared.demands.rows.map PropertyDemand.amountPaid =
          [Sample.demand.amountPaid + 2 * Sample.payment.amount] := by
  refine ⟨fun _ => ⟨rfl, _, rfl, rfl⟩, List.mem_cons_self, by decide, rfl, List.mem_cons_self,
    rfl, rfl, ?_⟩
  decide +kernel

end PropertyTax
