import PropertyTax.Ledger.Rows

/-! What a callback does to the callback rows and to the payments, and what is
true of the callback rows in every reachable state. -/
namespace PropertyTax
open KeyedTable Runs

/-- What a callback that has read `read` does to the callback rows: nothing, or
it rewrites the row that it found, or it creates one where it found none. -/
inductive CallbackWritten (read : CallbackRead) (callbacks callbacks' : KeyedTable PaymentCallback) :
    Prop where
  | kept (h : callbacks' = callbacks)
  | rewritten (existing c c' : PaymentCallback) (hExisting : read.existing = some existing)
      (hRow : Replaced callbacks callbacks' c c') (hId : c.id = existing.id)
      (hPayment : c'.paymentId = c.paymentId) (hMerch : c'.merchTxnId = c.merchTxnId)
  | created (c : PaymentCallback) (hExisting : read.existing = none)
      (hRow : Added callbacks callbacks' c) (hPayment : c.paymentId = some read.payment.id)
      (hMerch : c.merchTxnId = some read.merchTxnId)

/-- A duplicate is written into the row that it repeats. -/
theorem attachToDuplicate_written {read : CallbackRead} {existing : PaymentCallback}
    (hExisting : read.existing = some existing) (db : Db) :
    CallbackWritten read db.callbacks (attachToDuplicate read existing db).1.callbacks := by
  unfold attachToDuplicate
  split_ifs
  · cases hUpdate : db.updateCallback existing.id fun c => { c with
        atomTxnId := read.atomTxnId
        statusCode := some read.statusCode
        rawPayload := read.storedPayload
        idempotencyKey := some read.idempotencyKey } with
    | error refusal => exact .kept rfl
    | ok after =>
        obtain ⟨c, callbacks, hId, hRow, rfl⟩ := Db.updateCallback_ok hUpdate fun _ => rfl
        exact .rewritten existing c _ hExisting hRow hId rfl rfl
  · exact .kept rfl

/-- The two writes of the transaction come to one. -/
theorem callbackTransaction_written {ctx : Context} {read : CallbackRead} {db db' : Db}
    {answer : Option PaymentCallback × Option Payment}
    (h : callbackTransaction ctx read db = .ok (db', answer)) :
    CallbackWritten read db.callbacks db'.callbacks := by
  unfold callbackTransaction at h
  obtain ⟨⟨written, callbackId⟩, hWrite, h⟩ := bind_ok h
  obtain ⟨⟨credited, extras⟩, hCredit, h⟩ := bind_ok h
  obtain ⟨paid, hPayment, h⟩ := bind_ok h
  obtain ⟨processed, hProcessed, h⟩ := bind_ok h
  cases h
  obtain ⟨_, _, _, _, rfl⟩ := Db.updatePayment_ok hPayment fun p =>
    (callbackPaymentData_same read _ _ extras p).id
  obtain ⟨c, callbacks, hId, hRow, rfl⟩ := Db.updateCallback_ok hProcessed fun _ => rfl
  have hSame : credited.callbacks = written.callbacks := (demandExtrasOn_rows hCredit).callbacks
  change Replaced credited.callbacks callbacks c _ at hRow
  rw [hSame] at hRow
  unfold writeCallback at hWrite
  cases hExisting : read.existing with
  | some existing =>
      simp only [hExisting] at hWrite
      obtain ⟨updated, hUpdate, hPair⟩ := map_ok hWrite
      obtain ⟨old, rows, hOldId, hOld, rfl⟩ := Db.updateCallback_ok hUpdate fun _ => rfl
      cases hPair
      have hNew : c = _ := eq_of_key hRow.mem_old hOld.mem_new (hId.trans hOldId.symm)
      subst hNew
      exact .rewritten existing old _ hExisting (hOld.trans hRow) hOldId rfl rfl
  | none =>
      simp only [hExisting] at hWrite
      obtain ⟨created, hCreate, hPair⟩ := map_ok hWrite
      obtain ⟨rows, hNew, rfl⟩ := Db.createCallback_ok hCreate
      cases hPair
      have hCreated : c = _ := eq_of_key hRow.mem_old hNew.mem_row hId
      subst hCreated
      exact .created _ hExisting (hRow.added_trans hNew) rfl rfl

/-- A callback writes its own row, and no other. -/
theorem finishCallback_written (ctx : Context) (read : CallbackRead) (db : Db) :
    CallbackWritten read db.callbacks (finishCallback ctx read db).1.callbacks := by
  unfold finishCallback
  cases hDuplicate : read.duplicateOf with
  | some existing =>
      exact attachToDuplicate_written (Option.filter_eq_some_iff.mp hDuplicate).1 db
  | none =>
      dsimp only
      split
      · exact .kept rfl
      · cases hBody : callbackTransaction ctx read db with
        | error refusal => exact .kept rfl
        | ok result =>
            obtain ⟨after, callback, payment⟩ := result
            have hWritten := callbackTransaction_written hBody
            dsimp only [commit]
            rw [(logStatusChange_same read after).2]
            exact hWritten

/-- What a callback that has read `payment` does to the payments. -/
inductive PaymentSettled (payment : Payment) (payments payments' : KeyedTable Payment) : Prop where
  | kept (h : payments' = payments)
  | settled (p p' : Payment) (hRow : Replaced payments payments' p p') (hId : p.id = payment.id)
      (hSame : SamePurpose p p')

/-- A callback settles its own payment, and no other. -/
theorem finishCallback_settled (ctx : Context) (read : CallbackRead) (db : Db) :
    PaymentSettled read.payment db.payments (finishCallback ctx read db).1.payments := by
  rcases finishCallback_cases ctx read db with ⟨hSame, _⟩ | ⟨_, _, _, hSettled, _⟩
  · exact .kept hSame.payments
  · cases hSettled with
    | credited p p' _ _ _ hRow hId hSame => exact .settled p p' hRow hId hSame
    | uncredited p p' _ hRow hId hSame => exact .settled p p' hRow hId hSame

/-- A callback either ends before its writes, or writes as its reads say. -/
theorem handleCallback_rows (ctx : Context) (payload : Json.Fields) (db : Db) :
    ((handleCallback ctx payload db).1.payments = db.payments ∧
      (handleCallback ctx payload db).1.callbacks = db.callbacks) ∨
    ∃ read, CallbackReadFrom ctx payload db read ∧
      PaymentSettled read.payment db.payments (handleCallback ctx payload db).1.payments ∧
      CallbackWritten read db.callbacks (handleCallback ctx payload db).1.callbacks := by
  obtain ⟨hLedger, hCallbacks⟩ := readCallback_same ctx payload db
  unfold handleCallback
  rcases hRead : readCallback ctx payload db with ⟨after, _ | outcome | read⟩
  · rw [hRead] at hLedger hCallbacks
    exact Or.inl ⟨hLedger.payments, hCallbacks⟩
  · rw [hRead] at hLedger hCallbacks
    exact Or.inl ⟨hLedger.payments, hCallbacks⟩
  · rw [hRead] at hLedger hCallbacks
    have hSettled := finishCallback_settled ctx read after
    have hWritten := finishCallback_written ctx read after
    rw [hLedger.payments] at hSettled
    rw [hCallbacks] at hWritten
    exact Or.inr ⟨read, readCallback_inr hRead, hSettled, hWritten⟩

/-- The browser return leaves the database as the callback does. -/
theorem handleGatewayReturn_fst (ctx : Context) (payload : Json.Fields) (db : Db) :
    (handleGatewayReturn ctx payload db).1 = (handleCallback ctx payload db).1 :=
  (handleGatewayReturn_db ctx payload db).trans (handleCallback_db ctx payload db).symm

/-! ### Runs -/

/-- The callback row belongs to a stored payment, by both of its references. -/
def PaymentCallback.Owned (payments : KeyedTable Payment) (c : PaymentCallback) : Prop :=
  ∃ p ∈ payments.rows, ∃ merchTxnId, p.merchTxnId = some merchTxnId ∧
    c.merchTxnId = some merchTxnId ∧ c.paymentId = some p.id

def CallbacksOwned (db : Db) : Prop := ∀ c ∈ db.callbacks.rows, c.Owned db.payments

/-- A callback's payment is still there when payments are kept. -/
theorem PaymentCallback.Owned.keeps {payments payments' : KeyedTable Payment} {c : PaymentCallback}
    (h : c.Owned payments) (hKeeps : KeepsPayments payments payments') : c.Owned payments' := by
  obtain ⟨p, hp, merchTxnId, hMerch, hRow, hPayment⟩ := h
  obtain ⟨p', hp', hId, hMerch'⟩ := hKeeps p hp
  exact ⟨p', hp', merchTxnId, hMerch'.trans hMerch, hRow, by rw [hPayment, hId]⟩

/-- Calls that leave the callbacks alone leave them with their payments. -/
theorem CallbacksOwned.keeps {db db' : Db} (h : CallbacksOwned db) (hRows : KeepsRows db db') :
    CallbacksOwned db' := by
  intro c hc
  rw [hRows.callbacks] at hc
  exact (h c hc).keeps hRows.payments

/-- A callback is stored with the payment that it is about. -/
theorem CallbacksOwned.callback {db : Db} (h : CallbacksOwned db) (ctx : Context)
    (payload : Json.Fields) : CallbacksOwned (handleCallback ctx payload db).1 := by
  rcases handleCallback_rows ctx payload db with
    ⟨hPayments, hCallbacks⟩ | ⟨read, hRead, hSettled, hWritten⟩
  · exact h.keeps (.of_same hPayments hCallbacks)
  · have hKeeps : KeepsPayments db.payments (handleCallback ctx payload db).1.payments := by
      cases hSettled with
      | kept hSame =>
          rw [hSame]
          exact .refl _
      | settled p p' hRow _ hSame => exact .of_replaced hRow hSame.merchTxnId
    have hOwned : ∀ c ∈ db.callbacks.rows,
        c.Owned (handleCallback ctx payload db).1.payments := fun c hc => (h c hc).keeps hKeeps
    unfold CallbacksOwned
    cases hWritten with
    | kept hSame =>
        rw [hSame]
        exact hOwned
    | rewritten existing c c' _ hRow _ hPayment hMerch =>
        obtain ⟨p, hp, merchTxnId, hpMerch, hcMerch, hcPayment⟩ := hOwned c hRow.mem_old
        exact hRow.forall_rows hOwned
          ⟨p, hp, merchTxnId, hpMerch, hMerch.trans hcMerch, hPayment.trans hcPayment⟩
    | created c _ hRow hPayment hMerch =>
        obtain ⟨hMem, hpMerch⟩ := Db.paymentByMerchTxnId?_spec hRead.payment
        obtain ⟨p', hp', hId, hMerch'⟩ := hKeeps read.payment hMem
        exact hRow.forall_rows hOwned
          ⟨p', hp', read.merchTxnId, hMerch'.trans hpMerch, hMerch, by rw [hPayment, hId]⟩

theorem CallbacksOwned.step {db : Db} (h : CallbacksOwned db) (call : Call) :
    CallbacksOwned (perform db call) := by
  obtain ⟨ctx, operation⟩ := call
  cases operation with
  | createOnline input user suffix reply => exact h.keeps (createOnline_frame KeepsRows.frame)
  | createCitizenPayment dto suffix reply => exact h.keeps (createCitizenPayment_frame KeepsRows.frame)
  | deliver delivery =>
      cases delivery with
      | callback payload => exact h.callback ctx payload
      | requery user paymentId reply => exact h.keeps requery_rows
      | sync merchTxnId reply => exact h.keeps sync_rows
  | gatewayReturn payload =>
      change CallbacksOwned (handleGatewayReturn ctx payload db).1
      rw [handleGatewayReturn_fst]
      exact h.callback ctx payload
  | createOffline input user suffix => exact h.keeps (createOffline_frame KeepsRows.frame)
  | refund user paymentId amount reason reply => exact h.keeps refund_rows
  | publish surveyId assessmentYearId actorId => exact h.keeps (publish_frame KeepsRows.frame)
  | publishForWard wardId assessmentYearId actorId => exact h.keeps (publishForWard_frame KeepsRows.frame)
  | commitYearEnd fromYearId toYearId actorId => exact h.keeps (commitYearEnd_frame KeepsRows.frame)

/-- In every reachable state each callback row belongs to a stored payment. -/
theorem callbacksOwned_of_run (calls : List Call) :
    CallbacksOwned (run perform Db.empty calls) :=
  run_invariant CallbacksOwned (fun _ call h => h.step call) (fun _ hc => absurd hc List.not_mem_nil) calls

end PropertyTax
