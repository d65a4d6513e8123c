import PropertyTax.Ledger.Refunded

/-! The elementary writes that calls are made of. A relation between databases
that every write respects holds from the start to the end of every call that
opens, collects, publishes or carries. -/
namespace PropertyTax
open KeyedTable

/-- `keeps` is respected by every write of a call that delivers and refunds
nothing: other tables are written, a payment is created, or its status is set,
and no payment becomes a refunded one. -/
structure WriteFrame (keeps : Db → Db → Prop) : Prop where
  refl (db : Db) : keeps db db
  trans {db db' db'' : Db} : keeps db db' → keeps db' db'' → keeps db db''
  aside {db db' : Db} : db'.payments = db.payments → db'.callbacks = db.callbacks →
    db'.refunds = db.refunds → keeps db db'
  createPayment {db db' : Db} {row : Id → Payment} : db.createPayment row = .ok db' →
    (∀ id, ¬ (row id).status.IsRefunded) → keeps db db'
  setPaymentStatus {db db' : Db} {id : Id} {status : PaymentStatus} :
    db.updatePayment id (setPaymentStatus status) = .ok db' → ¬ status.IsRefunded → keeps db db'

namespace WriteFrame
variable {keeps : Db → Db → Prop} (frame : WriteFrame keeps) {db db' : Db} {id : Id}
include frame

theorem updateDemand {data : PropertyDemand → PropertyDemand}
    (h : db.updateDemand id data = .ok db') (hData : ∀ d, (data d).id = d.id) : keeps db db' := by
  obtain ⟨_, _, _, _, rfl⟩ := Db.updateDemand_ok h hData
  exact frame.aside rfl rfl rfl

theorem createDemand {row : Id → PropertyDemand} (h : db.createDemand row = .ok db') :
    keeps db db' := by
  obtain ⟨_, _, rfl⟩ := Db.createDemand_ok h
  exact frame.aside rfl rfl rfl

/-- A transaction keeps what its body keeps. -/
theorem commit {α : Type} {body : Except Refusal (Db × α)}
    (h : ∀ after answer, body = .ok (after, answer) → keeps db after) :
    keeps db (commit db body).1 := by
  cases body with
  | error refusal => exact frame.refl db
  | ok result => exact h result.1 result.2 rfl

end WriteFrame

theorem initiated_not_refunded : ¬ PaymentStatus.IsRefunded .initiated := by
  rintro (h | h) <;> cases h

theorem pending_not_refunded : ¬ PaymentStatus.IsRefunded .pending := by
  rintro (h | h) <;> cases h

theorem failed_not_refunded : ¬ PaymentStatus.IsRefunded .failed := by
  rintro (h | h) <;> cases h

theorem success_not_refunded : ¬ PaymentStatus.IsRefunded .success := fun h => h.ne_success rfl

/-! ### Opening, collecting, publishing and carrying -/

section Payments
variable {keeps : Db → Db → Prop} (frame : WriteFrame keeps) {ctx : Context} {db : Db}
  {paymentId : Id}
include frame

theorem failOpened_frame {α : Type} {error : ApiError} :
    keeps db (failOpened paymentId error db : Reply α).1 := by
  unfold failOpened
  cases hUpdate : db.updatePayment paymentId (setPaymentStatus .failed) with
  | error refusal => exact frame.refl db
  | ok after => exact frame.setPaymentStatus hUpdate failed_not_refunded

theorem finishOpened_frame {reply : CreatePaymentReply} :
    keeps db (finishOpened paymentId reply db).1 := by
  unfold finishOpened
  cases reply with
  | invalid code message => exact failOpened_frame frame
  | threw => exact failOpened_frame frame
  | answered result =>
      have hSent : keeps db (db.addTransaction
          { paymentId
            direction := "outbound"
            requestPayload := result.raw.map redactSensitivePaymentPayload
            statusCode := some "INIT" }) := frame.aside rfl rfl rfl
      dsimp only
      split_ifs
      · exact frame.trans hSent (failOpened_frame frame)
      · cases hUpdate : (db.addTransaction _).updatePayment paymentId
            (setPaymentStatus .pending) with
        | error refusal => exact hSent
        | ok after => exact frame.trans hSent (frame.setPaymentStatus hUpdate pending_not_refunded)

theorem createOnlinePayment_frame {input : OnlinePaymentInput} {collectedById : Option Id}
    {suffix : String} {reply : CreatePaymentReply} :
    keeps db (createOnlinePayment ctx input collectedById suffix reply db).1 := by
  unfold createOnlinePayment
  dsimp only
  cases hCreate : db.createPayment (openedPayment ctx input
      (newCitizenMerchTxnId ctx.now suffix) collectedById) with
  | error refusal => exact frame.refl db
  | ok after =>
      have hCreated := frame.createPayment hCreate fun _ => initiated_not_refunded
      exact frame.trans hCreated (finishOpened_frame frame)

theorem createOnline_frame {input : CreateOnlineInput} {user : AuthUser} {suffix : String}
    {reply : CreatePaymentReply} :
    keeps db (createOnline ctx input user suffix reply db).1 := by
  unfold createOnline
  cases hInput : onlineInput ctx input user db with
  | error error => exact frame.refl db
  | ok request => exact createOnlinePayment_frame frame

theorem createCitizenPayment_frame {dto : CitizenPaymentDto} {suffix : String}
    {reply : CreatePaymentReply} :
    keeps db (createCitizenPayment ctx dto suffix reply db).1 := by
  unfold createCitizenPayment
  cases hInput : citizenInput ctx dto db with
  | error error => exact frame.refl db
  | ok request =>
      have hRows : keeps db (createOnlinePayment ctx request none suffix reply db).1 :=
        createOnlinePayment_frame frame
      dsimp only
      rcases hResult : createOnlinePayment ctx request none suffix reply db with
        ⟨after, _ | ⟨payment, gateway⟩⟩
      · rw [hResult] at hRows
        exact hRows
      · rw [hResult] at hRows
        dsimp only
        split_ifs <;> exact hRows

theorem createOffline_frame {input : OfflineInput} {user : AuthUser} {suffix : String} :
    keeps db (createOffline ctx input user suffix db).1 := by
  unfold createOffline
  split
  · exact frame.refl db
  · exact frame.refl db
  · split
    · exact frame.refl db
    · split
      · exact frame.refl db
      · dsimp only
        split
        · unfold answerCollision
          split <;> exact frame.refl db
        · exact frame.refl db
        · rename_i after paymentId hCollect
          obtain ⟨created, hCreate, hCollect⟩ := bind_ok hCollect
          obtain ⟨credited, hUpdate, hCollect⟩ := bind_ok hCollect
          cases hCollect
          have hCreated := frame.createPayment hCreate fun _ => success_not_refunded
          have hCredited := frame.trans hCreated (frame.updateDemand hUpdate fun _ => rfl)
          exact frame.trans hCredited (frame.aside rfl rfl rfl)

end Payments

section Demands
variable {keeps : Db → Db → Prop} (frame : WriteFrame keeps) {ctx : Context} {db db' : Db}
include frame

theorem upsert_frame (input : PublishInput) :
    keeps db (upsertPublishedDemandForSurvey ctx input db).1 := by
  rcases upsertPublishedDemandForSurvey_cases ctx input db with ⟨error, hRefused⟩ | hWritten
  · rw [hRefused]
    exact frame.refl db
  rw [hWritten]
  refine frame.commit fun after demandId hWrite => ?_
  unfold writePublishedDemand at hWrite
  split at hWrite
  · obtain ⟨updated, hUpdate, hPair⟩ := map_ok hWrite
    cases hPair
    exact frame.updateDemand hUpdate fun _ => rfl
  · obtain ⟨created, hCreate, hPair⟩ := map_ok hWrite
    cases hPair
    exact frame.createDemand hCreate

theorem publish_frame {surveyId assessmentYearId : Id} {actorId : Option Id} :
    keeps db (publish ctx surveyId assessmentYearId actorId db).1 := by
  unfold publish
  cases hInput : publishInput ctx surveyId assessmentYearId actorId with
  | error error => exact frame.refl db
  | ok input =>
      have hRows : keeps db (upsertPublishedDemandForSurvey ctx input db).1 :=
        upsert_frame frame input
      dsimp only
      rcases hResult : upsertPublishedDemandForSurvey ctx input db with ⟨after, _ | demandId⟩
      · rw [hResult] at hRows
        exact hRows
      · rw [hResult] at hRows
        exact frame.trans hRows (frame.aside rfl rfl rfl)

theorem publishForWard_frame {wardId assessmentYearId : Id} {actorId : Option Id} :
    keeps db (publishForWard ctx wardId assessmentYearId actorId db).1 :=
  publishForWard_invariant (keeps db)
    (fun _ _ _ _ _ hKept => frame.trans hKept (upsert_frame frame _))
    (fun _ _ hKept => frame.trans hKept (frame.aside rfl rfl rfl)) (frame.refl db)

theorem carryTarget_frame {row : ProposedArrear} {target : PropertyDemand}
    (h : carryTarget row db = .ok (db', target)) : keeps db db' := by
  unfold carryTarget at h
  split at h
  · cases h
    exact frame.refl db
  · obtain ⟨created, hCreate, hPair⟩ := map_ok h
    cases hPair
    exact frame.createDemand hCreate

theorem carryRow_frame {row : ProposedArrear} {counts counts' : CarryCounts}
    (h : carryRow row counts db = .ok (db', counts')) : keeps db db' := by
  unfold carryRow at h
  obtain ⟨⟨targeted, target⟩, hTarget, h⟩ := bind_ok h
  have hRows := carryTarget_frame frame hTarget
  dsimp only at h
  split_ifs at h
  · cases h
    exact hRows
  · obtain ⟨created, hCreate, h⟩ := bind_ok h
    obtain ⟨updated, hUpdate, h⟩ := bind_ok h
    cases h
    have hCreated : keeps targeted created := by
      obtain ⟨_, _, rfl⟩ := Db.createDemandArrear_ok hCreate
      exact frame.aside rfl rfl rfl
    exact frame.trans hRows (frame.trans hCreated (frame.updateDemand hUpdate fun _ => rfl))

theorem carryRows_frame {rows : List ProposedArrear} {counts counts' : CarryCounts}
    (h : carryRows rows counts db = .ok (db', counts')) : keeps db db' := by
  induction rows generalizing counts db with
  | nil =>
      cases h
      exact frame.refl _
  | cons row rest ih =>
      obtain ⟨⟨carried, counts''⟩, hRow, hRest⟩ := bind_ok h
      exact frame.trans (carryRow_frame frame hRow) (ih hRest)

theorem writeYearEndRun_frame {existingRun : Option YearEndRun} {fromYearId toYearId runId : Id}
    {summary : YearEndSummary} {now : Timestamp} {actorId : Option Id}
    (h : writeYearEndRun existingRun fromYearId toYearId summary now actorId db =
      .ok (db', runId)) : keeps db db' := by
  unfold writeYearEndRun at h
  split at h
  · obtain ⟨updated, hUpdate, hPair⟩ := map_ok h
    obtain ⟨_, rfl⟩ := Db.updateYearEndRun_ok hUpdate
    cases hPair
    exact frame.aside rfl rfl rfl
  · obtain ⟨created, hCreate, hPair⟩ := map_ok h
    obtain ⟨_, rfl⟩ := Db.createYearEndRun_ok hCreate
    cases hPair
    exact frame.aside rfl rfl rfl

theorem commitYearEnd_frame {fromYearId toYearId : Id} {actorId : Option Id} :
    keeps db (commitYearEnd ctx fromYearId toYearId actorId db).1 := by
  unfold commitYearEnd
  split
  · exact frame.refl db
  · dsimp only
    split
    · exact frame.refl db
    · split
      · exact frame.refl db
      · rename_i preview _
        have hRows : keeps db (commit db (yearEndTransaction ctx
            (yearEndRun? db fromYearId toYearId) preview actorId db)).1 := by
          refine frame.commit fun after result hBody => ?_
          unfold yearEndTransaction at hBody
          obtain ⟨⟨carried, counts⟩, hCarried, hBody⟩ := bind_ok hBody
          obtain ⟨⟨committed, runId⟩, hRun, hBody⟩ := bind_ok hBody
          cases hBody
          exact frame.trans (carryRows_frame frame hCarried) (writeYearEndRun_frame frame hRun)
        rcases hResult : commit db _ with ⟨after, _ | result⟩
        · rw [hResult] at hRows
          exact hRows
        · rw [hResult] at hRows
          exact frame.trans hRows (frame.aside rfl rfl rfl)

end Demands

/-! ### The payments and the callback rows -/

/-- Every payment is still stored, under its id and its transaction id. -/
def KeepsPayments (payments payments' : KeyedTable Payment) : Prop :=
  ∀ p ∈ payments.rows, ∃ p' ∈ payments'.rows, p'.id = p.id ∧ p'.merchTxnId = p.merchTxnId

theorem KeepsPayments.refl (payments : KeyedTable Payment) : KeepsPayments payments payments :=
  fun p hp => ⟨p, hp, rfl, rfl⟩

theorem KeepsPayments.trans {a b c : KeyedTable Payment} (h : KeepsPayments a b)
    (h' : KeepsPayments b c) : KeepsPayments a c := by
  intro p hp
  obtain ⟨q, hq, hId, hMerch⟩ := h p hp
  obtain ⟨r, hr, hId', hMerch'⟩ := h' q hq
  exact ⟨r, hr, hId'.trans hId, hMerch'.trans hMerch⟩

/-- A new payment leaves the others in their place. -/
theorem KeepsPayments.of_added {payments payments' : KeyedTable Payment} {p : Payment}
    (h : Added payments payments' p) : KeepsPayments payments payments' :=
  fun q hq => ⟨q, h.mem_of_mem hq, rfl, rfl⟩

/-- A payment that keeps its merchant transaction is kept. -/
theorem KeepsPayments.of_replaced {payments payments' : KeyedTable Payment} {p p' : Payment}
    (h : Replaced payments payments' p p') (hMerch : p'.merchTxnId = p.merchTxnId) :
    KeepsPayments payments payments' := by
  intro q hq
  rcases h.exists_row hq with hRow | rfl
  · exact ⟨q, hRow, rfl, rfl⟩
  · exact ⟨p', h.mem_new, h.key_eq, hMerch⟩

/-- No payment loses its row, and the callback rows are as they were. -/
structure KeepsRows (db db' : Db) : Prop where
  payments : KeepsPayments db.payments db'.payments
  callbacks : db'.callbacks = db.callbacks

namespace KeepsRows
variable {db db' db'' : Db} {id : Id}

theorem refl (db : Db) : KeepsRows db db := ⟨KeepsPayments.refl _, rfl⟩

theorem trans (h : KeepsRows db db') (h' : KeepsRows db' db'') : KeepsRows db db'' :=
  ⟨h.payments.trans h'.payments, h'.callbacks.trans h.callbacks⟩

theorem of_same (hPayments : db'.payments = db.payments) (hCallbacks : db'.callbacks = db.callbacks) :
    KeepsRows db db' := ⟨hPayments ▸ KeepsPayments.refl _, hCallbacks⟩

/-- A new payment keeps the payments and callbacks there were. -/
theorem createPayment {row : Id → Payment} (h : db.createPayment row = .ok db') :
    KeepsRows db db' := by
  obtain ⟨_, hAdded, rfl⟩ := Db.createPayment_ok h
  exact ⟨.of_added hAdded, rfl⟩

/-- An update that leaves id and merchant transaction keeps the payments and callbacks. -/
theorem updatePayment {data : Payment → Payment} (h : db.updatePayment id data = .ok db')
    (hData : ∀ p, (data p).id = p.id ∧ (data p).merchTxnId = p.merchTxnId) :
    KeepsRows db db' := by
  obtain ⟨p, _, _, hReplaced, rfl⟩ := Db.updatePayment_ok h fun p => (hData p).1
  exact ⟨.of_replaced hReplaced (hData p).2, rfl⟩

/-- A transaction keeps the rows if what it computes does. -/
theorem commit {α : Type} {body : Except Refusal (Db × α)}
    (h : ∀ after answer, body = .ok (after, answer) → KeepsRows db after) :
    KeepsRows db (commit db body).1 := by
  cases body with
  | error refusal => exact refl db
  | ok result => exact h result.1 result.2 rfl

theorem frame : WriteFrame KeepsRows where
  refl := refl
  trans h h' := h.trans h'
  aside hPayments hCallbacks _ := of_same hPayments hCallbacks
  createPayment h _ := createPayment h
  setPaymentStatus h _ := updatePayment h fun _ => ⟨rfl, rfl⟩

end KeepsRows

/-- The credit of a demand keeps payments and callbacks. -/
theorem demandExtrasOn_rows {firstSuccess : Bool} {ctx : Context} {payment : Payment}
    {receiptNumber : String} {paidAt : Timestamp} {db db' : Db} {extras : Option DemandExtras}
    (h : demandExtrasOn firstSuccess ctx payment receiptNumber paidAt db = .ok (db', extras)) :
    KeepsRows db db' := by
  rcases demandExtrasOn_ok h with ⟨_, rfl, _⟩ | ⟨_, _, _, _, _, _, rfl, _⟩
  · exact .refl _
  · exact .of_same rfl rfl

section Deliveries
variable {ctx : Context} {db : Db} {paymentId : Id}

/-- A success that a requery finds keeps payments and callbacks. -/
theorem finalizeRequerySuccess_rows {payment : Payment} {opts : FinalizeOptions} :
    KeepsRows db (finalizeRequerySuccess ctx payment opts db).1 := by
  unfold finalizeRequerySuccess
  split_ifs
  · refine KeepsRows.commit fun after answer hBody => ?_
    obtain ⟨updated, hUpdate, hPair⟩ := map_ok hBody
    cases hPair
    exact .updatePayment hUpdate fun _ => ⟨rfl, rfl⟩
  · refine KeepsRows.commit fun after answer hBody => ?_
    unfold requeryTransaction at hBody
    obtain ⟨⟨credited, extras⟩, hCredit, hBody⟩ := bind_ok hBody
    obtain ⟨updated, hUpdate, hBody⟩ := bind_ok hBody
    cases hBody
    have hSame := requeryPaymentData_same payment opts (receiptNumberOf payment)
      (payment.collectionDate.getD ctx.now) extras
    exact (demandExtrasOn_rows hCredit).trans
      (.updatePayment hUpdate fun p => ⟨(hSame p).id, (hSame p).merchTxnId⟩)

/-- So does a success that is recorded with a transaction. -/
theorem recorded_rows (payment : Payment) (opts : FinalizeOptions) (row : PaymentTransaction) :
    KeepsRows db (finalizeRequerySuccess ctx payment opts (db.addTransaction row)).1 := by
  have hRecorded : KeepsRows db (db.addTransaction row) := .of_same rfl rfl
  exact hRecorded.trans finalizeRequerySuccess_rows

/-- A requery keeps payments and callbacks. -/
theorem requery_rows {user : AuthUser} {reply : Option RequeryResult} :
    KeepsRows db (requery ctx user paymentId reply db).1 := by
  unfold requery
  cases hRead : requeryRead user paymentId db with
  | error error => exact .refl db
  | ok payment =>
      cases reply with
      | none => exact .refl db
      | some result =>
          have hRows : KeepsRows db (finalizeRequerySuccess ctx payment
              ⟨result.success, result.atomTxnId, false⟩
              (db.addTransaction (requeryTransactionRow payment result))).1 :=
            recorded_rows payment _ _
          dsimp only [finishRequery]
          rcases hResult : finalizeRequerySuccess ctx payment _ _ with ⟨after, _ | updated⟩
          · rw [hResult] at hRows
            exact hRows
          · rw [hResult] at hRows
            exact hRows.trans (.of_same rfl rfl)

/-- The citizen's polling keeps payments and callbacks. -/
theorem sync_rows {merchTxnId : String} {reply : Option RequeryResult} :
    KeepsRows db (syncCitizenPaymentByMerchTxnId ctx merchTxnId reply db).1 := by
  unfold syncCitizenPaymentByMerchTxnId
  cases hRead : syncRead merchTxnId db with
  | error error => exact .refl db
  | ok payment =>
      dsimp only [finishSync]
      split_ifs
      · exact .refl db
      · cases reply with
        | none => exact .refl db
        | some result => exact recorded_rows payment _ _

/-- A refund keeps payments and callbacks. -/
theorem refund_rows {user : AuthUser} {amount : ℚ} {reason : Option String}
    {reply : Option RefundResult} {now : Timestamp} :
    KeepsRows db (refund user paymentId amount reason reply now db).1 := by
  rcases refund_cases user paymentId amount reason reply now db with
    hSame | ⟨_, _, _, _, _, _, hRow | ⟨_, p, payments, _, hPayment, hPaid⟩⟩
  · rw [hSame]
    exact .refl db
  · rw [hRow]
    exact .of_same rfl rfl
  · rw [hPaid]
    exact ⟨.of_replaced hPayment rfl, rfl⟩

end Deliveries

end PropertyTax
