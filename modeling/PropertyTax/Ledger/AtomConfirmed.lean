import PropertyTax.Ledger.Operation

/-! The payments that the live provider confirms. A callback is matched with
the transaction and the amount it names, the reply to a status query is not. -/
namespace PropertyTax
open KeyedTable Runs

/-! ### Calls of the live provider -/

/-- A reply is the decoded answer to a status query, `none` where the gateway
throws or is not asked. -/
inductive AtomOperation where
  | handleCallback (payload : Json.Fields)
  | handleGatewayReturn (payload : Json.Fields)
  | requery (user : AuthUser) (paymentId : Id) (reply : Option Json)
  | syncCitizenPaymentByMerchTxnId (merchTxnId : String) (reply : Option Json)

structure AtomCall where
  ctx : Context
  provider : ctx.gateway.name = .atomNdps
  operation : AtomOperation

namespace AtomCall

def delivery (call : AtomCall) : Delivery :=
  match call.operation with
  | .handleCallback payload => .callback payload
  | .handleGatewayReturn payload => .callback payload
  | .requery user paymentId reply => .requery user paymentId (reply.map atomRequery)
  | .syncCitizenPaymentByMerchTxnId merchTxnId reply => .sync merchTxnId (reply.map atomRequery)

/-- What the gateway says in the call, decoded. -/
def reply? (call : AtomCall) : Option Json :=
  match call.operation with
  | .handleCallback payload => call.ctx.gateway.decryptPayload (encDataOf payload)
  | .handleGatewayReturn payload => call.ctx.gateway.decryptPayload (encDataOf payload)
  | .requery _ _ reply => reply
  | .syncCitizenPaymentByMerchTxnId _ reply => reply

def perform (db : Db) (call : AtomCall) : Db :=
  match call.operation with
  | .handleCallback payload => (PropertyTax.handleCallback call.ctx payload db).1
  | .handleGatewayReturn payload => (PropertyTax.handleGatewayReturn call.ctx payload db).1
  | .requery user paymentId reply =>
      (PropertyTax.requery call.ctx user paymentId (reply.map atomRequery) db).1
  | .syncCitizenPaymentByMerchTxnId merchTxnId reply =>
      (PropertyTax.syncCitizenPaymentByMerchTxnId call.ctx merchTxnId (reply.map atomRequery)
        db).1

/-- A call of the gateway is a delivery from beginning to end. -/
theorem perform_eq (db : Db) (call : AtomCall) :
    call.perform db = deliverWhole call.ctx call.delivery db := by
  obtain ⟨ctx, provider, operation⟩ := call
  cases operation with
  | handleCallback payload => exact handleCallback_db ctx payload db
  | handleGatewayReturn payload => exact handleGatewayReturn_db ctx payload db
  | requery user paymentId reply => exact requery_db ctx user paymentId _ db
  | syncCitizenPaymentByMerchTxnId merchTxnId reply => exact sync_db ctx merchTxnId _ db

end AtomCall

/-! ### Confirmed payments -/

/-- The reply is about the payment, and reports a success of its amount. -/
structure Confirms (decoded : Json) (p : Payment) : Prop where
  merchTxnId : ∃ merchTxnId, p.merchTxnId = some merchTxnId ∧
    (extractAtomTxnFields decoded).merchTxnId = some merchTxnId
  statusCode : isGatewaySuccess (extractAtomTxnFields decoded).statusCode = true
  amount : ∃ amount, (extractAtomTxnFields decoded).gatewayAmount = some amount ∧
    |toMoney p.amount - amount| ≤ 1 / 100

/-- Payments succeed, and demands are credited, by a reply that confirms the
payment. -/
structure SucceedsConfirmed (db : Db) (call : AtomCall) : Prop where
  payments : ∀ p' ∈ (call.perform db).payments.rows, p'.status = .success →
    ∃ p ∈ db.payments.rows, p.id = p'.id ∧ p.amount = p'.amount ∧
      (p.status = .success ∨ ∃ decoded, call.reply? = some decoded ∧ Confirms decoded p)
  demands : (call.perform db).demands = db.demands ∨
    ∃ p ∈ db.payments.rows, ∃ d decoded, p.status ≠ .success ∧
      call.reply? = some decoded ∧ Confirms decoded p ∧
      creditTarget p db.demands = some d ∧
      Replaced db.demands (call.perform db).demands d (d.credit p.amount)

/-- The status reply names a success, by its code or by its message. -/
def ReportsSuccess (decoded : Json) : Prop :=
  (extractAtomTxnFields decoded).statusCode = "OTS0000" ∨
    (extractAtomTxnFields decoded).statusCode = "SUCCESS" ∨
    (extractAtomTxnFields decoded).message = some "SUCCESS"

/-- The provider calls a reply a success when it says so. -/
theorem atomRequery_success {decoded : Json} :
    (atomRequery decoded).success = true ↔ ReportsSuccess decoded := by
  simp [atomRequery, ReportsSuccess, or_assoc]

/-- The call asks the gateway for the status of the payment. -/
def AtomCall.Asks (call : AtomCall) (db : Db) (p : Payment) : Prop :=
  match call.operation with
  | .requery user paymentId _ => p ∈ db.payments.rows ∧ p.id = paymentId ∧
      p.merchTxnId.getD "" ≠ "" ∧ assertPaymentAccess user p.collectedById .requery = .ok ()
  | .syncCitizenPaymentByMerchTxnId merchTxnId _ =>
      db.paymentByMerchTxnId? merchTxnId = some p ∧ p.merchTxnId.getD "" ≠ "" ∧
        syncAnswersAsStored p.status = false
  | _ => False

/-- A status reply that names a success of a payment that is none yet confirms
that payment. -/
def AtomCall.AnsweredFor (db : Db) (call : AtomCall) : Prop :=
  ∀ p decoded, call.Asks db p → p.status ≠ .success → call.reply? = some decoded →
    ReportsSuccess decoded → Confirms decoded p

/-! ### Callbacks -/

/-- What is handed on comes from the decrypted payload. -/
theorem parseAtomEncryptedCallback_fields {gateway : Gateway} {payload : Json.Fields}
    {parsed : ParsedCallback} (h : parseAtomEncryptedCallback gateway payload = .ok parsed) :
    ∃ decoded, gateway.decryptPayload (encDataOf payload) = some decoded ∧
      parsed.merchTxnId = (extractAtomTxnFields decoded).merchTxnId ∧
      parsed.statusCode = (extractAtomTxnFields decoded).statusCode ∧
      parsed.gatewayAmount = (extractAtomTxnFields decoded).gatewayAmount := by
  simp only [parseAtomEncryptedCallback] at h
  split_ifs at h
  cases hDecoded : gateway.decryptPayload (encDataOf payload) with
  | none => simp [hDecoded] at h
  | some decoded =>
      rw [hDecoded] at h
      cases hAssert : assertAtomCallbackSignatureIfConfigured gateway decoded with
      | error failure => simp [hAssert] at h
      | ok _ =>
          simp only [hAssert] at h
          cases h
          exact ⟨decoded, rfl, rfl, rfl, rfl⟩

/-- A callback that gets as far as its transaction with a success confirms the
payment that it found. -/
theorem callback_confirms {ctx : Context} {payload : Json.Fields} {db db' : Db}
    {read : DeliveryRead} (hProvider : ctx.gateway.name = .atomNdps)
    (hBegin : beginDelivery ctx (.callback payload) db = (.entered read, db'))
    (hProceeds : read.proceeds .atomNdps = true) (hSuccess : read.success = true) :
    ∃ decoded, ctx.gateway.decryptPayload (encDataOf payload) = some decoded ∧
      Confirms decoded read.payment := by
  unfold beginDelivery at hBegin
  dsimp only at hBegin
  rcases hRead : readCallback ctx payload db with ⟨after, _ | outcome | found⟩
  · simp [hRead] at hBegin
  · simp [hRead] at hBegin
  · simp only [hRead, Prod.mk.injEq, Progress.entered.injEq] at hBegin
    obtain ⟨rfl, rfl⟩ := hBegin
    obtain ⟨⟨parsed, hParsed, hMerch, _, hCode, hAmount⟩, _, hPayment, _⟩ :=
      readCallback_inr hRead
    simp only [parseCallbackPayload, hProvider] at hParsed
    obtain ⟨decoded, hDecoded, hMerchTxnId, hStatusCode, hGatewayAmount⟩ :=
      parseAtomEncryptedCallback_fields hParsed
    refine ⟨decoded, hDecoded, ⟨_, (Db.paymentByMerchTxnId?_spec hPayment).2, ?_⟩, ?_, ?_⟩
    · rw [← hMerchTxnId, hMerch]
    · rw [← hStatusCode, hCode]
      exact hSuccess
    · have hMatch : found.amountMismatch .atomNdps = false := by
        simp only [DeliveryRead.proceeds, Bool.and_eq_true, Bool.not_eq_true'] at hProceeds
        exact hProceeds.2
      rw [← hGatewayAmount, hAmount]
      unfold CallbackRead.amountMismatch at hMatch
      cases hNamed : found.gatewayAmount with
      | none => simp [hNamed] at hMatch
      | some amount =>
          simp only [hNamed, amountsMatchWithinTolerance, Bool.not_eq_false',
            decide_eq_true_eq] at hMatch
          exact ⟨amount, rfl, hMatch⟩

/-! ### Status queries -/

/-- A requery succeeds only on a reply that says so. -/
theorem success_of_atomRequery {reply : Option Json}
    (h : ((reply.map atomRequery).map RequeryResult.success).getD false = true) :
    ∃ decoded, reply = some decoded ∧ ReportsSuccess decoded := by
  cases reply with
  | none => cases h
  | some decoded => exact ⟨decoded, rfl, atomRequery_success.mp h⟩

/-- A requery reads a payment with a merchant transaction, and by someone who may. -/
theorem requeryRead_ok {user : AuthUser} {paymentId : Id} {db : Db} {p : Payment}
    (h : requeryRead user paymentId db = .ok p) :
    p ∈ db.payments.rows ∧ p.id = paymentId ∧ p.merchTxnId.getD "" ≠ "" ∧
      assertPaymentAccess user p.collectedById .requery = .ok () := by
  unfold requeryRead at h
  cases hFound : db.payments.find? paymentId with
  | none => simp [hFound] at h
  | some found =>
      obtain ⟨hMem, hId⟩ := find?_eq_some_iff.mp hFound
      simp only [hFound] at h
      split_ifs at h with hMerch
      cases hAccess : assertPaymentAccess user found.collectedById .requery with
      | error error => simp [hAccess, Except.map] at h
      | ok _ =>
          simp only [hAccess, Except.map, Except.ok.injEq] at h
          subst h
          exact ⟨hMem, hId, hMerch, hAccess⟩

/-- The citizen's polling reads the payment of the merchant transaction. -/
theorem syncRead_ok {merchTxnId : String} {db : Db} {p : Payment}
    (h : syncRead merchTxnId db = .ok p) :
    db.paymentByMerchTxnId? merchTxnId = some p ∧ p.merchTxnId.getD "" ≠ "" := by
  unfold syncRead at h
  cases hFound : db.paymentByMerchTxnId? merchTxnId with
  | none => simp [hFound] at h
  | some found =>
      simp only [hFound] at h
      split_ifs at h with hMerch
      cases h
      exact ⟨rfl, hMerch⟩

/-! ### Every call -/

/-- A call that gets as far as its transaction with a success that is new
confirms the payment. -/
theorem AtomCall.confirms {call : AtomCall} {db entered : Db} {read : DeliveryRead}
    (hAnswered : call.AnsweredFor db)
    (hBegin : beginDelivery call.ctx call.delivery db = (.entered read, entered))
    (hProceeds : read.proceeds .atomNdps = true) (hSuccess : read.success = true)
    (hUnpaid : read.payment.status ≠ .success) :
    ∃ decoded, call.reply? = some decoded ∧ Confirms decoded read.payment := by
  obtain ⟨ctx, provider, operation⟩ := call
  cases operation with
  | handleCallback payload => exact callback_confirms provider hBegin hProceeds hSuccess
  | handleGatewayReturn payload => exact callback_confirms provider hBegin hProceeds hSuccess
  | requery user paymentId reply =>
      simp only [AtomCall.delivery, beginDelivery] at hBegin
      cases hRead : requeryRead user paymentId db with
      | error error => simp [hRead] at hBegin
      | ok payment =>
          simp only [hRead, Prod.mk.injEq, Progress.entered.injEq] at hBegin
          obtain ⟨rfl, _⟩ := hBegin
          obtain ⟨decoded, hReply, hReports⟩ := success_of_atomRequery hSuccess
          exact ⟨decoded, hReply,
            hAnswered payment decoded (requeryRead_ok hRead) hUnpaid hReply hReports⟩
  | syncCitizenPaymentByMerchTxnId merchTxnId reply =>
      simp only [AtomCall.delivery, beginDelivery] at hBegin
      cases hRead : syncRead merchTxnId db with
      | error error => simp [hRead] at hBegin
      | ok payment =>
          simp only [hRead, Prod.mk.injEq, Progress.entered.injEq] at hBegin
          obtain ⟨rfl, _⟩ := hBegin
          obtain ⟨decoded, hReply, hReports⟩ := success_of_atomRequery hSuccess
          obtain ⟨hFound, hMerch⟩ := syncRead_ok hRead
          have hAsked : syncAnswersAsStored payment.status = false := by
            simpa [DeliveryRead.proceeds] using hProceeds
          exact ⟨decoded, hReply,
            hAnswered payment decoded ⟨hFound, hMerch, hAsked⟩ hUnpaid hReply hReports⟩

/-- A success that was answered for is confirmed. -/
theorem succeedsConfirmed_of_answered {db : Db} {call : AtomCall}
    (hAnswered : call.AnsweredFor db) : SucceedsConfirmed db call := by
  have hConfirms : ∀ {read : DeliveryRead} {entered : Db},
      beginDelivery call.ctx call.delivery db = (.entered read, entered) →
      read.proceeds call.ctx.gateway.name = true → read.success = true →
      read.payment.status ≠ .success →
      ∃ decoded, call.reply? = some decoded ∧ Confirms decoded read.payment :=
    fun hBegin hProceeds => AtomCall.confirms hAnswered hBegin (call.provider ▸ hProceeds)
  have hCases := deliverWhole_cases call.ctx call.delivery db
  rw [← AtomCall.perform_eq] at hCases
  rcases hCases with hSame | ⟨read, hMem, ⟨entered, hBegin, _⟩, _, hProceeds, hSettled⟩
  · refine ⟨fun p' hp' hStatus => ?_, .inl hSame.demands⟩
    rw [hSame.payments] at hp'
    exact ⟨p', hp', rfl, rfl, .inl hStatus⟩
  · have hPayments : ∀ p p', Replaced db.payments (call.perform db).payments p p' →
        p.id = read.payment.id → SamePurpose p p' → p'.status = read.status →
        ∀ q' ∈ (call.perform db).payments.rows, q'.status = .success →
          ∃ q ∈ db.payments.rows, q.id = q'.id ∧ q.amount = q'.amount ∧
            (q.status = .success ∨
              ∃ decoded, call.reply? = some decoded ∧ Confirms decoded q) := by
      intro p p' hPayment hId hSame hStatus q' hq' hSuccess
      rcases (hPayment.mem_iff q').mp hq' with ⟨hOld, _⟩ | rfl
      · exact ⟨q', hOld, rfl, rfl, .inl hSuccess⟩
      · obtain rfl : p = read.payment := eq_of_key hPayment.mem_old hMem hId
        refine ⟨read.payment, hMem, hSame.id.symm, hSame.amount.symm, ?_⟩
        by_cases hBefore : read.payment.status = .success
        · exact .inl hBefore
        · have hReported := DeliveryRead.status_eq_success (hStatus.symm.trans hSuccess)
          exact .inr (hConfirms hBegin hProceeds (hReported.resolve_right hBefore) hBefore)
    cases hSettled with
    | uncredited p p' _ hPayment hId hSame hStatus _ _ hDemands _ _ =>
        exact ⟨hPayments p p' hPayment hId hSame hStatus, .inl hDemands⟩
    | credited p p' d hCredits hTarget hPayment hId hSame hStatus _ _ hDemand _ _ =>
        refine ⟨hPayments p p' hPayment hId hSame hStatus, .inr ?_⟩
        obtain ⟨hSuccess, hUnpaid, _⟩ := (DeliveryRead.credits_iff read).mp hCredits
        obtain ⟨decoded, hReply, hConfirmed⟩ := hConfirms hBegin hProceeds hSuccess hUnpaid
        exact ⟨read.payment, hMem, d, decoded, hUnpaid, hReply, hConfirmed, hTarget, hDemand⟩

/-! ### Runs -/

/-- In a run whose status replies confirm what they name a success, payments
succeed and demands are credited by replies that confirm the payment. -/
theorem atom_success_confirmed (db : Db) {calls : List AtomCall}
    (hAlong : Along (fun db call => call.perform db) AtomCall.AnsweredFor db calls) :
    Along (fun db call => call.perform db) SucceedsConfirmed db calls :=
  hAlong.mono fun _ _ hAnswered => succeedsConfirmed_of_answered hAnswered

namespace Sample

def atomContext : Context := { context with gateway := { context.gateway with name := .atomNdps } }

/-- A staff requery of the pending payment, and the reply to it. -/
def atomRequeryOf (reply : Json) : AtomCall where
  ctx := atomContext
  provider := rfl
  operation := .requery administrator 2 (some reply)

/-- The reply to a query about a payment of 400 rupees. -/
def confirmation : Json :=
  .obj [("merchTxnId", .str "CHH-1-a"), ("statusCode", .str "OTS0000"), ("amount", .num 400)]

/-- A success of no transaction and of no amount. -/
def bareSuccess : Json := .obj [("statusCode", .str "OTS0000")]

end Sample

/-- A payment succeeds on a confirmed reply. -/
theorem atom_success_confirmed_requery :
    (∃ p ∈ (run (fun db call => call.perform db) Sample.db
      [Sample.atomRequeryOf Sample.confirmation]).payments.rows, p.status = .success) ∧
    Along (fun db call => call.perform db) SucceedsConfirmed Sample.db
      [Sample.atomRequeryOf Sample.confirmation] := by
  refine ⟨by decide, atom_success_confirmed Sample.db ⟨?_, trivial⟩⟩
  rintro p decoded ⟨hMem, _⟩ _ hReply _
  obtain rfl : p = Sample.payment := List.mem_singleton.mp hMem
  obtain rfl : Sample.confirmation = decoded := Option.some.inj hReply
  refine ⟨⟨"CHH-1-a", rfl, by decide⟩, by decide, 400, ?_, ?_⟩
  · decide +kernel
  · decide +kernel

/-- The payment succeeds by a reply that names neither it nor an amount. -/
theorem requery_succeeds_unconfirmed :
    ¬ ∀ (db : Db) (calls : List AtomCall),
      Along (fun db call => call.perform db) SucceedsConfirmed db calls := by
  intro h
  have hConfirmed := (h Sample.db [Sample.atomRequeryOf Sample.bareSuccess]).1
  have hPaid : ∃ p ∈ ((Sample.atomRequeryOf Sample.bareSuccess).perform Sample.db).payments.rows,
      p.status = .success := by decide
  obtain ⟨p', hp', hStatus⟩ := hPaid
  obtain ⟨p, hp, _, _, hBefore | ⟨decoded, hReply, hConfirms⟩⟩ :=
    hConfirmed.payments p' hp' hStatus
  · obtain rfl : p = Sample.payment := List.mem_singleton.mp hp
    cases hBefore
  · obtain rfl : Sample.bareSuccess = decoded := Option.some.inj hReply
    obtain ⟨amount, hAmount, _⟩ := hConfirms.amount
    have hNone : (extractAtomTxnFields Sample.bareSuccess).gatewayAmount = none := by
      decide
    rw [hNone] at hAmount
    cases hAmount

end PropertyTax
