import PropertyTax.Ledger.Rows

/-! The JSON that payment calls store. Bodies and answers of the gateway are
redacted before they are written, the answers to status queries are not. -/
namespace PropertyTax
open KeyedTable Runs

/-! ### The JSON columns -/

def PaymentTransaction.json (t : PaymentTransaction) : List Json :=
  t.requestPayload.toList ++ t.responsePayload.toList

def AuditEntry.json (e : AuditEntry) : List Json :=
  e.oldValue.toList ++ e.newValue.toList ++ e.metadata.toList

/-- The payload that an audit entry quotes. -/
def AuditEntry.payload (e : AuditEntry) : List Json :=
  match e.metadata with
  | some (.obj fields) => (Json.Fields.get fields "payload").toList
  | _ => []

/-- The value stands in a JSON column; `ofEntry` picks those of an audit entry. -/
inductive Db.Stores (ofEntry : AuditEntry → List Json) (db : Db) (j : Json) : Prop where
  | transaction (t : PaymentTransaction) (ht : t ∈ db.transactions) (hj : j ∈ t.json)
  | callback (c : PaymentCallback) (hc : c ∈ db.callbacks.rows) (hj : j = c.rawPayload)
  | refund (r : PaymentRefund) (hr : r ∈ db.refunds.rows) (hj : r.rawResponse = some j)
  | audit (e : AuditEntry) (he : e ∈ db.auditLog) (hj : j ∈ ofEntry e)

namespace Db.Stores
variable {ofEntry : AuditEntry → List Json} {db db' : Db} {j : Json}

theorem of_same (h : db'.Stores ofEntry j) (hTransactions : db'.transactions = db.transactions)
    (hCallbacks : db'.callbacks = db.callbacks) (hRefunds : db'.refunds = db.refunds)
    (hAudit : db'.auditLog = db.auditLog) : db.Stores ofEntry j := by
  cases h with
  | transaction t ht hj => exact .transaction t (hTransactions ▸ ht) hj
  | callback c hc hj => exact .callback c (hCallbacks ▸ hc) hj
  | refund r hr hj => exact .refund r (hRefunds ▸ hr) hj
  | audit e he hj => exact .audit e (hAudit ▸ he) hj

/-- A new audit entry stores only its own texts. -/
theorem of_log {entry : AuditEntry} (h : (db.log entry).Stores ofEntry j) :
    db.Stores ofEntry j ∨ j ∈ ofEntry entry := by
  cases h with
  | transaction t ht hj => exact .inl (.transaction t ht hj)
  | callback c hc hj => exact .inl (.callback c hc hj)
  | refund r hr hj => exact .inl (.refund r hr hj)
  | audit e he hj =>
      rcases List.mem_append.mp he with hOld | hNew
      · exact .inl (.audit e hOld hj)
      · exact .inr (List.mem_singleton.mp hNew ▸ hj)

/-- A new transaction stores only its own texts. -/
theorem of_addTransaction {row : PaymentTransaction}
    (h : (db.addTransaction row).Stores ofEntry j) : db.Stores ofEntry j ∨ j ∈ row.json := by
  cases h with
  | transaction t ht hj =>
      rcases List.mem_append.mp ht with hOld | hNew
      · exact .inl (.transaction t hOld hj)
      · exact .inr (List.mem_singleton.mp hNew ▸ hj)
  | callback c hc hj => exact .inl (.callback c hc hj)
  | refund r hr hj => exact .inl (.refund r hr hj)
  | audit e he hj => exact .inl (.audit e he hj)

/-- The texts of callbacks are those of before, or new ones. -/
theorem of_callbacks {callbacks : KeyedTable PaymentCallback} {nextId : Id} {P : Json → Prop}
    (h : ({ db with callbacks, nextId } : Db).Stores ofEntry j)
    (hRows : ∀ c ∈ callbacks.rows,
      (∃ c₀ ∈ db.callbacks.rows, c.rawPayload = c₀.rawPayload) ∨ P c.rawPayload) :
    db.Stores ofEntry j ∨ P j := by
  cases h with
  | transaction t ht hj => exact .inl (.transaction t ht hj)
  | callback c hc hj =>
      rcases hRows c hc with ⟨c₀, hOld, hSame⟩ | hNew
      · exact .inl (.callback c₀ hOld (hj.trans hSame))
      · exact .inr (hj ▸ hNew)
  | refund r hr hj => exact .inl (.refund r hr hj)
  | audit e he hj => exact .inl (.audit e he hj)

/-- A new refund stores only its own reply. -/
theorem of_refunds {refunds : KeyedTable PaymentRefund} {payments : KeyedTable Payment}
    {nextId : Id} {row : PaymentRefund}
    (h : ({ db with refunds, payments, nextId } : Db).Stores ofEntry j)
    (hAdded : Added db.refunds refunds row) :
    db.Stores ofEntry j ∨ row.rawResponse = some j := by
  cases h with
  | transaction t ht hj => exact .inl (.transaction t ht hj)
  | callback c hc hj => exact .inl (.callback c hc hj)
  | refund r hr hj =>
      rcases (hAdded.mem_iff r).mp hr with hOld | rfl
      · exact .inl (.refund r hOld hj)
      · exact .inr hj
  | audit e he hj => exact .inl (.audit e he hj)

end Db.Stores

/-! ### What a call writes -/

/-- The value is one of `replies`, or what redacting left of one of `redacted`. -/
def StoredFrom (replies redacted : List Json) (j : Json) : Prop :=
  j ∈ replies ∨ ∃ v ∈ redacted, j = redactSensitivePaymentPayload v

/-- A redacted reply is stored as it was redacted. -/
theorem storedFrom_redact {replies redacted : List Json} {v : Json} (h : v ∈ redacted) :
    StoredFrom replies redacted (redactSensitivePaymentPayload v) := .inr ⟨v, h, rfl⟩

/-- All JSON that is new has no card data but for `replies`, and all payloads
that are new come from `replies` or `redacted`. -/
structure WritesJson (replies redacted : List Json) (db db' : Db) : Prop where
  json : ∀ j, db'.Stores AuditEntry.json j →
    db.Stores AuditEntry.json j ∨ j ∈ replies ∨ j.hasKey "cardDetails" = false
  payloads : ∀ j, db'.Stores AuditEntry.payload j →
    db.Stores AuditEntry.payload j ∨ StoredFrom replies redacted j

namespace WritesJson
variable {replies redacted : List Json} {db db' db'' : Db}

theorem refl (db : Db) : WritesJson replies redacted db db :=
  ⟨fun _ h => .inl h, fun _ h => .inl h⟩

theorem trans (h : WritesJson replies redacted db db')
    (h' : WritesJson replies redacted db' db'') : WritesJson replies redacted db db'' :=
  ⟨fun j hj => (h'.json j hj).elim (h.json j) .inr,
    fun j hj => (h'.payloads j hj).elim (h.payloads j) .inr⟩

theorem same (hTransactions : db'.transactions = db.transactions)
    (hCallbacks : db'.callbacks = db.callbacks) (hRefunds : db'.refunds = db.refunds)
    (hAudit : db'.auditLog = db.auditLog) : WritesJson replies redacted db db' :=
  ⟨fun _ hj => .inl (hj.of_same hTransactions hCallbacks hRefunds hAudit),
    fun _ hj => .inl (hj.of_same hTransactions hCallbacks hRefunds hAudit)⟩

/-- An audit entry that is built from fields or redacted texts stores no card data. -/
theorem log {entry : AuditEntry} (hJson : ∀ j ∈ entry.json, j.hasKey "cardDetails" = false)
    (hPayload : ∀ j ∈ entry.payload, StoredFrom replies redacted j) :
    WritesJson replies redacted db (db.log entry) :=
  ⟨fun j hj => hj.of_log.imp id fun h => .inr (hJson j h),
    fun j hj => hj.of_log.imp id (hPayload j)⟩

/-- What is stored is a reply as it came, or has no card data. -/
theorem clean_of_storedFrom {j : Json} (h : StoredFrom replies redacted j) :
    j ∈ replies ∨ j.hasKey "cardDetails" = false := by
  rcases h with hReply | ⟨v, _, rfl⟩
  · exact .inl hReply
  · exact .inr (redact_hasKey (.inl rfl) v)

/-- A transaction stores what its row says. -/
theorem addTransaction {row : PaymentTransaction}
    (h : ∀ j ∈ row.json, StoredFrom replies redacted j) :
    WritesJson replies redacted db (db.addTransaction row) :=
  ⟨fun j hj => hj.of_addTransaction.imp id fun hRow => clean_of_storedFrom (h j hRow),
    fun j hj => hj.of_addTransaction.imp id (h j)⟩

/-- A callback stores what its payload says. -/
theorem callbacks {callbacks : KeyedTable PaymentCallback} {nextId : Id}
    (hRows : ∀ c ∈ callbacks.rows, (∃ c₀ ∈ db.callbacks.rows, c.rawPayload = c₀.rawPayload) ∨
      StoredFrom replies redacted c.rawPayload) :
    WritesJson replies redacted db { db with callbacks, nextId } :=
  ⟨fun _ hj => (hj.of_callbacks hRows).imp id clean_of_storedFrom,
    fun _ hj => hj.of_callbacks hRows⟩

/-- A transaction stores what its body writes, or nothing. -/
theorem commit {α : Type} {body : Except Refusal (Db × α)}
    (h : ∀ after answer, body = .ok (after, answer) → WritesJson replies redacted db after) :
    WritesJson replies redacted db (commit db body).1 := by
  cases body with
  | error refusal => exact refl db
  | ok result => exact h result.1 result.2 rfl

end WritesJson

section Walk
variable {ctx : Context} {replies redacted : List Json} {db db' : Db}

/-- A payment row holds no texts of the gateway. -/
theorem updatePayment_json {id : Id} {data : Payment → Payment}
    (h : db.updatePayment id data = .ok db') (hData : ∀ p, (data p).id = p.id) :
    WritesJson replies redacted db db' := by
  obtain ⟨_, _, _, _, rfl⟩ := Db.updatePayment_ok h hData
  exact .same rfl rfl rfl rfl

/-- A new payment holds no texts of the gateway. -/
theorem createPayment_json {row : Id → Payment} (h : db.createPayment row = .ok db') :
    WritesJson replies redacted db db' := by
  obtain ⟨_, _, rfl⟩ := Db.createPayment_ok h
  exact .same rfl rfl rfl rfl

/-- The credit of a demand stores no texts. -/
theorem demandExtrasOn_json {firstSuccess : Bool} {payment : Payment} {receiptNumber : String}
    {paidAt : Timestamp} {extras : Option DemandExtras}
    (h : demandExtrasOn firstSuccess ctx payment receiptNumber paidAt db = .ok (db', extras)) :
    WritesJson replies redacted db db' := by
  rcases demandExtrasOn_ok h with ⟨_, rfl, _⟩ | ⟨_, _, _, _, _, _, rfl, _⟩
  · exact .refl _
  · exact .same rfl rfl rfl rfl

/-! ### Checkouts -/

/-- A failed checkout stores no texts of the gateway. -/
theorem failOpened_json {α : Type} {paymentId : Id} {error : ApiError} :
    WritesJson replies redacted db (failOpened paymentId error db : Reply α).1 := by
  unfold failOpened
  cases hUpdate : db.updatePayment paymentId (setPaymentStatus .failed) with
  | error refusal => exact .refl db
  | ok after => exact updatePayment_json hUpdate fun _ => rfl

/-- What the gateway sends with the token of a checkout. -/
def CreatePaymentReply.received : CreatePaymentReply → List Json
  | .answered result => result.raw.toList
  | _ => []

/-- A checkout stores the reply of the gateway as it was redacted. -/
theorem finishOpened_json {paymentId : Id} {reply : CreatePaymentReply} :
    WritesJson [] reply.received db (finishOpened paymentId reply db).1 := by
  unfold finishOpened
  cases reply with
  | invalid code message => exact failOpened_json
  | threw => exact failOpened_json
  | answered result =>
      have hSent : WritesJson [] (CreatePaymentReply.answered result).received db
          (db.addTransaction
            { paymentId
              direction := "outbound"
              requestPayload := result.raw.map redactSensitivePaymentPayload
              statusCode := some "INIT" }) := by
        refine .addTransaction fun j hj => ?_
        simp only [PaymentTransaction.json, Option.toList_none, List.append_nil,
          Option.mem_toList, Option.map_eq_some_iff] at hj
        obtain ⟨raw, hRaw, rfl⟩ := hj
        exact storedFrom_redact (Option.mem_toList.mpr hRaw)
      dsimp only
      split_ifs
      · exact hSent.trans failOpened_json
      · cases hUpdate : (db.addTransaction _).updatePayment paymentId
            (setPaymentStatus .pending) with
        | error refusal => exact hSent
        | ok after => exact hSent.trans (updatePayment_json hUpdate fun _ => rfl)

/-- An online payment stores the reply of the gateway as it was redacted. -/
theorem createOnlinePayment_json {input : OnlinePaymentInput} {collectedById : Option Id}
    {suffix : String} {reply : CreatePaymentReply} :
    WritesJson [] reply.received db (createOnlinePayment ctx input collectedById suffix reply db).1 := by
  unfold createOnlinePayment
  dsimp only
  cases hCreate : db.createPayment (openedPayment ctx input
      (newCitizenMerchTxnId ctx.now suffix) collectedById) with
  | error refusal => exact .refl db
  | ok after => exact (createPayment_json hCreate).trans finishOpened_json

/-- A clerk's online payment stores redacted texts only. -/
theorem createOnline_json {input : CreateOnlineInput} {user : AuthUser} {suffix : String}
    {reply : CreatePaymentReply} :
    WritesJson [] reply.received db (createOnline ctx input user suffix reply db).1 := by
  unfold createOnline
  cases hInput : onlineInput ctx input user db with
  | error error => exact .refl db
  | ok request => exact createOnlinePayment_json

/-- A citizen's payment stores redacted texts only. -/
theorem createCitizenPayment_json {dto : CitizenPaymentDto} {suffix : String}
    {reply : CreatePaymentReply} :
    WritesJson [] reply.received db (createCitizenPayment ctx dto suffix reply db).1 := by
  unfold createCitizenPayment
  cases hInput : citizenInput ctx dto db with
  | error error => exact .refl db
  | ok request =>
      have hOpened : WritesJson [] reply.received db
          (createOnlinePayment ctx request none suffix reply db).1 := createOnlinePayment_json
      dsimp only
      rcases hResult : createOnlinePayment ctx request none suffix reply db with
        ⟨after, _ | ⟨payment, gateway⟩⟩
      · rw [hResult] at hOpened
        exact hOpened
      · rw [hResult] at hOpened
        dsimp only
        split_ifs <;> exact hOpened

/-! ### The counter -/

/-- Fields without a name come to an object without it. -/
theorem jsonFields_hasKey {name : String} {fields : List (String × Option Json)}
    (h : ∀ field ∈ fields, field.1 ≠ name ∧ ∀ v, field.2 = some v → v.hasKey name = false) :
    (jsonFields fields).hasKey name = false := by
  change Json.fieldsHaveKey name _ = false
  induction fields with
  | nil => rfl
  | cons field rest ih =>
      obtain ⟨hField, hRest⟩ := List.forall_mem_cons.mp h
      rw [List.filterMap_cons]
      cases hValue : field.2 with
      | none => exact ih hRest
      | some value =>
          have hNone := ih hRest
          simp only [Option.map_some, Json.fieldsHaveKey, hField.1, hField.2 value hValue, hNone,
            decide_false, Bool.or_self]

/-- A payment at the counter stores no texts of the gateway. -/
theorem createOffline_json {input : OfflineInput} {user : AuthUser} {suffix : String} :
    WritesJson replies redacted db (createOffline ctx input user suffix db).1 := by
  unfold createOffline
  split
  · exact .refl db
  · exact .refl db
  · split
    · exact .refl db
    · split
      · exact .refl db
      · dsimp only
        split
        · unfold answerCollision
          split <;> exact .refl db
        · exact .refl db
        · rename_i after paymentId hCollect
          obtain ⟨created, hCreate, hCollect⟩ := bind_ok hCollect
          obtain ⟨credited, hUpdate, hCollect⟩ := bind_ok hCollect
          cases hCollect
          have hCreated : WritesJson replies redacted db created := createPayment_json hCreate
          have hCredited : WritesJson replies redacted created after := by
            obtain ⟨_, _, _, _, rfl⟩ := Db.updateDemand_ok hUpdate fun _ => rfl
            exact .same rfl rfl rfl rfl
          refine (hCreated.trans hCredited).trans (.log ?_ ?_)
          · intro j hj
            simp only [AuditEntry.json, Option.toList_none, Option.toList_some, List.nil_append,
              List.append_nil, List.mem_singleton] at hj
            subst hj
            refine jsonFields_hasKey ?_
            simp [Json.hasKey]
          · intro j hj
            simp [AuditEntry.payload] at hj

/-! ### Callbacks -/

/-- An entry that quotes a redacted payload, next to fields of its own. -/
theorem quoting_json {action entity : String} {entityId : Option String} {payload v : Json}
    {newValue : Json} (hNew : newValue.hasKey "cardDetails" = false) (hv : v ∈ redacted)
    (hPayload : redactSensitivePaymentPayload payload = redactSensitivePaymentPayload v) :
    WritesJson replies redacted db (db.log
      { action, entity, entityId
        newValue := some newValue
        metadata := some (.obj [("payload", redactSensitivePaymentPayload payload)]) }) := by
  refine .log ?_ ?_
  · intro j hj
    simp only [AuditEntry.json, Option.toList_none, Option.toList_some, List.nil_append,
      List.mem_append, List.mem_singleton] at hj
    rcases hj with rfl | rfl
    · exact hNew
    · simp [Json.hasKey, Json.fieldsHaveKey, redact_hasKey (.inl rfl)]
  · intro j hj
    simp only [AuditEntry.payload, Json.Fields.get_cons_self, Option.toList_some,
      List.mem_singleton] at hj
    rw [hj, hPayload]
    exact storedFrom_redact hv

/-- A rejected webhook is stored as it was redacted. -/
theorem rejectWebhook_json {reason code : String} {payload v : Json}
    {merchTxnId atomTxnId : Option String} {paymentId : Option Id} (hv : v ∈ redacted)
    (hPayload : redactSensitivePaymentPayload payload = redactSensitivePaymentPayload v) :
    WritesJson replies redacted db
      (rejectWebhook reason code payload merchTxnId atomTxnId paymentId db).1 := by
  refine quoting_json (jsonFields_hasKey ?_) hv hPayload
  simp [Json.hasKey]

/-- The body of a callback, and what parsing makes of it. -/
def callbackBodies (ctx : Context) (payload : Json.Fields) : List Json :=
  .obj payload :: match parseCallbackPayload ctx.gateway payload with
    | .ok parsed => [.obj parsed.normalized]
    | .error _ => []

/-- The body of a callback that is parsed is one of the bodies to be redacted. -/
theorem mem_callbackBodies {payload : Json.Fields} {parsed : ParsedCallback}
    (h : parseCallbackPayload ctx.gateway payload = .ok parsed) :
    .obj parsed.normalized ∈ callbackBodies ctx payload := by
  simp [callbackBodies, h]

/-- The reads of a callback log the body, and keep it redacted. -/
theorem readCallback_json (payload : Json.Fields) :
    WritesJson [] (callbackBodies ctx payload) db (readCallback ctx payload db).1 ∧
      ∀ read, (readCallback ctx payload db).2 = .ok (.inr read) →
        ∃ v ∈ callbackBodies ctx payload, read.storedPayload = redactSensitivePaymentPayload v := by
  have hReceived : WritesJson [] (callbackBodies ctx payload) db
      (db.log (webhookReceived ctx.gateway payload)) := by
    refine quoting_json (jsonFields_hasKey ?_) List.mem_cons_self rfl
    simp [Json.hasKey]
  unfold readCallback
  dsimp only
  split
  · exact ⟨hReceived.trans (rejectWebhook_json List.mem_cons_self rfl), by simp [early]⟩
  · exact ⟨hReceived, by simp⟩
  · rename_i parsed hParsed
    have hBody := mem_callbackBodies hParsed
    have hRejected {reason code : String} {merchTxnId atomTxnId : Option String} :
        WritesJson [] (callbackBodies ctx payload) db (rejectWebhook reason code
          (redactSensitivePaymentPayload (.obj parsed.normalized)) merchTxnId atomTxnId none
          (db.log (webhookReceived ctx.gateway payload))).1 :=
      hReceived.trans (rejectWebhook_json hBody (redact_redact _))
    split
    · exact ⟨hReceived, by simp⟩
    · split
      · exact ⟨hRejected, by simp [early]⟩
      · split
        · exact ⟨hRejected, by simp [early]⟩
        · refine ⟨hReceived, fun read hRead => ?_⟩
          simp only [Except.ok.injEq, Sum.inr.injEq] at hRead
          exact ⟨_, hBody, hRead ▸ rfl⟩

/-- The change of a status stores no texts of the gateway. -/
theorem logStatusChange_json (read : CallbackRead) (db : Db) :
    WritesJson replies redacted db (logStatusChange read db) := by
  have hEntry {action : String} {detail : String × Option Json}
      (hDetail : detail.1 ≠ "cardDetails" ∧
        ∀ v, detail.2 = some v → v.hasKey "cardDetails" = false) :
      WritesJson replies redacted db (db.log
        { action
          entity := "Payment"
          entityId := some (toString read.payment.id)
          oldValue := some (.obj [("status", .str read.payment.status.text)])
          newValue := some (jsonFields [("status", some (.str read.effectiveStatus.text)),
            ("merchTxnId", some (.str read.merchTxnId)), ("atomTxnId", read.atomTxnId.map .str),
            detail]) }) := by
    refine .log ?_ ?_
    · intro j hj
      simp only [AuditEntry.json, Option.toList_none, Option.toList_some, List.append_nil,
        List.mem_append, List.mem_singleton] at hj
      rcases hj with rfl | rfl
      · simp [Json.hasKey, Json.fieldsHaveKey]
      · refine jsonFields_hasKey ?_
        simp [Json.hasKey, hDetail.1]
        exact hDetail.2
    · intro j hj
      simp [AuditEntry.payload] at hj
  unfold logStatusChange
  dsimp only
  split_ifs
  · exact hEntry (by simp [Json.hasKey])
  · exact hEntry (by simp [Json.hasKey])
  · exact .refl db

section Finish
variable {read : CallbackRead} {v : Json} (hv : v ∈ redacted)
  (hStored : read.storedPayload = redactSensitivePaymentPayload v)
include hv hStored

/-- The stored payload of a callback is redacted. -/
theorem storedPayload_from : StoredFrom replies redacted read.storedPayload :=
  hStored ▸ storedFrom_redact hv

theorem updateCallback_json {id : Id} {data : PaymentCallback → PaymentCallback}
    (h : db.updateCallback id data = .ok db') (hId : ∀ c, (data c).id = c.id)
    (hData : ∀ c, (data c).rawPayload = c.rawPayload ∨ (data c).rawPayload = read.storedPayload) :
    WritesJson replies redacted db db' := by
  obtain ⟨c, callbacks, _, hRow, rfl⟩ := Db.updateCallback_ok h hId
  refine .callbacks (hRow.forall_rows (fun c₀ hc => .inl ⟨c₀, hc, rfl⟩) ?_)
  rcases hData c with hKept | hNew
  · exact .inl ⟨c, hRow.mem_old, hKept⟩
  · exact .inr (hNew ▸ storedPayload_from hv hStored)

/-- The row of a callback stores its redacted payload. -/
theorem writeCallback_json {callbackId : Id} (h : writeCallback read db = .ok (db', callbackId)) :
    WritesJson replies redacted db db' := by
  unfold writeCallback at h
  cases hExisting : read.existing with
  | some existing =>
      simp only [hExisting] at h
      obtain ⟨after, hUpdate, hPair⟩ := map_ok h
      cases hPair
      exact updateCallback_json hv hStored hUpdate (fun _ => rfl) fun _ => .inr rfl
  | none =>
      simp only [hExisting] at h
      obtain ⟨after, hCreate, hPair⟩ := map_ok h
      obtain ⟨callbacks, hRow, rfl⟩ := Db.createCallback_ok hCreate
      cases hPair
      exact .callbacks (hRow.forall_rows (fun c₀ hc => .inl ⟨c₀, hc, rfl⟩)
        (.inr (storedPayload_from hv hStored)))

/-- The transaction of a callback stores redacted texts only. -/
theorem callbackTransaction_json {answer : Option PaymentCallback × Option Payment}
    (h : callbackTransaction ctx read db = .ok (db', answer)) :
    WritesJson replies redacted db db' := by
  unfold callbackTransaction at h
  obtain ⟨⟨written, callbackId⟩, hWrite, h⟩ := bind_ok h
  obtain ⟨⟨credited, extras⟩, hCredit, h⟩ := bind_ok h
  obtain ⟨paid, hPayment, h⟩ := bind_ok h
  obtain ⟨processed, hProcessed, h⟩ := bind_ok h
  cases h
  have hWritten : WritesJson replies redacted db written := writeCallback_json hv hStored hWrite
  have hCredited : WritesJson replies redacted written credited := demandExtrasOn_json hCredit
  have hPaid : WritesJson replies redacted credited paid :=
    updatePayment_json hPayment fun p => (callbackPaymentData_same read _ _ extras p).id
  have hRecorded : WritesJson replies redacted paid (paid.addTransaction
      { paymentId := read.payment.id
        direction := "callback"
        responsePayload := some read.storedPayload
        statusCode := some read.statusCode }) := by
    refine .addTransaction fun j hj => ?_
    simp only [PaymentTransaction.json, Option.toList_none, Option.toList_some, List.nil_append,
      List.mem_singleton] at hj
    exact hj ▸ storedPayload_from hv hStored
  have hDone : WritesJson replies redacted _ db' :=
    updateCallback_json hv hStored hProcessed (fun _ => rfl) fun _ => .inl rfl
  exact (((hWritten.trans hCredited).trans hPaid).trans hRecorded).trans hDone

theorem attachToDuplicate_json {existing : PaymentCallback} :
    WritesJson replies redacted db (attachToDuplicate read existing db).1 := by
  unfold attachToDuplicate
  split_ifs
  · refine .commit fun after answer hBody => ?_
    obtain ⟨updated, hUpdate, hPair⟩ := map_ok hBody
    cases hPair
    exact updateCallback_json hv hStored hUpdate (fun _ => rfl) fun _ => .inr rfl
  · exact .refl db

/-- A callback that is finished stores redacted texts only. -/
theorem finishCallback_json :
    WritesJson replies redacted db (finishCallback ctx read db).1 := by
  unfold finishCallback
  cases hDuplicate : read.duplicateOf with
  | some existing => exact attachToDuplicate_json hv hStored
  | none =>
      dsimp only
      split
      · exact rejectWebhook_json hv (by rw [hStored, redact_redact])
      · have hCommit : WritesJson replies redacted db
            (commit db (callbackTransaction ctx read db)).1 :=
          .commit fun _ _ hBody => callbackTransaction_json hv hStored hBody
        rcases hResult : commit db (callbackTransaction ctx read db) with
          ⟨after, _ | ⟨callback, payment⟩⟩
        · rw [hResult] at hCommit
          exact hCommit
        · rw [hResult] at hCommit
          exact hCommit.trans (logStatusChange_json read after)

end Finish

/-- A callback stores its redacted body only. -/
theorem handleCallback_json (payload : Json.Fields) :
    WritesJson [] (callbackBodies ctx payload) db (handleCallback ctx payload db).1 := by
  have ⟨hRead, hStored⟩ := @readCallback_json ctx db payload
  unfold handleCallback
  rcases hResult : readCallback ctx payload db with ⟨after, _ | outcome | read⟩
  · rw [hResult] at hRead
    exact hRead
  · rw [hResult] at hRead
    exact hRead
  · rw [hResult] at hRead hStored
    obtain ⟨v, hv, hFrom⟩ := hStored read rfl
    exact hRead.trans (finishCallback_json hv hFrom)

/-! ### Status queries and refunds -/

/-- A success that a requery finds stores no texts of its own. -/
theorem finalizeRequerySuccess_json {payment : Payment} {opts : FinalizeOptions} :
    WritesJson replies redacted db (finalizeRequerySuccess ctx payment opts db).1 := by
  unfold finalizeRequerySuccess
  split_ifs
  · refine .commit fun after answer hBody => ?_
    obtain ⟨updated, hUpdate, hPair⟩ := map_ok hBody
    cases hPair
    exact updatePayment_json hUpdate fun _ => rfl
  · refine .commit fun after answer hBody => ?_
    unfold requeryTransaction at hBody
    obtain ⟨⟨credited, extras⟩, hCredit, hBody⟩ := bind_ok hBody
    obtain ⟨updated, hUpdate, hBody⟩ := bind_ok hBody
    cases hBody
    have hSame := requeryPaymentData_same payment opts (receiptNumberOf payment)
      (payment.collectionDate.getD ctx.now) extras
    exact (demandExtrasOn_json hCredit).trans (updatePayment_json hUpdate fun p => (hSame p).id)

/-- A status reply is stored as it came. -/
theorem recorded_json {payment : Payment} {opts : FinalizeOptions} {result : RequeryResult} :
    WritesJson [result.raw] [] db (finalizeRequerySuccess ctx payment opts
      (db.addTransaction (requeryTransactionRow payment result))).1 := by
  have hRecorded : WritesJson [result.raw] [] db
      (db.addTransaction (requeryTransactionRow payment result)) := by
    refine .addTransaction fun j hj => .inl ?_
    simpa [PaymentTransaction.json, requeryTransactionRow] using hj
  exact hRecorded.trans finalizeRequerySuccess_json

/-- The status reply that a delivery gets, if it comes to ask the gateway. -/
def Delivery.statusReply? (db : Db) : Delivery → Option RequeryResult
  | .callback _ => none
  | .requery user paymentId reply =>
      match requeryRead user paymentId db with
      | .ok _ => reply
      | .error _ => none
  | .sync merchTxnId reply =>
      match syncRead merchTxnId db with
      | .ok payment => if syncAnswersAsStored payment.status then none else reply
      | .error _ => none

/-- A requery stores the reply of the gateway as it came. -/
theorem requery_json {user : AuthUser} {paymentId : Id} {reply : Option RequeryResult} :
    WritesJson (((Delivery.requery user paymentId reply).statusReply? db).map
      RequeryResult.raw).toList [] db (requery ctx user paymentId reply db).1 := by
  unfold requery
  cases hRead : requeryRead user paymentId db with
  | error error => exact .refl db
  | ok payment =>
      cases reply with
      | none => exact .refl db
      | some result =>
          simp only [Delivery.statusReply?, hRead, Option.map_some, Option.toList_some]
          have hRecorded : WritesJson [result.raw] [] db (finalizeRequerySuccess ctx payment
              ⟨result.success, result.atomTxnId, false⟩
              (db.addTransaction (requeryTransactionRow payment result))).1 := recorded_json
          dsimp only [finishRequery]
          rcases hResult : finalizeRequerySuccess ctx payment _ _ with ⟨after, _ | updated⟩
          · rw [hResult] at hRecorded
            exact hRecorded
          · rw [hResult] at hRecorded
            refine hRecorded.trans (.log ?_ ?_)
            · intro j hj
              simp only [AuditEntry.json, Option.toList_none, Option.toList_some, List.nil_append,
                List.append_nil, List.mem_singleton] at hj
              subst hj
              simp [Json.hasKey, Json.fieldsHaveKey]
            · intro j hj
              simp [AuditEntry.payload] at hj

/-- The citizen's polling stores the reply of the gateway as it came. -/
theorem sync_json {merchTxnId : String} {reply : Option RequeryResult} :
    WritesJson (((Delivery.sync merchTxnId reply).statusReply? db).map
      RequeryResult.raw).toList [] db
      (syncCitizenPaymentByMerchTxnId ctx merchTxnId reply db).1 := by
  unfold syncCitizenPaymentByMerchTxnId
  cases hRead : syncRead merchTxnId db with
  | error error => exact .refl db
  | ok payment =>
      dsimp only [finishSync]
      split_ifs with hStored
      · exact .refl db
      · cases reply with
        | none => exact .refl db
        | some result =>
            simp only [Delivery.statusReply?, hRead, hStored, Bool.false_eq_true, ↓reduceIte,
              Option.map_some, Option.toList_some]
            exact recorded_json

/-- A refund stores the reply of the gateway as it was redacted. -/
theorem refund_json {user : AuthUser} {paymentId : Id} {amount : ℚ} {reason : Option String}
    {reply : Option RefundResult} {now : Timestamp} :
    WritesJson [] (reply.map RefundResult.raw).toList db
      (refund user paymentId amount reason reply now db).1 := by
  rcases refund_cases user paymentId amount reason reply now db with
    hSame | ⟨read, gateway, refunds, _, hReply, hAdded, hRest⟩
  · rw [hSame]
    exact .refl db
  · have hRow : ∀ payments nextId, WritesJson [] (reply.map RefundResult.raw).toList db
        { db with refunds, payments, nextId } := by
      intro payments nextId
      have hStored : StoredFrom [] (reply.map RefundResult.raw).toList
          (redactSensitivePaymentPayload gateway.raw) := by
        rw [hReply]
        exact storedFrom_redact List.mem_cons_self
      refine ⟨fun j hj => ?_, fun j hj => ?_⟩
      · rcases hj.of_refunds hAdded with hOld | hNew
        · exact .inl hOld
        · exact .inr (WritesJson.clean_of_storedFrom (Option.some.inj hNew ▸ hStored))
      · rcases hj.of_refunds hAdded with hOld | hNew
        · exact .inl hOld
        · exact .inr (Option.some.inj hNew ▸ hStored)
    rcases hRest with hResult | ⟨_, p, payments, _, _, hResult⟩
    · rw [hResult]
      exact hRow db.payments _
    · rw [hResult]
      exact hRow payments _

end Walk

/-! ### Runs -/

/-- What a call stores as the gateway sent it. -/
def Call.statusReplies (db : Db) (call : Call) : List Json :=
  match call.operation with
  | .deliver delivery => ((delivery.statusReply? db).map RequeryResult.raw).toList
  | _ => []

/-- What a call stores redacted. -/
def Call.redacted (call : Call) : List Json :=
  match call.operation with
  | .createOnline _ _ _ reply => reply.received
  | .createCitizenPayment _ _ reply => reply.received
  | .deliver (.callback payload) => callbackBodies call.ctx payload
  | .gatewayReturn payload => callbackBodies call.ctx payload
  | .refund _ _ _ _ reply => (reply.map RefundResult.raw).toList
  | _ => []

/-- Every payment call stores redacted texts, and the replies on a payment's status as they came. -/
theorem perform_json (db : Db) {call : Call} (hPayment : call.IsPayment) :
    WritesJson (call.statusReplies db) call.redacted db (perform db call) := by
  obtain ⟨ctx, operation⟩ := call
  cases operation with
  | createOnline input user suffix reply => exact createOnline_json
  | createCitizenPayment dto suffix reply => exact createCitizenPayment_json
  | deliver delivery =>
      cases delivery with
      | callback payload => exact handleCallback_json payload
      | requery user paymentId reply => exact requery_json
      | sync merchTxnId reply => exact sync_json
  | gatewayReturn payload =>
      change WritesJson [] (callbackBodies ctx payload) db (handleGatewayReturn ctx payload db).1
      rw [handleGatewayReturn_db, ← handleCallback_db]
      exact handleCallback_json payload
  | createOffline input user suffix => exact createOffline_json
  | refund user paymentId amount reason reply => exact refund_json
  | publish => exact hPayment.elim
  | publishForWard => exact hPayment.elim
  | commitYearEnd => exact hPayment.elim

/-- The call adds no card data to the JSON columns, and its payloads are values
that the gateway sent, unchanged where these have no card data. -/
structure CardsKeptOut (db : Db) (call : Call) : Prop where
  json : ∀ j, (perform db call).Stores AuditEntry.json j →
    db.Stores AuditEntry.json j ∨ j.hasKey "cardDetails" = false
  payloads : ∀ j, (perform db call).Stores AuditEntry.payload j →
    db.Stores AuditEntry.payload j ∨ ∃ v ∈ call.statusReplies db ++ call.redacted,
      (j = v ∨ j = redactSensitivePaymentPayload v) ∧ (v.hasKey "cardDetails" = false → j = v)

/-- No status reply has card data, and no value that is redacted has the field
`__proto__` but one with card data. -/
def Call.SafeReplies (db : Db) (call : Call) : Prop :=
  (∀ v ∈ call.statusReplies db, v.hasKey "cardDetails" = false) ∧
    ∀ v ∈ call.redacted, v.hasKey "cardDetails" = false → v.hasKey "__proto__" = false

/-- A call whose status replies hold no card data stores none. -/
theorem cardsKeptOut_of_safe {db : Db} {call : Call} (hPayment : call.IsPayment)
    (hSafe : call.SafeReplies db) : CardsKeptOut db call := by
  obtain ⟨hJson, hPayloads⟩ := perform_json db hPayment
  refine ⟨fun j hj => ?_, fun j hj => ?_⟩
  · rcases hJson j hj with hOld | hReply | hClean
    · exact .inl hOld
    · exact .inr (hSafe.1 j hReply)
    · exact .inr hClean
  · rcases hPayloads j hj with hOld | hReply | ⟨v, hv, hRedacted⟩
    · exact .inl hOld
    · exact .inr ⟨j, List.mem_append_left _ hReply, .inl rfl, fun _ => rfl⟩
    · refine .inr ⟨v, List.mem_append_right _ hv, .inr hRedacted, fun hClean => ?_⟩
      rw [hRedacted, redact_eq_self v hClean (hSafe.2 v hv hClean)]

/-- In every run of payment calls whose replies are safe, no card data is
written, and what has none is stored as the gateway sent it. -/
theorem no_card_data_of_safe (db : Db) {calls : List Call}
    (hPayments : ∀ call ∈ calls, call.IsPayment)
    (hAlong : Along perform (fun db call => call.SafeReplies db) db calls) :
    (∀ j, (run perform db calls).Stores AuditEntry.json j →
      db.Stores AuditEntry.json j ∨ j.hasKey "cardDetails" = false) ∧
    Along perform CardsKeptOut db calls := by
  have hKeptOut : Along perform CardsKeptOut db calls :=
    ((along_of_forall Call.IsPayment hPayments).and hAlong).mono fun _ _ h =>
      cardsKeptOut_of_safe h.1 h.2
  refine ⟨?_, hKeptOut⟩
  refine run_invariant_along (fun s => ∀ j, s.Stores AuditEntry.json j →
    db.Stores AuditEntry.json j ∨ j.hasKey "cardDetails" = false) ?_ (fun _ => .inl) hKeptOut
  intro s call hBefore hStep j hj
  exact (hStep.json j hj).elim (hBefore j) .inr

namespace Sample

/-- The card that a payer used, as the gateway nests it. -/
def payInstrument : Json :=
  .obj [("payModeSpecificData", .obj [("cardDetails", .obj [("cardNumber", .str "4111")])])]

def bodyWithCard : Json.Fields :=
  [("merchTxnId", .str "CHH-1-a"), ("statusCode", .str "OTS0000"), ("amount", .num 400),
    ("payInstrument", payInstrument)]

/-- A callback whose body has card data, and a requery. -/
def callbackWithCard : List Call :=
  [⟨context, .deliver (.callback bodyWithCard)⟩,
    ⟨context, .deliver (.requery administrator 2 (some (sandboxRequery "CHH-1-a")))⟩]

end Sample

/-- A callback with card data is stored without it. -/
theorem no_card_data_of_callback :
    (∃ c ∈ (run perform Sample.db Sample.callbackWithCard).callbacks.rows,
      c.rawPayload.hasKey "payInstrument" = true) ∧
    ∀ j, (run perform Sample.db Sample.callbackWithCard).Stores AuditEntry.json j →
      Sample.db.Stores AuditEntry.json j ∨ j.hasKey "cardDetails" = false := by
  have hPayments : ∀ call ∈ Sample.callbackWithCard, call.IsPayment := by
    simp [Sample.callbackWithCard, Call.IsPayment]
  refine ⟨by decide +kernel, (no_card_data_of_safe Sample.db hPayments ?_).1⟩
  refine ⟨⟨?_, ?_⟩, ⟨?_, ?_⟩, trivial⟩
  · exact fun v hv => absurd hv List.not_mem_nil
  · exact of_decide_eq_true (by decide)
  · exact of_decide_eq_true (by decide +kernel)
  · exact fun v hv => absurd hv List.not_mem_nil

/-- The gateway answers a requery with the card that was used. -/
theorem requery_stores_card_data :
    ¬ ∀ (db : Db) (calls : List Call), (∀ call ∈ calls, call.IsPayment) →
      ∀ j, (run perform db calls).Stores AuditEntry.json j →
        db.Stores AuditEntry.json j ∨ j.hasKey "cardDetails" = false := by
  intro h
  have hStored : ∃ t ∈ (run perform Sample.db [⟨Sample.context, .deliver (.requery
      Sample.administrator 2 (some { sandboxRequery "CHH-1-a" with
        raw := Sample.payInstrument }))⟩]).transactions,
      ∃ j ∈ t.json, j.hasKey "cardDetails" = true := by decide
  obtain ⟨t, ht, j, hj, hCard⟩ := hStored
  rcases h Sample.db _ (by simp [Call.IsPayment]) j (.transaction t ht hj) with hOld | hClean
  · -- The database held no JSON.
    cases hOld with
    | transaction t ht => exact absurd ht List.not_mem_nil
    | callback c hc => exact absurd hc List.not_mem_nil
    | refund r hr => exact absurd hr List.not_mem_nil
    | audit e he => exact absurd he List.not_mem_nil
  · rw [hCard] at hClean
    cases hClean

end PropertyTax
