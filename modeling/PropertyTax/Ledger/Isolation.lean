import PropertyTax.Ledger.Callbacks

/-! Whose rows a callback touches. The row it works on is looked up by a key that
the sender of the body chooses, outside what is signed or encrypted, and by the
transaction id only when no row has that key. -/
namespace PropertyTax
open KeyedTable Runs

/-- The callback is answered from a processed row. -/
def treatsAsDuplicate (ctx : Context) (payload : Json.Fields) (db : Db) : Bool :=
  match (readCallback ctx payload db).2 with
  | .ok (.inr read) => read.duplicateOf.isSome
  | _ => false

/-- The row names a stored payment other than the one of transaction `m`. -/
def PaymentCallback.OfAnother (payments : KeyedTable Payment) (m : String)
    (c : PaymentCallback) : Prop :=
  ∃ q ∈ payments.rows, q.merchTxnId ≠ some m ∧
    (c.paymentId = some q.id ∨ (q.merchTxnId.isSome ∧ c.merchTxnId = q.merchTxnId))

/-- The database as it would be without the callbacks of other transactions. -/
def Db.onlyCallbacksOf (db : Db) (m : String) : Db :=
  { db with callbacks := db.callbacks.restrict fun c => c.merchTxnId = some m }

/-- The callback of transaction `m` leaves every other payment, and every callback
row of another payment, as it is, creates none, and is a duplicate or not by the
callbacks of `m` alone. -/
structure CallbackIsolated (ctx : Context) (payload : Json.Fields) (m : String) (db : Db) :
    Prop where
  payments : ∀ p, p.merchTxnId ≠ some m →
    (p ∈ (handleCallback ctx payload db).1.payments.rows ↔ p ∈ db.payments.rows)
  callbacks : ∀ c, c.OfAnother db.payments m →
    (c ∈ (handleCallback ctx payload db).1.callbacks.rows ↔ c ∈ db.callbacks.rows)
  duplicate : treatsAsDuplicate ctx payload db =
    treatsAsDuplicate ctx payload (db.onlyCallbacksOf m)

/-- No payment of the transaction is stored. -/
def IsUnknown (m : String) (db : Db) : Prop := ∀ p ∈ db.payments.rows, p.merchTxnId ≠ some m

/-- The key that the body leads to is on no callback row of another transaction, or there is no
payment for a callback row to be looked up for. -/
def KeyIsOwn (payload : Json.Fields) (m : String) (db : Db) : Prop :=
  IsUnknown m db ∨ ∀ key, idempotencyKeyOf payload = .ok key → ∀ c ∈ db.callbacks.rows,
    c.idempotencyKey = some (buildPaymentCallbackIdempotencyKey key (some m)) →
      c.merchTxnId = some m

section Own
variable {ctx : Context} {payload : Json.Fields} {m : String} {db : Db} {read : CallbackRead}

/-- A callback of the transaction is not one of another. -/
theorem PaymentCallback.Owned.not_ofAnother {payments : KeyedTable Payment} {c : PaymentCallback}
    (h : c.Owned payments) (hMerch : c.merchTxnId = some m) : ¬ c.OfAnother payments m := by
  obtain ⟨p, hp, merchTxnId, hpMerch, hcMerch, hPayment⟩ := h
  rintro ⟨q, hq, hOther, hNamed | ⟨_, hNamed⟩⟩
  · have hSame : p = q := eq_of_key hp hq (Option.some.inj (hPayment.symm.trans hNamed))
    rw [← hSame, hpMerch, ← hcMerch] at hOther
    exact hOther hMerch
  · exact hOther (hNamed.symm.trans hMerch)

/-- A callback gets past its reads with a stored payment only. -/
theorem IsUnknown.not_read (h : IsUnknown m db) (hRead : CallbackReadFrom ctx payload db read) :
    read.merchTxnId ≠ m := by
  intro hMerch
  obtain ⟨hMem, hpMerch⟩ := Db.paymentByMerchTxnId?_spec hRead.payment
  exact h read.payment hMem (hpMerch.trans (congrArg some hMerch))

/-- With a key of its own, a callback works on a row of its own transaction. -/
theorem existingCallback_own (hKey : KeyIsOwn payload m db)
    (hRead : CallbackReadFrom ctx payload db read) (hMerch : read.merchTxnId = m)
    {existing : PaymentCallback} (hExisting : read.existing = some existing) :
    existing ∈ db.callbacks.rows ∧ existing.merchTxnId = some m := by
  obtain ⟨key, hKeyOf, hIdempotency⟩ := hRead.key
  rw [hRead.existing] at hExisting
  rcases Option.or_eq_some_iff.mp hExisting with hByKey | ⟨_, hByMerch⟩
  · have hMem := List.mem_of_find?_eq_some hByKey
    have hFound : existing.idempotencyKey = some read.idempotencyKey := by
      simpa using List.find?_some hByKey
    rw [hIdempotency, hMerch] at hFound
    have hRows := hKey.resolve_left fun hUnknown => hUnknown.not_read hRead hMerch
    exact ⟨hMem, hRows key hKeyOf existing hMem hFound⟩
  · have hFound : existing.merchTxnId = some read.merchTxnId := by
      simpa using List.find?_some hByMerch
    exact ⟨List.mem_of_find?_eq_some hByMerch, hFound.trans (congrArg some hMerch)⟩

/-- The payments of other transactions stay as they are. -/
theorem PaymentSettled.others {payments payments' : KeyedTable Payment} {payment : Payment}
    (h : PaymentSettled payment payments payments') (hMem : payment ∈ payments.rows)
    (hMerch : payment.merchTxnId = some m) {p : Payment} (hOther : p.merchTxnId ≠ some m) :
    p ∈ payments'.rows ↔ p ∈ payments.rows := by
  cases h with
  | kept hSame => rw [hSame]
  | settled old new hRow hId hSame =>
      have hOld : old = payment := eq_of_key hRow.mem_old hMem hId
      subst hOld
      rw [hRow.mem_iff]
      constructor
      · rintro (⟨hp, _⟩ | rfl)
        · exact hp
        · exact absurd (hSame.merchTxnId.trans hMerch) hOther
      · intro hp
        refine .inl ⟨hp, fun hKey => hOther ?_⟩
        rw [eq_of_key hp hRow.mem_old hKey, hMerch]

/-- Only rows of the callback's own transaction are written. -/
theorem CallbackWritten.others (hOwned : CallbacksOwned db) (hKey : KeyIsOwn payload m db)
    (hRead : CallbackReadFrom ctx payload db read) (hMerch : read.merchTxnId = m)
    {callbacks' : KeyedTable PaymentCallback} (h : CallbackWritten read db.callbacks callbacks')
    {c : PaymentCallback} (hOther : c.OfAnother db.payments m) :
    c ∈ callbacks'.rows ↔ c ∈ db.callbacks.rows := by
  cases h with
  | kept hSame => rw [hSame]
  | rewritten existing old new hExisting hRow hId hPayment hNewMerch =>
      obtain ⟨hMem, hOwn⟩ := existingCallback_own hKey hRead hMerch hExisting
      have hOld : old = existing := eq_of_key hRow.mem_old hMem hId
      subst hOld
      obtain ⟨p, hp, merchTxnId, hpMerch, hOldMerch, hOldPayment⟩ := hOwned old hMem
      have hNew : new.Owned db.payments :=
        ⟨p, hp, merchTxnId, hpMerch, hNewMerch.trans hOldMerch, hPayment.trans hOldPayment⟩
      rw [hRow.mem_iff]
      constructor
      · rintro (⟨hc, _⟩ | rfl)
        · exact hc
        · exact absurd hOther (hNew.not_ofAnother (hNewMerch.trans hOwn))
      · intro hc
        refine .inl ⟨hc, fun hSameKey => ?_⟩
        rw [eq_of_key hc hMem hSameKey] at hOther
        exact (hOwned old hMem).not_ofAnother hOwn hOther
  | created new _ hRow hPayment hNewMerch =>
      obtain ⟨hMem, hpMerch⟩ := Db.paymentByMerchTxnId?_spec hRead.payment
      have hNew : new.Owned db.payments :=
        ⟨read.payment, hMem, read.merchTxnId, hpMerch, hNewMerch, hPayment⟩
      rw [hRow.mem_iff]
      constructor
      · rintro (hc | rfl)
        · exact hc
        · exact absurd hOther (hNew.not_ofAnother (hNewMerch.trans (congrArg some hMerch)))
      · exact Or.inl

/-! ### Duplicates -/

/-- Under a key of its own, a transaction finds no callback of another. -/
theorem existingCallback_restrict {idempotencyKey : String}
    (hKey : ∀ c ∈ db.callbacks.rows, c.idempotencyKey = some idempotencyKey →
      c.merchTxnId = some m) :
    existingCallback (db.onlyCallbacksOf m) idempotencyKey m =
      existingCallback db idempotencyKey m := by
  unfold existingCallback Db.callbackByKey? Db.callbackByMerchTxnId? Db.onlyCallbacksOf
  rw [findFirst?_restrict (by simpa using hKey), findFirst?_restrict (by simp)]

/-- The reads come to the same in databases with the same payments that find
the same callback row. -/
theorem readCallback_congr {db' : Db} (hPayments : db'.payments = db.payments)
    (hExisting : ∀ parsed merchTxnId key, parseCallbackPayload ctx.gateway payload = .ok parsed →
      parsed.merchTxnId = some merchTxnId → idempotencyKeyOf payload = .ok key →
      existingCallback db' (buildPaymentCallbackIdempotencyKey key (some merchTxnId)) merchTxnId =
        existingCallback db (buildPaymentCallbackIdempotencyKey key (some merchTxnId))
          merchTxnId) :
    (readCallback ctx payload db').2 = (readCallback ctx payload db).2 := by
  unfold readCallback
  dsimp only
  cases hParsed : parseCallbackPayload ctx.gateway payload with
  | error failure => cases failure <;> rfl
  | ok parsed =>
      cases hKey : idempotencyKeyOf payload with
      | error error => rfl
      | ok key =>
          cases hMerch : parsed.merchTxnId.filter (· ≠ "") with
          | none => simp only [hMerch, early, rejectWebhook]
          | some merchTxnId =>
              have hSome : parsed.merchTxnId = some merchTxnId :=
                (Option.filter_eq_some_iff.mp hMerch).1
              have hRow := hExisting parsed merchTxnId key hParsed hSome hKey
              have hPayment (entry : AuditEntry) : (db'.log entry).paymentByMerchTxnId? merchTxnId =
                  (db.log entry).paymentByMerchTxnId? merchTxnId := by
                rw [Db.paymentByMerchTxnId?, Db.log_payments, hPayments]
                rfl
              simp only [hMerch, hPayment]
              cases (db.log (webhookReceived ctx.gateway payload)).paymentByMerchTxnId?
                  merchTxnId with
              | none => rfl
              | some payment =>
                  rw [← hSome] at hRow
                  exact congrArg (fun existing => Except.ok (Sum.inr (CallbackRead.mk merchTxnId
                    parsed.atomTxnId parsed.statusCode parsed.gatewayAmount _ _ payment
                    existing))) hRow

/-- A callback of no stored payment is answered before any row is looked up. -/
theorem treatsAsDuplicate_of_unknown (hParsed : ∀ parsed,
      parseCallbackPayload ctx.gateway payload = .ok parsed → parsed.merchTxnId = some m)
    (hUnknown : IsUnknown m db) : treatsAsDuplicate ctx payload db = false := by
  unfold treatsAsDuplicate
  cases hReads : readCallback ctx payload db with
  | mk after result =>
      cases result with
      | error error => rfl
      | ok answer =>
          cases answer with
          | inl early => rfl
          | inr read =>
              have hRead := readCallback_inr hReads
              obtain ⟨parsed, hOk, hMerch, -⟩ := hRead.parsed
              have hSame := Option.some.inj (hMerch.symm.trans (hParsed parsed hOk))
              exact absurd hSame (hUnknown.not_read hRead)

/-- A callback is a duplicate of its own transaction's rows only. -/
theorem treatsAsDuplicate_own (hParsed : ∀ parsed,
      parseCallbackPayload ctx.gateway payload = .ok parsed → parsed.merchTxnId = some m)
    (hKey : KeyIsOwn payload m db) :
    treatsAsDuplicate ctx payload (db.onlyCallbacksOf m) = treatsAsDuplicate ctx payload db := by
  rcases hKey with hUnknown | hKey
  · have hOwnUnknown : IsUnknown m (db.onlyCallbacksOf m) := hUnknown
    rw [treatsAsDuplicate_of_unknown hParsed hUnknown,
      treatsAsDuplicate_of_unknown hParsed hOwnUnknown]
  have hReads : (readCallback ctx payload (db.onlyCallbacksOf m)).2 =
      (readCallback ctx payload db).2 := by
    refine readCallback_congr rfl fun parsed merchTxnId key hOk hMerch hKeyOf => ?_
    have hOwn : merchTxnId = m := Option.some.inj (hMerch.symm.trans (hParsed parsed hOk))
    subst hOwn
    exact existingCallback_restrict (hKey key hKeyOf)
  unfold treatsAsDuplicate
  rw [hReads]

end Own

/-! ### Runs -/

/-- In every reachable state, a callback whose key is its own touches the rows of
its own transaction alone. -/
theorem callback_isolated {calls : List Call} {ctx : Context} {payload : Json.Fields}
    {parsed : ParsedCallback} {m : String}
    (hParsed : parseCallbackPayload ctx.gateway payload = .ok parsed)
    (hMerch : parsed.merchTxnId = some m)
    (hKey : KeyIsOwn payload m (run perform Db.empty calls)) :
    CallbackIsolated ctx payload m (run perform Db.empty calls) := by
  have hOwned := callbacksOwned_of_run calls
  generalize run perform Db.empty calls = db at hKey hOwned
  have hAll : ∀ parsed', parseCallbackPayload ctx.gateway payload = .ok parsed' →
      parsed'.merchTxnId = some m := by
    intro parsed' hParsed'
    rw [hParsed] at hParsed'
    cases hParsed'
    exact hMerch
  have hDuplicate := (treatsAsDuplicate_own hAll hKey).symm
  rcases handleCallback_rows ctx payload db with
    ⟨hPayments, hCallbacks⟩ | ⟨read, hRead, hSettled, hWritten⟩
  · refine ⟨fun p _ => ?_, fun c _ => ?_, hDuplicate⟩
    · rw [hPayments]
    · rw [hCallbacks]
  · have hReadMerch : read.merchTxnId = m := by
      obtain ⟨parsed', hParsed', hReadMerch, _⟩ := hRead.parsed
      exact Option.some.inj (hReadMerch.symm.trans (hAll parsed' hParsed'))
    obtain ⟨hMem, hpMerch⟩ := Db.paymentByMerchTxnId?_spec hRead.payment
    refine ⟨fun p hOther => ?_, fun c hOther => ?_, hDuplicate⟩
    · exact hSettled.others hMem (hpMerch.trans (congrArg some hReadMerch)) hOther
    · exact hWritten.others hOwned hKey hRead hReadMerch hOther

namespace Sample

def gatewayBody (merchTxnId atomTxnId statusCode : String) : Json.Fields :=
  [("merchTxnId", .str merchTxnId), ("atomTxnId", .str atomTxnId),
    ("statusCode", .str statusCode), ("amount", .num 1000)]

/-- Two checkouts are open, and the first is paid. -/
def twoCheckouts : Db :=
  run perform Db.empty [⟨ward, .publishForWard 5 20 none⟩, openCheckout "a", openCheckout "b",
    ⟨ward, .deliver (.callback (gatewayBody "CHH-1000-a" "11" "OTS0000"))⟩]

/-- The failure of the second, under the key of the first. -/
def foreignKeyBody : Json.Fields :=
  ("idempotencyKey", .str "CHH-1000-a") :: gatewayBody "CHH-1000-b" "12" "OTS0600"

end Sample

/-- A callback of one checkout leaves the other alone. -/
theorem callback_isolated_failure :
    CallbackIsolated Sample.ward (Sample.gatewayBody "CHH-1000-b" "12" "OTS0600") "CHH-1000-b"
      Sample.twoCheckouts := by
  have hMerch : (parseCallbackPayload Sample.ward.gateway
      (Sample.gatewayBody "CHH-1000-b" "12" "OTS0600")).toOption.bind ParsedCallback.merchTxnId =
        some "CHH-1000-b" := by decide
  have hStored : ∀ c ∈ Sample.twoCheckouts.callbacks.rows,
      c.idempotencyKey = some "CHH-1000-b" → c.merchTxnId = some "CHH-1000-b" := by decide +kernel
  have hKeyOf : buildPaymentCallbackIdempotencyKey none (some "CHH-1000-b") = "CHH-1000-b" := by
    decide
  cases hParsed : parseCallbackPayload Sample.ward.gateway
      (Sample.gatewayBody "CHH-1000-b" "12" "OTS0600") with
  | error failure => simp [hParsed, Except.toOption] at hMerch
  | ok parsed =>
      refine callback_isolated hParsed (by simpa [hParsed, Except.toOption] using hMerch)
        (.inr fun key hKey => ?_)
      have hNone : none = key := Except.ok.inj hKey
      rw [← hNone, hKeyOf]
      exact hStored

/-- The failure of one payment, under the key of another, is written over the
callback row of the other and taken for a duplicate of it. -/
theorem foreign_key_rewrites_callback :
    (parseCallbackPayload Sample.ward.gateway Sample.foreignKeyBody).toOption.bind
      ParsedCallback.merchTxnId = some "CHH-1000-b" ∧
    (∃ c, c.OfAnother Sample.twoCheckouts.payments "CHH-1000-b" ∧
      ¬ (c ∈ (handleCallback Sample.ward Sample.foreignKeyBody
          Sample.twoCheckouts).1.callbacks.rows ↔ c ∈ Sample.twoCheckouts.callbacks.rows)) ∧
    treatsAsDuplicate Sample.ward Sample.foreignKeyBody Sample.twoCheckouts ≠
      treatsAsDuplicate Sample.ward Sample.foreignKeyBody
        (Sample.twoCheckouts.onlyCallbacksOf "CHH-1000-b") := by
  have hStored : ∃ c ∈ Sample.twoCheckouts.callbacks.rows,
      c.paymentId = some 1 ∧ c.atomTxnId = some "11" := by decide +kernel
  have hOther : ∃ q ∈ Sample.twoCheckouts.payments.rows,
      q.merchTxnId ≠ some "CHH-1000-b" ∧ q.id = 1 := by decide +kernel
  have hRewritten : ∀ c ∈ (handleCallback Sample.ward Sample.foreignKeyBody
      Sample.twoCheckouts).1.callbacks.rows, c.atomTxnId ≠ some "11" := by decide +kernel
  obtain ⟨c, hc, hPayment, hAtom⟩ := hStored
  obtain ⟨q, hq, hMerch, hId⟩ := hOther
  refine ⟨by decide, ⟨c, ⟨q, hq, hMerch, .inl (hId ▸ hPayment)⟩, fun hKept => ?_⟩,
    by decide +kernel⟩
  exact hRewritten c (hKept.mpr hc) hAtom

end PropertyTax
