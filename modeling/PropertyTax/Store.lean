import PropertyTax.Gateway.AtomCallback

/-! The writes the services make, one table at a time, and the context a call
runs in. A refused write leaves nothing behind. -/
namespace PropertyTax

/-- What a call reads besides the database. -/
structure Context where
  reference : Reference
  billing : Billing
  gateway : Gateway
  parseDate : String → Option Timestamp
  now : Timestamp

/-- The database after a call, and its answer. -/
abbrev Reply (α : Type) := Db × Except ApiError α

/-- Commit what an interactive transaction computed, or nothing of it. -/
def commit {α : Type} (db : Db) : Except Refusal (Db × α) → Reply α
  | .ok (after, answer) => (after, .ok answer)
  | .error refusal => (db, .error (.database refusal))

/-- A transaction with an answer has committed. -/
theorem commit_ok {α : Type} {db db' : Db} {answer : α} {body : Except Refusal (Db × α)}
    (h : commit db body = (db', .ok answer)) : body = .ok (db', answer) := by
  cases body with
  | error refusal => simp [commit] at h
  | ok result =>
      obtain ⟨after, a⟩ := result
      simp only [commit, Prod.mk.injEq, Except.ok.injEq] at h
      rw [h.1, h.2]

/-- A mapped answer comes from an answer. -/
theorem map_ok {ε α β : Type} {x : Except ε α} {f : α → β} {b : β}
    (h : x.map f = .ok b) : ∃ a, x = .ok a ∧ f a = b := by
  cases x with
  | error e => cases h
  | ok a => exact ⟨a, rfl, by simpa [Except.map] using h⟩

/-- A bound answer comes from two answers. -/
theorem bind_ok {ε α β : Type} {x : Except ε α} {f : α → Except ε β} {b : β}
    (h : (x >>= f) = .ok b) : ∃ a, x = .ok a ∧ f a = .ok b := by
  cases x with
  | error e => cases h
  | ok a => exact ⟨a, rfl, h⟩

/-- A result that gives a value is that answer. -/
theorem ok_of_toOption {ε α : Type} {result : Except ε α} {a : α} (h : result.toOption = some a) :
    result = .ok a := by
  cases result with
  | ok b => exact congrArg Except.ok (Option.some.inj h)
  | error => cases h

/-- Naming errors leaves answers as they are. -/
theorem mapError_ok {ε ε' α : Type} {x : Except ε α} {f : ε → ε'} {a : α}
    (h : x.mapError f = .ok a) : x = .ok a := by
  cases x with
  | error e => cases h
  | ok b =>
      cases h
      rfl

/-- Fields of a JSON object, without those that are `undefined`. -/
def jsonFields (fields : List (String × Option Json)) : Json :=
  .obj (fields.filterMap fun field => field.2.map fun value => (field.1, value))

namespace Db

def createPayment (db : Db) (row : Id → Payment) : Except Refusal Db :=
  (db.payments.insert (row db.nextId)).map fun payments =>
    { db with payments, nextId := db.nextId + 1 }

def updatePayment (db : Db) (id : Id) (data : Payment → Payment) : Except Refusal Db :=
  (db.payments.update id data).map fun payments => { db with payments }

def createCallback (db : Db) (row : Id → PaymentCallback) : Except Refusal Db :=
  (db.callbacks.insert (row db.nextId)).map fun callbacks =>
    { db with callbacks, nextId := db.nextId + 1 }

def updateCallback (db : Db) (id : Id) (data : PaymentCallback → PaymentCallback) :
    Except Refusal Db :=
  (db.callbacks.update id data).map fun callbacks => { db with callbacks }

def createRefund (db : Db) (row : Id → PaymentRefund) : Except Refusal Db :=
  (db.refunds.insert (row db.nextId)).map fun refunds =>
    { db with refunds, nextId := db.nextId + 1 }

def createDemand (db : Db) (row : Id → PropertyDemand) : Except Refusal Db :=
  (db.demands.insert (row db.nextId)).map fun demands =>
    { db with demands, nextId := db.nextId + 1 }

def updateDemand (db : Db) (id : Id) (data : PropertyDemand → PropertyDemand) :
    Except Refusal Db :=
  (db.demands.update id data).map fun demands => { db with demands }

def createDemandArrear (db : Db) (row : Id → DemandArrear) : Except Refusal Db :=
  (db.demandArrears.insert (row db.nextId)).map fun demandArrears =>
    { db with demandArrears, nextId := db.nextId + 1 }

def createYearEndRun (db : Db) (row : Id → YearEndRun) : Except Refusal Db :=
  (db.yearEndRuns.insert (row db.nextId)).map fun yearEndRuns =>
    { db with yearEndRuns, nextId := db.nextId + 1 }

def updateYearEndRun (db : Db) (id : Id) (data : YearEndRun → YearEndRun) : Except Refusal Db :=
  (db.yearEndRuns.update id data).map fun yearEndRuns => { db with yearEndRuns }

/-! ### Lookups -/

def paymentByMerchTxnId? (db : Db) (merchTxnId : String) : Option Payment :=
  db.payments.findFirst? fun p => p.merchTxnId = some merchTxnId

def callbackByKey? (db : Db) (idempotencyKey : String) : Option PaymentCallback :=
  db.callbacks.findFirst? fun c => c.idempotencyKey = some idempotencyKey

/-- Rows stand in the order they were created in. -/
def callbackByMerchTxnId? (db : Db) (merchTxnId : String) : Option PaymentCallback :=
  db.callbacks.findFirst? fun c => c.merchTxnId = some merchTxnId

/-- The payment found has the merchant transaction asked for. -/
theorem paymentByMerchTxnId?_spec {db : Db} {merchTxnId : String} {p : Payment}
    (h : db.paymentByMerchTxnId? merchTxnId = some p) :
    p ∈ db.payments.rows ∧ p.merchTxnId = some merchTxnId :=
  ⟨List.mem_of_find?_eq_some h, by simpa using List.find?_some h⟩

/-- The demand found is that of the survey and year. -/
theorem demandFor?_spec {db : Db} {surveyId assessmentYearId : Id} {d : PropertyDemand}
    (h : db.demandFor? surveyId assessmentYearId = some d) :
    d ∈ db.demands.rows ∧ d.surveyId = surveyId ∧ d.assessmentYearId = assessmentYearId :=
  ⟨List.mem_of_find?_eq_some h, by simpa using List.find?_some h⟩

/-- Where none is found, the survey has no demand of the year. -/
theorem demandFor?_eq_none {db : Db} {surveyId assessmentYearId : Id}
    (h : db.demandFor? surveyId assessmentYearId = none) :
    ∀ d ∈ db.demands.rows, d.surveyId = surveyId → d.assessmentYearId ≠ assessmentYearId := by
  intro d hd hSurvey hYear
  have hMiss := List.find?_eq_none.mp h d hd
  simp [hSurvey, hYear] at hMiss

/-! ### What a write changed -/

section Writes
variable {db db' : Db} {id : Id}

/-- A created payment is stored with an id drawn for it. -/
theorem createPayment_ok {row : Id → Payment} (h : db.createPayment row = .ok db') :
    ∃ payments, KeyedTable.Added db.payments payments (row db.nextId) ∧
      db' = { db with payments, nextId := db.nextId + 1 } := by
  obtain ⟨payments, hInsert, hDb⟩ := map_ok h
  exact ⟨payments, KeyedTable.added_of_insert hInsert, hDb.symm⟩

/-- Updating a payment by key replaces the row that is stored under the key,
whatever the caller read before. -/
theorem updatePayment_ok {data : Payment → Payment} (h : db.updatePayment id data = .ok db')
    (hData : ∀ p, (data p).id = p.id) :
    ∃ p payments, p.id = id ∧ KeyedTable.Replaced db.payments payments p (data p) ∧
      db' = { db with payments } := by
  obtain ⟨payments, hUpdate, hDb⟩ := map_ok h
  obtain ⟨p, hp, hKey⟩ := KeyedTable.exists_of_update hUpdate
  exact ⟨p, payments, hKey, KeyedTable.replaced_of_update hUpdate hp hKey (hData p), hDb.symm⟩

/-- A created callback is stored with an id drawn for it. -/
theorem createCallback_ok {row : Id → PaymentCallback} (h : db.createCallback row = .ok db') :
    ∃ callbacks, KeyedTable.Added db.callbacks callbacks (row db.nextId) ∧
      db' = { db with callbacks, nextId := db.nextId + 1 } := by
  obtain ⟨callbacks, hInsert, hDb⟩ := map_ok h
  exact ⟨callbacks, KeyedTable.added_of_insert hInsert, hDb.symm⟩

/-- An updated callback is rewritten in its place. -/
theorem updateCallback_ok {data : PaymentCallback → PaymentCallback}
    (h : db.updateCallback id data = .ok db') (hData : ∀ c, (data c).id = c.id) :
    ∃ c callbacks, c.id = id ∧ KeyedTable.Replaced db.callbacks callbacks c (data c) ∧
      db' = { db with callbacks } := by
  obtain ⟨callbacks, hUpdate, hDb⟩ := map_ok h
  obtain ⟨c, hc, hKey⟩ := KeyedTable.exists_of_update hUpdate
  exact ⟨c, callbacks, hKey, KeyedTable.replaced_of_update hUpdate hc hKey (hData c), hDb.symm⟩

/-- A created refund is stored with an id drawn for it. -/
theorem createRefund_ok {row : Id → PaymentRefund} (h : db.createRefund row = .ok db') :
    ∃ refunds, KeyedTable.Added db.refunds refunds (row db.nextId) ∧
      db' = { db with refunds, nextId := db.nextId + 1 } := by
  obtain ⟨refunds, hInsert, hDb⟩ := map_ok h
  exact ⟨refunds, KeyedTable.added_of_insert hInsert, hDb.symm⟩

/-- A created demand is stored with an id drawn for it. -/
theorem createDemand_ok {row : Id → PropertyDemand} (h : db.createDemand row = .ok db') :
    ∃ demands, KeyedTable.Added db.demands demands (row db.nextId) ∧
      db' = { db with demands, nextId := db.nextId + 1 } := by
  obtain ⟨demands, hInsert, hDb⟩ := map_ok h
  exact ⟨demands, KeyedTable.added_of_insert hInsert, hDb.symm⟩

/-- An updated demand is rewritten in its place. -/
theorem updateDemand_ok {data : PropertyDemand → PropertyDemand}
    (h : db.updateDemand id data = .ok db') (hData : ∀ d, (data d).id = d.id) :
    ∃ d demands, d.id = id ∧ KeyedTable.Replaced db.demands demands d (data d) ∧
      db' = { db with demands } := by
  obtain ⟨demands, hUpdate, hDb⟩ := map_ok h
  obtain ⟨d, hd, hKey⟩ := KeyedTable.exists_of_update hUpdate
  exact ⟨d, demands, hKey, KeyedTable.replaced_of_update hUpdate hd hKey (hData d), hDb.symm⟩

/-- A created arrear is stored with an id drawn for it. -/
theorem createDemandArrear_ok {row : Id → DemandArrear}
    (h : db.createDemandArrear row = .ok db') :
    ∃ demandArrears, KeyedTable.Added db.demandArrears demandArrears (row db.nextId) ∧
      db' = { db with demandArrears, nextId := db.nextId + 1 } := by
  obtain ⟨demandArrears, hInsert, hDb⟩ := map_ok h
  exact ⟨demandArrears, KeyedTable.added_of_insert hInsert, hDb.symm⟩

/-- A created run is all that is written. -/
theorem createYearEndRun_ok {row : Id → YearEndRun} (h : db.createYearEndRun row = .ok db') :
    ∃ yearEndRuns, db' = { db with yearEndRuns, nextId := db.nextId + 1 } := by
  obtain ⟨yearEndRuns, _, hDb⟩ := map_ok h
  exact ⟨yearEndRuns, hDb.symm⟩

/-- An updated run is all that is written. -/
theorem updateYearEndRun_ok {data : YearEndRun → YearEndRun}
    (h : db.updateYearEndRun id data = .ok db') :
    ∃ yearEndRuns, db' = { db with yearEndRuns } := by
  obtain ⟨yearEndRuns, _, hDb⟩ := map_ok h
  exact ⟨yearEndRuns, hDb.symm⟩

end Writes

end Db
end PropertyTax
