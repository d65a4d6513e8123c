import PropertyTax.Payments.Rules
import PropertyTax.Store

/-! The credit of an online payment to its demand, and the relation every
delivery of a payment keeps between the database before and after. -/
namespace PropertyTax
open KeyedTable

/-- `findFirst` on the survey, the year and `status: "PUBLISHED"`. -/
def publishedDemandFor? (demands : KeyedTable PropertyDemand) (surveyId assessmentYearId : Id) :
    Option PropertyDemand :=
  demands.findFirst? fun d =>
    d.surveyId = surveyId ∧ d.assessmentYearId = assessmentYearId ∧ d.status = .published

/-- The linked demand, or the published one of the payment's survey and year. -/
def linkedDemandId (payment : Payment) (demands : KeyedTable PropertyDemand) : Option Id :=
  match payment.propertyDemandId with
  | some id => some id
  | none =>
      match payment.surveyId, payment.assessmentYearId with
      | some surveyId, some assessmentYearId =>
          (publishedDemandFor? demands surveyId assessmentYearId).map PropertyDemand.id
      | _, _ => none

/-- The demand that is locked for a payment, when it is published. -/
def creditTarget (payment : Payment) (demands : KeyedTable PropertyDemand) :
    Option PropertyDemand :=
  match linkedDemandId payment demands with
  | none => none
  | some demandId =>
      match demands.find? demandId with
      | none => none
      | some locked => if locked.status = .published then some locked else none

structure DemandExtras where
  propertyDemandId : Id
  receiptSnapshot : ReceiptSnapshot

/-- On first success: increment `amountPaid` of the published demand and build
the receipt snapshot. No effect when there is no such demand. -/
def applyOnlineSuccessToDemand (ctx : Context) (payment : Payment) (receiptNumber : String)
    (paidAt : Timestamp) (db : Db) : Except Refusal (Db × Option DemandExtras) :=
  match creditTarget payment db.demands with
  | none => .ok (db, none)
  | some locked =>
      let paymentAmount := toMoney payment.amount
      let balance := computeOutstandingAfterPayment (toMoney locked.totalPayable)
        (toMoney locked.amountPaid) paymentAmount
      let receiptSnapshot := buildReceiptSnapshot locked paymentAmount balance
        (ctx.reference.assessmentYear? locked.assessmentYearId) payment.surveyId
        ((ctx.reference.survey? locked.surveyId).map Survey.surveyId) payment.paymentMode
        receiptNumber paidAt
      (db.updateDemand locked.id fun d => d.withBalance balance).map fun after =>
        (after, some { propertyDemandId := locked.id, receiptSnapshot })

/-- `firstSuccess ? await applyOnlineSuccessToDemand(...) : {}` -/
def demandExtrasOn (firstSuccess : Bool) (ctx : Context) (payment : Payment)
    (receiptNumber : String) (paidAt : Timestamp) (db : Db) :
    Except Refusal (Db × Option DemandExtras) :=
  if firstSuccess then applyOnlineSuccessToDemand ctx payment receiptNumber paidAt db
  else .ok (db, none)

/-- `...demandExtras` in the data of a payment update. -/
def Payment.withExtras (p : Payment) : Option DemandExtras → Payment
  | none => p
  | some extras => { p with
      propertyDemandId := some extras.propertyDemandId
      receiptSnapshot := some extras.receiptSnapshot }

section Target
variable {payment : Payment} {demands : KeyedTable PropertyDemand} {d : PropertyDemand}

/-- The published demand found is one of the survey and year. -/
theorem publishedDemandFor?_spec {surveyId assessmentYearId : Id}
    (h : publishedDemandFor? demands surveyId assessmentYearId = some d) :
    d ∈ demands.rows ∧ d.surveyId = surveyId ∧ d.assessmentYearId = assessmentYearId ∧
      d.status = .published :=
  ⟨List.mem_of_find?_eq_some h, by simpa using List.find?_some h⟩

/-- Where none is found, no demand of the survey and year is published. -/
theorem not_published_of_publishedDemandFor?_none {surveyId assessmentYearId : Id}
    (h : publishedDemandFor? demands surveyId assessmentYearId = none) (hd : d ∈ demands.rows)
    (hSurvey : d.surveyId = surveyId) (hYear : d.assessmentYearId = assessmentYearId) :
    d.status ≠ .published := by
  intro hStatus
  have hMiss := List.find?_eq_none.mp h d hd
  simp [hSurvey, hYear, hStatus] at hMiss

theorem creditTarget_mem (h : creditTarget payment demands = some d) :
    d ∈ demands.rows ∧ d.status = .published := by
  unfold creditTarget at h
  split at h
  · cases h
  · split at h
    · cases h
    · rename_i hLocked
      split_ifs at h with hStatus
      cases h
      exact ⟨(find?_eq_some_iff.mp hLocked).1, hStatus⟩

/-- A linked payment is credited to the demand it is linked to. -/
theorem creditTarget_of_linked (hd : d ∈ demands.rows) (hStatus : d.status = .published)
    (hLink : payment.propertyDemandId = some d.id) : creditTarget payment demands = some d := by
  have hFound : demands.find? d.id = some d := find?_eq_some_iff.mpr ⟨hd, rfl⟩
  simp [creditTarget, linkedDemandId, hLink, hFound, hStatus]

/-- A payment that names its demand credits that demand. -/
theorem eq_of_creditTarget_linked {id : Id} (h : creditTarget payment demands = some d)
    (hLink : payment.propertyDemandId = some id) : d.id = id := by
  simp only [creditTarget, linkedDemandId, hLink] at h
  split at h
  · cases h
  · rename_i hLocked
    split_ifs at h
    cases h
    exact (find?_eq_some_iff.mp hLocked).2

/-- A payment that is not linked is credited to a demand of its own survey and
year, and to any that is published. -/
theorem creditTarget_unlinked (h : creditTarget payment demands = some d)
    (hLink : payment.propertyDemandId = none) :
    payment.surveyId = some d.surveyId ∧ payment.assessmentYearId = some d.assessmentYearId := by
  simp only [creditTarget, linkedDemandId, hLink] at h
  cases hSurvey : payment.surveyId with
  | none => simp [hSurvey] at h
  | some surveyId =>
      cases hYear : payment.assessmentYearId with
      | none => simp [hSurvey, hYear] at h
      | some assessmentYearId =>
          simp only [hSurvey, hYear] at h
          cases hFound : publishedDemandFor? demands surveyId assessmentYearId with
          | none => simp [hFound] at h
          | some e =>
              obtain ⟨hMem, hSurveyId, hYearId, hStatus⟩ := publishedDemandFor?_spec hFound
              have hSelf : demands.find? e.id = some e := find?_eq_some_iff.mpr ⟨hMem, rfl⟩
              simp only [hFound, Option.map_some, hSelf, hStatus, ↓reduceIte] at h
              cases h
              exact ⟨by rw [hSurveyId], by rw [hYearId]⟩

/-- Where nothing is credited, no demand of the survey and year is published. -/
theorem not_published_of_creditTarget_none (h : creditTarget payment demands = none)
    (hLink : payment.propertyDemandId = none) (hd : d ∈ demands.rows)
    (hSurvey : payment.surveyId = some d.surveyId)
    (hYear : payment.assessmentYearId = some d.assessmentYearId) : d.status ≠ .published := by
  intro hStatus
  simp only [creditTarget, linkedDemandId, hLink, hSurvey, hYear] at h
  cases hFound : publishedDemandFor? demands d.surveyId d.assessmentYearId with
  | none => exact not_published_of_publishedDemandFor?_none hFound hd rfl rfl hStatus
  | some e =>
      obtain ⟨hMem, _, _, hPublished⟩ := publishedDemandFor?_spec hFound
      have hSelf : demands.find? e.id = some e := find?_eq_some_iff.mpr ⟨hMem, rfl⟩
      simp [hFound, hSelf, hPublished] at h

end Target

/-- A success either finds no demand to credit and changes nothing, or credits
exactly the amount of the payment to its target. -/
theorem applyOnlineSuccessToDemand_ok {ctx : Context} {payment : Payment}
    {receiptNumber : String} {paidAt : Timestamp} {db db' : Db} {extras : Option DemandExtras}
    (h : applyOnlineSuccessToDemand ctx payment receiptNumber paidAt db = .ok (db', extras)) :
    (creditTarget payment db.demands = none ∧ db' = db ∧ extras = none) ∨
    ∃ d demands snapshot, creditTarget payment db.demands = some d ∧
      Replaced db.demands demands d (d.credit payment.amount) ∧ db' = { db with demands } ∧
      extras = some ⟨d.id, snapshot⟩ := by
  unfold applyOnlineSuccessToDemand at h
  cases hTarget : creditTarget payment db.demands with
  | none =>
      simp only [hTarget] at h
      cases h
      exact Or.inl ⟨rfl, rfl, rfl⟩
  | some locked =>
      simp only [hTarget] at h
      cases hUpdate : db.updateDemand locked.id fun d => d.withBalance
          (computeOutstandingAfterPayment (toMoney locked.totalPayable)
            (toMoney locked.amountPaid) (toMoney payment.amount)) with
      | error refusal => simp [hUpdate, Except.map] at h
      | ok after =>
          obtain ⟨d, demands, hId, hReplaced, hAfter⟩ :=
            Db.updateDemand_ok hUpdate fun _ => rfl
          -- The row under the lock is the row that is rewritten.
          have hSame : d = locked := eq_of_key hReplaced.mem_old (creditTarget_mem hTarget).1 hId
          subst hSame
          rw [withBalance_eq_credit_stored] at hReplaced
          simp only [hUpdate, Except.map] at h
          cases h
          exact Or.inr ⟨d, demands, _, rfl, hReplaced, hAfter, rfl⟩

/-- Only a first success with a demand to credit writes, and it credits that demand. -/
theorem demandExtrasOn_ok {firstSuccess : Bool} {ctx : Context} {payment : Payment}
    {receiptNumber : String} {paidAt : Timestamp} {db db' : Db} {extras : Option DemandExtras}
    (h : demandExtrasOn firstSuccess ctx payment receiptNumber paidAt db = .ok (db', extras)) :
    ((firstSuccess = false ∨ creditTarget payment db.demands = none) ∧ db' = db ∧
      extras = none) ∨
    ∃ d demands snapshot, firstSuccess = true ∧ creditTarget payment db.demands = some d ∧
      Replaced db.demands demands d (d.credit payment.amount) ∧ db' = { db with demands } ∧
      extras = some ⟨d.id, snapshot⟩ := by
  unfold demandExtrasOn at h
  cases firstSuccess with
  | false =>
      cases h
      exact Or.inl ⟨.inl rfl, rfl, rfl⟩
  | true =>
      rcases applyOnlineSuccessToDemand_ok h with ⟨hTarget, hDb, hExtras⟩ | hCredit
      · exact Or.inl ⟨.inr hTarget, hDb, hExtras⟩
      · obtain ⟨d, demands, snapshot, hTarget, hRest⟩ := hCredit
        exact Or.inr ⟨d, demands, snapshot, rfl, hTarget, hRest⟩

/-! ### Deliveries -/

/-- The columns of a payment that no delivery rewrites. -/
structure SamePurpose (p p' : Payment) : Prop where
  id : p'.id = p.id
  merchTxnId : p'.merchTxnId = p.merchTxnId
  surveyId : p'.surveyId = p.surveyId
  assessmentYearId : p'.assessmentYearId = p.assessmentYearId
  amount : p'.amount = p.amount
  refundableAmount : p'.refundableAmount = p.refundableAmount

/-- What a delivery that read `payment` commits: the stored row gets `status`,
and a crediting one also credits the target of the payment it read. -/
inductive Settled (payment : Payment) (status : PaymentStatus) (credits : Bool)
    (db db' : Db) : Prop where
  | credited (p p' : Payment) (d : PropertyDemand) (hCredits : credits = true)
      (hTarget : creditTarget payment db.demands = some d)
      (hPayment : Replaced db.payments db'.payments p p') (hId : p.id = payment.id)
      (hSame : SamePurpose p p') (hStatus : p'.status = status)
      (hLink : p'.propertyDemandId = some d.id) (hSnapshot : p'.receiptSnapshot ≠ none)
      (hDemand : Replaced db.demands db'.demands d (d.credit payment.amount))
      (hArrears : db'.demandArrears = db.demandArrears) (hRefunds : db'.refunds = db.refunds)
  | uncredited (p p' : Payment)
      (hNone : credits = false ∨ creditTarget payment db.demands = none)
      (hPayment : Replaced db.payments db'.payments p p') (hId : p.id = payment.id)
      (hSame : SamePurpose p p') (hStatus : p'.status = status)
      (hLink : p'.propertyDemandId = p.propertyDemandId)
      (hSnapshot : p'.receiptSnapshot = p.receiptSnapshot)
      (hDemands : db'.demands = db.demands)
      (hArrears : db'.demandArrears = db.demandArrears) (hRefunds : db'.refunds = db.refunds)

/-- The database as far as payments, refunds and demands are concerned. -/
structure SameLedger (db db' : Db) : Prop where
  payments : db'.payments = db.payments
  demands : db'.demands = db.demands
  demandArrears : db'.demandArrears = db.demandArrears
  refunds : db'.refunds = db.refunds

theorem SameLedger.refl (db : Db) : SameLedger db db := ⟨rfl, rfl, rfl, rfl⟩

theorem SameLedger.trans {a b c : Db} (h : SameLedger a b) (h' : SameLedger b c) :
    SameLedger a c :=
  ⟨h'.payments.trans h.payments, h'.demands.trans h.demands,
    h'.demandArrears.trans h.demandArrears, h'.refunds.trans h.refunds⟩

/-- The log is no part of the ledger. -/
theorem SameLedger.log (db : Db) (entry : AuditEntry) : SameLedger db (db.log entry) :=
  ⟨rfl, rfl, rfl, rfl⟩

/-- Transactions are no part of the ledger. -/
theorem SameLedger.addTransaction (db : Db) (row : PaymentTransaction) :
    SameLedger db (db.addTransaction row) := ⟨rfl, rfl, rfl, rfl⟩

/-- A settlement seen from databases that hold the same ledger. -/
theorem Settled.congr {payment : Payment} {status : PaymentStatus} {credits : Bool}
    {db₀ db db' db₁ : Db} (hBefore : SameLedger db₀ db) (h : Settled payment status credits db db')
    (hAfter : SameLedger db' db₁) : Settled payment status credits db₀ db₁ := by
  obtain ⟨hb₁, hb₂, hb₃, hb₄⟩ := hBefore
  obtain ⟨ha₁, ha₂, ha₃, ha₄⟩ := hAfter
  cases h with
  | credited p p' d hCredits hTarget hPayment hId hSame hStatus hLink hSnapshot hDemand hArrears
      hRefunds =>
      refine .credited p p' d hCredits (by rw [← hb₂]; exact hTarget)
        (by rw [← hb₁, ha₁]; exact hPayment) hId hSame hStatus hLink hSnapshot
        (by rw [← hb₂, ha₂]; exact hDemand) ?_ ?_
      · rw [ha₃, hArrears, hb₃]
      · rw [ha₄, hRefunds, hb₄]
  | uncredited p p' hNone hPayment hId hSame hStatus hLink hSnapshot hDemands hArrears hRefunds =>
      refine .uncredited p p' (by rw [← hb₂]; exact hNone) (by rw [← hb₁, ha₁]; exact hPayment)
        hId hSame hStatus hLink hSnapshot ?_ ?_ ?_
      · rw [ha₂, hDemands, hb₂]
      · rw [ha₃, hArrears, hb₃]
      · rw [ha₄, hRefunds, hb₄]

end PropertyTax
