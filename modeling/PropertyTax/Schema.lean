import Mathlib.Data.List.Sort
import PropertyTax.Library.KeyedTable
import PropertyTax.Library.JsJson
import PropertyTax.Money

/-! The database rows the payment and demand services read and write, and the
reference data they only read. Unique columns are part of each table, so a
write that violates one is refused. -/
namespace PropertyTax

/-- A `cuid()` primary key, drawn from a counter of the database. -/
abbrev Id := Nat

/-- Milliseconds since the epoch. -/
abbrev Timestamp := Nat

inductive PaymentMode where
  | online | cash | cheque | dd | upiManual | other
deriving DecidableEq, Repr

inductive PaymentStatus where
  | initiated | pending | success | failed | cancelled | refunded | partiallyRefunded
deriving DecidableEq, Repr

inductive PropertyDemandStatus where
  | draft | published | closed
deriving DecidableEq, Repr

inductive RefundStatus where
  | initiated | pending | success | failed
deriving DecidableEq, Repr

inductive YearEndRunStatus where
  | previewed | committed
deriving DecidableEq, Repr

inductive TaxAdjustmentKind where
  | rebate | penalty
deriving DecidableEq, Repr

inductive TaxAdjustmentHead where
  | property | water
deriving DecidableEq, Repr

inductive TaxAdjustmentMethod where
  | percentOfHead | flatAmount
deriving DecidableEq, Repr

/-- Status of a `TaxConfig` and of a `TaxAdjustmentRule`. -/
inductive PublicationStatus where
  | draft | published | archived
deriving DecidableEq, Repr

structure AssessmentYearRef where
  id : Id
  code : String
  name : String
deriving DecidableEq

/-- The tax heads and the balance frozen on a payment when it is applied. -/
structure ReceiptSnapshot where
  propertyTax : ℚ
  waterTax : ℚ
  drainageTax : ℚ
  penalty : ℚ
  rebate : ℚ
  arrears : ℚ
  currentDemand : ℚ
  totalPayable : ℚ
  amountReceived : ℚ
  outstandingAfter : ℚ
  amountPaidAfter : ℚ
  assessmentYear : Option AssessmentYearRef
  surveyId : Option Id
  municipalSurveyId : Option String
  paymentMode : PaymentMode
  receiptNumber : String
  paidAt : Timestamp
deriving DecidableEq

structure Payment where
  id : Id
  paymentReference : String
  merchTxnId : Option String := none
  atomTxnId : Option String := none
  surveyId : Option Id := none
  wardId : Option Id := none
  assessmentYearId : Option Id := none
  propertyDemandId : Option Id := none
  payerName : Option String := none
  payerMobile : Option String := none
  payerEmail : Option String := none
  amount : Money
  paymentMode : PaymentMode
  status : PaymentStatus := .initiated
  gateway : Option String := none
  gatewayReference : Option String := none
  receiptNumber : Option String := none
  receiptSnapshot : Option ReceiptSnapshot := none
  collectionDate : Option Timestamp := none
  chequeDdReference : Option String := none
  remarks : Option String := none
  collectedById : Option Id := none
  refundableAmount : Option Money := none
  clientIdempotencyKey : Option String := none
  createdAt : Timestamp
deriving DecidableEq

structure PaymentCallback where
  id : Id
  paymentId : Option Id
  merchTxnId : Option String
  atomTxnId : Option String
  statusCode : Option String
  rawPayload : Json
  processed : Bool := false
  idempotencyKey : Option String

structure PaymentTransaction where
  paymentId : Id
  direction : String
  requestPayload : Option Json := none
  responsePayload : Option Json := none
  statusCode : Option String := none

structure PaymentRefund where
  id : Id
  paymentId : Id
  refundReference : String
  amount : Money
  status : RefundStatus := .initiated
  gatewayRefundId : Option String
  reason : Option String
  rawResponse : Option Json
  createdById : Option Id

structure TaxAdjustmentRuleInput where
  kind : TaxAdjustmentKind
  head : TaxAdjustmentHead
  method : TaxAdjustmentMethod
  value : ℚ
  cap : Option ℚ
deriving DecidableEq

/-- `dues.tax`, the heads that publishing reads. -/
structure DuesTax where
  propertyTax : ℚ
  waterTax : ℚ
  drainageTax : ℚ
  penalty : ℚ
  totalDemand : ℚ
deriving DecidableEq

structure PropertyAssessmentResult where
  propertyTax : ℚ
  waterTax : ℚ
  drainageTax : ℚ
  penalty : ℚ
  rebate : ℚ
  currentDemand : ℚ
  arrears : ℚ
  totalPayable : ℚ
  amountPaid : ℚ
  outstanding : ℚ
deriving DecidableEq

/-- What a published demand was computed from. -/
structure DemandSnapshot where
  taxConfigId : Id
  taxConfigVersion : Nat
  dues : DuesTax
  rules : List TaxAdjustmentRuleInput
  assessment : PropertyAssessmentResult
  priorYearIssue : Bool
deriving DecidableEq

structure PropertyDemand where
  id : Id
  surveyId : Id
  assessmentYearId : Id
  status : PropertyDemandStatus := .draft
  propertyTax : Money := 0
  waterTax : Money := 0
  drainageTax : Money := 0
  penalty : Money := 0
  rebate : Money := 0
  arrears : Money := 0
  currentDemand : Money := 0
  totalPayable : Money := 0
  amountPaid : Money := 0
  outstanding : Money := 0
  verified : Bool := true
  snapshot : Option DemandSnapshot := none
  publishedAt : Option Timestamp := none
  publishedById : Option Id := none
deriving DecidableEq

structure DemandArrear where
  id : Id
  demandId : Id
  sourceAssessmentYearId : Id
  amount : Money
deriving DecidableEq

structure YearEndSummary where
  count : Nat
  totalArrears : ℚ
  carried : Nat
  skipped : Nat
deriving DecidableEq

structure YearEndRun where
  id : Id
  fromAssessmentYearId : Id
  toAssessmentYearId : Id
  status : YearEndRunStatus
  summary : Option YearEndSummary
  createdById : Option Id
  committedAt : Option Timestamp
deriving DecidableEq

structure AuditEntry where
  action : String
  entity : String
  entityId : Option String := none
  oldValue : Option Json := none
  newValue : Option Json := none
  metadata : Option Json := none
  actorId : Option Id := none

/-- Equality of two nullable unique columns: `NULL` is equal to nothing. -/
def sameValue {α : Type} [DecidableEq α] : Option α → Option α → Bool
  | some a, some b => decide (a = b)
  | _, _ => false

theorem sameValue_comm {α : Type} [DecidableEq α] (a b : Option α) :
    sameValue a b = sameValue b a := by
  cases a <;> cases b <;> simp [sameValue, eq_comm]

/-- Two columns have the same value when both are set to it. -/
theorem sameValue_iff {α : Type} [DecidableEq α] {a b : Option α} :
    sameValue a b = true ↔ ∃ x, a = some x ∧ b = some x := by
  cases a <;> cases b <;> simp [sameValue, eq_comm]

instance : KeyedRow Payment Id where
  key := Payment.id
  clash p q := decide (p.id = q.id) || decide (p.paymentReference = q.paymentReference) ||
    sameValue p.merchTxnId q.merchTxnId || sameValue p.atomTxnId q.atomTxnId ||
    sameValue p.receiptNumber q.receiptNumber ||
    sameValue p.clientIdempotencyKey q.clientIdempotencyKey
  clash_symm p q := by
    rw [sameValue_comm p.merchTxnId, sameValue_comm p.atomTxnId, sameValue_comm p.receiptNumber,
      sameValue_comm p.clientIdempotencyKey]
    simp only [eq_comm]
  clash_of_key p q h := by simp [h]

instance : KeyedRow PaymentCallback Id where
  key := PaymentCallback.id
  clash p q := decide (p.id = q.id) || sameValue p.idempotencyKey q.idempotencyKey
  clash_symm p q := by
    rw [sameValue_comm p.idempotencyKey]
    simp only [eq_comm]
  clash_of_key p q h := by simp [h]

instance : KeyedRow PaymentRefund Id where
  key := PaymentRefund.id
  clash p q := decide (p.id = q.id) || decide (p.refundReference = q.refundReference)
  clash_symm p q := by simp only [eq_comm]
  clash_of_key p q h := by simp [h]

instance : KeyedRow PropertyDemand Id where
  key := PropertyDemand.id
  clash p q := decide (p.id = q.id) ||
    decide (p.surveyId = q.surveyId ∧ p.assessmentYearId = q.assessmentYearId)
  clash_symm p q := by simp only [eq_comm]
  clash_of_key p q h := by simp [h]

instance : KeyedRow DemandArrear Id where
  key := DemandArrear.id
  clash p q := decide (p.id = q.id) ||
    decide (p.demandId = q.demandId ∧ p.sourceAssessmentYearId = q.sourceAssessmentYearId)
  clash_symm p q := by simp only [eq_comm]
  clash_of_key p q h := by simp [h]

instance : KeyedRow YearEndRun Id where
  key := YearEndRun.id
  clash p q := decide (p.id = q.id) || decide (p.fromAssessmentYearId = q.fromAssessmentYearId ∧
    p.toAssessmentYearId = q.toAssessmentYearId)
  clash_symm p q := by simp only [eq_comm]
  clash_of_key p q h := by simp [h]

/-- Everything the services store. -/
structure Db where
  payments : KeyedTable Payment
  callbacks : KeyedTable PaymentCallback
  transactions : List PaymentTransaction
  refunds : KeyedTable PaymentRefund
  demands : KeyedTable PropertyDemand
  demandArrears : KeyedTable DemandArrear
  yearEndRuns : KeyedTable YearEndRun
  auditLog : List AuditEntry
  nextId : Id

namespace Db

def empty : Db where
  payments := .empty
  callbacks := .empty
  transactions := []
  refunds := .empty
  demands := .empty
  demandArrears := .empty
  yearEndRuns := .empty
  auditLog := []
  nextId := 0

/-- `audit.log` -/
def log (db : Db) (entry : AuditEntry) : Db := { db with auditLog := db.auditLog ++ [entry] }

/-- `prisma.paymentTransaction.create` -/
def addTransaction (db : Db) (row : PaymentTransaction) : Db :=
  { db with transactions := db.transactions ++ [row] }

section Log
variable (db : Db) (entry : AuditEntry) (row : PaymentTransaction)

@[simp] theorem log_payments : (db.log entry).payments = db.payments := rfl
@[simp] theorem log_callbacks : (db.log entry).callbacks = db.callbacks := rfl
@[simp] theorem log_refunds : (db.log entry).refunds = db.refunds := rfl
@[simp] theorem log_demands : (db.log entry).demands = db.demands := rfl
@[simp] theorem log_demandArrears : (db.log entry).demandArrears = db.demandArrears := rfl
@[simp] theorem log_nextId : (db.log entry).nextId = db.nextId := rfl
@[simp] theorem addTransaction_payments : (db.addTransaction row).payments = db.payments := rfl
@[simp] theorem addTransaction_callbacks : (db.addTransaction row).callbacks = db.callbacks := rfl
@[simp] theorem addTransaction_refunds : (db.addTransaction row).refunds = db.refunds := rfl
@[simp] theorem addTransaction_demands : (db.addTransaction row).demands = db.demands := rfl
@[simp] theorem addTransaction_demandArrears :
    (db.addTransaction row).demandArrears = db.demandArrears := rfl
@[simp] theorem addTransaction_nextId : (db.addTransaction row).nextId = db.nextId := rfl

end Log

/-- `findUnique` on the unique pair of columns. -/
def demandFor? (db : Db) (surveyId assessmentYearId : Id) : Option PropertyDemand :=
  db.demands.findFirst? fun d => d.surveyId = surveyId ∧ d.assessmentYearId = assessmentYearId

end Db

/-! ### Reference data -/

structure Floor where
  floorLabel : String
  usageType : Option String
  usageFactor : Option String
  buildingType : Option String
  areaSqFt : Option ℚ

structure Survey where
  id : Id
  surveyId : String
  ownerName : Option String := none
  mobile : Option String := none
  wardId : Id
  createdById : Option Id := none
  active : Bool := true
  deletedAt : Option Timestamp := none
  propertyUse : Option String := none
  taxRateZone : Option String := none
  hasMunicipalWaterSupply : Option Bool := none
  plotAreaSqFt : Option ℚ := none
  plinthAreaSqFt : Option ℚ := none
  totalBuiltUpAreaSqFt : Option ℚ := none
  floors : List Floor := []

structure TaxRateCell where
  roadWidthCode : String
  constructionCode : String
  annualRatePerSqFt : ℚ

structure TaxConfig where
  id : Id
  wardId : Id
  assessmentYear : AssessmentYearRef
  status : PublicationStatus
  version : Nat
  assessablePct : ℚ
  commercialAssessablePct : ℚ
  propertyTaxPct : ℚ
  waterTaxPct : ℚ
  drainageTaxPct : ℚ
  penaltyPct : ℚ
  cells : List TaxRateCell
  updatedAt : Timestamp

structure TaxAdjustmentRule where
  kind : TaxAdjustmentKind
  head : TaxAdjustmentHead
  assessmentYearId : Option Id
  method : TaxAdjustmentMethod
  value : ℚ
  cap : Option ℚ
  effectiveFrom : Option Timestamp
  effectiveTo : Option Timestamp
  status : PublicationStatus

structure ReferenceEntry where
  ref : AssessmentYearRef
  categoryCode : String

/-- The stored data the ledger services only read. -/
structure Reference where
  surveys : List Survey
  taxConfigs : List TaxConfig
  taxAdjustmentRules : List TaxAdjustmentRule
  referenceEntries : List ReferenceEntry
  wardIds : List Id

namespace Reference

def survey? (ref : Reference) (id : Id) : Option Survey := ref.surveys.find? fun s => s.id = id

/-- `findFirst` with `status: "ACTIVE", deletedAt: null`. -/
def activeSurvey? (ref : Reference) (id : Id) : Option Survey :=
  ref.surveys.find? fun s => s.id = id ∧ s.active ∧ s.deletedAt.isNone

def assessmentYear? (ref : Reference) (id : Id) : Option AssessmentYearRef :=
  (ref.referenceEntries.find? fun e => e.ref.id = id).map ReferenceEntry.ref

theorem activeSurvey?_id {ref : Reference} {id : Id} {s : Survey}
    (h : ref.activeSurvey? id = some s) : s.id = id := by
  have hFound := List.find?_some h
  simp only [decide_eq_true_eq] at hFound
  exact hFound.1

end Reference

/-- The tax calculation over a survey and its published rates, and the
collation order of the runtime. The ledger code calls both and relies on
neither beyond their types. -/
structure Billing where
  computePublicDuesPayload : Survey → TaxConfig → DuesTax
  localeCompare : String → String → Ordering

/-- Why a service call throws. -/
inductive ApiError where
  | badRequest (code : Option String) (message : String)
  | notFound (code : Option String) (message : String)
  | conflict (code : Option String) (message : String)
  | forbidden (message : String)
  | typeError (message : String)
  | gateway
  | database (refusal : Refusal)
  /-- A value is too large for its `Decimal` column. -/
  | numericOverflow
deriving DecidableEq

end PropertyTax
