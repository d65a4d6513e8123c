import PropertyTax.Library.JsText
import PropertyTax.Schema

/-! The payment rules that hold no state: the guards of callbacks and refunds,
the rules of the counter, and the balance a payment leaves. -/
namespace PropertyTax

/-! ### Guards of callbacks and refunds -/

def shouldReprocessProcessedCallback (existingProcessed newStatusIsSuccess : Bool)
    (paymentStatus : PaymentStatus) : Bool :=
  if !existingProcessed then true
  else if !newStatusIsSuccess then false
  else paymentStatus ≠ .success ∧ paymentStatus ≠ .refunded ∧ paymentStatus ≠ .partiallyRefunded

def canApplyRefundToPayment (gatewaySuccess : Bool) : Bool := gatewaySuccess

mutual

def redactSensitivePaymentPayload : Json → Json
  | .arr items => .arr (redactItems items)
  | .obj fields => .obj (redactRecord fields)
  | other => other

def redactItems : List Json → List Json
  | [] => []
  | item :: rest => redactSensitivePaymentPayload item :: redactItems rest

def redactRecord : List (String × Json) → List (String × Json)
  | [] => []
  | (key, child) :: rest =>
      if key = "cardDetails" then redactRecord rest
      -- Assigning to `__proto__` makes no field: it sets the prototype.
      else if key = "__proto__" then redactRecord rest
      else (key, redactSensitivePaymentPayload child) :: redactRecord rest

end

/-- The keys that the copy of an object loses. -/
def redactedKey (name : String) : Prop := name = "cardDetails" ∨ name = "__proto__"

section Redaction
variable {name : String}

mutual

/-- What is redacted has neither of the keys left, at any depth. -/
theorem redact_hasKey (h : redactedKey name) :
    (payload : Json) → (redactSensitivePaymentPayload payload).hasKey name = false
  | .null => rfl
  | .bool _ => rfl
  | .num _ => rfl
  | .str _ => rfl
  | .arr items => redactItems_hasKey h items
  | .obj fields => redactRecord_hasKey h fields

/-- No item keeps a redacted key. -/
theorem redactItems_hasKey (h : redactedKey name) :
    (items : List Json) → Json.itemsHaveKey name (redactItems items) = false
  | [] => rfl
  | item :: rest => by
      simp [redactItems, Json.itemsHaveKey, redact_hasKey h item, redactItems_hasKey h rest]

/-- No field keeps a redacted key. -/
theorem redactRecord_hasKey (h : redactedKey name) :
    (fields : List (String × Json)) → Json.fieldsHaveKey name (redactRecord fields) = false
  | [] => rfl
  | (key, child) :: rest => by
      have hRest := redactRecord_hasKey h rest
      unfold redactRecord
      split_ifs with hCard hProto
      · exact hRest
      · exact hRest
      · have hKey : key ≠ name := by
          rintro rfl
          exact h.elim hCard hProto
        simp [Json.fieldsHaveKey, hKey, redact_hasKey h child, hRest]

end

mutual

/-- A value without the keys is its own redaction. -/
theorem redact_eq_self : (payload : Json) → payload.hasKey "cardDetails" = false →
    payload.hasKey "__proto__" = false → redactSensitivePaymentPayload payload = payload
  | .null, _, _ => rfl
  | .bool _, _, _ => rfl
  | .num _, _, _ => rfl
  | .str _, _, _ => rfl
  | .arr items, hCard, hProto => congrArg Json.arr (redactItems_eq_self items hCard hProto)
  | .obj fields, hCard, hProto => congrArg Json.obj (redactRecord_eq_self fields hCard hProto)

theorem redactItems_eq_self : (items : List Json) →
    Json.itemsHaveKey "cardDetails" items = false → Json.itemsHaveKey "__proto__" items = false →
    redactItems items = items
  | [], _, _ => rfl
  | item :: rest, hCard, hProto => by
      simp only [Json.itemsHaveKey, Bool.or_eq_false_iff] at hCard hProto
      rw [redactItems, redact_eq_self item hCard.1 hProto.1,
        redactItems_eq_self rest hCard.2 hProto.2]

theorem redactRecord_eq_self : (fields : List (String × Json)) →
    Json.fieldsHaveKey "cardDetails" fields = false →
    Json.fieldsHaveKey "__proto__" fields = false → redactRecord fields = fields
  | [], _, _ => rfl
  | (key, child) :: rest, hCard, hProto => by
      simp only [Json.fieldsHaveKey, Bool.or_eq_false_iff, decide_eq_false_iff_not] at hCard hProto
      rw [redactRecord, if_neg hCard.1.1, if_neg hProto.1.1, redact_eq_self child hCard.1.2 hProto.1.2,
        redactRecord_eq_self rest hCard.2 hProto.2]

end

/-- Redacting twice is redacting once. -/
theorem redact_redact (payload : Json) :
    redactSensitivePaymentPayload (redactSensitivePaymentPayload payload) =
      redactSensitivePaymentPayload payload :=
  redact_eq_self _ (redact_hasKey (.inl rfl) payload) (redact_hasKey (.inr rfl) payload)

end Redaction

/-! ### Status codes and amounts of the gateway -/

def amountTolerance : ℚ := 1 / 100

def amountsMatchWithinTolerance (expected actual : ℚ) : Bool :=
  decide (|expected - actual| ≤ amountTolerance)

def isGatewaySuccess (statusCode : String) : Bool :=
  statusCode == "OTS0000" || statusCode == "SUCCESS" || Js.toUpperCase statusCode == "SUCCESS"

/-! ### Offline collection -/

def modesRequiringReference : List PaymentMode := [.cheque, .dd, .upiManual]

def assertOfflinePaymentMode (mode : PaymentMode) : Except ApiError Unit :=
  if mode = .online then
    .error (.badRequest none "Use online endpoint for gateway payments")
  else .ok ()

def assertOfflineReference (mode : PaymentMode) (chequeDdReference : Option String) :
    Except ApiError Unit :=
  if mode ∈ modesRequiringReference ∧ (chequeDdReference.map Js.isBlank).getD true then
    .error (.badRequest (some "REFERENCE_REQUIRED")
      "Cheque / DD / UPI reference is required for this payment mode")
  else .ok ()

def amountEps : ℚ := 5 / 1000

def assertOfflineAmountAgainstOutstanding (amount outstanding : ℚ) : Except ApiError Unit :=
  if ¬ 0 < amount then
    .error (.badRequest (some "INVALID_AMOUNT") "Payment amount must be greater than zero")
  else if outstanding ≤ 0 then
    .error (.badRequest (some "NO_OUTSTANDING")
      "This property has no outstanding dues for the published demand")
  else if amount > outstanding + amountEps then
    .error (.badRequest (some "AMOUNT_EXCEEDS_OUTSTANDING")
      ("Payment amount (₹" ++ Js.toFixed2 amount ++ ") cannot exceed outstanding dues (₹" ++
        Js.toFixed2 outstanding ++ ")"))
  else .ok ()

/-- An amount admitted at the counter is positive. -/
theorem pos_of_offlineAmount {amount outstanding : ℚ}
    (h : assertOfflineAmountAgainstOutstanding amount outstanding = .ok ()) : 0 < amount := by
  unfold assertOfflineAmountAgainstOutstanding at h
  split_ifs at h with hPositive
  exact hPositive

def demandUnpublished : ApiError := .badRequest (some "DEMAND_UNPUBLISHED")
  ("No published property demand for this survey and assessment year. " ++
    "Publish the demand before recording offline payment.")

def assertPublishedDemandPresent : Option PropertyDemand → Except ApiError PropertyDemand
  | some demand => if demand.status = .published then .ok demand else .error demandUnpublished
  | none => .error demandUnpublished

/-! ### The balance after a payment -/

structure Balance where
  amountPaid : ℚ
  outstanding : ℚ

def computeOutstandingAfterPayment (totalPayable amountPaidBefore paymentAmount : ℚ) : Balance :=
  let amountPaid := roundMoney (amountPaidBefore + paymentAmount)
  { amountPaid, outstanding := roundMoney (max 0 (totalPayable - amountPaid)) }

/-- The two columns a payment writes. -/
def PropertyDemand.withBalance (demand : PropertyDemand) (balance : Balance) : PropertyDemand :=
  { demand with
    amountPaid := toColumn balance.amountPaid
    outstanding := toColumn balance.outstanding }

/-- Credit an amount in paise to a demand, exactly. -/
def PropertyDemand.credit (demand : PropertyDemand) (amount : Money) : PropertyDemand :=
  { demand with
    amountPaid := demand.amountPaid + amount
    outstanding := max 0 (demand.totalPayable - (demand.amountPaid + amount)) }

/-- The numbers computed for a payment store the exact credit of what the
payment row itself stores, so rounding loses nothing. -/
theorem withBalance_eq_credit (demand : PropertyDemand) {amount : ℚ} (h : 0 ≤ amount) :
    demand.withBalance (computeOutstandingAfterPayment (toMoney demand.totalPayable)
      (toMoney demand.amountPaid) amount) = demand.credit (toColumn amount) := by
  have hPaid : roundMoney (toMoney demand.amountPaid + amount) =
      toMoney (demand.amountPaid + toColumn amount) := roundMoney_toMoney_add _ h
  have hLeft : max 0 (toMoney demand.totalPayable -
      toMoney (demand.amountPaid + toColumn amount)) =
        toMoney (max 0 (demand.totalPayable - (demand.amountPaid + toColumn amount))) := by
    rw [← toMoney_sub, toMoney_max_zero]
  simp only [PropertyDemand.withBalance, computeOutstandingAfterPayment, PropertyDemand.credit,
    hPaid, hLeft, roundMoney_toMoney, toColumn_toMoney]

/-- Numbers of stored columns need no rounding. -/
theorem computeOutstandingAfterPayment_toMoney (totalPayable amountPaid amount : Money) :
    computeOutstandingAfterPayment (toMoney totalPayable) (toMoney amountPaid) (toMoney amount) =
      { amountPaid := toMoney amountPaid + toMoney amount
        outstanding := max 0 (toMoney totalPayable - (toMoney amountPaid + toMoney amount)) } := by
  have hPaid : roundMoney (toMoney amountPaid + toMoney amount) =
      toMoney amountPaid + toMoney amount := by
    rw [← toMoney_add, roundMoney_toMoney]
  have hLeft : roundMoney (max 0 (toMoney totalPayable - (toMoney amountPaid + toMoney amount))) =
      max 0 (toMoney totalPayable - (toMoney amountPaid + toMoney amount)) := by
    rw [← toMoney_add, ← toMoney_sub, toMoney_max_zero, roundMoney_toMoney]
  simp only [computeOutstandingAfterPayment, hPaid, hLeft]

/-- The amount of a stored payment needs no rounding. -/
theorem withBalance_eq_credit_stored (demand : PropertyDemand) (amount : Money) :
    demand.withBalance (computeOutstandingAfterPayment (toMoney demand.totalPayable)
      (toMoney demand.amountPaid) (toMoney amount)) = demand.credit amount := by
  rw [computeOutstandingAfterPayment_toMoney, ← toMoney_add, ← toMoney_sub, toMoney_max_zero]
  simp only [PropertyDemand.withBalance, PropertyDemand.credit, toColumn_toMoney]

@[simp] theorem PropertyDemand.credit_id (d : PropertyDemand) (m : Money) :
    (d.credit m).id = d.id := rfl

@[simp] theorem PropertyDemand.credit_surveyId (d : PropertyDemand) (m : Money) :
    (d.credit m).surveyId = d.surveyId := rfl

@[simp] theorem PropertyDemand.credit_assessmentYearId (d : PropertyDemand) (m : Money) :
    (d.credit m).assessmentYearId = d.assessmentYearId := rfl

@[simp] theorem PropertyDemand.credit_status (d : PropertyDemand) (m : Money) :
    (d.credit m).status = d.status := rfl

@[simp] theorem PropertyDemand.credit_amountPaid (d : PropertyDemand) (m : Money) :
    (d.credit m).amountPaid = d.amountPaid + m := rfl

/-- The receipt of a payment on a demand, with the balance it leaves. -/
def buildReceiptSnapshot (demand : PropertyDemand) (amountReceived : ℚ) (balance : Balance)
    (assessmentYear : Option AssessmentYearRef) (surveyId : Option Id)
    (municipalSurveyId : Option String) (paymentMode : PaymentMode) (receiptNumber : String)
    (paidAt : Timestamp) : ReceiptSnapshot where
  propertyTax := toMoney demand.propertyTax
  waterTax := toMoney demand.waterTax
  drainageTax := toMoney demand.drainageTax
  penalty := toMoney demand.penalty
  rebate := toMoney demand.rebate
  arrears := toMoney demand.arrears
  currentDemand := toMoney demand.currentDemand
  totalPayable := toMoney demand.totalPayable
  amountReceived := amountReceived
  outstandingAfter := balance.outstanding
  amountPaidAfter := balance.amountPaid
  assessmentYear := assessmentYear
  surveyId := surveyId
  municipalSurveyId := municipalSurveyId
  paymentMode := paymentMode
  receiptNumber := receiptNumber
  paidAt := paidAt

end PropertyTax
