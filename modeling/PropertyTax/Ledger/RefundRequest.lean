import PropertyTax.Concurrency.Refunds

/-! The refund request of the Atom provider. The service records a refund to the
paisa; the request names its whole rupees only. -/
namespace PropertyTax
open KeyedTable FixedPoint

/-- The merchant settings and the keyed hash of the provider. -/
structure AtomMerchant where
  merchId : String
  password : String
  product : String
  reqHashKey : String
  hmacSha512Hex : String → String → String

def wholeRupees (amount : ℚ) : ℚ := ⌊amount⌋

/-- What is signed, for an amount written as a number. -/
def refundSignatureString (merchant : AtomMerchant) (merchTxnId : String) (amount : ℚ) : String :=
  String.join [merchant.merchId, merchant.password, merchTxnId, Js.numberToString amount, "INR",
    "REFUNDINIT"]

def atomRefundSignature (merchant : AtomMerchant) (merchTxnId : String) (totalRefundAmount : ℚ) :
    Except ParseFailure String :=
  let key := Js.trim merchant.reqHashKey
  if key = "" then
    .error (.callbackParse "MISSING_REQ_HASH_KEY"
      "ATOM_REQ_HASH_KEY is required to sign Atom refund requests")
  else .ok (merchant.hmacSha512Hex key
    (refundSignatureString merchant merchTxnId (wholeRupees totalRefundAmount)))

/-- The `payInstrument` of a refund request, with its one product. -/
structure AtomRefundPayload where
  api : String
  source : String
  merchId : String
  password : String
  merchTxnId : String
  atomTxnId : String
  signature : String
  prodName : String
  prodRefundId : String
  prodRefundAmount : ℚ
  txnCurrency : String
  totalRefundAmount : ℚ

def buildAtomRefundPayload (merchant : AtomMerchant) (merchTxnId atomTxnId : String) (amount : ℚ)
    (prodRefundId : String) : Except ParseFailure AtomRefundPayload := do
  let totalRefundAmount := wholeRupees amount
  let signature ← atomRefundSignature merchant merchTxnId totalRefundAmount
  return {
    api := "REFUNDINIT"
    source := "OTS"
    merchId := merchant.merchId
    password := merchant.password
    merchTxnId
    atomTxnId
    signature
    prodName := merchant.product
    prodRefundId
    prodRefundAmount := totalRefundAmount
    txnCurrency := "INR"
    totalRefundAmount }

/-- The request that `refund` has the provider send for a payment. -/
def refundRequest (merchant : AtomMerchant) (payment : Payment) (amount : ℚ) :
    Except ParseFailure AtomRefundPayload :=
  let merchTxnId := payment.merchTxnId.getD payment.paymentReference
  buildAtomRefundPayload merchant merchTxnId (payment.atomTxnId.getD "") amount
    (String.ofList (("RF-" ++ merchTxnId).toList.take 30))

/-- The amount exceeds a whole number of rupees by less than half a paisa; a
negative tie rounds down too. -/
def NoPaise (amount : ℚ) : Prop :=
  Int.fract amount < 1 / 200 ∨ amount < 0 ∧ Int.fract amount = 1 / 200

theorem NoPaise.le {amount : ℚ} (h : NoPaise amount) : Int.fract amount ≤ 1 / 200 := by
  obtain hLess | ⟨-, hTie⟩ := h
  · exact hLess.le
  · exact hTie.le

theorem toMoney_hundred (z : ℤ) : toMoney (100 * z) = z := by
  rw [toMoney, toNumber]
  push_cast
  ring

/-- A hundredfold amount is a hundred times its rupees and its fraction. -/
theorem hundred_mul (amount : ℚ) :
    amount * (100 : ℕ) = ((100 * ⌊amount⌋ : ℤ) : ℚ) + 100 * Int.fract amount := by
  have hParts := Int.floor_add_fract amount
  push_cast
  linarith

/-- Half a paisa at most is lost in rounding up to the paisa. -/
theorem roundHalfUp_neg_fract {amount : ℚ} (h : Int.fract amount ≤ 1 / 200) :
    roundHalfUp (-(100 * Int.fract amount)) = 0 := by
  have hNonneg := Int.fract_nonneg amount
  rw [roundHalfUp, Int.floor_eq_zero_iff]
  constructor <;> linarith

/-- An amount is stored as its whole rupees exactly when it has no paise. -/
theorem toColumn_eq_floor_iff (amount : ℚ) :
    toColumn amount = 100 * ⌊amount⌋ ↔ NoPaise amount := by
  have hNonneg := Int.fract_nonneg amount
  rw [toColumn, store, hundred_mul]
  by_cases hSign : 0 ≤ amount
  · have hProduct : (0 : ℚ) ≤ ((100 * ⌊amount⌋ : ℤ) : ℚ) + 100 * Int.fract amount := by
      rw [← hundred_mul]
      positivity
    rw [roundHalfAway_of_nonneg hProduct, roundHalfUp_intCast_add, add_eq_left, roundHalfUp,
      Int.floor_eq_zero_iff]
    constructor
    · intro h
      exact .inl (by linarith [h.2])
    · intro h
      obtain hLess | ⟨hNegative, -⟩ := h
      · exact ⟨by linarith, by linarith⟩
      · exact absurd hSign (not_le.mpr hNegative)
  · have hProduct : ¬ (0 : ℚ) ≤ ((100 * ⌊amount⌋ : ℤ) : ℚ) + 100 * Int.fract amount := by
      rw [← hundred_mul]
      intro h
      push_cast at h
      exact hSign (by linarith)
    have hNegated : -(((100 * ⌊amount⌋ : ℤ) : ℚ) + 100 * Int.fract amount) =
        ((-(100 * ⌊amount⌋) : ℤ) : ℚ) + -(100 * Int.fract amount) := by
      push_cast
      ring
    rw [roundHalfAway, if_neg hProduct, hNegated, roundHalfUp_intCast_add]
    constructor
    · intro h
      have hZero : roundHalfUp (-(100 * Int.fract amount)) = 0 := by linarith
      rw [roundHalfUp, Int.floor_eq_zero_iff] at hZero
      have hAtMost : Int.fract amount ≤ 1 / 200 := by linarith [hZero.1]
      obtain hLess | hTie := hAtMost.lt_or_eq
      · exact .inl hLess
      · exact .inr ⟨not_le.mp hSign, hTie⟩
    · intro h
      rw [roundHalfUp_neg_fract h.le, add_zero, neg_neg]

/-- What an amount without paise leaves of a balance. -/
theorem toColumn_sub_of_noPaise {balance : Money} {amount : ℚ} (h : NoPaise amount)
    (hWithin : amount ≤ toMoney balance) :
    toColumn (toMoney balance - amount) = balance - 100 * ⌊amount⌋ := by
  have hProduct : (0 : ℚ) ≤ (toMoney balance - amount) * (100 : ℕ) := by
    have hLeft : 0 ≤ toMoney balance - amount := sub_nonneg.mpr hWithin
    positivity
  have hSplit : (toMoney balance - amount) * (100 : ℕ) =
      ((balance - 100 * ⌊amount⌋ : ℤ) : ℚ) + -(100 * Int.fract amount) := by
    rw [sub_mul, hundred_mul amount, toMoney, toNumber_mul_scale]
    push_cast
    ring
  rw [toColumn, store, roundHalfAway_of_nonneg hProduct, hSplit, roundHalfUp_intCast_add,
    roundHalfUp_neg_fract h.le, add_zero]

/-- Every amount of a request is the one recorded: the two of the payload, the
one signed, and what the balance of the payment was lowered by. -/
structure ToldAsRecorded (merchant : AtomMerchant) (payload : AtomRefundPayload)
    (row : PaymentRefund) (before after : Payment) : Prop where
  total : payload.totalRefundAmount = toMoney row.amount
  product : payload.prodRefundAmount = toMoney row.amount
  signature : payload.signature = merchant.hmacSha512Hex (Js.trim merchant.reqHashKey)
    (refundSignatureString merchant payload.merchTxnId (toMoney row.amount))
  balance : before.refundable - after.refundable = row.amount

/-- The request asks for the whole rupees of the amount, and signs them. -/
theorem buildAtomRefundPayload_ok {merchant : AtomMerchant} {merchTxnId atomTxnId : String}
    {amount : ℚ} {prodRefundId : String} {payload : AtomRefundPayload}
    (h : buildAtomRefundPayload merchant merchTxnId atomTxnId amount prodRefundId =
      .ok payload) :
    payload.totalRefundAmount = ⌊amount⌋ ∧ payload.prodRefundAmount = ⌊amount⌋ ∧
      payload.signature = merchant.hmacSha512Hex (Js.trim merchant.reqHashKey)
        (refundSignatureString merchant payload.merchTxnId ⌊amount⌋) := by
  obtain ⟨signature, hSignature, hPayload⟩ := bind_ok h
  cases hPayload
  simp only [atomRefundSignature] at hSignature
  split_ifs at hSignature
  cases hSignature
  refine ⟨rfl, rfl, ?_⟩
  simp [wholeRupees]

/-- The gateway is told the recorded amounts of an accepted refund exactly when
they have no paise. -/
theorem toldAsRecorded_iff {merchant : AtomMerchant} {payload : AtomRefundPayload}
    {user : AuthUser} {paymentId id : Id} {amount : ℚ} {reason : Option String}
    {gateway : RefundResult} {now : Timestamp} {db db' : Db} {row : PaymentRefund}
    {before after : Payment} (hBefore : db.payments.find? paymentId = some before)
    (hPayload : refundRequest merchant before amount = .ok payload)
    (hRefund : refund user paymentId amount reason (some gateway) now db = (db', .ok id))
    (hSuccess : gateway.success = true) (hRow : db'.refunds.find? id = some row)
    (hAfter : db'.payments.find? paymentId = some after) :
    ToldAsRecorded merchant payload row before after ↔ NoPaise amount := by
  obtain ⟨hTotal, hProduct, hSignature⟩ := buildAtomRefundPayload_ok hPayload
  obtain ⟨read, refunds, payments, hRead, rfl, hAdded, hReplaced, rfl⟩ :=
    refund_ok hRefund hSuccess
  obtain ⟨hMem, hId, -, hRefundable, hAmount, hWithin⟩ := refundRead_ok hRead
  obtain rfl : read.payment = before :=
    eq_of_key hMem (find?_eq_some_iff.mp hBefore).1 (hId.trans (find?_eq_some_iff.mp hBefore).2.symm)
  obtain rfl : refundRow read reason user gateway now db.nextId = row :=
    Option.some.inj (hAdded.find?_new.symm.trans hRow)
  obtain rfl : refundedPaymentData read read.payment = after := by
    rw [← hId] at hAfter
    exact Option.some.inj (hReplaced.find?_new.symm.trans hAfter)
  have hStored : (refundRow read reason user gateway now db.nextId).amount = toColumn amount := by
    rw [refundRow, hAmount]
  rw [← toColumn_eq_floor_iff]
  constructor
  · intro h
    have hSame := h.total
    rw [hTotal, hStored, ← toMoney_hundred] at hSame
    exact (toNumber_injective hSame).symm
  · intro h
    have hRupees : toMoney (refundRow read reason user gateway now db.nextId).amount =
        ⌊amount⌋ := by
      rw [hStored, h, toMoney_hundred]
    refine ⟨hTotal.trans hRupees.symm, hProduct.trans hRupees.symm, ?_, ?_⟩
    · rw [hSignature, hRupees]
    · have hLeft : (refundedPaymentData read read.payment).refundable =
          read.payment.refundable - toColumn amount := by
        rw [h, ← toColumn_sub_of_noPaise ((toColumn_eq_floor_iff amount).mp h)
          (hRefundable ▸ hWithin), ← hRefundable, ← hAmount]
        rfl
      rw [hLeft, hStored, sub_sub_cancel]

namespace Sample

def merchant : AtomMerchant := ⟨"317157", "Test@123", "NAGAR", "key", fun key text => key ++ text⟩

/-- A refund of the paid payment of 400 rupees, and what it leaves. -/
def atomRefund (amount : ℚ) : Reply Id :=
  refund administrator 2 amount none (some (sandboxRefund "CHH-1-a")) 2000 paidDb

end Sample

/-- Of 100 rupees and 50 paise the gateway is asked to return 100. -/
theorem gateway_told_whole_rupees : ¬ ∀ (merchant : AtomMerchant) (payload : AtomRefundPayload)
    (user : AuthUser) (paymentId id : Id) (amount : ℚ) (reason : Option String)
    (gateway : RefundResult) (now : Timestamp) (db db' : Db) (row : PaymentRefund)
    (before after : Payment), db.payments.find? paymentId = some before →
    refundRequest merchant before amount = .ok payload →
    refund user paymentId amount reason (some gateway) now db = (db', .ok id) →
    gateway.success = true → db'.refunds.find? id = some row →
    db'.payments.find? paymentId = some after →
      ToldAsRecorded merchant payload row before after := by
  intro hLaw
  have hRefund : Sample.atomRefund (201 / 2) = ((Sample.atomRefund (201 / 2)).1, .ok 3) :=
    Prod.ext rfl (by decide +kernel)
  obtain ⟨row, hRow⟩ : ∃ row, (Sample.atomRefund (201 / 2)).1.refunds.find? 3 = some row :=
    Option.isSome_iff_exists.mp (by decide +kernel)
  obtain ⟨after, hAfter⟩ : ∃ after, (Sample.atomRefund (201 / 2)).1.payments.find? 2 =
      some after := Option.isSome_iff_exists.mp (by decide +kernel)
  have hTold := hLaw Sample.merchant _ Sample.administrator 2 _ (201 / 2) none _ 2000
    Sample.paidDb _ row Sample.paidPayment after rfl rfl hRefund rfl hRow hAfter
  have hAmount : ((Sample.atomRefund (201 / 2)).1.refunds.find? 3).map PaymentRefund.amount =
      some 10050 := by decide +kernel
  rw [hRow, Option.map_some, Option.some_inj] at hAmount
  have hTotal := hTold.total
  rw [hAmount] at hTotal
  exact absurd hTotal (by decide +kernel)

/-- Of 100 rupees the gateway is told all. -/
theorem toldAsRecorded_iff_hundred : ∃ payload row after,
    refundRequest Sample.merchant Sample.paidPayment 100 = .ok payload ∧
      (Sample.atomRefund 100).1.refunds.find? 3 = some row ∧
      (Sample.atomRefund 100).1.payments.find? 2 = some after ∧
      ToldAsRecorded Sample.merchant payload row Sample.paidPayment after := by
  have hRefund : Sample.atomRefund 100 = ((Sample.atomRefund 100).1, .ok 3) :=
    Prod.ext rfl (by decide +kernel)
  obtain ⟨row, hRow⟩ : ∃ row, (Sample.atomRefund 100).1.refunds.find? 3 = some row :=
    Option.isSome_iff_exists.mp (by decide +kernel)
  obtain ⟨after, hAfter⟩ : ∃ after, (Sample.atomRefund 100).1.payments.find? 2 = some after :=
    Option.isSome_iff_exists.mp (by decide +kernel)
  exact ⟨_, row, after, rfl, hRow, hAfter,
    (toldAsRecorded_iff rfl rfl hRefund rfl hRow hAfter).mpr (.inl (by decide +kernel))⟩

end PropertyTax
