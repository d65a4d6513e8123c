import PropertyTax.Ledger.Operation

/-! Receipts are frozen: the number, the date and the snapshot of a payment are
written once, and a snapshot holds the balance that its payment left. -/
namespace PropertyTax
open KeyedTable Relation Runs

/-- The same payment, with the receipt columns that it had. -/
structure ReceiptKept (p p' : Payment) : Prop where
  id : p'.id = p.id
  amount : p'.amount = p.amount
  receiptNumber : ∀ number, p.receiptNumber = some number → p'.receiptNumber = some number
  collectionDate : ∀ date, p.collectionDate = some date → p'.collectionDate = some date
  receiptSnapshot : ∀ s, p.receiptSnapshot = some s → p'.receiptSnapshot = some s

/-- The snapshot is about the payment that it is stored on. -/
structure Payment.ReceiptFor (p : Payment) (s : ReceiptSnapshot) : Prop where
  amountReceived : s.amountReceived = toMoney p.amount
  receiptNumber : p.receiptNumber = some s.receiptNumber
  paidAt : p.collectionDate = some s.paidAt

/-- The snapshot holds the balance that the payment left on the demand, which
stood as `d` just before. -/
structure Payment.LeftOn (p : Payment) (d : PropertyDemand) (s : ReceiptSnapshot) : Prop where
  link : p.propertyDemandId = some d.id
  amountPaidAfter : s.amountPaidAfter = toMoney d.amountPaid + toMoney p.amount
  outstandingAfter : s.outstandingAfter = max 0 (toMoney d.totalPayable - s.amountPaidAfter)

theorem ReceiptKept.refl (p : Payment) : ReceiptKept p p :=
  ⟨rfl, rfl, fun _ h => h, fun _ h => h, fun _ h => h⟩

theorem ReceiptKept.trans {p q r : Payment} (h : ReceiptKept p q) (h' : ReceiptKept q r) :
    ReceiptKept p r where
  id := h'.id.trans h.id
  amount := h'.amount.trans h.amount
  receiptNumber number hNumber := h'.receiptNumber number (h.receiptNumber number hNumber)
  collectionDate date hDate := h'.collectionDate date (h.collectionDate date hDate)
  receiptSnapshot s hSnapshot := h'.receiptSnapshot s (h.receiptSnapshot s hSnapshot)

/-- A payment with a number has a date, and its snapshot agrees with both. -/
structure Payment.ReceiptAgrees (p : Payment) : Prop where
  dated : p.receiptNumber ≠ none → p.collectionDate ≠ none
  snapshot : ∀ s, p.receiptSnapshot = some s → p.ReceiptFor s

/-! ### What a settlement writes -/

/-- The receipt columns of the row that a settlement rewrites: number and date
if there was no number, and the snapshot of a credit. -/
def settleReceipt (numbers : Bool) (receiptNumber : String) (collectionDate : Timestamp)
    (extras : Option DemandExtras) (p : Payment) : Payment :=
  (if numbers then
    { p with receiptNumber := some receiptNumber, collectionDate := some collectionDate }
  else p).withExtras extras

/-- A callback writes the status of the payment, and settles its receipt. -/
theorem callbackPaymentData_eq (read : CallbackRead) (receiptNumber : String)
    (collectionDate : Timestamp) (extras : Option DemandExtras) (p : Payment) :
    callbackPaymentData read receiptNumber collectionDate extras p =
      settleReceipt (read.success && !hasReceiptNumber read.payment) receiptNumber
        collectionDate extras { p with
          status := read.effectiveStatus
          atomTxnId := read.atomTxnId.or read.payment.atomTxnId
          gatewayReference := read.atomTxnId.or read.payment.gatewayReference } := rfl

/-- A requery writes the status of the payment, and settles its receipt. -/
theorem requeryPaymentData_eq (payment : Payment) (opts : FinalizeOptions)
    (receiptNumber : String) (collectionDate : Timestamp) (extras : Option DemandExtras)
    (p : Payment) :
    requeryPaymentData payment opts receiptNumber collectionDate extras p =
      settleReceipt (!hasReceiptNumber payment) receiptNumber collectionDate extras { p with
        status := .success
        atomTxnId := opts.atomTxnId.or payment.atomTxnId } := by
  unfold requeryPaymentData settleReceipt
  cases hasReceiptNumber payment <;> rfl

/-- The number that a settlement writes is the stored one, if there is one. -/
theorem receiptNumberOf_eq {p : Payment} {number : String} (h : p.receiptNumber = some number) :
    receiptNumberOf p = number := by simp [receiptNumberOf, h]

/-- The payment `p'` is `p` with its receipt columns settled at `now`: what is
there is kept, and a snapshot that is new is of a credit to one of `demands`. -/
structure ReceiptSettled (now : Timestamp) (demands : KeyedTable PropertyDemand)
    (p p' : Payment) : Prop where
  kept : ReceiptKept p p'
  numbered : (p'.receiptNumber = p.receiptNumber ∧ p'.collectionDate = p.collectionDate) ∨
    p'.receiptNumber = some (receiptNumberOf p) ∧
      p'.collectionDate = some (p.collectionDate.getD now)
  snapshot : (p'.receiptSnapshot = p.receiptSnapshot ∧
      p'.propertyDemandId = p.propertyDemandId) ∨
    ∃ d ∈ demands.rows, ∃ s, p'.receiptSnapshot = some s ∧ p'.LeftOn d s ∧
      s.amountReceived = toMoney p.amount ∧ s.receiptNumber = receiptNumberOf p ∧
      s.paidAt = p.collectionDate.getD now ∧ p'.receiptNumber ≠ none

/-- A payment that agrees with its receipt still does once it is settled. -/
theorem ReceiptSettled.agrees {now : Timestamp} {demands : KeyedTable PropertyDemand}
    {p p' : Payment} (h : ReceiptSettled now demands p p') (hAgrees : p.ReceiptAgrees) :
    p'.ReceiptAgrees := by
  have hDated : p'.receiptNumber ≠ none → p'.collectionDate ≠ none := by
    rcases h.numbered with ⟨hNumber, hDate⟩ | ⟨_, hDate⟩
    · rw [hNumber, hDate]
      exact hAgrees.dated
    · simp [hDate]
  refine ⟨hDated, fun s hs => ?_⟩
  rcases h.snapshot with ⟨hSame, _⟩ | ⟨d, _, s', hs', _, hAmount, hNumber, hDate, hNumbered⟩
  · obtain ⟨hAmount, hNumber, hDate⟩ := hAgrees.snapshot s (hSame.symm.trans hs)
    exact ⟨by rw [hAmount, h.kept.amount], h.kept.receiptNumber _ hNumber,
      h.kept.collectionDate _ hDate⟩
  · obtain rfl : s' = s := Option.some.inj (hs'.symm.trans hs)
    refine ⟨by rw [hAmount, h.kept.amount], ?_, ?_⟩
    · rw [hNumber]
      rcases h.numbered with ⟨hSame, _⟩ | ⟨hWritten, _⟩
      · obtain ⟨number, hStored⟩ := Option.ne_none_iff_exists'.mp hNumbered
        rw [hStored, receiptNumberOf_eq (hSame.symm.trans hStored)]
      · exact hWritten
    · rw [hDate]
      rcases h.numbered with ⟨hSame, hSameDate⟩ | ⟨_, hWritten⟩
      · obtain ⟨date, hStored⟩ := Option.ne_none_iff_exists'.mp (hDated hNumbered)
        rw [hStored, ← hSameDate, hStored, Option.getD_some]
      · exact hWritten

/-- The receipt columns, the amount and the link of a payment are as they were. -/
structure SameReceipt (p p' : Payment) : Prop where
  id : p'.id = p.id
  amount : p'.amount = p.amount
  receiptNumber : p'.receiptNumber = p.receiptNumber
  collectionDate : p'.collectionDate = p.collectionDate
  receiptSnapshot : p'.receiptSnapshot = p.receiptSnapshot
  link : p'.propertyDemandId = p.propertyDemandId

/-- A payment whose receipt is as before is settled. -/
theorem SameReceipt.settled {now : Timestamp} {demands : KeyedTable PropertyDemand}
    {p p' : Payment} (h : SameReceipt p p') : ReceiptSettled now demands p p' where
  kept := ⟨h.id, h.amount, fun _ => h.receiptNumber.trans, fun _ => h.collectionDate.trans,
    fun _ => h.receiptSnapshot.trans⟩
  numbered := .inl ⟨h.receiptNumber, h.collectionDate⟩
  snapshot := .inl ⟨h.receiptSnapshot, h.link⟩

/-- The extras are those of a payment without a snapshot, credited to one of
the demands as it stood. -/
structure ExtrasFor (now : Timestamp) (demands : KeyedTable PropertyDemand) (p : Payment)
    (extras : DemandExtras) : Prop where
  unissued : p.receiptSnapshot = none
  credited : ∃ d ∈ demands.rows, extras.propertyDemandId = d.id ∧
    extras.receiptSnapshot.amountPaidAfter = toMoney d.amountPaid + toMoney p.amount ∧
    extras.receiptSnapshot.outstandingAfter =
      max 0 (toMoney d.totalPayable - extras.receiptSnapshot.amountPaidAfter)
  amountReceived : extras.receiptSnapshot.amountReceived = toMoney p.amount
  receiptNumber : extras.receiptSnapshot.receiptNumber = receiptNumberOf p
  paidAt : extras.receiptSnapshot.paidAt = p.collectionDate.getD now

/-- The balances on the receipt are those of the demand that is credited. -/
theorem demandExtrasOn_for {firstSuccess : Bool} {ctx : Context} {p : Payment} {db db' : Db}
    {extras : Option DemandExtras} (hFirst : firstSuccess = true → p.receiptSnapshot = none)
    (h : demandExtrasOn firstSuccess ctx p (receiptNumberOf p) (p.collectionDate.getD ctx.now)
      db = .ok (db', extras)) :
    db'.payments = db.payments ∧
      ∀ e, extras = some e → firstSuccess = true ∧ ExtrasFor ctx.now db.demands p e := by
  unfold demandExtrasOn at h
  cases firstSuccess with
  | false =>
      cases h
      exact ⟨rfl, fun e he => by cases he⟩
  | true =>
      simp only [↓reduceIte, applyOnlineSuccessToDemand] at h
      cases hTarget : creditTarget p db.demands with
      | none =>
          simp only [hTarget] at h
          cases h
          exact ⟨rfl, fun e he => by cases he⟩
      | some locked =>
          simp only [hTarget, computeOutstandingAfterPayment_toMoney] at h
          obtain ⟨after, hUpdate, hPair⟩ := map_ok h
          obtain ⟨_, _, _, _, rfl⟩ := Db.updateDemand_ok hUpdate fun _ => rfl
          cases hPair
          refine ⟨rfl, fun e he => ?_⟩
          cases he
          exact ⟨rfl, hFirst rfl, ⟨locked, (creditTarget_mem hTarget).1, rfl, rfl, rfl⟩,
            rfl, rfl, rfl⟩

/-- A receipt is numbered once, with the balances of its payment. -/
theorem settleReceipt_settled {now : Timestamp} {demands : KeyedTable PropertyDemand}
    {p q : Payment} {numbers : Bool} {extras : Option DemandExtras} (hSame : SameReceipt p q)
    (hNumbers : numbers = true → hasReceiptNumber p = false)
    (hExtras : ∀ e, extras = some e →
      (numbers = true ∨ hasReceiptNumber p = true) ∧ ExtrasFor now demands p e) :
    ReceiptSettled now demands p
      (settleReceipt numbers (receiptNumberOf p) (p.collectionDate.getD now) extras q) := by
  obtain ⟨hId, hAmount, hNumber, hDate, hSnapshot, hLink⟩ := hSame
  -- The row before the extras are spread over it.
  have hNumbered : ReceiptSettled now demands p
      (settleReceipt numbers (receiptNumberOf p) (p.collectionDate.getD now) none q) := by
    unfold settleReceipt
    cases numbers with
    | false => exact SameReceipt.settled ⟨hId, hAmount, hNumber, hDate, hSnapshot, hLink⟩
    | true =>
        refine ⟨⟨hId, hAmount, fun number h => ?_, fun date h => ?_,
          fun s => hSnapshot.trans⟩, .inr ⟨rfl, rfl⟩, .inl ⟨hSnapshot, hLink⟩⟩
        · exact congrArg some (receiptNumberOf_eq h)
        · simp [Payment.withExtras, h]
  cases extras with
  | none => exact hNumbered
  | some e =>
      obtain ⟨hHas, hUnissued, ⟨d, hd, hDemand, hPaid, hLeft⟩, hReceived, hReceipt, hPaidAt⟩ :=
        hExtras e rfl
      refine ⟨⟨hNumbered.kept.id, hNumbered.kept.amount, hNumbered.kept.receiptNumber,
        hNumbered.kept.collectionDate, fun s hs => ?_⟩, hNumbered.numbered, .inr ⟨d, hd,
        e.receiptSnapshot, rfl, ⟨congrArg some hDemand, ?_, hLeft⟩, hReceived, hReceipt,
        hPaidAt, ?_⟩⟩
      · rw [hUnissued] at hs
        cases hs
      · rw [hPaid]
        exact congrArg (toMoney d.amountPaid + toMoney ·) hNumbered.kept.amount.symm
      · rcases hHas with hWritten | hStored
        · simp [settleReceipt, hWritten, Payment.withExtras]
        · intro hNone
          rcases hNumbered.numbered with ⟨hKept, _⟩ | ⟨hWritten, _⟩
          · have hAbsent : p.receiptNumber = none := hKept.symm.trans hNone
            simp [hasReceiptNumber, hAbsent] at hStored
          · have hPresent := hWritten.symm.trans hNone
            cases hPresent

/-! ### Deliveries -/

/-- The transaction of a callback settles the receipt of its payment. -/
theorem callbackTransaction_receipt {ctx : Context} {read : CallbackRead} {db db' : Db}
    {answer : Option PaymentCallback × Option Payment} (hMem : read.payment ∈ db.payments.rows)
    (h : callbackTransaction ctx read db = .ok (db', answer)) :
    ∃ p', Replaced db.payments db'.payments read.payment p' ∧
      ReceiptSettled ctx.now db.demands read.payment p' := by
  unfold callbackTransaction at h
  obtain ⟨⟨db₁, callbackId⟩, hWrite, h⟩ := bind_ok h
  obtain ⟨⟨db₂, extras⟩, hCredit, h⟩ := bind_ok h
  obtain ⟨db₃, hPayment, h⟩ := bind_ok h
  obtain ⟨db₄, hProcessed, h⟩ := bind_ok h
  obtain ⟨_, _, _, _, rfl⟩ := Db.updateCallback_ok hProcessed fun _ => rfl
  cases h
  have hWritten := SameLedger.writeCallback hWrite
  have hFirst : read.firstSuccess = true →
      read.success = true ∧ read.payment.receiptSnapshot = none := by
    simp only [CallbackRead.firstSuccess, Bool.and_eq_true, Option.isNone_iff_eq_none]
    exact fun h => ⟨h.1.1, h.2⟩
  obtain ⟨hSame, hExtras⟩ := demandExtrasOn_for (fun h => (hFirst h).2) hCredit
  obtain ⟨p, payments, hId, hReplaced, rfl⟩ := Db.updatePayment_ok hPayment fun p =>
    (callbackPaymentData_same read _ _ extras p).id
  rw [hSame, hWritten.payments] at hReplaced
  obtain rfl : p = read.payment := eq_of_key hReplaced.mem_old hMem hId
  refine ⟨_, hReplaced, ?_⟩
  rw [callbackPaymentData_eq]
  refine settleReceipt_settled ⟨rfl, rfl, rfl, rfl, rfl, rfl⟩ (by simp) fun e he => ?_
  obtain ⟨hSuccess, hFor⟩ := hExtras e he
  rw [hWritten.demands] at hFor
  refine ⟨?_, hFor⟩
  cases hasReceiptNumber read.payment <;> simp [(hFirst hSuccess).1]

/-- A success that a requery finds settles the receipt of its payment. -/
theorem finalizeRequerySuccess_receipt (ctx : Context) (payment : Payment)
    (opts : FinalizeOptions) {db : Db} (hMem : payment ∈ db.payments.rows) :
    (finalizeRequerySuccess ctx payment opts db).1.payments = db.payments ∨
    ∃ p', Replaced db.payments (finalizeRequerySuccess ctx payment opts db).1.payments
        payment p' ∧ ReceiptSettled ctx.now db.demands payment p' := by
  unfold finalizeRequerySuccess
  cases opts.success with
  | true =>
      cases hBody : requeryTransaction ctx payment opts db with
      | error refusal => exact .inl rfl
      | ok result =>
          refine .inr ?_
          unfold requeryTransaction at hBody
          obtain ⟨⟨db₁, extras⟩, hCredit, hBody⟩ := bind_ok hBody
          obtain ⟨db₂, hPayment, hBody⟩ := bind_ok hBody
          cases hBody
          have hFirst : requeryFirstSuccess payment = true → payment.receiptSnapshot = none := by
            simp only [requeryFirstSuccess, Bool.and_eq_true, Option.isNone_iff_eq_none]
            exact And.right
          obtain ⟨hSame, hExtras⟩ := demandExtrasOn_for hFirst hCredit
          obtain ⟨p, payments, hId, hReplaced, rfl⟩ := Db.updatePayment_ok hPayment fun p =>
            (requeryPaymentData_same payment opts _ _ extras p).id
          rw [hSame] at hReplaced
          obtain rfl : p = payment := eq_of_key hReplaced.mem_old hMem hId
          refine ⟨_, hReplaced, ?_⟩
          rw [requeryPaymentData_eq]
          refine settleReceipt_settled ⟨rfl, rfl, rfl, rfl, rfl, rfl⟩ (by simp) fun e he =>
            ⟨?_, (hExtras e he).2⟩
          cases hasReceiptNumber p <;> simp
  | false =>
      cases hUpdate : db.updatePayment payment.id fun p => { p with
          status := unsuccessfulStatus payment opts
          atomTxnId := opts.atomTxnId.or payment.atomTxnId } with
      | error refusal =>
          simp only [Except.map, commit]
          exact .inl rfl
      | ok after =>
          obtain ⟨p, payments, hId, hReplaced, rfl⟩ := Db.updatePayment_ok hUpdate fun _ => rfl
          obtain rfl : p = payment := eq_of_key hReplaced.mem_old hMem hId
          simp only [Except.map, commit]
          exact .inr ⟨_, hReplaced, SameReceipt.settled ⟨rfl, rfl, rfl, rfl, rfl, rfl⟩⟩

/-- What a call does to the receipts, step by step: a payment is opened without
one, collected with one, or settled. -/
inductive ReceiptStep (now : Timestamp) (demands : KeyedTable PropertyDemand)
    (payments payments' : KeyedTable Payment) : Prop where
  | opened (p : Payment) (hPayment : Added payments payments' p)
      (hNumber : p.receiptNumber = none) (hSnapshot : p.receiptSnapshot = none)
  | collected (p : Payment) (d : PropertyDemand) (s : ReceiptSnapshot)
      (hPayment : Added payments payments' p) (hDemand : d ∈ demands.rows)
      (hSnapshot : p.receiptSnapshot = some s) (hFor : p.ReceiptFor s) (hLeft : p.LeftOn d s)
  | settled (p p' : Payment) (hPayment : Replaced payments payments' p p')
      (hSettled : ReceiptSettled now demands p p')

/-- A delivery settles the receipt of one payment, or of none. -/
theorem deliverWhole_receipt (ctx : Context) (delivery : Delivery) (db : Db) :
    (deliverWhole ctx delivery db).payments = db.payments ∨
      ReceiptStep ctx.now db.demands db.payments (deliverWhole ctx delivery db).payments := by
  have hBefore := beginDelivery_same ctx delivery db
  unfold deliverWhole
  rcases hBegin : beginDelivery ctx delivery db with ⟨progress, entered⟩
  rw [hBegin] at hBefore
  cases progress with
  | waiting => exact .inl hBefore.payments
  | finished settled => exact .inl hBefore.payments
  | entered read =>
      have hMem : read.payment ∈ entered.payments.rows := by
        rw [hBefore.payments]
        exact (beginDelivery_entered hBegin).2.1
      rw [← hBefore.payments, ← hBefore.demands]
      have hFinalized : ∀ payment ∈ entered.payments.rows, ∀ opts row,
          (finalizeRequerySuccess ctx payment opts (entered.addTransaction row)).1.payments =
            entered.payments ∨
          ReceiptStep ctx.now entered.demands entered.payments
            (finalizeRequerySuccess ctx payment opts (entered.addTransaction row)).1.payments := by
        intro payment hPayment opts row
        have hCases := finalizeRequerySuccess_receipt ctx payment opts
          (show payment ∈ (entered.addTransaction row).payments.rows from hPayment)
        exact hCases.imp_right fun ⟨p', hReplaced, hSettled⟩ => .settled _ p' hReplaced hSettled
      cases read with
      | callback read =>
          dsimp only [finishDelivery]
          have hCases : (finishCallback ctx read entered).1.payments = entered.payments ∨
              ReceiptStep ctx.now entered.demands entered.payments
                (finishCallback ctx read entered).1.payments := by
            unfold finishCallback
            split
            · exact .inl (SameLedger.attachToDuplicate read _ entered).payments
            · split_ifs
              · exact .inl rfl
              · cases hBody : callbackTransaction ctx read entered with
                | error refusal => exact .inl rfl
                | ok result =>
                    obtain ⟨after, callback, payment⟩ := result
                    obtain ⟨p', hReplaced, hSettled⟩ := callbackTransaction_receipt hMem hBody
                    refine .inr (.settled _ p' ?_ hSettled)
                    rw [← (logStatusChange_same read after).1.payments] at hReplaced
                    exact hReplaced
          rcases hResult : finishCallback ctx read entered with ⟨after, _ | outcome⟩ <;>
            (rw [hResult] at hCases; exact hCases)
      | requery user payment reply =>
          dsimp only [finishDelivery, finishRequery]
          cases reply with
          | none => exact .inl rfl
          | some result =>
              have hCases := hFinalized payment hMem ⟨result.success, result.atomTxnId, false⟩
                (requeryTransactionRow payment result)
              dsimp only
              rcases hResult : finalizeRequerySuccess ctx payment _ _ with ⟨after, _ | updated⟩ <;>
                (rw [hResult] at hCases; exact hCases)
      | sync payment reply =>
          dsimp only [finishDelivery, finishSync]
          split_ifs
          · exact .inl rfl
          · cases reply with
            | none => exact .inl rfl
            | some result =>
                have hCases := hFinalized payment hMem ⟨result.success, result.atomTxnId, true⟩
                  (requeryTransactionRow payment result)
                dsimp only
                rcases hResult : finalizeRequerySuccess ctx payment _ _ with
                  ⟨after, _ | updated⟩ <;> (rw [hResult] at hCases; exact hCases)

/-! ### The other calls -/

section Opening
variable {now : Timestamp} {demands : KeyedTable PropertyDemand} {ctx : Context} {db : Db}

/-- A failed checkout touches no receipt. -/
theorem failOpened_receipts {α : Type} (paymentId : Id) (error : ApiError) (db : Db) :
    ReflTransGen (ReceiptStep now demands) db.payments
      (failOpened paymentId error db : Reply α).1.payments := by
  unfold failOpened
  cases hUpdate : db.updatePayment paymentId (setPaymentStatus .failed) with
  | error refusal => exact .refl
  | ok after =>
      obtain ⟨p, payments, _, hReplaced, rfl⟩ := Db.updatePayment_ok hUpdate fun _ => rfl
      exact .single (.settled p _ hReplaced
        (SameReceipt.settled ⟨rfl, rfl, rfl, rfl, rfl, rfl⟩))

/-- The answer to a checkout touches no receipt. -/
theorem finishOpened_receipts (paymentId : Id) (reply : CreatePaymentReply) (db : Db) :
    ReflTransGen (ReceiptStep now demands) db.payments
      (finishOpened paymentId reply db).1.payments := by
  unfold finishOpened
  cases reply with
  | invalid code message => exact failOpened_receipts paymentId _ db
  | threw => exact failOpened_receipts paymentId _ db
  | answered result =>
      dsimp only
      split_ifs
      · exact failOpened_receipts paymentId _ (db.addTransaction _)
      · split
        · exact .refl
        · rename_i after hUpdate
          obtain ⟨p, _, _, hReplaced, rfl⟩ := Db.updatePayment_ok hUpdate fun _ => rfl
          exact .single (.settled p _ hReplaced
            (SameReceipt.settled ⟨rfl, rfl, rfl, rfl, rfl, rfl⟩))

/-- Opening a payment touches no receipt. -/
theorem createOnlinePayment_receipts (input : OnlinePaymentInput) (collectedById : Option Id)
    (suffix : String) (reply : CreatePaymentReply) :
    ReflTransGen (ReceiptStep now demands) db.payments
      (createOnlinePayment ctx input collectedById suffix reply db).1.payments := by
  unfold createOnlinePayment
  dsimp only
  cases hCreate : db.createPayment (openedPayment ctx input (newCitizenMerchTxnId ctx.now suffix)
      collectedById) with
  | error refusal => exact .refl
  | ok after =>
      obtain ⟨payments, hAdded, rfl⟩ := Db.createPayment_ok hCreate
      exact .head (.opened _ hAdded rfl rfl) (finishOpened_receipts db.nextId reply
        { db with payments, nextId := db.nextId + 1 })

/-- A clerk's online payment touches no receipt. -/
theorem createOnline_receipts (input : CreateOnlineInput) (user : AuthUser) (suffix : String)
    (reply : CreatePaymentReply) :
    ReflTransGen (ReceiptStep now demands) db.payments
      (createOnline ctx input user suffix reply db).1.payments := by
  unfold createOnline
  cases onlineInput ctx input user db with
  | error error => exact .refl
  | ok request => exact createOnlinePayment_receipts _ _ _ _

/-- A citizen's payment touches no receipt. -/
theorem createCitizenPayment_receipts (dto : CitizenPaymentDto) (suffix : String)
    (reply : CreatePaymentReply) :
    ReflTransGen (ReceiptStep now demands) db.payments
      (createCitizenPayment ctx dto suffix reply db).1.payments := by
  unfold createCitizenPayment
  cases citizenInput ctx dto db with
  | error error => exact .refl
  | ok request =>
      have hSteps : ReflTransGen (ReceiptStep now demands) db.payments
          (createOnlinePayment ctx request none suffix reply db).1.payments :=
        createOnlinePayment_receipts _ _ _ _
      dsimp only
      rcases hResult : createOnlinePayment ctx request none suffix reply db with
        ⟨after, _ | ⟨payment, gateway⟩⟩
      · rw [hResult] at hSteps
        exact hSteps
      · rw [hResult] at hSteps
        dsimp only
        split_ifs <;> exact hSteps

end Opening

/-- A collection of a whole number of paise issues the receipt with the row. -/
theorem createOffline_receipt {ctx : Context} {input : OfflineInput} {user : AuthUser}
    (suffix : String) {db : Db} (hPaise : ∃ paise : Money, input.amount = toMoney paise) :
    (createOffline ctx input user suffix db).1.payments = db.payments ∨
      ReceiptStep ctx.now db.demands db.payments
        (createOffline ctx input user suffix db).1.payments := by
  obtain ⟨paise, hAmount⟩ := hPaise
  unfold createOffline
  cases offlineRequest ctx input user db with
  | error error => exact .inl rfl
  | ok answer =>
      cases answer with
      | inl existing => exact .inl rfl
      | inr request =>
          dsimp only
          cases hLocked : lockForCollection request input.amount db with
          | error error => exact .inl rfl
          | ok locked =>
              obtain ⟨hMem, _⟩ := lockForCollection_ok hLocked
              dsimp only
              cases offlineCollectionDate ctx input with
              | error error => exact .inl rfl
              | ok collectionDate =>
                  dsimp only
                  cases hCollect : collect ctx input user request locked
                      (offlinePaymentReference ctx.now suffix) collectionDate db with
                  | error refusal =>
                      refine .inl ?_
                      cases refusal with
                      | uniqueViolation =>
                          simp only [answerCollision]
                          split <;> rfl
                      | recordNotFound => rfl
                  | ok result =>
                      unfold collect at hCollect
                      obtain ⟨after, hCreate, hCollect⟩ := bind_ok hCollect
                      obtain ⟨final, hUpdate, hCollect⟩ := bind_ok hCollect
                      cases hCollect
                      obtain ⟨payments, hAdded, rfl⟩ := Db.createPayment_ok hCreate
                      obtain ⟨_, _, _, _, rfl⟩ := Db.updateDemand_ok hUpdate fun _ => rfl
                      refine .inr (.collected _ locked _ hAdded hMem rfl ⟨?_, rfl, rfl⟩
                        ⟨rfl, ?_, ?_⟩)
                      · simp [collectedPayment, buildReceiptSnapshot, hAmount]
                      · simp [collectedPayment, buildReceiptSnapshot, hAmount,
                          computeOutstandingAfterPayment_toMoney]
                      · simp [buildReceiptSnapshot, hAmount,
                          computeOutstandingAfterPayment_toMoney]

/-- A refund touches no receipt. -/
theorem refund_receipt {now : Timestamp} {demands : KeyedTable PropertyDemand}
    (user : AuthUser) (paymentId : Id) (amount : ℚ) (reason : Option String)
    (reply : Option RefundResult) (clock : Timestamp) (db : Db) :
    (refund user paymentId amount reason reply clock db).1.payments = db.payments ∨
      ReceiptStep now demands db.payments
        (refund user paymentId amount reason reply clock db).1.payments := by
  rcases refund_cases user paymentId amount reason reply clock db with
    hSame | ⟨_, _, _, _, _, _, hRow | ⟨_, p, payments, _, hPayment, hPaid⟩⟩
  · exact .inl (congrArg Db.payments hSame)
  · rw [hRow]
    exact .inl rfl
  · rw [hPaid]
    exact .inr (.settled p _ hPayment (SameReceipt.settled ⟨rfl, rfl, rfl, rfl, rfl, rfl⟩))

/-! ### Publishing and carrying touch no payment -/

/-- A carried balance touches no payment. -/
theorem carryRow_payments {row : ProposedArrear} {counts counts' : CarryCounts} {db db' : Db}
    (h : carryRow row counts db = .ok (db', counts')) : db'.payments = db.payments := by
  unfold carryRow at h
  obtain ⟨⟨targeted, target⟩, hTarget, h⟩ := bind_ok h
  have hTargeted : targeted.payments = db.payments := by
    unfold carryTarget at hTarget
    split at hTarget
    · cases hTarget
      rfl
    · obtain ⟨created, hCreate, hPair⟩ := map_ok hTarget
      obtain ⟨_, _, rfl⟩ := Db.createDemand_ok hCreate
      cases hPair
      rfl
  dsimp only at h
  split_ifs at h
  · cases h
    exact hTargeted
  · obtain ⟨created, hCreate, h⟩ := bind_ok h
    obtain ⟨updated, hUpdate, h⟩ := bind_ok h
    cases h
    obtain ⟨_, _, rfl⟩ := Db.createDemandArrear_ok hCreate
    obtain ⟨_, _, _, _, rfl⟩ := Db.updateDemand_ok hUpdate fun _ => rfl
    exact hTargeted

/-- Carrying all balances touches no payment. -/
theorem carryRows_payments {rows : List ProposedArrear} {counts counts' : CarryCounts}
    {db db' : Db} (h : carryRows rows counts db = .ok (db', counts')) :
    db'.payments = db.payments := by
  induction rows generalizing counts db with
  | nil =>
      cases h
      rfl
  | cons row rest ih =>
      obtain ⟨⟨carried, counts''⟩, hRow, hRest⟩ := bind_ok h
      exact (ih hRest).trans (carryRow_payments hRow)

/-- A year-end run touches no payment. -/
theorem commitYearEnd_payments (ctx : Context) (fromYearId toYearId : Id) (actorId : Option Id)
    (db : Db) : (commitYearEnd ctx fromYearId toYearId actorId db).1.payments = db.payments := by
  have hCases := commitYearEnd_cases ctx fromYearId toYearId actorId db
  generalize commitYearEnd ctx fromYearId toYearId actorId db = reply at hCases ⊢
  cases hCases with
  | refused error => rfl
  | noop => rfl
  | committed carried written counts runId summary hYears hRun hRows _ hWrite =>
      have hLedger := congrArg Ledger.payments (writeYearEndRun_ledger hWrite)
      exact hLedger.trans (carryRows_payments hRows)

/-! ### Every call -/

/-- A call that collects whole paise is made of steps of receipts. -/
theorem perform_receiptSteps {db : Db} {call : Call} (hPaise : call.InPaise) :
    ReflTransGen (ReceiptStep call.ctx.now db.demands) db.payments
      (perform db call).payments := by
  have hOne : ∀ payments, payments = db.payments ∨
      ReceiptStep call.ctx.now db.demands db.payments payments →
      ReflTransGen (ReceiptStep call.ctx.now db.demands) db.payments payments := by
    rintro payments (rfl | hStep)
    · exact .refl
    · exact .single hStep
  obtain ⟨ctx, operation⟩ := call
  cases operation with
  | createOnline input user suffix reply => exact createOnline_receipts input user suffix reply
  | createCitizenPayment dto suffix reply => exact createCitizenPayment_receipts dto suffix reply
  | deliver delivery =>
      have hCases := deliverWhole_receipt ctx delivery db
      rw [← delivery.perform_eq] at hCases
      exact hOne _ hCases
  | gatewayReturn payload =>
      have hCases := deliverWhole_receipt ctx (.callback payload) db
      rw [← handleGatewayReturn_db] at hCases
      exact hOne _ hCases
  | createOffline input user suffix => exact hOne _ (createOffline_receipt suffix hPaise)
  | refund user paymentId amount reason reply =>
      exact hOne _ (refund_receipt user paymentId amount reason reply _ db)
  | publish surveyId assessmentYearId actorId =>
      refine hOne _ (.inl ?_)
      have hSteps := @perform_publishSteps db
        ⟨ctx, .publish surveyId assessmentYearId actorId⟩ trivial
      refine steps_invariant (fun l => l.payments = db.payments) ?_ hSteps rfl
      intro l l' hSame ⟨_, _, _, hStep⟩
      exact hStep.same.1.trans hSame
  | publishForWard wardId assessmentYearId actorId =>
      refine hOne _ (.inl ?_)
      have hSteps := @perform_publishSteps db
        ⟨ctx, .publishForWard wardId assessmentYearId actorId⟩ trivial
      refine steps_invariant (fun l => l.payments = db.payments) ?_ hSteps rfl
      intro l l' hSame ⟨_, _, _, hStep⟩
      exact hStep.same.1.trans hSame
  | commitYearEnd fromYearId toYearId actorId =>
      exact hOne _ (.inl (commitYearEnd_payments ctx fromYearId toYearId actorId db))

section Steps
variable {now : Timestamp} {demands : KeyedTable PropertyDemand}
  {payments payments' : KeyedTable Payment}

/-- A receipt that is there is kept. -/
theorem ReceiptStep.kept (h : ReceiptStep now demands payments payments') :
    Evolves ReceiptKept payments payments' := by
  have hSame := Evolves.refl ReceiptKept.refl payments
  cases h with
  | opened p hPayment => exact hSame.added hPayment
  | collected p d s hPayment => exact hSame.added hPayment
  | settled p p' hPayment hSettled =>
      exact hSame.replaced hPayment fun r hr => hr.trans hSettled.kept

/-- A step leaves receipts that agree with their payments. -/
theorem ReceiptStep.agrees (h : ReceiptStep now demands payments payments')
    (hAgrees : ∀ p ∈ payments.rows, p.ReceiptAgrees) : ∀ p ∈ payments'.rows, p.ReceiptAgrees := by
  cases h with
  | opened p hPayment hNumber hSnapshot =>
      refine hPayment.forall_rows hAgrees ⟨fun h => absurd hNumber h, fun s hs => ?_⟩
      rw [hSnapshot] at hs
      cases hs
  | collected p d s hPayment _ hSnapshot hFor _ =>
      refine hPayment.forall_rows hAgrees ⟨fun _ => by simp [hFor.paidAt], fun s' hs' => ?_⟩
      obtain rfl : s = s' := Option.some.inj (hSnapshot.symm.trans hs')
      exact hFor
  | settled p p' hPayment hSettled =>
      exact hPayment.forall_rows hAgrees (hSettled.agrees (hAgrees p hPayment.mem_old))

/-- A snapshot was on its payment in `before`, or is of a credit to one of the
demands. -/
def SnapshotFrom (demands : KeyedTable PropertyDemand) (before : KeyedTable Payment)
    (p' : Payment) (s : ReceiptSnapshot) : Prop :=
  (∃ p ∈ before.rows, p.id = p'.id ∧ p.receiptSnapshot = some s) ∨
    ∃ d ∈ demands.rows, p'.LeftOn d s

/-- A snapshot is of the demand that its payment credited. -/
theorem ReceiptStep.snapshots {before : KeyedTable Payment}
    (h : ReceiptStep now demands payments payments')
    (hFrom : ∀ p ∈ payments.rows, ∀ s, p.receiptSnapshot = some s →
      SnapshotFrom demands before p s) :
    ∀ p ∈ payments'.rows, ∀ s, p.receiptSnapshot = some s → SnapshotFrom demands before p s := by
  cases h with
  | opened p hPayment _ hSnapshot =>
      refine hPayment.forall_rows hFrom fun s hs => ?_
      rw [hSnapshot] at hs
      cases hs
  | collected p d s hPayment hDemand hSnapshot _ hLeft =>
      refine hPayment.forall_rows hFrom fun s' hs' => ?_
      obtain rfl : s = s' := Option.some.inj (hSnapshot.symm.trans hs')
      exact .inr ⟨d, hDemand, hLeft⟩
  | settled p p' hPayment hSettled =>
      refine hPayment.forall_rows hFrom fun s hs => ?_
      rcases hSettled.snapshot with ⟨hSame, hLink⟩ | ⟨d, hd, s', hs', hLeft, _⟩
      · rcases hFrom p hPayment.mem_old s (hSame.symm.trans hs) with
          ⟨q, hq, hId, hStored⟩ | ⟨d, hd, hLeft⟩
        · exact .inl ⟨q, hq, hId.trans hSettled.kept.id.symm, hStored⟩
        · exact .inr ⟨d, hd, hLink.trans hLeft.link,
            by rw [hSettled.kept.amount, hLeft.amountPaidAfter], hLeft.outstandingAfter⟩
      · obtain rfl : s' = s := Option.some.inj (hs'.symm.trans hs)
        exact .inr ⟨d, hd, hLeft⟩

end Steps

/-! ### Runs -/

/-- Receipts after a call: those that were written stay, every snapshot agrees
with its payment, and a new one holds the balance that the payment left. -/
structure FreezesReceipts (db : Db) (call : Call) : Prop where
  kept : Evolves ReceiptKept db.payments (perform db call).payments
  agree : ∀ p ∈ (perform db call).payments.rows, ∀ s, p.receiptSnapshot = some s →
    p.ReceiptFor s
  left : ∀ p ∈ (perform db call).payments.rows, ∀ s, p.receiptSnapshot = some s →
    SnapshotFrom db.demands db.payments p s

/-- A call leaves the receipts agreeing, and those there were as they were. -/
theorem freezesReceipts_of_agrees {db : Db} {call : Call} (hPaise : call.InPaise)
    (hAgrees : ∀ p ∈ db.payments.rows, p.ReceiptAgrees) :
    (∀ p ∈ (perform db call).payments.rows, p.ReceiptAgrees) ∧ FreezesReceipts db call := by
  have hSteps : ReflTransGen (ReceiptStep call.ctx.now db.demands) db.payments
      (perform db call).payments := perform_receiptSteps hPaise
  have hAfter := steps_invariant (fun payments => ∀ p ∈ payments.rows, p.ReceiptAgrees)
    (fun _ _ hBefore hStep => hStep.agrees hBefore) hSteps hAgrees
  refine ⟨hAfter, ?_, fun p hp => (hAfter p hp).snapshot, ?_⟩
  · refine steps_invariant (Evolves ReceiptKept db.payments) ?_ hSteps
      (Evolves.refl ReceiptKept.refl _)
    intro payments payments' hKept hStep p hp
    obtain ⟨q, hq, hFirst⟩ := hKept p hp
    obtain ⟨r, hr, hSecond⟩ := hStep.kept q hq
    exact ⟨r, hr, hFirst.trans hSecond⟩
  · refine steps_invariant (fun payments => ∀ p ∈ payments.rows, ∀ s,
        p.receiptSnapshot = some s → SnapshotFrom db.demands db.payments p s) ?_ hSteps
      fun p hp s hs => .inl ⟨p, hp, rfl, hs⟩
    exact fun _ _ hFrom hStep => hStep.snapshots hFrom

/-- What every call of a run keeps, the whole run keeps. -/
theorem receipts_kept {start : Db} {calls : List Call}
    (hAlong : Along perform FreezesReceipts start calls) :
    Evolves ReceiptKept start.payments (run perform start calls).payments := by
  induction calls generalizing start with
  | nil => exact Evolves.refl ReceiptKept.refl _
  | cons call rest ih =>
      intro p hp
      obtain ⟨q, hq, hFirst⟩ := hAlong.1.kept p hp
      obtain ⟨r, hr, hRest⟩ := ih hAlong.2 q hq
      exact ⟨r, hr, hFirst.trans hRest⟩

/-- Along every run, what is on a receipt stays. -/
theorem freezesReceipts_along {start : Db}
    (hStart : ∀ p ∈ start.payments.rows, p.ReceiptAgrees) {calls : List Call}
    (hPaise : ∀ call ∈ calls, call.InPaise) : Along perform FreezesReceipts start calls := by
  induction calls generalizing start with
  | nil => trivial
  | cons call rest ih =>
      obtain ⟨hAgrees, hFreezes⟩ :=
        freezesReceipts_of_agrees (hPaise call List.mem_cons_self) hStart
      exact ⟨hFreezes, ih hAgrees fun c hc => hPaise c (List.mem_cons_of_mem _ hc)⟩

/-- In every run that collects whole paise, receipts are frozen by every call
and from any moment of the run to its end. -/
theorem receipts_frozen {start : Db} (hStart : ∀ p ∈ start.payments.rows, p.ReceiptAgrees)
    {calls : List Call} (hPaise : ∀ call ∈ calls, call.InPaise) :
    Along perform FreezesReceipts start calls ∧
    ∀ first rest, calls = first ++ rest →
      Evolves ReceiptKept (run perform start first).payments
        (run perform start calls).payments := by
  have hAlong := freezesReceipts_along hStart hPaise
  refine ⟨hAlong, ?_⟩
  rintro first rest rfl
  rw [run_append]
  exact receipts_kept (Along.append.mp hAlong).2

namespace Sample

/-- A demand is published and paid in two parts. -/
def twoReceipts : List Call :=
  [⟨ward, .publish 10 20 none⟩, ⟨ward, .createOffline (cash 400 20) administrator "a"⟩,
    ⟨ward, .createOffline (cash 250 20) administrator "b"⟩]

end Sample

/-- Two receipts are given, in cash and online, and both stay. -/
theorem receipts_frozen_twoReceipts :
    ((run perform Db.empty Sample.twoReceipts).payments.rows.filter fun p =>
      p.receiptSnapshot.isSome).length = 2 ∧
    Along perform FreezesReceipts Db.empty Sample.twoReceipts ∧
    ∀ first rest, Sample.twoReceipts = first ++ rest →
      Evolves ReceiptKept (run perform Db.empty first).payments
        (run perform Db.empty Sample.twoReceipts).payments := by
  refine ⟨by decide +kernel, receipts_frozen (fun p hp => absurd hp List.not_mem_nil) ?_⟩
  have hPaise : ∀ paise : Money, ∀ user suffix,
      Call.InPaise ⟨Sample.ward, .createOffline (Sample.cash (toMoney paise) 20) user suffix⟩ :=
    fun paise _ _ => ⟨paise, rfl⟩
  have h400 := hPaise 40000
  have h250 := hPaise 25000
  rw [show toMoney 40000 = 400 by decide +kernel] at h400
  rw [show toMoney 25000 = 250 by decide +kernel] at h250
  intro call hCall
  simp only [Sample.twoReceipts, List.mem_cons, List.not_mem_nil, or_false] at hCall
  rcases hCall with rfl | rfl | rfl
  · trivial
  · exact h400 _ _
  · exact h250 _ _

end PropertyTax
