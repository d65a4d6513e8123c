import PropertyTax.Library.Waterfall
import PropertyTax.Payments.Rules

/-! What a receipt says about its payment: the balance before it, and how it went
to the heads of the demand, rederived from the cumulative totals that the receipt
has frozen. -/
namespace PropertyTax
open Waterfall

/-- Outstanding before a payment, from the totals after it. -/
def outstandingBeforeFromSnapshot
    (totalPayable amountPaidAfter amountReceived outstandingAfter : ℚ) : ℚ :=
  let amountPaidBefore := roundMoney (max 0 (amountPaidAfter - amountReceived))
  let fromPayable := roundMoney (max 0 (totalPayable - amountPaidBefore))
  let fromAfter := roundMoney (outstandingAfter + amountReceived)
  if |fromPayable - fromAfter| ≤ 2 / 100 then fromPayable else fromAfter

inductive AllocationHead where
  | arrears | propertyTax | waterTax | drainageTax | penalty
deriving DecidableEq

structure ReceiptAllocationInput where
  propertyTax : ℚ
  waterTax : ℚ
  drainageTax : ℚ
  penalty : ℚ
  rebate : ℚ
  arrears : ℚ
  amountPaidAfter : ℚ
  amountReceived : ℚ
  outstandingAfter : ℚ
  assessmentYearName : Option String

structure ReceiptAllocationRow where
  yearLabel : String
  propertyTax : ℚ
  waterTax : ℚ
  drainageTax : ℚ
  penaltyAndInterest : ℚ
  arrearsApplied : ℚ
  amountApplied : ℚ
  yearBalanceAfter : ℚ

/-- The waterfall order. -/
def heads : List AllocationHead := [.arrears, .propertyTax, .waterTax, .drainageTax, .penalty]

/-- The order in which a remainder finds a head. -/
def absorbOrder : List AllocationHead :=
  [.penalty, .drainageTax, .waterTax, .propertyTax, .arrears]

/-- What is left to hand out, and what is noted of the heads so far. -/
structure AllocationLoop where
  remaining : ℚ
  noted : AllocationHead → ℚ := fun _ => 0

/-- One round of a loop over the heads; the two loops of the source differ in what
they note of the amount that a head takes. -/
def pourHead (capacity : AllocationHead → ℚ) (note : AllocationHead → ℚ → ℚ)
    (loop : AllocationLoop) (head : AllocationHead) : AllocationLoop :=
  let taken := min (capacity head) loop.remaining
  { remaining := roundMoney (loop.remaining - taken)
    noted := Function.update loop.noted head (roundMoney (note head taken)) }

/-- `unpaid[head.key] = roundMoney(head.due - skip)` -/
def skipHead (due : AllocationHead → ℚ) : AllocationLoop → AllocationHead → AllocationLoop :=
  pourHead due fun head skip => due head - skip

/-- `applied[head.key] = roundMoney(take)` -/
def takeHead (unpaid : AllocationHead → ℚ) : AllocationLoop → AllocationHead → AllocationLoop :=
  pourHead unpaid fun _ take => take

def sumApplied (applied : AllocationHead → ℚ) : ℚ :=
  roundMoney (applied .arrears + applied .propertyTax + applied .waterTax +
    applied .drainageTax + applied .penalty)

namespace ReceiptAllocationInput
variable (input : ReceiptAllocationInput)

def amountPaidBefore : ℚ := roundMoney (max 0 (input.amountPaidAfter - input.amountReceived))

/-- The rebate reduces the property head. -/
def due : AllocationHead → ℚ
  | .arrears => roundMoney (max 0 input.arrears)
  | .propertyTax => roundMoney (max 0 (input.propertyTax - |input.rebate|))
  | .waterTax => roundMoney (max 0 input.waterTax)
  | .drainageTax => roundMoney (max 0 input.drainageTax)
  | .penalty => roundMoney (max 0 input.penalty)

/-- What earlier payments have left of the heads. -/
def unpaid : AllocationHead → ℚ :=
  (heads.foldl (skipHead input.due) { remaining := input.amountPaidBefore }).noted

/-- What the heads take of this payment. -/
def taken : AllocationHead → ℚ :=
  (heads.foldl (takeHead input.unpaid)
    { remaining := roundMoney (max 0 input.amountReceived) }).noted

def delta : ℚ := roundMoney (input.amountReceived - sumApplied input.taken)

/-- The head that a remainder is put on. -/
def absorbing : Option AllocationHead :=
  absorbOrder.find? fun key =>
    decide (input.taken key > 0) || decide (input.unpaid key > 0) || decide (key = .propertyTax)

def applied : AllocationHead → ℚ :=
  if |input.delta| ≥ 5 / 1000 then
    match input.absorbing with
    | some key => Function.update input.taken key (roundMoney (input.taken key + input.delta))
    | none => input.taken
  else input.taken

end ReceiptAllocationInput

/-- How a payment went to the heads, for display. -/
def buildReceiptAllocation (input : ReceiptAllocationInput) : ReceiptAllocationRow where
  yearLabel := ((input.assessmentYearName.map Js.trim).filter fun name => name ≠ "").getD "—"
  propertyTax := input.applied .propertyTax
  waterTax := input.applied .waterTax
  drainageTax := input.applied .drainageTax
  penaltyAndInterest := input.applied .penalty
  arrearsApplied := input.applied .arrears
  amountApplied := sumApplied input.applied
  yearBalanceAfter := roundMoney (max 0 input.outstandingAfter)

def ReceiptAllocationRow.component (row : ReceiptAllocationRow) : AllocationHead → ℚ
  | .arrears => row.arrearsApplied
  | .propertyTax => row.propertyTax
  | .waterTax => row.waterTax
  | .drainageTax => row.drainageTax
  | .penalty => row.penaltyAndInterest

/-- The allocation that is printed on a receipt. -/
def ReceiptSnapshot.allocationInput (snap : ReceiptSnapshot) : ReceiptAllocationInput where
  propertyTax := snap.propertyTax
  waterTax := snap.waterTax
  drainageTax := snap.drainageTax
  penalty := snap.penalty
  rebate := snap.rebate
  arrears := snap.arrears
  amountPaidAfter := snap.amountPaidAfter
  amountReceived := snap.amountReceived
  outstandingAfter := snap.outstandingAfter
  assessmentYearName := (snap.assessmentYear.map AssessmentYearRef.name).filter fun name =>
    name ≠ "—"

/-! ### The balance before a payment -/

section OutstandingBefore
variable {amountPaidBefore paymentAmount : Money}

/-- On stored amounts the roundings of both formulas do nothing. -/
theorem outstandingBefore_eq (totalPayable : Money) (hBefore : 0 ≤ amountPaidBefore) :
    outstandingBeforeFromSnapshot (toMoney totalPayable)
        (toMoney amountPaidBefore + toMoney paymentAmount) (toMoney paymentAmount)
        (max 0 (toMoney totalPayable - (toMoney amountPaidBefore + toMoney paymentAmount))) =
      let fromPayable := max 0 (toMoney totalPayable - toMoney amountPaidBefore)
      let fromAfter := max 0 (toMoney totalPayable -
        (toMoney amountPaidBefore + toMoney paymentAmount)) + toMoney paymentAmount
      if |fromPayable - fromAfter| ≤ 2 / 100 then fromPayable else fromAfter := by
  have hPaid : roundMoney (max 0 (toMoney amountPaidBefore + toMoney paymentAmount -
      toMoney paymentAmount)) = toMoney amountPaidBefore := by
    rw [add_sub_cancel_right, toMoney_max_zero, max_eq_right hBefore, roundMoney_toMoney]
  have hPayable : roundMoney (max 0 (toMoney totalPayable - toMoney amountPaidBefore)) =
      max 0 (toMoney totalPayable - toMoney amountPaidBefore) := by
    rw [← toMoney_sub, toMoney_max_zero, roundMoney_toMoney]
  have hAfter : roundMoney (max 0 (toMoney totalPayable -
      (toMoney amountPaidBefore + toMoney paymentAmount)) + toMoney paymentAmount) =
      max 0 (toMoney totalPayable - (toMoney amountPaidBefore + toMoney paymentAmount)) +
        toMoney paymentAmount := by
    rw [← toMoney_add, ← toMoney_sub, toMoney_max_zero, ← toMoney_add, roundMoney_toMoney]
  simp only [outstandingBeforeFromSnapshot, hPaid, hPayable, hAfter]

/-- The balance before a payment, from the snapshot that the payment leaves. -/
def balanceToldBefore (totalPayable amountPaidBefore paymentAmount : ℚ) : ℚ :=
  let after := computeOutstandingAfterPayment totalPayable amountPaidBefore paymentAmount
  outstandingBeforeFromSnapshot totalPayable after.amountPaid paymentAmount after.outstanding

/-- An overpayment is told as the balance it paid, unless it is within the tolerance. -/
theorem balanceToldBefore_eq (totalPayable : Money) (hBefore : 0 ≤ amountPaidBefore)
    (hAmount : 0 ≤ paymentAmount) :
    balanceToldBefore (toMoney totalPayable) (toMoney amountPaidBefore) (toMoney paymentAmount) =
      if toMoney paymentAmount ≤ max 0 (toMoney totalPayable - toMoney amountPaidBefore) + 2 / 100
      then max 0 (toMoney totalPayable - toMoney amountPaidBefore) else toMoney paymentAmount := by
  have hPaid : 0 ≤ toMoney paymentAmount := by
    rw [← toMoney_zero, toMoney_le_iff]
    exact hAmount
  unfold balanceToldBefore
  dsimp only
  rw [computeOutstandingAfterPayment_toMoney, outstandingBefore_eq totalPayable hBefore]
  generalize toMoney paymentAmount = paid at *
  generalize hOwed : toMoney totalPayable - toMoney amountPaidBefore = owed
  have hLeft : toMoney totalPayable - (toMoney amountPaidBefore + paid) = owed - paid := by
    rw [← hOwed, sub_sub]
  dsimp only
  rw [hLeft]
  rcases le_or_gt paid owed with hCovered | hOver
  · -- Both formulas give what was owed.
    have hSame : max 0 (owed - paid) + paid = max 0 owed := by
      rw [max_eq_right (sub_nonneg.mpr hCovered), max_eq_right (hPaid.trans hCovered),
        sub_add_cancel]
    have hNear : paid ≤ max 0 owed + 2 / 100 := by
      rw [max_eq_right (hPaid.trans hCovered)]
      linarith
    rw [hSame, ite_self, if_pos hNear]
  · -- The clamped balance after hides how much was owed before.
    have hBelow : max 0 owed ≤ paid := max_le hPaid hOver.le
    have hDistance : |max 0 owed - paid| = paid - max 0 owed := by
      rw [abs_sub_comm, abs_of_nonneg (sub_nonneg.mpr hBelow)]
    rw [max_eq_left (sub_nonpos.mpr hOver.le), zero_add, hDistance]
    simp only [sub_le_iff_le_add']

/-- The balance before a payment is told as it was when the payment is less than two paise above
it, and not when it is more than two paise above it. -/
theorem balance_told_within_tolerance (totalPayable : Money) (hBefore : 0 ≤ amountPaidBefore)
    (hAmount : 0 ≤ paymentAmount) :
    (toMoney paymentAmount < max 0 (toMoney totalPayable - toMoney amountPaidBefore) + 2 / 100 →
      balanceToldBefore (toMoney totalPayable) (toMoney amountPaidBefore)
        (toMoney paymentAmount) = max 0 (toMoney totalPayable - toMoney amountPaidBefore)) ∧
    (max 0 (toMoney totalPayable - toMoney amountPaidBefore) + 2 / 100 < toMoney paymentAmount →
      balanceToldBefore (toMoney totalPayable) (toMoney amountPaidBefore)
        (toMoney paymentAmount) ≠ max 0 (toMoney totalPayable - toMoney amountPaidBefore)) := by
  rw [balanceToldBefore_eq totalPayable hBefore hAmount]
  constructor
  · intro hNear
    exact if_pos hNear.le
  · intro hFar
    rw [if_neg (not_le.mpr hFar)]
    intro hEqual
    rw [← hEqual] at hFar
    linarith

/-- A balance of 400 rupees that is paid to the paisa, and one that is paid one paisa over. -/
theorem balance_told_within_tolerance_whole :
    balanceToldBefore (toMoney 50000) (toMoney 10000) (toMoney 40000) =
        max 0 (toMoney 50000 - toMoney 10000) ∧
      balanceToldBefore (toMoney 50000) (toMoney 10000) (toMoney 40001) =
        max 0 (toMoney 50000 - toMoney 10000) :=
  ⟨(balance_told_within_tolerance 50000 (by decide) (by decide)).1 (by decide +kernel),
    (balance_told_within_tolerance 50000 (by decide) (by decide)).1 (by decide +kernel)⟩

/-- A balance of 100 rupees, paid twice over, is told as 200. -/
theorem overpaid_balance_misreported : ¬ ∀ totalPayable amountPaidBefore paymentAmount : Money,
    0 ≤ totalPayable → 0 ≤ amountPaidBefore → 0 ≤ paymentAmount →
      balanceToldBefore (toMoney totalPayable) (toMoney amountPaidBefore)
        (toMoney paymentAmount) = max 0 (toMoney totalPayable - toMoney amountPaidBefore) := by
  intro hLaw
  exact absurd (hLaw 10000 0 20000 (by decide) (by decide) (by decide)) (by decide +kernel)

end OutstandingBefore

/-! ### The loops -/

section Loops
variable {capacity : AllocationHead → ℚ} {note : AllocationHead → ℚ → ℚ}
  {keys : List AllocationHead} {loop : AllocationLoop}

theorem noted_pourHead_of_not_mem {j : AllocationHead} (h : j ∉ keys) :
    (keys.foldl (pourHead capacity note) loop).noted j = loop.noted j := by
  induction keys generalizing loop with
  | nil => rfl
  | cons k keys ih =>
      rw [List.foldl_cons, ih (List.not_mem_of_not_mem_cons h)]
      exact Function.update_of_ne (List.ne_of_not_mem_cons h) _ _

/-- A loop over the heads notes what the waterfall gives each of them. -/
theorem noted_pourHead {j : AllocationHead} (hKeys : keys.Nodup) (hj : j ∈ keys)
    (hCapacity : ∀ k, InPaise (capacity k)) (hRemaining : InPaise loop.remaining) :
    (keys.foldl (pourHead capacity note) loop).noted j =
      roundMoney (note j (pour capacity keys loop.remaining j)) := by
  induction keys generalizing loop with
  | nil => cases hj
  | cons k keys ih =>
      obtain ⟨hFirst, hRest⟩ := List.nodup_cons.mp hKeys
      have hPassed : InPaise (loop.remaining - min (capacity k) loop.remaining) :=
        hRemaining.sub ((hCapacity k).min hRemaining)
      rw [List.foldl_cons]
      by_cases hHead : j = k
      · subst hHead
        rw [noted_pourHead_of_not_mem hFirst, pour_cons_self]
        exact Function.update_self ..
      · have hRound : (pourHead capacity note loop k).remaining =
            loop.remaining - min (capacity k) loop.remaining := hPassed.roundMoney_eq
        rw [ih hRest (List.mem_of_ne_of_mem hHead hj) (hRound ▸ hPassed), hRound,
          pour_cons_of_ne hHead]

end Loops

/-- No head is listed twice. -/
theorem nodup_heads : heads.Nodup := by decide

/-- Every head is listed. -/
theorem mem_heads (head : AllocationHead) : head ∈ heads := by cases head <;> decide

/-- The receipt shows for each head what is applied to it. -/
theorem component_buildReceiptAllocation (input : ReceiptAllocationInput) (head : AllocationHead) :
    (buildReceiptAllocation input).component head = input.applied head := by
  cases head <;> rfl

namespace ReceiptAllocationInput
variable (input : ReceiptAllocationInput)

/-- Dues are in whole paise. -/
theorem inPaise_due (head : AllocationHead) : InPaise (input.due head) := by
  cases head <;> exact inPaise_roundMoney _

theorem due_nonneg (head : AllocationHead) : 0 ≤ input.due head := by
  cases head <;> exact roundMoney_nonneg_of (le_max_left 0 _)

/-- Whole paise are poured from and into whole paise. -/
theorem inPaise_pour {capacity : AllocationHead → ℚ} (hCapacity : ∀ k, InPaise (capacity k))
    (keys : List AllocationHead) {amount : ℚ} (h : InPaise amount) (j : AllocationHead) :
    InPaise (pour capacity keys amount j) := by
  induction keys generalizing amount with
  | nil => exact inPaise_zero
  | cons k keys ih =>
      unfold pour
      split_ifs
      · exact (hCapacity k).min h
      · exact ih (h.sub ((hCapacity k).min h))

/-- A head's unpaid part is its due less what earlier payments poured into it. -/
theorem unpaid_eq (head : AllocationHead) :
    input.unpaid head = input.due head - pour input.due heads input.amountPaidBefore head := by
  have hBefore : InPaise input.amountPaidBefore := inPaise_roundMoney _
  have hLeft : InPaise (input.due head - pour input.due heads input.amountPaidBefore head) :=
    (input.inPaise_due head).sub (inPaise_pour input.inPaise_due heads hBefore head)
  rw [unpaid, skipHead, noted_pourHead nodup_heads (mem_heads head) input.inPaise_due hBefore]
  exact hLeft.roundMoney_eq

/-- Unpaid parts are in whole paise. -/
theorem inPaise_unpaid (head : AllocationHead) : InPaise (input.unpaid head) := by
  rw [unpaid_eq]
  exact (input.inPaise_due head).sub
    (inPaise_pour input.inPaise_due heads (inPaise_roundMoney _) head)

theorem unpaid_nonneg (head : AllocationHead) : 0 ≤ input.unpaid head := by
  rw [unpaid_eq]
  exact sub_nonneg.mpr (pour_le input.due_nonneg _ head)

variable {input}

/-- A head takes what the rounded amount pours into its unpaid part. -/
theorem taken_eq (h : 0 ≤ input.amountReceived) (head : AllocationHead) :
    input.taken head = pour input.unpaid heads (roundMoney input.amountReceived) head := by
  have hReceived : InPaise (roundMoney input.amountReceived) := inPaise_roundMoney _
  rw [taken, max_eq_right h, takeHead,
    noted_pourHead nodup_heads (mem_heads head) input.inPaise_unpaid hReceived]
  exact (inPaise_pour input.inPaise_unpaid heads hReceived head).roundMoney_eq

/-! ### The remainder -/

/-- Amounts in whole paise are summed without rounding. -/
theorem sumApplied_eq {amounts : AllocationHead → ℚ} (h : ∀ head, InPaise (amounts head)) :
    sumApplied amounts = (heads.map amounts).sum := by
  have hSum : (heads.map amounts).sum = amounts .arrears + amounts .propertyTax +
      amounts .waterTax + amounts .drainageTax + amounts .penalty := by
    simp only [heads, List.map_cons, List.map_nil, List.sum_cons, List.sum_nil]
    ring
  rw [sumApplied, hSum]
  exact ((((h _).add (h _)).add (h _)).add (h _)).add (h _) |>.roundMoney_eq

/-- More for one head is more for the sum. -/
theorem sum_update (amounts : AllocationHead → ℚ) (head : AllocationHead) (extra : ℚ) :
    (heads.map (Function.update amounts head (amounts head + extra))).sum =
      (heads.map amounts).sum + extra := by
  cases head <;> simp [heads] <;> ring

section Received
variable (h : 0 ≤ input.amountReceived)
include h

/-- What is taken is in whole paise. -/
theorem inPaise_taken (head : AllocationHead) : InPaise (input.taken head) := by
  rw [taken_eq h]
  exact inPaise_pour input.inPaise_unpaid heads (inPaise_roundMoney _) head

theorem taken_nonneg (head : AllocationHead) : 0 ≤ input.taken head := by
  rw [taken_eq h]
  exact pour_nonneg input.unpaid_nonneg (roundMoney_nonneg_of h) head

/-- The heads take the rounded amount, or all that is unpaid. -/
theorem sum_taken : (heads.map input.taken).sum =
    min (heads.map input.unpaid).sum (roundMoney input.amountReceived) := by
  rw [← sum_pour input.unpaid_nonneg nodup_heads (roundMoney_nonneg_of h)]
  exact congrArg List.sum (List.map_congr_left fun head _ => taken_eq h head)

/-- The remainder is what the unpaid heads could not take of the rounded payment. -/
theorem delta_eq : input.delta =
    roundMoney input.amountReceived - (heads.map input.taken).sum := by
  have hTaken : InPaise (-(heads.map input.taken).sum) := by
    rw [← sumApplied_eq (inPaise_taken h), ← zero_sub]
    exact inPaise_zero.sub (inPaise_roundMoney _)
  rw [delta, sumApplied_eq (inPaise_taken h), sub_eq_neg_add, hTaken.roundMoney_add,
    neg_add_eq_sub]

theorem delta_nonneg : 0 ≤ input.delta := by
  rw [delta_eq h, sum_taken h]
  exact sub_nonneg.mpr (min_le_right _ _)

/-- A remainder goes to one head in full. -/
theorem applied_cases : input.applied = input.taken ∧ input.delta = 0 ∨
    ∃ head, input.applied =
      Function.update input.taken head (input.taken head + input.delta) := by
  unfold applied
  split_ifs with hLarge
  · cases hHead : input.absorbing with
    | none =>
        have hProperty := List.find?_eq_none.mp hHead .propertyTax (by decide)
        simp at hProperty
    | some head =>
        have hDelta : InPaise input.delta := inPaise_roundMoney _
        refine .inr ⟨head, ?_⟩
        dsimp only
        rw [((inPaise_taken h head).add hDelta).roundMoney_eq]
  · refine .inl ⟨rfl, ?_⟩
    obtain ⟨paise, hPaise⟩ : ∃ paise : ℤ, input.delta = toMoney paise := inPaise_roundMoney _
    have hSmall := abs_lt.mp (not_le.mp hLarge)
    rw [hPaise, toMoney, FixedPoint.toNumber] at hSmall ⊢
    have hNone : paise = 0 := by
      have hUpper : (paise : ℚ) < 1 := by linarith
      have hLower : (-1 : ℚ) < paise := by linarith
      have hUpper' : paise < 1 := by exact_mod_cast hUpper
      have hLower' : -1 < paise := by exact_mod_cast hLower
      omega
    rw [hNone]
    norm_num

theorem applied_nonneg (head : AllocationHead) : 0 ≤ input.applied head := by
  obtain ⟨hApplied, -⟩ | ⟨absorbing, hApplied⟩ := applied_cases h
  · rw [hApplied]
    exact taken_nonneg h head
  · rw [hApplied, Function.update_apply]
    split_ifs
    · exact add_nonneg (taken_nonneg h absorbing) (delta_nonneg h)
    · exact taken_nonneg h head

/-- What is applied is in whole paise. -/
theorem inPaise_applied (head : AllocationHead) : InPaise (input.applied head) := by
  obtain ⟨hApplied, -⟩ | ⟨absorbing, hApplied⟩ := applied_cases h
  · rw [hApplied]
    exact inPaise_taken h head
  · rw [hApplied, Function.update_apply]
    split_ifs
    · exact (inPaise_taken h absorbing).add (inPaise_roundMoney _)
    · exact inPaise_taken h head

/-- Every paisa of the rounded payment is on one head. -/
theorem sum_applied : (heads.map input.applied).sum = roundMoney input.amountReceived := by
  have hTotal : (heads.map input.taken).sum + input.delta = roundMoney input.amountReceived := by
    rw [delta_eq h, add_sub_cancel]
  obtain ⟨hApplied, hNone⟩ | ⟨head, hApplied⟩ := applied_cases h
  · rw [hApplied, ← hTotal, hNone, add_zero]
  · rw [hApplied, sum_update, hTotal]

variable (input) in
/-- Nothing remains of a payment that the heads can hold. What they take of it is
the difference of two waterfalls: all that was paid up to it, and all before. -/
theorem applied_eq_of_fits (hPaise : InPaise input.amountReceived)
    (hFits : input.amountPaidBefore + input.amountReceived ≤ (heads.map input.due).sum)
    (head : AllocationHead) :
    input.applied head =
      pour input.due heads (input.amountPaidBefore + input.amountReceived) head -
        pour input.due heads input.amountPaidBefore head := by
  have hBefore : 0 ≤ input.amountPaidBefore := roundMoney_nonneg_of (le_max_left 0 _)
  have hSkipped : (heads.map fun head => pour input.due heads input.amountPaidBefore head).sum =
      input.amountPaidBefore := by
    rw [sum_pour input.due_nonneg nodup_heads hBefore, min_eq_right (by linarith)]
  have hUnpaid : (heads.map input.due).sum =
      (heads.map input.unpaid).sum + input.amountPaidBefore := by
    rw [← hSkipped, ← List.sum_map_add]
    refine congrArg List.sum (List.map_congr_left fun head _ => ?_)
    rw [input.unpaid_eq head, sub_add_cancel]
  have hNone : input.delta = 0 := by
    rw [delta_eq h, sum_taken h, hPaise.roundMoney_eq, min_eq_right (by linarith), sub_self]
  have hTaken : input.taken head =
      pour input.due heads (input.amountPaidBefore + input.amountReceived) head -
        pour input.due heads input.amountPaidBefore head := by
    rw [taken_eq h, hPaise.roundMoney_eq, pour_congr fun k _ => input.unpaid_eq k,
      pour_pour nodup_heads _ h]
  rw [← hTaken]
  obtain ⟨hApplied, -⟩ | ⟨absorbing, hApplied⟩ := applied_cases h
  · rw [hApplied]
  · rw [hApplied, hNone, add_zero, Function.update_eq_self]

end Received

variable (input) in
/-- The components of the receipt add up to the payment that it names. -/
structure AllocatesReceived : Prop where
  nonneg : ∀ head, 0 ≤ (buildReceiptAllocation input).component head
  sum : (heads.map (buildReceiptAllocation input).component).sum =
    (buildReceiptAllocation input).amountApplied
  amount : (buildReceiptAllocation input).amountApplied = input.amountReceived

/-- A receipt allocates what was received exactly when that is in whole paise. -/
theorem allocatesReceived_iff (h : 0 ≤ input.amountReceived) :
    input.AllocatesReceived ↔ InPaise input.amountReceived := by
  have hComponents : (buildReceiptAllocation input).component = input.applied :=
    funext (component_buildReceiptAllocation input)
  have hApplied : (buildReceiptAllocation input).amountApplied =
      roundMoney input.amountReceived := by
    rw [← sum_applied h, ← sumApplied_eq (inPaise_applied h)]
    rfl
  constructor
  · intro hWhole
    rw [← hWhole.amount, hApplied]
    exact inPaise_roundMoney _
  · intro hPaise
    refine ⟨?_, ?_, by rw [hApplied, hPaise.roundMoney_eq]⟩
    · rw [hComponents]
      exact applied_nonneg h
    · rw [hComponents, hApplied, sum_applied h]

end ReceiptAllocationInput

/-! ### Successive payments -/

/-- A payment on a demand, with what else its receipt names. -/
structure Instalment where
  amount : ℚ
  assessmentYear : Option AssessmentYearRef := none
  surveyId : Option Id := none
  municipalSurveyId : Option String := none
  paymentMode : PaymentMode
  receiptNumber : String
  paidAt : Timestamp

namespace PropertyDemand
variable (demand : PropertyDemand)

def balanceAfter (instalment : Instalment) : Balance :=
  computeOutstandingAfterPayment (toMoney demand.totalPayable) (toMoney demand.amountPaid)
    instalment.amount

def receipt (instalment : Instalment) : ReceiptSnapshot :=
  buildReceiptSnapshot demand instalment.amount (demand.balanceAfter instalment)
    instalment.assessmentYear instalment.surveyId instalment.municipalSurveyId
    instalment.paymentMode instalment.receiptNumber instalment.paidAt

/-- The receipts of payments that follow each other. -/
def receipts : PropertyDemand → List Instalment → List ReceiptSnapshot
  | _, [] => []
  | demand, instalment :: rest =>
      demand.receipt instalment ::
        receipts (demand.withBalance (demand.balanceAfter instalment)) rest

/-- What is due under each head, in paise. -/
def headDue : AllocationHead → Money
  | .arrears => max 0 demand.arrears
  | .propertyTax => max 0 (demand.propertyTax - |demand.rebate|)
  | .waterTax => max 0 demand.waterTax
  | .drainageTax => max 0 demand.drainageTax
  | .penalty => max 0 demand.penalty

variable {demand} {instalment : Instalment}

/-- A receipt's dues are those of its demand. -/
theorem due_receipt : (demand.receipt instalment).allocationInput.due =
    fun head => toMoney (demand.headDue head) := by
  have hRebate : toMoney demand.propertyTax - |toMoney demand.rebate| =
      toMoney (demand.propertyTax - |demand.rebate|) := by
    rw [toMoney_sub, toMoney, toMoney, toMoney, FixedPoint.toNumber, FixedPoint.toNumber,
      FixedPoint.toNumber]
    simp [abs_div]
  have hColumn : ∀ column : Money,
      roundMoney (max 0 (toMoney column)) = toMoney (max 0 column) := by
    intro column
    rw [toMoney_max_zero, roundMoney_toMoney]
  funext head
  cases head with
  | propertyTax =>
      change roundMoney (max 0 (toMoney demand.propertyTax - |toMoney demand.rebate|)) = _
      rw [hRebate, hColumn]
      rfl
  | _ => exact hColumn _

/-- A payment changes the balance, not the dues. -/
theorem headDue_withBalance (balance : Balance) :
    (demand.withBalance balance).headDue = demand.headDue := by
  funext head
  cases head <;> rfl

variable (demand) in
/-- The receipts name the instalments' amounts. -/
theorem amountReceived_receipts (instalments : List Instalment) :
    (demand.receipts instalments).map ReceiptSnapshot.amountReceived =
      instalments.map Instalment.amount := by
  induction instalments generalizing demand with
  | nil => rfl
  | cons instalment rest ih =>
      rw [receipts, List.map_cons, List.map_cons, ih]
      rfl

section Paise
variable (hPaise : InPaise instalment.amount)
include hPaise

variable (demand) in
/-- After an instalment, its amount has been paid on top. -/
theorem amountPaid_withBalance :
    toMoney (demand.withBalance (demand.balanceAfter instalment)).amountPaid =
      toMoney demand.amountPaid + instalment.amount := by
  obtain ⟨amount, hAmount⟩ := hPaise
  rw [balanceAfter, hAmount, withBalance_eq_credit_stored, credit_amountPaid, toMoney_add]

/-- A receipt knows what was paid before it. -/
theorem amountPaidBefore_receipt (h : 0 ≤ demand.amountPaid) :
    (demand.receipt instalment).allocationInput.amountPaidBefore = toMoney demand.amountPaid := by
  obtain ⟨amount, hAmount⟩ := hPaise
  change roundMoney (max 0 ((demand.balanceAfter instalment).amountPaid - instalment.amount)) = _
  rw [balanceAfter, hAmount, computeOutstandingAfterPayment_toMoney, add_sub_cancel_right,
    toMoney_max_zero, max_eq_right h, roundMoney_toMoney]

/-- A payment that the heads can hold is applied between two waterfalls. -/
theorem component_receipt (hBefore : 0 ≤ demand.amountPaid) (hAmount : 0 ≤ instalment.amount)
    (hFits : toMoney demand.amountPaid + instalment.amount ≤
      (heads.map fun head => toMoney (demand.headDue head)).sum) (head : AllocationHead) :
    (buildReceiptAllocation (demand.receipt instalment).allocationInput).component head =
      pour (fun head => toMoney (demand.headDue head)) heads
          (toMoney demand.amountPaid + instalment.amount) head -
        pour (fun head => toMoney (demand.headDue head)) heads
          (toMoney demand.amountPaid) head := by
  have hApplied := ReceiptAllocationInput.applied_eq_of_fits
    (demand.receipt instalment).allocationInput hAmount hPaise
  rw [due_receipt, amountPaidBefore_receipt hPaise hBefore] at hApplied
  rw [component_buildReceiptAllocation]
  exact hApplied hFits head

end Paise

/-- The receipts of a list of payments together apply what lies between the first
balance and the last. -/
theorem sum_component_receipts (instalments : List Instalment) (hBefore : 0 ≤ demand.amountPaid)
    (hPaise : ∀ instalment ∈ instalments, InPaise instalment.amount)
    (hAmounts : ∀ instalment ∈ instalments, 0 ≤ instalment.amount)
    (hFits : toMoney demand.amountPaid + (instalments.map Instalment.amount).sum ≤
      (heads.map fun head => toMoney (demand.headDue head)).sum) (head : AllocationHead) :
    ((demand.receipts instalments).map fun snap =>
        (buildReceiptAllocation snap.allocationInput).component head).sum =
      pour (fun head => toMoney (demand.headDue head)) heads
          (toMoney demand.amountPaid + (instalments.map Instalment.amount).sum) head -
        pour (fun head => toMoney (demand.headDue head)) heads
          (toMoney demand.amountPaid) head := by
  induction instalments generalizing demand with
  | nil => simp [receipts]
  | cons instalment rest ih =>
      have hFirst : 0 ≤ instalment.amount := hAmounts instalment List.mem_cons_self
      have hFirstPaise : InPaise instalment.amount := hPaise instalment List.mem_cons_self
      have hRest : ∀ other ∈ rest, 0 ≤ other.amount := fun other hOther =>
        hAmounts other (List.mem_cons_of_mem _ hOther)
      have hLater : 0 ≤ (rest.map Instalment.amount).sum :=
        List.sum_nonneg (by simpa using hRest)
      have hAfter := amountPaid_withBalance demand hFirstPaise
      have hNonneg : 0 ≤ (demand.withBalance (demand.balanceAfter instalment)).amountPaid := by
        rw [← toMoney_le_iff, toMoney_zero, hAfter]
        rw [← toMoney_le_iff, toMoney_zero] at hBefore
        exact add_nonneg hBefore hFirst
      rw [List.map_cons, List.sum_cons, ← add_assoc] at hFits ⊢
      rw [receipts, List.map_cons, List.sum_cons, component_receipt hFirstPaise hBefore hFirst
        (by linarith), ih hNonneg (fun other hOther => hPaise other (List.mem_cons_of_mem _ hOther))
        hRest (by rw [hAfter, headDue_withBalance]; exact hFits), hAfter, headDue_withBalance]
      ring

variable (demand) in
/-- The receipts of successive payments allocate each of them, and to the heads
together what one receipt of the whole amount would. -/
structure ReceiptsAddUp (instalments : List Instalment) (whole : Instalment) : Prop where
  each : ∀ snap ∈ demand.receipts instalments, snap.allocationInput.AllocatesReceived
  together : ∀ head,
    ((demand.receipts instalments).map fun snap =>
        (buildReceiptAllocation snap.allocationInput).component head).sum =
      (buildReceiptAllocation (demand.receipt whole).allocationInput).component head
  within : ∀ head,
    ((demand.receipts instalments).map fun snap =>
        (buildReceiptAllocation snap.allocationInput).component head).sum ≤
      toMoney (demand.headDue head)

/-- Instalments in whole paise come to whole paise. -/
theorem inPaise_total {instalments : List Instalment}
    (h : ∀ instalment ∈ instalments, InPaise instalment.amount) :
    InPaise (instalments.map Instalment.amount).sum := by
  induction instalments with
  | nil => exact inPaise_zero
  | cons instalment rest ih =>
      rw [List.map_cons, List.sum_cons]
      exact (h instalment List.mem_cons_self).add
        (ih fun other hOther => h other (List.mem_cons_of_mem _ hOther))

/-- The receipts of successive payments add up exactly when the instalments are in whole paise, or
as good as. -/
theorem receiptsAddUp_iff {instalments : List Instalment} {whole : Instalment}
    (hBefore : 0 ≤ demand.amountPaid)
    (hAmounts : ∀ instalment ∈ instalments, 0 ≤ instalment.amount)
    (hWhole : whole.amount = (instalments.map Instalment.amount).sum)
    (hFits : toMoney demand.amountPaid + whole.amount ≤
      (heads.map fun head => toMoney (demand.headDue head)).sum) :
    demand.ReceiptsAddUp instalments whole ↔
      ∀ instalment ∈ instalments, InPaise instalment.amount := by
  have hReceived := amountReceived_receipts demand instalments
  constructor
  · intro hAddUp instalment hMem
    have hSnap : instalment.amount ∈
        (demand.receipts instalments).map ReceiptSnapshot.amountReceived := by
      rw [hReceived]
      exact List.mem_map_of_mem hMem
    obtain ⟨snap, hSnapMem, hAmount⟩ := List.mem_map.mp hSnap
    rw [← hAmount]
    refine (ReceiptAllocationInput.allocatesReceived_iff ?_).mp (hAddUp.each snap hSnapMem)
    change 0 ≤ snap.amountReceived
    rw [hAmount]
    exact hAmounts instalment hMem
  · intro hPaise
    have hTotal : 0 ≤ whole.amount := by
      rw [hWhole]
      exact List.sum_nonneg (by simpa using hAmounts)
    have hStart : 0 ≤ toMoney demand.amountPaid := by
      rw [← toMoney_zero, toMoney_le_iff]
      exact hBefore
    have hCapacity : ∀ head, 0 ≤ toMoney (demand.headDue head) := by
      intro head
      rw [← toMoney_zero, toMoney_le_iff]
      cases head <;> exact le_max_left 0 _
    have hSum := sum_component_receipts instalments hBefore hPaise hAmounts (hWhole ▸ hFits)
    refine ⟨fun snap hSnap => ?_, fun head => ?_, fun head => ?_⟩
    · have hMem : snap.amountReceived ∈ instalments.map Instalment.amount := by
        rw [← hReceived]
        exact List.mem_map_of_mem hSnap
      obtain ⟨instalment, hInstalment, hAmount⟩ := List.mem_map.mp hMem
      have hNonneg : 0 ≤ snap.amountReceived := hAmount ▸ hAmounts instalment hInstalment
      exact (ReceiptAllocationInput.allocatesReceived_iff hNonneg).mpr
        (hAmount ▸ hPaise instalment hInstalment :)
    · rw [hSum, ← hWhole, component_receipt (hWhole ▸ inPaise_total hPaise) hBefore hTotal hFits]
    · rw [hSum, ← hWhole]
      have hFirst : 0 ≤ pour (fun head => toMoney (demand.headDue head)) heads
          (toMoney demand.amountPaid) head := pour_nonneg hCapacity hStart head
      have hLast : pour (fun head => toMoney (demand.headDue head)) heads
          (toMoney demand.amountPaid + whole.amount) head ≤ toMoney (demand.headDue head) :=
        pour_le hCapacity _ head
      linarith

end PropertyDemand

/-- Receipts allocate what was received, to the paisa, exactly when the amounts
received are in whole paise. -/
theorem receipts_allocate_iff (input : ReceiptAllocationInput) (demand : PropertyDemand)
    (instalments : List Instalment) (whole : Instalment) :
    (0 ≤ input.amountReceived →
      (input.AllocatesReceived ↔ InPaise input.amountReceived)) ∧
    (0 ≤ demand.amountPaid → (∀ instalment ∈ instalments, 0 ≤ instalment.amount) →
      whole.amount = (instalments.map Instalment.amount).sum →
      toMoney demand.amountPaid + whole.amount ≤
        (heads.map fun head => toMoney (demand.headDue head)).sum →
      (demand.ReceiptsAddUp instalments whole ↔
        ∀ instalment ∈ instalments, InPaise instalment.amount)) :=
  ⟨fun h => ReceiptAllocationInput.allocatesReceived_iff h,
    fun hBefore hAmounts hWhole hFits =>
      PropertyDemand.receiptsAddUp_iff hBefore hAmounts hWhole hFits⟩

namespace Sample

def taxedDemand : PropertyDemand where
  id := 1
  surveyId := 10
  assessmentYearId := 20
  status := .published
  propertyTax := 80000
  waterTax := 20000
  currentDemand := 100000
  totalPayable := 100000
  outstanding := 100000

def cashInstalment (amount : ℚ) : Instalment where
  amount := amount
  paymentMode := .cash
  receiptNumber := "R-1"
  paidAt := 0

end Sample

/-- A counter payment of 100.125 rupees is received as such and applied as 100.13. -/
theorem eighth_of_a_rupee_not_allocated :
    ¬ ∀ (demand : PropertyDemand) (instalment : Instalment),
      (∀ column ∈ [demand.arrears, demand.propertyTax, demand.waterTax, demand.drainageTax,
        demand.penalty, demand.rebate], 0 ≤ column) →
      0 ≤ instalment.amount → (demand.receipt instalment).allocationInput.AllocatesReceived := by
  intro hLaw
  have hAllocated := hLaw Sample.taxedDemand (Sample.cashInstalment (801 / 8)) (by decide)
    (by decide +kernel)
  exact absurd hAllocated.amount (by decide +kernel)

/-- 900 rupees in two payments, against one of 900. -/
theorem receipts_allocate_two : Sample.taxedDemand.ReceiptsAddUp
    [Sample.cashInstalment (toMoney 50000), Sample.cashInstalment (toMoney 40000)]
    (Sample.cashInstalment (toMoney 90000)) := by
  refine ((receipts_allocate_iff (Sample.taxedDemand.receipt
    (Sample.cashInstalment (toMoney 50000))).allocationInput _ _ _).2 (by decide) ?_
    (by decide +kernel) (by decide +kernel)).mpr ?_
  · simp only [List.forall_mem_cons]
    exact ⟨by decide +kernel, by decide +kernel, by simp⟩
  · simp only [List.forall_mem_cons]
    exact ⟨⟨50000, rfl⟩, ⟨40000, rfl⟩, by simp⟩

end PropertyTax
