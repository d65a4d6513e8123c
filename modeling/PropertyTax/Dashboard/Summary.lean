import PropertyTax.Dashboard.TaxDemand
import PropertyTax.Ledger.Reconciled
import PropertyTax.Library.Groups
import PropertyTax.Surveys.Store

/-! The summary of the dashboard: its cards, its rows by ward, and how both agree with
each other and with the ledger. The recent attachments are left out. -/
namespace PropertyTax
open Groups KeyedFold KeyedTable Runs

/-! ### The summary -/

structure DashboardWard where
  id : Id
  number : ℤ
  code : String
  name : String
  isActive : Bool

/-- What a summary reads besides the payments. `taxColumns` are the columns of a survey
that its tax is computed from. -/
structure DashboardSources where
  surveys : List Surveys.Survey
  taxColumns : Surveys.Survey → Survey
  wards : List DashboardWard
  taxConfigs : List TaxConfig
  billing : Billing
  arrangeWards : Arrangement Id
  arrangeMoney : Arrangement (Option Id × PaymentMode)
  arrangePending : Arrangement (Option Id)

structure WardMoney where
  online : ℚ
  offline : ℚ
  total : ℚ

inductive WardSurveyStatus where
  | pending | completed
deriving DecidableEq

def wardSurveyStatus (surveyCount : Nat) : WardSurveyStatus :=
  if 0 < surveyCount then .completed else .pending

structure WardBreakdownRow where
  ward : DashboardWard
  surveyCount : Nat
  onlineCollection : ℚ
  offlineCollection : ℚ
  pendingCollection : ℚ
  totalCollection : ℚ
  demand : WardTaxDemand
  assessmentYearName : Option String
  status : WardSurveyStatus

structure DashboardSummary where
  totalProperties : Nat
  draftSurveys : Nat
  activeSurveys : Nat
  archivedSurveys : Nat
  completeQuality : Nat
  needsReviewQuality : Nat
  totalWards : Nat
  wardsWithSurveys : Nat
  wardsInProgress : Nat
  totalCollection : ℚ
  onlineCollection : ℚ
  offlineCollection : ℚ
  pendingCollection : ℚ
  pendingPayments : Nat
  successPayments : Nat
  failedPayments : Nat
  taxDemand : TaxDemandAggregate
  wardBreakdown : List WardBreakdownRow

/-- The cards of a summary add up, its rows do, and its demand is theirs. Money is compared
in paise: the rows of the code are sums of doubles that it does not round. -/
structure DashboardSummary.AddsUp (summary : DashboardSummary) : Prop where
  collection : roundMoney summary.totalCollection =
    roundMoney summary.onlineCollection + roundMoney summary.offlineCollection
  surveys : summary.totalProperties =
    summary.draftSurveys + summary.activeSurveys + summary.archivedSurveys
  rows : ∀ row ∈ summary.wardBreakdown,
    roundMoney row.totalCollection =
      roundMoney row.onlineCollection + roundMoney row.offlineCollection
  demand : summary.taxDemand.SaysOf (summary.wardBreakdown.map WardBreakdownRow.demand)

namespace DashboardService
variable (sources : DashboardSources) (payments : List Payment) (wardId? : Option Id)

def surveyWhere (survey : Surveys.Survey) : Bool :=
  survey.deletedAt.isNone && decide (survey.status ≠ .deleted) &&
    wardId?.all fun wardId => survey.wardId = wardId

def paymentWhere (payment : Payment) : Bool :=
  wardId?.all fun wardId => payment.wardId = some wardId

def successPaymentWhere (payment : Payment) : Bool :=
  paymentWhere wardId? payment && decide (payment.status = .success)

def pendingPaymentWhere (payment : Payment) : Bool :=
  paymentWhere wardId? payment &&
    (decide (payment.status = .pending) || decide (payment.status = .initiated))

/-- `Number(aggregate._sum.amount ?? 0)` -/
def sumAmount (rows : List Payment) : ℚ := toMoney (rows.map Payment.amount).sum

/-- One turn of the loop that fills `moneyByWard`. A sum of doubles stands for the amount in paise
that it shows as. -/
def addPaymentGroup (moneyByWard : Id → Option WardMoney)
    (row : (Option Id × PaymentMode) × List Payment) : Id → Option WardMoney :=
  match row.1.1 with
  | none => moneyByWard
  | some wardId =>
      let current := (moneyByWard wardId).getD ⟨0, 0, 0⟩
      let amount := sumAmount row.2
      let current :=
        if row.1.2 = .online then { current with online := current.online + amount }
        else { current with offline := current.offline + amount }
      Function.update moneyByWard wardId (some { current with total := current.total + amount })

def surveysFound : List Surveys.Survey := sources.surveys.filter (surveyWhere wardId?)

def wardsFound : List DashboardWard :=
  (sources.wards.filter fun ward =>
    ward.isActive && wardId?.all fun wardId => ward.id = wardId).mergeSort fun a b =>
      decide (a.number ≤ b.number)

def publishedConfigs : List TaxConfig :=
  sources.taxConfigs.filter fun config =>
    decide (config.status = .published) && wardId?.all fun wardId => config.wardId = wardId

def configsByWardId : Id → Option (List TaxConfig) :=
  (publishedConfigs sources wardId?).foldl
    (touch TaxConfig.wardId fun list config => list.getD [] ++ [config]) fun _ => none

def taxDemand : TaxDemandAggregate :=
  aggregateTaxDemand sources.billing
    { wardIds := (wardsFound sources wardId?).map DashboardWard.id
      surveys := (surveysFound sources wardId?).map sources.taxColumns
      configsByWardId := configsByWardId sources wardId? }

def countByWard (wardId : Id) : Nat :=
  ((rowsOf? (groupBy sources.arrangeWards Surveys.Survey.wardId
    (surveysFound sources wardId?)) wardId).map List.length).getD 0

-- `wardId: { not: null }` stands in the place of the ward that was asked for.
def moneyByWard : Id → Option WardMoney :=
  (groupBy sources.arrangeMoney (fun payment => (payment.wardId, payment.paymentMode))
    (payments.filter fun payment =>
      successPaymentWhere none payment && payment.wardId.isSome)).foldl addPaymentGroup
    fun _ => none

def pendingByWard (wardId : Id) : ℚ :=
  ((rowsOf? (groupBy sources.arrangePending Payment.wardId (payments.filter fun payment =>
    pendingPaymentWhere none payment && payment.wardId.isSome)) (some wardId)).map
      sumAmount).getD 0

def wardRow (ward : DashboardWard) : WardBreakdownRow :=
  let surveyCount := countByWard sources wardId? ward.id
  let money := (moneyByWard sources payments ward.id).getD ⟨0, 0, 0⟩
  { ward
    surveyCount
    onlineCollection := money.online
    offlineCollection := money.offline
    pendingCollection := pendingByWard sources payments ward.id
    totalCollection := money.total
    demand := ((taxDemand sources wardId?).byWard ward.id).getD EMPTY_WARD
    assessmentYearName :=
      (pickLatestPublishedConfig sources.billing
        ((configsByWardId sources wardId? ward.id).getD [])).map fun config =>
          config.assessmentYear.name
    status := wardSurveyStatus surveyCount }

def getSummary : DashboardSummary :=
  let surveys := surveysFound sources wardId?
  let wards := wardsFound sources wardId?
  let wardsWithSurveys := wards.countP fun ward => 0 < countByWard sources wardId? ward.id
  { totalProperties := surveys.length
    draftSurveys := surveys.countP fun survey => survey.status = .draft
    activeSurveys := surveys.countP fun survey => survey.status = .active
    archivedSurveys := surveys.countP fun survey => survey.status = .archived
    completeQuality := surveys.countP fun survey => survey.dataQualityStatus = .complete
    needsReviewQuality := surveys.countP fun survey => survey.dataQualityStatus = .needsReview
    totalWards := wards.length
    wardsWithSurveys
    wardsInProgress := wards.length - wardsWithSurveys
    totalCollection := sumAmount (payments.filter (successPaymentWhere wardId?))
    onlineCollection := sumAmount (payments.filter fun payment =>
      successPaymentWhere wardId? payment && decide (payment.paymentMode = .online))
    offlineCollection := sumAmount (payments.filter fun payment =>
      successPaymentWhere wardId? payment && decide (payment.paymentMode ≠ .online))
    pendingCollection := sumAmount (payments.filter (pendingPaymentWhere wardId?))
    pendingPayments := payments.countP (pendingPaymentWhere wardId?)
    successPayments := payments.countP (successPaymentWhere wardId?)
    failedPayments := payments.countP fun payment =>
      paymentWhere wardId? payment && decide (payment.status = .failed)
    taxDemand := taxDemand sources wardId?
    wardBreakdown := wards.map (wardRow sources payments wardId?) }

/-! ### Sums of amounts -/

section Sums
variable {rows : List Payment}

/-- Paise are summed before or after they are shown as rupees. -/
theorem toMoney_sum (amounts : List Money) : toMoney amounts.sum = (amounts.map toMoney).sum := by
  induction amounts with
  | nil => exact toMoney_zero
  | cons amount rest ih => rw [List.sum_cons, toMoney_add, ih, List.map_cons, List.sum_cons]

/-- The sum of payments is the sum of their amounts in rupees. -/
theorem sumAmount_eq (rows : List Payment) :
    sumAmount rows = (rows.map fun payment => toMoney payment.amount).sum := by
  rw [sumAmount, toMoney_sum, List.map_map]
  rfl

theorem sumAmount_append (first second : List Payment) :
    sumAmount (first ++ second) = sumAmount first + sumAmount second := by
  simp only [sumAmount_eq, List.map_append, List.sum_append]

@[simp] theorem roundMoney_sumAmount (rows : List Payment) :
    roundMoney (sumAmount rows) = sumAmount rows :=
  InPaise.roundMoney_eq ⟨_, rfl⟩

/-- The order of payments does not change their sum. -/
theorem sumAmount_perm {other : List Payment} (h : rows.Perm other) :
    sumAmount rows = sumAmount other := by
  rw [sumAmount, sumAmount, (h.map Payment.amount).sum_eq]

/-- A condition splits the rows in two. -/
theorem sumAmount_split (p q : Payment → Bool) (rows : List Payment) :
    sumAmount (rows.filter p) = sumAmount (rows.filter fun payment => p payment && q payment) +
      sumAmount (rows.filter fun payment => p payment && !q payment) := by
  rw [← sumAmount_append, ← sumAmount_perm (List.filter_append_perm q (rows.filter p)),
    List.filter_filter, List.filter_filter]
  simp only [Bool.and_comm]

/-- Where nothing is owed back, nothing is left out exactly if all that is left out is
nothing. -/
theorem sumAmount_eq_zero_iff (h : ∀ payment ∈ rows, 0 ≤ payment.amount) :
    sumAmount rows = 0 ↔ ∀ payment ∈ rows, ¬ 0 < payment.amount := by
  induction rows with
  | nil => simp [sumAmount]
  | cons payment rest ih =>
      obtain ⟨hPayment, hRest⟩ := List.forall_mem_cons.mp h
      have hTail : 0 ≤ sumAmount rest := by
        rw [sumAmount, ← toMoney_zero, toMoney_le_iff]
        exact List.sum_nonneg (List.forall_mem_map.mpr hRest)
      have hHead : 0 ≤ toMoney payment.amount := by
        rwa [← toMoney_zero, toMoney_le_iff]
      have hCons : sumAmount (payment :: rest) = toMoney payment.amount + sumAmount rest := by
        rw [sumAmount_eq, List.map_cons, List.sum_cons, ← sumAmount_eq]
      rw [hCons, List.forall_mem_cons, ← ih hRest, ← toMoney_pos_iff]
      constructor
      · intro hZero
        exact ⟨by linarith, by linarith⟩
      · rintro ⟨hNot, hZero⟩
        linarith

end Sums

/-! ### The rows -/

section Rows
variable {sources : DashboardSources} {payments : List Payment} {wardId? : Option Id}

/-- The groups of a ward. -/
def groupsAt (wardId : Id) (q : PaymentMode → Bool)
    (groups : List ((Option Id × PaymentMode) × List Payment)) : ℚ :=
  ((groups.filter fun group => decide (group.1.1 = some wardId) && q group.1.2).map fun group =>
    sumAmount group.2).sum

theorem groupsAt_cons_of_ne {wardId : Id} {group : (Option Id × PaymentMode) × List Payment}
    (h : group.1.1 ≠ some wardId) (q : PaymentMode → Bool)
    (rest : List ((Option Id × PaymentMode) × List Payment)) :
    groupsAt wardId q (group :: rest) = groupsAt wardId q rest := by
  simp [groupsAt, h]

theorem groupsAt_cons {wardId : Id} {group : (Option Id × PaymentMode) × List Payment}
    (h : group.1.1 = some wardId) (q : PaymentMode → Bool)
    (rest : List ((Option Id × PaymentMode) × List Payment)) :
    groupsAt wardId q (group :: rest) =
      (if q group.1.2 then sumAmount group.2 else 0) + groupsAt wardId q rest := by
  cases hq : q group.1.2 <;> simp [groupsAt, h, hq]

/-- What the loop has added to the money of a ward. -/
theorem foldl_addPaymentGroup (groups : List ((Option Id × PaymentMode) × List Payment))
    (start : Id → Option WardMoney) (wardId : Id) :
    (groups.foldl addPaymentGroup start wardId).getD ⟨0, 0, 0⟩ =
      ⟨((start wardId).getD ⟨0, 0, 0⟩).online + groupsAt wardId (fun mode => mode = .online) groups,
        ((start wardId).getD ⟨0, 0, 0⟩).offline +
          groupsAt wardId (fun mode => mode ≠ .online) groups,
        ((start wardId).getD ⟨0, 0, 0⟩).total + groupsAt wardId (fun _ => true) groups⟩ := by
  induction groups generalizing start with
  | nil => simp [groupsAt]
  | cons group rest ih =>
      obtain ⟨⟨ward, mode⟩, rows⟩ := group
      rw [List.foldl_cons, ih]
      by_cases hWard : ward = some wardId
      · subst hWard
        have hCell : (addPaymentGroup start ((some wardId, mode), rows) wardId).getD ⟨0, 0, 0⟩ =
            ⟨((start wardId).getD ⟨0, 0, 0⟩).online + if mode = .online then sumAmount rows else 0,
              ((start wardId).getD ⟨0, 0, 0⟩).offline +
                if mode ≠ .online then sumAmount rows else 0,
              ((start wardId).getD ⟨0, 0, 0⟩).total + sumAmount rows⟩ := by
          by_cases hMode : mode = .online <;> simp [addPaymentGroup, hMode]
        rw [hCell, groupsAt_cons rfl, groupsAt_cons rfl, groupsAt_cons rfl]
        simp [add_assoc]
      · have hCell : addPaymentGroup start ((ward, mode), rows) wardId = start wardId := by
          cases ward with
          | none => rfl
          | some other =>
              have hOther : wardId ≠ other := fun hEq => hWard (congrArg some hEq.symm)
              exact Function.update_of_ne hOther _ _
        rw [hCell, groupsAt_cons_of_ne hWard, groupsAt_cons_of_ne hWard, groupsAt_cons_of_ne hWard]

/-- The groups of a ward and its modes come to the payments of that ward in these modes. -/
theorem groupsAt_groupBy (arrangement : Arrangement (Option Id × PaymentMode)) (wardId : Id)
    (q : PaymentMode → Bool) (p : Payment → Bool) :
    groupsAt wardId q (groupBy arrangement (fun payment => (payment.wardId, payment.paymentMode))
        (payments.filter fun payment => p payment && payment.wardId.isSome)) =
      sumAmount (payments.filter fun payment =>
        p payment && decide (payment.wardId = some wardId) && q payment.paymentMode) := by
  have hGroups := sum_groupBy arrangement (fun payment => (payment.wardId, payment.paymentMode))
    (payments.filter fun payment => p payment && payment.wardId.isSome)
    (fun k => decide (k.1 = some wardId) && q k.2) (fun payment => toMoney payment.amount)
  have hRows : ((payments.filter fun payment => p payment && payment.wardId.isSome).filter
        fun payment => decide (payment.wardId = some wardId) && q payment.paymentMode) =
      payments.filter fun payment =>
        p payment && decide (payment.wardId = some wardId) && q payment.paymentMode := by
    rw [List.filter_filter]
    refine List.filter_congr fun payment _ => ?_
    by_cases hWard : payment.wardId = some wardId
    · simp [hWard, Bool.and_comm]
    · simp [hWard]
  rw [hRows, ← sumAmount_eq] at hGroups
  simp only [groupsAt, sumAmount_eq]
  exact hGroups.trans (sumAmount_eq _)

/-- The money in the row of a ward, counted payment by payment. -/
theorem moneyByWard_getD (wardId : Id) :
    (moneyByWard sources payments wardId).getD ⟨0, 0, 0⟩ =
      ⟨sumAmount (payments.filter fun payment => successPaymentWhere none payment &&
          decide (payment.wardId = some wardId) && decide (payment.paymentMode = .online)),
        sumAmount (payments.filter fun payment => successPaymentWhere none payment &&
          decide (payment.wardId = some wardId) && decide (payment.paymentMode ≠ .online)),
        sumAmount (payments.filter fun payment => successPaymentWhere none payment &&
          decide (payment.wardId = some wardId))⟩ := by
  rw [moneyByWard, foldl_addPaymentGroup]
  simp only [groupsAt_groupBy, Option.getD_none, zero_add, Bool.and_true]

/-- What is pending in a ward is the sum of its pending payments. -/
theorem pendingByWard_eq (wardId : Id) :
    pendingByWard sources payments wardId =
      sumAmount (payments.filter fun payment =>
        pendingPaymentWhere none payment && decide (payment.wardId = some wardId)) := by
  have hRows : itemsOf Payment.wardId (payments.filter fun payment =>
        pendingPaymentWhere none payment && payment.wardId.isSome) (some wardId) =
      payments.filter fun payment =>
        pendingPaymentWhere none payment && decide (payment.wardId = some wardId) := by
    rw [itemsOf, List.filter_filter]
    refine List.filter_congr fun payment _ => ?_
    by_cases hWard : payment.wardId = some wardId
    · simp [hWard]
    · simp [hWard]
  rw [← hRows, ← rowsOf?_groupBy sources.arrangePending, pendingByWard]
  have hNone : sumAmount [] = 0 := toMoney_zero
  refine Eq.trans ?_ (Option.getD_map sumAmount [] _)
  rw [hNone]

/-- The count of a ward is the number of its surveys. -/
theorem countByWard_eq (wardId : Id) :
    countByWard sources wardId? wardId =
      (itemsOf Surveys.Survey.wardId (surveysFound sources wardId?) wardId).length := by
  rw [countByWard, ← rowsOf?_groupBy sources.arrangeWards wardId]
  exact Option.getD_map List.length [] _

/-- A filter for a ward passes the wards it asks for. -/
theorem all_iff {wardId : Id} :
    (wardId?.all fun other => decide (wardId = other)) = true ↔
      ∀ other ∈ wardId?, wardId = other := by
  cases wardId? <;> simp

/-- A ward whose row is shown. -/
theorem mem_wardsFound {ward : DashboardWard} :
    ward ∈ wardsFound sources wardId? ↔ ward ∈ sources.wards ∧ ward.isActive = true ∧
      ∀ wardId ∈ wardId?, ward.id = wardId := by
  simp only [wardsFound, List.mem_mergeSort, List.mem_filter, Bool.and_eq_true, all_iff]

/-- A row that is shown counts what was asked for, although its query asks for all wards. -/
theorem filter_row {ward : DashboardWard} (hWard : ward ∈ wardsFound sources wardId?)
    (q : Payment → Bool) :
    (payments.filter fun payment =>
        paymentWhere none payment && q payment && decide (payment.wardId = some ward.id)) =
      payments.filter fun payment =>
        paymentWhere wardId? payment && q payment && decide (payment.wardId = some ward.id) := by
  obtain ⟨-, -, hAsked⟩ := mem_wardsFound.mp hWard
  refine List.filter_congr fun payment _ => ?_
  by_cases hOf : payment.wardId = some ward.id
  · have hWhere : paymentWhere wardId? payment = true := by
      cases wardId? with
      | none => rfl
      | some asked => exact decide_eq_true (hOf.trans (congrArg some (hAsked asked rfl)))
    rw [hWhere]
    rfl
  · simp only [hOf, decide_false, Bool.and_false]

/-- The row of a ward shows the sum of its successful payments. -/
theorem totalCollection_row {ward : DashboardWard} (hWard : ward ∈ wardsFound sources wardId?) :
    (wardRow sources payments wardId? ward).totalCollection =
      sumAmount (payments.filter fun payment =>
        successPaymentWhere wardId? payment && decide (payment.wardId = some ward.id)) := by
  simp only [wardRow, moneyByWard_getD]
  exact congrArg sumAmount (filter_row hWard fun payment => decide (payment.status = .success))

/-- The row of a ward shows the sum of its pending payments. -/
theorem pendingCollection_row {ward : DashboardWard} (hWard : ward ∈ wardsFound sources wardId?) :
    (wardRow sources payments wardId? ward).pendingCollection =
      sumAmount (payments.filter fun payment =>
        pendingPaymentWhere wardId? payment && decide (payment.wardId = some ward.id)) := by
  simp only [wardRow, pendingByWard_eq]
  exact congrArg sumAmount (filter_row hWard fun payment =>
    decide (payment.status = .pending) || decide (payment.status = .initiated))

/-- The rows of a set of wards show the payments of these wards. -/
theorem sum_wards {wards : List DashboardWard} (hWards : (wards.map DashboardWard.id).Nodup)
    (p : Payment → Bool) :
    (wards.map fun ward => sumAmount (payments.filter fun payment =>
        p payment && decide (payment.wardId = some ward.id))).sum =
      sumAmount (payments.filter fun payment =>
        p payment && decide (∃ ward ∈ wards, payment.wardId = some ward.id)) := by
  have hKeys : (wards.map fun ward => some ward.id).Nodup := by
    have hSome := hWards.map (Option.some_injective Id)
    rwa [List.map_map] at hSome
  have hIn : ∀ payment ∈ payments.filter p,
      (decide (∃ ward ∈ wards, payment.wardId = some ward.id) = true ↔
        payment.wardId ∈ wards.map fun ward => some ward.id) := by
    intro payment _
    rw [decide_eq_true_iff]
    simp only [List.mem_map, eq_comm]
  have hSum := sum_itemsOf Payment.wardId hKeys (fun payment => toMoney payment.amount) hIn
  rw [List.map_map, List.filter_filter] at hSum
  have hRows : ∀ ward : DashboardWard, itemsOf Payment.wardId (payments.filter p) (some ward.id) =
      payments.filter fun payment => p payment && decide (payment.wardId = some ward.id) := by
    intro ward
    rw [itemsOf, List.filter_filter]
    simp only [Bool.and_comm]
  simp only [Bool.and_comm, Function.comp_def, hRows] at hSum
  simp only [sumAmount_eq, hSum]

/-- The payment is of a ward that is in use. -/
def InActiveWard (sources : DashboardSources) (wardId : Option Id) : Prop :=
  ∃ ward ∈ sources.wards, ward.isActive = true ∧ wardId = some ward.id

instance (sources : DashboardSources) (wardId : Option Id) :
    Decidable (InActiveWard sources wardId) :=
  inferInstanceAs (Decidable (∃ ward ∈ sources.wards, _ ∧ _))

theorem wardsFound_nodup (hWards : (sources.wards.map DashboardWard.id).Nodup) :
    ((wardsFound sources wardId?).map DashboardWard.id).Nodup := by
  have hPerm := List.mergeSort_perm (sources.wards.filter fun ward => ward.isActive &&
    wardId?.all fun wardId => ward.id = wardId) fun a b => decide (a.number ≤ b.number)
  exact (hPerm.map DashboardWard.id).nodup_iff.mpr
    (hWards.sublist (List.filter_sublist.map DashboardWard.id))

/-- What the summary was asked for has a row exactly if its ward is in use. -/
theorem inActiveWard_iff {wardId : Option Id} (hAsked : ∀ asked ∈ wardId?, wardId = some asked) :
    (∃ ward ∈ wardsFound sources wardId?, wardId = some ward.id) ↔
      InActiveWard sources wardId := by
  constructor
  · rintro ⟨ward, hWard, hOf⟩
    obtain ⟨hMem, hActive, -⟩ := mem_wardsFound.mp hWard
    exact ⟨ward, hMem, hActive, hOf⟩
  · rintro ⟨ward, hMem, hActive, hOf⟩
    refine ⟨ward, mem_wardsFound.mpr ⟨hMem, hActive, fun asked hAsk => ?_⟩, hOf⟩
    exact Option.some.inj (hOf.symm.trans (hAsked asked hAsk))

/-- The rows show all of the card exactly if every payment of some amount has a row. -/
theorem sum_rows_iff (hWards : (sources.wards.map DashboardWard.id).Nodup)
    (hAmounts : ∀ payment ∈ payments, 0 ≤ payment.amount) {p : Payment → Bool}
    (hWhere : ∀ payment, p payment = true → paymentWhere wardId? payment = true) :
    ((wardsFound sources wardId?).map fun ward => sumAmount (payments.filter fun payment =>
        p payment && decide (payment.wardId = some ward.id))).sum = sumAmount (payments.filter p) ↔
      ∀ payment ∈ payments, p payment = true → 0 < payment.amount →
        InActiveWard sources payment.wardId := by
  have hIn : ∀ payment, p payment = true →
      ((∃ ward ∈ wardsFound sources wardId?, payment.wardId = some ward.id) ↔
        InActiveWard sources payment.wardId) := by
    intro payment hp
    refine inActiveWard_iff fun asked hAsk => ?_
    have hHere := hWhere payment hp
    rw [Option.mem_def.mp hAsk] at hHere
    simpa [paymentWhere] using hHere
  rw [sum_wards (wardsFound_nodup hWards), sumAmount_split p
    (fun payment => decide (∃ ward ∈ wardsFound sources wardId?, payment.wardId = some ward.id))
    payments, left_eq_add, sumAmount_eq_zero_iff fun payment hMem =>
      hAmounts payment (List.mem_of_mem_filter hMem)]
  constructor
  · intro hNone payment hMem hp hAmount
    by_contra hNot
    refine hNone payment (List.mem_filter.mpr ⟨hMem, ?_⟩) hAmount
    rw [← hIn payment hp] at hNot
    simp only [hp, hNot, decide_false, Bool.not_false, Bool.and_true]
  · intro hAll payment hMem hAmount
    obtain ⟨hPayment, hOutside⟩ := List.mem_filter.mp hMem
    obtain ⟨hp, hOut⟩ := Bool.and_eq_true_iff.mp hOutside
    have hActive := (hIn payment hp).mpr (hAll payment hPayment hp hAmount)
    rw [decide_eq_true hActive] at hOut
    cases hOut

end Rows

/-! ### The cards -/

section Cards
variable (sources : DashboardSources) (payments : List Payment) (wardId? : Option Id)

/-- A survey is a draft, active or archived. -/
theorem length_surveysFound : (surveysFound sources wardId?).length =
    (surveysFound sources wardId?).countP (fun survey => survey.status = .draft) +
      (surveysFound sources wardId?).countP (fun survey => survey.status = .active) +
      (surveysFound sources wardId?).countP fun survey => survey.status = .archived := by
  have hLive : ∀ survey ∈ surveysFound sources wardId?, survey.status ≠ .deleted := by
    intro survey hSurvey
    have hWhere := (List.mem_filter.mp hSurvey).2
    simp only [surveyWhere, Bool.and_eq_true, decide_eq_true_eq] at hWhere
    exact hWhere.1.2
  generalize surveysFound sources wardId? = found at hLive
  induction found with
  | nil => rfl
  | cons survey rest ih =>
      obtain ⟨hSurvey, hRest⟩ := List.forall_mem_cons.mp hLive
      simp only [List.countP_cons, List.length_cons, ih hRest]
      cases hStatus : survey.status with
      | deleted => exact absurd hStatus hSurvey
      | draft => simp; omega
      | active => simp; omega
      | archived => simp; omega

/-- The totals of a summary are the sums of its rows. -/
theorem getSummary_addsUp : (getSummary sources payments wardId?).AddsUp where
  collection := by
    have hSplit := sumAmount_split (successPaymentWhere wardId?)
      (fun payment => decide (payment.paymentMode = .online)) payments
    simp only [← decide_not] at hSplit
    simp only [getSummary, roundMoney_sumAmount]
    exact hSplit
  surveys := length_surveysFound sources wardId?
  rows row hRow := by
    obtain ⟨ward, -, rfl⟩ := List.mem_map.mp hRow
    have hSplit := sumAmount_split
      (fun payment => successPaymentWhere none payment && decide (payment.wardId = some ward.id))
      (fun payment => decide (payment.paymentMode = .online)) payments
    simp only [← decide_not] at hSplit
    simp only [wardRow, moneyByWard_getD, roundMoney_sumAmount]
    exact hSplit
  demand := by
    have hSays := aggregateTaxDemand_saysOf sources.billing
      { wardIds := (wardsFound sources wardId?).map DashboardWard.id
        surveys := (surveysFound sources wardId?).map sources.taxColumns
        configsByWardId := configsByWardId sources wardId? }
    simp only [getSummary, List.map_map]
    rw [List.map_map] at hSays
    exact hSays

/-- Every survey is in a row exactly if its ward is in use. -/
theorem sum_surveyCount_iff (hWards : (sources.wards.map DashboardWard.id).Nodup) :
    ((getSummary sources payments wardId?).wardBreakdown.map WardBreakdownRow.surveyCount).sum =
        (getSummary sources payments wardId?).totalProperties ↔
      ∀ survey ∈ surveysFound sources wardId?, InActiveWard sources (some survey.wardId) := by
  have hRows : (getSummary sources payments wardId?).wardBreakdown.map
        WardBreakdownRow.surveyCount =
      ((wardsFound sources wardId?).map DashboardWard.id).map fun wardId =>
        (itemsOf Surveys.Survey.wardId (surveysFound sources wardId?) wardId).length := by
    simp only [getSummary, List.map_map]
    exact List.map_congr_left fun ward _ => countByWard_eq ward.id
  have hIn : ∀ survey ∈ surveysFound sources wardId?,
      (decide (InActiveWard sources (some survey.wardId)) = true ↔
        survey.wardId ∈ (wardsFound sources wardId?).map DashboardWard.id) := by
    intro survey hSurvey
    have hWhere := (List.mem_filter.mp hSurvey).2
    simp only [surveyWhere, Bool.and_eq_true] at hWhere
    have hAsked : ∀ asked ∈ wardId?, some survey.wardId = some asked := fun asked hAsk =>
      congrArg some (all_iff.mp hWhere.2 asked hAsk)
    rw [decide_eq_true_iff, ← inActiveWard_iff hAsked]
    simp only [List.mem_map, Option.some.injEq, eq_comm]
  rw [hRows, sum_length_rows _ (wardsFound_nodup hWards) hIn]
  change (List.filter _ _).length = (surveysFound sources wardId?).length ↔ _
  rw [List.length_filter_eq_length_iff]
  simp only [decide_eq_true_eq]

end Cards

/-! ### The ledger -/

section Ledger
variable {l : Ledger}

/-- The successful payment counts towards a published demand. -/
def IsClaimed (l : Ledger) (payment : Payment) : Bool :=
  l.demands.rows.any fun d => decide (d.status = .published) &&
    decide (payment.IsFor d.surveyId d.assessmentYearId)

/-- The successful payments are those that the published demands show as paid, and those
that no published demand is for. -/
theorem sumAmount_success (hReconciled : l.Reconciled) :
    sumAmount (l.payments.rows.filter (successPaymentWhere none)) =
      toMoney ((l.demands.rows.filter fun d => d.status = .published).map
        PropertyDemand.amountPaid).sum +
      sumAmount (l.payments.rows.filter fun payment =>
        successPaymentWhere none payment && !IsClaimed l payment) := by
  let yearOf (d : PropertyDemand) : Option Id × Option Id :=
    (some d.surveyId, some d.assessmentYearId)
  let published := l.demands.rows.filter fun d => decide (d.status = .published)
  have hNodup : (published.map yearOf).Nodup := by
    refine ((nodup_rows l.demands).filter _).map_on ?_
    intro d hd e he hSame
    obtain ⟨hSurvey, hYear⟩ := Prod.mk.inj hSame
    exact demand_eq (List.mem_of_mem_filter hd) (List.mem_of_mem_filter he)
      (Option.some.inj hSurvey) (Option.some.inj hYear)
  have hClaimed : ∀ payment ∈ l.payments.rows.filter (successPaymentWhere none),
      (IsClaimed l payment = true ↔
        (payment.surveyId, payment.assessmentYearId) ∈ published.map yearOf) := by
    intro payment _
    rw [IsClaimed, List.any_eq_true, List.mem_map]
    symm
    constructor
    · rintro ⟨d, hd, hSame⟩
      obtain ⟨hMem, hStatus⟩ := List.mem_filter.mp hd
      obtain ⟨hSurvey, hYear⟩ := Prod.mk.inj hSame
      refine ⟨d, hMem, ?_⟩
      rw [hStatus, Bool.true_and]
      exact decide_eq_true ⟨hSurvey.symm, hYear.symm⟩
    · rintro ⟨d, hMem, hFor⟩
      obtain ⟨hStatus, hFor⟩ := Bool.and_eq_true_iff.mp hFor
      obtain ⟨hSurvey, hYear⟩ := of_decide_eq_true hFor
      exact ⟨d, List.mem_filter.mpr ⟨hMem, hStatus⟩, Prod.ext hSurvey.symm hYear.symm⟩
  have hSum := sum_itemsOf
    (fun payment : Payment => (payment.surveyId, payment.assessmentYearId)) hNodup
    Payment.amount hClaimed
  have hPaid : ((published.map yearOf).map fun k => ((itemsOf (fun payment : Payment =>
      (payment.surveyId, payment.assessmentYearId)) (l.payments.rows.filter
        (successPaymentWhere none)) k).map Payment.amount).sum) =
      published.map PropertyDemand.amountPaid := by
    rw [List.map_map]
    refine List.map_congr_left fun d hd => ?_
    obtain ⟨hd, hStatus⟩ := List.mem_filter.mp hd
    have hExcess := sub_eq_zero.mp (hReconciled.paid d hd (of_decide_eq_true hStatus))
    rw [hExcess, successSum, sumWhere, Function.comp_apply, itemsOf, List.filter_filter]
    refine congrArg (fun rows : List Payment => (rows.map Payment.amount).sum)
      (List.filter_congr fun payment _ => ?_)
    simp only [yearOf, Payment.paidFor, successPaymentWhere, paymentWhere, Prod.mk.injEq,
      Option.all_none, Bool.true_and, ← Bool.decide_and, decide_eq_decide]
    tauto
  have hFilter : (l.payments.rows.filter (successPaymentWhere none)).filter (IsClaimed l) =
      l.payments.rows.filter fun payment =>
        successPaymentWhere none payment && IsClaimed l payment := by
    rw [List.filter_filter]
    exact List.filter_congr fun payment _ => Bool.and_comm _ _
  rw [sumAmount_split (successPaymentWhere none) (IsClaimed l), ← hPaid, hSum, hFilter, sumAmount]

end Ledger

end DashboardService

open DashboardService

/-- The dashboard after some calls. -/
def dashboardAfter (sources : DashboardSources) (calls : List Call) (wardId? : Option Id) :
    DashboardSummary :=
  getSummary sources (run perform Db.empty calls).payments.rows wardId?

/-- The dashboard after any run without refunds that collects whole paise, its money
rounded to paise. Its figures add up. Its rows come to its card exactly if all payments of
some amount are of wards in use, and so for the pending payments and for the surveys. The
collection is what the published demands show as paid, with the payments that no published
demand is for. -/
theorem dashboard_reconciles (sources : DashboardSources)
    (hWards : (sources.wards.map DashboardWard.id).Nodup) {calls : List Call}
    (hCalls : ∀ call ∈ calls, ¬ call.IsRefund ∧ call.InPaise) (wardId? : Option Id) :
    (dashboardAfter sources calls wardId?).AddsUp ∧
    (((dashboardAfter sources calls wardId?).wardBreakdown.map fun row =>
          roundMoney row.totalCollection).sum =
        roundMoney (dashboardAfter sources calls wardId?).totalCollection ↔
      ∀ payment ∈ (run perform Db.empty calls).payments.rows,
        successPaymentWhere wardId? payment = true → 0 < payment.amount →
          InActiveWard sources payment.wardId) ∧
    (((dashboardAfter sources calls wardId?).wardBreakdown.map fun row =>
          roundMoney row.pendingCollection).sum =
        roundMoney (dashboardAfter sources calls wardId?).pendingCollection ↔
      ∀ payment ∈ (run perform Db.empty calls).payments.rows,
        pendingPaymentWhere wardId? payment = true → 0 < payment.amount →
          InActiveWard sources payment.wardId) ∧
    (((dashboardAfter sources calls wardId?).wardBreakdown.map WardBreakdownRow.surveyCount).sum =
        (dashboardAfter sources calls wardId?).totalProperties ↔
      ∀ survey ∈ surveysFound sources wardId?, InActiveWard sources (some survey.wardId)) ∧
    roundMoney (dashboardAfter sources calls none).totalCollection =
      toMoney (((run perform Db.empty calls).demands.rows.filter fun d =>
        d.status = .published).map PropertyDemand.amountPaid).sum +
      sumAmount ((run perform Db.empty calls).payments.rows.filter fun payment =>
        successPaymentWhere none payment &&
          !IsClaimed (run perform Db.empty calls).ledger payment) := by
  obtain ⟨-, hReconciled⟩ := reconciled_of_run fun call hCall => (hCalls call hCall).1
  have hAmounts : ∀ payment ∈ (run perform Db.empty calls).payments.rows, 0 ≤ payment.amount :=
    hReconciled.amounts
  have hSuccess : ∀ payment, successPaymentWhere wardId? payment = true →
      paymentWhere wardId? payment = true := by
    intro payment hWhere
    exact (Bool.and_eq_true_iff.mp hWhere).1
  have hPending : ∀ payment, pendingPaymentWhere wardId? payment = true →
      paymentWhere wardId? payment = true := by
    intro payment hWhere
    exact (Bool.and_eq_true_iff.mp hWhere).1
  refine ⟨getSummary_addsUp sources _ wardId?, ?_, ?_, sum_surveyCount_iff sources _ wardId? hWards,
    (roundMoney_sumAmount _).trans (sumAmount_success hReconciled)⟩
  · rw [← sum_rows_iff hWards hAmounts hSuccess]
    simp only [dashboardAfter, getSummary, List.map_map, roundMoney_sumAmount]
    refine Eq.congr (congrArg List.sum (List.map_congr_left fun ward hWard => ?_)) rfl
    rw [Function.comp_apply, totalCollection_row hWard, roundMoney_sumAmount]
  · rw [← sum_rows_iff hWards hAmounts hPending]
    simp only [dashboardAfter, getSummary, List.map_map, roundMoney_sumAmount]
    refine Eq.congr (congrArg List.sum (List.map_congr_left fun ward hWard => ?_)) rfl
    rw [Function.comp_apply, pendingCollection_row hWard, roundMoney_sumAmount]

namespace Sample

/-- The two wards of which one is out of use, and no survey. -/
def dashboardSources : DashboardSources where
  surveys := []
  taxColumns survey := { id := survey.id, surveyId := "", wardId := survey.wardId }
  wards := [⟨6, 2, "W2", "Second", false⟩, ⟨5, 1, "W1", "First", true⟩]
  taxConfigs := []
  billing := ward.billing
  arrangeWards := ⟨id, fun _ => .rfl⟩
  arrangeMoney := ⟨List.reverse, List.reverse_perm⟩
  arrangePending := ⟨id, fun _ => .rfl⟩

/-- The calls of two years collect 400 and 250. -/
theorem twoYears_inPaise : ∀ call ∈ twoYears, ¬ call.IsRefund ∧ call.InPaise := by
  have h400 : ∃ paise : Money, (cash 400 20).amount = toMoney paise := ⟨40000, by decide +kernel⟩
  have h250 : ∃ paise : Money, (cash 250 21).amount = toMoney paise := ⟨25000, by decide +kernel⟩
  simp [twoYears, Call.IsRefund, Call.InPaise, h400, h250]

end Sample

/-- Two years of payments, in cash and online, add up to one total. -/
theorem dashboard_reconciles_twoYears :
    (dashboardAfter Sample.dashboardSources Sample.twoYears none).totalCollection = 650 ∧
    (dashboardAfter Sample.dashboardSources Sample.twoYears none).AddsUp := by
  refine ⟨by decide +kernel, ?_⟩
  exact (dashboard_reconciles Sample.dashboardSources (by decide)
    Sample.twoYears_inPaise none).1

end PropertyTax
