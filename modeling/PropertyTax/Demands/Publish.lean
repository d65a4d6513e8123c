import PropertyTax.Demands.Assessment
import PropertyTax.Tax.TaxZoneMap

/-! `publish` and `publishForWard`. Publishing a demand reads the stored demand
and the sum of the successful payments, and writes the demand in a later
statement; no transaction joins them. -/
namespace PropertyTax
open KeyedTable

def assertAssessmentYear (reference : Reference) (assessmentYearId : Id) :
    Except ApiError Unit :=
  match reference.referenceEntries.find? fun e => e.ref.id = assessmentYearId with
  | some year =>
      if year.categoryCode = "ASSESSMENT_YEAR" then .ok ()
      else .error (.badRequest none "Invalid assessment year")
  | none => .error (.badRequest none "Invalid assessment year")

def loadPublishedTaxConfigForDues (reference : Reference) (wardId assessmentYearId : Id) :
    Except ApiError TaxConfig :=
  let missing : ApiError := .conflict none
    "No published tax configuration for this ward and assessment year"
  match reference.taxConfigs.find? fun c =>
      c.wardId = wardId ∧ c.assessmentYear.id = assessmentYearId with
  | some taxConfig => if taxConfig.status = .published then .ok taxConfig else .error missing
  | none => .error missing

/-- Published rules of the year or of every year, in force at `now`. -/
def loadPublishedRules (reference : Reference) (assessmentYearId : Id) (now : Timestamp) :
    List TaxAdjustmentRuleInput :=
  (reference.taxAdjustmentRules.filter fun r => r.status = .published ∧
    (r.assessmentYearId = none ∨ r.assessmentYearId = some assessmentYearId) ∧
    (∀ effectiveFrom ∈ r.effectiveFrom, effectiveFrom ≤ now) ∧
    ∀ effectiveTo ∈ r.effectiveTo, now ≤ effectiveTo).map fun r =>
      { kind := r.kind, head := r.head, method := r.method, value := r.value, cap := r.cap }

/-- The payment counts towards the demand of this survey and year. -/
def Payment.paidFor (surveyId assessmentYearId : Id) (p : Payment) : Bool :=
  p.surveyId = some surveyId ∧ p.assessmentYearId = some assessmentYearId ∧ p.status = .success

/-- `aggregate({ _sum: { amount } })` over the successful payments, in paise. -/
def successSum (payments : KeyedTable Payment) (surveyId assessmentYearId : Id) : Money :=
  payments.sumWhere (Payment.paidFor surveyId assessmentYearId) Payment.amount

def sumSuccessPayments (surveyId assessmentYearId : Id) (db : Db) : ℚ :=
  toMoney (successSum db.payments surveyId assessmentYearId)

/-- Successful payments exist for another year that has no demand. -/
def hasPriorYearPaymentsWithoutDemand (surveyId currentYearId : Id) (db : Db) : Bool :=
  db.payments.rows.any fun p =>
    decide (p.surveyId = some surveyId) && decide (p.status = .success) &&
      match p.assessmentYearId with
      | some yearId => decide (yearId ≠ currentYearId) && (db.demandFor? surveyId yearId).isNone
      | none => false

structure PublishInput where
  survey : Survey
  assessmentYearId : Id
  taxConfig : TaxConfig
  rules : List TaxAdjustmentRuleInput
  preserveArrears : Bool
  actorId : Option Id

/-- What publishing reads before it writes. -/
structure PublishRead where
  existing : Option PropertyDemand
  amountPaid : ℚ
  priorYearIssue : Bool

/-- The arrears an assessment starts from. -/
def PublishInput.arrears (input : PublishInput) (existing : Option PropertyDemand) : Money :=
  if input.preserveArrears then (existing.map PropertyDemand.arrears).getD 0 else 0

def PublishInput.dues (input : PublishInput) (ctx : Context) : DuesTax :=
  ctx.billing.computePublicDuesPayload input.survey input.taxConfig

def PublishInput.assess (input : PublishInput) (ctx : Context) (read : PublishRead) :
    PropertyAssessmentResult :=
  let tax := input.dues ctx
  computePropertyAssessment
    { base := ⟨tax.propertyTax, tax.waterTax, tax.drainageTax, tax.penalty, tax.totalDemand⟩
      rules := input.rules
      arrears := toMoney (input.arrears read.existing)
      amountPaid := read.amountPaid }

/-- The amount columns of a demand. -/
structure DemandAmounts where
  propertyTax : Money
  waterTax : Money
  drainageTax : Money
  penalty : Money
  rebate : Money
  arrears : Money
  currentDemand : Money
  totalPayable : Money
  amountPaid : Money
  outstanding : Money
deriving DecidableEq

def PropertyDemand.amounts (d : PropertyDemand) : DemandAmounts where
  propertyTax := d.propertyTax
  waterTax := d.waterTax
  drainageTax := d.drainageTax
  penalty := d.penalty
  rebate := d.rebate
  arrears := d.arrears
  currentDemand := d.currentDemand
  totalPayable := d.totalPayable
  amountPaid := d.amountPaid
  outstanding := d.outstanding

def PropertyAssessmentResult.columns (result : PropertyAssessmentResult) : DemandAmounts where
  propertyTax := toColumn result.propertyTax
  waterTax := toColumn result.waterTax
  drainageTax := toColumn result.drainageTax
  penalty := toColumn result.penalty
  rebate := toColumn result.rebate
  arrears := toColumn result.arrears
  currentDemand := toColumn result.currentDemand
  totalPayable := toColumn result.totalPayable
  amountPaid := toColumn result.amountPaid
  outstanding := toColumn result.outstanding

/-- A `Decimal(14,2)` column holds twelve digits before the point. -/
def fitsColumn (m : Money) : Prop := m.natAbs < 10 ^ 14

instance (m : Money) : Decidable (fitsColumn m) := inferInstanceAs (Decidable (_ < _))

/-- Every amount can be stored. -/
structure DemandAmounts.Fit (amounts : DemandAmounts) : Prop where
  propertyTax : fitsColumn amounts.propertyTax
  waterTax : fitsColumn amounts.waterTax
  drainageTax : fitsColumn amounts.drainageTax
  penalty : fitsColumn amounts.penalty
  rebate : fitsColumn amounts.rebate
  arrears : fitsColumn amounts.arrears
  currentDemand : fitsColumn amounts.currentDemand
  totalPayable : fitsColumn amounts.totalPayable
  amountPaid : fitsColumn amounts.amountPaid
  outstanding : fitsColumn amounts.outstanding

instance (amounts : DemandAmounts) : Decidable amounts.Fit :=
  decidable_of_iff (fitsColumn amounts.propertyTax ∧ fitsColumn amounts.waterTax ∧
      fitsColumn amounts.drainageTax ∧ fitsColumn amounts.penalty ∧ fitsColumn amounts.rebate ∧
      fitsColumn amounts.arrears ∧ fitsColumn amounts.currentDemand ∧
      fitsColumn amounts.totalPayable ∧ fitsColumn amounts.amountPaid ∧
      fitsColumn amounts.outstanding)
    ⟨fun ⟨h₁, h₂, h₃, h₄, h₅, h₆, h₇, h₈, h₉, h₁₀⟩ => ⟨h₁, h₂, h₃, h₄, h₅, h₆, h₇, h₈, h₉, h₁₀⟩,
      fun ⟨h₁, h₂, h₃, h₄, h₅, h₆, h₇, h₈, h₉, h₁₀⟩ => ⟨h₁, h₂, h₃, h₄, h₅, h₆, h₇, h₈, h₉, h₁₀⟩⟩

/-- `data` of the upsert, over a stored demand or a new one. -/
def publishedDemandData (ctx : Context) (input : PublishInput) (read : PublishRead)
    (d : PropertyDemand) : PropertyDemand :=
  let assessment := input.assess ctx read
  { d with
    status := .published
    propertyTax := toColumn assessment.propertyTax
    waterTax := toColumn assessment.waterTax
    drainageTax := toColumn assessment.drainageTax
    penalty := toColumn assessment.penalty
    rebate := toColumn assessment.rebate
    arrears := toColumn assessment.arrears
    currentDemand := toColumn assessment.currentDemand
    totalPayable := toColumn assessment.totalPayable
    amountPaid := toColumn assessment.amountPaid
    outstanding := toColumn assessment.outstanding
    verified := !decide (read.amountPaid > assessment.totalPayable) && !read.priorYearIssue
    snapshot := some
      { taxConfigId := input.taxConfig.id
        taxConfigVersion := input.taxConfig.version
        dues := input.dues ctx
        rules := input.rules
        assessment
        priorYearIssue := read.priorYearIssue }
    publishedAt := some ctx.now
    publishedById := input.actorId.or d.publishedById }

/-- The write of an upsert: update the demand that was read, or create one. -/
def writePublishedDemand (ctx : Context) (input : PublishInput) (read : PublishRead) (db : Db) :
    Except Refusal (Db × Id) :=
  match read.existing with
  | some existing =>
      (db.updateDemand existing.id (publishedDemandData ctx input read)).map fun after =>
        (after, existing.id)
  | none =>
      (db.createDemand fun id => publishedDemandData ctx input read
        { id, surveyId := input.survey.id, assessmentYearId := input.assessmentYearId }).map
          fun after => (after, db.nextId)

/-- The statements of an upsert before its write, from one state. -/
def PublishInput.read (input : PublishInput) (db : Db) : PublishRead where
  existing := db.demandFor? input.survey.id input.assessmentYearId
  amountPaid := sumSuccessPayments input.survey.id input.assessmentYearId db
  priorYearIssue := hasPriorYearPaymentsWithoutDemand input.survey.id input.assessmentYearId db

/-- `TAX_ZONE[n]` looks a text up in an object: "constructor" finds the function that every object
has, which is truthy and is handed on as the zone. -/
def Survey.zoneIsFunction (survey : Survey) : Bool :=
  decide (norm (survey.taxRateZone.getD "") = "constructor")

/-- What `computeSurveyExportTax` throws at a zone that is a function. -/
def zoneTypeError : ApiError := .typeError "input.taxRateZoneCode.trim is not a function"

/-- The write, which a column can be too small for. -/
def storePublishedDemand (ctx : Context) (input : PublishInput) (read : PublishRead) (db : Db) :
    Reply Id :=
  if (input.assess ctx read).columns.Fit then commit db (writePublishedDemand ctx input read db)
  else (db, .error .numericOverflow)

def upsertPublishedDemandForSurvey (ctx : Context) (input : PublishInput) (db : Db) : Reply Id :=
  if input.survey.zoneIsFunction then (db, .error zoneTypeError)
  else storePublishedDemand ctx input (input.read db) db

/-- The checks and the reference data of `publish`. -/
def publishInput (ctx : Context) (surveyId assessmentYearId : Id) (actorId : Option Id) :
    Except ApiError PublishInput :=
  match ctx.reference.activeSurvey? surveyId with
  | none => .error (.notFound none "Survey not found")
  | some survey =>
      match assertAssessmentYear ctx.reference assessmentYearId with
      | .error error => .error error
      | .ok () =>
          (loadPublishedTaxConfigForDues ctx.reference survey.wardId assessmentYearId).map
            fun taxConfig =>
              { survey, assessmentYearId, taxConfig,
                rules := loadPublishedRules ctx.reference assessmentYearId ctx.now,
                preserveArrears := false, actorId }

def publish (ctx : Context) (surveyId assessmentYearId : Id) (actorId : Option Id) (db : Db) :
    Reply Id :=
  match publishInput ctx surveyId assessmentYearId actorId with
  | .error error => (db, .error error)
  | .ok input =>
      match upsertPublishedDemandForSurvey ctx input db with
      | (db, .error error) => (db, .error error)
      | (db, .ok demandId) =>
          let demand := db.demands.find? demandId
          let entry : AuditEntry :=
            { action := "PUBLISH"
              entity := "PropertyDemand"
              entityId := some (toString demandId)
              newValue := some (jsonFields [("surveyId", some (.num input.survey.id)),
                ("assessmentYearId", some (.num assessmentYearId)),
                ("totalPayable", demand.map fun d => .num (toMoney d.totalPayable)),
                ("verified", demand.map fun d => .bool d.verified)])
              actorId }
          (db.log entry, .ok demandId)

/-! ### A whole ward -/

structure PublishCounts where
  created : Nat
  updated : Nat
deriving DecidableEq

def batchSize : Nat := 100

/-- The active surveys of a ward, `orderBy: { id: "asc" }`. -/
def activeSurveysOf (reference : Reference) (wardId : Id) : List Survey :=
  (reference.surveys.filter fun s => s.wardId = wardId ∧ s.active ∧ s.deletedAt.isNone).insertionSort
    fun s t => s.id ≤ t.id

/-- `take: batchSize`, after the row of the cursor. -/
def surveyPage (surveys : List Survey) : Option Id → List Survey
  | none => surveys.take batchSize
  | some cursor => ((surveys.dropWhile fun s => s.id ≠ cursor).drop 1).take batchSize

/-- Publish the demands of one page, up to the first that fails. -/
def publishBatch (ctx : Context) (inputFor : Survey → PublishInput) :
    List Survey → PublishCounts → Db → Reply PublishCounts
  | [], counts, db => (db, .ok counts)
  | survey :: rest, counts, db =>
      let input := inputFor survey
      let existing := db.demandFor? survey.id input.assessmentYearId
      match upsertPublishedDemandForSurvey ctx input db with
      | (db, .error error) => (db, .error error)
      | (db, .ok _) =>
          let counts := if existing.isSome then { counts with updated := counts.updated + 1 }
            else { counts with created := counts.created + 1 }
          publishBatch ctx inputFor rest counts db

/-- The paging loop, which ends with the first page that is not full. -/
def publishPages (ctx : Context) (inputFor : Survey → PublishInput) (surveys : List Survey) :
    Nat → Option Id → PublishCounts → Db → Reply PublishCounts
  | 0, _, counts, db => (db, .ok counts)
  | fuel + 1, cursor, counts, db =>
      let page := surveyPage surveys cursor
      if page.length = 0 then (db, .ok counts)
      else
        match publishBatch ctx inputFor page counts db with
        | (db, .error error) => (db, .error error)
        | (db, .ok counts) =>
            if page.length < batchSize then (db, .ok counts)
            else publishPages ctx inputFor surveys fuel (page.getLast?.map Survey.id) counts db

/-- The checks and the rates of `publishForWard`. -/
def wardTaxConfig (ctx : Context) (wardId assessmentYearId : Id) : Except ApiError TaxConfig :=
  if wardId ∉ ctx.reference.wardIds then .error (.notFound none "Ward not found")
  else
    match assertAssessmentYear ctx.reference assessmentYearId with
    | .error error => .error error
    | .ok () => loadPublishedTaxConfigForDues ctx.reference wardId assessmentYearId

def wardInput (ctx : Context) (assessmentYearId : Id) (actorId : Option Id)
    (taxConfig : TaxConfig) (survey : Survey) : PublishInput :=
  { survey, assessmentYearId, taxConfig,
    rules := loadPublishedRules ctx.reference assessmentYearId ctx.now,
    preserveArrears := true, actorId }

/-- Publish the demands of every active survey of a ward. Existing arrears are
preserved and new rows start at arrears 0. -/
def publishForWard (ctx : Context) (wardId assessmentYearId : Id) (actorId : Option Id)
    (db : Db) : Reply PublishCounts :=
  match wardTaxConfig ctx wardId assessmentYearId with
  | .error error => (db, .error error)
  | .ok taxConfig =>
      let surveys := activeSurveysOf ctx.reference wardId
      match publishPages ctx (wardInput ctx assessmentYearId actorId taxConfig) surveys
          (surveys.length + 1) none ⟨0, 0⟩ db with
      | (db, .error error) => (db, .error error)
      | (db, .ok counts) =>
          let entry : AuditEntry :=
            { action := "PUBLISH_WARD"
              entity := "PropertyDemand"
              entityId := some (toString wardId ++ ":" ++ toString assessmentYearId)
              newValue := some (jsonFields [("wardId", some (.num wardId)),
                ("assessmentYearId", some (.num assessmentYearId)),
                ("created", some (.num counts.created)), ("updated", some (.num counts.updated)),
                ("total", some (.num (counts.created + counts.updated))),
                ("taxConfigId", some (.num taxConfig.id)),
                ("taxConfigVersion", some (.num taxConfig.version))])
              actorId }
          (db.log entry, .ok counts)

/-! ### What publishing writes -/

/-- The totals of a demand fit together. -/
structure PropertyDemand.Balanced (d : PropertyDemand) : Prop where
  totalPayable : d.totalPayable = d.currentDemand + d.arrears
  outstanding : d.outstanding = max 0 (d.totalPayable - d.amountPaid)

/-- A demand as publishing leaves it, from the arrears it starts with and the
paise it found paid. -/
structure PublishedFrom (arrears paid : Money) (d : PropertyDemand) : Prop where
  status : d.status = .published
  currentDemand : 0 ≤ d.currentDemand
  arrears : d.arrears = max 0 arrears
  amountPaid : d.amountPaid = max 0 paid
  balanced : d.Balanced

/-- The columns that a publication writes start from the arrears and the sum that it has read. -/
theorem publishedDemandData_from (ctx : Context) (input : PublishInput)
    {read : PublishRead} {paid : Money} (hPaid : read.amountPaid = toMoney paid)
    (d : PropertyDemand) :
    PublishedFrom (input.arrears read.existing) paid (publishedDemandData ctx input read d) := by
  obtain ⟨currentDemand, hNonneg, hBalance⟩ := computePropertyAssessment_balance
    ⟨(input.dues ctx).propertyTax, (input.dues ctx).waterTax, (input.dues ctx).drainageTax,
      (input.dues ctx).penalty, (input.dues ctx).totalDemand⟩ input.rules
    (input.arrears read.existing) paid
  rw [← hPaid] at hBalance
  obtain ⟨hCurrent, hArrears, hTotal, hAmount, hLeft⟩ := hBalance
  have hCurrent' : (publishedDemandData ctx input read d).currentDemand = currentDemand := by
    change toColumn (input.assess ctx read).currentDemand = _
    rw [PublishInput.assess, hCurrent, toColumn_toMoney]
  have hArrears' : (publishedDemandData ctx input read d).arrears =
      max 0 (input.arrears read.existing) := by
    change toColumn (input.assess ctx read).arrears = _
    rw [PublishInput.assess, hArrears, toColumn_toMoney]
  have hTotal' : (publishedDemandData ctx input read d).totalPayable =
      currentDemand + max 0 (input.arrears read.existing) := by
    change toColumn (input.assess ctx read).totalPayable = _
    rw [PublishInput.assess, hTotal, toColumn_toMoney]
  have hAmount' : (publishedDemandData ctx input read d).amountPaid = max 0 paid := by
    change toColumn (input.assess ctx read).amountPaid = _
    rw [PublishInput.assess, hAmount, toColumn_toMoney]
  have hLeft' : (publishedDemandData ctx input read d).outstanding =
      max 0 (currentDemand + max 0 (input.arrears read.existing) - max 0 paid) := by
    change toColumn (input.assess ctx read).outstanding = _
    rw [PublishInput.assess, hLeft, toColumn_toMoney]
  refine ⟨rfl, ?_, hArrears', hAmount', ?_, ?_⟩
  · rw [hCurrent']
    exact hNonneg
  · rw [hTotal', hCurrent', hArrears']
  · rw [hLeft', hTotal', hAmount']

/-- The write replaces the demand that was read, or adds a new one for the
survey and year. It touches no payment and no arrear row. -/
theorem writePublishedDemand_ok {ctx : Context} {input : PublishInput} {read : PublishRead}
    {db db' : Db} {demandId : Id} (h : writePublishedDemand ctx input read db = .ok (db', demandId)) :
    db'.payments = db.payments ∧ db'.demandArrears = db.demandArrears ∧
    ((∃ existing d, read.existing = some existing ∧ d.id = existing.id ∧
        Replaced db.demands db'.demands d (publishedDemandData ctx input read d)) ∨
      (read.existing = none ∧ Added db.demands db'.demands (publishedDemandData ctx input read
        { id := db.nextId, surveyId := input.survey.id,
          assessmentYearId := input.assessmentYearId }))) := by
  unfold writePublishedDemand at h
  cases hExisting : read.existing with
  | some existing =>
      simp only [hExisting] at h
      obtain ⟨after, hUpdate, hPair⟩ := map_ok h
      obtain ⟨d, demands, hId, hReplaced, rfl⟩ := Db.updateDemand_ok hUpdate fun _ => rfl
      cases hPair
      exact ⟨rfl, rfl, Or.inl ⟨existing, d, rfl, hId, hReplaced⟩⟩
  | none =>
      simp only [hExisting] at h
      obtain ⟨after, hCreate, hPair⟩ := map_ok h
      obtain ⟨demands, hAdded, rfl⟩ := Db.createDemand_ok hCreate
      cases hPair
      exact ⟨rfl, rfl, Or.inr ⟨rfl, hAdded⟩⟩

/-- The write goes through as it is, or is refused and leaves the database alone. -/
theorem storePublishedDemand_cases (ctx : Context) (input : PublishInput) (read : PublishRead)
    (db : Db) :
    (∃ error, storePublishedDemand ctx input read db = (db, .error error)) ∨
      ∃ after demandId, writePublishedDemand ctx input read db = .ok (after, demandId) ∧
        storePublishedDemand ctx input read db = (after, .ok demandId) := by
  unfold storePublishedDemand
  split
  · cases hWrite : writePublishedDemand ctx input read db with
    | error refusal => exact Or.inl ⟨_, rfl⟩
    | ok result => exact Or.inr ⟨result.1, result.2, rfl, rfl⟩
  · exact Or.inl ⟨_, rfl⟩

/-- Without interruption a survey is refused, or its write follows on its reads. -/
theorem upsertPublishedDemandForSurvey_cases (ctx : Context) (input : PublishInput) (db : Db) :
    (∃ error, upsertPublishedDemandForSurvey ctx input db = (db, .error error)) ∨
      upsertPublishedDemandForSurvey ctx input db =
        commit db (writePublishedDemand ctx input (input.read db) db) := by
  unfold upsertPublishedDemandForSurvey storePublishedDemand
  split
  · exact Or.inl ⟨_, rfl⟩
  · split
    · exact Or.inr rfl
    · exact Or.inl ⟨_, rfl⟩

/-! ### The loops -/

section Loops
variable {ctx : Context} {inputFor : Survey → PublishInput} {surveys : List Survey}
  {invariant : Db → Prop}

/-- The first survey that is refused stops the batch. -/
theorem publishBatch_cons_error {survey : Survey} {counts : PublishCounts} {db db' : Db}
    {error : ApiError} (rest : List Survey)
    (h : upsertPublishedDemandForSurvey ctx (inputFor survey) db = (db', .error error)) :
    publishBatch ctx inputFor (survey :: rest) counts db = (db', .error error) := by
  dsimp only [publishBatch]
  rw [h]

/-- A survey that is published is counted, and the batch goes on. -/
theorem publishBatch_cons_ok {survey : Survey} {counts : PublishCounts} {db db' : Db}
    {demandId : Id} (rest : List Survey)
    (h : upsertPublishedDemandForSurvey ctx (inputFor survey) db = (db', .ok demandId)) :
    publishBatch ctx inputFor (survey :: rest) counts db =
      publishBatch ctx inputFor rest
        (if (db.demandFor? survey.id (inputFor survey).assessmentYearId).isSome then
          { counts with updated := counts.updated + 1 }
        else { counts with created := counts.created + 1 }) db' := by
  dsimp only [publishBatch]
  rw [h]

/-- What every publication of a survey keeps, the batch keeps. -/
theorem publishBatch_invariant {page : List Survey} (counts : PublishCounts) {db : Db}
    (hUpsert : ∀ survey ∈ page, ∀ db, invariant db →
      invariant (upsertPublishedDemandForSurvey ctx (inputFor survey) db).1)
    (hStart : invariant db) : invariant (publishBatch ctx inputFor page counts db).1 := by
  induction page generalizing counts db with
  | nil => exact hStart
  | cons survey rest ih =>
      have hFirst := hUpsert survey List.mem_cons_self db hStart
      have hRest : ∀ s ∈ rest, ∀ db, invariant db →
          invariant (upsertPublishedDemandForSurvey ctx (inputFor s) db).1 :=
        fun s hs => hUpsert s (List.mem_cons_of_mem _ hs)
      rcases hResult : upsertPublishedDemandForSurvey ctx (inputFor survey) db with
        ⟨after, _ | demandId⟩
      · rw [hResult] at hFirst
        rw [publishBatch_cons_error rest hResult]
        exact hFirst
      · rw [hResult] at hFirst
        rw [publishBatch_cons_ok rest hResult]
        exact ih _ hRest hFirst

theorem mem_of_mem_surveyPage {cursor : Option Id} {survey : Survey}
    (h : survey ∈ surveyPage surveys cursor) : survey ∈ surveys := by
  cases cursor with
  | none => exact List.mem_of_mem_take h
  | some id =>
      exact (List.dropWhile_suffix _).subset (List.mem_of_mem_drop (List.mem_of_mem_take h))

/-- What every publication of a survey keeps, all the pages keep. -/
theorem publishPages_invariant (fuel : Nat) (cursor : Option Id) (counts : PublishCounts) {db : Db}
    (hUpsert : ∀ survey ∈ surveys, ∀ db, invariant db →
      invariant (upsertPublishedDemandForSurvey ctx (inputFor survey) db).1)
    (hStart : invariant db) :
    invariant (publishPages ctx inputFor surveys fuel cursor counts db).1 := by
  induction fuel generalizing cursor counts db with
  | zero => exact hStart
  | succ fuel ih =>
      have hPage : ∀ survey ∈ surveyPage surveys cursor, ∀ db, invariant db →
          invariant (upsertPublishedDemandForSurvey ctx (inputFor survey) db).1 :=
        fun survey hs => hUpsert survey (mem_of_mem_surveyPage hs)
      have hBatch := publishBatch_invariant counts hPage hStart
      dsimp only [publishPages]
      split
      · exact hStart
      · rcases hResult : publishBatch ctx inputFor (surveyPage surveys cursor) counts db with
          ⟨after, _ | done⟩
        · rw [hResult] at hBatch
          exact hBatch
        · rw [hResult] at hBatch
          dsimp only
          split
          · exact hBatch
          · exact ih _ done hBatch

/-- What publishing one survey preserves, publishing a ward preserves. -/
theorem publishForWard_invariant (invariant : Db → Prop) {wardId assessmentYearId : Id}
    {actorId : Option Id} {db : Db}
    (hUpsert : ∀ taxConfig, wardTaxConfig ctx wardId assessmentYearId = .ok taxConfig →
      ∀ survey ∈ activeSurveysOf ctx.reference wardId, ∀ db, invariant db →
        invariant (upsertPublishedDemandForSurvey ctx
          (wardInput ctx assessmentYearId actorId taxConfig survey) db).1)
    (hLog : ∀ db entry, invariant db → invariant (db.log entry)) (hStart : invariant db) :
    invariant (publishForWard ctx wardId assessmentYearId actorId db).1 := by
  unfold publishForWard
  cases hConfig : wardTaxConfig ctx wardId assessmentYearId with
  | error error => exact hStart
  | ok taxConfig =>
      have hPages := publishPages_invariant
        ((activeSurveysOf ctx.reference wardId).length + 1) none ⟨0, 0⟩
        (hUpsert taxConfig hConfig) hStart
      dsimp only
      rcases hResult : publishPages ctx _ _ _ none ⟨0, 0⟩ db with ⟨after, _ | counts⟩
      · rw [hResult] at hPages
        exact hPages
      · rw [hResult] at hPages
        exact hLog _ _ hPages

end Loops

end PropertyTax
