import PropertyTax.Demands.Publish

/-! The year-end run: what is unpaid on the published demands of one year is
carried into the demands of another as arrears. -/
namespace PropertyTax
open KeyedTable

def assertDistinctAssessmentYears (reference : Reference) (fromYearId toYearId : Id) :
    Except ApiError Unit :=
  if fromYearId = toYearId then
    .error (.badRequest none "fromYearId and toYearId must be different assessment years")
  else
    let years := reference.referenceEntries.filter fun e =>
      e.ref.id = fromYearId ∨ e.ref.id = toYearId
    if years.length ≠ 2 then .error (.badRequest none "Invalid assessment year id")
    else if years.all fun e => e.categoryCode = "ASSESSMENT_YEAR" then .ok ()
    else .error (.badRequest none "Invalid assessment year")

structure ProposedArrear where
  surveyId : Id
  municipalSurveyId : Option String
  ownerName : Option String
  fromOutstanding : ℚ
  sourceAssessmentYearId : Id
  targetAssessmentYearId : Id

structure YearEndPreview where
  fromYearId : Id
  toYearId : Id
  count : Nat
  totalArrears : ℚ
  alreadyCommitted : Bool
  proposedArrears : List ProposedArrear

def yearEndRun? (db : Db) (fromYearId toYearId : Id) : Option YearEndRun :=
  db.yearEndRuns.findFirst? fun r =>
    r.fromAssessmentYearId = fromYearId ∧ r.toAssessmentYearId = toYearId

/-- The published demands of a year that are not paid, largest balance first. -/
def unpaidDemands (db : Db) (fromYearId : Id) : List PropertyDemand :=
  ((db.demands.rows.filter fun d => d.assessmentYearId = fromYearId ∧ d.status = .published ∧
    0 < d.outstanding).insertionSort fun d e => e.outstanding ≤ d.outstanding).take 5000

def proposedArrear (reference : Reference) (fromYearId toYearId : Id) (d : PropertyDemand) :
    ProposedArrear where
  surveyId := d.surveyId
  municipalSurveyId := (reference.survey? d.surveyId).map Survey.surveyId
  ownerName := (reference.survey? d.surveyId).bind Survey.ownerName
  fromOutstanding := toMoney d.outstanding
  sourceAssessmentYearId := fromYearId
  targetAssessmentYearId := toYearId

def previewYearEnd (ctx : Context) (fromYearId toYearId : Id) (db : Db) :
    Except ApiError YearEndPreview :=
  (assertDistinctAssessmentYears ctx.reference fromYearId toYearId).map fun _ =>
    let proposedArrears :=
      (unpaidDemands db fromYearId).map (proposedArrear ctx.reference fromYearId toYearId)
    let totalArrears := proposedArrears.foldl (fun s r => s + r.fromOutstanding) 0
    { fromYearId, toYearId, count := proposedArrears.length,
      totalArrears := roundMoney totalArrears
      alreadyCommitted :=
        (yearEndRun? db fromYearId toYearId).any fun r => r.status = .committed
      proposedArrears }

structure CarryCounts where
  carried : Nat
  skipped : Nat
deriving DecidableEq

/-- `target.demandArrears` -/
def demandArrearsOf (demandArrears : KeyedTable DemandArrear) (demandId : Id) :
    List DemandArrear :=
  demandArrears.rows.filter fun a => a.demandId = demandId

/-- The target of a carry: the stored demand of the year, or a new draft. -/
def carryTarget (row : ProposedArrear) (db : Db) : Except Refusal (Db × PropertyDemand) :=
  match db.demandFor? row.surveyId row.targetAssessmentYearId with
  | some target => .ok (db, target)
  | none =>
      let draft (id : Id) : PropertyDemand :=
        { id
          surveyId := row.surveyId
          assessmentYearId := row.targetAssessmentYearId
          status := .draft
          arrears := toColumn row.fromOutstanding
          totalPayable := toColumn row.fromOutstanding
          outstanding := toColumn row.fromOutstanding
          amountPaid := 0
          currentDemand := 0
          verified := true }
      (db.createDemand draft).map fun after => (after, draft db.nextId)

/-- `data` of the update of a carry target. -/
def carriedDemandData (target : PropertyDemand) (arrearsSum : ℚ) (d : PropertyDemand) :
    PropertyDemand :=
  let totalPayable := roundMoney (toMoney target.currentDemand + arrearsSum)
  { d with
    arrears := toColumn arrearsSum
    totalPayable := toColumn totalPayable
    outstanding := toColumn (roundMoney (max 0 (totalPayable - toMoney target.amountPaid))) }

/-- Carry one balance, unless its target has an arrear row from the same year. -/
def carryRow (row : ProposedArrear) (counts : CarryCounts) (db : Db) :
    Except Refusal (Db × CarryCounts) := do
  let (db, target) ← carryTarget row db
  let arrearRows := demandArrearsOf db.demandArrears target.id
  if arrearRows.any fun a => a.sourceAssessmentYearId = row.sourceAssessmentYearId then
    return (db, { counts with skipped := counts.skipped + 1 })
  else
    let after ← db.createDemandArrear fun id =>
      { id
        demandId := target.id
        sourceAssessmentYearId := row.sourceAssessmentYearId
        amount := toColumn row.fromOutstanding }
    let arrearsSum := (arrearRows.map fun a => toMoney a.amount).sum + row.fromOutstanding
    let after ← after.updateDemand target.id (carriedDemandData target arrearsSum)
    return (after, { counts with carried := counts.carried + 1 })

def carryRows : List ProposedArrear → CarryCounts → Db → Except Refusal (Db × CarryCounts)
  | [], counts, db => .ok (db, counts)
  | row :: rest, counts, db => do
      let (db, counts) ← carryRow row counts db
      carryRows rest counts db

structure YearEndResult where
  noop : Bool
  run : Option YearEndRun
  summary : Option YearEndSummary
  carried : Option Nat
  skipped : Option Nat

/-- Mark the run of the two years as committed. -/
def writeYearEndRun (existingRun : Option YearEndRun) (fromYearId toYearId : Id)
    (summary : YearEndSummary) (now : Timestamp) (actorId : Option Id) (db : Db) :
    Except Refusal (Db × Id) :=
  match existingRun with
  | some run =>
      (db.updateYearEndRun run.id fun r => { r with
        status := .committed
        summary := some summary
        committedAt := some now
        createdById := actorId.or r.createdById }).map fun after => (after, run.id)
  | none =>
      (db.createYearEndRun fun id =>
        { id
          fromAssessmentYearId := fromYearId
          toAssessmentYearId := toYearId
          status := .committed
          summary := some summary
          createdById := actorId
          committedAt := some now }).map fun after => (after, db.nextId)

def yearEndTransaction (ctx : Context) (existingRun : Option YearEndRun)
    (preview : YearEndPreview) (actorId : Option Id) (db : Db) :
    Except Refusal (Db × YearEndResult) := do
  let (db, counts) ← carryRows preview.proposedArrears ⟨0, 0⟩ db
  let summary : YearEndSummary :=
    { count := preview.count, totalArrears := preview.totalArrears,
      carried := counts.carried, skipped := counts.skipped }
  let (db, runId) ←
    writeYearEndRun existingRun preview.fromYearId preview.toYearId summary ctx.now actorId db
  return (db, { noop := false, run := db.yearEndRuns.find? runId, summary := some summary,
                carried := some counts.carried, skipped := some counts.skipped })

def commitYearEnd (ctx : Context) (fromYearId toYearId : Id) (actorId : Option Id) (db : Db) :
    Reply YearEndResult :=
  match assertDistinctAssessmentYears ctx.reference fromYearId toYearId with
  | .error error => (db, .error error)
  | .ok () =>
      let existingRun := yearEndRun? db fromYearId toYearId
      match existingRun.filter fun r => r.status = .committed with
      | some run =>
          (db, .ok { noop := true, run := some run, summary := run.summary, carried := none,
                     skipped := none })
      | none =>
          match previewYearEnd ctx fromYearId toYearId db with
          | .error error => (db, .error error)
          | .ok preview =>
              match commit db (yearEndTransaction ctx existingRun preview actorId db) with
              | (db, .error error) => (db, .error error)
              | (db, .ok result) =>
                  let entry : AuditEntry :=
                    { action := "YEAR_END_COMMIT"
                      entity := "YearEndRun"
                      entityId := result.run.map fun run => toString run.id
                      actorId
                      newValue := result.summary.map fun summary => .obj
                        [("count", .num summary.count), ("totalArrears", .num summary.totalArrears),
                         ("carried", .num summary.carried), ("skipped", .num summary.skipped)] }
                  (db.log entry, .ok result)

end PropertyTax
