import PropertyTax.Concurrency.Delivery
import PropertyTax.Library.JsText
import PropertyTax.Library.Runs
import PropertyTax.TaxConfigs.Store

/-! Overlapping calls on one tax adjustment rule. Every call reads the rule,
decides by the status it read, and writes in a second step without looking
again. -/
namespace PropertyTax
open Runs

structure TaxAdjustmentRow where
  kind : TaxAdjustmentKind
  head : TaxAdjustmentHead
  assessmentYearId : Option Id := none
  name : String
  method : TaxAdjustmentMethod
  value : Rate
  cap : Option Money := none
  effectiveFrom : Option Timestamp := none
  effectiveTo : Option Timestamp := none
  status : PublicationStatus := .draft
  publishedAt : Option Timestamp := none
  publishedById : Option Id := none
deriving DecidableEq

/-- The rule as `loadPublishedRules` reads it. -/
def TaxAdjustmentRow.rule (row : TaxAdjustmentRow) : TaxAdjustmentRule where
  kind := row.kind
  head := row.head
  assessmentYearId := row.assessmentYearId
  method := row.method
  value := toRate row.value
  cap := row.cap.map toMoney
  effectiveFrom := row.effectiveFrom
  effectiveTo := row.effectiveTo
  status := row.status

/-- A field is `none` where the request leaves it out, and `some none` where it
sends null or the empty text. -/
structure UpdateTaxAdjustment where
  name : Option String := none
  method : Option TaxAdjustmentMethod := none
  value : Option ℚ := none
  cap : Option (Option ℚ) := none
  assessmentYearId : Option (Option Id) := none
  effectiveFrom : Option (Option String) := none
  effectiveTo : Option (Option String) := none

inductive RuleOperation where
  | update (dto : UpdateTaxAdjustment)
  | publish
  | archive
  | remove

/-- A call, with what it reads besides the rule. -/
structure RuleCall where
  ctx : Context
  actorId : Option Id
  operation : RuleOperation

namespace TaxAdjustmentsService

/-- `new Date(text)`, an invalid date being `none`. -/
def parsed (ctx : Context) (text : Option String) : Option Timestamp := text.bind ctx.parseDate

def assertAssessmentYearOf (ctx : Context) : Option Id → Except ApiError Unit
  | none => .ok ()
  | some id => assertAssessmentYear ctx.reference id

/-- No order is checked where a date is missing or invalid. -/
def assertEffectiveRange (effectiveFrom effectiveTo : Option Timestamp) : Except ApiError Unit :=
  match effectiveFrom, effectiveTo with
  | some start, some stop =>
      if start > stop then
        .error (.badRequest none "effectiveFrom must be on or before effectiveTo")
      else .ok ()
  | _, _ => .ok ()

/-- The checks of `update`, on the rule that it read. -/
def updateCheck (ctx : Context) (dto : UpdateTaxAdjustment) (existing : TaxAdjustmentRow) :
    Except ApiError Unit := do
  if existing.status = .archived then
    throw (.badRequest none "Cannot edit archived tax adjustment rule")
  if existing.status = .published then
    throw (.badRequest none ("Published rules are immutable. " ++
      "Archive and create a new draft to change values."))
  assertAssessmentYearOf ctx (dto.assessmentYearId.getD none)
  assertEffectiveRange
    (match dto.effectiveFrom with
      | some text => parsed ctx text
      | none => existing.effectiveFrom)
    (match dto.effectiveTo with
      | some text => parsed ctx text
      | none => existing.effectiveTo)

def publishCheck (existing : TaxAdjustmentRow) : Except ApiError Unit :=
  if existing.status = .archived then
    .error (.badRequest none "Cannot publish an archived rule")
  else .ok ()

def removeCheck (existing : TaxAdjustmentRow) : Except ApiError Unit :=
  if existing.status = .published then
    .error (.badRequest none "Cannot delete a published rule. Archive it instead.")
  else .ok ()

/-- `toDate`, for a field that is sent. -/
def toDate (ctx : Context) : Option String → Except TaxError (Option Timestamp)
  | none => .ok none
  | some text =>
      match ctx.parseDate text with
      | some date => .ok (some date)
      | none => .error .invalidDate

/-- A field that is left out keeps its value. -/
def written {α β : Type} (field : Option α) (old : β) (write : α → Except TaxError β) :
    Except TaxError β :=
  match field with
  | none => .ok old
  | some value => write value

def storeCap : Option ℚ → Except TaxError (Option Money)
  | none => .ok none
  | some cap =>
      if (toColumn cap).natAbs < 10 ^ 14 then .ok (some (toColumn cap))
      else .error .numericOverflow

/-- The write of `update`, on the rule as it is stored by then. -/
def updateWrite (ctx : Context) (dto : UpdateTaxAdjustment) (row : TaxAdjustmentRow) :
    Except TaxError TaxAdjustmentRow := do
  let value ← written dto.value row.value (storeDecimal 14)
  let cap ← written dto.cap row.cap storeCap
  let effectiveFrom ← written dto.effectiveFrom row.effectiveFrom (toDate ctx)
  let effectiveTo ← written dto.effectiveTo row.effectiveTo (toDate ctx)
  return { row with
    name := (dto.name.map Js.trim).getD row.name
    method := dto.method.getD row.method
    value
    cap
    assessmentYearId := dto.assessmentYearId.getD row.assessmentYearId
    effectiveFrom
    effectiveTo }

def publishWrite (now : Timestamp) (actorId : Option Id) (row : TaxAdjustmentRow) :
    TaxAdjustmentRow :=
  { row with
    status := .published
    publishedAt := some now
    publishedById := actorId.or row.publishedById }

def archiveWrite (row : TaxAdjustmentRow) : TaxAdjustmentRow := { row with status := .archived }

/-- The call goes on to its write. -/
def proceeds (call : RuleCall) (existing : TaxAdjustmentRow) : Bool :=
  match call.operation with
  | .update dto => (updateCheck call.ctx dto existing).isOk
  | .publish => (publishCheck existing).isOk
  | .archive => existing.status ≠ .archived
  | .remove => (removeCheck existing).isOk

/-- The write of a call. It fails where there is no rule any more. -/
def write (call : RuleCall) : Option TaxAdjustmentRow → Option TaxAdjustmentRow
  | none => none
  | some row =>
      match call.operation with
      | .update dto =>
          match updateWrite call.ctx dto row with
          | .ok updated => some updated
          | .error _ => some row
      | .publish => some (publishWrite call.ctx.now call.actorId row)
      | .archive => some (archiveWrite row)
      | .remove => none

end TaxAdjustmentsService

/-! ### Interleavings -/

inductive RuleProgress where
  | waiting
  | checked (existing : TaxAdjustmentRow)
  | finished

variable {Process : Type}

/-- The next step of a call: its read, or its write. -/
def ruleStep (calls : Process → RuleCall) (process : Process) (progress : RuleProgress)
    (rule : Option TaxAdjustmentRow) : RuleProgress × Option TaxAdjustmentRow :=
  match progress with
  | .waiting =>
      match rule with
      | none => (.finished, rule)
      | some existing =>
          if TaxAdjustmentsService.proceeds (calls process) existing then
            (.checked existing, rule)
          else (.finished, rule)
  | .checked _ => (.finished, TaxAdjustmentsService.write (calls process) rule)
  | .finished => (.finished, rule)

def untouched (rule : Option TaxAdjustmentRow) :
    System Process RuleProgress (Option TaxAdjustmentRow) :=
  { shared := rule, locals := fun _ => .waiting }

/-- A call that writes finds the rule in the status that it read, or such that
its checks would still pass. -/
def ChecksStillHold (calls : Process → RuleCall)
    (system : System Process RuleProgress (Option TaxAdjustmentRow)) (process : Process) : Prop :=
  ∀ existing row, system.locals process = .checked existing → system.shared = some row →
    row.status = existing.status ∨ TaxAdjustmentsService.proceeds (calls process) row = true

/-- A call of `remove` that writes finds the rule archived, and deletes it. -/
def DeletesArchived (calls : Process → RuleCall)
    (system : System Process RuleProgress (Option TaxAdjustmentRow)) (process : Process) : Prop :=
  (calls process).operation = .remove ∧ ∃ existing row, system.locals process = .checked existing ∧
    system.shared = some row ∧ row.status = .archived

/-! ### What one step changes -/

/-- What a demand is computed from is the same. -/
structure SameTerms (row row' : TaxAdjustmentRow) : Prop where
  kind : row'.kind = row.kind
  head : row'.head = row.head
  method : row'.method = row.method
  value : row'.value = row.value
  cap : row'.cap = row.cap
  assessmentYearId : row'.assessmentYearId = row.assessmentYearId
  effectiveFrom : row'.effectiveFrom = row.effectiveFrom
  effectiveTo : row'.effectiveTo = row.effectiveTo

theorem SameTerms.refl (row : TaxAdjustmentRow) : SameTerms row row :=
  ⟨rfl, rfl, rfl, rfl, rfl, rfl, rfl, rfl⟩

theorem SameTerms.trans {row row' row'' : TaxAdjustmentRow} (h : SameTerms row row')
    (h' : SameTerms row' row'') : SameTerms row row'' :=
  ⟨h'.kind.trans h.kind, h'.head.trans h.head, h'.method.trans h.method, h'.value.trans h.value,
    h'.cap.trans h.cap, h'.assessmentYearId.trans h.assessmentYearId,
    h'.effectiveFrom.trans h.effectiveFrom, h'.effectiveTo.trans h.effectiveTo⟩

/-- A demand is computed from the same rule, but for its status. -/
theorem SameTerms.rule {row row' : TaxAdjustmentRow} (h : SameTerms row row') :
    row'.rule = { row.rule with status := row'.status } := by
  simp only [TaxAdjustmentRow.rule, h.kind, h.head, h.method, h.value, h.cap, h.assessmentYearId,
    h.effectiveFrom, h.effectiveTo]

/-- A published rule keeps its terms and stays published or becomes archived. An
archived rule is deleted or stays as it is. -/
structure RuleKept (rule rule' : Option TaxAdjustmentRow) : Prop where
  gone : rule = none → rule' = none
  published : ∀ row, rule = some row → row.status = .published →
    ∃ row', rule' = some row' ∧ SameTerms row row' ∧
      (row'.status = .published ∨ row'.status = .archived)
  archived : ∀ row, rule = some row → row.status = .archived → rule' = none ∨ rule' = some row

theorem RuleKept.refl (rule : Option TaxAdjustmentRow) : RuleKept rule rule :=
  ⟨id, fun row hRow hPublished => ⟨row, hRow, .refl row, .inl hPublished⟩,
    fun _ hRow _ => .inr hRow⟩

section Steps
variable {calls : Process → RuleCall} {call : RuleCall} {existing row : TaxAdjustmentRow}

/-- The checks of an update pass on a draft only. -/
theorem draft_of_updateCheck {ctx : Context} {dto : UpdateTaxAdjustment}
    (h : (TaxAdjustmentsService.updateCheck ctx dto existing).isOk = true) :
    existing.status = .draft := by
  cases hStatus : existing.status with
  | draft => rfl
  | published =>
      rw [TaxAdjustmentsService.updateCheck, hStatus] at h
      cases h
  | archived =>
      rw [TaxAdjustmentsService.updateCheck, hStatus] at h
      cases h

/-- A write on the status that was read, by the operation. -/
theorem write_kept (hProceeds : TaxAdjustmentsService.proceeds call existing = true)
    (hStatus : row.status = existing.status) :
    RuleKept (some row) (TaxAdjustmentsService.write call (some row)) := by
  obtain ⟨ctx, actorId, operation⟩ := call
  refine ⟨nofun, ?_, ?_⟩
  · rintro _ ⟨⟩ hPublished
    cases operation with
    | update dto =>
        have hDraft := draft_of_updateCheck hProceeds
        rw [← hStatus, hPublished] at hDraft
        cases hDraft
    | publish => exact ⟨_, rfl, ⟨rfl, rfl, rfl, rfl, rfl, rfl, rfl, rfl⟩, .inl rfl⟩
    | archive => exact ⟨_, rfl, ⟨rfl, rfl, rfl, rfl, rfl, rfl, rfl, rfl⟩, .inr rfl⟩
    | remove =>
        simp [TaxAdjustmentsService.proceeds, TaxAdjustmentsService.removeCheck, ← hStatus,
          hPublished, Except.isOk, Except.toBool] at hProceeds
  · rintro _ ⟨⟩ hArchived
    cases operation with
    | update dto =>
        have hDraft := draft_of_updateCheck hProceeds
        rw [← hStatus, hArchived] at hDraft
        cases hDraft
    | publish =>
        simp [TaxAdjustmentsService.proceeds, TaxAdjustmentsService.publishCheck, ← hStatus,
          hArchived, Except.isOk, Except.toBool] at hProceeds
    | archive =>
        simp [TaxAdjustmentsService.proceeds, ← hStatus, hArchived] at hProceeds
    | remove => exact .inl rfl

/-- A call is about to write only if its checks let it. -/
def ChecksPassed (calls : Process → RuleCall)
    (system : System Process RuleProgress (Option TaxAdjustmentRow)) : Prop :=
  ∀ process existing, system.locals process = .checked existing →
    TaxAdjustmentsService.proceeds (calls process) existing = true

variable [DecidableEq Process] {system : System Process RuleProgress (Option TaxAdjustmentRow)}

theorem ChecksPassed.step (h : ChecksPassed calls system) (process : Process) :
    ChecksPassed calls (fire (ruleStep calls) system process) := by
  intro other existing hLocal
  by_cases hOther : other = process
  · subst hOther
    rw [fire_locals_self] at hLocal
    cases hBefore : system.locals other with
    | waiting =>
        rw [hBefore] at hLocal
        cases hRule : system.shared with
        | none =>
            simp only [ruleStep, hRule] at hLocal
            cases hLocal
        | some row =>
            simp only [ruleStep, hRule] at hLocal
            split_ifs at hLocal with hProceeds
            cases hLocal
            exact hProceeds
    | checked found =>
        rw [hBefore] at hLocal
        cases hLocal
    | finished =>
        rw [hBefore] at hLocal
        cases hLocal
  · rw [fire_locals_of_ne system hOther] at hLocal
    exact h other existing hLocal

/-- A write whose check still holds leaves the terms of a published rule, and an archived rule,
alone. -/
theorem ruleStep_kept (h : ChecksPassed calls system) {process : Process}
    (hStill : ChecksStillHold calls system process) :
    RuleKept system.shared (fire (ruleStep calls) system process).shared := by
  rw [fire_shared]
  cases hLocal : system.locals process with
  | waiting =>
      cases hRule : system.shared with
      | none => exact .refl none
      | some row =>
          simp only [ruleStep]
          split_ifs <;> exact .refl (some row)
  | checked existing =>
      cases hRule : system.shared with
      | none => exact .refl none
      | some row =>
          rcases hStill existing row hLocal hRule with hStatus | hProceeds
          · exact write_kept (h process existing hLocal) hStatus
          · exact write_kept hProceeds rfl
  | finished => exact .refl _

/-- Only a deletion takes an archived rule away. -/
theorem ruleStep_archived (h : ChecksPassed calls system) {process : Process}
    (hStill : ChecksStillHold calls system process) (hKept : ¬ DeletesArchived calls system process)
    (hRow : system.shared = some row) (hArchived : row.status = .archived) :
    (fire (ruleStep calls) system process).shared = some row := by
  rcases (ruleStep_kept h hStill).archived row hRow hArchived with hNone | hSome
  · refine absurd ?_ hKept
    rw [fire_shared] at hNone
    cases hLocal : system.locals process with
    | waiting =>
        rw [hLocal, hRow] at hNone
        simp only [ruleStep] at hNone
        split_ifs at hNone
    | checked existing =>
        refine ⟨?_, existing, row, hLocal, hRow, hArchived⟩
        rw [hLocal, hRow] at hNone
        simp only [ruleStep, TaxAdjustmentsService.write] at hNone
        cases hOperation : (calls process).operation with
        | remove => rfl
        | update dto =>
            simp only [hOperation] at hNone
            split at hNone <;> cases hNone
        | publish =>
            simp only [hOperation] at hNone
            cases hNone
        | archive =>
            simp only [hOperation] at hNone
            cases hNone
    | finished =>
        rw [hLocal, hRow] at hNone
        cases hNone
  · exact hSome

/-! ### Runs -/

/-- An archived rule stays as it is while the checks hold, or is deleted. -/
theorem archived_run {schedule : List Process} (h : ChecksPassed calls system)
    (hAlong : Along (fire (ruleStep calls)) (ChecksStillHold calls) system schedule)
    (hRow : system.shared = some row) (hArchived : row.status = .archived) :
    (run (fire (ruleStep calls)) system schedule).shared = none ∨
      (run (fire (ruleStep calls)) system schedule).shared = some row := by
  have hKept := run_invariant_along (fun s => ChecksPassed calls s ∧
    (s.shared = none ∨ s.shared = some row)) (fun s process hInv hStill => ?_)
    ⟨h, .inr hRow⟩ hAlong
  · exact hKept.2
  · obtain ⟨hChecks, hNone | hSome⟩ := hInv
    · exact ⟨hChecks.step process, .inl ((ruleStep_kept hChecks hStill).gone hNone)⟩
    · exact ⟨hChecks.step process, (ruleStep_kept hChecks hStill).archived row hSome hArchived⟩

/-- What becomes of a published rule: it keeps its terms while it exists, and it
was archived before it is gone. -/
theorem published_run (schedule : List Process) (h : ChecksPassed calls system)
    (hAlong : Along (fire (ruleStep calls)) (ChecksStillHold calls) system schedule)
    (hRow : system.shared = some row) (hPublished : row.status = .published) :
    (∀ row', (run (fire (ruleStep calls)) system schedule).shared = some row' →
      SameTerms row row' ∧ (row'.status = .published ∨ row'.status = .archived)) ∧
    ((run (fire (ruleStep calls)) system schedule).shared = none →
      ∃ before after, schedule = before ++ after ∧ ∃ row',
        (run (fire (ruleStep calls)) system before).shared = some row' ∧
          row'.status = .archived) := by
  induction schedule generalizing system row with
  | nil =>
      refine ⟨fun row' hRow' => ?_, fun hGone => ?_⟩
      · rw [run_nil, hRow] at hRow'
        cases hRow'
        exact ⟨.refl row, .inl hPublished⟩
      · rw [run_nil, hRow] at hGone
        cases hGone
  | cons process rest ih =>
      obtain ⟨next, hNext, hSame, hStatus⟩ :=
        (ruleStep_kept h hAlong.1).published row hRow hPublished
      rw [run_cons]
      rcases hStatus with hStill | hArchived
      · obtain ⟨hTerms, hGone⟩ := ih (h.step process) hAlong.2 hNext hStill
        refine ⟨fun row' hRow' => ?_, fun hNone => ?_⟩
        · exact ⟨hSame.trans (hTerms row' hRow').1, (hTerms row' hRow').2⟩
        · obtain ⟨before, after, rfl, hBefore⟩ := hGone hNone
          exact ⟨process :: before, after, rfl, hBefore⟩
      · refine ⟨fun row' hRow' => ?_, fun _ => ?_⟩
        · rcases archived_run (h.step process) hAlong.2 hNext hArchived with hNone | hSome
          · rw [hNone] at hRow'
            cases hRow'
          · rw [hSome] at hRow'
            cases hRow'
            exact ⟨hSame, .inr hArchived⟩
        · exact ⟨[process], rest, rfl, next, hNext, hArchived⟩

/-- A rule that was published stays stored where no archived rule is deleted. -/
theorem stored_run {schedule : List Process} (h : ChecksPassed calls system)
    (hAlong : Along (fire (ruleStep calls)) (ChecksStillHold calls) system schedule)
    (hKept : Along (fire (ruleStep calls)) (fun s process => ¬ DeletesArchived calls s process)
      system schedule)
    (hRow : system.shared = some row) (hStatus : row.status = .published ∨ row.status = .archived) :
    (run (fire (ruleStep calls)) system schedule).shared ≠ none := by
  have hStored := run_invariant_along (fun s => ChecksPassed calls s ∧ ∃ row', s.shared = some row' ∧
    (row'.status = .published ∨ row'.status = .archived)) ?_ ⟨h, row, hRow, hStatus⟩
    (hAlong.and hKept)
  · obtain ⟨-, row', hRow', -⟩ := hStored
    rw [hRow']
    exact Option.some_ne_none row'
  · rintro s process ⟨hChecks, row', hRow', hPublished | hArchived⟩ ⟨hStill, hDeletes⟩
    · obtain ⟨next, hNext, -, hNextStatus⟩ :=
        (ruleStep_kept hChecks hStill).published row' hRow' hPublished
      exact ⟨hChecks.step process, next, hNext, hNextStatus⟩
    · exact ⟨hChecks.step process, row',
        ruleStep_archived hChecks hStill hDeletes hRow' hArchived, .inr hArchived⟩

omit [DecidableEq Process] in
theorem checksPassed_untouched (rule : Option TaxAdjustmentRow) :
    ChecksPassed calls (untouched rule) := fun _ _ hLocal => by cases hLocal

end Steps

/-- Where the checks of a call still hold at its write, a rule keeps its terms
once it is published, it is not deleted before it is archived, and an archived
rule does not change any more until it is deleted, which `remove` alone does. -/
theorem published_rule_kept [DecidableEq Process] (calls : Process → RuleCall)
    (rule : Option TaxAdjustmentRow) (first second : List Process)
    (hAlong : Along (fire (ruleStep calls)) (ChecksStillHold calls) (untouched rule) (first ++ second)) :
    ∀ row, (run (fire (ruleStep calls)) (untouched rule) first).shared = some row →
      (row.status = .published →
        (∀ row', (run (fire (ruleStep calls)) (untouched rule) (first ++ second)).shared =
          some row' → SameTerms row row' ∧ row'.status ≠ .draft ∧
            row'.rule = { row.rule with status := row'.status }) ∧
        ((run (fire (ruleStep calls)) (untouched rule) (first ++ second)).shared = none →
          ∃ before after, second = before ++ after ∧ ∃ row',
            (run (fire (ruleStep calls)) (untouched rule) (first ++ before)).shared = some row' ∧
              row'.status = .archived)) ∧
      (row.status = .archived → ∀ row',
        (run (fire (ruleStep calls)) (untouched rule) (first ++ second)).shared = some row' →
          row' = row) ∧
      (row.status = .published ∨ row.status = .archived →
        Along (fire (ruleStep calls)) (fun system process => ¬ DeletesArchived calls system process)
          (run (fire (ruleStep calls)) (untouched rule) first) second →
        (run (fire (ruleStep calls)) (untouched rule) (first ++ second)).shared ≠ none) := by
  intro row hRow
  obtain ⟨hFirst, hSecond⟩ := Along.append.mp hAlong
  have hChecks : ChecksPassed calls (run (fire (ruleStep calls)) (untouched rule) first) :=
    run_invariant _ (fun _ process h => h.step process) (checksPassed_untouched rule) first
  rw [run_append]
  refine ⟨fun hPublished => ?_, fun hArchived row' hRow' => ?_, fun hStatus hKept =>
    stored_run hChecks hSecond hKept hRow hStatus⟩
  · obtain ⟨hTerms, hGone⟩ := published_run second hChecks hSecond hRow hPublished
    refine ⟨fun row' hRow' => ?_, fun hNone => ?_⟩
    · refine ⟨(hTerms row' hRow').1, fun hDraft => ?_, (hTerms row' hRow').1.rule⟩
      rcases (hTerms row' hRow').2 with hStatus | hStatus
      · rw [hStatus] at hDraft
        cases hDraft
      · rw [hStatus] at hDraft
        cases hDraft
    · obtain ⟨before, after, hSplit, row', hBefore, hArchived⟩ := hGone hNone
      refine ⟨before, after, hSplit, row', ?_, hArchived⟩
      rw [run_append]
      exact hBefore
  · rcases archived_run hChecks hSecond hRow hArchived with hNone | hSome
    · rw [hNone] at hRow'
      cases hRow'
    · rw [hSome] at hRow'
      exact (Option.some.inj hRow').symm

namespace Sample

def draftRule : TaxAdjustmentRow where
  kind := .rebate
  head := .property
  name := "Early payment"
  method := .percentOfHead
  value := 50000

/-- The first call publishes the rule, the second archives it, the others delete it. -/
def ruleCalls (process : Nat) : RuleCall where
  ctx := context
  actorId := some 1
  operation := if process = 0 then .publish else if process = 1 then .archive else .remove

/-- The rule after some steps. -/
def ruleAfter (schedule : List Nat) : System Nat RuleProgress (Option TaxAdjustmentRow) :=
  run (fire (ruleStep ruleCalls)) (untouched (some draftRule)) schedule

end Sample

/-- A published rule is archived, and keeps its terms. -/
theorem published_rule_kept_archived :
    ((Sample.ruleAfter [0, 0]).shared.map (·.status) = some .published ∧
      (Sample.ruleAfter [0, 0, 1, 1]).shared.map (·.status) = some .archived) ∧
    ∀ row, (Sample.ruleAfter [0, 0]).shared = some row →
      (row.status = .published →
        (∀ row', (Sample.ruleAfter [0, 0, 1, 1]).shared = some row' →
          SameTerms row row' ∧ row'.status ≠ .draft ∧
            row'.rule = { row.rule with status := row'.status }) ∧
        ((Sample.ruleAfter [0, 0, 1, 1]).shared = none → ∃ before after, [1, 1] = before ++ after ∧
          ∃ row', (Sample.ruleAfter ([0, 0] ++ before)).shared = some row' ∧
            row'.status = .archived)) ∧
      (row.status = .archived → ∀ row',
        (Sample.ruleAfter [0, 0, 1, 1]).shared = some row' → row' = row) ∧
      (row.status = .published ∨ row.status = .archived →
        Along (fire (ruleStep Sample.ruleCalls))
          (fun system process => ¬ DeletesArchived Sample.ruleCalls system process)
          (Sample.ruleAfter [0, 0]) [1, 1] →
        (Sample.ruleAfter [0, 0, 1, 1]).shared ≠ none) := by
  refine ⟨by decide, published_rule_kept Sample.ruleCalls (some Sample.draftRule)
    [0, 0] [1, 1] ⟨?_, ?_, ?_, ?_, trivial⟩⟩
  · intro existing row hLocal
    cases hLocal
  · intro existing row hLocal hRow
    cases hLocal
    cases hRow
    exact .inl rfl
  · intro existing row hLocal
    cases hLocal
  · intro existing row hLocal hRow
    cases hLocal
    cases hRow
    exact .inl rfl

namespace Sample

/-- The first call publishes the rule, the second doubles its value. -/
def racingCalls (process : Nat) : RuleCall where
  ctx := context
  actorId := some 1
  operation := if process = 0 then .publish else .update { value := some 10 }

def racedRule (schedule : List Nat) : System Nat RuleProgress (Option TaxAdjustmentRow) :=
  run (fire (ruleStep racingCalls)) (untouched (some draftRule)) schedule

end Sample

/-- The update reads the draft, the rule is published, and the update writes over it. -/
theorem published_rule_rewritten :
    ¬ ∀ (calls : Nat → RuleCall) (rule : Option TaxAdjustmentRow) (first second : List Nat),
      ∀ row, (run (fire (ruleStep calls)) (untouched rule) first).shared = some row →
        row.status = .published → ∀ row',
          (run (fire (ruleStep calls)) (untouched rule) (first ++ second)).shared = some row' →
            SameTerms row row' := by
  intro h
  have hBefore : (Sample.racedRule [1, 0, 0]).shared.map (fun row => (row.status, row.value)) =
      some (.published, 50000) := by decide
  have hAfter : (Sample.racedRule [1, 0, 0, 1]).shared.map TaxAdjustmentRow.value =
      some 100000 := by decide +kernel
  obtain ⟨row, hRow, hTerms⟩ := Option.map_eq_some_iff.mp hBefore
  obtain ⟨row', hRow', hValue⟩ := Option.map_eq_some_iff.mp hAfter
  obtain ⟨hPublished, hOld⟩ := Prod.mk.inj hTerms
  have hSame := (h _ _ [1, 0, 0] [1] row hRow hPublished row' hRow').value
  rw [hValue, hOld] at hSame
  exact absurd hSame (by decide)

end PropertyTax
