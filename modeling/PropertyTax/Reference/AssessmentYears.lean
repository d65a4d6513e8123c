import Mathlib.Data.String.Basic
import PropertyTax.Library.JsonText
import PropertyTax.Schema
import PropertyTax.Sent

/-! The catalogue of assessment years. The dates of a year are a text in a column that other
catalogues use for other things, and are read again at every check. -/
namespace PropertyTax
open KeyedTable

/-! ### Tables -/

inductive ReferenceEntryStatus where
  | active | inactive
deriving DecidableEq

structure ReferenceCategory where
  id : Id
  code : String
deriving DecidableEq

structure ReferenceEntryRow where
  id : Id
  categoryId : Id
  code : String
  name : String
  description : Option String := none
  value : Option String := none
  sortOrder : ℤ := 0
  status : ReferenceEntryStatus := .active
deriving DecidableEq

instance : KeyedRow ReferenceCategory Id where
  key := ReferenceCategory.id
  clash p q := decide (p.id = q.id) || decide (p.code = q.code)
  clash_symm p q := by simp only [eq_comm]
  clash_of_key p q h := by simp [h]

instance : KeyedRow ReferenceEntryRow Id where
  key := ReferenceEntryRow.id
  clash p q := decide (p.id = q.id) ||
    (decide (p.categoryId = q.categoryId) && decide (p.code = q.code))
  clash_symm p q := by simp only [eq_comm]
  clash_of_key p q h := by simp [h]

structure ReferenceDb where
  categories : KeyedTable ReferenceCategory
  entries : KeyedTable ReferenceEntryRow
  nextId : Id

/-- The years that other tables refer to at the time of a call. The last ones are those of tables
that the service does not count, but whose rows keep the database from deleting. -/
structure YearReferences where
  taxConfigs : List Id := []
  demands : List Id := []
  payments : List Id := []
  restricted : List Id := []

inductive YearError where
  | api (error : ApiError)
  | foreignKeyViolation
  | invalidData
  | typeError
deriving DecidableEq

/-! ### Ranges -/

structure YearRange where
  startDate : String
  endDate : String
deriving DecidableEq

/-- `/^\d{4}-\d{2}-\d{2}$/` -/
def isIsoDate (text : String) : Bool :=
  let chars := text.toList
  chars.length = 10 && (chars.take 4).all Char.isDigit && chars[4]? == some '-' &&
    ((chars.drop 5).take 2).all Char.isDigit && chars[7]? == some '-' &&
    (chars.drop 8).all Char.isDigit

/-- Other texts are ignored. -/
def rangeOf : Option Json → Option YearRange
  | some (.obj fields) =>
      match Json.Fields.get fields "startDate", Json.Fields.get fields "endDate" with
      | some (.str startDate), some (.str endDate) =>
          if isIsoDate startDate && isIsoDate endDate then some ⟨startDate, endDate⟩ else none
      | _, _ => none
  | _ => none

def parseYearRange (value : Option String) : Option YearRange :=
  let value := value.getD ""
  if Js.isBlank value then none else rangeOf (Json.parse value)

/-- Texts of dates are ordered as the dates are. -/
def rangesOverlap (a b : YearRange) : Bool := a.startDate ≤ b.endDate && b.startDate ≤ a.endDate

def bothRequired : YearError := .api (.badRequest none
  "Both startDate and endDate are required when setting assessment year dates")

/-- `JSON.stringify({ startDate, endDate })` -/
def stringifyRange (startDate endDate : String) : String :=
  Json.stringifyStrings [("startDate", startDate), ("endDate", endDate)]

def buildValue (startDate endDate : Sent String) (previous : Option String) :
    Except YearError (Option String) :=
  let prev := parseYearRange previous
  match startDate.write (prev.map YearRange.startDate),
      endDate.write (prev.map YearRange.endDate) with
  | none, none => .ok (if startDate = .null ∧ endDate = .null then none else previous)
  | some first, some last =>
      if first = "" ∨ last = "" then .error bothRequired
      else if last < first then
        .error (.api (.badRequest none "startDate must be on or before endDate"))
      else .ok (some (stringifyRange first last))
  | _, _ => .error bothRequired

/-! ### Requests -/

structure CreateAssessmentYearDto where
  code : String
  name : String
  description : Option String := none
  startDate : Sent String := .absent
  endDate : Sent String := .absent
  sortOrder : Option ℤ := none

/-- `IsOptional` lets null through for every field. -/
structure UpdateAssessmentYearDto where
  name : Sent String := .absent
  description : Sent String := .absent
  startDate : Sent String := .absent
  endDate : Sent String := .absent
  sortOrder : Sent ℤ := .absent

/-- `text?.trim() || null` -/
def trimmedOrNull (text : Option String) : Option String :=
  (text.map Js.trim).filter fun trimmed => trimmed ≠ ""

def UpdateAssessmentYearDto.apply (dto : UpdateAssessmentYearDto) (value : Option String)
    (row : ReferenceEntryRow) : ReferenceEntryRow :=
  { row with
    name := (dto.name.value?.map Js.trim).getD row.name
    description :=
      if dto.description = .absent then row.description else trimmedOrNull dto.description.value?
    sortOrder := dto.sortOrder.value?.getD row.sortOrder
    value := if dto.startDate = .absent ∧ dto.endDate = .absent then row.value else value }

/-! ### Calls -/

namespace ReferenceService

def ASSESSMENT_YEAR : String := "ASSESSMENT_YEAR"

def refused : Refusal → YearError := fun refusal => .api (.database refusal)

def assessmentYearCategoryId (db : ReferenceDb) : Except YearError Id :=
  match db.categories.findFirst? fun category => category.code = ASSESSMENT_YEAR with
  | none => .error (.api (.notFound none "ASSESSMENT_YEAR category not found"))
  | some category => .ok category.id

def requireAssessmentYear (db : ReferenceDb) (id : Id) : Except YearError ReferenceEntryRow :=
  match db.entries.find? id with
  | none => .error (.api (.notFound none "Assessment year not found"))
  | some entry =>
      if (db.categories.find? entry.categoryId).any fun category =>
          category.code = ASSESSMENT_YEAR then .ok entry
      else .error (.api (.notFound none "Assessment year not found"))

/-- The active entries of the category, but for one. -/
def actives (db : ReferenceDb) (categoryId : Id) (excludeId : Option Id) :
    List ReferenceEntryRow :=
  db.entries.rows.filter fun row =>
    row.categoryId = categoryId ∧ row.status = .active ∧ excludeId ≠ some row.id

def overlapped (next : YearRange) (row : ReferenceEntryRow) : Bool :=
  (parseYearRange row.value).any (rangesOverlap next)

def assertNoOverlap (db : ReferenceDb) (categoryId : Id) (nextValue : Option String)
    (excludeId : Option Id) : Except YearError Unit :=
  match parseYearRange nextValue with
  | none => .ok ()
  | some next =>
      match (actives db categoryId excludeId).find? (overlapped next) with
      | none => .ok ()
      | some row => .error (.api (.conflict none ("Date range overlaps active assessment year " ++
          row.name ++ " (" ++ row.code ++ ")")))

def assertNewCode (db : ReferenceDb) (categoryId : Id) (code : String) : Except YearError Unit :=
  if (db.entries.findFirst? fun e => e.categoryId = categoryId ∧ e.code = code).isSome then
    .error (.api (.conflict none ("Assessment year code already exists: " ++ code)))
  else .ok ()

def createAssessmentYear (db : ReferenceDb) (dto : CreateAssessmentYearDto) :
    Except YearError ReferenceDb := do
  let categoryId ← assessmentYearCategoryId db
  let code := Js.toUpperCase (Js.trim dto.code)
  assertNewCode db categoryId code
  let value ← buildValue dto.startDate dto.endDate none
  assertNoOverlap db categoryId value none
  let created : ReferenceEntryRow :=
    { id := db.nextId
      categoryId := categoryId
      code := code
      name := Js.trim dto.name
      description := trimmedOrNull dto.description
      value := value
      sortOrder := dto.sortOrder.getD 0
      status := .active }
  let entries ← (db.entries.insert created).mapError refused
  return { db with entries, nextId := db.nextId + 1 }

/-- The check of an edit, which only active years need. -/
def assertStaysApart (db : ReferenceDb) (existing : ReferenceEntryRow) (value : Option String) :
    Except YearError Unit :=
  if existing.status = .active then
    assertNoOverlap db existing.categoryId value (some existing.id)
  else .ok ()

/-- `dto.name.trim()` of null, and a column that is not nullable. -/
def assertNoNull (dto : UpdateAssessmentYearDto) : Except YearError Unit :=
  if dto.name = .null then .error .typeError
  else if dto.sortOrder = .null then .error .invalidData
  else .ok ()

def updateAssessmentYear (db : ReferenceDb) (id : Id) (dto : UpdateAssessmentYearDto) :
    Except YearError ReferenceDb := do
  let existing ← requireAssessmentYear db id
  let value ← buildValue dto.startDate dto.endDate existing.value
  assertStaysApart db existing value
  assertNoNull dto
  let entries ← (db.entries.update id (dto.apply value)).mapError refused
  return { db with entries }

def activateAssessmentYear (db : ReferenceDb) (id : Id) : Except YearError ReferenceDb := do
  let existing ← requireAssessmentYear db id
  assertNoOverlap db existing.categoryId existing.value (some id)
  let entries ← (db.entries.update id fun row => { row with status := .active }).mapError refused
  return { db with entries }

def deactivateAssessmentYear (db : ReferenceDb) (id : Id) : Except YearError ReferenceDb := do
  let _ ← requireAssessmentYear db id
  let entries ← (db.entries.update id fun row => { row with status := .inactive }).mapError refused
  return { db with entries }

/-- The service counts three tables, and the database refuses for the others. -/
def assertUnreferenced (references : YearReferences) (id : Id) : Except YearError Unit :=
  if references.taxConfigs.count id > 0 ∨ references.demands.count id > 0 ∨
      references.payments.count id > 0 then
    .error (.api (.badRequest none ("Cannot delete assessment year while TaxConfig, " ++
      "PropertyDemand, or Payment records reference it. Deactivate instead.")))
  else if id ∈ references.restricted then .error .foreignKeyViolation
  else .ok ()

def deleteAssessmentYear (references : YearReferences) (db : ReferenceDb) (id : Id) :
    Except YearError ReferenceDb := do
  let _ ← requireAssessmentYear db id
  assertUnreferenced references id
  return { db with entries := db.entries.restrict fun row => row.id ≠ id }

end ReferenceService

end PropertyTax
