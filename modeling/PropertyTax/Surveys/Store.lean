import Mathlib.Data.Fintype.Defs
import PropertyTax.Library.Scripts
import PropertyTax.Surveys.Floors

/-! The survey tables, the data a write carries, and the single statements. -/
namespace PropertyTax.Surveys
open KeyedTable Scripts

inductive SurveyStatus where
  | draft | active | archived | deleted
deriving DecidableEq

/-- The nullable text columns, written as they come. -/
inductive TextColumn where
  | ownerName | ownerFatherName | mobile | ownerAadhaar | remark | electricityId | khasraNo
  | registryNo | constructedDate | respondentName | respondentRelationship | city | pincode
  | houseNo | streetName | locality | colony | presentHouseNo | presentStreetName
  | presentLocality | presentColony | presentCity | presentPincode | taxRateZone
  | propertyOwnership | propertyUse | commercial | yearOfConstruction | exemptionType | situation
  | roadType | floorsRaw | waterSourceType | waterConnectionIdType | toiletType
deriving DecidableEq

inductive FlagColumn where
  | isSameAsProperty | exemptionApplicable | hasMunicipalWaterSupply | hasAlternateWater
  | hasMunicipalWasteService
deriving DecidableEq

/-- The columns of type `Decimal(14, 4)`. -/
inductive AreaColumn where
  | plotAreaSqFt | plotAreaSqMeter | plinthAreaSqFt | plinthAreaSqMeter | totalBuiltUpAreaSqFt
  | totalBuiltUpAreaSqMeter
deriving DecidableEq

def TextColumn.all : List TextColumn :=
  [.ownerName, .ownerFatherName, .mobile, .ownerAadhaar, .remark, .electricityId, .khasraNo,
    .registryNo, .constructedDate, .respondentName, .respondentRelationship, .city, .pincode,
    .houseNo, .streetName, .locality, .colony, .presentHouseNo, .presentStreetName,
    .presentLocality, .presentColony, .presentCity, .presentPincode, .taxRateZone,
    .propertyOwnership, .propertyUse, .commercial, .yearOfConstruction, .exemptionType,
    .situation, .roadType, .floorsRaw, .waterSourceType, .waterConnectionIdType, .toiletType]

instance : Fintype TextColumn where
  elems := ⟨TextColumn.all, by decide⟩
  complete column := by cases column <;> decide

def FlagColumn.all : List FlagColumn :=
  [.isSameAsProperty, .exemptionApplicable, .hasMunicipalWaterSupply, .hasAlternateWater,
    .hasMunicipalWasteService]

instance : Fintype FlagColumn where
  elems := ⟨FlagColumn.all, by decide⟩
  complete column := by cases column <;> decide

def AreaColumn.all : List AreaColumn :=
  [.plotAreaSqFt, .plotAreaSqMeter, .plinthAreaSqFt, .plinthAreaSqMeter, .totalBuiltUpAreaSqFt,
    .totalBuiltUpAreaSqMeter]

instance : Fintype AreaColumn where
  elems := ⟨AreaColumn.all, by decide⟩
  complete column := by cases column <;> decide

/-- Ten-thousandths, the units of an area column. -/
abbrev AREA_SCALE : Nat := 10000

structure Ward where
  id : Id
  number : ℤ
  name : Text
deriving DecidableEq

/-- Areas are counted in ten-thousandths, survey dates in milliseconds. -/
structure Survey where
  id : Id
  surveyId : Text
  status : SurveyStatus
  dataQualityStatus : DataQualityStatus
  surveyedAt : Option ℤ
  wardId : Id
  isSlum : Bool
  parcelNo : Option Text
  propertyNo : Option Text
  text : TextColumn → Option Text
  flag : FlagColumn → Option Bool
  area : AreaColumn → Option ℤ
  totalWaterConnections : Option ℤ
  importJobId : Option Id
  createdById : Option Id
  updatedById : Option Id
  createdAt : Timestamp
  deletedAt : Option Timestamp
deriving DecidableEq

structure SurveyFloor where
  surveyId : Id
  floorLabel : Text
  areaSqFt : Option ℤ
  areaSqMeter : Option ℤ
  usageType : Option Text
  usageFactor : Option Text
  buildingType : Option Text
  sortOrder : Nat
  rawSegment : Text
deriving DecidableEq

/-- The message is missing where the database client words it. -/
structure ImportError where
  importJobId : Id
  rowNumber : Nat
  surveyId : Option Text
  field : Option String
  message : Option String
  rawRow : List Text
deriving DecidableEq

/-! ### What the audit log keeps -/

inductive AuditField where
  | surveyId | parcelNo | propertyNo | gisUseCode | wardId | status | isSlum
  | totalWaterConnections
  | text (column : TextColumn)
  | flag (column : FlagColumn)
  | area (column : AreaColumn)
deriving DecidableEq

/-- A value as `normalizeAuditValue` leaves it. A stored decimal becomes a
string there and a number does not, so the two are never equal. -/
inductive AuditValue where
  | null
  | text (value : Text)
  | flag (value : Bool)
  | number (value : ℚ)
  | decimal (units : ℤ)
  | reference (id : Id)
  | status (value : SurveyStatus)
deriving DecidableEq

structure AuditChange where
  field : AuditField
  old : AuditValue
  new : AuditValue
deriving DecidableEq

inductive AuditEntry where
  | created (survey actor : Id) (changes : List AuditChange)
  | updated (survey actor : Id) (changes : List AuditChange)
  | imported (survey : Id) (actor : Option Id) (changes : List AuditChange) (revived : Bool)
  | deleted (survey actor : Id) (surveyId : Text)
  | pruned (survey : Id) (actor : Option Id) (surveyId : Text) (importJobId : Id)
deriving DecidableEq

/-! ### The database -/

instance : KeyedRow Survey Id where
  key := Survey.id
  clash s t := decide (s.id = t.id) || decide (s.surveyId = t.surveyId)
  clash_symm s t := by simp only [eq_comm]
  clash_of_key s t h := by simp [h]

instance : KeyedRow Ward Id where
  key := Ward.id
  clash v w := decide (v.id = w.id) || decide (v.number = w.number)
  clash_symm v w := by simp only [eq_comm]
  clash_of_key v w h := by simp [h]

structure SurveyDb where
  surveys : KeyedTable Survey
  floors : List SurveyFloor
  importErrors : List ImportError
  auditLog : List AuditEntry
  nextId : Id

/-- Why a call throws. -/
inductive SurveyError where
  | api (error : ApiError)
  | identity (error : IdentityError)
  | row (field message : String)
  | refused (refusal : Refusal)
  /-- A value that its column does not take. -/
  | invalidData
  | typeError
  | outage
deriving DecidableEq

/-- A field of a body, or of the data of a write. -/
inductive Field (α : Type) where
  | undefined
  | null
  | value (a : α)
deriving DecidableEq

namespace Field
variable {α β : Type}

/-- `x ?? null` -/
def toOption : Field α → Option α
  | value a => some a
  | _ => none

/-- `x || null`, when the falsy values are `none`. -/
def orNull : Option α → Field α
  | some a => value a
  | none => null

def orUndefined : Option α → Field α
  | some a => value a
  | none => undefined

/-- What a write makes of a nullable column. -/
def assign (old : Option α) : Field α → Option α
  | undefined => old
  | null => none
  | value a => some a

/-- The same for a column that is not nullable; a null is refused before. -/
def assignTo (old : α) : Field α → α
  | value a => a
  | _ => old

def map (f : α → β) : Field α → Field β
  | undefined => undefined
  | null => null
  | value a => value (f a)

@[simp] theorem toOption_undefined : (undefined : Field α).toOption = none := rfl
@[simp] theorem toOption_null : (null : Field α).toOption = none := rfl
@[simp] theorem toOption_value (a : α) : (value a).toOption = some a := rfl
@[simp] theorem toOption_orNull (a : Option α) : (orNull a).toOption = a := by cases a <;> rfl
@[simp] theorem toOption_orUndefined (a : Option α) : (orUndefined a).toOption = a := by
  cases a <;> rfl
@[simp] theorem assign_undefined (old : Option α) : undefined.assign old = old := rfl
@[simp] theorem assign_null (old : Option α) : null.assign old = none := rfl
@[simp] theorem assign_value (old : Option α) (a : α) : (value a).assign old = some a := rfl
@[simp] theorem assign_orNull (old new : Option α) : (orNull new).assign old = new := by
  cases new <;> rfl
@[simp] theorem assignTo_undefined (old : α) : undefined.assignTo old = old := rfl
@[simp] theorem assignTo_value (old a : α) : (value a).assignTo old = a := rfl

/-- A field that is not sent leaves the old value. -/
theorem assignTo_eq_getD (old : α) (field : Field α) :
    field.assignTo old = field.toOption.getD old := by
  cases field <;> rfl

end Field

/-- The data of a `create` or an `update`; what is `undefined` is not written. -/
structure SurveyData where
  surveyId : Field Text := .undefined
  status : Field SurveyStatus := .undefined
  dataQualityStatus : Field DataQualityStatus := .undefined
  surveyedAt : Field ℤ := .undefined
  wardId : Field Id := .undefined
  isSlum : Field Bool := .undefined
  parcelNo : Field Text := .undefined
  propertyNo : Field Text := .undefined
  text : TextColumn → Field Text := fun _ => .undefined
  flag : FlagColumn → Field Bool := fun _ => .undefined
  area : AreaColumn → Field ℚ := fun _ => .undefined
  totalWaterConnections : Field ℚ := .undefined
  importJobId : Field Id := .undefined
  createdById : Field Id := .undefined
  updatedById : Field Id := .undefined
  deletedAt : Field Timestamp := .undefined

/-- Fourteen digits, four of them behind the point. -/
def fitsDecimal (x : ℚ) : Bool := (FixedPoint.store AREA_SCALE x).natAbs < 10 ^ 14

def fitsInt (x : ℚ) : Bool := x.den == 1 && decide (-2 ^ 31 ≤ x.num) && decide (x.num < 2 ^ 31)

def ParsedFloor.isStorable (floor : ParsedFloor) : Bool :=
  floor.areaSqFt.all fitsDecimal && floor.areaSqMeter.all fitsDecimal

namespace SurveyData

/-- No null for a column that is not nullable, and every number in the range
of its column. -/
def isValid (data : SurveyData) : Bool :=
  data.surveyId ≠ .null && data.status ≠ .null && data.dataQualityStatus ≠ .null &&
    data.wardId ≠ .null && data.isSlum ≠ .null &&
    (AreaColumn.all.all fun column => (data.area column).toOption.all fitsDecimal) &&
    data.totalWaterConnections.toOption.all fitsInt

/-- The row after an update. -/
def applyTo (data : SurveyData) (survey : Survey) : Survey :=
  { survey with
    surveyId := data.surveyId.assignTo survey.surveyId
    status := data.status.assignTo survey.status
    dataQualityStatus := data.dataQualityStatus.assignTo survey.dataQualityStatus
    surveyedAt := data.surveyedAt.assign survey.surveyedAt
    wardId := data.wardId.assignTo survey.wardId
    isSlum := data.isSlum.assignTo survey.isSlum
    parcelNo := data.parcelNo.assign survey.parcelNo
    propertyNo := data.propertyNo.assign survey.propertyNo
    text := fun column => (data.text column).assign (survey.text column)
    flag := fun column => (data.flag column).assign (survey.flag column)
    area := fun column =>
      ((data.area column).map (FixedPoint.store AREA_SCALE)).assign (survey.area column)
    totalWaterConnections :=
      (data.totalWaterConnections.map Rat.num).assign survey.totalWaterConnections
    importJobId := data.importJobId.assign survey.importJobId
    createdById := data.createdById.assign survey.createdById
    updatedById := data.updatedById.assign survey.updatedById
    deletedAt := data.deletedAt.assign survey.deletedAt }

end SurveyData

def ParsedFloor.toRow (surveyId : Id) (floor : ParsedFloor) : SurveyFloor where
  surveyId := surveyId
  floorLabel := floor.floorLabel
  areaSqFt := floor.areaSqFt.map (FixedPoint.store AREA_SCALE)
  areaSqMeter := floor.areaSqMeter.map (FixedPoint.store AREA_SCALE)
  usageType := floor.usageType
  usageFactor := floor.usageFactor
  buildingType := floor.buildingType
  sortOrder := floor.sortOrder
  rawSegment := floor.rawSegment

namespace SurveyDb

def empty : SurveyDb := ⟨⟨[], .nil⟩, [], [], [], 0⟩

/-! ### Reads -/

/-- `findUnique({ where: { surveyId } })`, among the deleted ones as well. -/
def bySurveyId? (db : SurveyDb) (surveyId : Text) : Option Survey :=
  db.surveys.findFirst? fun survey => survey.surveyId = surveyId

/-- `orderBy: { sortOrder: "asc" }` -/
def floorsOf (db : SurveyDb) (surveyId : Id) : List SurveyFloor :=
  (db.floors.filter fun floor => floor.surveyId = surveyId).mergeSort fun a b =>
    a.sortOrder ≤ b.sortOrder

/-! ### Writes -/

/-- A survey with the defaults of the schema. -/
def newSurvey (id : Id) (surveyId : Text) (wardId : Id) (now : Timestamp) : Survey where
  id := id
  surveyId := surveyId
  status := .active
  dataQualityStatus := .needsReview
  surveyedAt := none
  wardId := wardId
  isSlum := false
  parcelNo := none
  propertyNo := none
  text _ := none
  flag _ := none
  area _ := none
  totalWaterConnections := none
  importJobId := none
  createdById := none
  updatedById := none
  createdAt := now
  deletedAt := none

/-- `survey.create` with its floors, which is refused as a whole. -/
def createSurvey (data : SurveyData) (floors : List ParsedFloor) (now : Timestamp) (db : SurveyDb) :
    Except SurveyError (SurveyDb × Survey) :=
  match data.surveyId, data.wardId with
  | .value surveyId, .value wardId =>
      if data.isValid && floors.all ParsedFloor.isStorable then do
        let survey := data.applyTo (newSurvey db.nextId surveyId wardId now)
        let surveys ← (db.surveys.insert survey).mapError .refused
        return ({ db with
          surveys
          floors := db.floors ++ floors.map (ParsedFloor.toRow db.nextId)
          nextId := db.nextId + 1 }, survey)
      else .error .invalidData
  | _, _ => .error .invalidData

/-- `survey.update`, with floors to create besides. -/
def updateSurvey (id : Id) (data : SurveyData) (floors : List ParsedFloor) (db : SurveyDb) :
    Except SurveyError (SurveyDb × Survey) :=
  match db.surveys.find? id with
  | none => .error (.refused .recordNotFound)
  | some survey =>
      if data.isValid && floors.all ParsedFloor.isStorable then do
        let surveys ← (db.surveys.update id data.applyTo).mapError .refused
        return ({ db with
          surveys
          floors := db.floors ++ floors.map (ParsedFloor.toRow id) }, data.applyTo survey)
      else .error .invalidData

/-- `surveyFloor.deleteMany` -/
def deleteFloors (id : Id) (db : SurveyDb) : SurveyDb :=
  { db with floors := db.floors.filter fun floor => floor.surveyId ≠ id }

def log (entry : AuditEntry) (db : SurveyDb) : SurveyDb :=
  { db with auditLog := db.auditLog ++ [entry] }

/-- No entry without a change. -/
def logChanges (changes : List AuditChange) (entry : AuditEntry) (db : SurveyDb) : SurveyDb :=
  if changes.isEmpty then db else db.log entry

@[simp] theorem logChanges_surveys (changes : List AuditChange) (entry : AuditEntry)
    (db : SurveyDb) : (db.logChanges changes entry).surveys = db.surveys := by
  cases changes <;> rfl

@[simp] theorem logChanges_floors (changes : List AuditChange) (entry : AuditEntry)
    (db : SurveyDb) : (db.logChanges changes entry).floors = db.floors := by
  cases changes <;> rfl

def createImportError (error : ImportError) (db : SurveyDb) : SurveyDb :=
  { db with importErrors := db.importErrors ++ [error] }

/-! ### What the writes did -/

/-- What a created survey is, and what else is stored with it. -/
theorem createSurvey_ok {data : SurveyData} {floors : List ParsedFloor} {now : Timestamp}
    {db db' : SurveyDb} {survey : Survey}
    (h : db.createSurvey data floors now = .ok (db', survey)) :
    Added db.surveys db'.surveys survey ∧
      db'.floors = db.floors ++ floors.map (ParsedFloor.toRow db.nextId) ∧
      db'.nextId = db.nextId + 1 ∧
      ∃ surveyId wardId, data.surveyId = .value surveyId ∧ data.wardId = .value wardId ∧
        survey = data.applyTo (newSurvey db.nextId surveyId wardId now) := by
  unfold createSurvey at h
  split at h
  next surveyId wardId hSurveyId hWardId =>
    split_ifs at h
    obtain ⟨surveys, hInsert, hDb⟩ := bind_ok h
    cases hDb
    exact ⟨added_of_insert (mapError_ok hInsert), rfl, rfl, surveyId, wardId, hSurveyId, hWardId,
      rfl⟩
  · cases h

/-- What an updated survey is, and what else is stored with it. -/
theorem updateSurvey_ok {id : Id} {data : SurveyData} {floors : List ParsedFloor}
    {db db' : SurveyDb} {survey : Survey}
    (h : db.updateSurvey id data floors = .ok (db', survey)) :
    ∃ old, old.id = id ∧ survey = data.applyTo old ∧ Replaced db.surveys db'.surveys old survey ∧
      db'.floors = db.floors ++ floors.map (ParsedFloor.toRow id) ∧ db'.nextId = db.nextId := by
  unfold updateSurvey at h
  split at h
  · cases h
  next old hOld =>
    obtain ⟨hMem, hKey⟩ := find?_eq_some_iff.mp hOld
    split_ifs at h
    obtain ⟨surveys, hUpdate, hDb⟩ := bind_ok h
    cases hDb
    exact ⟨old, hKey, rfl, replaced_of_update (mapError_ok hUpdate) hMem hKey rfl, rfl, rfl⟩

/-- Only valid data and storable floors are created. -/
theorem createSurvey_valid {data : SurveyData} {floors : List ParsedFloor} {now : Timestamp}
    {db db' : SurveyDb} {survey : Survey}
    (h : db.createSurvey data floors now = .ok (db', survey)) :
    data.isValid = true ∧ floors.all ParsedFloor.isStorable = true := by
  unfold createSurvey at h
  split at h
  · split_ifs at h with hValid
    exact Bool.and_eq_true_iff.mp hValid
  · cases h

/-- Only valid data and storable floors are updated. -/
theorem updateSurvey_valid {id : Id} {data : SurveyData} {floors : List ParsedFloor}
    {db db' : SurveyDb} {survey : Survey}
    (h : db.updateSurvey id data floors = .ok (db', survey)) :
    data.isValid = true ∧ floors.all ParsedFloor.isStorable = true := by
  unfold updateSurvey at h
  split at h
  · cases h
  · split_ifs at h with hValid
    exact Bool.and_eq_true_iff.mp hValid

/-- A valid write is taken when no other survey holds the id it writes. -/
theorem updateSurvey_isOk {data : SurveyData} {floors : List ParsedFloor} {db : SurveyDb}
    {old : Survey} (hOld : old ∈ db.surveys.rows) (hValid : data.isValid = true)
    (hFloors : floors.all ParsedFloor.isStorable = true)
    (hFree : ∀ other ∈ db.surveys.rows, other.surveyId = data.surveyId.assignTo old.surveyId →
      other = old) : ∃ result, db.updateSurvey old.id data floors = .ok result := by
  have hClash : ∀ other ∈ db.surveys.rows, other ≠ old →
      KeyedRow.clash other (data.applyTo old) = false := by
    intro other hOther hNe
    have hId : other.id ≠ old.id := fun h => hNe (eq_of_key hOther hOld h)
    have hSurveyId : other.surveyId ≠ data.surveyId.assignTo old.surveyId :=
      fun h => hNe (hFree other hOther h)
    simp [KeyedRow.clash, SurveyData.applyTo, hId, hSurveyId]
  obtain ⟨surveys, hSurveys⟩ := KeyedTable.update_isOk hOld rfl hClash
  have hFound : db.surveys.find? old.id = some old := find?_eq_some_iff.mpr ⟨hOld, rfl⟩
  have hSurveys : db.surveys.update old.id data.applyTo = .ok surveys := hSurveys
  refine ⟨({ db with surveys, floors := db.floors ++ floors.map (ParsedFloor.toRow old.id) },
    data.applyTo old), ?_⟩
  simp only [updateSurvey, hFound, hValid, hFloors, Bool.and_self, if_true, hSurveys]
  rfl

/-- It is refused when another one does. -/
theorem updateSurvey_refused {data : SurveyData} {floors : List ParsedFloor} {db : SurveyDb}
    {old other : Survey} (hOld : old ∈ db.surveys.rows) (hValid : data.isValid = true)
    (hFloors : floors.all ParsedFloor.isStorable = true) (hOther : other ∈ db.surveys.rows)
    (hNe : other.id ≠ old.id) (hHeld : other.surveyId = data.surveyId.assignTo old.surveyId) :
    db.updateSurvey old.id data floors = .error (.refused .uniqueViolation) := by
  have hFound : db.surveys.find? old.id = some old := find?_eq_some_iff.mpr ⟨hOld, rfl⟩
  have hClash : KeyedRow.clash other (data.applyTo old) = true := by
    simp [KeyedRow.clash, SurveyData.applyTo, hHeld]
  have hRefused : db.surveys.update old.id data.applyTo = .error .uniqueViolation :=
    update_refused hOld rfl rfl hOther hNe hClash
  simp only [updateSurvey, hFound, hValid, hFloors, Bool.and_self, if_true, hRefused]
  rfl

/-- A valid survey is stored when its ids are free. -/
theorem createSurvey_isOk {data : SurveyData} {floors : List ParsedFloor} {now : Timestamp}
    {db : SurveyDb} {surveyId : Text} {wardId : Id} (hSurveyId : data.surveyId = .value surveyId)
    (hWard : data.wardId = .value wardId) (hValid : data.isValid = true)
    (hFloors : floors.all ParsedFloor.isStorable = true)
    (hFree : ∀ other ∈ db.surveys.rows, other.id ≠ db.nextId ∧ other.surveyId ≠ surveyId) :
    ∃ result, db.createSurvey data floors now = .ok result := by
  have hInsert : ∃ surveys,
      db.surveys.insert (data.applyTo (newSurvey db.nextId surveyId wardId now)) = .ok surveys := by
    refine insert_isOk_iff.mpr fun other hOther => ?_
    obtain ⟨hId, hOtherId⟩ := hFree other hOther
    simp [KeyedRow.clash, SurveyData.applyTo, newSurvey, hSurveyId, hId, hOtherId]
  obtain ⟨surveys, hInsert⟩ := hInsert
  simp only [createSurvey, hSurveyId, hWard, hValid, hFloors, Bool.and_self, if_true, hInsert]
  exact ⟨_, rfl⟩

/-- A survey id that is held cannot be created again. -/
theorem createSurvey_refused {data : SurveyData} {floors : List ParsedFloor} {now : Timestamp}
    {db : SurveyDb} {surveyId : Text} {wardId : Id} (hSurveyId : data.surveyId = .value surveyId)
    (hWard : data.wardId = .value wardId) (hValid : data.isValid = true)
    (hFloors : floors.all ParsedFloor.isStorable = true) {other : Survey}
    (hOther : other ∈ db.surveys.rows) (hHeld : other.surveyId = surveyId) :
    db.createSurvey data floors now = .error (.refused .uniqueViolation) := by
  have hClash : KeyedRow.clash other (data.applyTo (newSurvey db.nextId surveyId wardId now)) =
      true := by
    simp [KeyedRow.clash, SurveyData.applyTo, newSurvey, hSurveyId, hHeld]
  simp only [createSurvey, hSurveyId, hWard, hValid, hFloors, Bool.and_self, if_true,
    insert_refused hOther hClash]
  rfl

/-- The row that is updated is the one that was read, if it is still there. -/
theorem updateSurvey_of_mem {data : SurveyData} {floors : List ParsedFloor} {db db' : SurveyDb}
    {old survey : Survey} (hOld : old ∈ db.surveys.rows)
    (h : db.updateSurvey old.id data floors = .ok (db', survey)) :
    survey = data.applyTo old ∧ Replaced db.surveys db'.surveys old survey := by
  obtain ⟨row, hId, hSurvey, hReplaced, -⟩ := updateSurvey_ok h
  obtain rfl := eq_of_key hReplaced.mem_old hOld hId
  exact ⟨hSurvey, hReplaced⟩

end SurveyDb

/-! ### Scripts -/

/-- The database, and which of the statements to come are lost. -/
structure SurveyState where
  db : SurveyDb
  outages : List Bool

abbrev SurveyScript (α : Type) := Script SurveyState SurveyError α

variable {α : Type}

/-- A statement takes effect as a whole, is refused, or is lost. -/
def statement (run : SurveyDb → Except SurveyError (SurveyDb × α)) : SurveyScript α :=
  fun state =>
    if state.outages.headD false then (⟨state.db, state.outages.tail⟩, .error .outage)
    else
      match run state.db with
      | .ok (db, answer) => (⟨db, state.outages.tail⟩, .ok answer)
      | .error error => (⟨state.db, state.outages.tail⟩, .error error)

def read (query : SurveyDb → α) : SurveyScript α := statement fun db => .ok (db, query db)

def write (change : SurveyDb → SurveyDb) : SurveyScript Unit := statement fun db => .ok (change db, ())

def throwApi (error : ApiError) : SurveyScript α := Script.fail (.api error)

/-- What fails is thrown. -/
def orThrow : Except SurveyError α → SurveyScript α
  | .ok answer => pure answer
  | .error error => Script.fail error

/-- An interactive transaction. Its commit may be lost like any statement. -/
def transaction (body : SurveyScript α) : SurveyScript α :=
  Script.atomically (fun before after => ⟨before.db, after.outages⟩) do
    let answer ← body
    write id
    return answer

/-! ### When nothing is lost -/

section Calm
variable {db db' : SurveyDb}

theorem statement_of_ok {run : SurveyDb → Except SurveyError (SurveyDb × α)} {answer : α}
    (h : run db = .ok (db', answer)) : statement run ⟨db, []⟩ = (⟨db', []⟩, .ok answer) := by
  simp [statement, h]

theorem statement_of_error {run : SurveyDb → Except SurveyError (SurveyDb × α)}
    {error : SurveyError} (h : run db = .error error) :
    statement run ⟨db, []⟩ = (⟨db, []⟩, .error error) := by
  simp [statement, h]

theorem read_calm (query : SurveyDb → α) : read query ⟨db, []⟩ = (⟨db, []⟩, .ok (query db)) := rfl

theorem write_calm (change : SurveyDb → SurveyDb) :
    write change ⟨db, []⟩ = (⟨change db, []⟩, .ok ()) := rfl

theorem transaction_of_ok {body : SurveyScript α} {answer : α}
    (h : body ⟨db, []⟩ = (⟨db', []⟩, .ok answer)) :
    transaction body ⟨db, []⟩ = (⟨db', []⟩, .ok answer) := by
  unfold transaction Script.atomically
  rw [Script.bind_of_ok h]
  rfl

theorem transaction_of_error {body : SurveyScript α} {error : SurveyError}
    (h : body ⟨db, []⟩ = (⟨db', []⟩, .error error)) :
    transaction body ⟨db, []⟩ = (⟨db, []⟩, .error error) := by
  unfold transaction Script.atomically
  rw [Script.bind_of_error h]

end Calm

/-! ### Rules

Conditions speak of the database: what is lost is no business of theirs. -/

def OnDb (condition : SurveyDb → Prop) (state : SurveyState) : Prop := condition state.db

section Rules
variable {β : Type} {pre broken : SurveyDb → Prop} {post : α → SurveyDb → Prop}

/-- What a statement meets, outages included. -/
theorem meets_statement {run : SurveyDb → Except SurveyError (SurveyDb × α)}
    (hBroken : ∀ db, pre db → broken db)
    (hOk : ∀ db db' answer, pre db → run db = .ok (db', answer) → post answer db') :
    Meets (statement run) (OnDb pre) (fun answer => OnDb (post answer)) (OnDb broken) := by
  intro state hState
  unfold statement
  split_ifs
  · exact hBroken state.db hState
  · split
    next db answer hRun => exact hOk state.db db answer hState hRun
    next error hRun => exact hBroken state.db hState

/-- What a query meets, outages included. -/
theorem meets_read {query : SurveyDb → α} (hBroken : ∀ db, pre db → broken db) :
    Meets (read query) (OnDb pre) (fun answer => OnDb fun db => query db = answer ∧ pre db)
      (OnDb broken) := by
  refine meets_statement hBroken fun db db' answer hPre hRun => ?_
  cases hRun
  exact ⟨rfl, hPre⟩

/-- What a write meets, outages included. -/
theorem meets_write {change : SurveyDb → SurveyDb} (post : SurveyDb → Prop)
    (hBroken : ∀ db, pre db → broken db) (h : ∀ db, pre db → post (change db)) :
    Meets (write change) (OnDb pre) (fun _ => OnDb post) (OnDb broken) := by
  refine meets_statement hBroken fun db db' answer hPre hRun => ?_
  cases hRun
  exact h db hPre

/-- What is not thrown is known of the result. -/
theorem bind_orThrow {result : Except SurveyError α} {next : α → SurveyScript β}
    {post : β → SurveyState → Prop} (hBroken : ∀ db, pre db → broken db)
    (h : ∀ answer, result = .ok answer → Meets (next answer) (OnDb pre) post (OnDb broken)) :
    Meets (orThrow result >>= next) (OnDb pre) post (OnDb broken) := by
  cases result with
  | ok answer => exact h answer rfl
  | error error => exact fun state hState => hBroken state.db hState

/-- A read of what no call writes. -/
theorem bind_lookup {value : α} {next : α → SurveyScript β} {post : β → SurveyState → Prop}
    (hBroken : ∀ db, pre db → broken db)
    (h : Meets (next value) (OnDb pre) post (OnDb broken)) :
    Meets (read (fun _ => value) >>= next) (OnDb pre) post (OnDb broken) := by
  refine Meets.bind (meets_read hBroken) fun answer state hState => ?_
  obtain ⟨rfl, hPre⟩ := hState
  exact h state hPre

/-- A read whose answer may be anything. -/
theorem bind_read {query : SurveyDb → α} {next : α → SurveyScript β}
    {post : β → SurveyState → Prop} (hBroken : ∀ db, pre db → broken db)
    (h : ∀ answer, Meets (next answer) (OnDb pre) post (OnDb broken)) :
    Meets (read query >>= next) (OnDb pre) post (OnDb broken) :=
  Meets.bind (meets_read hBroken) fun answer state hState => h answer state hState.2

/-- What an abandoned transaction left behind is undone. -/
theorem meets_transaction {body : SurveyScript α} (hBroken : ∀ db, pre db → broken db)
    (hBody : Meets body (OnDb pre) (fun answer => OnDb (post answer)) (OnDb fun _ => True)) :
    Meets (transaction body) (OnDb pre) (fun answer => OnDb (post answer)) (OnDb broken) := by
  have hCommitted : Meets (do let answer ← body; write id; return answer) (OnDb pre)
      (fun answer => OnDb (post answer)) (OnDb fun _ => True) := by
    refine Meets.bind hBody fun answer => ?_
    exact Meets.bind (meets_write (post answer) (fun _ _ => trivial) fun _ h => h)
      fun _ => Meets.pure fun _ h => h
  exact Meets.atomically (hCommitted.mono (fun _ h => h) (fun _ _ h => h) fun _ _ => trivial)
    fun state _ => hBroken state.db

end Rules
end PropertyTax.Surveys
