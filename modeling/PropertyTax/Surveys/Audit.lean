import PropertyTax.Surveys.Store

/-! The field-by-field comparison that the audit log keeps, and that an import
takes for the question whether a row changes anything. -/
namespace PropertyTax.Surveys

def SURVEY_AUDIT_FIELDS : List AuditField :=
  [.surveyId, .parcelNo, .propertyNo, .gisUseCode, .wardId, .text .ownerName,
    .text .ownerFatherName, .text .mobile, .text .respondentName, .text .respondentRelationship,
    .text .city, .text .pincode, .text .houseNo, .text .streetName, .text .locality, .text .colony,
    .text .propertyOwnership, .text .propertyUse, .text .commercial, .text .yearOfConstruction,
    .text .situation, .text .roadType, .area .plotAreaSqFt, .area .plotAreaSqMeter,
    .area .plinthAreaSqFt, .area .plinthAreaSqMeter, .area .totalBuiltUpAreaSqFt,
    .area .totalBuiltUpAreaSqMeter, .flag .hasMunicipalWaterSupply, .flag .hasAlternateWater,
    .text .waterSourceType, .totalWaterConnections, .text .waterConnectionIdType,
    .text .toiletType, .flag .hasMunicipalWasteService, .text .floorsRaw, .status,
    .text .taxRateZone, .isSlum, .text .remark]

/-- The fields that an object has, with their values. -/
abbrev AuditSnapshot := AuditField → Option AuditValue

def AuditValue.ofOption {α : Type} (wrap : α → AuditValue) : Option α → AuditValue
  | some a => wrap a
  | none => .null

/-- No value is taken for another one, nor for none. -/
theorem AuditValue.ofOption_injective {α : Type} {wrap : α → AuditValue}
    (hWrap : Function.Injective wrap) (hNull : ∀ a, wrap a ≠ .null) :
    Function.Injective (AuditValue.ofOption wrap) := by
  intro a b h
  cases a with
  | none =>
      cases b with
      | none => rfl
      | some b => exact absurd h.symm (hNull b)
  | some a =>
      cases b with
      | none => exact absurd h (hNull a)
      | some b => exact congrArg some (hWrap h)

/-- A value is wrapped before or after it is mapped. -/
theorem AuditValue.ofOption_map {α β : Type} (wrap : β → AuditValue) (f : α → β) (a : Option α) :
    AuditValue.ofOption (fun a => wrap (f a)) a = AuditValue.ofOption wrap (a.map f) := by
  cases a <;> rfl

/-- A row of the database has no field for the letter of its id. -/
def surveyToAuditSnapshot (survey : Survey) : AuditSnapshot
  | .surveyId => some (.text survey.surveyId)
  | .parcelNo => some (.ofOption .text survey.parcelNo)
  | .propertyNo => some (.ofOption .text survey.propertyNo)
  | .gisUseCode => none
  | .wardId => some (.reference survey.wardId)
  | .status => some (.status survey.status)
  | .isSlum => some (.flag survey.isSlum)
  | .totalWaterConnections =>
      some (.ofOption (fun count : ℤ => .number count) survey.totalWaterConnections)
  | .text column => some (.ofOption .text (survey.text column))
  | .flag column => some (.ofOption .flag (survey.flag column))
  | .area column => some (.ofOption .decimal (survey.area column))

/-- The row spread under the data of a write: an `undefined` hides the column. -/
def proposedSnapshot (data : SurveyData) : AuditSnapshot
  | .surveyId => some (.ofOption .text data.surveyId.toOption)
  | .parcelNo => some (.ofOption .text data.parcelNo.toOption)
  | .propertyNo => some (.ofOption .text data.propertyNo.toOption)
  | .gisUseCode => none
  | .wardId => some (.ofOption .reference data.wardId.toOption)
  | .status => some (.status .active)
  | .isSlum => some (.ofOption .flag data.isSlum.toOption)
  | .totalWaterConnections => some (.ofOption .number data.totalWaterConnections.toOption)
  | .text column => some (.ofOption .text (data.text column).toOption)
  | .flag column => some (.ofOption .flag (data.flag column).toOption)
  | .area column => some (.ofOption .number (data.area column).toOption)

/-- `surveyToAuditSnapshot(survey, { gisUseCode })` -/
def buildAuditState (survey : Survey) : AuditSnapshot
  | .gisUseCode =>
      some (.ofOption .text ((parseGisSurveyId survey.surveyId).map GisSurveyParts.gisUseCode))
  | field => surveyToAuditSnapshot survey field

def diffSurveyChanges (before after : AuditSnapshot) : List AuditChange :=
  SURVEY_AUDIT_FIELDS.filterMap fun field =>
    if (before field).isNone && (after field).isNone then none
    else if (before field).getD .null = (after field).getD .null then none
    else some ⟨field, (before field).getD .null, (after field).getD .null⟩

end PropertyTax.Surveys
