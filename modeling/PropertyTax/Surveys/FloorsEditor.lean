import PropertyTax.Library.Decimals
import PropertyTax.Surveys.Floors

/-! The floors editor of the portal: it parses the text of a survey with its own
copy of the scanners, changes the list, and writes the text anew. -/
namespace PropertyTax.Surveys.FloorsEditor

/-- An area may be missing, and one that is there may be no number. -/
structure FloorRow where
  id : Text
  floorLabel : Text
  areaSqFt : Option (Option ℚ)
  areaSqMeter : Option (Option ℚ)
  usageType : Option Text
  usageFactor : Option Text
  buildingType : Option Text
  sortOrder : Nat
deriving DecidableEq

def FLOOR_LABELS : List Text :=
  ["Basement", "Ground Floor", "First Floor", "Second Floor", "Third Floor", "Fourth Floor",
    "Terrace"].map String.toList

def OPEN_FLOOR_LABEL : Text := "Open".toList

def FLOOR_USAGE_TYPES : List Text :=
  ["Residential", "Commercial", "Mixed", "Open Land", "Under Construction"].map String.toList

def FLOOR_USAGE_FACTORS : List Text := ["Self Occupied", "Rented", "Vacant"].map String.toList

def FLOOR_CONSTRUCTION_TYPES : List Text :=
  ["Pakka Building with R.C.C Roof or R.B. Roof", "Tin Shed", "Kaccha Building", "Open Land",
    "Under Construction"].map String.toList

def SQ_FT_TO_SQ_M : ℚ := 92903 / 1000000

/-- `Math.round(value * 100) / 100` -/
def roundToCents (value : ℚ) : ℚ := FixedPoint.quantize 100 value

def sqFtToSqM (sqFt : ℚ) : ℚ := roundToCents (sqFt * SQ_FT_TO_SQ_M)

def formatNumber : Option ℚ → Text
  | none => ['0']
  | some value => (Js.numberToString (roundToCents value)).toList

def parseSegment (segment : Text) (index : Nat) : FloorRow :=
  let parts := (splitBars segment).map Js.trimChars
  let head := parts.headD segment
  let usageTypeValues := (parts.drop 1).filterMap (labelled "Usage Type".toList)
  let label := (labelMatch head).map fun found => Js.trimChars found.1
  { id := "floor-".toList ++ Js.digits index ++ '-' :: label.getD (Js.digits index)
    floorLabel := if (label.getD []).isEmpty then "Floor ".toList ++ Js.digits (index + 1)
      else label.getD []
    areaSqFt := (labelMatch head).map fun found => parseNumeral found.2
    areaSqMeter := (sqmMatch head).map parseNumeral
    usageType := usageTypeValues[0]?
    usageFactor := ((parts.drop 1).filterMap (labelled "Usage Factor".toList)).getLast?
    buildingType := usageTypeValues[1]?
    sortOrder := index }

def parseFloorsRaw (floorsRaw : Option Text) : List FloorRow :=
  if (Js.trimChars (floorsRaw.getD [])).isEmpty then [] else
  let segments := (((floorsRaw.getD []).splitOn ',').map Js.trimChars).filter fun s => !s.isEmpty
  segments.mapIdx fun index segment => parseSegment segment index

/-- A part of the text, unless its value is missing or blank. -/
def keyedPart (keyword : String) (value : Option Text) : List Text :=
  let value := Js.trimChars (value.getD [])
  if value.isEmpty then [] else [keyword.toList ++ value]

def serializeFloor (floor : FloorRow) : Text :=
  let label := Js.trimChars floor.floorLabel
  let label := if label.isEmpty then "Floor".toList else label
  let sqFt := floor.areaSqFt.getD (some 0)
  let sqM := floor.areaSqMeter.getD (some ((sqFt.map sqFtToSqM).getD 0))
  let head := label ++ " - ".toList ++ formatNumber sqFt ++ " SqFt - ".toList ++ formatNumber sqM ++
    " SqMt".toList
  " || ".toList.intercalate (head :: (keyedPart "Usage Type - " floor.usageType ++
    keyedPart "Usage Factor - " floor.usageFactor ++ keyedPart "Usage Type - " floor.buildingType))

def serializeFloorsRaw (floors : List FloorRow) : Text :=
  ", ".toList.intercalate (floors.map serializeFloor)

/-! ### The editor -/

structure FloorDraft where
  floorLabel : Text
  usageType : Text
  usageFactor : Text
  buildingType : Text
  areaSqFt : Text

def commit (next : List FloorRow) : Text :=
  serializeFloorsRaw (next.mapIdx fun index floor =>
    { floor with
      sortOrder := index
      id := if floor.id.isEmpty then "floor-".toList ++ Js.digits index ++ '-' :: floor.floorLabel
        else floor.id })

def confirmDelete (floors : List FloorRow) (deleteId : Text) : Text :=
  commit (floors.filter fun floor => floor.id ≠ deleteId)

/-- `value.trim() || undefined` -/
def chosen (value : Text) : Option Text :=
  if (Js.trimChars value).isEmpty then none else some (Js.trimChars value)

/-- What is saved, or the error that the form shows. -/
def saveFloor (draft : FloorDraft) (editingId : Option Text) (now : Nat) (floors : List FloorRow) :
    Except String Text :=
  let label := Js.trimChars draft.floorLabel
  if label.isEmpty then .error "Select a floor."
  else
    match parseNumeral (Js.trimChars draft.areaSqFt) with
    | none => .error "Enter a valid area in sq ft."
    | some area =>
        if area ≤ 0 then .error "Enter a valid area in sq ft."
        else
          let nextRow : FloorRow :=
            { id := editingId.getD ("floor-".toList ++ Js.digits now)
              floorLabel := label
              areaSqFt := some (some area)
              areaSqMeter := some (some (sqFtToSqM area))
              usageType := chosen draft.usageType
              usageFactor := chosen draft.usageFactor
              buildingType := chosen draft.buildingType
              sortOrder := 0 }
          match editingId with
          | some id =>
              .ok (commit (floors.map fun floor => if floor.id = id then nextRow else floor))
          | none => .ok (commit (floors ++ [nextRow]))

end PropertyTax.Surveys.FloorsEditor
