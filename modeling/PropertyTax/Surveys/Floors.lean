import PropertyTax.Surveys.SurveyId

/-! The floors of a survey: a text in the layout of the Excel sheets, and the
rows it is parsed to. The regular expressions are read as deterministic
scanners, since no character can match two neighbouring pieces of one. -/
namespace PropertyTax.Surveys

inductive DataQualityStatus where
  | complete | needsReview | invalid | duplicate | missingContact | missingPropertyNumber
  | missingMeasurement
deriving DecidableEq

/-- An area is missing when the text has none or one that is no number: both
are sent to the database as null. -/
structure ParsedFloor where
  floorLabel : Text
  areaSqFt : Option ℚ
  areaSqMeter : Option ℚ
  usageType : Option Text
  usageFactor : Option Text
  buildingType : Option Text
  sortOrder : Nat
  rawSegment : Text
deriving DecidableEq

/-- What `.` does not match. -/
def isLineTerminator (c : Char) : Bool := c.toNat ∈ [0xA, 0xD, 0x2028, 0x2029]

/-- A case-insensitive prefix of ASCII letters. -/
def startsWith (label text : Text) : Bool :=
  (text.take label.length).map Char.toLower == label.map Char.toLower

/-- `text.split("||")` -/
def splitBars : Text → List Text
  | '|' :: '|' :: rest => [] :: splitBars rest
  | c :: rest =>
      match splitBars rest with
      | part :: parts => (c :: part) :: parts
      | [] => [[c]]
  | [] => [[]]

/-- `([\d.]+)\s*unit` at the start of the text. -/
def quantity (unit text : Text) : Option Text :=
  let isPart (c : Char) : Bool := c.isDigit || c == '.'
  let number := text.takeWhile isPart
  if !number.isEmpty && startsWith unit ((text.dropWhile isPart).dropWhile Js.isSpace) then some number
  else none

/-- `\s*-\s*` at the start of the text; what follows it. -/
def afterDash (text : Text) : Option Text :=
  match text.dropWhile Js.isSpace with
  | '-' :: rest => some (rest.dropWhile Js.isSpace)
  | _ => none

/-- `^(.+?)\s*-\s*([\d.]+)\s*SqFt` -/
def labelMatch (head : Text) : Option (Text × Text) :=
  (List.range head.length).findSome? fun n =>
    if (head.take (n + 1)).any isLineTerminator then none
    else ((afterDash (head.drop (n + 1))).bind (quantity "SqFt".toList)).map fun number =>
      (head.take (n + 1), number)

/-- `([\d.]+)\s*SqMt` -/
def sqmMatch (head : Text) : Option Text := head.tails.findSome? (quantity "SqMt".toList)

/-- `label\s*-\s*(.+)$`; a part of the text holds no `||`, so a lazy group runs
to its end as well. -/
def labelled (label part : Text) : Option Text :=
  part.tails.findSome? fun text =>
    if startsWith label text then
      (afterDash (text.drop label.length)).bind fun value =>
        if value.isEmpty || value.any isLineTerminator then none else some (Js.trimChars value)
    else none

def parseNumeral (text : Text) : Option ℚ := Js.number? (String.ofList text)

def parseSegment (segment : Text) (index : Nat) : ParsedFloor :=
  let parts := (splitBars segment).map Js.trimChars
  let head := parts.headD segment
  let usageTypeValues := (parts.drop 1).filterMap (labelled "Usage Type".toList)
  let label := ((labelMatch head).map fun found => Js.trimChars found.1).getD []
  { floorLabel := if label.isEmpty then "Floor ".toList ++ Js.digits (index + 1) else label
    areaSqFt := (labelMatch head).bind fun found => parseNumeral found.2
    areaSqMeter := (sqmMatch head).bind parseNumeral
    usageType := usageTypeValues[0]?
    usageFactor := ((parts.drop 1).filterMap (labelled "Usage Factor".toList)).getLast?
    buildingType := usageTypeValues[1]?
    sortOrder := index
    rawSegment := segment }

def parseFloorsRaw (floorsRaw : Option Text) : List ParsedFloor :=
  if (Js.trimChars (floorsRaw.getD [])).isEmpty then [] else
  let segments := (((floorsRaw.getD []).splitOn ',').map Js.trimChars).filter fun s => !s.isEmpty
  segments.mapIdx fun index segment => parseSegment segment index

def computeDataQuality (mobile propertyNo parcelNo : Option Text)
    (plotAreaSqFt totalBuiltUpAreaSqFt : Option ℚ) : DataQualityStatus :=
  let mobile := Js.trimChars (mobile.getD [])
  let isBlank (text : Option Text) : Bool := (Js.trimChars (text.getD [])).isEmpty
  let isFilled (text : Option Text) : Bool := text.any fun t => !t.isEmpty
  if !(mobile.length == 10 && mobile.all Char.isDigit) then .missingContact
  else if isBlank propertyNo && isBlank parcelNo then .missingPropertyNumber
  else if plotAreaSqFt.isNone && totalBuiltUpAreaSqFt.isNone then .missingMeasurement
  else if (isFilled propertyNo || isFilled parcelNo) &&
      (plotAreaSqFt.any (· ≠ 0) || totalBuiltUpAreaSqFt.any (· ≠ 0)) then .complete
  else .needsReview

example : parseFloorsRaw (some "Ground - 408 SqFt, First".toList) =
    [⟨"Ground".toList, some 408, none, none, none, none, 0, "Ground - 408 SqFt".toList⟩,
      ⟨"Floor 2".toList, none, none, none, none, none, 1, "First".toList⟩] := by decide +kernel

end PropertyTax.Surveys
