import PropertyTax.Surveys.SurveyId

/-! Survey texts mapped to the codes of the rate matrix, and the classes of use
that a GIS use code stands for. -/
namespace PropertyTax
open Surveys

inductive GisUseClass where
  | residential | commercial | openLand | mixed
deriving DecidableEq

/-- The characters of the class `[\s/()[\].,;:+#-]`. -/
def isSeparator (c : Char) : Bool := Js.isSpace c || "/()[].,;:+#-".toList.contains c

/-- Every run of the characters becomes one underscore. -/
def replaceRuns (p : Char → Bool) : List Char → List Char
  | [] => []
  | c :: rest =>
      if p c then
        if rest.head?.any p then replaceRuns p rest else '_' :: replaceRuns p rest
      else c :: replaceRuns p rest

/-- `text.replace(/^_|_$/g, "")` -/
def stripUnderscores (text : List Char) : List Char :=
  let headless := if text.head? = some '_' then text.tail else text
  if headless.getLast? = some '_' then headless.dropLast else headless

def norm (value : String) : String :=
  let joined := replaceRuns isSeparator (Js.toLowerCase (Js.trim value)).toList
  String.ofList (stripUnderscores (replaceRuns (· == '_') joined))

def TAX_ZONE : List (String × String) :=
  [("below_9m", "BELOW_9M"),
    ("upto_9_meters", "BELOW_9M"),
    ("up_to_9_meters", "BELOW_9M"),
    ("rate_zone_1", "BELOW_9M"),
    ("rate_zone_1_upto_9_meters", "BELOW_9M"),
    ("rz_1", "BELOW_9M"),
    ("rz1", "BELOW_9M"),
    ("1", "BELOW_9M"),
    ("meter_9_to_12", "METER_9_TO_12"),
    ("rate_zone_2", "METER_9_TO_12"),
    ("rate_zone_2_9_meters_and_upto_12_meters", "METER_9_TO_12"),
    ("rz_2", "METER_9_TO_12"),
    ("rz2", "METER_9_TO_12"),
    ("2", "METER_9_TO_12"),
    ("meter_12_to_24", "METER_12_TO_24"),
    ("rate_zone_3", "METER_12_TO_24"),
    ("rate_zone_3_12_meters_and_upto_24_meters", "METER_12_TO_24"),
    ("rz_3", "METER_12_TO_24"),
    ("rz3", "METER_12_TO_24"),
    ("3", "METER_12_TO_24"),
    ("above_24m", "ABOVE_24M"),
    ("rate_zone_4", "ABOVE_24M"),
    ("rate_zone_4_above_24_meters", "ABOVE_24M"),
    ("rz_4", "ABOVE_24M"),
    ("rz4", "ABOVE_24M"),
    ("4", "ABOVE_24M")]

def CONSTRUCTION : List (String × String) :=
  [("rcc", "PAKKA_BUILDING_WITH_RCC_ROOF"),
    ("pakka", "PAKKA_BUILDING_WITH_RCC_ROOF"),
    ("pucca", "PAKKA_BUILDING_WITH_RCC_ROOF"),
    ("tin", "TIN_SHED"),
    ("teen", "TIN_SHED"),
    ("shed", "TIN_SHED"),
    ("kaccha", "KACCHA_BUILDING"),
    ("kachcha", "KACCHA_BUILDING"),
    ("open_land", "OPEN_LAND"),
    ("open", "OPEN_LAND")]

/-- What follows each underscore. -/
def afterUnderscores : List Char → List (List Char)
  | [] => []
  | c :: rest => if c = '_' then rest :: afterUnderscores rest else afterUnderscores rest

/-- `^lead_?digit(?!\d)` -/
def numberedBy (digit : Char) (text : List Char) (lead : String) : Bool :=
  lead.toList.isPrefixOf text &&
    let rest := text.drop lead.length
    let rest := if rest.head? = some '_' then rest.tail else rest
    rest.head? == some digit && !(rest.tail.head?.any Char.isDigit)

/-- `/(?:^|_)(?:rate_?)?zone_?4(?!\d)|(?:^|_)rz_?4(?!\d)/`, for each digit. -/
def namesZone (digit : Char) (n : String) : Bool :=
  (n.toList :: afterUnderscores n.toList).any fun text =>
    ["zone", "ratezone", "rate_zone", "rz"].any (numberedBy digit text)

/-- The zone a text names by its number, else by the widths it mentions. -/
def zoneOfText (n : String) : Option String :=
  if namesZone '4' n then some "ABOVE_24M"
  else if namesZone '3' n then some "METER_12_TO_24"
  else if namesZone '2' n then some "METER_9_TO_12"
  else if namesZone '1' n then some "BELOW_9M"
  else if Js.includes n "above" && Js.includes n "24" then some "ABOVE_24M"
  else if Js.includes n "12" && Js.includes n "24" then some "METER_12_TO_24"
  else if (Js.includes n "9" && Js.includes n "12") || Js.includes n "9m_to_12" ||
      Js.includes n "9_to_12" then some "METER_9_TO_12"
  else if Js.includes n "below_9" || Js.includes n "upto_9" || Js.includes n "up_to_9" ||
      (Js.includes n "9" && Js.includes n "meter" && !Js.includes n "12") then some "BELOW_9M"
  else if Js.includes n "above_24" || Js.includes n ">24" || Js.includes n "24m" then
    some "ABOVE_24M"
  else none

def mapTaxRateZoneCode (raw : Option String) : Option String :=
  let raw := raw.getD ""
  if Js.isBlank raw then none
  else TAX_ZONE.lookup (norm raw) <|> zoneOfText (norm raw)

/-- The rows of the rate matrix. -/
def zoneCodes : List String := ["BELOW_9M", "METER_9_TO_12", "METER_12_TO_24", "ABOVE_24M"]

/-- A choice of zones is a zone. -/
theorem ite_mem_zoneCodes {p : Prop} [Decidable p] {first : String} {rest : Option String}
    (hFirst : first ∈ zoneCodes) (hRest : ∀ code ∈ rest, code ∈ zoneCodes) :
    ∀ code ∈ if p then some first else rest, code ∈ zoneCodes := by
  split_ifs
  · rintro _ ⟨⟩
    exact hFirst
  · exact hRest

theorem zoneOfText_mem {n code : String} (h : zoneOfText n = some code) : code ∈ zoneCodes := by
  have hCodes : ∀ code ∈ zoneOfText n, code ∈ zoneCodes := by
    unfold zoneOfText
    repeat refine ite_mem_zoneCodes (by decide) ?_
    rintro _ ⟨⟩
  exact hCodes code h

theorem mapTaxRateZoneCode_mem {raw : Option String} {code : String}
    (h : mapTaxRateZoneCode raw = some code) : code ∈ zoneCodes := by
  simp only [mapTaxRateZoneCode] at h
  split_ifs at h
  cases hEntry : TAX_ZONE.lookup (norm (raw.getD "")) with
  | none =>
      rw [hEntry, Option.orElse_apply, Option.orElse_none] at h
      exact zoneOfText_mem h
  | some found =>
      rw [hEntry, Option.orElse_apply, Option.orElse_some, Option.some_inj] at h
      subst h
      obtain ⟨before, after, hTable, -⟩ := List.lookup_eq_some_iff.mp hEntry
      have hCodes : ∀ entry ∈ TAX_ZONE, entry.2 ∈ zoneCodes := by decide
      exact hCodes (norm (raw.getD ""), found) (by simp [hTable])

def mapConstructionCode (raw : Option String) : String :=
  let raw := raw.getD ""
  if Js.isBlank raw then "PAKKA_BUILDING_WITH_RCC_ROOF"
  else
    match CONSTRUCTION.find? fun entry => Js.includes (norm raw) entry.1 with
    | some entry => entry.2
    | none => "PAKKA_BUILDING_WITH_RCC_ROOF"

theorem mapConstructionCode_mem (raw : Option String) :
    mapConstructionCode raw ∈ CONSTRUCTION.map Prod.snd := by
  simp only [mapConstructionCode]
  split_ifs
  · decide
  · cases hEntry : CONSTRUCTION.find? fun entry => Js.includes (norm (raw.getD "")) entry.1 with
    | none => decide
    | some entry => exact List.mem_map_of_mem (List.mem_of_find?_eq_some hEntry)

/-- The letter of a full Survey Id, or a single letter on its own. -/
def gisLetter (trimmed : Text) : Option Text :=
  match parseGisSurveyId trimmed with
  | some parts => some parts.gisUseCode
  | none =>
      match trimmed with
      | [c] => if c.isAlpha then some [c.toUpper] else none
      | _ => none

/-- Unknown letters are residential. -/
def classifyGisUseCode (codeOrSurveyId : Option String) : Option GisUseClass :=
  let trimmed := Js.trimChars (codeOrSurveyId.getD "").toList
  (gisLetter trimmed).map fun letter =>
    if letter = ['C'] then .commercial
    else if letter = ['P'] ∨ letter = ['O'] then .openLand
    else if letter = ['M'] then .mixed
    else .residential

/-- The four words of a commercial use, in a lower-case text. -/
def mentionsCommerce (text : String) : Bool :=
  Js.includes text "commercial" || Js.includes text "shop" || Js.includes text "godown" ||
    Js.includes text "non-res"

/-- The usage type of a floor wins over the use of the whole property. -/
def isResidentialUsage (usageType propertyUse : Option String)
    (gisUseClass : Option GisUseClass) : Bool :=
  match gisUseClass with
  | some .commercial | some .openLand => false
  | some .residential => true
  | some .mixed | none =>
      let floor := Js.toLowerCase (Js.trim (usageType.getD ""))
      if floor ≠ "" ∧ mentionsCommerce floor then false
      else if floor ≠ "" ∧ Js.includes floor "residential" then true
      else !mentionsCommerce (Js.toLowerCase (propertyUse.getD ""))

example : mapTaxRateZoneCode (some "Zone 2") = some "METER_9_TO_12" ∧
    mapTaxRateZoneCode (some "zone_12") = none ∧
    mapConstructionCode (some "Tin Shed") = "TIN_SHED" ∧
    classifyGisUseCode (some "249044-001-000001-001-p") = some .openLand := by decide

end PropertyTax
