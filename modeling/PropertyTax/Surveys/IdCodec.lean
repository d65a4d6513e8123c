import PropertyTax.Surveys.Commits
import PropertyTax.Surveys.Identity

/-! Survey ids as a code of their parts: what is generated is read back, two
inputs of one id have the same normal form, and a repaired record has the id that
it should have. The ward of an id has three digits, so a longer one is lost. -/
namespace PropertyTax.Surveys
open KeyedTable Scripts SurveysService

/-- `number | string` -/
inductive WardNo where
  | number (n : ℤ)
  | text (digits : Text)

/-- `String(wardNo)` -/
def WardNo.toText : WardNo → Text
  | number n => integerToString n
  | text digits => digits

structure GenerateSurveyIdInput where
  ulbCode : Text
  wardNo : WardNo
  parcelNo : Text
  propertyNo : Text
  gisUseCode : Text

namespace GenerateSurveyIdInput

/-- `generateSurveyId`, with the ward as it is given. -/
def generateSurveyId (input : GenerateSurveyIdInput) : Except IdentityError Text := do
  let wardCode ← normalizeNumber 3 .wardRequired input.wardNo.toText
  let parcelNo ← normalizeParcelNo input.parcelNo
  let propertyNo ← normalizePropertyNo input.propertyNo
  let gisUseCode ← normalizeGisUseCode input.gisUseCode
  return printSurveyId (Js.trimChars input.ulbCode) wardCode parcelNo propertyNo gisUseCode

/-- From a ward's number, the id is generated as the service does. -/
theorem generateSurveyId_number (ulbCode : Text) (wardNo : ℤ)
    (parcelNo propertyNo gisUseCode : Text) :
    generateSurveyId ⟨ulbCode, .number wardNo, parcelNo, propertyNo, gisUseCode⟩ =
      Surveys.generateSurveyId ulbCode wardNo parcelNo propertyNo gisUseCode := rfl

/-- The parts that an id is made of. -/
structure Normalized (input : GenerateSurveyIdInput) (parts : GisSurveyParts) : Prop where
  ulbCode : Js.trimChars input.ulbCode = parts.ulbCode
  wardNo : normalizeNumber 3 .wardRequired input.wardNo.toText = .ok parts.wardNo
  parcelNo : normalizeParcelNo input.parcelNo = .ok parts.parcelNo
  propertyNo : normalizePropertyNo input.propertyNo = .ok parts.propertyNo
  gisUseCode : normalizeGisUseCode input.gisUseCode = .ok parts.gisUseCode

end GenerateSurveyIdInput

namespace GisSurveyParts

def print (parts : GisSurveyParts) : Text :=
  printSurveyId parts.ulbCode parts.wardNo parts.parcelNo parts.propertyNo parts.gisUseCode

/-- The parts as an input of the generator. -/
def toInput (parts : GisSurveyParts) : GenerateSurveyIdInput :=
  ⟨parts.ulbCode, .text parts.wardNo, parts.parcelNo, parts.propertyNo, parts.gisUseCode⟩

/-- Numerals, and one letter in upper case. -/
structure Normal (parts : GisSurveyParts) : Prop where
  ulbCode : isNumeral parts.ulbCode
  wardNo : isNumeral parts.wardNo
  parcelNo : isNumeral parts.parcelNo
  propertyNo : isNumeral parts.propertyNo
  gisUseCode : ∃ letter : Char, letter.isAlpha ∧ parts.gisUseCode = [letter.toUpper]

variable {parts parts' : GisSurveyParts}

/-- A printed id parses back, if its ward has three digits. -/
theorem parse_print (h : parts.Normal) :
    parseGisSurveyId parts.print = if parts.wardNo.length = 3 then some parts else none := by
  obtain ⟨ulbCode, wardNo, parcelNo, propertyNo, gisUseCode⟩ := parts
  obtain ⟨hUlb, hWard, hParcel, hProperty, letter, hLetter, hUse⟩ := h
  obtain rfl : gisUseCode = [letter.toUpper] := hUse
  exact parse_printSurveyId_eq hUlb hWard hParcel hProperty hLetter

/-- A printed id is split into its parts. -/
theorem splitOn_print (h : parts.Normal) : (Js.trimChars parts.print).splitOn '-' =
    [parts.ulbCode, parts.wardNo, parts.parcelNo, parts.propertyNo, parts.gisUseCode] := by
  obtain ⟨ulbCode, wardNo, parcelNo, propertyNo, gisUseCode⟩ := parts
  obtain ⟨hUlb, hWard, hParcel, hProperty, letter, hLetter, hUse⟩ := h
  obtain rfl : gisUseCode = [letter.toUpper] := hUse
  exact splitOn_printSurveyId hUlb hWard hParcel hProperty hLetter

/-- One id has one list of parts, whatever their widths. -/
theorem eq_of_print_eq (h : parts.Normal) (h' : parts'.Normal) (hPrint : parts.print = parts'.print) :
    parts = parts' := by
  have hPieces := splitOn_print h
  rw [hPrint, splitOn_print h'] at hPieces
  cases parts
  cases parts'
  simp only [List.cons.injEq, and_true] at hPieces
  obtain ⟨rfl, rfl, rfl, rfl, rfl⟩ := hPieces
  rfl

end GisSurveyParts

/-! ### Inputs -/

namespace GenerateSurveyIdInput
variable {input : GenerateSurveyIdInput} {parts : GisSurveyParts} {surveyId : Text}

/-- What is generated is the print of the normalized parts. -/
theorem generateSurveyId_ok_iff : input.generateSurveyId = .ok surveyId ↔
    ∃ parts, input.Normalized parts ∧ parts.print = surveyId := by
  constructor
  · intro h
    obtain ⟨wardNo, hWard, h⟩ := bind_ok h
    obtain ⟨parcelNo, hParcel, h⟩ := bind_ok h
    obtain ⟨propertyNo, hProperty, h⟩ := bind_ok h
    obtain ⟨gisUseCode, hUse, h⟩ := bind_ok h
    exact ⟨⟨Js.trimChars input.ulbCode, wardNo, parcelNo, propertyNo, gisUseCode⟩,
      ⟨rfl, hWard, hParcel, hProperty, hUse⟩, Except.ok.inj h⟩
  · rintro ⟨parts, hParts, rfl⟩
    simp only [generateSurveyId, hParts.wardNo, hParts.parcelNo, hParts.propertyNo,
      hParts.gisUseCode, hParts.ulbCode, bind, Except.bind]
    rfl

/-- Parts are normalized in one way. -/
theorem Normalized.unique {parts' : GisSurveyParts} (hParts : input.Normalized parts)
    (hParts' : input.Normalized parts') : parts = parts' := by
  obtain ⟨ulbCode, wardNo, parcelNo, propertyNo, gisUseCode⟩ := parts
  obtain ⟨ulbCode', wardNo', parcelNo', propertyNo', gisUseCode'⟩ := parts'
  simp only [GisSurveyParts.mk.injEq]
  exact ⟨hParts.ulbCode.symm.trans hParts'.ulbCode,
    Except.ok.inj (hParts.wardNo.symm.trans hParts'.wardNo),
    Except.ok.inj (hParts.parcelNo.symm.trans hParts'.parcelNo),
    Except.ok.inj (hParts.propertyNo.symm.trans hParts'.propertyNo),
    Except.ok.inj (hParts.gisUseCode.symm.trans hParts'.gisUseCode)⟩

/-- Normalized parts are normal. -/
theorem Normalized.normal (hParts : input.Normalized parts) (hUlb : isNumeral input.ulbCode) :
    parts.Normal where
  ulbCode := by
    rw [← hParts.ulbCode, trimChars_isNumeral hUlb]
    exact hUlb
  wardNo := isNumeral_of_normalizeNumber hParts.wardNo
  parcelNo := isNumeral_of_normalizeNumber hParts.parcelNo
  propertyNo := isNumeral_of_normalizeNumber hParts.propertyNo
  gisUseCode := normalizeGisUseCode_ok hParts.gisUseCode

/-- Normal parts are their own normal form. -/
theorem Normalized.toInput (hParts : input.Normalized parts) (hUlb : isNumeral input.ulbCode) :
    parts.toInput.Normalized parts where
  ulbCode := trimChars_isNumeral (hParts.normal hUlb).ulbCode
  wardNo := normalizeNumber_ok hParts.wardNo
  parcelNo := normalizeNumber_ok hParts.parcelNo
  propertyNo := normalizeNumber_ok hParts.propertyNo
  gisUseCode := by
    obtain ⟨letter, hLetter, hUse⟩ := normalizeGisUseCode_ok hParts.gisUseCode
    change normalizeGisUseCode parts.gisUseCode = .ok parts.gisUseCode
    rw [hUse]
    exact normalizeGisUseCode_upper hLetter

end GenerateSurveyIdInput

/-- A digit is enough for a number. -/
theorem normalizeNumber_isOk {width : Nat} {missing : IdentityError} {value : Text}
    (h : ∃ c ∈ value, c.isDigit) : ∃ number, normalizeNumber width missing value = .ok number := by
  obtain ⟨c, hMem, hDigit⟩ := h
  have hSome : c ∈ onlyDigits value := List.mem_filter.mpr ⟨hMem, hDigit⟩
  have hFilled : ¬ (onlyDigits value).isEmpty := by
    rw [List.isEmpty_iff]
    exact List.ne_nil_of_mem hSome
  exact ⟨_, if_neg hFilled⟩

theorem isSpace_of_isAlpha {c : Char} (h : c.isAlpha) : Js.isSpace c = false := by
  have hAll : ∀ n : Fin 128, (Char.ofNat n).isAlpha → Js.isSpace (Char.ofNat n) = false := by
    decide
  simpa [Char.ofNat_toNat] using
    hAll ⟨c.toNat, toNat_lt_of_isAlpha h⟩ (by simpa [Char.ofNat_toNat] using h)

/-- A letter is enough for a use code. -/
theorem normalizeGisUseCode_isOk {value : Text} (h : ∃ c ∈ value, c.isAlpha) :
    ∃ letter, normalizeGisUseCode value = .ok letter := by
  obtain ⟨c, hMem, hAlpha⟩ := h
  have hPart : [c] <:+: Js.trimChars value := by
    refine Js.infix_trimChars (fun d hd => ?_) ?_
    · rw [List.mem_singleton.mp hd]
      exact isSpace_of_isAlpha hAlpha
    · obtain ⟨before, after, rfl⟩ := List.append_of_mem hMem
      exact ⟨before, after, by simp⟩
  have hSome : c ∈ (Js.trimChars value).filter Char.isAlpha :=
    List.mem_filter.mpr ⟨hPart.subset List.mem_cons_self, hAlpha⟩
  unfold normalizeGisUseCode
  cases hLetters : (Js.trimChars value).filter Char.isAlpha with
  | nil =>
      rw [hLetters] at hSome
      cases hSome
  | cons letter rest => exact ⟨_, rfl⟩

theorem normalizeWardCode_isOk (wardNo : ℤ) : ∃ code, normalizeWardCode wardNo = .ok code := by
  have hDigits : ∀ n : Nat, ∃ c ∈ Js.digits n, c.isDigit := by
    intro n
    obtain ⟨c, hc⟩ := List.exists_mem_of_ne_nil _ (Nat.toDigits_ne_nil (n := n) (b := 10))
    exact ⟨c, hc, Nat.isDigit_of_mem_toDigits (by omega) (by omega) hc⟩
  refine normalizeNumber_isOk ?_
  obtain ⟨c, hMem, hDigit⟩ := hDigits wardNo.natAbs
  unfold integerToString
  split_ifs
  · exact ⟨c, List.mem_cons_of_mem _ hMem, hDigit⟩
  · exact ⟨c, hMem, hDigit⟩

/-! ### Repairs -/

section Repair
variable {env : Env}

/-- A repaired row is left with the id that its record should have. -/
theorem repair_expected {survey : Survey} {wardNumber : ℤ} (hIds : Identifiable env.ulbCode wardNumber)
    {state after : SurveyState} {surveyId : Text}
    (hRepair : repairSurveyIdIfNeeded env survey wardNumber state = (after, .ok surveyId))
    (hChanged : surveyId ≠ survey.surveyId) :
    ∃ row ∈ after.db.surveys.rows, row.id = survey.id ∧ row.surveyId = surveyId ∧
      getExpectedSurveyIdFromRecord env.ulbCode row.record wardNumber = .ok row.surveyId := by
  have hMeets : Meets (repairSurveyIdIfNeeded env survey wardNumber) (OnDb fun _ => True)
      (fun surveyId => OnDb fun db => surveyId ≠ survey.surveyId →
        ∃ row ∈ db.surveys.rows, row.id = survey.id ∧ row.surveyId = surveyId ∧
          getExpectedSurveyIdFromRecord env.ulbCode row.record wardNumber = .ok row.surveyId)
      (OnDb fun _ => True) := by
    unfold repairSurveyIdIfNeeded
    split
    · exact Meets.pure fun _ _ hChanged => absurd rfl hChanged
    · split
      · exact Meets.fail fun _ _ => trivial
      next expected hExpected =>
        refine bind_read (fun _ _ => trivial) fun clash => ?_
        split
        · exact Meets.pure fun _ _ hChanged => absurd rfl hChanged
        · refine Meets.bind (meets_statement (fun _ _ => trivial) fun db db' updated _ hRun => ?_)
            fun _ => Meets.pure fun _ h => h
          obtain ⟨old, hOldId, rfl, hReplaced, -⟩ := SurveyDb.updateSurvey_ok hRun
          obtain ⟨parts, hParse, hId⟩ := getExpected_parse hIds hExpected
          refine fun _ => ⟨_, hReplaced.mem_new, hOldId, rfl, ?_⟩
          have hRecord : ((repairData expected survey).applyTo old).record =
              ⟨expected, some parts.parcelNo, some parts.propertyNo⟩ := by
            simp [repairData, SurveyData.applyTo, Survey.record, hParse]
          rw [hRecord]
          exact hId.getExpected
  have hEnd := hMeets state trivial
  rw [hRepair] at hEnd
  exact hEnd hChanged

end Repair

/-! ### The code -/

/-- What the ids of a ULB code keep of their inputs. -/
structure SurveyIdCodec (ulbCode : Text) : Prop where
  parsed : ∀ (wardNo : ℤ) (parcelNo propertyNo gisUseCode : Text), 1 ≤ wardNo →
    (∃ c ∈ parcelNo, c.isDigit) → (∃ c ∈ propertyNo, c.isDigit) → (∃ c ∈ gisUseCode, c.isAlpha) →
    ∃ parts surveyId, parts.ulbCode = ulbCode ∧
      GenerateSurveyIdInput.Normalized
        ⟨ulbCode, .number wardNo, parcelNo, propertyNo, gisUseCode⟩ parts ∧
      generateSurveyId ulbCode wardNo parcelNo propertyNo gisUseCode = .ok surveyId ∧
      parseGisSurveyId surveyId = if wardNo ≤ 999 then some parts else none
  generated : ∀ (input : GenerateSurveyIdInput) (surveyId : Text) (parts : GisSurveyParts),
    input.ulbCode = ulbCode → input.generateSurveyId = .ok surveyId →
    parseGisSurveyId surveyId = some parts → parts.toInput.generateSurveyId = .ok surveyId
  injective : ∀ (input input' : GenerateSurveyIdInput) (surveyId : Text) (parts : GisSurveyParts),
    input.ulbCode = ulbCode → isNumeral input'.ulbCode →
    input.generateSurveyId = .ok surveyId → input'.generateSurveyId = .ok surveyId →
    input.Normalized parts → input'.Normalized parts
  repaired : ∀ (env : Env) (survey : Survey) (wardNumber : ℤ) (state after : SurveyState)
    (surveyId : Text), env.ulbCode = ulbCode → 1 ≤ wardNumber → wardNumber ≤ 999 →
    repairSurveyIdIfNeeded env survey wardNumber state = (after, .ok surveyId) →
    surveyId ≠ survey.surveyId →
    ∃ row ∈ after.db.surveys.rows, row.id = survey.id ∧ row.surveyId = surveyId ∧
      getExpectedSurveyIdFromRecord ulbCode row.record wardNumber = .ok row.surveyId

/-- Generating and parsing survey ids undo each other, for wards of three digits. -/
theorem surveyId_codec {ulbCode : Text} (hUlb : isNumeral ulbCode) : SurveyIdCodec ulbCode where
  parsed wardNo parcelNo propertyNo gisUseCode hLow hParcel hProperty hUse := by
    obtain ⟨ward, hWard⟩ := normalizeWardCode_isOk wardNo
    obtain ⟨parcel, hParcel⟩ : ∃ parcel, normalizeParcelNo parcelNo = .ok parcel :=
      normalizeNumber_isOk hParcel
    obtain ⟨property, hProperty⟩ : ∃ property, normalizePropertyNo propertyNo = .ok property :=
      normalizeNumber_isOk hProperty
    obtain ⟨letter, hUse⟩ := normalizeGisUseCode_isOk hUse
    have hParts : GenerateSurveyIdInput.Normalized
        ⟨ulbCode, .number wardNo, parcelNo, propertyNo, gisUseCode⟩
        ⟨ulbCode, ward, parcel, property, letter⟩ :=
      ⟨trimChars_isNumeral hUlb, hWard, hParcel, hProperty, hUse⟩
    refine ⟨_, _, rfl, hParts, GenerateSurveyIdInput.generateSurveyId_ok_iff.mpr
      ⟨_, hParts, rfl⟩, ?_⟩
    rw [GisSurveyParts.parse_print (hParts.normal hUlb)]
    simp only [normalizeWardCode_length_iff hLow hWard]
  generated input surveyId parts hSame hGenerate hParse := by
    obtain ⟨printed, hPrinted, rfl⟩ := GenerateSurveyIdInput.generateSurveyId_ok_iff.mp hGenerate
    subst hSame
    rw [GisSurveyParts.parse_print (hPrinted.normal hUlb)] at hParse
    split_ifs at hParse
    cases hParse
    exact GenerateSurveyIdInput.generateSurveyId_ok_iff.mpr ⟨_, hPrinted.toInput hUlb, rfl⟩
  injective input input' surveyId parts hSame hUlb' hGenerate hGenerate' hParts := by
    subst hSame
    obtain ⟨printed, hPrinted, hPrint⟩ :=
      GenerateSurveyIdInput.generateSurveyId_ok_iff.mp hGenerate
    obtain ⟨printed', hPrinted', hPrint'⟩ :=
      GenerateSurveyIdInput.generateSurveyId_ok_iff.mp hGenerate'
    obtain rfl := hPrinted.unique hParts
    obtain rfl := GisSurveyParts.eq_of_print_eq (hPrinted.normal hUlb) (hPrinted'.normal hUlb')
      (hPrint.trans hPrint'.symm)
    exact hPrinted'
  repaired env survey wardNumber state after surveyId hSame hLow hHigh hRepair hChanged := by
    subst hSame
    exact repair_expected ⟨hUlb, hLow, hHigh⟩ hRepair hChanged

/-- The code of the town itself, and a house of its first ward. -/
theorem surveyId_codec_chhata : SurveyIdCodec CHHATA_ULB_CODE ∧ ∃ parts,
    generateSurveyId CHHATA_ULB_CODE 1 "131".toList "1".toList "r".toList =
      .ok "249044-001-000131-001-R".toList ∧
    parseGisSurveyId "249044-001-000131-001-R".toList = some parts ∧
    parts.toInput.generateSurveyId = .ok "249044-001-000131-001-R".toList := by
  have hCodec : SurveyIdCodec CHHATA_ULB_CODE := surveyId_codec (by decide)
  have hId : generateSurveyId CHHATA_ULB_CODE 1 "131".toList "1".toList "r".toList =
      .ok "249044-001-000131-001-R".toList := by decide
  obtain ⟨parts, surveyId, -, -, hGenerate, hParse⟩ := hCodec.parsed 1 "131".toList "1".toList
    "r".toList (by decide) ⟨'1', by decide, rfl⟩ ⟨'1', by decide, rfl⟩ ⟨'r', by decide, rfl⟩
  obtain rfl := Except.ok.inj (hId.symm.trans hGenerate)
  rw [if_pos (by decide)] at hParse
  exact ⟨hCodec, parts, hId, hParse, hCodec.generated _ _ parts rfl
    ((GenerateSurveyIdInput.generateSurveyId_number _ _ _ _ _).trans hId) hParse⟩

/-- The thousandth ward does not fit into the three digits of the format. -/
theorem parse_thousandthWard :
    ¬ ∀ (ulbCode : Text) (wardNo : ℤ) (parcelNo propertyNo gisUseCode : Text),
      isNumeral ulbCode → 1 ≤ wardNo → (∃ c ∈ parcelNo, c.isDigit) →
      (∃ c ∈ propertyNo, c.isDigit) → (∃ c ∈ gisUseCode, c.isAlpha) →
      ∃ parts surveyId, GenerateSurveyIdInput.Normalized
          ⟨ulbCode, .number wardNo, parcelNo, propertyNo, gisUseCode⟩ parts ∧
        generateSurveyId ulbCode wardNo parcelNo propertyNo gisUseCode = .ok surveyId ∧
        parseGisSurveyId surveyId = some parts := by
  intro hRead
  obtain ⟨parts, surveyId, -, hGenerate, hParse⟩ := hRead CHHATA_ULB_CODE 1000 "000131".toList
    "001".toList "R".toList (by decide) (by decide) ⟨'1', by decide, rfl⟩ ⟨'1', by decide, rfl⟩
    ⟨'R', by decide, rfl⟩
  have hId : generateSurveyId CHHATA_ULB_CODE 1000 "000131".toList "001".toList "R".toList =
      .ok "249044-1000-000131-001-R".toList := by decide
  rw [hId] at hGenerate
  cases hGenerate
  have hLost : parseGisSurveyId "249044-1000-000131-001-R".toList = none := by decide
  rw [hLost] at hParse
  cases hParse

end PropertyTax.Surveys
