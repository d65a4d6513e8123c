import PropertyTax.Surveys.SurveyId

/-! Which ids are generated ids, and what can be read back from them. -/
namespace PropertyTax.Surveys

/-- Letters are ASCII characters. -/
theorem toNat_lt_of_isAlpha {c : Char} (h : c.isAlpha) : c.toNat < 128 := by
  rcases Bool.or_eq_true_iff.mp (show (c.isUpper || c.isLower) = true from h) with hUpper | hLower
  · have hUpper : c.val ≤ 'Z'.val := (of_decide_eq_true hUpper).2
    have hZ : c.toNat ≤ 90 := UInt32.le_iff_toNat_le.mp hUpper
    omega
  · have hLower : c.val ≤ 'z'.val := of_decide_eq_true (Bool.and_eq_true_iff.mp hLower).2
    have hZ : c.toNat ≤ 122 := UInt32.le_iff_toNat_le.mp hLower
    omega

theorem toNat_lt_of_isDigit {c : Char} (h : c.isDigit) : c.toNat < 128 := by
  simp [Char.isDigit, UInt32.le_iff_toNat_le] at h
  omega

/-- The upper case of a letter is a letter, checked one by one. -/
theorem isAlpha_toUpper {c : Char} (h : c.isAlpha) : c.toUpper.isAlpha ∧
    c.toUpper.toUpper = c.toUpper ∧ Js.isSpace c.toUpper = false ∧ c.toUpper ≠ '-' := by
  have hAll : ∀ n : Fin 128, (Char.ofNat n).isAlpha → (Char.ofNat n).toUpper.isAlpha ∧
      (Char.ofNat n).toUpper.toUpper = (Char.ofNat n).toUpper ∧
      Js.isSpace (Char.ofNat n).toUpper = false ∧ (Char.ofNat n).toUpper ≠ '-' := by decide
  simpa [Char.ofNat_toNat] using
    hAll ⟨c.toNat, toNat_lt_of_isAlpha h⟩ (by simpa [Char.ofNat_toNat] using h)

theorem isSpace_of_isDigit {c : Char} (h : c.isDigit) : Js.isSpace c = false ∧ c ≠ '-' := by
  have hAll : ∀ n : Fin 128, (Char.ofNat n).isDigit →
      Js.isSpace (Char.ofNat n) = false ∧ Char.ofNat n ≠ '-' := by decide
  simpa [Char.ofNat_toNat] using
    hAll ⟨c.toNat, toNat_lt_of_isDigit h⟩ (by simpa [Char.ofNat_toNat] using h)

/-! ### Normal forms of the numbers -/

/-- A numeral is digits, and at least one. -/
theorem isNumeral_iff {text : Text} : isNumeral text ↔ text ≠ [] ∧ ∀ c ∈ text, c.isDigit := by
  simp [isNumeral]

theorem onlyDigits_eq_self {text : Text} (h : isNumeral text) : onlyDigits text = text :=
  List.filter_eq_self.mpr (isNumeral_iff.mp h).2

/-- A padded numeral is a numeral. -/
theorem leftpad_isNumeral {width : Nat} {text : Text} (h : isNumeral text) :
    isNumeral (text.leftpad width '0') := by
  obtain ⟨hNonempty, hDigits⟩ := isNumeral_iff.mp h
  rw [isNumeral_iff]
  constructor
  · simp [List.leftpad, hNonempty]
  · intro c hc
    rcases List.mem_append.mp hc with hZero | hOld
    · rw [List.eq_of_mem_replicate hZero]
      rfl
    · exact hDigits c hOld

/-- A number is its own normal form when it is a numeral of the full width. -/
theorem normalizeNumber_eq_self_iff {width : Nat} {missing : IdentityError} {text : Text} :
    normalizeNumber width missing text = .ok text ↔ isNumeral text ∧ width ≤ text.length := by
  unfold normalizeNumber
  constructor
  · intro h
    split_ifs at h with hNone
    have hText := Except.ok.inj h
    have hDigits : isNumeral (onlyDigits text) :=
      isNumeral_iff.mpr ⟨by simpa using hNone, fun c hc => (List.mem_filter.mp hc).2⟩
    have hLength := congrArg List.length hText
    rw [List.length_leftpad] at hLength
    exact ⟨hText ▸ leftpad_isNumeral hDigits, by omega⟩
  · intro h
    obtain ⟨hText, hWidth⟩ := h
    have hNonempty := (isNumeral_iff.mp hText).1
    simp [onlyDigits_eq_self hText, hNonempty, List.leftpad, hWidth]

/-- What is normalised is normal. -/
theorem normalizeNumber_ok {width : Nat} {missing : IdentityError} {value number : Text}
    (h : normalizeNumber width missing value = .ok number) :
    normalizeNumber width missing number = .ok number := by
  rw [normalizeNumber_eq_self_iff]
  unfold normalizeNumber at h
  split_ifs at h with hNone
  cases h
  constructor
  · exact leftpad_isNumeral
      (isNumeral_iff.mpr ⟨by simpa using hNone, fun c hc => (List.mem_filter.mp hc).2⟩)
  · rw [List.length_leftpad]
    omega

/-- A normalized number is a numeral. -/
theorem isNumeral_of_normalizeNumber {width : Nat} {missing : IdentityError} {value number : Text}
    (h : normalizeNumber width missing value = .ok number) : isNumeral number :=
  (normalizeNumber_eq_self_iff.mp (normalizeNumber_ok h)).1

/-- A normalized use code is a capital letter. -/
theorem normalizeGisUseCode_ok {value letter : Text} (h : normalizeGisUseCode value = .ok letter) :
    ∃ c : Char, c.isAlpha ∧ letter = [c.toUpper] := by
  unfold normalizeGisUseCode at h
  split at h
  · cases h
  next c rest hFilter =>
    cases h
    exact ⟨c, (List.mem_filter.mp (hFilter ▸ List.mem_cons_self)).2, rfl⟩

/-- The letter of an id is its own normal form. -/
theorem normalizeGisUseCode_upper {c : Char} (h : c.isAlpha) :
    normalizeGisUseCode [c.toUpper] = .ok [c.toUpper] := by
  obtain ⟨hAlpha, hUpper, hSpace, _⟩ := isAlpha_toUpper h
  have hTrim : Js.trimChars [c.toUpper] = [c.toUpper] := by simp [Js.trimChars, hSpace]
  simp [normalizeGisUseCode, hTrim, hAlpha, hUpper]

/-! ### Reading back a printed id -/

/-- A ward number of at most three digits fills the segment of the id, a longer
one does not fit. -/
theorem normalizeWardCode_length_iff {number : ℤ} {code : Text} (hLow : 1 ≤ number)
    (h : normalizeWardCode number = .ok code) : code.length = 3 ↔ number ≤ 999 := by
  have hDigits : integerToString number = Js.digits number.natAbs :=
    if_neg (by omega)
  have hOnly : onlyDigits (Js.digits number.natAbs) = Js.digits number.natAbs :=
    List.filter_eq_self.mpr fun _ hc => Nat.isDigit_of_mem_toDigits (by omega) (by omega) hc
  have hLength : (Js.digits number.natAbs).length ≤ 3 ↔ number.natAbs < 10 ^ 3 :=
    Nat.length_toDigits_le_iff (by omega) (by omega)
  rw [normalizeWardCode, normalizeNumber, hDigits, hOnly] at h
  split_ifs at h
  cases h
  rw [List.length_leftpad]
  omega

/-- The wards up to 999 have codes of three digits. -/
theorem normalizeWardCode_length {number : ℤ} {code : Text} (hLow : 1 ≤ number)
    (hHigh : number ≤ 999) (h : normalizeWardCode number = .ok code) : code.length = 3 :=
  (normalizeWardCode_length_iff hLow h).mpr hHigh

/-- A text without white space is left by trimming. -/
theorem trimChars_of_forall {text : Text} (h : ∀ c ∈ text, Js.isSpace c = false) :
    Js.trimChars text = text := by
  have hDrop : ∀ chars : Text, (∀ c ∈ chars, Js.isSpace c = false) →
      chars.dropWhile Js.isSpace = chars := by
    intro chars hChars
    cases chars with
    | nil => rfl
    | cons c rest => simp [hChars c List.mem_cons_self]
  rw [Js.trimChars, hDrop text h, hDrop _ fun c hc => h c (List.mem_reverse.mp hc),
    List.reverse_reverse]

/-- A numeral is left by trimming. -/
theorem trimChars_isNumeral {text : Text} (h : isNumeral text) : Js.trimChars text = text :=
  trimChars_of_forall fun c hc => (isSpace_of_isDigit ((isNumeral_iff.mp h).2 c hc)).1

section Printed
variable {ulbCode wardCode parcelNo propertyNo : Text} {letter : Char}

/-- The parts are the pieces between the hyphens, and nothing is trimmed. -/
theorem splitOn_printSurveyId (hUlb : isNumeral ulbCode) (hWard : isNumeral wardCode)
    (hParcel : isNumeral parcelNo) (hProperty : isNumeral propertyNo) (hLetter : letter.isAlpha) :
    (Js.trimChars (printSurveyId ulbCode wardCode parcelNo propertyNo [letter.toUpper])).splitOn
      '-' = [ulbCode, wardCode, parcelNo, propertyNo, [letter.toUpper]] := by
  obtain ⟨-, -, hSpace, hHyphen⟩ := isAlpha_toUpper hLetter
  have hNumeral : ∀ text : Text, isNumeral text → ∀ c ∈ text, Js.isSpace c = false ∧ c ≠ '-' :=
    fun text hText c hc => isSpace_of_isDigit ((isNumeral_iff.mp hText).2 c hc)
  have hTrim : Js.trimChars (printSurveyId ulbCode wardCode parcelNo propertyNo [letter.toUpper]) =
      printSurveyId ulbCode wardCode parcelNo propertyNo [letter.toUpper] := by
    apply trimChars_of_forall
    intro c hc
    simp only [printSurveyId, List.intercalate_cons_cons, List.intercalate_singleton,
      List.mem_append, List.mem_singleton] at hc
    have hDash : Js.isSpace '-' = false := rfl
    grind
  rw [hTrim]
  apply List.splitOn_intercalate
  · intro part hPart hDash
    simp only [List.mem_cons, List.not_mem_nil, or_false] at hPart
    grind
  · simp

/-- What is printed is read back when the ward has the three digits of the format. -/
theorem parse_printSurveyId_eq (hUlb : isNumeral ulbCode) (hWard : isNumeral wardCode)
    (hParcel : isNumeral parcelNo) (hProperty : isNumeral propertyNo) (hLetter : letter.isAlpha) :
    parseGisSurveyId (printSurveyId ulbCode wardCode parcelNo propertyNo [letter.toUpper]) =
      if wardCode.length = 3 then some ⟨ulbCode, wardCode, parcelNo, propertyNo, [letter.toUpper]⟩
      else none := by
  obtain ⟨hAlpha, hUpper, -, -⟩ := isAlpha_toUpper hLetter
  have hSplit := splitOn_printSurveyId hUlb hWard hParcel hProperty hLetter
  simp [parseGisSurveyId, hSplit, hUlb, hWard, hParcel, hProperty, hAlpha, hUpper]

/-- A printed survey id parses back into its parts. -/
theorem parse_printSurveyId (hUlb : isNumeral ulbCode) (hWard : isNumeral wardCode)
    (hLength : wardCode.length = 3) (hParcel : isNumeral parcelNo)
    (hProperty : isNumeral propertyNo) (hLetter : letter.isAlpha) :
    parseGisSurveyId (printSurveyId ulbCode wardCode parcelNo propertyNo [letter.toUpper]) =
      some ⟨ulbCode, wardCode, parcelNo, propertyNo, [letter.toUpper]⟩ := by
  rw [parse_printSurveyId_eq hUlb hWard hParcel hProperty hLetter, if_pos hLength]

end Printed

/-- What is generated is printed from normalized parts. -/
theorem generateSurveyId_eq_ok_iff {ulbCode : Text} {wardNo : ℤ}
    {parcelNo propertyNo gisUseCode surveyId : Text} :
    generateSurveyId ulbCode wardNo parcelNo propertyNo gisUseCode = .ok surveyId ↔
      ∃ ward parcel property letter, normalizeWardCode wardNo = .ok ward ∧
        normalizeParcelNo parcelNo = .ok parcel ∧ normalizePropertyNo propertyNo = .ok property ∧
        normalizeGisUseCode gisUseCode = .ok letter ∧
        printSurveyId (Js.trimChars ulbCode) ward parcel property letter = surveyId := by
  constructor
  · intro h
    obtain ⟨ward, hWard, h⟩ := bind_ok h
    obtain ⟨parcel, hParcel, h⟩ := bind_ok h
    obtain ⟨property, hProperty, h⟩ := bind_ok h
    obtain ⟨letter, hLetter, h⟩ := bind_ok h
    exact ⟨ward, parcel, property, letter, hWard, hParcel, hProperty, hLetter, Except.ok.inj h⟩
  · intro h
    obtain ⟨ward, parcel, property, letter, hWard, hParcel, hProperty, hLetter, rfl⟩ := h
    simp [generateSurveyId, hWard, hParcel, hProperty, hLetter, bind, Except.bind, pure, Except.pure]

/-- Normalising the parts first changes nothing. -/
theorem generateSurveyId_normalized {ulbCode : Text} {wardNo : ℤ}
    {parcelNo propertyNo gisUseCode surveyId parcel property letter : Text}
    (hParcel : normalizeParcelNo parcelNo = .ok parcel)
    (hProperty : normalizePropertyNo propertyNo = .ok property)
    (hLetter : normalizeGisUseCode gisUseCode = .ok letter) :
    generateSurveyId ulbCode wardNo parcel property letter = .ok surveyId ↔
      generateSurveyId ulbCode wardNo parcelNo propertyNo gisUseCode = .ok surveyId := by
  obtain ⟨c, hAlpha, rfl⟩ := normalizeGisUseCode_ok hLetter
  have hParcel' : normalizeParcelNo parcel = .ok parcel := normalizeNumber_ok hParcel
  have hProperty' : normalizePropertyNo property = .ok property := normalizeNumber_ok hProperty
  simp only [generateSurveyId_eq_ok_iff, hParcel, hProperty, hLetter, hParcel', hProperty',
    normalizeGisUseCode_upper hAlpha]

/-- From a record with all its parts, the id is generated. -/
theorem buildSurveyIdFromRecord_some {ulbCode : Text} {wardNumber : ℤ}
    {base parcelNo propertyNo gisUseCode surveyId : Text} :
    buildSurveyIdFromRecord ulbCode wardNumber base (some parcelNo) (some propertyNo)
        (some gisUseCode) = .ok surveyId ↔
      generateSurveyId ulbCode wardNumber parcelNo propertyNo gisUseCode = .ok surveyId := by
  constructor
  · intro h
    obtain ⟨parcel, hParcel, h⟩ := bind_ok h
    obtain ⟨property, hProperty, h⟩ := bind_ok h
    obtain ⟨letter, hLetter, h⟩ := bind_ok h
    exact (generateSurveyId_normalized hParcel hProperty hLetter).mp h
  · intro h
    obtain ⟨ward, parcel, property, letter, -, hParcel, hProperty, hLetter, -⟩ :=
      generateSurveyId_eq_ok_iff.mp h
    have hParts : buildSurveyIdFromRecord ulbCode wardNumber base (some parcelNo) (some propertyNo)
        (some gisUseCode) = generateSurveyId ulbCode wardNumber parcel property letter := by
      simp [buildSurveyIdFromRecord, hParcel, hProperty, hLetter, bind, Except.bind]
    rw [hParts]
    exact (generateSurveyId_normalized hParcel hProperty hLetter).mpr h

/-! ### The identity law -/

/-- The wards and the ULB code that ids can be read back for. -/
structure Identifiable (ulbCode : Text) (wardNumber : ℤ) : Prop where
  ulbCode : isNumeral ulbCode
  low : 1 ≤ wardNumber
  high : wardNumber ≤ 999

/-- The id is generated from the ward, the stored numbers and its own letter. -/
def GeneratedId (ulbCode : Text) (wardNumber : ℤ) (survey : SurveyIdRecord) : Prop :=
  ∃ parcelNo propertyNo letter, survey.parcelNo = some parcelNo ∧
    survey.propertyNo = some propertyNo ∧
    (parseGisSurveyId survey.surveyId).map (·.gisUseCode) = some letter ∧
    generateSurveyId ulbCode wardNumber parcelNo propertyNo letter = .ok survey.surveyId

/-- The numbers that are stored are stored padded. -/
def PaddedNumbers (survey : SurveyIdRecord) : Prop :=
  (∀ number ∈ survey.parcelNo, normalizeParcelNo number = .ok number) ∧
    ∀ number ∈ survey.propertyNo, normalizePropertyNo number = .ok number

/-- The letter that an id was generated with can be read back from it. -/
theorem generatedId_of_generate {ulbCode : Text} {wardNumber : ℤ}
    {parcelNo propertyNo gisUseCode surveyId : Text} (hIds : Identifiable ulbCode wardNumber)
    (h : generateSurveyId ulbCode wardNumber parcelNo propertyNo gisUseCode = .ok surveyId) :
    GeneratedId ulbCode wardNumber ⟨surveyId, some parcelNo, some propertyNo⟩ := by
  obtain ⟨ward, parcel, property, letter, hWard, hParcel, hProperty, hLetter, hPrint⟩ :=
    generateSurveyId_eq_ok_iff.mp h
  obtain ⟨c, hAlpha, rfl⟩ := normalizeGisUseCode_ok hLetter
  have hTrim : Js.trimChars ulbCode = ulbCode := trimChars_isNumeral hIds.ulbCode
  have hParse := parse_printSurveyId hIds.ulbCode (isNumeral_of_normalizeNumber hWard)
    (normalizeWardCode_length hIds.low hIds.high hWard) (isNumeral_of_normalizeNumber hParcel)
    (isNumeral_of_normalizeNumber hProperty) hAlpha
  refine ⟨parcelNo, propertyNo, [c.toUpper], rfl, rfl, ?_, ?_⟩
  · rw [← hPrint, hTrim, hParse]
    rfl
  · exact generateSurveyId_eq_ok_iff.mpr ⟨ward, parcel, property, _, hWard, hParcel, hProperty,
      normalizeGisUseCode_upper hAlpha, hPrint⟩

/-- The id does not depend on how the numbers are padded. -/
theorem generatedId_normalized {ulbCode : Text} {wardNumber : ℤ}
    {parcelNo propertyNo parcel property surveyId : Text}
    (hParcel : normalizeParcelNo parcelNo = .ok parcel)
    (hProperty : normalizePropertyNo propertyNo = .ok property) :
    GeneratedId ulbCode wardNumber ⟨surveyId, some parcel, some property⟩ ↔
      GeneratedId ulbCode wardNumber ⟨surveyId, some parcelNo, some propertyNo⟩ := by
  have hParcel' : normalizeParcelNo parcel = .ok parcel := normalizeNumber_ok hParcel
  have hProperty' : normalizePropertyNo property = .ok property := normalizeNumber_ok hProperty
  simp [GeneratedId, generateSurveyId_eq_ok_iff, hParcel, hProperty, hParcel', hProperty']

/-- A resolved identity has the id generated from its padded numbers. -/
theorem resolveSurveyIdentity_generated {ulbCode : Text} {wardNumber : ℤ}
    {input : SurveyIdentityInput} {current : Option SurveyIdRecord}
    {identity : ResolvedSurveyIdentity} (hIds : Identifiable ulbCode wardNumber)
    (h : resolveSurveyIdentity ulbCode wardNumber input current = .ok identity) :
    GeneratedId ulbCode wardNumber
        ⟨identity.surveyId, some identity.parcelNo, some identity.propertyNo⟩ ∧
      PaddedNumbers ⟨identity.surveyId, some identity.parcelNo, some identity.propertyNo⟩ := by
  obtain ⟨parcel, hParcel, h⟩ := bind_ok h
  obtain ⟨property, hProperty, h⟩ := bind_ok h
  obtain ⟨letter, hLetter, h⟩ := bind_ok h
  obtain ⟨surveyId, hSurveyId, h⟩ := bind_ok h
  cases h
  constructor
  · exact generatedId_of_generate hIds hSurveyId
  · simp only [PaddedNumbers, Option.mem_some_iff, forall_eq']
    exact ⟨normalizeNumber_ok hParcel, normalizeNumber_ok hProperty⟩

/-- A generated id is the expected one. -/
theorem GeneratedId.getExpected {ulbCode : Text} {wardNumber : ℤ} {survey : SurveyIdRecord}
    (h : GeneratedId ulbCode wardNumber survey) :
    getExpectedSurveyIdFromRecord ulbCode survey wardNumber = .ok survey.surveyId := by
  obtain ⟨parcelNo, propertyNo, letter, hParcel, hProperty, hLetter, hId⟩ := h
  rw [getExpectedSurveyIdFromRecord, hParcel, hProperty, hLetter]
  exact buildSurveyIdFromRecord_some.mpr hId

/-- A generated id is never repaired. -/
theorem GeneratedId.surveyIdNeedsRepair {ulbCode : Text} {wardNumber : ℤ} {survey : SurveyIdRecord}
    (h : GeneratedId ulbCode wardNumber survey) :
    surveyIdNeedsRepair ulbCode survey wardNumber = false := by
  simp [Surveys.surveyIdNeedsRepair, h.getExpected]

/-- The id that a record should have is generated from the parts it shows. -/
theorem getExpected_parse {ulbCode : Text} {wardNumber : ℤ} {survey : SurveyIdRecord}
    {expected : Text} (hIds : Identifiable ulbCode wardNumber)
    (h : getExpectedSurveyIdFromRecord ulbCode survey wardNumber = .ok expected) :
    ∃ parts, parseGisSurveyId expected = some parts ∧
      GeneratedId ulbCode wardNumber ⟨expected, some parts.parcelNo, some parts.propertyNo⟩ := by
  obtain ⟨parcelNo, hParcelNo, h⟩ := bind_ok h
  obtain ⟨propertyNo, hPropertyNo, h⟩ := bind_ok h
  obtain ⟨gisUseCode, hUse, hGenerate⟩ := bind_ok h
  obtain ⟨ward, parcel, property, letter, hWard, hParcel, hProperty, hLetter, hPrint⟩ :=
    generateSurveyId_eq_ok_iff.mp hGenerate
  obtain ⟨c, hAlpha, rfl⟩ := normalizeGisUseCode_ok hLetter
  have hTrim : Js.trimChars ulbCode = ulbCode := trimChars_isNumeral hIds.ulbCode
  have hParse := parse_printSurveyId hIds.ulbCode (isNumeral_of_normalizeNumber hWard)
    (normalizeWardCode_length hIds.low hIds.high hWard) (isNumeral_of_normalizeNumber hParcel)
    (isNumeral_of_normalizeNumber hProperty) hAlpha
  rw [hTrim] at hPrint
  rw [hPrint] at hParse
  refine ⟨_, hParse, ?_⟩
  exact (generatedId_normalized hParcel hProperty).mpr (generatedId_of_generate hIds hGenerate)

end PropertyTax.Surveys
