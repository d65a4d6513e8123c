import PropertyTax.Surveys.FloorHeads

/-! What the parser reads in the text that the editor writes for a floor. -/
namespace PropertyTax.Surveys
open FloorsEditor

/-! ### The texts -/

/-- A label in the text of a value. -/
def typeIn (value : Text) : Option Text := labelled "Usage Type".toList value

def factorIn (value : Text) : Option Text := labelled "Usage Factor".toList value

/-- What a part is read as under its own label. -/
def readAs (search : Text → Option Text) (value : Text) : Option Text :=
  if value.any isLineTerminator then search value else some value

/-- A value on one line is read as it is. -/
theorem readAs_of_oneLine {search : Text → Option Text} {value : Text}
    (h : value.any isLineTerminator = false) : readAs search value = some value := by
  rw [readAs, h]
  rfl

section Parts
variable {value found label : Text}

/-- A value that is found lies within one line. -/
theorem labelled_oneLine (h : labelled label value = some found) :
    found.any isLineTerminator = false := by
  obtain ⟨tail, -, hFound⟩ := List.exists_of_findSome?_eq_some h
  split_ifs at hFound
  obtain ⟨text, -, hText⟩ := Option.bind_eq_some_iff.mp hFound
  split_ifs at hText with hBad
  obtain rfl := Option.some.inj hText
  have hLine : text.any isLineTerminator = false := by
    simp only [Bool.or_eq_true, not_or] at hBad
    exact Bool.eq_false_iff.mpr hBad.2
  rw [List.any_eq_false] at hLine ⊢
  exact fun c hc => hLine c ((Js.trimChars_isInfix text).subset hc)

/-- What is read is on one line. -/
theorem readAs_oneLine (h : readAs (labelled label) value = some found) :
    found.any isLineTerminator = false := by
  unfold readAs at h
  split_ifs at h with hLine
  · exact labelled_oneLine h
  · obtain rfl := Option.some.inj h
    exact Bool.eq_false_iff.mpr hLine

/-- A usage type that is written is read as its value. -/
theorem typeIn_typePart (h : IsValue value) :
    typeIn ("Usage Type - ".toList ++ value) = readAs typeIn value :=
  @labelled_self value "sage Type".toList h (Js.forall_mem_of_all (by decide))

/-- A usage factor that is written is read as its value. -/
theorem factorIn_factorPart (h : IsValue value) :
    factorIn ("Usage Factor - ".toList ++ value) = readAs factorIn value :=
  @labelled_self value "sage Factor".toList h (Js.forall_mem_of_all (by decide))

/-- In a written usage factor, a type is looked for in its value. -/
theorem typeIn_factorPart (value : Text) :
    typeIn ("Usage Factor - ".toList ++ value) = typeIn value := by
  have hStart : labelledAt "Usage Type".toList ('U' :: ("sage Factor - ".toList ++ value)) = none :=
    rfl
  have hCons := labelled_cons "Usage Type".toList 'U' ("sage Factor - ".toList ++ value)
  rw [hStart, Option.none_or] at hCons
  exact hCons.trans (labelled_skip (Js.forall_mem_of_all (by decide)) value)

/-- In a written usage type, a factor is looked for in its value. -/
theorem factorIn_typePart (value : Text) :
    factorIn ("Usage Type - ".toList ++ value) = factorIn value := by
  have hStart : labelledAt "Usage Factor".toList ('U' :: ("sage Type - ".toList ++ value)) = none :=
    rfl
  have hCons := labelled_cons "Usage Factor".toList 'U' ("sage Type - ".toList ++ value)
  rw [hStart, Option.none_or] at hCons
  exact hCons.trans (labelled_skip (Js.forall_mem_of_all (by decide)) value)

end Parts

/-- The values under "Usage Type", in the order of the parts. -/
def typesRead (usageType usageFactor buildingType : Option Text) : List Text :=
  (usageType.bind (readAs typeIn)).toList ++ (usageFactor.bind typeIn).toList ++
    (buildingType.bind (readAs typeIn)).toList

def factorsRead (usageType usageFactor buildingType : Option Text) : List Text :=
  (usageType.bind factorIn).toList ++ (usageFactor.bind (readAs factorIn)).toList ++
    (buildingType.bind factorIn).toList

/-- Each text stands under its own label when there is a usage type before a
building type, and no text has the label of another in it. -/
structure KeepsTexts (usageType usageFactor buildingType : Option Text) : Prop where
  oneLine : ∀ value, usageType = some value ∨ usageFactor = some value ∨ buildingType = some value →
    value.any isLineTerminator = false
  building : buildingType ≠ none → usageType ≠ none
  typeInFactor : ∀ value, usageFactor.bind typeIn = some value →
    usageType ≠ none ∧ buildingType = some value
  factorInBuilding : ∀ value, buildingType.bind factorIn = some value → usageFactor = some value
  factorInUsage : usageFactor = none → usageType.bind factorIn = none

section Texts
variable {usageType usageFactor buildingType : Option Text}

/-- The types read are on one line. -/
theorem typesRead_oneLine {value : Text}
    (h : value ∈ typesRead usageType usageFactor buildingType) :
    value.any isLineTerminator = false := by
  simp only [typesRead, List.mem_append, Option.mem_toList, Option.bind_eq_some_iff] at h
  rcases h with (⟨text, -, hText⟩ | ⟨text, -, hText⟩) | ⟨text, -, hText⟩
  · exact readAs_oneLine hText
  · exact labelled_oneLine hText
  · exact readAs_oneLine hText

/-- The factors read are on one line. -/
theorem factorsRead_oneLine {value : Text}
    (h : value ∈ factorsRead usageType usageFactor buildingType) :
    value.any isLineTerminator = false := by
  simp only [factorsRead, List.mem_append, Option.mem_toList, Option.bind_eq_some_iff] at h
  rcases h with (⟨text, -, hText⟩ | ⟨text, -, hText⟩) | ⟨text, -, hText⟩
  · exact labelled_oneLine hText
  · exact readAs_oneLine hText
  · exact labelled_oneLine hText

/-- The texts are read as they were exactly then. -/
theorem keepsTexts_iff :
    ((typesRead usageType usageFactor buildingType)[0]? = usageType ∧
      (factorsRead usageType usageFactor buildingType).getLast? = usageFactor ∧
      (typesRead usageType usageFactor buildingType)[1]? = buildingType) ↔
    KeepsTexts usageType usageFactor buildingType := by
  constructor
  · rintro ⟨hType, hFactor, hBuilding⟩
    have hOneLine : ∀ value, usageType = some value → value.any isLineTerminator = false :=
      fun value hValue => typesRead_oneLine (List.mem_of_getElem? (hType.trans hValue))
    have hSome : typesRead usageType usageFactor buildingType ≠ [] → usageType ≠ none := by
      intro hNe hNone
      rw [hNone, List.getElem?_eq_none_iff, Nat.le_zero, List.length_eq_zero_iff] at hType
      exact hNe (hNone ▸ hType)
    constructor
    · rintro value (hValue | hValue | hValue)
      · exact hOneLine value hValue
      · exact factorsRead_oneLine (List.mem_of_getLast? (hFactor.trans hValue))
      · exact typesRead_oneLine (List.mem_of_getElem? (hBuilding.trans hValue))
    · intro hNe
      apply hSome
      intro hNil
      rw [hNil] at hBuilding
      exact hNe hBuilding.symm
    · intro value hValue
      have hUsage : usageType ≠ none := hSome (by simp [typesRead, hValue])
      obtain ⟨text, rfl⟩ := Option.ne_none_iff_exists'.mp hUsage
      refine ⟨hUsage, ?_⟩
      rw [← hBuilding]
      simp [typesRead, hValue, readAs_of_oneLine (hOneLine text rfl)]
    · intro value hValue
      rw [← hFactor]
      simp [factorsRead, hValue]
    · intro hNone
      rw [hNone, List.getLast?_eq_none_iff] at hFactor
      have hFirst := List.append_eq_nil_iff.mp (List.append_eq_nil_iff.mp hFactor).1
      exact Option.toList_eq_nil_iff.mp hFirst.1
  · intro h
    have hFactorRead : usageFactor.bind (readAs factorIn) = usageFactor := by
      cases hFactor : usageFactor with
      | none => rfl
      | some text => exact readAs_of_oneLine (h.oneLine text (.inr (.inl hFactor)))
    have hBuildingRead : buildingType.bind (readAs typeIn) = buildingType := by
      cases hBuilding : buildingType with
      | none => rfl
      | some text => exact readAs_of_oneLine (h.oneLine text (.inr (.inr hBuilding)))
    have hFactors : (factorsRead usageType usageFactor buildingType).getLast? = usageFactor := by
      rw [factorsRead, hFactorRead]
      cases hLate : buildingType.bind factorIn with
      | some value => simp [h.factorInBuilding value hLate]
      | none =>
          cases hFactor : usageFactor with
          | some text => simp
          | none => simp [h.factorInUsage hFactor]
    cases hUsage : usageType with
    | none =>
        have hBuilding : buildingType = none := by
          by_contra hNe
          exact h.building hNe hUsage
        have hInside : usageFactor.bind typeIn = none := by
          by_contra hNe
          obtain ⟨value, hValue⟩ := Option.ne_none_iff_exists'.mp hNe
          exact (h.typeInFactor value hValue).1 hUsage
        rw [hUsage] at hFactors
        refine ⟨?_, hFactors, ?_⟩ <;> simp [typesRead, hInside, hBuilding]
    | some text =>
        have hText : readAs typeIn text = some text :=
          readAs_of_oneLine (h.oneLine text (.inl hUsage))
        rw [hUsage] at hFactors
        refine ⟨by simp [typesRead, hText], hFactors, ?_⟩
        rw [typesRead, hBuildingRead]
        cases hInside : usageFactor.bind typeIn with
        | none => cases buildingType <;> simp [hText]
        | some value => simp [hText, (h.typeInFactor value hInside).2]

end Texts

/-! ### A floor that was written -/

/-- A text of a field, as the editor keeps it. -/
structure IsPiece (value : Text) : Prop where
  isValue : IsValue value
  noBars : NoBars value

/-- The pieces of what is written for a floor can be told apart. -/
structure IsWritable (floor : FloorRow) : Prop where
  label : IsPiece floor.floorLabel
  clean : CleanLabel floor.floorLabel
  usageType : ∀ value, floor.usageType = some value → IsPiece value
  usageFactor : ∀ value, floor.usageFactor = some value → IsPiece value
  buildingType : ∀ value, floor.buildingType = some value → IsPiece value
  areaSqFt : ∀ x, floor.areaSqFt = some (some x) → 0 ≤ x
  areaSqMeter : ∀ x, floor.areaSqMeter = some (some x) → 0 ≤ x

/-- The areas that are written. -/
def writtenSqFt (floor : FloorRow) : Option ℚ := floor.areaSqFt.getD (some 0)

def writtenSqM (floor : FloorRow) : Option ℚ :=
  floor.areaSqMeter.getD (some (((writtenSqFt floor).map sqFtToSqM).getD 0))

/-- The head, and the parts that follow it. -/
def headText (floor : FloorRow) : Text :=
  floor.floorLabel ++ areaText (formatNumber (writtenSqFt floor)) (formatNumber (writtenSqM floor))

def partTexts (floor : FloorRow) : List Text :=
  (floor.usageType.map ("Usage Type - ".toList ++ ·)).toList ++
    (floor.usageFactor.map ("Usage Factor - ".toList ++ ·)).toList ++
    (floor.buildingType.map ("Usage Type - ".toList ++ ·)).toList

section Floor
variable {floor : FloorRow} {value : Text}

/-- A part is written when it has a value. -/
theorem keyedPart_eq {keyword : String} {value : Option Text}
    (h : ∀ text, value = some text → IsPiece text) :
    keyedPart keyword value = (value.map (keyword.toList ++ ·)).toList := by
  cases value with
  | none => rfl
  | some text =>
      have hText := (h text rfl).isValue
      simp [keyedPart, hText.trimmed, hText.nonempty]

/-- A floor is written as its head and its parts. -/
theorem serializeFloor_eq (h : IsWritable floor) : serializeFloor floor =
    " || ".toList.intercalate (headText floor :: partTexts floor) := by
  have hLabel := h.label.isValue
  have hNonempty : floor.floorLabel.isEmpty = false := List.isEmpty_eq_false_iff.mpr hLabel.nonempty
  simp only [serializeFloor, hLabel.trimmed, hNonempty, keyedPart_eq h.usageType,
    keyedPart_eq h.usageFactor, keyedPart_eq h.buildingType, headText, partTexts, areaText,
    writtenSqFt, writtenSqM, List.append_assoc]
  rfl

theorem noBars_of_not_mem {text : Text} (h : '|' ∉ text) : NoBars text :=
  fun hBars => h (hBars.subset List.mem_cons_self)

/-- Two texts without bars, a space between, have none. -/
theorem NoBars.append_space {first second : Text} (hFirst : NoBars first)
    (hSecond : NoBars second) : NoBars (first ++ ' ' :: second) := by
  intro hBars
  rcases (Js.infix_append_cons (by decide)).mp hBars with hBars | hBars
  · exact hFirst hBars
  · exact hSecond hBars

theorem PrintedArea.not_mem {x : ℚ} {text : Text} (h : PrintedArea x text) {c : Char}
    (hc : c = '|' ∨ c = ',') : c ∉ text := by
  have hPlain : Js.isPlain c = false := by rcases hc with rfl | rfl <;> rfl
  have hDigits : ∀ text : Text, (∀ d ∈ text, Js.isPlain d = true) → c ∉ text := by
    intro text hText hMem
    rw [hText c hMem] at hPlain
    cases hPlain
  cases h with
  | plain _ _ hText => exact hDigits _ hText
  | @exponent _ power _ _ hText =>
      have hPower := hDigits (Js.digits power) fun d => Js.isPlain_of_mem_digits
      rcases hc with rfl | rfl <;> simp [hDigits _ hText, hPower]

theorem areaText_not_mem {a b : ℚ} {sqFt sqM : Text} (hFt : PrintedArea a sqFt)
    (hM : PrintedArea b sqM) {c : Char} (hc : c = '|' ∨ c = ',') : c ∉ areaText sqFt sqM := by
  have hFtNot := hFt.not_mem hc
  have hMNot := hM.not_mem hc
  rcases hc with rfl | rfl <;> simp [areaText, hFtNot, hMNot]

/-- The areas of a floor that can be written are printed. -/
theorem IsWritable.printed (h : IsWritable floor) :
    PrintedArea (printedValue (writtenSqFt floor)) (formatNumber (writtenSqFt floor)) ∧
      PrintedArea (printedValue (writtenSqM floor)) (formatNumber (writtenSqM floor)) := by
  have hFt : ∀ x ∈ writtenSqFt floor, 0 ≤ x := by
    intro x hx
    cases hArea : floor.areaSqFt with
    | none =>
        rw [Option.mem_def, writtenSqFt, hArea] at hx
        exact (Option.some.inj hx).le
    | some value =>
        rw [Option.mem_def, writtenSqFt, hArea] at hx
        exact h.areaSqFt x (by rw [hArea]; exact congrArg some hx)
  have hM : ∀ x ∈ writtenSqM floor, 0 ≤ x := by
    intro x hx
    cases hArea : floor.areaSqMeter with
    | none =>
        rw [Option.mem_def, writtenSqM, hArea] at hx
        obtain rfl := Option.some.inj hx
        cases hSqFt : writtenSqFt floor with
        | none => exact le_rfl
        | some sqFt =>
            have hProduct : 0 ≤ sqFt * SQ_FT_TO_SQ_M :=
              mul_nonneg (hFt sqFt hSqFt) (by norm_num [SQ_FT_TO_SQ_M])
            obtain ⟨n, hn⟩ := inCents_roundToCents hProduct
            simp only [Option.map_some, Option.getD_some, sqFtToSqM, hn]
            positivity
    | some value =>
        rw [Option.mem_def, writtenSqM, hArea] at hx
        exact h.areaSqMeter x (by rw [hArea]; exact congrArg some hx)
  exact ⟨formatNumber_printed hFt, formatNumber_printed hM⟩

theorem IsValue.head (h : IsValue value) : value.head?.any Js.isSpace = false := by
  have hHead := List.head?_dropWhile_not Js.isSpace value
  rw [h.dropWhile] at hHead
  cases value with
  | nil => rfl
  | cons c rest => simpa using hHead

theorem trimChars_append {first second : Text} (hFirst : first.head?.any Js.isSpace = false)
    (hFirstNe : first ≠ []) (hSecondNe : second ≠ []) (hEnds : EndsDark second) :
    Js.trimChars (first ++ second) = first ++ second := by
  apply Js.trimChars_eq_self
  · rw [List.head?_append_of_ne_nil _ hFirstNe]
    exact hFirst
  · rw [List.getLast?_append_of_ne_nil _ hSecondNe, List.getLast?_eq_some_getLast hSecondNe]
    exact hEnds _ (List.getLast?_eq_some_getLast hSecondNe)

/-- Printed areas do not end in white space. -/
theorem endsDark_areaText (sqFt sqM : Text) : EndsDark (areaText sqFt sqM) := by
  intro c hc
  have hText : areaText sqFt sqM =
      " - ".toList ++ (sqFt ++ (" SqFt - ".toList ++ (sqM ++ " SqM".toList))) ++ ['t'] := by
    simp [areaText]
  rw [Option.mem_def, hText, List.getLast?_concat] at hc
  obtain rfl := Option.some.inj hc
  rfl

/-- A label and a value make a part. -/
theorem isPiece_part {keyword : Text} (hBars : '|' ∉ keyword)
    (hHead : keyword.head?.any Js.isSpace = false) (hNe : keyword ≠ []) (hValue : IsPiece value) :
    IsPiece (keyword ++ " - ".toList ++ value) := by
  have hFirst : (keyword ++ " - ".toList).head?.any Js.isSpace = false := by
    rw [List.head?_append_of_ne_nil _ hNe]
    exact hHead
  have hText : keyword ++ " - ".toList ++ value = (keyword ++ " -".toList) ++ ' ' :: value := by
    simp
  refine ⟨⟨by simp, ?_⟩, ?_⟩
  · exact trimChars_append hFirst (by simp) hValue.isValue.nonempty hValue.isValue.endsDark
  · rw [hText]
    exact (noBars_of_not_mem (by simpa using hBars)).append_space hValue.noBars

/-- The parts of a written floor are pieces. -/
theorem isPiece_partTexts (h : IsWritable floor) : ∀ part ∈ partTexts floor, IsPiece part := by
  have hType : ∀ value, IsPiece value → IsPiece ("Usage Type - ".toList ++ value) :=
    fun value hValue => @isPiece_part value "Usage Type".toList (by decide) rfl (by decide) hValue
  have hFactor : ∀ value, IsPiece value → IsPiece ("Usage Factor - ".toList ++ value) :=
    fun value hValue => @isPiece_part value "Usage Factor".toList (by decide) rfl (by decide) hValue
  intro part hPart
  simp only [partTexts, List.mem_append, Option.mem_toList, Option.map_eq_some_iff] at hPart
  rcases hPart with (⟨value, hValue, rfl⟩ | ⟨value, hValue, rfl⟩) | ⟨value, hValue, rfl⟩
  · exact hType value (h.usageType value hValue)
  · exact hFactor value (h.usageFactor value hValue)
  · exact hType value (h.buildingType value hValue)

/-- The head of a written floor is a piece. -/
theorem isPiece_headText (h : IsWritable floor) : IsPiece (headText floor) := by
  obtain ⟨hFt, hM⟩ := h.printed
  have hLabel := h.label.isValue
  have hBars := areaText_not_mem hFt hM (.inl rfl : '|' = '|' ∨ '|' = ',')
  refine ⟨⟨?_, ?_⟩, ?_⟩
  · simp [headText, hLabel.nonempty]
  · exact trimChars_append hLabel.head hLabel.nonempty (by simp [areaText]) (endsDark_areaText _ _)
  · refine h.label.noBars.append_space (noBars_of_not_mem fun hMem => ?_)
    exact hBars (List.mem_cons_of_mem _ hMem)

/-- The parts of a written floor are found as they were written. -/
theorem parts_serializeFloor (h : IsWritable floor) :
    (splitBars (serializeFloor floor)).map Js.trimChars = headText floor :: partTexts floor := by
  have hPieces : ∀ part ∈ headText floor :: partTexts floor, IsPiece part :=
    List.forall_mem_cons.mpr ⟨isPiece_headText h, isPiece_partTexts h⟩
  rw [serializeFloor_eq h, splitBars_join (by simp) fun part hPart => (hPieces part hPart).noBars]
  rw [List.map_congr_left fun part hPart => (hPieces part hPart).isValue.trimmed, List.map_id']

/-! ### What is read -/

/-- From the parts of a written floor, the types and factors are read. -/
theorem filterMap_partTexts (h : IsWritable floor) :
    (partTexts floor).filterMap (labelled "Usage Type".toList) =
        typesRead floor.usageType floor.usageFactor floor.buildingType ∧
      (partTexts floor).filterMap (labelled "Usage Factor".toList) =
        factorsRead floor.usageType floor.usageFactor floor.buildingType := by
  have hMap : ∀ (search : Text → Option Text) (keyword : Text) (value : Option Text)
      (read : Text → Option Text), (∀ text, value = some text →
        search (keyword ++ text) = read text) →
      (value.map (keyword ++ ·)).toList.filterMap search = (value.bind read).toList := by
    intro search keyword value read hRead
    cases value with
    | none => rfl
    | some text =>
        have hText := hRead text rfl
        cases hFound : read text <;> simp [hText, hFound]
  have hType := hMap typeIn "Usage Type - ".toList floor.usageType (readAs typeIn)
    fun text hText => typeIn_typePart (h.usageType text hText).isValue
  have hFactor := hMap typeIn "Usage Factor - ".toList floor.usageFactor typeIn
    fun text _ => typeIn_factorPart text
  have hBuilding := hMap typeIn "Usage Type - ".toList floor.buildingType (readAs typeIn)
    fun text hText => typeIn_typePart (h.buildingType text hText).isValue
  have hType' := hMap factorIn "Usage Type - ".toList floor.usageType factorIn
    fun text _ => factorIn_typePart text
  have hFactor' := hMap factorIn "Usage Factor - ".toList floor.usageFactor (readAs factorIn)
    fun text hText => factorIn_factorPart (h.usageFactor text hText).isValue
  have hBuilding' := hMap factorIn "Usage Type - ".toList floor.buildingType factorIn
    fun text _ => factorIn_typePart text
  constructor
  · rw [partTexts, List.filterMap_append, List.filterMap_append, typesRead, ← hType, ← hFactor,
      ← hBuilding]
    rfl
  · rw [partTexts, List.filterMap_append, List.filterMap_append, factorsRead, ← hType', ← hFactor',
      ← hBuilding']
    rfl

/-- The texts come back when each stands under its own label. -/
theorem parseSegment_texts_iff (h : IsWritable floor) (index : Nat) :
    ((parseSegment (serializeFloor floor) index).usageType = floor.usageType ∧
      (parseSegment (serializeFloor floor) index).usageFactor = floor.usageFactor ∧
      (parseSegment (serializeFloor floor) index).buildingType = floor.buildingType) ↔
    KeepsTexts floor.usageType floor.usageFactor floor.buildingType := by
  obtain ⟨hTypes, hFactors⟩ := filterMap_partTexts h
  simp only [parseSegment, parts_serializeFloor h, List.drop_one, List.tail_cons, hTypes, hFactors]
  exact keepsTexts_iff

/-- The label and the area come back from one line, if the area is not printed
with an exponent. -/
theorem parseSegment_head_iff (h : IsWritable floor) (index : Nat) :
    ((parseSegment (serializeFloor floor) index).floorLabel = floor.floorLabel ∧
      (parseSegment (serializeFloor floor) index).areaSqFt =
        some (printedValue (writtenSqFt floor))) ↔
    floor.floorLabel.any isLineTerminator = false ∧
      printedValue (writtenSqFt floor) < 10 ^ 21 := by
  obtain ⟨hFt, hM⟩ := h.printed
  have hLabel := h.label.isValue
  have hMatch := labelMatch_areaText hLabel.nonempty hLabel.endsDark h.clean hFt hM
  simp only [parseSegment, parts_serializeFloor h, List.headD_cons, headText]
  rw [hMatch]
  by_cases hRead : floor.floorLabel.any isLineTerminator = false ∧
      printedValue (writtenSqFt floor) < 10 ^ 21
  · rw [if_pos hRead]
    refine iff_of_true ⟨?_, hFt.value hRead.2⟩ hRead
    simp [hLabel.trimmed, hLabel.nonempty]
  · rw [if_neg hRead]
    refine iff_of_false (fun hSame => ?_) hRead
    exact absurd hSame.2.symm (by simp)

/-- The square metres come back unless the label has some of its own. -/
theorem parseSegment_sqM_iff (h : IsWritable floor) (index : Nat) :
    (parseSegment (serializeFloor floor) index).areaSqMeter =
        some (printedValue (writtenSqM floor)) ↔
      (sqmMatch floor.floorLabel = none ∧ printedValue (writtenSqM floor) < 10 ^ 21) ∨
        (sqmMatch floor.floorLabel).bind parseNumeral =
          some (printedValue (writtenSqM floor)) := by
  obtain ⟨hFt, hM⟩ := h.printed
  obtain ⟨number, x, hArea, hNumber, hSame⟩ := sqmMatch_areaText hFt hM
  have hMatch : sqmMatch (headText floor) = (sqmMatch floor.floorLabel).or (some number) := by
    rw [← hArea]
    exact sqmMatch_append h.label.isValue.endsDark
  simp only [parseSegment, parts_serializeFloor h, List.headD_cons, hMatch]
  cases hInside : sqmMatch floor.floorLabel with
  | none => simp [hNumber, hSame]
  | some inside => simp

end Floor

/-! ### The text of a survey -/

section Segments
variable {segments : List Text}

theorem isSpace_of_trimChars_nil {text : Text} (h : Js.trimChars text = []) :
    ∀ c ∈ text, Js.isSpace c = true := by
  have hBack : ∀ c ∈ (text.dropWhile Js.isSpace).reverse, Js.isSpace c = true := by
    rw [← List.dropWhile_eq_nil_iff]
    exact List.reverse_eq_nil_iff.mp h
  have hNone : text.dropWhile Js.isSpace = [] := by
    cases hText : text.dropWhile Js.isSpace with
    | nil => rfl
    | cons c rest =>
        have hFirst := List.head?_dropWhile_not Js.isSpace text
        have hSpace := hBack c (by rw [hText]; simp)
        rw [hText] at hFirst
        simp [hSpace] at hFirst
  exact List.dropWhile_eq_nil_iff.mp hNone

/-- The segments of a text: what both parsers split it into. -/
def segmentsOf (text : Text) : List Text :=
  ((text.splitOn ',').map Js.trimChars).filter fun segment => !segment.isEmpty

/-- White space has no segments. -/
theorem segmentsOf_blank {text : Text} (h : Js.trimChars text = []) : segmentsOf text = [] := by
  have hComma : ',' ∉ text := fun hMem => absurd (isSpace_of_trimChars_nil h ',' hMem) (by decide)
  rw [segmentsOf, List.splitOn_eq_singleton hComma]
  simp [h]

/-- A text is read floor by floor. -/
theorem parseFloorsRaw_eq (text : Option Text) : parseFloorsRaw text =
    (segmentsOf (text.getD [])).mapIdx fun index segment => parseSegment segment index := by
  unfold parseFloorsRaw
  split_ifs with hBlank
  · rw [segmentsOf_blank (List.isEmpty_iff.mp hBlank)]
    rfl
  · rfl

/-- A segment of a text, as it stands between two commas. -/
structure IsSegment (segment : Text) : Prop where
  isValue : IsValue segment
  noComma : ',' ∉ segment

/-- Joined segments are split into themselves. -/
theorem map_trim_splitOn (hNe : segments ≠ []) (h : ∀ segment ∈ segments, IsSegment segment) :
    ((", ".toList.intercalate segments).splitOn ',').map Js.trimChars = segments := by
  induction segments with
  | nil => exact absurd rfl hNe
  | cons segment segments ih =>
      obtain ⟨hSegment, hRest⟩ := List.forall_mem_cons.mp h
      cases segments with
      | nil =>
          rw [List.intercalate_singleton, List.splitOn_eq_singleton hSegment.noComma,
            List.map_singleton, hSegment.isValue.trimmed]
      | cons next segments =>
          have hSplit : segment ++ ", ".toList ++ ", ".toList.intercalate (next :: segments) =
              segment ++ ',' :: ' ' :: ", ".toList.intercalate (next :: segments) := by simp
          have hTail := ih (by simp) hRest
          rw [List.intercalate_cons_cons, hSplit,
            List.splitOn_append_cons_self_of_not_mem hSegment.noComma, List.map_cons,
            hSegment.isValue.trimmed, List.splitOn_cons_eq_if_modifyHead, if_neg (by decide)]
          congr 1
          cases hText : (", ".toList.intercalate (next :: segments)).splitOn ',' with
          | nil => exact absurd hText (List.splitOn_ne_nil _ _)
          | cons first rest =>
              rw [hText] at hTail
              exact hTail

/-- The segments of joined segments are those joined. -/
theorem segmentsOf_join (h : ∀ segment ∈ segments, IsSegment segment) :
    segmentsOf (", ".toList.intercalate segments) = segments := by
  by_cases hNe : segments = []
  · rw [hNe]
    rfl
  · rw [segmentsOf, map_trim_splitOn hNe h, List.filter_eq_self]
    intro segment hSegment
    simpa using (h segment hSegment).isValue.nonempty

/-- A piece of a split text does not have the separator. -/
theorem not_mem_of_splitOn {a : Char} {text part : Text} (h : part ∈ text.splitOn a) :
    a ∉ part := by
  induction text generalizing part with
  | nil =>
      rw [List.splitOn_nil, List.mem_singleton] at h
      rw [h]
      simp
  | cons c text ih =>
      rw [List.splitOn_cons_eq_if_modifyHead] at h
      split_ifs at h with hc
      · rcases List.mem_cons.mp h with rfl | h
        · simp
        · exact ih h
      · cases hText : text.splitOn a with
        | nil => exact absurd hText (List.splitOn_ne_nil _ _)
        | cons first rest =>
            rw [hText] at h ih
            rcases List.mem_cons.mp h with rfl | h
            · refine List.not_mem_cons_of_ne_of_not_mem (fun hSame => hc ?_)
                (ih List.mem_cons_self)
              rw [hSame]
              exact beq_self_eq_true c
            · exact ih (List.mem_cons_of_mem first h)

/-- The segments of a text are segments. -/
theorem segmentsOf_isSegment {text segment : Text} (h : segment ∈ segmentsOf text) :
    IsSegment segment := by
  obtain ⟨hMem, hNe⟩ := List.mem_filter.mp h
  obtain ⟨piece, hPiece, rfl⟩ := List.mem_map.mp hMem
  refine ⟨⟨by simpa using hNe, Js.trimChars_trimChars piece⟩, fun hComma => ?_⟩
  exact not_mem_of_splitOn hPiece ((Js.trimChars_isInfix piece).subset hComma)

end Segments

/-! ### The text of the editor -/

/-- The texts of the floor hold no comma. -/
structure NoComma (floor : FloorRow) : Prop where
  label : ',' ∉ floor.floorLabel
  usageType : ∀ value, floor.usageType = some value → ',' ∉ value
  usageFactor : ∀ value, floor.usageFactor = some value → ',' ∉ value
  buildingType : ∀ value, floor.buildingType = some value → ',' ∉ value

/-- Pieces that are joined by bars make one piece. -/
theorem isSegment_join {parts : List Text} (hNe : parts ≠ [])
    (h : ∀ part ∈ parts, IsSegment part) : IsSegment (" || ".toList.intercalate parts) := by
  induction parts with
  | nil => exact absurd rfl hNe
  | cons part parts ih =>
      obtain ⟨hPart, hRest⟩ := List.forall_mem_cons.mp h
      cases parts with
      | nil =>
          rw [List.intercalate_singleton]
          exact hPart
      | cons next parts =>
          have hTail := ih (by simp) hRest
          have hValue := hPart.isValue
          have hFirst : (part ++ " || ".toList).head?.any Js.isSpace = false := by
            rw [List.head?_append_of_ne_nil _ hValue.nonempty]
            exact hValue.head
          rw [List.intercalate_cons_cons]
          refine ⟨⟨by simp, ?_⟩, ?_⟩
          · exact trimChars_append hFirst (by simp) hTail.isValue.nonempty hTail.isValue.endsDark
          · rw [List.mem_append, List.mem_append]
            rintro ((hMem | hMem) | hMem)
            · exact hPart.noComma hMem
            · exact absurd hMem (by decide)
            · exact hTail.noComma hMem

/-- A floor without commas is written as a segment. -/
theorem isSegment_serializeFloor {floor : FloorRow} (h : IsWritable floor)
    (hComma : NoComma floor) : IsSegment (serializeFloor floor) := by
  obtain ⟨hFt, hM⟩ := h.printed
  have hArea := areaText_not_mem hFt hM (.inr rfl : ',' = '|' ∨ ',' = ',')
  rw [serializeFloor_eq h]
  refine isSegment_join (by simp) (List.forall_mem_cons.mpr ⟨⟨(isPiece_headText h).isValue, ?_⟩,
    fun part hPart => ⟨(isPiece_partTexts h part hPart).isValue, ?_⟩⟩)
  · simp [headText, hComma.label, hArea]
  · simp only [partTexts, List.mem_append, Option.mem_toList, Option.map_eq_some_iff] at hPart
    rcases hPart with (⟨value, hValue, rfl⟩ | ⟨value, hValue, rfl⟩) | ⟨value, hValue, rfl⟩
    · simp [hComma.usageType value hValue]
    · simp [hComma.usageFactor value hValue]
    · simp [hComma.buildingType value hValue]

/-- The parser sees one segment for each floor. -/
theorem parseFloorsRaw_serialize {floors : List FloorRow}
    (h : ∀ floor ∈ floors, IsWritable floor ∧ NoComma floor) :
    parseFloorsRaw (some (serializeFloorsRaw floors)) =
      floors.mapIdx fun index floor => parseSegment (serializeFloor floor) index := by
  have hSegments : ∀ segment ∈ floors.map serializeFloor, IsSegment segment := by
    intro segment hSegment
    obtain ⟨floor, hFloor, rfl⟩ := List.mem_map.mp hSegment
    exact isSegment_serializeFloor (h floor hFloor).1 (h floor hFloor).2
  rw [parseFloorsRaw_eq, Option.getD_some, serializeFloorsRaw, segmentsOf_join hSegments]
  apply List.ext_getElem? 
  intro index
  simp [Option.map_map, Function.comp_def]

end PropertyTax.Surveys
