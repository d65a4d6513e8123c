import PropertyTax.Surveys.FloorParsed
import PropertyTax.Surveys.FloorRoundTrip

/-! What an edit of one floor does to the others: the editor writes all of them
anew from what it has parsed. -/
namespace PropertyTax.Surveys
open FloorsEditor

/-! ### The list and its changes -/

/-- The editor reads floor by floor. -/
theorem FloorsEditor.parseFloorsRaw_eq (text : Option Text) : FloorsEditor.parseFloorsRaw text =
    (segmentsOf (text.getD [])).mapIdx fun index segment =>
      FloorsEditor.parseSegment segment index := by
  unfold FloorsEditor.parseFloorsRaw
  split_ifs with hBlank
  · rw [segmentsOf_blank (List.isEmpty_iff.mp hBlank)]
    rfl
  · rfl

/-- The floor at an index, for the editor and for the server. -/
theorem getElem?_parseFloorsRaw (raw : Option Text) (index : Nat) :
    (FloorsEditor.parseFloorsRaw raw)[index]? =
        ((segmentsOf (raw.getD []))[index]?).map (FloorsEditor.parseSegment · index) ∧
      (parseFloorsRaw raw)[index]? =
        ((segmentsOf (raw.getD []))[index]?).map (parseSegment · index) := by
  rw [FloorsEditor.parseFloorsRaw_eq, PropertyTax.Surveys.parseFloorsRaw_eq]
  simp

/-- An id begins with the index of its floor. -/
theorem id_parseSegment (segment : Text) (index : Nat) :
    (FloorsEditor.parseSegment segment index).id =
      "floor-".toList ++ (Js.digits index ++ '-' ::
        ((labelMatch (((splitBars segment).map Js.trimChars).headD segment)).map
          fun found => Js.trimChars found.1).getD (Js.digits index)) :=
  List.append_assoc ..

/-- The index of a floor is in its id. -/
theorem parseSegment_id_inj {segment other : Text} {i j : Nat}
    (h : (FloorsEditor.parseSegment segment i).id = (FloorsEditor.parseSegment other j).id) :
    i = j := by
  have hDash : ∀ n : Nat, '-' ∉ Js.digits n := fun n hMem =>
    absurd (Js.isDigit_of_mem_digits hMem) (by decide)
  rw [id_parseSegment, id_parseSegment, List.append_cancel_left_eq] at h
  have hDigits := ((Js.append_separator_inj (hDash i) (hDash j)).mp h).1
  rw [← Js.ofDigitChars_digits i, hDigits, Js.ofDigitChars_digits]

/-- Ids tell the items of a list apart. -/
theorem filter_ne_eq_eraseIdx {α β : Type} [DecidableEq β] {key : α → β} {items : List α} {i : Nat}
    {item : α} (hKeys : (items.map key).Nodup) (hItem : items[i]? = some item) :
    items.filter (fun other => key other ≠ key item) = items.eraseIdx i := by
  induction items generalizing i with
  | nil => cases hItem
  | cons first items ih =>
      obtain ⟨hFirst, hRest⟩ := List.nodup_cons.mp hKeys
      cases i with
      | zero =>
          obtain rfl := Option.some.inj hItem
          rw [List.filter_cons_of_neg (by simp), List.eraseIdx_cons_zero, List.filter_eq_self]
          intro other hOther
          simp only [ne_eq, decide_eq_true_eq]
          exact fun hSame => hFirst (hSame ▸ List.mem_map_of_mem hOther)
      | succ i =>
          rw [List.getElem?_cons_succ] at hItem
          have hNe : key first ≠ key item := by
            intro hSame
            exact hFirst (hSame ▸ List.mem_map_of_mem (List.mem_of_getElem? hItem))
          rw [List.filter_cons_of_pos (by simpa using hNe), List.eraseIdx_cons_succ, ih hRest hItem]

/-- Where keys are distinct, changing the item of a key sets its place. -/
theorem map_ite_eq_set {α β : Type} [DecidableEq β] {key : α → β} {items : List α} {i : Nat}
    {item : α} (hKeys : (items.map key).Nodup) (hItem : items[i]? = some item) (new : α) :
    items.map (fun other => if key other = key item then new else other) = items.set i new := by
  induction items generalizing i with
  | nil => cases hItem
  | cons first items ih =>
      obtain ⟨hFirst, hRest⟩ := List.nodup_cons.mp hKeys
      cases i with
      | zero =>
          obtain rfl := Option.some.inj hItem
          rw [List.map_cons, if_pos rfl, List.set_cons_zero]
          congr 1
          rw [List.map_congr_left (g := id), List.map_id]
          intro other hOther
          have hNe : key other ≠ key first :=
            fun hSame => hFirst (hSame ▸ List.mem_map_of_mem hOther)
          exact if_neg hNe
      | succ i =>
          rw [List.getElem?_cons_succ] at hItem
          have hNe : key first ≠ key item := by
            intro hSame
            exact hFirst (hSame ▸ List.mem_map_of_mem (List.mem_of_getElem? hItem))
          rw [List.map_cons, if_neg hNe, List.set_cons_succ, ih hRest hItem]

theorem ids_nodup (raw : Option Text) :
    ((FloorsEditor.parseFloorsRaw raw).map FloorRow.id).Nodup := by
  rw [FloorsEditor.parseFloorsRaw_eq, List.Nodup, List.pairwise_map, List.pairwise_iff_getElem]
  intro i j hi hj hij hSame
  rw [List.getElem_mapIdx, List.getElem_mapIdx] at hSame
  exact absurd (parseSegment_id_inj hSame) (Nat.ne_of_lt hij)

/-- What is written does not depend on the ids and the order numbers. -/
theorem commit_eq (floors : List FloorRow) :
    FloorsEditor.commit floors = serializeFloorsRaw floors := by
  unfold FloorsEditor.commit serializeFloorsRaw
  congr 1
  refine List.ext_getElem? fun index => ?_
  rw [List.getElem?_map, List.getElem?_mapIdx, List.getElem?_map, Option.map_map]
  rfl

/-! ### One floor, parsed, written and parsed again -/

/-- What the tax is billed on. -/
structure BilledAlike (floor again : ParsedFloor) : Prop where
  floorLabel : again.floorLabel = floor.floorLabel
  areaSqFt : again.areaSqFt.getD 0 = floor.areaSqFt.getD 0
  usageType : again.usageType = floor.usageType
  usageFactor : again.usageFactor = floor.usageFactor
  buildingType : again.buildingType = floor.buildingType

/-- The area is in cents and is printed without an exponent, and no text has
another one's label in it. No area that fits its column is near the bound. -/
structure ComesBack (floor : ParsedFloor) : Prop where
  area : ∀ a, floor.areaSqFt = some a → InCents a ∧ a < 10 ^ 21
  typeInFactor : ∀ value, floor.usageFactor.bind typeIn = some value →
    floor.buildingType = some value
  factorInBuilding : ∀ value, floor.buildingType.bind factorIn = some value →
    floor.usageFactor = some value

section Floor
variable {segment : Text} {index : Nat}

/-- A floor of the editor is the floor of the server, but for its areas. -/
theorem parseSegment_floor (segment : Text) (index : Nat) :
    (parseSegment segment index).floorLabel =
        (FloorsEditor.parseSegment segment index).floorLabel ∧
      (parseSegment segment index).areaSqFt =
        (FloorsEditor.parseSegment segment index).areaSqFt.join := by
  refine ⟨rfl, ?_⟩
  change ((labelMatch (((splitBars segment).map Js.trimChars).headD segment)).bind
      fun found => parseNumeral found.2) =
    ((labelMatch (((splitBars segment).map Js.trimChars).headD segment)).map
      fun found => parseNumeral found.2).join
  cases labelMatch (((splitBars segment).map Js.trimChars).headD segment) <;> rfl

/-- The area that is written is rounded, and zero where there is none. -/
theorem printedValue_parsed (segment : Text) (index : Nat) :
    printedValue (writtenSqFt (FloorsEditor.parseSegment segment index)) =
      ((parseSegment segment index).areaSqFt.map roundToCents).getD 0 := by
  rw [(parseSegment_floor segment index).2, writtenSqFt]
  cases (FloorsEditor.parseSegment segment index).areaSqFt with
  | none => exact InCents.roundToCents ⟨0, by norm_num⟩
  | some value => rfl

/-- Without a match there is no area. -/
theorem areaSqFt_none {floor : FloorRow} (h : IsWritable floor)
    (hSize : ¬ printedValue (writtenSqFt floor) < 10 ^ 21) (index : Nat) :
    (parseSegment (serializeFloor floor) index).areaSqFt = none := by
  obtain ⟨hFt, hM⟩ := h.printed
  have hLabel := h.label.isValue
  have hMatch := labelMatch_areaText hLabel.nonempty hLabel.endsDark h.clean hFt hM
  rw [if_neg fun hRead => hSize hRead.2] at hMatch
  simp only [parseSegment, parts_serializeFloor h, List.headD_cons, headText, hMatch]
  rfl

/-- A parsed floor is billed as before exactly then. -/
theorem billedAlike_iff (hSegment : IsSegment segment) (index again : Nat) :
    BilledAlike (parseSegment segment index)
      (parseSegment (serializeFloor (FloorsEditor.parseSegment segment index)) again) ↔
    ComesBack (parseSegment segment index) := by
  have hSpec := parseSegment_spec hSegment index
  obtain ⟨hLabel, hArea⟩ := parseSegment_floor segment index
  have hPrinted := printedValue_parsed segment index
  have hHead := parseSegment_head_iff hSpec.isWritable again
  have hTexts := parseSegment_texts_iff hSpec.isWritable again
  have hNone := fun hSize => areaSqFt_none hSpec.isWritable hSize again
  have hNonneg : ∀ a, (parseSegment segment index).areaSqFt = some a → 0 ≤ a := by
    intro a ha
    refine hSpec.isWritable.areaSqFt a ?_
    rw [hArea] at ha
    exact Option.join_eq_some_iff.mp ha
  rw [hPrinted] at hHead hNone
  have hZero : roundToCents 0 = 0 := InCents.roundToCents ⟨0, by norm_num⟩
  constructor
  · intro h
    have hSize : ((parseSegment segment index).areaSqFt.map roundToCents).getD 0 < 10 ^ 21 := by
      by_contra hLarge
      have hSame := h.areaSqFt
      rw [hNone hLarge] at hSame
      cases hFound : (parseSegment segment index).areaSqFt with
      | none => exact hLarge (by rw [hFound]; norm_num)
      | some a =>
          rw [hFound, Option.getD_none, Option.getD_some] at hSame
          rw [hFound, ← hSame, Option.map_some, Option.getD_some, hZero] at hLarge
          norm_num at hLarge
    have hSame := h.areaSqFt
    rw [(hHead.mpr ⟨hSpec.labelLine, hSize⟩).2, Option.getD_some] at hSame
    have hKeeps := hTexts.mp ⟨h.usageType, h.usageFactor, h.buildingType⟩
    refine ⟨fun a ha => ?_, fun value hValue => (hKeeps.typeInFactor value hValue).2,
      hKeeps.factorInBuilding⟩
    rw [ha, Option.map_some, Option.getD_some] at hSame hSize
    rw [Option.getD_some] at hSame
    exact ⟨(roundToCents_iff (hNonneg a ha)).mp hSame, hSame ▸ hSize⟩
  · intro h
    have hRounded : ((parseSegment segment index).areaSqFt.map roundToCents).getD 0 =
        (parseSegment segment index).areaSqFt.getD 0 := by
      cases hFound : (parseSegment segment index).areaSqFt with
      | none => rfl
      | some a => exact (h.area a hFound).1.roundToCents
    have hSize : ((parseSegment segment index).areaSqFt.map roundToCents).getD 0 < 10 ^ 21 := by
      rw [hRounded]
      cases hFound : (parseSegment segment index).areaSqFt with
      | none => norm_num
      | some a => exact (h.area a hFound).2
    obtain ⟨hLabelAgain, hAreaAgain⟩ := hHead.mpr ⟨hSpec.labelLine, hSize⟩
    have hKeeps : KeepsTexts (FloorsEditor.parseSegment segment index).usageType
        (FloorsEditor.parseSegment segment index).usageFactor
        (FloorsEditor.parseSegment segment index).buildingType := by
      refine ⟨hSpec.textLine, hSpec.building, fun value hValue => ?_, h.factorInBuilding,
        hSpec.factorInUsage⟩
      have hBuilding : (FloorsEditor.parseSegment segment index).buildingType = some value :=
        h.typeInFactor value hValue
      exact ⟨hSpec.building (by rw [hBuilding]; simp), hBuilding⟩
    obtain ⟨hType, hFactor, hBuilding⟩ := hTexts.mpr hKeeps
    refine ⟨hLabelAgain.trans hLabel.symm, ?_, hType, hFactor, hBuilding⟩
    rw [hAreaAgain, Option.getD_some, hRounded]

end Floor

/-! ### The edits -/

/-- The options that the form offers: those of the catalogue, and what a floor
of the text has. -/
structure Offered (floors : List FloorRow) (draft : FloorDraft) : Prop where
  floorLabel : draft.floorLabel ∈ OPEN_FLOOR_LABEL :: FLOOR_LABELS ∨
    ∃ floor ∈ floors, floor.floorLabel = draft.floorLabel
  usageType : draft.usageType ∈ [] :: FLOOR_USAGE_TYPES ∨
    ∃ floor ∈ floors, floor.usageType = some draft.usageType
  usageFactor : draft.usageFactor ∈ [] :: FLOOR_USAGE_FACTORS ∨
    ∃ floor ∈ floors, floor.usageFactor = some draft.usageFactor
  buildingType : draft.buildingType ∈ [] :: FLOOR_CONSTRUCTION_TYPES ∨
    ∃ floor ∈ floors, floor.buildingType = some draft.buildingType

inductive FloorEdit where
  | remove
  | replace (draft : FloorDraft)

namespace FloorEdit

/-- The text after the edit of one floor. A form with an error in it is not
saved. -/
def commit (edit : FloorEdit) (raw : Option Text) (now : Nat) (floor : FloorRow) : Option Text :=
  match edit with
  | remove => some (confirmDelete (FloorsEditor.parseFloorsRaw raw) floor.id)
  | replace draft =>
      (saveFloor draft (some floor.id) now (FloorsEditor.parseFloorsRaw raw)).toOption

/-- Where another floor stands afterwards. -/
def newIndex (edit : FloorEdit) (i j : Nat) : Nat :=
  match edit with
  | remove => if j < i then j else j - 1
  | replace _ => j

end FloorEdit

/-- Without a dash there is no area after one. -/
theorem noFloor_of_not_mem {text : Text} (h : '-' ∉ text) : NoFloor text := by
  intro tail hTail
  by_contra hFound
  obtain ⟨number, hNumber⟩ := Option.ne_none_iff_exists'.mp hFound
  obtain ⟨value, hDash, -⟩ := Option.bind_eq_some_iff.mp hNumber
  obtain ⟨more, hMore, -⟩ := afterDash_some hDash
  have hMem : '-' ∈ tail.dropWhile Js.isSpace := by
    rw [hMore]
    exact List.mem_cons_self
  exact h (hTail.subset ((List.dropWhile_suffix _).subset hMem))

/-- The options of the catalogue. -/
theorem isEntry_option {value : Text} (h : value ∈ OPEN_FLOOR_LABEL :: FLOOR_LABELS ∨
    value ∈ FLOOR_USAGE_TYPES ∨ value ∈ FLOOR_USAGE_FACTORS ∨ value ∈ FLOOR_CONSTRUCTION_TYPES) :
    IsEntry value ∧ '-' ∉ value := by
  have hAll : ∀ value ∈ OPEN_FLOOR_LABEL :: FLOOR_LABELS ++ (FLOOR_USAGE_TYPES ++
      (FLOOR_USAGE_FACTORS ++ FLOOR_CONSTRUCTION_TYPES)),
      (Js.trimChars value = value ∧ value ≠ []) ∧ ('|' ∉ value ∧ ',' ∉ value) ∧ '-' ∉ value := by
    decide
  obtain ⟨hValue, hMarks, hDash⟩ := hAll value (by simpa [or_assoc] using h)
  exact ⟨⟨⟨⟨hValue.2, hValue.1⟩, noBars_of_not_mem hMarks.1⟩, hMarks.2⟩, hDash⟩

/-- A chosen value is an entry. -/
theorem chosen_isEntry {value text : Text} (hValue : value = [] ∨ IsEntry value)
    (h : chosen value = some text) : IsEntry text := by
  unfold chosen at h
  split_ifs at h with hBlank
  obtain rfl := Option.some.inj h
  rcases hValue with rfl | hValue
  · exact absurd rfl hBlank
  · rw [hValue.isPiece.isValue.trimmed]
    exact hValue

/-- What is saved is the row of the form, in the place of the one that was
edited. -/
theorem saveFloor_ok {draft : FloorDraft} {id : Text} {now : Nat} {floors : List FloorRow}
    {text : Text} (h : saveFloor draft (some id) now floors = .ok text) :
    ∃ (nextRow : FloorRow) (area : ℚ), 0 < area ∧ Js.trimChars draft.floorLabel ≠ [] ∧
      nextRow.floorLabel = Js.trimChars draft.floorLabel ∧
      nextRow.areaSqFt = some (some area) ∧ nextRow.areaSqMeter = some (some (sqFtToSqM area)) ∧
      nextRow.usageType = chosen draft.usageType ∧
      nextRow.usageFactor = chosen draft.usageFactor ∧
      nextRow.buildingType = chosen draft.buildingType ∧
      text = FloorsEditor.commit
        (floors.map fun floor => if floor.id = id then nextRow else floor) := by
  unfold saveFloor at h
  dsimp only at h
  split_ifs at h with hLabel
  cases hArea : parseNumeral (Js.trimChars draft.areaSqFt) with
  | none =>
      rw [hArea] at h
      cases h
  | some area =>
      rw [hArea] at h
      dsimp only at h
      split_ifs at h with hSmall
      obtain rfl := Except.ok.inj h
      exact ⟨_, area, not_le.mp hSmall, by simpa using hLabel, rfl, rfl, rfl, rfl, rfl, rfl, rfl⟩

theorem spec_of_mem {raw : Option Text} {floor : FloorRow}
    (h : floor ∈ FloorsEditor.parseFloorsRaw raw) : FloorSpec floor := by
  rw [FloorsEditor.parseFloorsRaw_eq] at h
  obtain ⟨index, hIndex, rfl⟩ := List.mem_mapIdx.mp h
  exact parseSegment_spec (segmentsOf_isSegment (List.getElem_mem hIndex)) index

/-- A row with offered texts can be written like a parsed one. -/
theorem Offered.row {raw : Option Text} {draft : FloorDraft} {row : FloorRow} {area : ℚ}
    (h : Offered (FloorsEditor.parseFloorsRaw raw) draft) (hArea : 0 < area)
    (hLabel : row.floorLabel = Js.trimChars draft.floorLabel)
    (hFt : row.areaSqFt = some (some area)) (hM : row.areaSqMeter = some (some (sqFtToSqM area)))
    (hType : row.usageType = chosen draft.usageType)
    (hFactor : row.usageFactor = chosen draft.usageFactor)
    (hBuilding : row.buildingType = chosen draft.buildingType) :
    IsWritable row ∧ NoComma row := by
  have hText : ∀ (value : Text) (options : List Text) (field : FloorRow → Option Text),
      (∀ option ∈ options, IsEntry option) →
      (∀ floor ∈ FloorsEditor.parseFloorsRaw raw, ∀ text, field floor = some text → IsEntry text) →
      (value ∈ [] :: options ∨
        ∃ floor ∈ FloorsEditor.parseFloorsRaw raw, field floor = some value) →
      ∀ text, chosen value = some text → IsEntry text := by
    rintro value options field hOptions hField (hValue | ⟨floor, hFloor, hValue⟩) text hChosen
    · rcases List.mem_cons.mp hValue with rfl | hValue
      · exact chosen_isEntry (.inl rfl) hChosen
      · exact chosen_isEntry (.inr (hOptions value hValue)) hChosen
    · exact chosen_isEntry (.inr (hField floor hFloor value hValue)) hChosen
  have hTypes := hText _ _ FloorRow.usageType
    (fun option hOption => (isEntry_option (.inr (.inl hOption))).1)
    (fun floor hFloor text hValue => ⟨(spec_of_mem hFloor).isWritable.usageType text hValue,
      (spec_of_mem hFloor).noComma.usageType text hValue⟩) h.usageType
  have hFactors := hText _ _ FloorRow.usageFactor
    (fun option hOption => (isEntry_option (.inr (.inr (.inl hOption)))).1)
    (fun floor hFloor text hValue => ⟨(spec_of_mem hFloor).isWritable.usageFactor text hValue,
      (spec_of_mem hFloor).noComma.usageFactor text hValue⟩) h.usageFactor
  have hBuildings := hText _ _ FloorRow.buildingType
    (fun option hOption => (isEntry_option (.inr (.inr (.inr hOption)))).1)
    (fun floor hFloor text hValue => ⟨(spec_of_mem hFloor).isWritable.buildingType text hValue,
      (spec_of_mem hFloor).noComma.buildingType text hValue⟩) h.buildingType
  have hLabelEntry : IsEntry row.floorLabel ∧ CleanLabel row.floorLabel := by
    rcases h.floorLabel with hOption | ⟨floor, hFloor, hSame⟩
    · obtain ⟨hEntry, hDash⟩ := isEntry_option (.inl hOption)
      rw [hLabel, hEntry.isPiece.isValue.trimmed]
      exact ⟨hEntry, fun n _ _ => noFloor_of_not_mem hDash _ (List.drop_suffix n _)⟩
    · have hSpec := spec_of_mem hFloor
      rw [hLabel, ← hSame, hSpec.isWritable.label.isValue.trimmed]
      exact ⟨⟨hSpec.isWritable.label, hSpec.noComma.label⟩, hSpec.isWritable.clean⟩
  rw [← hType] at hTypes
  rw [← hFactor] at hFactors
  rw [← hBuilding] at hBuildings
  have hSqM : 0 ≤ sqFtToSqM area := by
    have hProduct : 0 ≤ area * SQ_FT_TO_SQ_M :=
      mul_nonneg hArea.le (by norm_num [SQ_FT_TO_SQ_M])
    exact (inCents_roundToCents hProduct).nonneg
  constructor
  · refine ⟨hLabelEntry.1.isPiece, hLabelEntry.2, fun value hValue => (hTypes value hValue).isPiece,
      fun value hValue => (hFactors value hValue).isPiece,
      fun value hValue => (hBuildings value hValue).isPiece, fun x hx => ?_, fun x hx => ?_⟩
    · obtain rfl := Option.some.inj (Option.some.inj (hFt.symm.trans hx))
      exact hArea.le
    · obtain rfl := Option.some.inj (Option.some.inj (hM.symm.trans hx))
      exact hSqM
  · exact ⟨hLabelEntry.1.noComma, fun value hValue => (hTypes value hValue).noComma,
      fun value hValue => (hFactors value hValue).noComma,
      fun value hValue => (hBuildings value hValue).noComma⟩

/-- The floors that are written after an edit: the others are those of before. -/
theorem exists_written {raw : Option Text} {now i : Nat} {edit : FloorEdit} {floor : FloorRow}
    {text : Text}
    (hOffered : ∀ draft, edit = .replace draft → Offered (FloorsEditor.parseFloorsRaw raw) draft)
    (hFloor : (FloorsEditor.parseFloorsRaw raw)[i]? = some floor)
    (hEdit : edit.commit raw now floor = some text) :
    ∃ floors, text = serializeFloorsRaw floors ∧
      (∀ other ∈ floors, IsWritable other ∧ NoComma other) ∧
      ∀ j, j ≠ i → floors[edit.newIndex i j]? = (FloorsEditor.parseFloorsRaw raw)[j]? := by
  have hParsed : ∀ other ∈ FloorsEditor.parseFloorsRaw raw, IsWritable other ∧ NoComma other :=
    fun other hOther => ⟨(spec_of_mem hOther).isWritable, (spec_of_mem hOther).noComma⟩
  cases edit with
  | remove =>
      obtain rfl := Option.some.inj hEdit
      refine ⟨(FloorsEditor.parseFloorsRaw raw).eraseIdx i, ?_, fun other hOther =>
        hParsed other (List.mem_of_mem_eraseIdx hOther), fun j hj => ?_⟩
      · rw [confirmDelete, commit_eq, filter_ne_eq_eraseIdx (ids_nodup raw) hFloor]
      · rw [List.getElem?_eraseIdx, FloorEdit.newIndex]
        by_cases hBelow : j < i
        · rw [if_pos hBelow, if_pos hBelow]
        · rw [if_neg hBelow, if_neg (by omega), Nat.sub_add_cancel (by omega)]
  | replace draft =>
      have hSaved : saveFloor draft (some floor.id) now (FloorsEditor.parseFloorsRaw raw) =
          .ok text := ok_of_toOption hEdit
      obtain ⟨row, area, hArea, -, hLabel, hFt, hM, hType, hFactor, hBuilding, rfl⟩ :=
        saveFloor_ok hSaved
      have hRow := (hOffered draft rfl).row hArea hLabel hFt hM hType hFactor hBuilding
      refine ⟨(FloorsEditor.parseFloorsRaw raw).set i row, ?_, fun other hOther => ?_,
        fun j hj => List.getElem?_set_ne hj.symm⟩
      · rw [commit_eq, map_ite_eq_set (ids_nodup raw) hFloor]
      · rcases List.mem_or_eq_of_mem_set hOther with hOther | rfl
        · exact hParsed other hOther
        · exact hRow

/-- An edit of one floor leaves the others as they are billed, exactly when each
of them comes back. -/
theorem edit_keeps_others_iff {raw : Option Text} {now i : Nat} {edit : FloorEdit}
    {floor : FloorRow} {text : Text}
    (hOffered : ∀ draft, edit = .replace draft → Offered (FloorsEditor.parseFloorsRaw raw) draft)
    (hFloor : (FloorsEditor.parseFloorsRaw raw)[i]? = some floor)
    (hEdit : edit.commit raw now floor = some text) :
    (∀ j other, j ≠ i → (parseFloorsRaw raw)[j]? = some other →
      ∃ again, (parseFloorsRaw (some text))[edit.newIndex i j]? = some again ∧
        BilledAlike other again) ↔
    ∀ j other, j ≠ i → (parseFloorsRaw raw)[j]? = some other → ComesBack other := by
  obtain ⟨floors, rfl, hWritable, hOthers⟩ := exists_written hOffered hFloor hEdit
  have hEach : ∀ j other, j ≠ i → (parseFloorsRaw raw)[j]? = some other →
      ∃ again, (parseFloorsRaw (some (serializeFloorsRaw floors)))[edit.newIndex i j]? =
        some again ∧ (BilledAlike other again ↔ ComesBack other) := by
    intro j other hj hOther
    obtain ⟨hRow, hParsed⟩ := getElem?_parseFloorsRaw raw j
    rw [hParsed] at hOther
    obtain ⟨segment, hSegment, rfl⟩ := Option.map_eq_some_iff.mp hOther
    rw [hSegment] at hRow
    refine ⟨_, ?_, billedAlike_iff (segmentsOf_isSegment (List.mem_of_getElem? hSegment)) j
      (edit.newIndex i j)⟩
    rw [parseFloorsRaw_serialize hWritable, List.getElem?_mapIdx, hOthers j hj, hRow]
    rfl
  constructor
  · intro h j other hj hOther
    obtain ⟨again, hAgain, hAlike⟩ := h j other hj hOther
    obtain ⟨found, hFound, hIff⟩ := hEach j other hj hOther
    obtain rfl := Option.some.inj (hAgain.symm.trans hFound)
    exact hIff.mp hAlike
  · intro h j other hj hOther
    obtain ⟨again, hAgain, hIff⟩ := hEach j other hj hOther
    exact ⟨again, hAgain, hIff.mpr (h j other hj hOther)⟩

namespace Sample

/-- The first floor has an area of three decimals. -/
def twoFloors : Text := "Ground Floor - 100 SqFt, First Floor - 100.125 SqFt".toList

def plainFloors : Text := "Ground Floor - 100 SqFt, First Floor - 100.12 SqFt".toList

theorem removed_twoFloors :
    (parseFloorsRaw (some twoFloors)).map ParsedFloor.areaSqFt =
      [some 100, some (100125 / 1000)] ∧
    ((FloorsEditor.parseFloorsRaw (some twoFloors))[0]?.bind fun floor =>
      FloorEdit.remove.commit (some twoFloors) 0 floor).map (fun text =>
        (parseFloorsRaw (some text)).map ParsedFloor.areaSqFt) =
      some [some (10013 / 100)] := by
  decide +kernel

theorem removed_plainFloors :
    (parseFloorsRaw (some plainFloors)).map (fun floor =>
      (floor.areaSqFt, floor.usageFactor, floor.buildingType)) =
        [(some 100, none, none), (some (10012 / 100), none, none)] ∧
    ((FloorsEditor.parseFloorsRaw (some plainFloors))[0]?.bind fun floor =>
      FloorEdit.remove.commit (some plainFloors) 0 floor).isSome = true := by
  decide +kernel

end Sample

/-- Removing the ground floor changes the area of the first. -/
theorem edit_rounds_others : ¬ ∀ (raw : Option Text) (now i : Nat) (edit : FloorEdit)
    (floor : FloorRow) (text : Text),
    (∀ draft, edit = .replace draft → Offered (FloorsEditor.parseFloorsRaw raw) draft) →
    (FloorsEditor.parseFloorsRaw raw)[i]? = some floor → edit.commit raw now floor = some text →
    ∀ j other, j ≠ i → (parseFloorsRaw raw)[j]? = some other →
      ∃ again, (parseFloorsRaw (some text))[edit.newIndex i j]? = some again ∧
        BilledAlike other again := by
  intro hLaw
  obtain ⟨hBefore, hAfter⟩ := Sample.removed_twoFloors
  obtain ⟨text, hText, hAreas⟩ := Option.map_eq_some_iff.mp hAfter
  obtain ⟨floor, hFloor, hEdit⟩ := Option.bind_eq_some_iff.mp hText
  have hOther := congrArg (·[1]?) hBefore
  simp only [List.getElem?_map] at hOther
  obtain ⟨other, hOther, hArea⟩ := Option.map_eq_some_iff.mp hOther
  obtain ⟨again, hAgain, hAlike⟩ := hLaw (some Sample.twoFloors) 0 0 .remove floor text
    (fun draft h => by cases h) hFloor hEdit 1 other (by decide) hOther
  have hAreaAgain := congrArg (·[0]?) hAreas
  simp only [List.getElem?_map] at hAreaAgain
  have hIndex : FloorEdit.remove.newIndex 0 1 = 0 := rfl
  rw [hIndex] at hAgain
  rw [hAgain, Option.map_some] at hAreaAgain
  have hSame := hAlike.areaSqFt
  rw [Option.some.inj hAreaAgain, hArea] at hSame
  exact absurd hSame (by decide +kernel)

/-- With areas in cents the first floor stays as it is billed. -/
theorem edit_keeps_others_iff_plain : ∃ floor text,
    (FloorsEditor.parseFloorsRaw (some Sample.plainFloors))[0]? = some floor ∧
    FloorEdit.remove.commit (some Sample.plainFloors) 0 floor = some text ∧
    ∀ j other, j ≠ 0 → (parseFloorsRaw (some Sample.plainFloors))[j]? = some other →
      ∃ again, (parseFloorsRaw (some text))[FloorEdit.remove.newIndex 0 j]? = some again ∧
        BilledAlike other again := by
  obtain ⟨hFloors, hSome⟩ := Sample.removed_plainFloors
  obtain ⟨text, hText⟩ := Option.isSome_iff_exists.mp hSome
  obtain ⟨floor, hFloor, hEdit⟩ := Option.bind_eq_some_iff.mp hText
  refine ⟨floor, text, hFloor, hEdit, (edit_keeps_others_iff (fun draft h => by cases h) hFloor
    hEdit).mpr fun j other _ hOther => ?_⟩
  have hMem := List.mem_map_of_mem (f := fun floor : ParsedFloor =>
    (floor.areaSqFt, floor.usageFactor, floor.buildingType)) (List.mem_of_getElem? hOther)
  rw [hFloors] at hMem
  have hFields : (∀ a, other.areaSqFt = some a → InCents a ∧ a < 10 ^ 21) ∧
      other.usageFactor = none ∧ other.buildingType = none := by
    rcases List.mem_pair.mp hMem with hSame | hSame
    · obtain ⟨hArea, hTexts⟩ := Prod.mk.inj hSame
      refine ⟨fun a ha => ?_, Prod.mk.inj hTexts⟩
      obtain rfl := Option.some.inj (hArea.symm.trans ha)
      exact ⟨⟨10000, by norm_num⟩, by norm_num⟩
    · obtain ⟨hArea, hTexts⟩ := Prod.mk.inj hSame
      refine ⟨fun a ha => ?_, Prod.mk.inj hTexts⟩
      obtain rfl := Option.some.inj (hArea.symm.trans ha)
      exact ⟨⟨10012, by norm_num⟩, by norm_num⟩
  refine ⟨hFields.1, fun value hValue => ?_, fun value hValue => ?_⟩
  · rw [hFields.2.1] at hValue
    cases hValue
  · rw [hFields.2.2] at hValue
    cases hValue

end PropertyTax.Surveys
