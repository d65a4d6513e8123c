import PropertyTax.Surveys.FloorTexts

/-! Floors that the portal writes and the server reads. -/
namespace PropertyTax.Surveys
open FloorsEditor

/-- A text of a floor, trimmed, without a comma and without a pair of bars. -/
structure IsEntry (value : Text) : Prop where
  isPiece : IsPiece value
  noComma : ',' ∉ value

/-- A floor as the editor keeps it: both areas in cents, and no area after a
dash in the label. -/
structure IsEditable (floor : FloorRow) : Prop where
  label : IsEntry floor.floorLabel
  labelPattern : NoFloor floor.floorLabel
  areaSqFt : ∃ a, floor.areaSqFt = some (some a) ∧ InCents a
  areaSqMeter : ∃ b, floor.areaSqMeter = some (some b) ∧ InCents b
  usageType : ∀ value, floor.usageType = some value → IsEntry value
  usageFactor : ∀ value, floor.usageFactor = some value → IsEntry value
  buildingType : ∀ value, floor.buildingType = some value → IsEntry value

/-- The floor that is read is the floor that was written. -/
structure ReadBack (floor : FloorRow) (parsed : ParsedFloor) : Prop where
  floorLabel : parsed.floorLabel = floor.floorLabel
  areaSqFt : some parsed.areaSqFt = floor.areaSqFt
  areaSqMeter : some parsed.areaSqMeter = floor.areaSqMeter
  usageType : parsed.usageType = floor.usageType
  usageFactor : parsed.usageFactor = floor.usageFactor
  buildingType : parsed.buildingType = floor.buildingType

/-- The label is one line, the areas are printed without an exponent, the label
has no square metres but those of the floor, and the texts can be told apart. The
bound of the areas is that of exact decimals: the columns of a floor end at `10 ^ 10`. -/
structure Unmistakable (floor : FloorRow) : Prop where
  oneLine : floor.floorLabel.any isLineTerminator = false
  areaSqFt : ∀ a, floor.areaSqFt = some (some a) → a < 10 ^ 21
  areaSqMeter : ∀ b, floor.areaSqMeter = some (some b) →
    (sqmMatch floor.floorLabel = none ∧ b < 10 ^ 21) ∨
      (sqmMatch floor.floorLabel).bind parseNumeral = some b
  texts : KeepsTexts floor.usageType floor.usageFactor floor.buildingType

section Floor
variable {floor : FloorRow}

theorem InCents.nonneg {x : ℚ} (h : InCents x) : 0 ≤ x := by
  obtain ⟨n, rfl⟩ := h
  positivity

/-- An editable floor can be written. -/
theorem IsEditable.isWritable (h : IsEditable floor) : IsWritable floor := by
  obtain ⟨a, hFt, hA⟩ := h.areaSqFt
  obtain ⟨b, hM, hB⟩ := h.areaSqMeter
  constructor
  · exact h.label.isPiece
  · exact fun n _ _ => h.labelPattern _ (List.drop_suffix n floor.floorLabel)
  · exact fun value hValue => (h.usageType value hValue).isPiece
  · exact fun value hValue => (h.usageFactor value hValue).isPiece
  · exact fun value hValue => (h.buildingType value hValue).isPiece
  · intro x hx
    obtain rfl := Option.some.inj (Option.some.inj (hFt.symm.trans hx))
    exact hA.nonneg
  · intro x hx
    obtain rfl := Option.some.inj (Option.some.inj (hM.symm.trans hx))
    exact hB.nonneg

/-- An editable floor has no comma. -/
theorem IsEditable.noComma (h : IsEditable floor) : NoComma floor where
  label := h.label.noComma
  usageType value hValue := (h.usageType value hValue).noComma
  usageFactor value hValue := (h.usageFactor value hValue).noComma
  buildingType value hValue := (h.buildingType value hValue).noComma

/-- One floor comes back exactly then. -/
theorem readBack_iff (h : IsEditable floor) (index : Nat) :
    ReadBack floor (parseSegment (serializeFloor floor) index) ↔ Unmistakable floor := by
  obtain ⟨a, hFt, hA⟩ := h.areaSqFt
  obtain ⟨b, hM, hB⟩ := h.areaSqMeter
  have hWritable := h.isWritable
  have hFtValue : printedValue (writtenSqFt floor) = a := by
    simp [printedValue, writtenSqFt, hFt, hA.roundToCents]
  have hMValue : printedValue (writtenSqM floor) = b := by
    simp [printedValue, writtenSqM, hM, hB.roundToCents]
  have hHead := parseSegment_head_iff hWritable index
  have hSqM := parseSegment_sqM_iff hWritable index
  have hTexts := parseSegment_texts_iff hWritable index
  rw [hFtValue] at hHead
  rw [hMValue] at hSqM
  constructor
  · intro hRead
    have hFtRead := hRead.areaSqFt
    have hMRead := hRead.areaSqMeter
    rw [hFt] at hFtRead
    rw [hM] at hMRead
    obtain ⟨hLine, hSize⟩ := hHead.mp ⟨hRead.floorLabel, Option.some.inj hFtRead⟩
    refine ⟨hLine, fun x hx => ?_, fun x hx => ?_, ?_⟩
    · obtain rfl := Option.some.inj (Option.some.inj (hFt.symm.trans hx))
      exact hSize
    · obtain rfl := Option.some.inj (Option.some.inj (hM.symm.trans hx))
      exact hSqM.mp (Option.some.inj hMRead)
    · exact hTexts.mp ⟨hRead.usageType, hRead.usageFactor, hRead.buildingType⟩
  · intro hClear
    obtain ⟨hLabel, hArea⟩ := hHead.mpr ⟨hClear.oneLine, hClear.areaSqFt a hFt⟩
    obtain ⟨hType, hFactor, hBuilding⟩ := hTexts.mpr hClear.texts
    refine ⟨hLabel, ?_, ?_, hType, hFactor, hBuilding⟩
    · rw [hArea, hFt]
    · rw [hSqM.mpr (hClear.areaSqMeter b hM), hM]

end Floor

/-- Items are related to their images, place by place. -/
theorem forall₂_mapIdx {α β : Type} {R : α → β → Prop} {P : α → Prop} {items : List α}
    {f : Nat → α → β} (h : ∀ item ∈ items, ∀ index, R item (f index item) ↔ P item) :
    List.Forall₂ R items (items.mapIdx f) ↔ ∀ item ∈ items, P item := by
  induction items generalizing f with
  | nil => simp
  | cons item items ih =>
      obtain ⟨hItem, hItems⟩ := List.forall_mem_cons.mp h
      rw [List.mapIdx_cons, List.forall₂_cons, List.forall_mem_cons, hItem 0,
        ih fun other hOther index => hItems other hOther (index + 1)]

/-- The floors that the portal writes are the floors that the server reads,
exactly when each of them is unmistakable. -/
theorem parseFloorsRaw_serializeFloorsRaw_iff {floors : List FloorRow}
    (hFloors : ∀ floor ∈ floors, IsEditable floor) :
    List.Forall₂ ReadBack floors (parseFloorsRaw (some (serializeFloorsRaw floors))) ↔
      ∀ floor ∈ floors, Unmistakable floor := by
  rw [parseFloorsRaw_serialize fun floor hFloor =>
    ⟨(hFloors floor hFloor).isWritable, (hFloors floor hFloor).noComma⟩]
  exact forall₂_mapIdx fun floor hFloor index => readBack_iff (hFloors floor hFloor) index

namespace Sample

/-- A ground floor of 400 square feet. -/
def groundFloor (usageType : Option String) : FloorRow where
  id := "floor-0-Ground Floor".toList
  floorLabel := "Ground Floor".toList
  areaSqFt := some (some 400)
  areaSqMeter := some (some (3716 / 100))
  usageType := usageType.map String.toList
  usageFactor := none
  buildingType := some "Tin Shed".toList
  sortOrder := 0

/-- A trimmed text without marks is an entry. -/
theorem isEntry_of {value : Text} (hValue : Js.trimChars value = value ∧ value ≠ [])
    (hMarks : '|' ∉ value ∧ ',' ∉ value) : IsEntry value :=
  ⟨⟨⟨hValue.2, hValue.1⟩, noBars_of_not_mem hMarks.1⟩, hMarks.2⟩

theorem groundFloor_isEditable {usageType : Option String}
    (h : usageType = none ∨ usageType = some "Residential") :
    IsEditable (groundFloor usageType) where
  label := @isEntry_of "Ground Floor".toList (by decide) (by decide)
  labelPattern tail hTail := by
    have hAll : ∀ text ∈ "Ground Floor".toList.tails, floorAt text = none := by decide
    exact hAll tail ((List.mem_tails _ _).mpr hTail)
  areaSqFt := ⟨400, rfl, 40000, by norm_num⟩
  areaSqMeter := ⟨3716 / 100, rfl, 3716, by norm_num⟩
  usageType value hValue := by
    rcases h with rfl | rfl
    · cases hValue
    · obtain rfl := Option.some.inj hValue
      exact isEntry_of (by decide) (by decide)
  usageFactor value hValue := by cases hValue
  buildingType value hValue := by
    obtain rfl := Option.some.inj hValue
    exact isEntry_of (by decide) (by decide)

/-- A smaller floor above, let to a tenant, with a usage factor of its own. -/
def firstFloor : FloorRow :=
  { groundFloor (some "Residential") with
    floorLabel := "First Floor".toList
    areaSqFt := some (some (2505 / 10))
    usageFactor := some "Tenant".toList }

theorem firstFloor_isEditable : IsEditable firstFloor :=
  { groundFloor_isEditable (.inr rfl) with
    label := @isEntry_of "First Floor".toList (by decide) (by decide)
    labelPattern := fun tail hTail => by
      have hAll : ∀ text ∈ "First Floor".toList.tails, floorAt text = none := by decide
      exact hAll tail ((List.mem_tails _ _).mpr hTail)
    areaSqFt := ⟨2505 / 10, rfl, 25050, by norm_num⟩
    usageFactor := fun value hValue => by
      obtain rfl := Option.some.inj hValue
      exact isEntry_of (by decide) (by decide) }

def bothFloors : List FloorRow := [groundFloor (some "Residential"), firstFloor]

end Sample

/-- Without a usage type the building type is read in its place. -/
theorem parseFloorsRaw_buildingType_alone : ¬ ∀ floors : List FloorRow,
    (∀ floor ∈ floors, IsEditable floor) →
    List.Forall₂ ReadBack floors (parseFloorsRaw (some (serializeFloorsRaw floors))) := by
  intro hLaw
  have hEditable : ∀ floor ∈ [Sample.groundFloor none], IsEditable floor :=
    List.forall_mem_singleton.mpr (Sample.groundFloor_isEditable (.inl rfl))
  have hRead := hLaw _ hEditable
  have hTypes : (parseFloorsRaw (some (serializeFloorsRaw [Sample.groundFloor none]))).map
      ParsedFloor.usageType = [some "Tin Shed".toList] := by decide +kernel
  obtain ⟨parsed, rest, hFirst, -, hParsed⟩ := List.forall₂_cons_left_iff.mp hRead
  rw [hParsed, List.map_cons, hFirst.usageType] at hTypes
  cases (List.cons.inj hTypes).1

/-- Two floors with usage and building types. -/
theorem parseFloorsRaw_serializeFloorsRaw_iff_two :
    List.Forall₂ ReadBack Sample.bothFloors
      (parseFloorsRaw (some (serializeFloorsRaw Sample.bothFloors))) := by
  refine (parseFloorsRaw_serializeFloorsRaw_iff (List.forall_mem_cons.mpr
    ⟨Sample.groundFloor_isEditable (.inr rfl),
      List.forall_mem_singleton.mpr Sample.firstFloor_isEditable⟩)).mpr
    (List.forall_mem_cons.mpr ⟨?_, List.forall_mem_singleton.mpr ?_⟩)
  all_goals
    refine ⟨by decide, fun a ha => ?_, fun b hb => ?_, keepsTexts_iff.mp (by decide)⟩
    · obtain rfl := Option.some.inj (Option.some.inj ha)
      norm_num
    · obtain rfl := Option.some.inj (Option.some.inj hb)
      exact .inl ⟨by decide, by norm_num⟩

end PropertyTax.Surveys
