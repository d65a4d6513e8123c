import PropertyTax.Library.LastWrite
import PropertyTax.Tax.FloorTotals

/-! The tax cells of the ward report. Every floor writes its tax into the cell of
its usage and construction band, while the total adds it up: the cells fall
short of the total by what a later floor of the same cell has overwritten. -/
namespace PropertyTax
open LastWrite

instance : Fintype ConstructionBand where
  elems := {.rcc, .teen, .kaccha}
  complete band := by cases band <;> decide

namespace SurveyTaxInput
variable (input : SurveyTaxInput)

/-- The usage class and band under which a floor is reported. -/
def cellOf (floor : ExportTaxFloorInput) : Bool × ConstructionBand :=
  (input.usageResidential floor, constructionBand floor.constructionCode)

/-- The taxes that a later floor of the same usage and band has overwritten. -/
def overwrittenTax : ℚ := ((overwritten input.cellOf input.floors).map input.chargedTax).sum

/-- No tax is overwritten; a plot billed in place of the floors comes to what
they still show. -/
structure CellsComplete : Prop where
  floors : input.fallback = none → input.overwrittenTax = 0
  plot : ∀ alv ∈ input.fallback,
    alv.propertyTax = (input.floors.map input.chargedTax).sum - input.overwrittenTax

end SurveyTaxInput

theorem offset_add_two_injective : Function.Injective fun band : ConstructionBand =>
    band.offset + 2 := by
  intro band other
  cases band <;> cases other <;> decide

/-- No tax cell is a band's first cell. -/
theorem offset_ne_offset_add_two (band other : ConstructionBand) :
    band.offset + 2 ≠ other.offset := by
  cases band <;> cases other <;> decide

/-- The tax cells come to the two column totals. -/
theorem FloorTotals.sum_taxCell (totals : FloorTotals) :
    ∑ cell, (totals.taxCell cell).getD 0 =
      taxColumnTotal totals.residentialTaxCells + taxColumnTotal totals.nonResidentialTaxCells := by
  have hBands : ∀ cells : TaxCells,
      ∑ band : ConstructionBand, (cells (band.offset + 2)).getD 0 = taxColumnTotal cells := by
    intro cells
    change ∑ band ∈ ({.rcc, .teen, .kaccha} : Finset ConstructionBand), _ = _
    rw [Finset.sum_insert (by decide), Finset.sum_insert (by decide), Finset.sum_singleton,
      ← add_assoc]
    rfl
  rw [Fintype.sum_prod_type, Fintype.sum_bool]
  simp only [taxCell, if_true, Bool.false_eq_true, if_false, hBands]

section Cells
variable {input : SurveyTaxInput}

/-- A floor overwrites the tax cell of its band. -/
theorem taxCell_writeCells (floor : ExportTaxFloorInput) (cells : TaxCells)
    (band : ConstructionBand) :
    input.writeCells floor cells (band.offset + 2) =
      if band = constructionBand floor.constructionCode then
        some (input.floorAlv floor).propertyTax
      else cells (band.offset + 2) := by
  unfold SurveyTaxInput.writeCells
  by_cases hBand : band = constructionBand floor.constructionCode
  · subst hBand
    rw [if_pos rfl]
    exact Function.update_self ..
  · rw [if_neg hBand, Function.update_of_ne fun h => hBand (offset_add_two_injective h),
      Function.update_of_ne (offset_ne_offset_add_two _ _)]

/-- A priced floor writes the one Tax cell of its usage and band. -/
theorem taxCell_addFloor (totals : FloorTotals) {floor : ExportTaxFloorInput}
    (h : 0 < input.baseRate floor) :
    (input.addFloor totals floor).taxCell =
      write input.cellOf input.chargedTax totals.taxCell floor := by
  funext cell
  obtain ⟨residential, band⟩ := cell
  have hCell : write input.cellOf input.chargedTax totals.taxCell floor (residential, band) =
      if residential = input.usageResidential floor ∧
          band = constructionBand floor.constructionCode then
        some (input.floorAlv floor).propertyTax
      else totals.taxCell (residential, band) := by
    rw [write, Function.update_apply, input.chargedTax_of_pos h]
    simp only [SurveyTaxInput.cellOf, Prod.mk.injEq]
  rw [hCell]
  unfold SurveyTaxInput.addFloor FloorTotals.taxCell
  rw [if_neg (not_le.mpr h)]
  cases hUsage : input.usageResidential floor <;> cases residential <;>
    simp [taxCell_writeCells]

/-- Each tax cell holds the tax of the last floor that goes there. -/
theorem taxCell_foldl_addFloor (totals : FloorTotals) {floors : List ExportTaxFloorInput}
    (h : ∀ floor ∈ floors, 0 < input.baseRate floor) :
    (floors.foldl input.addFloor totals).taxCell =
      writeAll input.cellOf input.chargedTax totals.taxCell floors := by
  induction floors generalizing totals with
  | nil => rfl
  | cons floor floors ih =>
      rw [List.foldl_cons, ih _ fun f hf => h f (List.mem_cons_of_mem _ hf),
        taxCell_addFloor totals (h floor List.mem_cons_self)]
      rfl

/-- The cells show what the floors are charged, less what was overwritten. -/
theorem taxColumnTotal_floorTotals (h : ∀ floor ∈ input.floors, 0 < input.baseRate floor) :
    taxColumnTotal input.floorTotals.residentialTaxCells +
        taxColumnTotal input.floorTotals.nonResidentialTaxCells + input.overwrittenTax =
      (input.floors.map input.chargedTax).sum := by
  have hStart : untouched input.cellOf (FloorTotals.taxCell {}) input.floors = 0 := by
    refine Finset.sum_eq_zero fun cell _ => ?_
    simp [FloorTotals.taxCell]
  have hShown := sum_writeAll input.cellOf input.chargedTax (FloorTotals.taxCell {}) input.floors
  rw [hStart, zero_add, ← taxCell_foldl_addFloor {} h, FloorTotals.sum_taxCell] at hShown
  exact hShown

/-- The Tax cells add up to the tax of a built property exactly when none of
them was written over and no plot is billed on top. -/
theorem taxColumnTotal_eq_propertyTax_iff {result : SurveyExportTax}
    (hResult : computeSurveyExportTax input = .ok result)
    (hRates : ∀ floor ∈ input.floors, 0 < input.baseRate floor)
    (hLand : input.openLand = false) :
    taxColumnTotal result.residentialTaxCells + taxColumnTotal result.nonResidentialTaxCells =
        result.propertyTax ↔ input.CellsComplete := by
  have hShown := taxColumnTotal_floorTotals hRates
  have hStandIn : input.standIn = input.fallback := by
    rw [SurveyTaxInput.standIn, hLand]
    rfl
  rw [computeSurveyExportTax_propertyTax hResult, (computeSurveyExportTax_cells hResult).1,
    (computeSurveyExportTax_cells hResult).2]
  obtain ⟨hNone, hTax⟩ | ⟨alv, hSome, hTax⟩ := input.standIn_eq_none_or
  · rw [hStandIn] at hNone
    rw [hTax, ← hShown, left_eq_add]
    exact ⟨fun h => ⟨fun _ => h, by simp [hNone]⟩, fun h => h.floors hNone⟩
  · rw [hStandIn] at hSome
    rw [hTax]
    constructor
    · intro h
      refine ⟨by simp [hSome], fun other hOther => ?_⟩
      obtain rfl : alv = other := by simpa [hSome] using hOther
      rw [← hShown, ← h, add_sub_cancel_right]
    · intro h
      rw [h.plot alv hSome, ← hShown, add_sub_cancel_right]

end Cells

/-- Of two residential floors under the same roof, the report shows one. -/
theorem taxCells_miss_a_floor : ¬ ∀ (input : SurveyTaxInput) (result : SurveyExportTax),
    computeSurveyExportTax input = .ok result →
    (∀ floor ∈ input.floors, 0 < input.baseRate floor) → input.openLand = false →
      taxColumnTotal result.residentialTaxCells + taxColumnTotal result.nonResidentialTaxCells =
        result.propertyTax := by
  intro hLaw
  let input := Sample.house [Sample.rccFloor "Ground Floor", Sample.rccFloor "First Floor"]
  obtain ⟨result, hResult⟩ : ∃ result, computeSurveyExportTax input = .ok result :=
    exists_computeSurveyExportTax input (by decide)
  have hTotal := hLaw input result hResult (by decide) (by decide)
  rw [computeSurveyExportTax_propertyTax hResult, (computeSurveyExportTax_cells hResult).1,
    (computeSurveyExportTax_cells hResult).2] at hTotal
  exact absurd hTotal (by decide +kernel)

namespace Sample

/-- A ground floor under a concrete roof, and a first floor under tin, at its own rate. -/
def mixedRoofs : SurveyTaxInput :=
  { house [rccFloor "Ground Floor", { rccFloor "First Floor" with constructionCode := "TIN_SHED" }]
    with rates := { rateTable with
      rateByZoneAndConstruction := fun key =>
        if key = "BELOW_9M::TIN_SHED" then some 8 else rateTable.rateByZoneAndConstruction key } }

end Sample

/-- The cells of two floors under different roofs add up. -/
theorem taxColumnTotal_eq_propertyTax_iff_two :
    ∃ result, computeSurveyExportTax Sample.mixedRoofs = .ok result ∧
      taxColumnTotal result.residentialTaxCells + taxColumnTotal result.nonResidentialTaxCells =
        result.propertyTax := by
  obtain ⟨result, hResult⟩ := exists_computeSurveyExportTax Sample.mixedRoofs (by decide)
  have hNone : Sample.mixedRoofs.fallback = none :=
    Option.isNone_iff_eq_none.mp (by decide +kernel)
  exact ⟨result, hResult, (taxColumnTotal_eq_propertyTax_iff hResult (by decide)
    (by decide)).mpr ⟨fun _ => by decide, by simp [hNone]⟩⟩

end PropertyTax
