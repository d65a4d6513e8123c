import PropertyTax.Tax.TaxCalc

/-! The classifier that reports a floor against the one that prices it. Both look
at the usage of the floor first; the first falls back on the use of the property
where the usage is of neither kind, the second reads the usage factor where there
is no usage. -/
namespace PropertyTax

/-- Reporting and pricing of a floor see the same use. -/
def UsageAgrees (usageType usageFactor propertyUse : Option String)
    (gisUseClass : Option GisUseClass) : Prop :=
  rateGisClass gisUseClass = none →
    let floor := Js.toLowerCase (Js.trim (usageType.getD ""))
    let property := Js.toLowerCase (propertyUse.getD "")
    if floor ≠ "" then
      mentionsCommerce floor ∨ Js.includes floor "residential" ∨ ¬ mentionsCommerce property
    else mentionsCommerce (Js.toLowerCase (usageFactor.getD "")) → mentionsCommerce property

section Keywords

/-- White space around a text makes no difference to whether it mentions commerce. -/
theorem mentionsCommerce_trim (text : String) :
    mentionsCommerce (Js.trim text) = mentionsCommerce text := by
  unfold mentionsCommerce
  rw [Js.includes_trim_iff (by decide), Js.includes_trim_iff (by decide),
    Js.includes_trim_iff (by decide), Js.includes_trim_iff (by decide)]

/-- None of the four words has a space in it. -/
theorem mentionsCommerce_append_space (first second : String) :
    mentionsCommerce (first ++ " " ++ second) =
      (mentionsCommerce first || mentionsCommerce second) := by
  unfold mentionsCommerce
  rw [Js.includes_append_space _ _ (by decide), Js.includes_append_space _ _ (by decide),
    Js.includes_append_space _ _ (by decide), Js.includes_append_space _ _ (by decide)]
  simp only [Bool.or_assoc, Bool.or_left_comm]

variable {usageType usageFactor propertyUse : Option String}

/-- The usage of a floor prices it, if there is one. -/
theorem usageLooksCommercial_of_usage (h : Js.trim (usageType.getD "") ≠ "") :
    usageLooksCommercial (resolveHeuristicUsageKey usageType usageFactor propertyUse) =
      mentionsCommerce (Js.toLowerCase (Js.trim (usageType.getD ""))) := by
  rw [resolveHeuristicUsageKey, if_pos h, usageLooksCommercial, Js.toLowerCase_toLowerCase]

/-- Else its factor and the use of the property do. -/
theorem usageLooksCommercial_of_blank (h : Js.trim (usageType.getD "") = "") :
    usageLooksCommercial (resolveHeuristicUsageKey usageType usageFactor propertyUse) =
      (mentionsCommerce (Js.toLowerCase (usageFactor.getD "")) ||
        mentionsCommerce (Js.toLowerCase (propertyUse.getD ""))) := by
  have hSpace : Js.toLowerCase " " = " " := by decide
  rw [resolveHeuristicUsageKey, if_neg (not_not.mpr h), usageLooksCommercial,
    Js.toLowerCase_trim_toLowerCase, mentionsCommerce_trim, Js.toLowerCase_append,
    Js.toLowerCase_append, hSpace, mentionsCommerce_append_space]

end Keywords

section Usage
variable {usageType usageFactor propertyUse : Option String}

/-- A mixed property, or one of no known class, is classified floor by floor. -/
theorem isResidentialUsage_iff_of_none :
    (isResidentialUsage usageType propertyUse none = true ↔
        resolveUsageRateMult usageFactor usageType propertyUse none = 1) ↔
      UsageAgrees usageType usageFactor propertyUse none := by
  have hRate : resolveUsageRateMult usageFactor usageType propertyUse none = 1 ↔
      usageLooksCommercial (resolveHeuristicUsageKey usageType usageFactor propertyUse) =
        false := by
    unfold resolveUsageRateMult
    split_ifs with hCommercial
    · simp [hCommercial]
    · simp [hCommercial]
  rw [hRate]
  simp only [isResidentialUsage, UsageAgrees, rateGisClass, reduceCtorEq, if_false, true_imp_iff]
  by_cases hUsage : Js.trim (usageType.getD "") = ""
  · rw [usageLooksCommercial_of_blank hUsage, hUsage, Js.toLowerCase_empty]
    cases mentionsCommerce (Js.toLowerCase (usageFactor.getD "")) <;>
      cases mentionsCommerce (Js.toLowerCase (propertyUse.getD "")) <;> simp
  · have hFloor : Js.toLowerCase (Js.trim (usageType.getD "")) ≠ "" :=
      fun hEmpty => hUsage (Js.toLowerCase_eq_empty.mp hEmpty)
    rw [usageLooksCommercial_of_usage hUsage]
    simp only [hFloor, ne_eq, not_false_eq_true, true_and, if_true]
    cases mentionsCommerce (Js.toLowerCase (Js.trim (usageType.getD ""))) <;>
      cases Js.includes (Js.toLowerCase (Js.trim (usageType.getD ""))) "residential" <;>
        cases mentionsCommerce (Js.toLowerCase (propertyUse.getD "")) <;> simp

/-- A floor is reported as residential and priced as such together exactly when
the texts of the floor and of the property do not part the two. -/
theorem isResidentialUsage_iff {gisUseClass : Option GisUseClass}
    (h : gisUseClass ≠ some .openLand) :
    (isResidentialUsage usageType propertyUse gisUseClass = true ↔
        resolveUsageRateMult usageFactor usageType propertyUse gisUseClass = 1) ↔
      UsageAgrees usageType usageFactor propertyUse gisUseClass := by
  rcases gisUseClass with _ | _ | _ | _ | _
  · exact isResidentialUsage_iff_of_none
  · simp [isResidentialUsage, resolveUsageRateMult, UsageAgrees, rateGisClass]
  · simp [isResidentialUsage, resolveUsageRateMult, UsageAgrees, rateGisClass]
  · exact absurd rfl h
  · exact isResidentialUsage_iff_of_none

end Usage

/-- A godown under the usage "Godown": reported and priced as commercial. -/
theorem isResidentialUsage_iff_godown :
    isResidentialUsage (some "Godown") (some "Residential") (some .mixed) = true ↔
      resolveUsageRateMult none (some "Godown") (some "Residential") (some .mixed) = 1 :=
  (isResidentialUsage_iff (by decide)).mpr fun _ => by decide

/-- A store room in a property of shops is reported as commercial, and priced as
residential. -/
theorem store_room_reported_commercial :
    ¬ ∀ (usageType usageFactor propertyUse : Option String) (gisUseClass : Option GisUseClass),
      gisUseClass ≠ some .openLand →
        (isResidentialUsage usageType propertyUse gisUseClass = true ↔
          resolveUsageRateMult usageFactor usageType propertyUse gisUseClass = 1) := by
  intro hLaw
  have hStore := hLaw (some "Store") none (some "Shops/Banks") (some .mixed) (by decide)
  exact absurd (hStore.mpr (by decide)) (by decide)

end PropertyTax
