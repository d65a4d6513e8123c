import Mathlib.Algebra.Order.BigOperators.Group.List
import Mathlib.Algebra.Order.Group.MinMax
import Mathlib.Tactic.Linarith
import Mathlib.Tactic.Ring

/-! An amount poured over heads in turn. Each head takes what it can hold, and the
rest goes on to the next. -/
namespace Waterfall
variable {κ α : Type*} [DecidableEq κ] [CommRing α] [LinearOrder α]

/-- What a head receives. -/
def pour (capacity : κ → α) : List κ → α → κ → α
  | [], _, _ => 0
  | k :: ks, amount, j =>
      if j = k then min (capacity k) amount
      else pour capacity ks (amount - min (capacity k) amount) j

variable {capacity : κ → α} {ks : List κ}

theorem pour_cons_self (capacity : κ → α) (k : κ) (ks : List κ) (amount : α) :
    pour capacity (k :: ks) amount k = min (capacity k) amount := if_pos rfl

theorem pour_cons_of_ne {j k : κ} (h : j ≠ k) (capacity : κ → α) (ks : List κ) (amount : α) :
    pour capacity (k :: ks) amount j =
      pour capacity ks (amount - min (capacity k) amount) j := if_neg h

/-- Only the capacities of the heads themselves matter. -/
theorem pour_congr {other : κ → α} (h : ∀ k ∈ ks, capacity k = other k) (amount : α) (j : κ) :
    pour capacity ks amount j = pour other ks amount j := by
  induction ks generalizing amount with
  | nil => rfl
  | cons k ks ih =>
      unfold pour
      rw [h k List.mem_cons_self, ih fun i hi => h i (List.mem_cons_of_mem _ hi)]

/-- No head receives more than it can hold. -/
theorem pour_le (hCapacity : ∀ k, 0 ≤ capacity k) (amount : α) (j : κ) :
    pour capacity ks amount j ≤ capacity j := by
  induction ks generalizing amount with
  | nil => exact hCapacity j
  | cons k ks ih =>
      unfold pour
      split_ifs with hHead
      · subst hHead
        exact min_le_left _ _
      · exact ih _

variable [IsStrictOrderedRing α]

theorem pour_nonneg (hCapacity : ∀ k, 0 ≤ capacity k) {amount : α} (h : 0 ≤ amount) (j : κ) :
    0 ≤ pour capacity ks amount j := by
  induction ks generalizing amount with
  | nil => exact le_rfl
  | cons k ks ih =>
      unfold pour
      split_ifs
      · exact le_min (hCapacity k) h
      · exact ih (sub_nonneg.mpr (min_le_right _ _))

/-- The heads receive the amount, or all that they can hold together. -/
theorem sum_pour (hCapacity : ∀ k, 0 ≤ capacity k) (hKeys : ks.Nodup) {amount : α}
    (h : 0 ≤ amount) :
    (ks.map (pour capacity ks amount)).sum = min (ks.map capacity).sum amount := by
  induction ks generalizing amount with
  | nil => simpa [pour] using h
  | cons k ks ih =>
      obtain ⟨hFirst, hRest⟩ := List.nodup_cons.mp hKeys
      have hTail : ks.map (pour capacity (k :: ks) amount) =
          ks.map (pour capacity ks (amount - min (capacity k) amount)) := by
        apply List.map_congr_left
        intro j hj
        exact pour_cons_of_ne (ne_of_mem_of_not_mem hj hFirst) _ _ _
      have hHeld : 0 ≤ (ks.map capacity).sum :=
        List.sum_nonneg (by simpa using fun j _ => hCapacity j)
      rw [List.map_cons, List.sum_cons, List.map_cons, List.sum_cons, pour_cons_self, hTail,
        ih hRest (sub_nonneg.mpr (min_le_right _ _))]
      rcases le_total (capacity k) amount with hFull | hPart
      · rw [min_eq_left hFull, ← min_add_add_left, add_sub_cancel]
      · rw [min_eq_right hPart, sub_self, min_eq_right hHeld, add_zero, min_eq_right]
        linarith

theorem min_sub_min {a x y : α} (h : 0 ≤ y) :
    min (a - min a x) y = min a (x + y) - min a x := by
  rcases le_total a x with hFull | hPart
  · rw [min_eq_left hFull, sub_self, min_eq_left h, min_eq_left (by linarith), sub_self]
  · rw [min_eq_right hPart, ← min_sub_sub_right, add_sub_cancel_left]

/-- A second amount, poured over what the first left, fills the heads to where
both together do. -/
theorem pour_pour (hKeys : ks.Nodup) (x : α) {y : α} (hy : 0 ≤ y) (j : κ) :
    pour (fun k => capacity k - pour capacity ks x k) ks y j =
      pour capacity ks (x + y) j - pour capacity ks x j := by
  induction ks generalizing x y with
  | nil => simp [pour]
  | cons k ks ih =>
      obtain ⟨hFirst, hRest⟩ := List.nodup_cons.mp hKeys
      by_cases hHead : j = k
      · subst hHead
        rw [pour_cons_self, pour_cons_self, pour_cons_self, min_sub_min hy]
      · have hLeft : ∀ i ∈ ks, capacity i - pour capacity (k :: ks) x i =
            capacity i - pour capacity ks (x - min (capacity k) x) i := by
          intro i hi
          rw [pour_cons_of_ne (ne_of_mem_of_not_mem hi hFirst)]
        have hPassed : y - min (capacity k - min (capacity k) x) y =
            (x + y - min (capacity k) (x + y)) - (x - min (capacity k) x) := by
          rw [min_sub_min hy]
          ring
        have hNonneg : 0 ≤ y - min (capacity k - min (capacity k) x) y :=
          sub_nonneg.mpr (min_le_right _ _)
        rw [pour_cons_of_ne hHead, pour_cons_of_ne hHead, pour_cons_of_ne hHead, pour_cons_self,
          pour_congr hLeft, ih hRest _ hNonneg, hPassed, add_sub_cancel]

end Waterfall
