import Mathlib.Data.List.Dedup
import PropertyTax.Library.KeyedFold

/-! Rows grouped by a key, in whatever order the groups come. Sums over the groups are
sums over the rows. -/
namespace Groups
open KeyedFold
variable {ι κ M : Type*} [DecidableEq κ] [AddCommMonoid M]

/-- An order for the groups to come in. -/
structure Arrangement (κ : Type*) where
  order : List κ → List κ
  perm : ∀ keys, (order keys).Perm keys

/-- A group for every key that a row has. -/
def groupBy (arrangement : Arrangement κ) (key : ι → κ) (rows : List ι) : List (κ × List ι) :=
  (arrangement.order (rows.map key).dedup).map fun k => (k, itemsOf key rows k)

/-- The rows of the group of a key. -/
def rowsOf? (groups : List (κ × List ι)) (k : κ) : Option (List ι) := groups.lookup k

variable {key : ι → κ} {rows : List ι}

/-- The rows of some keys, key by key. -/
theorem sum_itemsOf (key : ι → κ) {keys : List κ} (hNodup : keys.Nodup) (f : ι → M) {q : ι → Bool}
    (hq : ∀ row ∈ rows, (q row = true ↔ key row ∈ keys)) :
    (keys.map fun k => ((itemsOf key rows k).map f).sum).sum = ((rows.filter q).map f).sum := by
  induction rows with
  | nil => simp [itemsOf]
  | cons row rest ih =>
      obtain ⟨hRow, hRest⟩ := List.forall_mem_cons.mp hq
      have hStep : ∀ k, ((itemsOf key (row :: rest) k).map f).sum =
          (if k = key row then f row else 0) + ((itemsOf key rest k).map f).sum := by
        intro k
        by_cases hKey : key row = k
        · subst hKey
          rw [itemsOf_cons_self, List.map_cons, List.sum_cons, if_pos rfl]
        · rw [itemsOf_cons_of_ne hKey, if_neg (Ne.symm hKey), zero_add]
      have hOnce : (keys.map fun k => if k = key row then f row else 0).sum =
          if key row ∈ keys then f row else 0 := by
        rw [← List.sum_toFinset _ hNodup, Finset.sum_ite_eq']
        simp only [List.mem_toFinset]
      simp only [hStep]
      rw [List.sum_map_add, ih hRest, hOnce, List.filter_cons]
      by_cases hKey : key row ∈ keys
      · simp [hKey, hRow.mpr hKey]
      · simp [hKey, mt hRow.mp hKey]

/-- Rows counted group by group are the rows that belong to a group. -/
theorem sum_length_rows (key : ι → κ) {keys : List κ} (hNodup : keys.Nodup) {q : ι → Bool}
    (hq : ∀ row ∈ rows, (q row = true ↔ key row ∈ keys)) :
    (keys.map fun k => (itemsOf key rows k).length).sum = (rows.filter q).length := by
  have hSum := sum_itemsOf key hNodup (fun _ => 1) hq
  simpa using hSum

/-- The groups whose keys are asked for hold the rows whose keys are. -/
theorem sum_groupBy (arrangement : Arrangement κ) (key : ι → κ) (rows : List ι) (q : κ → Bool)
    (f : ι → M) :
    (((groupBy arrangement key rows).filter fun group => q group.1).map fun group =>
      (group.2.map f).sum).sum = ((rows.filter fun row => q (key row)).map f).sum := by
  have hPerm := arrangement.perm (rows.map key).dedup
  have hNodup : ((arrangement.order (rows.map key).dedup).filter q).Nodup :=
    (hPerm.nodup_iff.mpr (List.nodup_dedup _)).filter q
  have hKeys : ∀ row ∈ rows,
      (q (key row) = true ↔ key row ∈ (arrangement.order (rows.map key).dedup).filter q) := by
    intro row hRow
    have hMem : key row ∈ arrangement.order (rows.map key).dedup :=
      hPerm.mem_iff.mpr (List.mem_dedup.mpr (List.mem_map_of_mem hRow))
    rw [List.mem_filter, and_iff_right hMem]
  rw [groupBy, List.filter_map, List.map_map]
  exact sum_itemsOf key hNodup f hKeys

/-- The group of a key, empty where it has none. -/
theorem rowsOf?_groupBy (arrangement : Arrangement κ) (k : κ) :
    (rowsOf? (groupBy arrangement key rows) k).getD [] = itemsOf key rows k := by
  have hLookup : ∀ keys : List κ, ((keys.map fun k => (k, itemsOf key rows k)).lookup k).getD [] =
      if k ∈ keys then itemsOf key rows k else [] := by
    intro keys
    induction keys with
    | nil => rfl
    | cons first rest ih =>
        by_cases hFirst : k = first
        · simp [hFirst]
        · have hNot : (k == first) = false := beq_eq_false_iff_ne.mpr hFirst
          rw [List.map_cons, List.lookup_cons, hNot, ih]
          simp [hFirst]
  rw [rowsOf?, groupBy, hLookup]
  split_ifs with hMem
  · rfl
  · symm
    rw [itemsOf, List.filter_eq_nil_iff]
    intro row hRow hKey
    obtain rfl := of_decide_eq_true hKey
    exact hMem ((arrangement.perm _).mem_iff.mpr
      (List.mem_dedup.mpr (List.mem_map_of_mem hRow)))

end Groups
