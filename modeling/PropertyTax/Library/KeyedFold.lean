import Mathlib.Algebra.BigOperators.Group.Finset.Piecewise
import Mathlib.Algebra.BigOperators.Group.List.Basic
import Mathlib.Algebra.GroupWithZero.Nat

/-! Items folded into cells by key. Each item changes the cell of its key, so a cell
ends as the fold of its own items, in their order. -/
namespace KeyedFold
variable {ι κ β : Type*} [DecidableEq κ]

/-- The item changes the cell of its key. -/
def touch (key : ι → κ) (change : Option β → ι → β) (cells : κ → Option β) (item : ι) :
    κ → Option β :=
  Function.update cells (key item) (some (change (cells (key item)) item))

/-- The items of a key. -/
def itemsOf (key : ι → κ) (items : List ι) (k : κ) : List ι :=
  items.filter fun item => key item = k

variable {key : ι → κ} {change : Option β → ι → β} {items : List ι}

/-- The items of a key are those that have it. -/
theorem mem_itemsOf {item : ι} {k : κ} :
    item ∈ itemsOf key items k ↔ item ∈ items ∧ key item = k := by
  simp [itemsOf]

theorem itemsOf_cons_self (item : ι) (rest : List ι) :
    itemsOf key (item :: rest) (key item) = item :: itemsOf key rest (key item) :=
  List.filter_cons_of_pos (by simp)

theorem itemsOf_cons_of_ne {item : ι} {k : κ} (h : key item ≠ k) (rest : List ι) :
    itemsOf key (item :: rest) k = itemsOf key rest k :=
  List.filter_cons_of_neg (by simpa using h)

/-- The other items do not matter to a cell. -/
theorem foldl_touch_apply (cells : κ → Option β) (k : κ) :
    items.foldl (touch key change) cells k =
      (itemsOf key items k).foldl (fun cell item => some (change cell item)) (cells k) := by
  induction items generalizing cells with
  | nil => rfl
  | cons item rest ih =>
      rw [List.foldl_cons, ih]
      by_cases hKey : key item = k
      · subst hKey
        rw [itemsOf_cons_self, List.foldl_cons, touch, Function.update_self]
      · rw [itemsOf_cons_of_ne hKey, touch, Function.update_of_ne (Ne.symm hKey)]

/-- A cell that is there stays there. -/
theorem foldl_some (start : β) (items : List ι) :
    items.foldl (fun cell item => some (change cell item)) (some start) =
      some (items.foldl (fun value item => change (some value) item) start) := by
  induction items generalizing start with
  | nil => rfl
  | cons item rest ih => exact ih (change (some start) item)

/-- Every item has one key. -/
theorem sum_length_itemsOf {keys : List κ} (hNodup : keys.Nodup)
    (hKeys : ∀ item ∈ items, key item ∈ keys) :
    (keys.map fun k => (itemsOf key items k).length).sum = items.length := by
  induction items with
  | nil => simp [itemsOf]
  | cons item rest ih =>
      obtain ⟨hItem, hRest⟩ := List.forall_mem_cons.mp hKeys
      have hStep : ∀ k, (itemsOf key (item :: rest) k).length =
          (if k = key item then 1 else 0) + (itemsOf key rest k).length := by
        intro k
        by_cases hKey : key item = k
        · subst hKey
          rw [itemsOf_cons_self, List.length_cons, if_pos rfl, Nat.add_comm]
        · rw [itemsOf_cons_of_ne hKey, if_neg (Ne.symm hKey), Nat.zero_add]
      have hOnce : (keys.map fun k => if k = key item then 1 else 0).sum = 1 := by
        rw [← List.sum_toFinset _ hNodup, Finset.sum_ite_eq', if_pos (List.mem_toFinset.mpr hItem)]
      simp only [hStep]
      rw [List.sum_map_add, ih hRest, hOnce, List.length_cons, Nat.add_comm]

end KeyedFold
