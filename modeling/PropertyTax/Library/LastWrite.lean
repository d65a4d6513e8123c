import Mathlib.Algebra.BigOperators.Fin
import Mathlib.Data.Fintype.BigOperators

/-! Cells written one after another. Every item writes its value into the cell
of its key, over whatever was there, so a cell shows the last value written and
the others are lost. -/
namespace LastWrite

variable {ι κ β : Type*} [DecidableEq κ]

section Items
variable (key : ι → κ) (value : ι → β)

def write (cells : κ → Option β) (item : ι) : κ → Option β :=
  Function.update cells (key item) (some (value item))

def writeAll (cells : κ → Option β) (items : List ι) : κ → Option β :=
  items.foldl (write key value) cells

/-- The items whose cell a later item writes again. -/
def overwritten : List ι → List ι
  | [] => []
  | item :: rest =>
      if rest.any fun later => decide (key later = key item) then item :: overwritten rest
      else overwritten rest

end Items

section Lookup
variable {key : ι → κ} {value : ι → β} {items : List ι}

/-- A key that no item has keeps its value. -/
theorem writeAll_of_forall_ne (cells : κ → Option β) {k : κ} (h : ∀ item ∈ items, key item ≠ k) :
    writeAll key value cells items k = cells k := by
  induction items generalizing cells with
  | nil => rfl
  | cons item rest ih =>
      obtain ⟨hItem, hRest⟩ := List.forall_mem_cons.mp h
      change writeAll key value (write key value cells item) rest k = cells k
      rw [ih _ hRest, write, Function.update_of_ne (Ne.symm hItem)]

/-- A cell shows the value of its items, when they agree on it. -/
theorem writeAll_of_exists (cells : κ → Option β) {k : κ} {shown : β}
    (hSome : ∃ item ∈ items, key item = k)
    (hSame : ∀ item ∈ items, key item = k → value item = shown) :
    writeAll key value cells items k = some shown := by
  induction items generalizing cells with
  | nil => simp at hSome
  | cons item rest ih =>
      obtain ⟨hItem, hRest⟩ := List.forall_mem_cons.mp hSame
      change writeAll key value (write key value cells item) rest k = some shown
      by_cases hLater : ∃ later ∈ rest, key later = k
      · exact ih _ hLater hRest
      · have hKey : key item = k := by simpa [hLater] using hSome
        have hNone : ∀ later ∈ rest, key later ≠ k := fun later hMem h => hLater ⟨later, hMem, h⟩
        rw [writeAll_of_forall_ne _ hNone, write, hKey, Function.update_self, hItem hKey]

end Lookup

variable {key : ι → κ} {value : ι → β} [Fintype κ] [AddCommMonoid β]

/-- The cells that no item writes keep what they show. -/
def untouched (key : ι → κ) (cells : κ → Option β) (items : List ι) : β :=
  ∑ k, if items.any fun item => decide (key item = k) then 0 else (cells k).getD 0

theorem untouched_nil (cells : κ → Option β) :
    untouched key cells [] = ∑ k, (cells k).getD 0 := by
  simp [untouched]

/-- Of the cells an item and its successors leave alone, its own is none. -/
theorem untouched_write (cells : κ → Option β) (item : ι) (rest : List ι) :
    untouched key (write key value cells item) rest =
      untouched key cells (item :: rest) +
        if rest.any fun later => decide (key later = key item) then 0 else value item := by
  have hOwn : (if rest.any fun later => decide (key later = key item) then 0 else value item) =
      ∑ k, if k = key item then
        (if rest.any fun later => decide (key later = k) then 0 else value item) else 0 := by
    rw [Finset.sum_ite_eq' Finset.univ (key item), if_pos (Finset.mem_univ _)]
  rw [hOwn, untouched, untouched, ← Finset.sum_add_distrib]
  apply Finset.sum_congr rfl
  intro k _
  by_cases hKey : k = key item
  · subst hKey
    simp [write]
  · have hOther : ¬ key item = k := fun h => hKey h.symm
    simp [write, hKey, hOther]

variable (key value) in
/-- What is shown and what was overwritten together are all that was written. -/
theorem sum_writeAll (cells : κ → Option β) (items : List ι) :
    ∑ k, (writeAll key value cells items k).getD 0 + ((overwritten key items).map value).sum =
      untouched key cells items + (items.map value).sum := by
  induction items generalizing cells with
  | nil => simp [writeAll, overwritten, untouched_nil]
  | cons item rest ih =>
      have hRest := ih (write key value cells item)
      rw [untouched_write] at hRest
      change ∑ k, (writeAll key value (write key value cells item) rest k).getD 0 + _ = _
      rw [List.map_cons, List.sum_cons, overwritten]
      split_ifs at hRest ⊢ with hLater
      · rw [add_zero] at hRest
        rw [List.map_cons, List.sum_cons, add_left_comm, hRest, add_left_comm]
      · rw [hRest, add_assoc]

end LastWrite
