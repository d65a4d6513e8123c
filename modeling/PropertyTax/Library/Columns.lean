import Mathlib.Data.List.Basic

/-! Rows seen through their columns. The changed ones of a list of columns, with
the values from before and after, are a patch: it redoes an edit and undoes it, as
far as the edit changes no column outside the list. -/
universe u v w

/-- Columns that can be read, and written with what was read from a row. -/
structure Columns (Row : Type u) (Column : Type v) (Value : Type w) [DecidableEq Column] where
  read : Row → Column → Value
  write : Column → Value → Row → Row
  read_write : ∀ source row f g,
    read (write f (read source f) row) g = if g = f then read source f else read row g

namespace Columns
variable {Row : Type u} {Column : Type v} {Value : Type w} [DecidableEq Column]
  (columns : Columns Row Column Value)

/-- Write the listed columns with the values of `source`. -/
def overwrite (listed : List Column) (source row : Row) : Row :=
  listed.foldl (fun row f => columns.write f (columns.read source f) row) row

variable {columns} {listed : List Column}

/-- An overwritten row has the listed columns of the one and the other columns of the other. -/
theorem read_overwrite (source row : Row) (g : Column) :
    columns.read (columns.overwrite listed source row) g =
      if g ∈ listed then columns.read source g else columns.read row g := by
  induction listed generalizing row with
  | nil => simp [overwrite]
  | cons f rest ih =>
      have hRest : columns.overwrite (f :: rest) source row =
        columns.overwrite rest source (columns.write f (columns.read source f) row) := rfl
      rw [hRest, ih, columns.read_write]
      by_cases hRest : g ∈ rest
      · simp [hRest]
      · by_cases hHead : g = f
        · simp [hHead]
        · simp [hRest, hHead]

/-- What no write touches, overwriting does not touch. -/
theorem overwrite_keeps {Kept : Type w} (kept : Row → Kept)
    (hWrite : ∀ f value row, kept (columns.write f value row) = kept row) (source row : Row) :
    kept (columns.overwrite listed source row) = kept row := by
  induction listed generalizing row with
  | nil => rfl
  | cons f rest ih => exact (ih _).trans (hWrite f _ row)

section Edits
variable [DecidableEq Value]

/-- The listed columns in which two rows differ. -/
def changed (columns : Columns Row Column Value) (listed : List Column) (before after : Row) : List Column :=
  listed.filter fun f => columns.read before f ≠ columns.read after f

/-- The changed columns are the listed ones that read differently. -/
theorem mem_changed {before after : Row} {f : Column} : f ∈ columns.changed listed before after ↔
    f ∈ listed ∧ columns.read before f ≠ columns.read after f := by
  simp [changed]

/-- The old values of a patch lead from `after` to `before` exactly when `before`
is `current` in the listed columns and `after` in the others. -/
theorem undo_iff {before current after : Row} :
    (∀ g, columns.read (columns.overwrite (columns.changed listed current after) current after) g =
      columns.read before g) ↔
    (∀ g ∈ listed, columns.read before g = columns.read current g) ∧
      ∀ g, g ∉ listed → columns.read before g = columns.read after g := by
  rw [← forall_and]
  refine forall_congr' fun g => ?_
  rw [read_overwrite]
  by_cases hListed : g ∈ listed
  · have hRead : (if g ∈ columns.changed listed current after then columns.read current g
        else columns.read after g) = columns.read current g := by
      split_ifs with hChanged
      · rfl
      · by_contra hDiffers
        exact hChanged (mem_changed.mpr ⟨hListed, fun hSame => hDiffers hSame.symm⟩)
    rw [hRead]
    exact ⟨fun h => ⟨fun _ => h.symm, fun hOut => absurd hListed hOut⟩, fun h => (h.1 hListed).symm⟩
  · rw [if_neg fun hChanged => hListed (mem_changed.mp hChanged).1]
    exact ⟨fun h => ⟨fun hIn => absurd hIn hListed, fun _ => h.symm⟩, fun h => (h.2 hListed).symm⟩

/-- What can be undone, the new values redo. -/
theorem redo_of_undo {before current after : Row}
    (hListed : ∀ g ∈ listed, columns.read before g = columns.read current g)
    (hOther : ∀ g, g ∉ listed → columns.read before g = columns.read after g) (g : Column) :
    columns.read (columns.overwrite (columns.changed listed current after) after before) g =
      columns.read after g := by
  rw [read_overwrite]
  split_ifs with hChanged
  · rfl
  · by_cases hIn : g ∈ listed
    · rw [hListed g hIn]
      by_contra hDiffers
      exact hChanged (mem_changed.mpr ⟨hIn, hDiffers⟩)
    · exact hOther g hIn

end Edits
end Columns
