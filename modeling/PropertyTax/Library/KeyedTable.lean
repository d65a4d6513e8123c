import Mathlib.Algebra.Order.BigOperators.Group.List
import Mathlib.Algebra.Order.Group.Int
import Mathlib.Data.List.Find
import Mathlib.Data.List.Pairwise
import Mathlib.Tactic.Ring

/-! Tables whose rows have a primary key and unique columns. The constraint is
a field of the table, so no operation can build a table that violates it: an
insertion or an update that would clash is refused and returns no table. -/
universe u v

/-- Two rows clash when they cannot be stored together: they share the primary
key, or a value of some other unique column. -/
class KeyedRow (ρ : Type u) (κ : outParam (Type v)) where
  key : ρ → κ
  clash : ρ → ρ → Bool
  clash_symm : ∀ p q, clash p q = clash q p
  clash_of_key : ∀ p q, key p = key q → clash p q = true

/-- Why a write is refused. -/
inductive Refusal where
  | uniqueViolation
  | recordNotFound
deriving DecidableEq, Repr

structure KeyedTable (ρ : Type u) {κ : Type v} [KeyedRow ρ κ] where
  rows : List ρ
  apart : rows.Pairwise fun p q => KeyedRow.clash p q = false

namespace KeyedTable
open KeyedRow
variable {ρ : Type u} {κ : Type v} [KeyedRow ρ κ] [DecidableEq κ]

def empty : KeyedTable ρ := ⟨[], List.Pairwise.nil⟩

def find? (table : KeyedTable ρ) (k : κ) : Option ρ := table.rows.find? fun r => key r = k

def findFirst? (table : KeyedTable ρ) (p : ρ → Bool) : Option ρ := table.rows.find? p

/-- Add a row, unless it clashes with a stored one. -/
def insert (table : KeyedTable ρ) (row : ρ) : Except Refusal (KeyedTable ρ) :=
  if h : (table.rows ++ [row]).Pairwise fun p q => clash p q = false then
    .ok ⟨table.rows ++ [row], h⟩
  else .error .uniqueViolation

/-- Rewrite the row with a given key, unless the new row clashes. -/
def update (table : KeyedTable ρ) (k : κ) (f : ρ → ρ) : Except Refusal (KeyedTable ρ) :=
  if (table.find? k).isNone then .error .recordNotFound
  else if h : (table.rows.map fun r => if key r = k then f r else r).Pairwise
      fun p q => clash p q = false then .ok ⟨_, h⟩
  else .error .uniqueViolation

/-- The rows that meet a condition, in their order. -/
def restrict (table : KeyedTable ρ) (p : ρ → Bool) : KeyedTable ρ :=
  ⟨table.rows.filter p, table.apart.filter p⟩

/-- Rewrite every row, where that makes no two rows clash that did not. -/
def mapRows (table : KeyedTable ρ) (f : ρ → ρ) (h : ∀ p q, clash (f p) (f q) = clash p q) :
    KeyedTable ρ :=
  ⟨table.rows.map f, List.pairwise_map.mpr (table.apart.imp fun hApart => (h _ _).trans hApart)⟩

/-- Sum of a column over the rows that meet a condition. -/
def sumWhere (table : KeyedTable ρ) (p : ρ → Bool) (g : ρ → ℤ) : ℤ :=
  ((table.rows.filter p).map g).sum

omit [DecidableEq κ] in
/-- Two rows that clash are one. -/
theorem eq_of_clash {table : KeyedTable ρ} {p q : ρ} (hp : p ∈ table.rows)
    (hq : q ∈ table.rows) (h : clash p q = true) : p = q := by
  by_contra hne
  have hSymm : Std.Symm fun a b : ρ => clash a b = false :=
    ⟨fun a b hab => by rw [clash_symm]; exact hab⟩
  have hApart := table.apart.forall hp hq hne
  rw [h] at hApart
  cases hApart

omit [DecidableEq κ] in
theorem eq_of_key {table : KeyedTable ρ} {p q : ρ} (hp : p ∈ table.rows)
    (hq : q ∈ table.rows) (h : key p = key q) : p = q :=
  eq_of_clash hp hq (clash_of_key p q h)

/-- A key finds the row that has it. -/
theorem find?_eq_some_iff {table : KeyedTable ρ} {k : κ} {r : ρ} :
    table.find? k = some r ↔ r ∈ table.rows ∧ key r = k := by
  constructor
  · intro h
    exact ⟨List.mem_of_find?_eq_some h, by simpa using List.find?_some h⟩
  · rintro ⟨hMem, hKey⟩
    cases hFound : table.find? k with
    | none =>
        have hNone := List.find?_eq_none.mp hFound r hMem
        simp [hKey] at hNone
    | some q =>
        have hq : q ∈ table.rows := List.mem_of_find?_eq_some hFound
        have hqKey : key q = k := by simpa using List.find?_some hFound
        rw [eq_of_key hq hMem (hqKey.trans hKey.symm)]

/-- A key finds nothing when no row has it. -/
theorem find?_eq_none_iff {table : KeyedTable ρ} {k : κ} :
    table.find? k = none ↔ ∀ r ∈ table.rows, key r ≠ k := by
  simp [find?, List.find?_eq_none]

omit [DecidableEq κ] in
/-- No row stands twice in a table. -/
theorem nodup_rows (table : KeyedTable ρ) : table.rows.Nodup := by
  refine table.apart.imp fun {p q} hApart hSame => ?_
  rw [hSame, clash_of_key q q rfl] at hApart
  cases hApart

/-- Tables that answer every key alike hold the same rows. -/
theorem perm_of_find? {table table' : KeyedTable ρ} (h : ∀ k, table'.find? k = table.find? k) :
    table'.rows.Perm table.rows := by
  refine (List.perm_ext_iff_of_nodup table'.nodup_rows table.nodup_rows).mpr fun r => ?_
  have hIff : ∀ t : KeyedTable ρ, r ∈ t.rows ↔ t.find? (key r) = some r := fun t =>
    ⟨fun hr => find?_eq_some_iff.mpr ⟨hr, rfl⟩, fun hr => (find?_eq_some_iff.mp hr).1⟩
  rw [hIff, hIff, h]

/-- A map of the rows that keeps their keys maps what is found. -/
theorem find?_of_rows_map {table table' : KeyedTable ρ} {f : ρ → ρ} (hKey : ∀ r, key (f r) = key r)
    (h : table'.rows = table.rows.map f) (k : κ) : table'.find? k = (table.find? k).map f := by
  unfold find?
  rw [h, List.find?_map]
  simp [hKey]

omit [DecidableEq κ] in
/-- A search by a condition that clashing rows alone can share finds the only
row that meets it. -/
theorem findFirst?_eq_some_of_mem {table : KeyedTable ρ} {p : ρ → Bool} {r : ρ}
    (hMem : r ∈ table.rows) (hr : p r = true)
    (hUnique : ∀ q ∈ table.rows, p q = true → q = r) : table.findFirst? p = some r := by
  cases hFound : table.findFirst? p with
  | none =>
      have hNone := List.find?_eq_none.mp hFound r hMem
      exact absurd hr hNone
  | some q =>
      rw [hUnique q (List.mem_of_find?_eq_some hFound) (by simpa using List.find?_some hFound)]

omit [DecidableEq κ] in
/-- A search among some of the rows finds what the search among all finds, if
these are the rows it can find. -/
theorem findFirst?_restrict {table : KeyedTable ρ} {p q : ρ → Bool}
    (h : ∀ r ∈ table.rows, q r = true → p r = true) :
    (table.restrict p).findFirst? q = table.findFirst? q := by
  change (table.rows.filter p).find? q = table.rows.find? q
  rw [List.find?_filter]
  refine List.find?_congr fun r hr => ?_
  cases hq : q r with
  | false => simp
  | true => simp [h r hr hq]

section Insert
omit [DecidableEq κ]
variable {table table' : KeyedTable ρ} {row : ρ}

/-- An inserted row comes last. -/
theorem insert_rows (h : table.insert row = .ok table') : table'.rows = table.rows ++ [row] := by
  unfold insert at h
  split_ifs at h
  cases h
  rfl

/-- A row is inserted unless a stored row clashes with it. -/
theorem insert_isOk_iff :
    (∃ table', table.insert row = .ok table') ↔ ∀ r ∈ table.rows, clash r row = false := by
  unfold insert
  split_ifs with hApart
  · simpa [List.pairwise_append] using (List.pairwise_append.mp hApart).2.2
  · simp only [exists_false, false_iff]
    intro hFree
    exact hApart (List.pairwise_append.mpr ⟨table.apart, by simp, by simpa using hFree⟩)

/-- A row that clashes with a stored one is refused. -/
theorem insert_refused {r : ρ} (hr : r ∈ table.rows) (hClash : clash r row = true) :
    table.insert row = .error .uniqueViolation := by
  cases hInsert : table.insert row with
  | error refusal =>
      unfold insert at hInsert
      split_ifs at hInsert
      cases hInsert
      rfl
  | ok table' =>
      have hFree := insert_isOk_iff.mp ⟨table', hInsert⟩ r hr
      rw [hClash] at hFree
      cases hFree

/-- After an insertion, the rows are those before and the new one. -/
theorem mem_insert (h : table.insert row = .ok table') (r : ρ) :
    r ∈ table'.rows ↔ r ∈ table.rows ∨ r = row := by
  simp [insert_rows h]

/-- An inserted row adds its value to a sum it counts for. -/
theorem sumWhere_insert (h : table.insert row = .ok table') (p : ρ → Bool) (g : ρ → ℤ) :
    table'.sumWhere p g = table.sumWhere p g + if p row then g row else 0 := by
  unfold sumWhere
  rw [insert_rows h, List.filter_append, List.map_append, List.sum_append]
  cases hp : p row <;> simp [hp]

end Insert

section Update
variable {table table' : KeyedTable ρ} {k : κ} {f : ρ → ρ}

/-- An update rewrites the rows of its key. -/
theorem update_rows (h : table.update k f = .ok table') :
    table'.rows = table.rows.map fun r => if key r = k then f r else r := by
  unfold update at h
  split_ifs at h
  cases h
  rfl

/-- A successful update names a stored row. -/
theorem exists_of_update (h : table.update k f = .ok table') :
    ∃ r, r ∈ table.rows ∧ key r = k := by
  unfold update at h
  split_ifs at h with hNone
  obtain ⟨r, hr⟩ := Option.ne_none_iff_exists'.mp (by simpa using hNone)
  exact ⟨r, find?_eq_some_iff.mp hr⟩

/-- Rows after an update: the named row rewritten, every other row as it was. -/
theorem mem_update (h : table.update k f = .ok table') (r : ρ) :
    r ∈ table'.rows ↔ (r ∈ table.rows ∧ key r ≠ k) ∨ ∃ q ∈ table.rows, key q = k ∧ f q = r := by
  rw [update_rows h, List.mem_map]
  constructor
  · rintro ⟨q, hq, rfl⟩
    by_cases hKey : key q = k
    · exact Or.inr ⟨q, hq, hKey, by simp [hKey]⟩
    · exact Or.inl ⟨by simpa [hKey] using hq, by simp [hKey]⟩
  · rintro (⟨hr, hKey⟩ | ⟨q, hq, hKey, rfl⟩)
    · exact ⟨r, hr, by simp [hKey]⟩
    · exact ⟨q, hq, by simp [hKey]⟩

/-- An update replaces, in a sum, the value of one row by that of its new content. -/
private theorem sum_filter_map_update (rows : List ρ) (p : ρ → Bool) (g : ρ → ℤ)
    (hUnique : rows.Pairwise fun a b => clash a b = false) {r : ρ} (hr : r ∈ rows)
    (hKey : key r = k) :
    (((rows.map fun q => if key q = k then f q else q).filter p).map g).sum =
      ((rows.filter p).map g).sum - (if p r then g r else 0) +
        (if p (f r) then g (f r) else 0) := by
  induction rows with
  | nil => simp at hr
  | cons head tail ih =>
      obtain ⟨hHead, hTail⟩ := List.pairwise_cons.mp hUnique
      by_cases hEq : key head = k
      · -- The key is unique, so this is the row itself and the tail is untouched.
        have hSame : r = head := by
          rcases List.mem_cons.mp hr with rfl | hMem
          · rfl
          · have hClash := clash_of_key head r (hEq.trans hKey.symm)
            rw [hHead r hMem] at hClash
            cases hClash
        have hMap : (tail.map fun q => if key q = k then f q else q) = tail := by
          conv_rhs => rw [← List.map_id tail]
          refine List.map_congr_left fun q hq => ?_
          have hne : key q ≠ k := fun hqk => by
            have hClash := clash_of_key head q (hEq.trans hqk.symm)
            rw [hHead q hq] at hClash
            cases hClash
          simp [hne]
        subst hSame
        simp only [List.map_cons, hEq, ↓reduceIte, hMap, List.filter_cons]
        cases p r <;> cases p (f r) <;> simp <;> ring
      · have hMem : r ∈ tail := by
          rcases List.mem_cons.mp hr with rfl | hMem
          · exact absurd hKey hEq
          · exact hMem
        simp only [List.map_cons, hEq, ↓reduceIte, List.filter_cons]
        cases p head
        · simpa using ih hTail hMem
        · simp only [↓reduceIte, List.map_cons, List.sum_cons, ih hTail hMem]
          ring

/-- Updating one row moves a sum by the new contribution less the old one. -/
theorem sumWhere_update (h : table.update k f = .ok table') {r : ρ} (hr : r ∈ table.rows)
    (hKey : key r = k) (p : ρ → Bool) (g : ρ → ℤ) :
    table'.sumWhere p g = table.sumWhere p g - (if p r then g r else 0) +
      (if p (f r) then g (f r) else 0) := by
  unfold sumWhere
  rw [update_rows h]
  exact sum_filter_map_update table.rows p g table.apart hr hKey

/-- An update that keeps every unique column of the row cannot clash. -/
theorem update_isOk {r : ρ} (hr : r ∈ table.rows) (hKey : key r = k)
    (hf : ∀ q ∈ table.rows, q ≠ r → clash q (f r) = false) :
    ∃ table', table.update k f = .ok table' := by
  have hSome : (table.find? k).isNone = false := by
    simp [find?_eq_some_iff.mpr ⟨hr, hKey⟩]
  have hOnly : ∀ q ∈ table.rows, key q = k → q = r := fun q hq hqk =>
    eq_of_key hq hr (hqk.trans hKey.symm)
  have hApart : (table.rows.map fun q => if key q = k then f q else q).Pairwise
      fun p q => clash p q = false := by
    rw [List.pairwise_map]
    refine List.Pairwise.imp_of_mem ?_ table.apart
    intro a b ha hb hab
    by_cases hak : key a = k <;> by_cases hbk : key b = k
    · have hClash := clash_of_key a b (hak.trans hbk.symm)
      rw [hab] at hClash
      cases hClash
    · obtain rfl := hOnly a ha hak
      simp only [hak, hbk, ↓reduceIte]
      rw [clash_symm]
      exact hf b hb fun h => hbk (h ▸ hak)
    · obtain rfl := hOnly b hb hbk
      simp only [hak, hbk, ↓reduceIte]
      exact hf a ha fun h => hak (h ▸ hbk)
    · simpa [hak, hbk] using hab
  exact ⟨⟨_, hApart⟩, by simp [update, hSome, hApart]⟩

/-- An update to what another row holds is refused. -/
theorem update_refused {r q : ρ} (hr : r ∈ table.rows) (hKey : key r = k) (hKept : key (f r) = k)
    (hq : q ∈ table.rows) (hOther : key q ≠ k) (hClash : clash q (f r) = true) :
    table.update k f = .error .uniqueViolation := by
  cases hUpdate : table.update k f with
  | error refusal =>
      unfold update at hUpdate
      split_ifs at hUpdate with hMissing hApart
      · rw [find?_eq_some_iff.mpr ⟨hr, hKey⟩] at hMissing
        cases hMissing
      · cases hUpdate
        rfl
  | ok table' =>
      have hNew : f r ∈ table'.rows := (mem_update hUpdate _).mpr (.inr ⟨r, hr, hKey, rfl⟩)
      have hOld : q ∈ table'.rows := (mem_update hUpdate _).mpr (.inl ⟨hq, hOther⟩)
      obtain rfl := eq_of_clash hOld hNew hClash
      exact absurd hKept hOther

end Update

section MapRows
variable {f : ρ → ρ}

omit [DecidableEq κ] in
/-- A map that keeps clashes keeps that no two rows clash. -/
theorem pairwise_map_iff (h : ∀ p q : ρ, clash (f p) (f q) = clash p q) (rows : List ρ) :
    (rows.map f).Pairwise (fun p q => clash p q = false) ↔
      rows.Pairwise fun p q => clash p q = false := by
  rw [List.pairwise_map]
  simp only [h]

variable (h : ∀ p q : ρ, clash (f p) (f q) = clash p q) (table : KeyedTable ρ)

omit [DecidableEq κ] in
/-- The first row is found before or after the rows are mapped. -/
theorem findFirst?_mapRows {p q : ρ → Bool} (hp : ∀ r, p (f r) = q r) :
    (table.mapRows f h).findFirst? p = (table.findFirst? q).map f := by
  have hComp : p ∘ f = q := funext hp
  change (table.rows.map f).find? p = _
  rw [List.find?_map, hComp]
  rfl

omit [DecidableEq κ] in
/-- A row is inserted before or after the rows are mapped. -/
theorem insert_mapRows (row : ρ) :
    (table.mapRows f h).insert (f row) = (table.insert row).map fun t => t.mapRows f h := by
  have hRows : (table.mapRows f h).rows ++ [f row] = (table.rows ++ [row]).map f := by
    rw [List.map_append]
    rfl
  unfold insert
  by_cases hApart : (table.rows ++ [row]).Pairwise fun p q => clash p q = false
  · simp only [hRows, (pairwise_map_iff h _).mpr hApart, hApart, dif_pos]
    rfl
  · simp only [hRows, pairwise_map_iff h, hApart, dif_neg, not_false_eq_true]
    rfl

/-- Rows are updated before or after they are mapped. -/
theorem update_mapRows (k : κ) {g g' : ρ → ρ} (hKey : ∀ r, key (f r) = key r)
    (hg : ∀ r, g' (f r) = f (g r)) :
    (table.mapRows f h).update k g' = (table.update k g).map fun t => t.mapRows f h := by
  have hFound : ((table.mapRows f h).find? k).isNone = (table.find? k).isNone := by
    rw [find?_of_rows_map hKey rfl, Option.isNone_map]
  have hRows : ((table.mapRows f h).rows.map fun r => if key r = k then g' r else r) =
      (table.rows.map fun r => if key r = k then g r else r).map f := by
    change (table.rows.map f).map _ = _
    rw [List.map_map, List.map_map]
    refine List.map_congr_left fun r _ => ?_
    simp only [Function.comp_apply, hKey, hg]
    split_ifs <;> rfl
  unfold update
  rw [hFound]
  by_cases hNone : (table.find? k).isNone = true
  · rw [if_pos hNone, if_pos hNone]
    rfl
  · rw [if_neg hNone, if_neg hNone]
    by_cases hApart : (table.rows.map fun r => if key r = k then g r else r).Pairwise
        fun p q => clash p q = false
    · simp only [hRows, (pairwise_map_iff h _).mpr hApart, hApart, dif_pos]
      rfl
    · simp only [hRows, pairwise_map_iff h, hApart, dif_neg, not_false_eq_true]
      rfl

end MapRows

/-! ### What a write did, without the function that computed it -/

/-- One row was added, and it clashed with none. -/
structure Added (table table' : KeyedTable ρ) (row : ρ) : Prop where
  fresh : ∀ r ∈ table.rows, clash r row = false
  mem_iff : ∀ r, r ∈ table'.rows ↔ r ∈ table.rows ∨ r = row
  sumWhere_eq : ∀ (p : ρ → Bool) (g : ρ → ℤ),
    table'.sumWhere p g = table.sumWhere p g + if p row then g row else 0

omit [DecidableEq κ] in
/-- An insertion adds a row. -/
theorem added_of_insert {table table' : KeyedTable ρ} {row : ρ}
    (h : table.insert row = .ok table') : Added table table' row where
  fresh := insert_isOk_iff.mp ⟨table', h⟩
  mem_iff := mem_insert h
  sumWhere_eq := sumWhere_insert h

/-- One row took the place of another with the same key. -/
structure Replaced (table table' : KeyedTable ρ) (old new : ρ) : Prop where
  mem_old : old ∈ table.rows
  key_eq : key new = key old
  mem_iff : ∀ r, r ∈ table'.rows ↔ (r ∈ table.rows ∧ key r ≠ key old) ∨ r = new
  sumWhere_eq : ∀ (p : ρ → Bool) (g : ρ → ℤ),
    table'.sumWhere p g = table.sumWhere p g - (if p old then g old else 0) +
      if p new then g new else 0

/-- An update of a stored row replaces it. -/
theorem replaced_of_update {table table' : KeyedTable ρ} {k : κ} {f : ρ → ρ} {r : ρ}
    (h : table.update k f = .ok table') (hr : r ∈ table.rows) (hKey : key r = k)
    (hf : key (f r) = key r) : Replaced table table' r (f r) where
  mem_old := hr
  key_eq := hf
  mem_iff q := by
    rw [mem_update h q, hKey]
    refine or_congr_right ⟨?_, ?_⟩
    · intro hUpdated
      obtain ⟨p, hp, hpKey, rfl⟩ := hUpdated
      rw [eq_of_key hp hr (hpKey.trans hKey.symm)]
    · intro hq
      exact ⟨r, hr, hKey, hq.symm⟩
  sumWhere_eq := sumWhere_update h hr hKey

namespace Added
omit [DecidableEq κ]
variable {table table' : KeyedTable ρ} {row : ρ}

/-- The added row is stored. -/
theorem mem_row (h : Added table table' row) : row ∈ table'.rows := (h.mem_iff row).mpr (.inr rfl)

theorem mem_of_mem (h : Added table table' row) {r : ρ} (hr : r ∈ table.rows) : r ∈ table'.rows :=
  (h.mem_iff r).mpr (.inl hr)

/-- No row had the key of the added one. -/
theorem key_ne (h : Added table table' row) {r : ρ} (hr : r ∈ table.rows) : key r ≠ key row := by
  intro hKey
  have hClash := clash_of_key r row hKey
  rw [h.fresh r hr] at hClash
  cases hClash

/-- What holds of the stored rows and of the new one holds of all. -/
theorem forall_rows (h : Added table table' row) {P : ρ → Prop}
    (hRows : ∀ r ∈ table.rows, P r) (hRow : P row) : ∀ r ∈ table'.rows, P r := by
  intro r hr
  rcases (h.mem_iff r).mp hr with hOld | rfl
  · exact hRows r hOld
  · exact hRow

end Added

/-- The added row is found under its key. -/
theorem Added.find?_new {table table' : KeyedTable ρ} {row : ρ} (h : Added table table' row) :
    table'.find? (key row) = some row := find?_eq_some_iff.mpr ⟨h.mem_row, rfl⟩

theorem Added.find?_of_ne {table table' : KeyedTable ρ} {row : ρ} (h : Added table table' row)
    {k : κ} (hne : k ≠ key row) : table'.find? k = table.find? k := by
  cases hFound : table.find? k with
  | none =>
      rw [find?_eq_none_iff] at hFound ⊢
      exact h.forall_rows hFound hne.symm
  | some r =>
      obtain ⟨hMem, hKey⟩ := find?_eq_some_iff.mp hFound
      exact find?_eq_some_iff.mpr ⟨h.mem_of_mem hMem, hKey⟩

namespace Replaced
variable {table table' : KeyedTable ρ} {old new : ρ}

omit [DecidableEq κ] in
/-- The new content is stored. -/
theorem mem_new (h : Replaced table table' old new) : new ∈ table'.rows :=
  (h.mem_iff new).mpr (.inr rfl)

omit [DecidableEq κ] in
theorem mem_of_ne (h : Replaced table table' old new) {r : ρ} (hr : r ∈ table.rows)
    (hKey : key r ≠ key old) : r ∈ table'.rows := (h.mem_iff r).mpr (.inl ⟨hr, hKey⟩)

omit [DecidableEq κ] in
theorem forall_rows (h : Replaced table table' old new) {P : ρ → Prop}
    (hRows : ∀ r ∈ table.rows, P r) (hNew : P new) : ∀ r ∈ table'.rows, P r := by
  intro r hr
  rcases (h.mem_iff r).mp hr with ⟨hOld, _⟩ | rfl
  · exact hRows r hOld
  · exact hNew

/-- Every stored row still has a row under its key: itself, or the new one. -/
theorem exists_row (h : Replaced table table' old new) {r : ρ} (hr : r ∈ table.rows) :
    r ∈ table'.rows ∨ r = old := by
  by_cases hKey : key r = key old
  · exact .inr (eq_of_key hr h.mem_old hKey)
  · exact .inl (h.mem_of_ne hr hKey)

/-- The new content is found under the key. -/
theorem find?_new (h : Replaced table table' old new) : table'.find? (key old) = some new :=
  find?_eq_some_iff.mpr ⟨h.mem_new, h.key_eq⟩

theorem find?_of_ne (h : Replaced table table' old new) {k : κ} (hne : k ≠ key old) :
    table'.find? k = table.find? k := by
  cases hFound : table.find? k with
  | none =>
      rw [find?_eq_none_iff] at hFound ⊢
      intro r hr
      rcases (h.mem_iff r).mp hr with ⟨hOld, _⟩ | rfl
      · exact hFound r hOld
      · rw [h.key_eq]
        exact hne.symm
  | some r =>
      obtain ⟨hMem, hKey⟩ := find?_eq_some_iff.mp hFound
      exact find?_eq_some_iff.mpr ⟨h.mem_of_ne hMem (by rwa [hKey]), hKey⟩

omit [DecidableEq κ] in
/-- A row that is rewritten twice is rewritten once, to what it is at last. -/
theorem trans {table'' : KeyedTable ρ} {last : ρ} (h : Replaced table table' old new)
    (h' : Replaced table' table'' new last) : Replaced table table'' old last where
  mem_old := h.mem_old
  key_eq := h'.key_eq.trans h.key_eq
  mem_iff r := by
    rw [h'.mem_iff, h.mem_iff, h.key_eq]
    constructor
    · rintro (⟨hRow | rfl, hKey⟩ | rfl)
      · exact .inl hRow
      · exact absurd h.key_eq hKey
      · exact .inr rfl
    · rintro (hRow | rfl)
      · exact .inl ⟨.inl hRow, hRow.2⟩
      · exact .inr rfl
  sumWhere_eq p g := by
    rw [h'.sumWhere_eq, h.sumWhere_eq]
    ring

omit [DecidableEq κ] in
/-- A row that is added and rewritten is added as it was rewritten. -/
theorem added_trans {table₀ : KeyedTable ρ} (hAdded : Added table₀ table old)
    (h : Replaced table table' old new) : Added table₀ table' new where
  fresh r hr := by
    by_contra hClash
    have hSame := eq_of_clash (h.mem_of_ne (hAdded.mem_of_mem hr) (hAdded.key_ne hr)) h.mem_new
      (by simpa using hClash)
    exact hAdded.key_ne hr (hSame ▸ h.key_eq)
  mem_iff r := by
    rw [h.mem_iff, hAdded.mem_iff]
    constructor
    · rintro (⟨hOld | rfl, hKey⟩ | rfl)
      · exact .inl hOld
      · exact absurd rfl hKey
      · exact .inr rfl
    · rintro (hr | rfl)
      · exact .inl ⟨.inl hr, hAdded.key_ne hr⟩
      · exact .inr rfl
  sumWhere_eq p g := by
    rw [h.sumWhere_eq, hAdded.sumWhere_eq]
    ring

end Replaced

omit [DecidableEq κ] in
theorem sumWhere_congr {table : KeyedTable ρ} {p : ρ → Bool} {f g : ρ → ℤ}
    (h : ∀ r ∈ table.rows, p r = true → f r = g r) : table.sumWhere p f = table.sumWhere p g := by
  refine congrArg List.sum (List.map_congr_left fun r hr => ?_)
  obtain ⟨hMem, hp⟩ := List.mem_filter.mp hr
  exact h r hMem hp

omit [DecidableEq κ] in
/-- A sum depends on which rows count. -/
theorem sumWhere_congr_pred {table : KeyedTable ρ} {p q : ρ → Bool} {g : ρ → ℤ}
    (h : ∀ r ∈ table.rows, p r = q r) : table.sumWhere p g = table.sumWhere q g := by
  rw [sumWhere, sumWhere, List.filter_congr h]

omit [DecidableEq κ] in
theorem sumWhere_eq_zero {table : KeyedTable ρ} {p : ρ → Bool} {g : ρ → ℤ}
    (h : ∀ r ∈ table.rows, p r = true → g r = 0) : table.sumWhere p g = 0 := by
  refine List.sum_eq_zero fun x hx => ?_
  obtain ⟨r, hr, rfl⟩ := List.mem_map.mp hx
  obtain ⟨hMem, hp⟩ := List.mem_filter.mp hr
  exact h r hMem hp

omit [DecidableEq κ] in
theorem sumWhere_nonneg {table : KeyedTable ρ} {p : ρ → Bool} {g : ρ → ℤ}
    (h : ∀ r ∈ table.rows, p r = true → 0 ≤ g r) : 0 ≤ table.sumWhere p g := by
  refine List.sum_nonneg fun x hx => ?_
  obtain ⟨r, hr, rfl⟩ := List.mem_map.mp hx
  obtain ⟨hMem, hp⟩ := List.mem_filter.mp hr
  exact h r hMem hp

/-! ### Rows that stay -/

/-- Every row is still there, changed by `R` at most. -/
def Evolves (R : ρ → ρ → Prop) (table table' : KeyedTable ρ) : Prop :=
  ∀ r ∈ table.rows, ∃ r' ∈ table'.rows, R r r'

namespace Evolves
variable {R : ρ → ρ → Prop} {table table' table'' : KeyedTable ρ}

omit [DecidableEq κ] in
theorem refl (hR : ∀ r, R r r) (table : KeyedTable ρ) : Evolves R table table :=
  fun r hr => ⟨r, hr, hR r⟩

omit [DecidableEq κ] in
theorem mono {R' : ρ → ρ → Prop} (h : Evolves R table table') (hR : ∀ r r', R r r' → R' r r') :
    Evolves R' table table' := by
  intro r hr
  obtain ⟨r', hr', hRel⟩ := h r hr
  exact ⟨r', hr', hR r r' hRel⟩

omit [DecidableEq κ] in
/-- A table goes on evolving when a row is added. -/
theorem added {row : ρ} (h : Evolves R table table') (hAdded : Added table' table'' row) :
    Evolves R table table'' := by
  intro r hr
  obtain ⟨r', hr', hRel⟩ := h r hr
  exact ⟨r', hAdded.mem_of_mem hr', hRel⟩

/-- A table goes on evolving when a row is replaced by a related one. -/
theorem replaced {old new : ρ} (h : Evolves R table table')
    (hReplaced : Replaced table' table'' old new) (hR : ∀ r, R r old → R r new) :
    Evolves R table table'' := by
  intro r hr
  obtain ⟨r', hr', hRel⟩ := h r hr
  rcases hReplaced.exists_row hr' with hKept | rfl
  · exact ⟨r', hKept, hRel⟩
  · exact ⟨new, hReplaced.mem_new, hR r hRel⟩

end Evolves

end KeyedTable
