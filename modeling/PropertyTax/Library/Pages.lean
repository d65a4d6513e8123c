import Mathlib.Data.List.Basic
import Mathlib.Data.List.Nodup
import Mathlib.Data.List.TakeDrop
import Mathlib.Data.List.TakeWhile
import PropertyTax.Library.KeyedTable

/-! Pages of a sorted table. Each page is read by a query of its own, and between two
queries the store may keep its rows in another order: rows that the sort does not tell
apart may then change places. -/
namespace Pages

variable {α : Type}

/-- A comparison that puts any rows in order, with ties. -/
structure Ranks (le : α → α → Bool) : Prop where
  trans : ∀ a b c, le a b = true → le b c = true → le a c = true
  total : ∀ a b, (le a b || le b a) = true

/-- `ORDER BY … LIMIT size OFFSET k * size` -/
def page (le : α → α → Bool) (size k : Nat) (rows : List α) : List α :=
  ((rows.mergeSort le).drop (k * size)).take size

/-- The first `n` pages, each of them read while the rows stand in an order of its own. -/
def turn (le : α → α → Bool) (size : Nat) (arranged : Nat → List α) (n : Nat) : List α :=
  (List.range n).flatMap fun k => page le size k (arranged k)

/-- Whoever turns all the pages sees every row once. -/
def ShowsAllOnce (le : α → α → Bool) (size : Nat) (rows : List α) : Prop :=
  ∀ (arranged : Nat → List α) (n : Nat), (∀ k, (arranged k).Perm rows) → rows.length ≤ n * size →
    (turn le size arranged n).Perm rows

/-- No two rows are alike to the sort. -/
def Apart (le : α → α → Bool) (rows : List α) : Prop :=
  ∀ a ∈ rows, ∀ b ∈ rows, le a b = true → le b a = true → a = b

/-- Page after page, the rows are read from the front. -/
theorem flatMap_drop_take (size n : Nat) (rows : List α) :
    ((List.range n).flatMap fun k => (rows.drop (k * size)).take size) = rows.take (n * size) := by
  induction n with
  | zero => rw [Nat.zero_mul]; rfl
  | succ n ih =>
      rw [List.range_succ, List.flatMap_append, ih, List.flatMap_singleton, Nat.succ_mul,
        List.take_add]

section Sorted
variable {le : α → α → Bool} (hRanks : Ranks le)
include hRanks

/-- Rows that the sort tells apart have one order. -/
theorem mergeSort_eq_of_perm {rows rows' : List α} (hApart : Apart le rows)
    (h : rows'.Perm rows) : rows'.mergeSort le = rows.mergeSort le := by
  have hSorted := List.pairwise_mergeSort hRanks.trans hRanks.total rows
  have hSorted' := List.pairwise_mergeSort hRanks.trans hRanks.total rows'
  refine List.Perm.eq_of_pairwise (fun a b ha hb => ?_) hSorted' hSorted
    ((List.mergeSort_perm _ _).trans (h.trans (List.mergeSort_perm _ _).symm))
  exact hApart a (h.subset (List.mem_mergeSort.mp ha)) b (List.mem_mergeSort.mp hb)

/-- When rows are told apart, a turn of pages is the front of the sorted list. -/
theorem turn_eq {rows : List α} (hApart : Apart le rows) {arranged : Nat → List α}
    (hArranged : ∀ k, (arranged k).Perm rows) (size n : Nat) :
    turn le size arranged n = (rows.mergeSort le).take (n * size) := by
  have hPages : ∀ k, page le size k (arranged k) =
      ((rows.mergeSort le).drop (k * size)).take size := fun k => by
    rw [page, mergeSort_eq_of_perm hRanks hApart (hArranged k)]
  simp only [turn, hPages, flatMap_drop_take]

/-- When rows are told apart, the pages show all of them, each once. -/
theorem showsAllOnce_of_apart {rows : List α} (hApart : Apart le rows) (size : Nat) :
    ShowsAllOnce le size rows := by
  intro arranged n hArranged hAll
  rw [turn_eq hRanks hApart hArranged, List.take_of_length_le (by rwa [List.length_mergeSort])]
  exact List.mergeSort_perm _ _

/-! ### Two rows that tie -/

/-- A row comes right before the first row that does not precede it. -/
theorem mergeSort_cons_eq (a : α) (rows : List α) :
    (a :: rows).mergeSort le =
      ((rows.mergeSort le).takeWhile fun b => !le a b) ++
        a :: ((rows.mergeSort le).dropWhile fun b => !le a b) := by
  obtain ⟨front, back, hSort, hRest, hFront⟩ :=
    List.mergeSort_cons hRanks.trans hRanks.total a rows
  have hSorted := List.pairwise_mergeSort hRanks.trans hRanks.total (a :: rows)
  rw [hSort] at hSorted
  have hBack : ∀ b ∈ back, le a b = true := fun b hb =>
    List.rel_of_pairwise_cons (List.pairwise_append.mp hSorted).2.1 hb
  have hTake : (back.takeWhile fun b => !le a b) = [] := by
    cases back with
    | nil => rfl
    | cons b rest =>
        exact List.takeWhile_cons_of_neg (by simp [hBack b List.mem_cons_self])
  have hDrop : (back.dropWhile fun b => !le a b) = back := by
    cases back with
    | nil => rfl
    | cons b rest =>
        exact List.dropWhile_cons_of_neg (by simp [hBack b List.mem_cons_self])
  rw [hSort, hRest, List.takeWhile_append_of_pos hFront, List.dropWhile_append_of_pos hFront,
    hTake, hDrop, List.append_nil]

/-- The same rows precede two rows that tie. -/
theorem precedes_tied {a b : α} (hab : le a b = true) (hba : le b a = true) :
    (fun c => !le b c) = fun c => !le a c := by
  funext c
  have hIff : le b c = true ↔ le a c = true :=
    ⟨hRanks.trans a b c hab, hRanks.trans b a c hba⟩
  rw [Bool.eq_iff_iff.mpr hIff]

/-- Of two rows that tie, the one that is stored first comes first. -/
theorem mergeSort_tied {a b : α} (hab : le a b = true) (hba : le b a = true) (rows : List α) :
    (a :: b :: rows).mergeSort le =
      ((rows.mergeSort le).takeWhile fun c => !le a c) ++
        a :: b :: ((rows.mergeSort le).dropWhile fun c => !le a c) := by
  have hFront : ∀ c ∈ (rows.mergeSort le).takeWhile fun c => !le a c, (!le a c) = true :=
    fun c hc => List.mem_takeWhile_imp (p := fun c => !le a c) hc
  rw [mergeSort_cons_eq hRanks a, mergeSort_cons_eq hRanks b, precedes_tied hRanks hab hba,
    List.takeWhile_append_of_pos hFront, List.dropWhile_append_of_pos hFront,
    List.takeWhile_cons_of_neg (by simp [hab]), List.dropWhile_cons_of_neg (by simp [hab]),
    List.append_nil]

/-- Pages of one row show every row once exactly when no two rows tie. -/
theorem showsAllOnce_one_iff {rows : List α} (hNodup : rows.Nodup) :
    ShowsAllOnce le 1 rows ↔ Apart le rows := by
  classical
  refine ⟨fun hShows a ha b hb hab hba => ?_, fun hApart => showsAllOnce_of_apart hRanks hApart 1⟩
  by_contra hNe
  obtain ⟨rest, hRest⟩ : ∃ rest, (a :: b :: rest).Perm rows := by
    have hRows := List.perm_cons_erase ha
    have hb' : b ∈ rows.erase a := (List.mem_erase_of_ne (Ne.symm hNe)).mpr hb
    exact ⟨(rows.erase a).erase b, ((List.perm_cons_erase hb').cons a).symm.trans hRows.symm⟩
  have hSwapped : (b :: a :: rest).Perm rows := (List.Perm.swap a b rest).trans hRest
  have hSort := mergeSort_tied hRanks hab hba rest
  have hSort' := mergeSort_tied hRanks hba hab rest
  rw [precedes_tied hRanks hab hba] at hSort'
  generalize ((rest.mergeSort le).takeWhile fun c => !le a c) = front at hSort hSort'
  generalize ((rest.mergeSort le).dropWhile fun c => !le a c) = back at hSort hSort'
  -- The rows change places after the page that shows the first of the two.
  let arranged : Nat → List α := fun k =>
    if k ≤ front.length then a :: b :: rest else b :: a :: rest
  have hTurned := hShows arranged rows.length
    (fun k => by dsimp only [arranged]; split_ifs <;> assumption) (Nat.mul_one _).ge
  have hLength : front.length + 1 < rows.length := by
    rw [← hRest.length_eq, ← @List.length_mergeSort _ le (a :: b :: rest), hSort]
    simp only [List.length_append, List.length_cons]
    omega
  have hBefore : arranged front.length = a :: b :: rest := if_pos le_rfl
  have hAfter : arranged (front.length + 1) = b :: a :: rest := if_neg (by omega)
  have hFirst : page le 1 front.length (arranged front.length) = [a] := by
    simp [page, hBefore, hSort]
  have hSecond : page le 1 (front.length + 1) (arranged (front.length + 1)) = [a] := by
    have hPast : front.drop (front.length + 1) = [] := List.drop_eq_nil_of_le (Nat.le_succ _)
    simp [page, hAfter, hSort', List.drop_append, hPast]
  have hApart := (List.nodup_flatMap.mp (hTurned.nodup_iff.mpr hNodup)).2
  have hDisjoint := List.pairwise_iff_getElem.mp hApart front.length (front.length + 1)
    (by simp only [List.length_range]; omega) (by rwa [List.length_range]) (Nat.lt_succ_self _)
  simp only [Function.onFun, List.getElem_range, hFirst, hSecond] at hDisjoint
  exact hDisjoint (List.mem_singleton_self a) (List.mem_singleton_self a)

end Sorted

/-! ### Pages of a table -/

section Tables
open KeyedTable
universe v
variable {κ : Type v} [KeyedRow α κ] {le : α → α → Bool}

/-- The first `n` pages of the rows that meet a condition, each read from the table as it
is then kept. -/
def turnTable (le : α → α → Bool) (p : α → Bool) (size : Nat) (tables : Nat → KeyedTable α)
    (n : Nat) : List α :=
  turn le size (fun k => (tables k).rows.filter p) n

/-- The pages of a table show every row of a search once, whatever order the rows are
kept in while they are turned. -/
def TurnsComplete (le : α → α → Bool) (p : α → Bool) (size : Nat) (table : KeyedTable α) : Prop :=
  ∀ (tables : Nat → KeyedTable α) (n : Nat), (∀ k, (tables k).rows.Perm table.rows) →
    (table.rows.filter p).length ≤ n * size →
      (turnTable le p size tables n).Perm (table.rows.filter p)

/-- The rows of a search may stand in any order in the table. -/
theorem exists_arranged {table : KeyedTable α} {p : α → Bool} {rows : List α}
    (h : rows.Perm (table.rows.filter p)) :
    ∃ arranged : KeyedTable α, arranged.rows.Perm table.rows ∧ arranged.rows.filter p = rows := by
  have hPerm : (rows ++ table.rows.filter fun r => !p r).Perm table.rows :=
    (h.append_right _).trans (List.filter_append_perm p table.rows)
  have hSymm : Std.Symm fun q r : α => KeyedRow.clash q r = false :=
    ⟨fun q r hApart => by rw [KeyedRow.clash_symm]; exact hApart⟩
  have hMeets : rows.filter p = rows := List.filter_eq_self.mpr fun r hr =>
    (List.mem_filter.mp (h.subset hr)).2
  have hOthers : (table.rows.filter fun r => !p r).filter p = [] := by
    rw [List.filter_filter]
    exact List.filter_eq_nil_iff.mpr fun r _ => by simp
  refine ⟨⟨_, (hPerm.pairwise_iff fun h => hSymm.symm _ _ h).mpr table.apart⟩, hPerm, ?_⟩
  rw [List.filter_append, hMeets, hOthers, List.append_nil]

/-- Pages of every size are complete exactly when the sort tells the rows apart. -/
theorem turnsComplete_iff (hRanks : Ranks le) (table : KeyedTable α) (p : α → Bool) :
    (∀ size, 0 < size → TurnsComplete le p size table) ↔ Apart le (table.rows.filter p) := by
  constructor
  · intro hComplete
    refine (showsAllOnce_one_iff hRanks ((nodup_rows table).filter p)).mp
      fun arranged n hArranged hAll => ?_
    have hTables : ∀ k, ∃ kept : KeyedTable α,
        kept.rows.Perm table.rows ∧ kept.rows.filter p = arranged k :=
      fun k => exists_arranged (hArranged k)
    choose tables hKept hRows using hTables
    have hTurned := hComplete 1 Nat.one_pos tables n hKept hAll
    rwa [turnTable, funext hRows] at hTurned
  · intro hApart size _ tables n hKept hAll
    exact showsAllOnce_of_apart hRanks hApart size _ n (fun k => (hKept k).filter p) hAll

end Tables

end Pages
