import Mathlib.Data.List.Basic

/-! Groups of timed items, the newest first. A group is over before the next one begins, and not
sooner than a fixed width after one of its items; so a span of that width meets two at most. -/
namespace Spans

variable {α : Type*}

/-- The newer group begins after the older one, and a width after one of its items. -/
structure Follows (time : α → Nat) (width : Nat) (newer older : List α) : Prop where
  after : ∀ x ∈ older, ∀ y ∈ newer, time x < time y
  wide : ∃ x ∈ older, ∀ y ∈ newer, time x + width ≤ time y

/-- The item lies in the span. -/
def within (time : α → Nat) (width start : Nat) (x : α) : Bool :=
  decide (start ≤ time x ∧ time x ≤ start + width)

section Counting
variable {time : α → Nat} {width : Nat} {p : α → Bool} {bound : Nat}

theorem countP_and_le (start : Nat) (group : List α) :
    group.countP (fun x => p x && within time width start x) ≤ group.countP p :=
  List.countP_mono_left fun _ _ h => (Bool.and_eq_true_iff.mp h).1

/-- If one group is followed by another that the span meets, the groups before it are over. -/
theorem countP_older_eq_zero {start : Nat} {newest next : List α} {older : List (List α)}
    (hNext : Follows time width newest next)
    (hOlder : ∀ group ∈ older, Follows time width next group)
    {z : α} (hz : z ∈ newest) (hWithin : within time width start z = true) :
    older.flatten.countP (fun x => p x && within time width start x) = 0 := by
  obtain ⟨first, hFirst, hWide⟩ := hNext.wide
  have hEnd : time z ≤ start + width := (of_decide_eq_true hWithin).2
  have hBegin : time first ≤ start := by
    have hBetween := hWide z hz
    omega
  rw [List.countP_eq_zero]
  intro x hx hSelected
  obtain ⟨group, hGroup, hMem⟩ := List.mem_flatten.mp hx
  have hBefore := (hOlder group hGroup).after x hMem first hFirst
  have hLate := (of_decide_eq_true (Bool.and_eq_true_iff.mp hSelected).2).1
  omega

/-- Of what a group may hold, a span of the width meets at most twice as much. -/
theorem countP_flatten_le {groups : List (List α)} (hFollows : groups.Pairwise (Follows time width))
    (hBound : ∀ group ∈ groups, group.countP p ≤ bound) (start : Nat) :
    groups.flatten.countP (fun x => p x && within time width start x) ≤ 2 * bound := by
  induction groups with
  | nil => exact Nat.zero_le _
  | cons newest rest ih =>
      obtain ⟨hNewest, hRest⟩ := List.pairwise_cons.mp hFollows
      obtain ⟨hBoundNewest, hBoundRest⟩ := List.forall_mem_cons.mp hBound
      rw [List.flatten_cons, List.countP_append]
      by_cases hMeets : ∃ z ∈ newest, within time width start z = true
      · obtain ⟨z, hz, hWithin⟩ := hMeets
        have hOne (group : List α) (hGroup : group.countP p ≤ bound) :
            group.countP (fun x => p x && within time width start x) ≤ bound :=
          Nat.le_trans (countP_and_le start group) hGroup
        have hFirst := hOne newest hBoundNewest
        cases rest with
        | nil =>
            rw [List.flatten_nil, List.countP_nil]
            omega
        | cons next older =>
            have hSecond := hOne next (hBoundRest next List.mem_cons_self)
            rw [List.flatten_cons, List.countP_append, countP_older_eq_zero
              (hNewest next List.mem_cons_self) (List.pairwise_cons.mp hRest).1 hz hWithin]
            omega
      · have hNone : newest.countP (fun x => p x && within time width start x) = 0 := by
          rw [List.countP_eq_zero]
          exact fun z hz hSelected => hMeets ⟨z, hz, (Bool.and_eq_true_iff.mp hSelected).2⟩
        rw [hNone, Nat.zero_add]
        exact ih hRest hBoundRest

end Counting
end Spans
