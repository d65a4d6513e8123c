import Mathlib.Data.List.Basic

/-! A visitor of a server, who decides what to ask from the answers so far, and what
tells two states of the server apart. -/
namespace Visits

variable {State Request Answer : Type}

/-- The state of the server and the answers given after some requests. -/
def visit (serve : Request → State → State × Answer) (ask : List Answer → Request) (start : State) :
    Nat → State × List Answer
  | 0 => (start, [])
  | n + 1 =>
      let (state, answers) := visit serve ask start n
      let (after, answer) := serve (ask answers) state
      (after, answers ++ [answer])

section Visit
variable {serve : Request → State → State × Answer} {ask : List Answer → Request}
  {start other : State}

/-- The next answer is to what is asked after all the answers so far. -/
theorem visit_succ (n : Nat) :
    visit serve ask start (n + 1) =
      ((serve (ask (visit serve ask start n).2) (visit serve ask start n).1).1,
        (visit serve ask start n).2 ++
          [(serve (ask (visit serve ask start n).2) (visit serve ask start n).1).2]) := rfl

/-- A visit of n requests has n answers. -/
theorem length_answers (n : Nat) : (visit serve ask start n).2.length = n := by
  induction n with
  | zero => rfl
  | succ n ih => rw [visit_succ, List.length_append, ih, List.length_singleton]

/-- Equal answers were equal all along. -/
theorem answers_eq_of_succ {n : Nat}
    (h : (visit serve ask start (n + 1)).2 = (visit serve ask other (n + 1)).2) :
    (visit serve ask start n).2 = (visit serve ask other n).2 ∧
      (serve (ask (visit serve ask start n).2) (visit serve ask start n).1).2 =
        (serve (ask (visit serve ask other n).2) (visit serve ask other n).1).2 := by
  rw [visit_succ, visit_succ] at h
  have hLength : (visit serve ask start n).2.length = (visit serve ask other n).2.length := by
    rw [length_answers, length_answers]
  obtain ⟨hSeen, hLast⟩ := List.append_inj h hLength
  exact ⟨hSeen, List.singleton_inj.mp hLast⟩

/-- States that are alike are told apart exactly by a request that tells. -/
theorem answers_eq_iff {Alike : State → State → Prop} {Tells : Request → State → State → Prop}
    (hKept : ∀ request state state', Alike state state' → ¬ Tells request state state' →
      (serve request state).2 = (serve request state').2 ∧
        Alike (serve request state).1 (serve request state').1)
    (hTold : ∀ request state state', Alike state state' → Tells request state state' →
      (serve request state).2 ≠ (serve request state').2)
    (hStart : Alike start other) (n : Nat) :
    (visit serve ask start n).2 = (visit serve ask other n).2 ↔
      ∀ k < n, ¬ Tells (ask (visit serve ask start k).2) (visit serve ask start k).1
        (visit serve ask other k).1 := by
  have hBoth : ((visit serve ask start n).2 = (visit serve ask other n).2 →
        Alike (visit serve ask start n).1 (visit serve ask other n).1) ∧
      ((visit serve ask start n).2 = (visit serve ask other n).2 ↔
        ∀ k < n, ¬ Tells (ask (visit serve ask start k).2) (visit serve ask start k).1
          (visit serve ask other k).1) := by
    induction n with
    | zero => exact ⟨fun _ => hStart, by simp [visit]⟩
    | succ n ih =>
        obtain ⟨hAlike, hIff⟩ := ih
        constructor
        · intro h
          obtain ⟨hSeen, hLast⟩ := answers_eq_of_succ h
          rw [← hSeen] at hLast
          have hQuiet : ¬ Tells (ask (visit serve ask start n).2) (visit serve ask start n).1
              (visit serve ask other n).1 := fun hTells =>
            hTold _ _ _ (hAlike hSeen) hTells hLast
          rw [visit_succ, visit_succ, ← hSeen]
          exact (hKept _ _ _ (hAlike hSeen) hQuiet).2
        · constructor
          · intro h k hk
            obtain ⟨hSeen, hLast⟩ := answers_eq_of_succ h
            rw [← hSeen] at hLast
            rcases Nat.lt_succ_iff_lt_or_eq.mp hk with hEarlier | rfl
            · exact hIff.mp hSeen k hEarlier
            · exact fun hTells => hTold _ _ _ (hAlike hSeen) hTells hLast
          · intro h
            have hSeen := hIff.mpr fun k hk => h k (Nat.lt_succ_of_lt hk)
            have hAnswer := (hKept _ _ _ (hAlike hSeen) (h n (Nat.lt_succ_self n))).1
            rw [visit_succ, visit_succ, ← hSeen]
            exact congrArg (fun answer => (visit serve ask start n).2 ++ [answer]) hAnswer
  exact hBoth.2

end Visit

end Visits
