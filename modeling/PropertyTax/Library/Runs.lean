import Mathlib.Logic.Function.Basic
import Mathlib.Data.List.Basic
import Mathlib.Logic.Relation

/-! Runs of a transition function, and interleavings of processes that share
one state. A schedule is a list, so every finite order of steps is covered by
a quantifier over lists, and an invariant is proved once, by induction. -/
namespace Runs
universe u v w

section Sequential
variable {State : Type u} {Action : Type v} (step : State → Action → State)

/-- Perform the actions in order. -/
def run (start : State) (actions : List Action) : State := actions.foldl step start

/-- Every action of the run meets `guard` in the state it is performed in. -/
def Along (guard : State → Action → Prop) : State → List Action → Prop
  | _, [] => True
  | start, action :: rest => guard start action ∧ Along guard (step start action) rest

instance decidableAlong (guard : State → Action → Prop)
    [∀ state action, Decidable (guard state action)] :
    ∀ (start : State) (actions : List Action), Decidable (Along step guard start actions)
  | _, [] => isTrue trivial
  | start, action :: rest =>
      @instDecidableAnd _ _ _ (decidableAlong guard (step start action) rest)

variable {step}

@[simp] theorem run_nil (start : State) : run step start [] = start := rfl

@[simp] theorem run_cons (start : State) (action : Action) (rest : List Action) :
    run step start (action :: rest) = run step (step start action) rest := rfl

theorem run_append (start : State) (first second : List Action) :
    run step start (first ++ second) = run step (run step start first) second :=
  List.foldl_append

/-- The induction rule of guarded runs: what each guarded step preserves, a
whole guarded run preserves. -/
theorem run_invariant_along {guard : State → Action → Prop} (invariant : State → Prop)
    (hStep : ∀ state action, invariant state → guard state action →
      invariant (step state action))
    {start : State} {actions : List Action} (hStart : invariant start)
    (hAlong : Along step guard start actions) : invariant (run step start actions) := by
  induction actions generalizing start with
  | nil => exact hStart
  | cons action rest ih => exact ih (hStep start action hStart hAlong.1) hAlong.2

theorem Along.and {guard guard' : State → Action → Prop} {start : State} {actions : List Action}
    (h : Along step guard start actions) (h' : Along step guard' start actions) :
    Along step (fun state action => guard state action ∧ guard' state action) start actions := by
  induction actions generalizing start with
  | nil => trivial
  | cons action rest ih => exact ⟨⟨h.1, h'.1⟩, ih h.2 h'.2⟩

/-- A guard on the actions alone holds along the run if it holds of each. -/
theorem along_of_forall (guard : Action → Prop) {start : State} {actions : List Action}
    (h : ∀ action ∈ actions, guard action) : Along step (fun _ => guard) start actions := by
  induction actions generalizing start with
  | nil => trivial
  | cons action rest ih =>
      exact ⟨h action List.mem_cons_self, ih fun a ha => h a (List.mem_cons_of_mem _ ha)⟩

/-- The unguarded rule. -/
theorem run_invariant (invariant : State → Prop)
    (hStep : ∀ state action, invariant state → invariant (step state action))
    {start : State} (hStart : invariant start) (actions : List Action) :
    invariant (run step start actions) := by
  induction actions generalizing start with
  | nil => exact hStart
  | cons action rest ih => exact ih (hStep start action hStart)

/-- What every step from a state of the invariant meets holds along the run. -/
theorem along_of_invariant {guard : State → Action → Prop} (invariant : State → Prop)
    (hStep : ∀ state action, invariant state →
      invariant (step state action) ∧ guard state action)
    {start : State} (hStart : invariant start) (actions : List Action) :
    Along step guard start actions := by
  induction actions generalizing start with
  | nil => trivial
  | cons action rest ih =>
      obtain ⟨hNext, hGuard⟩ := hStep start action hStart
      exact ⟨hGuard, ih hNext⟩

/-- A guarded run is guarded up to each of its intermediate states. -/
theorem Along.append {guard : State → Action → Prop} {start : State}
    {first second : List Action} :
    Along step guard start (first ++ second) ↔
      Along step guard start first ∧ Along step guard (run step start first) second := by
  induction first generalizing start with
  | nil => simp [Along]
  | cons action rest ih => simp [Along, ih, and_assoc]

theorem Along.mono {guard weaker : State → Action → Prop}
    (h : ∀ state action, guard state action → weaker state action)
    {start : State} {actions : List Action} (hAlong : Along step guard start actions) :
    Along step weaker start actions := by
  induction actions generalizing start with
  | nil => exact hAlong
  | cons action rest ih => exact ⟨h _ _ hAlong.1, ih hAlong.2⟩

/-- What each guarded step meets where the invariant holds, a guarded run meets along its way. -/
theorem Along.mono_of_invariant {guard weaker : State → Action → Prop} (invariant : State → Prop)
    (h : ∀ state action, invariant state → guard state action → weaker state action)
    (hStep : ∀ state action, invariant state → guard state action →
      invariant (step state action))
    {start : State} {actions : List Action} (hStart : invariant start)
    (hAlong : Along step guard start actions) : Along step weaker start actions := by
  induction actions generalizing start with
  | nil => exact hAlong
  | cons action rest ih =>
      exact ⟨h _ _ hStart hAlong.1, ih (hStep _ _ hStart hAlong.1) hAlong.2⟩

/-- Two guards that agree wherever the invariant holds agree along a run, if
the invariant survives the steps that meet the first. -/
theorem along_iff {guard guard' : State → Action → Prop} (invariant : State → Prop)
    (hIff : ∀ state action, invariant state → (guard state action ↔ guard' state action))
    (hStep : ∀ state action, invariant state → guard state action →
      invariant (step state action))
    {start : State} (hStart : invariant start) (actions : List Action) :
    Along step guard start actions ↔ Along step guard' start actions := by
  induction actions generalizing start with
  | nil => rfl
  | cons action rest ih =>
      refine and_congr_right_iff.mpr (fun hGuard => ?_) |>.trans
        (and_congr_left' (hIff start action hStart))
      exact ih (hStep start action hStart hGuard)

/-- A guard holds along a run when it holds at every place of it. -/
theorem along_iff_forall {guard : State → Action → Prop} {start : State} {actions : List Action} :
    Along step guard start actions ↔ ∀ before action after,
      actions = before ++ action :: after → guard (run step start before) action := by
  induction actions generalizing start with
  | nil => simp [Along]
  | cons first rest ih =>
      rw [Along, ih]
      constructor
      · rintro ⟨hFirst, hRest⟩ before action after hActions
        cases before with
        | nil =>
            obtain ⟨rfl, rfl⟩ := List.cons.inj hActions
            exact hFirst
        | cons head before =>
            obtain ⟨rfl, rfl⟩ := List.cons.inj hActions
            exact hRest before action after rfl
      · intro h
        refine ⟨h [] first rest rfl, fun before action after hRest => ?_⟩
        rw [hRest] at h
        exact h (first :: before) action after rfl

end Sequential

section Steps
variable {State : Type u} {relation : State → State → Prop} (invariant : State → Prop)

/-- What every step of a relation preserves, any number of steps preserves. -/
theorem steps_invariant (hStep : ∀ a b, invariant a → relation a b → invariant b) {start final : State}
    (hSteps : Relation.ReflTransGen relation start final) (hStart : invariant start) :
    invariant final := by
  induction hSteps with
  | refl => exact hStart
  | tail _ hLast ih => exact hStep _ _ ih hLast

/-- The steps are all taken in states that meet the invariant. -/
theorem steps_along (hStep : ∀ a b, invariant a → relation a b → invariant b) {start final : State}
    (hSteps : Relation.ReflTransGen relation start final) (hStart : invariant start) :
    Relation.ReflTransGen (fun a b => invariant a ∧ relation a b) start final := by
  induction hSteps with
  | refl => exact .refl
  | tail hBefore hLast ih => exact ih.tail ⟨steps_invariant invariant hStep hBefore hStart, hLast⟩

end Steps

section Interleaved
variable {Process : Type u} {Local : Type v} {Shared : Type w}

/-- One shared state and the private state of every process. -/
structure System (Process : Type u) (Local : Type v) (Shared : Type w) where
  shared : Shared
  locals : Process → Local

variable [DecidableEq Process] (step : Process → Local → Shared → Local × Shared)

/-- Let one process take its next atomic step. -/
def fire (system : System Process Local Shared) (process : Process) :
    System Process Local Shared :=
  let next := step process (system.locals process) system.shared
  ⟨next.2, Function.update system.locals process next.1⟩

variable {step}

@[simp] theorem fire_shared (system : System Process Local Shared) (process : Process) :
    (fire step system process).shared =
      (step process (system.locals process) system.shared).2 := rfl

@[simp] theorem fire_locals_self (system : System Process Local Shared) (process : Process) :
    (fire step system process).locals process =
      (step process (system.locals process) system.shared).1 := by
  simp [fire]

theorem fire_locals_of_ne (system : System Process Local Shared) {process other : Process}
    (h : other ≠ process) : (fire step system process).locals other = system.locals other := by
  simp [fire, h]

/-- A step that neither moves its process nor the shared state is a stutter. -/
theorem fire_eq_self {system : System Process Local Shared} {process : Process}
    (h : step process (system.locals process) system.shared =
      (system.locals process, system.shared)) : fire step system process = system := by
  simp [fire, h]

end Interleaved
end Runs
