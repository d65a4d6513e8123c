import Mathlib.Data.List.Basic

/-! Scripts of statements with no transaction around them: an error ends the
script, and what was written before it stays. The rules are those of a Hoare
logic with one postcondition for each of the two ways to end. -/
namespace Scripts
universe u

def Script (State Failure Answer : Type u) : Type u := State → State × Except Failure Answer

section
variable {State Failure α β : Type u}

namespace Script

instance : Monad (Script State Failure) where
  pure answer := fun state => (state, .ok answer)
  bind first next := fun state =>
    match first state with
    | (after, .ok answer) => next answer after
    | (after, .error failure) => (after, .error failure)

def fail (failure : Failure) : Script State Failure α := fun state => (state, .error failure)

/-- Read the state. -/
def query (read : State → α) : Script State Failure α := fun state => (state, .ok (read state))

/-- One statement, which takes effect as a whole or is refused. -/
def execute (statement : State → Except Failure (State × α)) : Script State Failure α :=
  fun state =>
    match statement state with
    | .ok (after, answer) => (after, .ok answer)
    | .error failure => (state, .error failure)

/-- A statement that is never refused. -/
def modify (write : State → State) : Script State Failure PUnit := fun state => (write state, .ok ⟨⟩)

def when (condition : Bool) (script : Script State Failure PUnit) : Script State Failure PUnit :=
  if condition then script else pure ⟨⟩

/-- Catch what the script throws, and hand it on as an answer. -/
def attempt (script : Script State Failure α) : Script State Failure (Except Failure α) :=
  fun state => ((script state).1, .ok (script state).2)

/-- Undo the script as a whole when it throws. -/
def atomically (undo : State → State → State) (script : Script State Failure α) :
    Script State Failure α :=
  fun state =>
    match script state with
    | (after, .ok answer) => (after, .ok answer)
    | (after, .error failure) => (undo state after, .error failure)

theorem bind_of_ok {script : Script State Failure α} {next : α → Script State Failure β}
    {state after : State} {answer : α} (h : script state = (after, .ok answer)) :
    (script >>= next) state = next answer after := by
  change (match script state with
    | (after, .ok answer) => next answer after
    | (after, .error failure) => (after, .error failure)) = _
  rw [h]

theorem bind_of_error {script : Script State Failure α} {next : α → Script State Failure β}
    {state after : State} {failure : Failure} (h : script state = (after, .error failure)) :
    (script >>= next) state = (after, .error failure) := by
  change (match script state with
    | (after, .ok answer) => next answer after
    | (after, .error failure) => (after, .error failure)) = _
  rw [h]

/-- What was read goes to the rest of the script. -/
theorem query_bind {read : State → α} {next : α → Script State Failure β} {state : State} :
    (query read >>= next) state = next (read state) state := rfl

/-- The state that the script leaves, however it ends. -/
def after (script : Script State Failure α) (state : State) : State := (script state).1

end Script

/-- A script ended with an answer and in `post`, or with an error and in
`broken`. -/
def Ends (post : α → State → Prop) (broken : State → Prop) : State × Except Failure α → Prop
  | (after, .ok answer) => post answer after
  | (after, .error _) => broken after

theorem Ends.mono {post post' : α → State → Prop} {broken broken' : State → Prop}
    {result : State × Except Failure α} (h : Ends post broken result)
    (hPost : ∀ answer state, post answer state → post' answer state)
    (hBroken : ∀ state, broken state → broken' state) : Ends post' broken' result := by
  rcases result with ⟨after, _ | answer⟩
  · exact hBroken after h
  · exact hPost answer after h

/-- Two things are known of one end. -/
theorem Ends.and {post post' : α → State → Prop} {broken broken' : State → Prop}
    {result : State × Except Failure α} (h : Ends post broken result)
    (h' : Ends post' broken' result) :
    Ends (fun answer state => post answer state ∧ post' answer state)
      (fun state => broken state ∧ broken' state) result := by
  rcases result with ⟨after, _ | answer⟩
  · exact ⟨h, h'⟩
  · exact ⟨h, h'⟩

/-- However the script ends, its state is in `final`. -/
theorem Ends.after {final : State → Prop} {script : Script State Failure α} {state : State}
    (h : Ends (fun _ => final) final (script state)) : final (script.after state) := by
  unfold Script.after
  rcases hResult : script state with ⟨after, _ | answer⟩
  · rw [hResult] at h
    exact h
  · rw [hResult] at h
    exact h

/-- From a state in `pre` the script ends in `post` or in `broken`. -/
def Meets (script : Script State Failure α) (pre : State → Prop) (post : α → State → Prop)
    (broken : State → Prop) : Prop :=
  ∀ state, pre state → Ends post broken (script state)

/-- The script leaves `invariant` true, however it ends. -/
def Preserves (script : Script State Failure α) (invariant : State → Prop) : Prop :=
  Meets script invariant (fun _ => invariant) invariant

namespace Meets
variable {script : Script State Failure α} {pre : State → Prop} {post : α → State → Prop}
  {broken : State → Prop}

theorem mono {pre' : State → Prop} {post' : α → State → Prop} {broken' : State → Prop}
    (h : Meets script pre post broken) (hPre : ∀ state, pre' state → pre state)
    (hPost : ∀ answer state, post answer state → post' answer state)
    (hBroken : ∀ state, broken state → broken' state) : Meets script pre' post' broken' :=
  fun state hState => (h state (hPre state hState)).mono hPost hBroken

theorem pure {answer : α} (h : ∀ state, pre state → post answer state) :
    Meets (Pure.pure answer : Script State Failure α) pre post broken := h

theorem fail {failure : Failure} (h : ∀ state, pre state → broken state) :
    Meets (Script.fail failure : Script State Failure α) pre post broken := h

/-- A query answers from the state and leaves it. -/
theorem query {read : State → α} (h : ∀ state, pre state → post (read state) state) :
    Meets (Script.query read : Script State Failure α) pre post broken := h

/-- A write meets what holds of the written state. -/
theorem modify {write : State → State} {post : PUnit → State → Prop}
    (h : ∀ state, pre state → post ⟨⟩ (write state)) :
    Meets (Script.modify write : Script State Failure PUnit) pre post broken := h

/-- A statement meets what holds of its answer, or of its refusal. -/
theorem execute {statement : State → Except Failure (State × α)}
    (hOk : ∀ state after answer, pre state → statement state = .ok (after, answer) →
      post answer after)
    (hRefused : ∀ state failure, pre state → statement state = .error failure → broken state) :
    Meets (Script.execute statement) pre post broken := by
  intro state hState
  unfold Script.execute
  cases hStatement : statement state with
  | error failure => exact hRefused state failure hState hStatement
  | ok result => exact hOk state result.1 result.2 hState hStatement

theorem when {condition : Bool} {script : Script State Failure PUnit}
    {post : PUnit → State → Prop} (hRun : condition = true → Meets script pre post broken)
    (hSkip : condition = false → ∀ state, pre state → post ⟨⟩ state) :
    Meets (Script.when condition script) pre post broken := by
  cases condition with
  | true => exact hRun rfl
  | false => exact pure (hSkip rfl)

/-- Nothing breaks a script whose errors are caught. -/
theorem attempt {post : Except Failure α → State → Prop}
    (h : Meets script pre (fun answer => post (.ok answer))
      fun state => ∀ failure, post (.error failure) state) :
    Meets (Script.attempt script) pre post broken := by
  intro state hState
  have hEnd := h state hState
  unfold Script.attempt
  rcases hResult : script state with ⟨after, failure | answer⟩
  · rw [hResult] at hEnd
    exact hEnd failure
  · rw [hResult] at hEnd
    exact hEnd

/-- A script that is undone needs nothing of the states in between. -/
theorem atomically {undo : State → State → State}
    (h : Meets script pre post fun _ => True)
    (hUndo : ∀ state after, pre state → broken (undo state after)) :
    Meets (Script.atomically undo script) pre post broken := by
  intro state hState
  have hEnd := h state hState
  unfold Script.atomically
  rcases hResult : script state with ⟨after, failure | answer⟩
  · exact hUndo state after hState
  · rw [hResult] at hEnd
    exact hEnd

theorem bind {next : α → Script State Failure β} {middle : α → State → Prop}
    {post : β → State → Prop} (hFirst : Meets script pre middle broken)
    (hNext : ∀ answer, Meets (next answer) (middle answer) post broken) :
    Meets (script >>= next) pre post broken := by
  intro state hState
  have hMiddle := hFirst state hState
  change Ends post broken (match script state with
    | (after, .ok answer) => next answer after
    | (after, .error failure) => (after, .error failure))
  rcases hResult : script state with ⟨after, _ | answer⟩
  · rw [hResult] at hMiddle
    exact hMiddle
  · rw [hResult] at hMiddle
    exact hNext answer after hMiddle

/-- Two scripts in turn, with the states in between named. -/
theorem seq {next : α → Script State Failure β} (middle : State → Prop)
    {post : β → State → Prop} (hFirst : Meets script pre (fun _ => middle) broken)
    (hNext : ∀ answer, Meets (next answer) middle post broken) :
    Meets (script >>= next) pre post broken :=
  bind hFirst hNext

/-- A read, and what it is known to have returned. -/
theorem bind_query {read : State → α} {next : α → Script State Failure β}
    {post : β → State → Prop}
    (h : ∀ answer, Meets (next answer) (fun state => read state = answer ∧ pre state) post broken) :
    Meets (Script.query read >>= next) pre post broken :=
  fun state hState => h (read state) state ⟨rfl, hState⟩

/-- What is known at the start stays known, if it does not speak of the state. -/
theorem given {fact : Prop} (h : fact → Meets script pre post broken) :
    Meets script (fun state => fact ∧ pre state) post broken :=
  fun state hState => h hState.1 state hState.2

/-- The loop rule. The invariant speaks of the items that are still to come. -/
theorem foldlM {item : Type u} {body : β → item → Script State Failure β}
    (invariant : List item → β → State → Prop)
    (hBody : ∀ x rest acc, Meets (body acc x) (invariant (x :: rest) acc)
      (fun acc' => invariant rest acc') broken) (items : List item) (start : β) :
    Meets (items.foldlM body start) (invariant items start) (fun acc => invariant [] acc)
      broken := by
  induction items generalizing start with
  | nil => exact pure fun _ hState => hState
  | cons x rest ih =>
      rw [List.foldlM_cons]
      exact bind (hBody x rest start) fun acc => ih acc

end Meets

namespace Preserves
variable {script : Script State Failure α} {invariant : State → Prop}

theorem bind {next : α → Script State Failure β} (hFirst : Preserves script invariant)
    (hNext : ∀ answer, Preserves (next answer) invariant) : Preserves (script >>= next) invariant :=
  Meets.bind hFirst hNext

theorem foldlM {item : Type u} {body : β → item → Script State Failure β}
    {items : List item} {start : β} (hBody : ∀ x acc, Preserves (body acc x) invariant) :
    Preserves (items.foldlM body start) invariant :=
  Meets.foldlM (fun _ _ => invariant) (fun x _ acc => hBody x acc) items start

end Preserves
end
end Scripts
