import PropertyTax.Library.Scripts

/-! A script seen through a view. Its image does to what the view shows of a state
what the script does to the state. -/
namespace Scripts
universe u
variable {State State' Failure α β α' β' : Type u}

/-- A run of the image is the run of the script, as the views show it. -/
def Shows (view : State → State') (shown : α → β) (script : Script State Failure α)
    (image : Script State' Failure β) : Prop :=
  ∀ state, image (view state) = (view (script state).1, (script state).2.map shown)

namespace Shows
variable {view : State → State'} {shown : α → β} {script : Script State Failure α}
  {image : Script State' Failure β}

theorem pure {answer : α} {answer' : β} (h : answer' = shown answer) :
    Shows view shown (Pure.pure answer : Script State Failure α) (Pure.pure answer') := by
  subst h
  exact fun _ => rfl

theorem fail (failure : Failure) :
    Shows view shown (Script.fail failure : Script State Failure α) (Script.fail failure) :=
  fun _ => rfl

theorem bind {shown' : α' → β'} {next : α → Script State Failure α'}
    {next' : β → Script State' Failure β'} (hFirst : Shows view shown script image)
    (hNext : ∀ answer, Shows view shown' (next answer) (next' (shown answer))) :
    Shows view shown' (script >>= next) (image >>= next') := by
  intro state
  have hImage := hFirst state
  rcases hScript : script state with ⟨after, failure | answer⟩
  · rw [hScript] at hImage
    rw [Script.bind_of_error hScript, Script.bind_of_error hImage]
    rfl
  · rw [hScript] at hImage
    rw [Script.bind_of_ok hScript, Script.bind_of_ok hImage]
    exact hNext answer after

theorem ite {condition condition' : Prop} [Decidable condition] [Decidable condition']
    {other : Script State Failure α} {other' : Script State' Failure β}
    (hSame : condition' ↔ condition) (hThen : Shows view shown script image)
    (hElse : Shows view shown other other') :
    Shows view shown (if condition then script else other)
      (if condition' then image else other') := by
  by_cases h : condition
  · rw [if_pos h, if_pos (hSame.mpr h)]
    exact hThen
  · rw [if_neg h, if_neg (mt hSame.mp h)]
    exact hElse

theorem when {condition : Bool} {script : Script State Failure PUnit}
    {image : Script State' Failure PUnit} (h : Shows view id script image) :
    Shows view id (Script.when condition script) (Script.when condition image) := by
  cases condition with
  | true => exact h
  | false => exact fun _ => rfl

/-- A transaction shows as one, when undoing commutes with the view. -/
theorem atomically {undo : State → State → State} {undo' : State' → State' → State'}
    (hUndo : ∀ state after, undo' (view state) (view after) = view (undo state after))
    (h : Shows view shown script image) :
    Shows view shown (Script.atomically undo script) (Script.atomically undo' image) := by
  intro state
  have hImage := h state
  unfold Script.atomically
  rcases hScript : script state with ⟨after, failure | answer⟩
  · rw [hScript] at hImage
    rw [hImage, ← hUndo]
    rfl
  · rw [hScript] at hImage
    rw [hImage]
    rfl

/-- States that look alike are answered alike, as far as the view shows. -/
theorem answers_alike (h : Shows view shown script image) {state state' : State}
    (hView : view state = view state') :
    (script state).2.map shown = (script state').2.map shown := by
  have hImage := h state
  rw [hView, h state'] at hImage
  exact (congrArg Prod.snd hImage).symm

end Shows
end Scripts
