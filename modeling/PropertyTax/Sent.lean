/-! Request bodies before a service reads them, where a field can be absent, null or a value. -/
namespace PropertyTax

/-- A field of a request body. -/
inductive Sent (α : Type) where
  | absent
  | null
  | value (value : α)
deriving DecidableEq

namespace Sent
variable {α : Type}

/-- `undefined` for what is absent. -/
def ofOption : Option α → Sent α
  | none => absent
  | some sent => value sent

/-- A read that does not tell null from absent. -/
def value? : Sent α → Option α
  | absent => none
  | null => none
  | value sent => some sent

/-- What a nullable column holds after the write. -/
def write (stored : Option α) : Sent α → Option α
  | absent => stored
  | null => none
  | value sent => some sent

@[simp] theorem value?_ofOption (sent : Option α) : (ofOption sent).value? = sent := by
  cases sent <;> rfl

@[simp] theorem write_ofOption (stored sent : Option α) :
    (ofOption sent).write stored = sent.or stored := by
  cases sent <;> rfl

@[simp] theorem ofOption_ne_null (sent : Option α) : ofOption sent ≠ null := by
  cases sent <;> rintro ⟨⟩

end Sent

end PropertyTax
