import Mathlib.Data.Rat.Init

/-! JSON values as the source language parses them. An object is the list of
its own fields, each name once; an absent field reads as `undefined`, `none`
here. -/

inductive Json where
  | null
  | bool (b : Bool)
  | num (x : ℚ)
  | str (text : String)
  | arr (items : List Json)
  | obj (fields : List (String × Json))

namespace Json

abbrev Fields := List (String × Json)

/-- `object.name` -/
def Fields.get (fields : Fields) (name : String) : Option Json := fields.lookup name

/-- `object.name = value` -/
def Fields.set : Fields → String → Json → Fields
  | [], name, value => [(name, value)]
  | (other, old) :: rest, name, value =>
      if other = name then (name, value) :: rest else (other, old) :: Fields.set rest name value

/-- The field becomes `undefined`, which storing the object drops. -/
def Fields.erase (fields : Fields) (name : String) : Fields :=
  fields.filter fun field => field.1 ≠ name

def Fields.setOption (fields : Fields) (name : String) : Option Json → Fields
  | some value => fields.set name value
  | none => fields.erase name

/-- `{ ...base, ...extra }` -/
def Fields.spread (base extra : Fields) : Fields :=
  extra.foldl (fun fields field => fields.set field.1 field.2) base

/-- The fields a spread copies: those of an object, the items of an array under
their indices, and nothing of any other value. -/
def ownFields : Json → Fields
  | obj fields => fields
  | arr items => items.mapIdx fun i item => (String.ofList (Nat.toDigits 10 i), item)
  | _ => []

theorem Fields.get_cons_self (name : String) (value : Json) (rest : Fields) :
    Fields.get ((name, value) :: rest) name = some value := by
  simp [Fields.get]

/-! ### Keys at any depth -/

mutual

/-- An object in the value, at any depth, has a field of this name. -/
def hasKey (name : String) : Json → Bool
  | arr items => itemsHaveKey name items
  | obj fields => fieldsHaveKey name fields
  | _ => false

def itemsHaveKey (name : String) : List Json → Bool
  | [] => false
  | item :: rest => hasKey name item || itemsHaveKey name rest

def fieldsHaveKey (name : String) : List (String × Json) → Bool
  | [] => false
  | (key, child) :: rest => decide (key = name) || hasKey name child || fieldsHaveKey name rest

end

end Json
