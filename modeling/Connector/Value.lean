/-! Value trees: what a settings file says before anything is read into it.

- `Fields.set`: a name bound anew, in its old place if it had one.
- `Fields.erase`: a name unbound.
- `Value.field?`: a field of a table. Other values have none. -/

namespace Connector

/-- Bindings of names in the order in which the names came. -/
abbrev Fields (α : Type) := List (String × α)

namespace Fields

variable {α : Type}

def set (name : String) (v : α) : Fields α → Fields α
  | [] => [(name, v)]
  | (n, old) :: rest => if n = name then (n, v) :: rest else (n, old) :: set name v rest

def erase (name : String) (fields : Fields α) : Fields α := fields.filter fun (n, _) => n ≠ name

end Fields

inductive Value where
  | nil
  | boolean (b : Bool)
  | integer (n : Int)
  | real (x : Float)
  | text (s : String)
  | array (items : List Value)
  | table (fields : List (String × Value))

namespace Value

instance : Inhabited Value := ⟨nil⟩

/-- The fields of a table. -/
def fields : Value → Fields Value
  | table fields => fields
  | _ => []

def field? (v : Value) (name : String) : Option Value := v.fields.lookup name

/-- The items of an array. -/
def items : Value → List Value
  | array items => items
  | _ => []

end Value

end Connector
