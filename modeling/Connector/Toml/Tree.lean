import Connector.Toml.Moment
import Connector.Value

/-! The tables of a settings file in TOML while its lines are read.

- `Toml.assign?`: a key given a value. No key is given one twice.
- `Toml.openTable?`, `Toml.openRow?`: a table header. A table has one header at most, and it may come after
  those of the tables within.
- `Toml.tableValue?`: the value of a table. One whose first name is `momentName` is a date or a time. -/

namespace Connector.Toml

/-- What made a table. -/
inductive Standing where
  /-- Its own header, or braces. -/
  | declared
  /-- A header of a table within. -/
  | implied
  /-- A key with dots. -/
  | dotted
  deriving DecidableEq

inductive Node where
  | leaf (v : Value)
  | moment (text : String)
  | items (nodes : List Node)
  /-- A table in braces, which nothing is added to. -/
  | braces (fields : List (String × Node))
  | branch (standing : Standing) (fields : List (String × Node))
  /-- Tables that share a header, the last one first. -/
  | rows (tables : List (List (String × Node)))

/-- The name under which a table holds a date or a time as a string. -/
def momentName : String := "$__toml_private_datetime"

mutual

def Node.value? : Node → Option Value
  | .leaf v => some v
  | .moment text => some (.text text)
  | .items nodes => (itemValues? nodes).map .array
  | .braces fields | .branch _ fields => tableValue? fields
  | .rows tables => (rowValues? tables).map fun rows => .array rows.reverse

def itemValues? : List Node → Option (List Value)
  | [] => some []
  | node :: rest => do return (← node.value?) :: (← itemValues? rest)

def fieldValues? : List (String × Node) → Option (List (String × Value))
  | [] => some []
  | (name, node) :: rest => do return (name, ← node.value?) :: (← fieldValues? rest)

/-- Behind a string that spells a date or a time, a table's other fields do not count. -/
def tableValue? : List (String × Node) → Option Value
  | [] => some (.table [])
  | (name, node) :: rest =>
      if name = momentName then
        match node with
        | .leaf (.text text) => (quotedMoment? text).map .text
        | _ => none
      else do return .table ((name, ← node.value?) :: (← fieldValues? rest))

def rowValues? : List (List (String × Node)) → Option (List Value)
  | [] => some []
  | fields :: rest => do return (← tableValue? fields) :: (← rowValues? rest)

end

/-- Changes the table at the end of a path. Tables that the path lacks are made. Only headers lead through
tables that were declared. -/
def follow? (making : Standing) (change : Standing → Fields Node → Option (Fields Node)) :
    List String → Standing → Fields Node → Option (Fields Node)
  | [], standing, fields => change standing fields
  | name :: path, _, fields =>
      match fields.lookup name with
      | none =>
          (follow? making change path making []).map fun inner =>
            Fields.set name (.branch making inner) fields
      | some (.branch standing inner) =>
          if making = .dotted && standing = .declared then none
          else
            (follow? making change path standing inner).map fun inner =>
              Fields.set name (.branch standing inner) fields
      | some (.rows (last :: earlier)) =>
          (follow? making change path .declared last).map fun last =>
            Fields.set name (.rows (last :: earlier)) fields
      | some _ => none

/-- A key with dots adds only to a table that keys with dots made. -/
def assign? (path : List String) (name : String) (node : Node) (standing : Standing)
    (fields : Fields Node) : Option (Fields Node) :=
  follow? .dotted (fun standing fields =>
    if !path.isEmpty && standing ≠ .dotted then none
    else if (fields.lookup name).isSome then none
    else some (Fields.set name node fields)) path standing fields

/-- A table that was implied so far moves behind its neighbours. -/
def openTable? (path : List String) (name : String) (root : Fields Node) : Option (Fields Node) :=
  follow? .implied (fun _ fields =>
    match fields.lookup name with
    | none => some (Fields.set name (.branch .declared []) fields)
    | some (.branch .implied inner) => some (Fields.erase name fields ++ [(name, .branch .declared inner)])
    | some _ => none) path .declared root

def openRow? (path : List String) (name : String) (root : Fields Node) : Option (Fields Node) :=
  follow? .implied (fun _ fields =>
    match fields.lookup name with
    | none => some (Fields.set name (.rows [[]]) fields)
    | some (.rows tables) => some (Fields.set name (.rows ([] :: tables)) fields)
    | some _ => none) path .declared root

end Connector.Toml
