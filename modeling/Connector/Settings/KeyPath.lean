import Connector.Text.Hex
import Connector.Value

/-! Paths into value trees, as they stand in the names of settings: `network.port`, `peers[0]`.

- `KeyPath.parse?`: the path that a text spells.
- `KeyPath.set?`: a value set at the end of a path. What the path lacks is made, and tables are merged. The
  case of letters in names does not count. It fails only at an index that an array has no place for. -/

namespace Connector

namespace Value

/-! ## Names -/

/-- Small letters for the capitals of ASCII, and for the Kelvin sign, which is a `K` too. No setting's name
has other letters. -/
def lower (c : Char) : Char := if c == '\u212a' then 'k' else c.toLower

/-- A name as tables keep it. -/
def plainName (name : String) : String := name.map lower

/-! ## Changes -/

mutual

/-- Sets a field of a table, which any other value gives way to. A table is merged into what is there. The
case of letters in its names does not count. -/
def merge (name : String) : Value → Value → Value
  | .table incoming, root =>
      let target := (root.field? (plainName name)).getD (.table [])
      .table (Fields.set (plainName name) (mergeAll incoming target) root.fields)
  | v, root => .table (Fields.set (plainName name) v root.fields)

def mergeAll : List (String × Value) → Value → Value
  | [], target => target
  | (name, v) :: rest, target => mergeAll rest (merge name v target)

end

/-- Changes a field of a table. -/
def changeField? (name : String) (change : Value → Option Value) (v : Value) : Option Value :=
  (change ((v.field? name).getD .nil)).map fun new => .table (Fields.set name new v.fields)

/-- No array is longer. -/
def maxItems : Nat := 0x4000000

/-- Where an index points in an array. Negative ones count from its end, and none may lie before its start. -/
def place? (length : Nat) (index : Int) : Option Nat :=
  if 0 ≤ index then if index.toNat < maxItems then some index.toNat else none
  else if index.natAbs ≤ length then some (length - index.natAbs)
  else none

/-- Changes an item of an array, which is filled up to it. -/
def changeItem? (index : Int) (change : Value → Option Value) (v : Value) : Option Value := do
  let n ← place? v.items.length index
  match v.items[n]? with
  | some old => return .array (v.items.set n (← change old))
  | none =>
      let filling := List.replicate (n - v.items.length) nil
      return .array (v.items ++ (filling ++ [← change .nil]))

end Value

inductive KeyPath where
  | top (name : String)
  | child (parent : KeyPath) (name : String)
  | item (parent : KeyPath) (index : Int)
  deriving DecidableEq, Repr

namespace KeyPath

/-! ## Reading -/

def isNameChar (c : Char) : Bool := c.isAlphanum || c == '_' || c == '-' || c == ' '

def name? (cs : List Char) : Option (String × List Char) :=
  let name := cs.takeWhile isNameChar
  if name.isEmpty then none else some (String.ofList name, cs.drop name.length)

def skipBlank (cs : List Char) : List Char := cs.dropWhile fun c => c == ' ' || c == '\t'

/-- Indices fit 64 bits with a sign. -/
def index? (cs : List Char) : Option (Int × List Char) :=
  let (negative, digits) := match skipBlank cs with
    | '-' :: rest => (true, rest)
    | rest => (false, rest)
  let shown := digits.takeWhile Char.isDigit
  let n := Text.valueUpTo 0x10000000000000000 10 shown
  let index : Int := if negative then -n else n
  if shown.isEmpty || index < -0x8000000000000000 || 0x8000000000000000 ≤ index then none
  else some (index, skipBlank (digits.drop shown.length))

/-- The rest of a path. Every step takes a character, so a fuel of the length is enough. -/
def parseFrom? : Nat → KeyPath → List Char → Option KeyPath
  | _, path, [] => some path
  | fuel + 1, path, '.' :: rest => do
      let (name, rest) ← name? rest
      parseFrom? fuel (.child path name) rest
  | fuel + 1, path, '[' :: rest =>
      match index? rest with
      | some (index, ']' :: rest) => parseFrom? fuel (.item path index) rest
      | _ => none
  | _, _, _ => none

def parse? (text : String) : Option KeyPath := do
  let (name, rest) ← name? text.toList
  parseFrom? rest.length (.top name) rest

/-- The path that a text in plain letters spells, or the text as a name if it spells none. -/
def ofText (text : String) : KeyPath :=
  let plain := Value.plainName text
  (parse? plain).getD (.top plain)

/-! ## Setting -/

/-- Changes the value at the end of a path. -/
def change? (f : Value → Option Value) : KeyPath → Value → Option Value
  | top name => Value.changeField? name f
  | child parent name => parent.change? (Value.changeField? name f)
  | item parent index => parent.change? (Value.changeItem? index f)

def set? (v : Value) : KeyPath → Value → Option Value
  | top name => fun root => some (Value.merge name v root)
  | child parent name => parent.change? fun table => some (Value.merge name v table)
  | item parent index => parent.change? (Value.changeItem? index fun _ => some v)

end KeyPath

end Connector
