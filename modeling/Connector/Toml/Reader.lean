import Connector.Toml.Moment
import Connector.Toml.Tree

/-! Reading settings files in TOML.

- `Toml.read?`: the value that a whole text spells, if it spells one. It is a table, but for a text that has
  the name of dates and times first. -/

namespace Connector.Toml

/-! ## Keys -/

def isBare (c : Char) : Bool := c.isAlphanum || c == '_' || c == '-'

def keyPart? (cs : Chars) : Option (String × Chars) :=
  match shortText? cs with
  | some (name, rest) => some (String.ofList name, rest)
  | none =>
      let name := cs.takeWhile isBare
      if name.isEmpty then none else some (String.ofList name, cs.drop name.length)

/-- How many parts a key may have, and how deep values may be nested. -/
def depthLimit : Nat := 79

/-- A key as the path before its last part, and that part. -/
def keyFrom? : Nat → Chars → Option (List String × String × Chars)
  | 0, _ => none
  | parts + 1, cs => do
      let (name, rest) ← keyPart? (skipBlank cs)
      match skipBlank rest with
      | '.' :: rest =>
          let (path, last, rest) ← keyFrom? parts rest
          return (name :: path, last, rest)
      | rest => return ([], name, rest)

def key? (cs : Chars) : Option (List String × String × Chars) := keyFrom? depthLimit cs

/-! ## Values -/

def word? : Chars → Option (Value × Chars)
  | 't' :: 'r' :: 'u' :: 'e' :: rest => some (.boolean true, rest)
  | 'f' :: 'a' :: 'l' :: 's' :: 'e' :: rest => some (.boolean false, rest)
  | _ => none

/-- A word or a number, whichever stands there. -/
def scalar? (cs : Chars) : Option (Node × Chars) :=
  match moment? cs with
  | some (text, rest) => some (.moment text, rest)
  | none =>
      (word? cs <|> real? cs <|> integer? cs).map fun (v, rest) => (.leaf v, rest)

mutual

/-- Every second call takes a character, so a fuel of twice the length is enough. -/
def value? : Nat → Nat → Chars → Option (Node × Chars)
  | 0, _, _ => none
  | fuel + 1, depth, cs =>
      match cs with
      | [] => none
      | '[' :: rest =>
          if depth = 0 then none
          else (items? fuel (depth - 1) rest).map fun (nodes, rest) => (.items nodes, rest)
      | '\x7b' :: rest =>
          if depth = 0 then none
          else
            match skipBlank rest with
            | '\x7d' :: rest => some (.braces [], rest)
            | rest =>
                (members? fuel (depth - 1) rest []).map fun (fields, rest) => (.braces fields, rest)
      | c :: rest =>
          if c == '"' || c == '\'' then
            (quotedText? (c :: rest)).map fun (text, rest) => (.leaf (.text (String.ofList text)), rest)
          else scalar? (c :: rest)

/-- An array past its bracket or one of its commas. -/
def items? : Nat → Nat → Chars → Option (List Node × Chars)
  | 0, _, _ => none
  | fuel + 1, depth, cs =>
      match skipSpace cs with
      | ']' :: rest => some ([], rest)
      | cs => do
          let (first, rest) ← value? fuel depth cs
          match skipSpace rest with
          | ']' :: rest => return ([first], rest)
          | ',' :: rest =>
              let (others, rest) ← items? fuel depth rest
              return (first :: others, rest)
          | _ => none

/-- A table in braces past its brace or one of its commas. It stands on one line. -/
def members? : Nat → Nat → Chars → Fields Node → Option (Fields Node × Chars)
  | 0, _, _, _ => none
  | fuel + 1, depth, cs, seen => do
      let (path, name, rest) ← key? cs
      let (node, rest) ← value? fuel depth (skipBlank (← drop? '=' rest))
      let seen ← assign? path name node .declared seen
      match skipBlank rest with
      | '\x7d' :: rest => return (seen, rest)
      | ',' :: rest => members? fuel depth rest seen
      | _ => none

end

/-! ## Lines -/

/-- What was read so far, and the path of the table whose keys the next lines give. -/
structure Draft where
  root : Fields Node := []
  header : List String := []

def keyLine? (draft : Draft) (cs : Chars) : Option (Draft × Chars) := do
  let (path, name, rest) ← key? cs
  let rest ← drop? '=' rest
  let (node, rest) ← value? (2 * rest.length + 2) depthLimit (skipBlank rest)
  let rest ← endLine? rest
  let root ← follow? .implied (assign? path name node) draft.header .declared draft.root
  return ({ draft with root }, rest)

def tableLine? (draft : Draft) (cs : Chars) : Option (Draft × Chars) := do
  let (path, name, rest) ← key? cs
  let rest ← endLine? (← drop? ']' rest)
  return (⟨← openTable? path name draft.root, path ++ [name]⟩, rest)

def rowLine? (draft : Draft) (cs : Chars) : Option (Draft × Chars) := do
  let (path, name, rest) ← key? cs
  let rest ← endLine? (← drop? ']' (← drop? ']' rest))
  return (⟨← openRow? path name draft.root, path ++ [name]⟩, rest)

def line? (draft : Draft) (cs : Chars) : Option (Draft × Chars) :=
  match endLine? cs with
  | some rest => some (draft, rest)
  | none =>
      match skipBlank cs with
      | '[' :: '[' :: rest => rowLine? draft rest
      | '[' :: rest => tableLine? draft rest
      | cs => keyLine? draft cs

/-- Every line takes a character, so a fuel of the length is enough. -/
def lines? : Nat → Draft → Chars → Option (Fields Node)
  | _, draft, [] => some draft.root
  | 0, _, _ => none
  | fuel + 1, draft, cs =>
      match line? draft cs with
      | some (draft, rest) => lines? fuel draft rest
      | none => none

/-- A mark of byte order at the start is not part of the text. -/
def read? (text : String) : Option Value :=
  let cs := match text.toList with
    | '\ufeff' :: rest => rest
    | cs => cs
  (lines? cs.length {} cs).bind tableValue?

end Connector.Toml
