import Connector.Text.Hex

/-! JSON as text, for what a node writes.

- `Json.quote`: a string literal. Quotes, backslashes and controls are escaped, all else stands as it is.
- `Json.object`: fields without blanks between them.
- `Json.indented`: fields on lines of their own. -/

namespace Connector.Json

def escapeChar : Char → List Char
  | '"' => ['\\', '"']
  | '\\' => ['\\', '\\']
  | '\x08' => ['\\', 'b']
  | '\x0c' => ['\\', 'f']
  | '\n' => ['\\', 'n']
  | '\r' => ['\\', 'r']
  | '\t' => ['\\', 't']
  | c =>
      if c.toNat < 0x10 then ['\\', 'u', '0', '0', '0'] ++ Text.hexDigits c.toNat
      else if c.toNat < 0x20 then ['\\', 'u', '0', '0'] ++ Text.hexDigits c.toNat
      else [c]

def quote (s : String) : String := String.ofList ('"' :: s.toList.flatMap escapeChar ++ ['"'])

/-- An object from names and written values. -/
def object (fields : List (String × String)) : String :=
  "\x7b" ++ String.intercalate "," (fields.map fun (name, value) => quote name ++ ":" ++ value) ++ "\x7d"

/-- An object whose fields stand `depth + 2` blanks from the margin. -/
def indented (depth : Nat) (fields : List (String × String)) : String :=
  let margin := String.ofList (List.replicate depth ' ')
  let line := fun (name, value) => margin ++ "  " ++ quote name ++ ": " ++ value
  "\x7b\n" ++ String.intercalate ",\n" (fields.map line) ++ "\n" ++ margin ++ "\x7d"

end Connector.Json
