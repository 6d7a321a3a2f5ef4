import Connector.Decimal
import Connector.Text.Hex
import Connector.Value

/-! Reading JSON text into a value tree.

- `Json.read?`: the value that a whole text spells, if it spells one. Of equal names in an object the last
  wins, and nesting has a limit. -/

namespace Connector.Json

open Text (hexValue?)

abbrev Chars := List Char

def isBlank (c : Char) : Bool := c == ' ' || c == '\t' || c == '\n' || c == '\r'

def skipBlank (cs : Chars) : Chars := cs.dropWhile isBlank

/-! ## Strings -/

def hex4? (a b c d : Char) : Option Nat := do
  return ((← hexValue? a) * 16 + (← hexValue? b)) * 256 + ((← hexValue? c) * 16 + (← hexValue? d))

/-- The character of a pair of surrogates. -/
def surrogates? (high low : Nat) : Option Char :=
  if 0xd800 ≤ high && high < 0xdc00 && 0xdc00 ≤ low && low < 0xe000 then
    some (Char.ofNat (0x10000 + (high - 0xd800) * 0x400 + (low - 0xdc00)))
  else none

def isSurrogate (n : Nat) : Bool := 0xd800 ≤ n && n < 0xe000

def escaped? : Char → Option Char
  | '"' => some '"'
  | '\\' => some '\\'
  | '/' => some '/'
  | 'b' => some '\x08'
  | 'f' => some '\x0c'
  | 'n' => some '\n'
  | 'r' => some '\r'
  | 't' => some '\t'
  | _ => none

/-- The rest of a string after its opening quote. -/
def stringBody : Chars → Option (Chars × Chars)
  | '"' :: rest => some ([], rest)
  | '\\' :: 'u' :: a :: b :: c :: d :: rest => do
      let n ← hex4? a b c d
      if isSurrogate n then
        match rest with
        | '\\' :: 'u' :: a :: b :: c :: d :: rest =>
            let char ← surrogates? n (← hex4? a b c d)
            let (text, rest) ← stringBody rest
            return (char :: text, rest)
        | _ => none
      else
        let (text, rest) ← stringBody rest
        return (Char.ofNat n :: text, rest)
  | '\\' :: c :: rest => do
      let char ← escaped? c
      let (text, rest) ← stringBody rest
      return (char :: text, rest)
  | c :: rest => do
      if c.toNat < 0x20 then none
      let (text, rest) ← stringBody rest
      return (c :: text, rest)
  | [] => none

/-! ## Numbers -/

def takeDigits (cs : Chars) : Chars × Chars := (cs.takeWhile Char.isDigit, cs.dropWhile Char.isDigit)

/-- Digits that count, with those that 64 bits have no room for left out, and how many were left out. -/
def significand (start : Nat) : Chars → Nat × Nat
  | [] => (start, 0)
  | c :: rest =>
      let next := start * 10 + (c.toNat - '0'.toNat)
      if next < 0x10000000000000000 then significand next rest else (start, (c :: rest).length)

def powerOfTen (n : Nat) : Float := Float.ofScientific 1 false n

/-- The float of a significand and an exponent, by one multiplication or division within the powers of ten
that floats have. -/
def realOfParts : Nat → Float → Int → Option Float
  | 0, _, _ => none
  | fuel + 1, x, e =>
      if e.natAbs ≤ 308 then
        if 0 ≤ e then
          let y := x * powerOfTen e.natAbs
          if y.isInf then none else some y
        else some (x / powerOfTen e.natAbs)
      else if x == 0.0 then some x
      else if 0 ≤ e then none
      else realOfParts fuel (x / powerOfTen 308) (e + 308)

/-- Exponents beyond 32 bits. -/
def exponentLimit : Nat := 0x7fffffff

def exponentPart : Chars → Option (Int × Chars)
  | 'e' :: rest | 'E' :: rest =>
      let (negative, rest) :=
        match rest with
        | '-' :: rest => (true, rest)
        | '+' :: rest => (false, rest)
        | rest => (false, rest)
      let (digits, rest) := takeDigits rest
      if digits.isEmpty then none
      else
        let n := Text.valueUpTo (2 * exponentLimit) 10 digits
        some (if negative then -(n : Int) else (n : Int), rest)
  | rest => some (0, rest)

/-- What the digits before the point count for: all that 64 bits hold, and tens for the others. -/
def integerOf (negative : Bool) (n : Nat) : Value :=
  if negative then
    if n = 0 || 0x8000000000000000 < n then .real (-(Float.ofNat n)) else .integer (-(n : Int))
  else if n < 0x8000000000000000 then .integer n
  else .real (Float.ofNat n)

/-- Whether a number goes on with a point or an exponent. -/
def goesOn : Chars → Bool
  | c :: _ => c ∈ ['.', 'e', 'E']
  | [] => false

def number (negative : Bool) (cs : Chars) : Option (Value × Chars) := do
  let (whole, afterWhole) := takeDigits cs
  if whole.isEmpty then none
  if whole.head? = some '0' && 1 < whole.length then none
  let (kept, dropped) := significand 0 whole
  let (kept, exponent, rest) ←
    match afterWhole with
    | '.' :: rest =>
        let (fraction, rest) := takeDigits rest
        if fraction.isEmpty then none
        else
          let (all, left) := significand kept fraction
          some (all, (dropped : Int) - ((fraction.length - left : Nat) : Int), rest)
    | rest => some (kept, (dropped : Int), rest)
  let (power, after) ← exponentPart rest
  if dropped = 0 && !goesOn afterWhole then return (integerOf negative kept, after)
  let x ← realOfParts 8 (Float.ofNat kept) (exponent + power)
  return (.real (if negative then -x else x), after)

/-! ## Values -/

def maxDepth : Nat := 127

def dropText (word : String) (cs : Chars) : Option Chars :=
  if word.toList.isPrefixOf cs then some (cs.drop word.length) else none

mutual

/-- Every call takes a character or hands on to one that does, so a fuel of twice the length is enough. -/
def value : Nat → Nat → Chars → Option (Value × Chars)
  | 0, _, _ => none
  | fuel + 1, depth, cs =>
      match skipBlank cs with
      | '"' :: rest => (stringBody rest).map fun (text, rest) => (.text (String.ofList text), rest)
      | '[' :: rest =>
          if depth = 0 then none
          else
            match skipBlank rest with
            | ']' :: rest => some (.array [], rest)
            | rest => (elements fuel (depth - 1) rest).map fun (items, rest) => (.array items, rest)
      | '\x7b' :: rest =>
          if depth = 0 then none
          else
            match skipBlank rest with
            | '\x7d' :: rest => some (.table [], rest)
            | rest => (members fuel (depth - 1) rest []).map fun (fields, rest) => (.table fields, rest)
      | '-' :: rest => number true rest
      | c :: rest =>
          if c.isDigit then number false (c :: rest)
          else if c = 't' then (dropText "rue" rest).map fun rest => (.boolean true, rest)
          else if c = 'f' then (dropText "alse" rest).map fun rest => (.boolean false, rest)
          else if c = 'n' then (dropText "ull" rest).map fun rest => (.nil, rest)
          else none
      | [] => none

def elements : Nat → Nat → Chars → Option (List Value × Chars)
  | 0, _, _ => none
  | fuel + 1, depth, cs => do
      let (first, rest) ← value fuel depth cs
      match skipBlank rest with
      | ']' :: rest => return ([first], rest)
      | ',' :: rest =>
          let (items, rest) ← elements fuel depth rest
          return (first :: items, rest)
      | _ => none

def members : Nat → Nat → Chars → List (String × Value) → Option (List (String × Value) × Chars)
  | 0, _, _, _ => none
  | fuel + 1, depth, cs, seen =>
      match skipBlank cs with
      | '"' :: rest => do
          let (name, rest) ← stringBody rest
          match skipBlank rest with
          | ':' :: rest =>
              let (v, rest) ← value fuel depth rest
              let seen := Fields.set (String.ofList name) v seen
              match skipBlank rest with
              | '\x7d' :: rest => return (seen, rest)
              | ',' :: rest => members fuel depth rest seen
              | _ => none
          | _ => none
      | _ => none

end

def read? (text : String) : Option Value :=
  let cs := text.toList
  match value (2 * cs.length + 2) maxDepth cs with
  | some (v, rest) => if (skipBlank rest).isEmpty then some v else none
  | none => none

end Connector.Json
