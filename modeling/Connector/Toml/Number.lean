import Connector.Decimal
import Connector.Toml.Text
import Connector.Value

/-! Numbers in settings files in TOML.

- `Toml.integer?`, `Toml.real?`: a number, and what follows it. Whole numbers fit 64 bits with a sign, and
  no number is too large for a float. -/

namespace Connector.Toml

/-! ## Digits -/

/-- Digits up to the first other character. Underscores between digits are left out. -/
def digitsFrom (isDigit : Char → Bool) : Chars → Chars × Chars
  | '_' :: c :: rest =>
      if isDigit c then
        let (digits, after) := digitsFrom isDigit rest
        (c :: digits, after)
      else ([], '_' :: c :: rest)
  | c :: rest =>
      if isDigit c then
        let (digits, after) := digitsFrom isDigit rest
        (c :: digits, after)
      else ([], c :: rest)
  | [] => ([], [])

/-- At least one digit, and no underscore before it. -/
def digits? (isDigit : Char → Bool) : Chars → Option (Chars × Chars)
  | c :: rest =>
      if isDigit c then
        let (digits, after) := digitsFrom isDigit rest
        some (c :: digits, after)
      else none
  | [] => none

/-- Digits without a leading zero, or a single zero. -/
def wholeDigits? : Chars → Option (Chars × Chars)
  | '0' :: rest => some (['0'], rest)
  | cs => digits? Char.isDigit cs

def sign : Chars → Bool × Chars
  | '-' :: rest => (true, rest)
  | '+' :: rest => (false, rest)
  | cs => (false, cs)

/-! ## Whole numbers -/

def isDigitBelow (base : Nat) (c : Char) : Bool :=
  match Text.hexValue? c with
  | some n => n < base
  | none => false

/-- No whole number reaches it. -/
def wholeBound : Nat := 0x10000000000000000

def fits (n : Int) : Option Value :=
  if -0x8000000000000000 ≤ n && n < 0x8000000000000000 then some (.integer n) else none

def based? (base : Nat) (cs : Chars) : Option (Value × Chars) := do
  let (digits, rest) ← digits? (isDigitBelow base) cs
  return (← fits (Text.valueUpTo wholeBound base digits), rest)

def integer? : Chars → Option (Value × Chars)
  | '0' :: 'x' :: rest => based? 16 rest
  | '0' :: 'o' :: rest => based? 8 rest
  | '0' :: 'b' :: rest => based? 2 rest
  | cs => do
      let (negative, cs) := sign cs
      let (digits, rest) ← wholeDigits? cs
      let n : Int := Text.valueUpTo wholeBound 10 digits
      return (← fits (if negative then -n else n), rest)

/-! ## Floats -/

/-- The digits after a point. -/
def fraction? : Chars → Option (Chars × Chars)
  | '.' :: rest => digits? Char.isDigit rest
  | cs => some ([], cs)

/-- Digits of an exponent do not count once those before them are beyond 16 bits. -/
def exponentValue (digits : Chars) : Nat :=
  digits.foldl (fun n c => if n < 0x10000 then n * 10 + Text.digitValue c else n) 0

def exponent? : Chars → Option (Int × Chars)
  | 'e' :: rest | 'E' :: rest => do
      let (negative, rest) := sign rest
      let (digits, rest) ← digits? Char.isDigit rest
      let n : Int := exponentValue digits
      return (if negative then -n else n, rest)
  | cs => some (0, cs)

def negateIf (negative : Bool) (x : Float) : Float := if negative then -x else x

/-- Whether a number goes on with a point or an exponent. -/
def goesOn : Chars → Bool
  | c :: _ => c ∈ ['.', 'e', 'E']
  | [] => false

/-- A number with a point, an exponent or both. -/
def decimal? (negative : Bool) (cs : Chars) : Option (Value × Chars) := do
  let (whole, rest) ← wholeDigits? cs
  if !goesOn rest then none
  let (fraction, rest) ← fraction? rest
  let (exponent, rest) ← exponent? rest
  let x := Decimal.readDigits (whole ++ fraction) (exponent - fraction.length)
  if x.isInf && !negative then none
  return (.real (negateIf negative x), rest)

def real? (cs : Chars) : Option (Value × Chars) :=
  match sign cs with
  | (negative, 'i' :: 'n' :: 'f' :: rest) => some (.real (negateIf negative (1.0 / 0.0)), rest)
  | (_, 'n' :: 'a' :: 'n' :: rest) => some (.real (0.0 / 0.0), rest)
  | (negative, cs) => decimal? negative cs

end Connector.Toml
