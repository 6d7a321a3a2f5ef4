/-! Numbers as digits, in bases up to sixteen.

- `hexDigits`: the digits of a number, in small letters and without leading zeros.
- `hexValue?`: the value of one digit of either case.
- `valueUpTo`: the number that digits spell, or a bound if it is beyond that. -/

namespace Connector.Text

def hexDigits (n : Nat) : List Char := Nat.toDigits 16 n

def hexValue? (c : Char) : Option Nat :=
  if c.isDigit then some (c.toNat - '0'.toNat)
  else if 'a' ≤ c && c ≤ 'f' then some (c.toNat - 'a'.toNat + 10)
  else if 'A' ≤ c && c ≤ 'F' then some (c.toNat - 'A'.toNat + 10)
  else none

def digitValue (c : Char) : Nat := (hexValue? c).getD 0

/-- Its cost is that of the digits and not that of the number. -/
def valueUpTo (bound base : Nat) (digits : List Char) : Nat :=
  digits.foldl (fun n c => min bound (n * base + digitValue c)) 0

end Connector.Text
