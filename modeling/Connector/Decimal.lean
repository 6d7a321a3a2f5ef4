import Connector.Text.Hex

/-! Decimal text of floating point numbers.

- `Decimal.read`: the float nearest to a number times a power of ten.
- `Decimal.readDigits`: the same for digits, however many.
- `Decimal.write`: the fewest digits that read back as the float, without an exponent. -/

namespace Connector.Decimal

/-! ## Reading -/

/-- How many digits a number has. Zero has none. -/
def digitCount (n : Nat) : Nat := if n = 0 then 0 else (Nat.toDigits 10 n).length

/-- `digits · 10 ^ exponent`. What no float is near to is zero or infinite. -/
def read (digits : Nat) (exponent : Int) : Float :=
  let top := (digitCount digits : Int) + exponent
  if digits = 0 || top < -400 then 0.0
  else if 400 < top then 1.0 / 0.0
  else Float.ofScientific digits (decide (exponent < 0)) exponent.natAbs

/-- No float has more digits, and no middle between two floats. -/
def maxDigits : Nat := 800

/-- Of digits beyond those that floats have, only it counts whether one is not zero. -/
def readDigits (digits : List Char) (exponent : Int) : Float :=
  let digits := digits.dropWhile (· == '0')
  let kept := Nat.ofDigitChars 10 (digits.take maxDigits) 0
  match digits.drop maxDigits with
  | [] => read kept exponent
  | more => read (kept * 10 + if more.any (· != '0') then 1 else 0) (exponent + more.length - 1)

/-! ## Writing -/

/-- A finite positive float as `mantissa · 2 ^ exponent`, and whether the gap below it is half the gap
above. -/
structure Parts where
  mantissa : Nat
  exponent : Int
  narrowBelow : Bool

def parts (bits : Nat) : Parts :=
  let fraction : Nat := bits % 0x10000000000000
  let level : Nat := bits / 0x10000000000000 % 0x800
  if level = 0 then ⟨fraction, -1074, false⟩
  else ⟨0x10000000000000 + fraction, (level : Int) - 1075, fraction = 0 && 1 < level⟩

def scaleUp (base : Nat) (e : Int) : Nat := if e < 0 then 1 else Nat.pow base e.natAbs

def scaleDown (base : Nat) (e : Int) : Nat := if e < 0 then Nat.pow base e.natAbs else 1

/-- Four times the float over ten to the `k`, as a fraction, with a quarter of the gap above it. -/
structure Scaled where
  value : Nat
  quarter : Nat
  unit : Nat

def scaled (p : Parts) (k : Int) : Scaled :=
  let up := scaleUp 2 p.exponent * scaleDown 10 k
  ⟨4 * p.mantissa * up, up, 4 * scaleDown 2 p.exponent * scaleUp 10 k⟩

/-- Whether `c · 10 ^ k` reads back as the float. The ends of the interval do for even mantissas. -/
def readsBack (p : Parts) (s : Scaled) (c : Nat) : Bool :=
  let low := s.value - (if p.narrowBelow then s.quarter else 2 * s.quarter)
  let high := s.value + 2 * s.quarter
  let point := c * s.unit
  if p.mantissa % 2 = 0 then low ≤ point && point ≤ high else low < point && point < high

/-- The nearer neighbour of the float on the grid of ten to the `k` that reads back. Of two as near, the one
further from zero. -/
def onGrid (p : Parts) (k : Int) : Option Nat :=
  let s := scaled p k
  let below := s.value / s.unit
  let distanceBelow := s.value - below * s.unit
  let distanceAbove := (below + 1) * s.unit - s.value
  match readsBack p s below, readsBack p s (below + 1) with
  | true, true => some (if distanceBelow < distanceAbove then below else below + 1)
  | true, false => some below
  | false, true => some (below + 1)
  | false, false => none

/-- Tries finer and finer grids from ten to the `k` on. -/
def finest (p : Parts) (k : Int) : Nat → Nat × Int
  | 0 => (0, 0)
  | fuel + 1 =>
      match onGrid p k with
      | some c => if c = 0 then finest p (k - 1) fuel else (c, k)
      | none => finest p (k - 1) fuel

/-- Digits and exponent. No float reaches ten to the 309, and none needs a grid below ten to the -343. -/
def shortest (bits : Nat) : Nat × Int := finest (parts bits) 309 660

/-- Digits with the point where the exponent says. -/
def positional (digits : Nat) (exponent : Int) : String :=
  let text := Nat.toDigits 10 digits
  if 0 ≤ exponent then String.ofList (text ++ List.replicate exponent.natAbs '0')
  else
    let places := exponent.natAbs
    let padded := List.replicate (places + 1 - text.length) '0' ++ text
    let whole := padded.length - places
    String.ofList (padded.take whole ++ '.' :: padded.drop whole)

def write (x : Float) : String :=
  if x.isNaN then "NaN"
  else
    let bits := x.toBits.toNat
    let sign := if 0x8000000000000000 ≤ bits then "-" else ""
    let size := bits % 0x8000000000000000
    if x.isInf then sign ++ "inf"
    else if size = 0 then sign ++ "0"
    else
      let (digits, exponent) := shortest size
      sign ++ positional digits exponent

end Connector.Decimal
