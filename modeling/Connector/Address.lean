import Connector.Text.Hex

/-! Addresses of hosts and the ports on them.

- `Address.parse?`: the address that a text spells.
- `Address.text`: an address in its shortest form. -/

namespace Connector

inductive Host where
  | v4 (a b c d : UInt8)
  /-- Eight groups, and the number of the network that they count in. No number is zero. -/
  | v6 (groups : List UInt16) (scope : UInt32)
  deriving DecidableEq, Repr

structure Address where
  host : Host
  port : UInt16
  deriving DecidableEq, Repr

/-! ## Writing -/

namespace Host

def dotted (a b c d : UInt8) : String := s!"{a}.{b}.{c}.{d}"

def joined (groups : List UInt16) : String :=
  ":".intercalate (groups.map fun g => String.ofList (Text.hexDigits g.toNat))

/-- Where the longest run of zeros starts, and its length. Of several the first counts. -/
def longestRun (groups : List UInt16) : Nat × Nat :=
  let runs := (List.range groups.length).map fun i => (i, ((groups.drop i).takeWhile (· = 0)).length)
  runs.foldl (fun best run => if best.2 < run.2 then run else best) (0, 0)

/-- The longest run of zeros is left out, if it is more than one. -/
def shortened (groups : List UInt16) : String :=
  let (start, length) := longestRun groups
  if length < 2 then joined groups
  else joined (groups.take start) ++ "::" ++ joined (groups.drop (start + length))

def high (g : UInt16) : UInt8 := (g >>> 8).toUInt8

/-- Addresses with four octets that are written in groups keep their points. -/
def groupsText : List UInt16 → String
  | [0, 0, 0, 0, 0, 0xffff, g, h] => "::ffff:" ++ dotted (high g) g.toUInt8 (high h) h.toUInt8
  | groups => shortened groups

end Host

def Address.text : Address → String
  | ⟨.v4 a b c d, port⟩ => s!"{Host.dotted a b c d}:{port}"
  | ⟨.v6 groups scope, port⟩ =>
      let place := if scope = 0 then "" else s!"%{scope}"
      s!"[{Host.groupsText groups}{place}]:{port}"

instance : ToString Address := ⟨Address.text⟩

/-! ## Reading -/

namespace Address

abbrev Chars := List Char

def drop? (mark : Char) : Chars → Option Chars
  | c :: rest => if c = mark then some rest else none
  | [] => none

/-- Digits as a number within a bound, and what follows them. -/
def number? (base bound : Nat) (cs : Chars) : Option (Nat × Chars) :=
  let digits := cs.takeWhile fun c => (Text.hexValue? c).any (· < base)
  let n := Text.valueUpTo (bound + 1) base digits
  if digits.isEmpty || bound < n then none else some (n, cs.drop digits.length)

/-- No octet has zeros before it. -/
def octet? (cs : Chars) : Option (UInt8 × Chars) := do
  let (n, rest) ← number? 10 255 cs
  if cs.head? = some '0' && rest.length + 1 < cs.length then none
  return (UInt8.ofNat n, rest)

def v4? (cs : Chars) : Option ((UInt8 × UInt8 × UInt8 × UInt8) × Chars) := do
  let (a, rest) ← octet? cs
  let (b, rest) ← octet? (← drop? '.' rest)
  let (c, rest) ← octet? (← drop? '.' rest)
  let (d, rest) ← octet? (← drop? '.' rest)
  return ((a, b, c, d), rest)

/-- A group has four digits at most. -/
def group? (cs : Chars) : Option (UInt16 × Chars) := do
  let (n, rest) ← number? 16 0xffff cs
  if rest.length + 4 < cs.length then none
  return (UInt16.ofNat n, rest)

def pair (a b : UInt8) : UInt16 := UInt16.ofNat (a.toNat * 256 + b.toNat)

/-- Groups with colons between them, as many as there is room for, and whether four octets stand for the
last two of them. -/
def groupsFrom (first : Bool) : Nat → Chars → List UInt16 × Bool × Chars
  | 0, cs => ([], false, cs)
  | room + 1, cs =>
      match if first then some cs else drop? ':' cs with
      | none => ([], false, cs)
      | some start =>
          match if room = 0 then none else v4? start with
          | some ((a, b, c, d), rest) => ([pair a b, pair c d], true, rest)
          | none =>
              match group? start with
              | some (g, rest) =>
                  let (groups, dotted, rest) := groupsFrom false room rest
                  (g :: groups, dotted, rest)
              | none => ([], false, cs)

/-- All eight groups, or some of them with two colons where zeros were left out. -/
def v6? (cs : Chars) : Option (List UInt16 × Chars) :=
  let (head, dotted, rest) := groupsFrom true 8 cs
  if head.length = 8 then some (head, rest)
  else if dotted then none
  else
    match rest with
    | ':' :: ':' :: rest =>
        let (tail, _, rest) := groupsFrom true (7 - head.length) rest
        some (head ++ List.replicate (8 - head.length - tail.length) 0 ++ tail, rest)
    | _ => none

def scope? (cs : Chars) : Option (UInt32 × Chars) :=
  match drop? '%' cs with
  | none => some (0, cs)
  | some rest => (number? 10 0xffffffff rest).map fun (n, rest) => (UInt32.ofNat n, rest)

def host? : Chars → Option (Host × Chars)
  | '[' :: rest => do
      let (groups, rest) ← v6? rest
      let (scope, rest) ← scope? rest
      return (.v6 groups scope, ← drop? ']' rest)
  | cs => do
      let ((a, b, c, d), rest) ← v4? cs
      return (.v4 a b c d, rest)

def parse? (text : String) : Option Address := do
  let (host, rest) ← host? text.toList
  let (port, rest) ← number? 10 0xffff (← drop? ':' rest)
  if rest.isEmpty then some ⟨host, UInt16.ofNat port⟩ else none

end Address

end Connector
