import Connector.Bytes

/-! Numbers of 64 bits as groups of seven bits, low group first. Every octet but the last has its top bit set.

- `Varint.encode`: the shortest form of a number.
- `Varint.decode`: the number at the front, and the rest. It fails where none of the first ten groups ends
  the number, and where 64 bits do not hold it. -/

namespace Connector.Varint

def groups (n : Nat) : Bytes :=
  if n < 128 then [UInt8.ofNat n] else UInt8.ofNat (n % 128 + 128) :: groups (n / 128)

def encode (v : UInt64) : Bytes := groups v.toNat

def maxGroups : Nat := 10

/-- The value of the groups up to the first without a top bit, among the next `k`. -/
def read : Nat → Bytes → Option (Nat × Bytes)
  | 0, _ => none
  | _ + 1, [] => none
  | k + 1, b :: rest =>
      if b.toNat < 128 then some (b.toNat, rest)
      else (read k rest).map fun (v, tail) => (b.toNat % 128 + 128 * v, tail)

def decode (b : Bytes) : Option (UInt64 × Bytes) :=
  match read maxGroups b with
  | some (v, rest) => if v < 0x10000000000000000 then some (UInt64.ofNat v, rest) else none
  | none => none

end Connector.Varint
