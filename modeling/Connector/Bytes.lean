/-! Byte strings, as lists of octets.

- `Bytes.ofString`: the UTF-8 octets of a text.
- `Bytes.reaches`: whether a string has at least so many octets, found without walking the rest of it. -/

namespace Connector

abbrev Bytes := List UInt8

def Bytes.ofString (s : String) : Bytes := s.toUTF8.data.toList

def Bytes.reaches : Nat → Bytes → Bool
  | 0, _ => true
  | _ + 1, [] => false
  | n + 1, _ :: rest => reaches n rest

@[simp] theorem Bytes.reaches_iff (n : Nat) (b : Bytes) : reaches n b = true ↔ n ≤ b.length := by
  induction n generalizing b with
  | zero => simp [reaches]
  | succ n ih => cases b <;> simp [reaches, ih]

end Connector
