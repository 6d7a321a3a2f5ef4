import Connector.Bytes

/-! Text from octets.

- `Utf8.decode`: the text that octets spell, or the first fault in them.
- `Utf8.fault?`: where octets stop being UTF-8, and whether they only break off there.
- `Utf8.lossy`: the text with a replacement character for each faulty run. -/

namespace Connector.Utf8

/-- Both kinds carry the index of the first octet of the faulty character. An `invalid` one also says
how many octets belong to it. -/
inductive Fault where
  | invalid (length index : Nat)
  | incomplete (index : Nat)
  deriving DecidableEq, Repr

def Fault.message : Fault → String
  | .invalid length index => s!"invalid utf-8 sequence of {length} bytes from index {index}"
  | .incomplete index => s!"incomplete utf-8 byte sequence from index {index}"

/-- What a lead octet asks for: the number of octets still owed, and the range of the next one. -/
def lead? (b : UInt8) : Option (Nat × UInt8 × UInt8) :=
  if b ≤ 0x7f then some (0, 0x80, 0xbf)
  else if 0xc2 ≤ b && b ≤ 0xdf then some (1, 0x80, 0xbf)
  else if b = 0xe0 then some (2, 0xa0, 0xbf)
  else if b = 0xed then some (2, 0x80, 0x9f)
  else if 0xe1 ≤ b && b ≤ 0xef then some (2, 0x80, 0xbf)
  else if b = 0xf0 then some (3, 0x90, 0xbf)
  else if 0xf1 ≤ b && b ≤ 0xf3 then some (3, 0x80, 0xbf)
  else if b = 0xf4 then some (3, 0x80, 0x8f)
  else none

/-- The first fault from a character on that starts at `index`, has shown `seen` octets and owes
`owed` more, the next of them from `low` to `high`. -/
def faultFrom (index seen owed : Nat) (low high : UInt8) : Bytes → Option Fault
  | [] => if owed = 0 then none else some (.incomplete index)
  | b :: rest =>
      if owed = 0 then
        match lead? b with
        | none => some (.invalid 1 index)
        | some (0, _, _) => faultFrom (index + 1) 0 0 0x80 0xbf rest
        | some (n + 1, lo, hi) => faultFrom index 1 (n + 1) lo hi rest
      else if low ≤ b && b ≤ high then
        if owed = 1 then faultFrom (index + seen + 1) 0 0 0x80 0xbf rest
        else faultFrom index (seen + 1) (owed - 1) 0x80 0xbf rest
      else some (.invalid seen index)

def fault? (b : Bytes) : Option Fault := faultFrom 0 0 0 0x80 0xbf b

def decode (b : Bytes) : Except Fault String :=
  match String.fromUTF8? ⟨b.toArray⟩ with
  | some s => .ok s
  | none => .error ((fault? b).getD (.incomplete 0))

/-- Text that is known to be sound, as far as it is. -/
def soundPart (b : Bytes) : String := (String.fromUTF8? ⟨b.toArray⟩).getD ""

/-- The parts of a text, with a mark for each faulty run. -/
def lossyParts : Nat → Bytes → List String
  | 0, _ => []
  | fuel + 1, b =>
      match fault? b with
      | none => [soundPart b]
      | some (.incomplete index) => [soundPart (b.take index), "\ufffd"]
      | some (.invalid length index) =>
          soundPart (b.take index) :: "\ufffd" :: lossyParts fuel (b.drop (index + length))

/-- Each faulty run has an octet at least, so the length bounds their number. -/
def lossy (b : Bytes) : String := String.join (lossyParts (b.length + 1) b)

end Connector.Utf8
