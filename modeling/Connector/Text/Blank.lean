import Connector.Text.Ranges

/-! Blanks: the characters with the Unicode property White_Space.

- `trim`, `trimEnd`: text without the blanks around it, and without those at its end. -/

namespace Connector.Text

def blankBlocks : List Nat := [
  0x9, 0xd, 0x20, 0x20, 0x85, 0x85, 0xa0, 0xa0, 0x1680, 0x1680, 0x2000, 0x200a, 0x2028, 0x2029,
  0x202f, 0x202f, 0x205f, 0x205f, 0x3000, 0x3000]

def isBlank (c : Char) : Bool := Ranges.contains blankBlocks c.toNat

def trimEnd (cs : List Char) : List Char := (cs.reverse.dropWhile isBlank).reverse

def trim (cs : List Char) : List Char := trimEnd (cs.dropWhile isBlank)

end Connector.Text
