import Connector.Text.Ranges

/-! Capital letters.

- `isUppercase`: the characters with the Unicode property Uppercase. Title case letters, which open with a
  capital and go on with a small letter, are not among them. -/

namespace Connector.Text

/-- Blocks of capitals above ASCII without a gap. -/
def capitalBlocks : List Nat := [
   0xc0, 0xd6, 0xd8, 0xde, 0x178, 0x179, 0x17b, 0x17b, 0x17d, 0x17d, 0x181, 0x182,
   0x184, 0x184, 0x186, 0x187, 0x189, 0x18b, 0x18e, 0x191, 0x193, 0x194, 0x196, 0x198,
   0x19c, 0x19d, 0x19f, 0x1a0, 0x1a2, 0x1a2, 0x1a4, 0x1a4, 0x1a6, 0x1a7, 0x1a9, 0x1a9,
   0x1ac, 0x1ac, 0x1ae, 0x1af, 0x1b1, 0x1b3, 0x1b5, 0x1b5, 0x1b7, 0x1b8, 0x1bc, 0x1bc,
   0x1c4, 0x1c4, 0x1c7, 0x1c7, 0x1ca, 0x1ca, 0x1f1, 0x1f1, 0x1f4, 0x1f4, 0x1f6, 0x1f8,
   0x23a, 0x23b, 0x23d, 0x23e, 0x241, 0x241, 0x243, 0x246, 0x370, 0x370, 0x372, 0x372,
   0x376, 0x376, 0x37f, 0x37f, 0x386, 0x386, 0x388, 0x38a, 0x38c, 0x38c, 0x38e, 0x38f,
   0x391, 0x3a1, 0x3a3, 0x3ab, 0x3cf, 0x3cf, 0x3d2, 0x3d4, 0x3f4, 0x3f4, 0x3f7, 0x3f7,
   0x3f9, 0x3fa, 0x3fd, 0x42f, 0x4c0, 0x4c1, 0x531, 0x556, 0x10a0, 0x10c5, 0x10c7, 0x10c7,
   0x10cd, 0x10cd, 0x13a0, 0x13f5, 0x1c89, 0x1c89, 0x1c90, 0x1cba, 0x1cbd, 0x1cbf,
   0x1f08, 0x1f0f, 0x1f18, 0x1f1d, 0x1f28, 0x1f2f, 0x1f38, 0x1f3f, 0x1f48, 0x1f4d,
   0x1f68, 0x1f6f, 0x1fb8, 0x1fbb, 0x1fc8, 0x1fcb, 0x1fd8, 0x1fdb, 0x1fe8, 0x1fec,
   0x1ff8, 0x1ffb, 0x2102, 0x2102, 0x2107, 0x2107, 0x210b, 0x210d, 0x2110, 0x2112,
   0x2115, 0x2115, 0x2119, 0x211d, 0x212a, 0x212d, 0x2130, 0x2133, 0x213e, 0x213f,
   0x2145, 0x2145, 0x2160, 0x216f, 0x2183, 0x2183, 0x24b6, 0x24cf, 0x2c00, 0x2c2f,
   0x2c60, 0x2c60, 0x2c62, 0x2c64, 0x2c6d, 0x2c70, 0x2c72, 0x2c72, 0x2c75, 0x2c75,
   0x2c7e, 0x2c80, 0x2ceb, 0x2ceb, 0x2ced, 0x2ced, 0x2cf2, 0x2cf2, 0xa779, 0xa779,
   0xa77b, 0xa77b, 0xa77d, 0xa77e, 0xa78b, 0xa78b, 0xa78d, 0xa78d, 0xa790, 0xa790,
   0xa792, 0xa792, 0xa7aa, 0xa7ae, 0xa7b0, 0xa7b4, 0xa7c4, 0xa7c7, 0xa7c9, 0xa7c9,
   0xa7cb, 0xa7cc, 0xa7f5, 0xa7f5, 0xff21, 0xff3a, 0x10400, 0x10427, 0x104b0, 0x104d3,
   0x10570, 0x1057a, 0x1057c, 0x1058a, 0x1058c, 0x10592, 0x10594, 0x10595, 0x10c80, 0x10cb2,
   0x10d50, 0x10d65, 0x118a0, 0x118bf, 0x16e40, 0x16e5f, 0x16ea0, 0x16eb8, 0x1d400, 0x1d419,
   0x1d434, 0x1d44d, 0x1d468, 0x1d481, 0x1d49c, 0x1d49c, 0x1d49e, 0x1d49f, 0x1d4a2, 0x1d4a2,
   0x1d4a5, 0x1d4a6, 0x1d4a9, 0x1d4ac, 0x1d4ae, 0x1d4b5, 0x1d4d0, 0x1d4e9, 0x1d504, 0x1d505,
   0x1d507, 0x1d50a, 0x1d50d, 0x1d514, 0x1d516, 0x1d51c, 0x1d538, 0x1d539, 0x1d53b, 0x1d53e,
   0x1d540, 0x1d544, 0x1d546, 0x1d546, 0x1d54a, 0x1d550, 0x1d56c, 0x1d585, 0x1d5a0, 0x1d5b9,
   0x1d5d4, 0x1d5ed, 0x1d608, 0x1d621, 0x1d63c, 0x1d655, 0x1d670, 0x1d689, 0x1d6a8, 0x1d6c0,
   0x1d6e2, 0x1d6fa, 0x1d71c, 0x1d734, 0x1d756, 0x1d76e, 0x1d790, 0x1d7a8, 0x1d7ca, 0x1d7ca,
   0x1e900, 0x1e921, 0x1f130, 0x1f149, 0x1f150, 0x1f169, 0x1f170, 0x1f189]

/-- Blocks above ASCII where every second code is a capital. -/
def pairedBlocks : List Nat := [
   0x100, 0x136, 0x139, 0x147, 0x14a, 0x176, 0x1cd, 0x1db, 0x1de, 0x1ee, 0x1fa, 0x232,
   0x248, 0x24e, 0x3d8, 0x3ee, 0x460, 0x480, 0x48a, 0x4be, 0x4c3, 0x4cd, 0x4d0, 0x52e,
   0x1e00, 0x1e94, 0x1e9e, 0x1efe, 0x1f59, 0x1f5f, 0x2124, 0x2128, 0x2c67, 0x2c6b,
   0x2c82, 0x2ce2, 0xa640, 0xa66c, 0xa680, 0xa69a, 0xa722, 0xa72e, 0xa732, 0xa76e,
   0xa780, 0xa786, 0xa796, 0xa7a8, 0xa7b6, 0xa7c2, 0xa7ce, 0xa7dc]

def isUppercase (c : Char) : Bool :=
  if c.toNat < 0x80 then c.isUpper
  else Ranges.contains capitalBlocks c.toNat || Ranges.alternates pairedBlocks c.toNat

end Connector.Text
