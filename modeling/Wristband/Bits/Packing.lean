import Wristband.Bytes.Basic

/-! Bits and bytes. The first bit of a byte is its most significant one. -/

namespace Wristband

/-- The eight bits of a byte, most significant first. -/
def bitsOfByte (byte : UInt8) : List Bool :=
  (List.range 8).map fun place => byte.toNat.testBit (7 - place)

/-- The byte that starts with the given bits. Missing bits are zero. -/
def byteOfBits (bits : List Bool) : UInt8 :=
  UInt8.ofNat <| (List.range 8).foldl
    (fun value place => 2 * value + (bits.getD place false).toNat) 0

def unpackBits (bytes : Bytes) : List Bool :=
  bytes.flatMap bitsOfByte

/-- The bits in as few bytes as hold them, padded with zeros at the end. -/
def packBits (bits : List Bool) : Bytes :=
  (pieces 8 bits).map byteOfBits

end Wristband
