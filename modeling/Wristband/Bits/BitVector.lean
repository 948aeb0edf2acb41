import Wristband.Bytes.Hex
import Wristband.DataError

/-! Bit strings of exact length, stored eight to a byte. The bits past the length
are kept at zero, so that stored bytes can be compared, joined and cut whenever
a position falls on a byte boundary. Positions are 64-bit numbers: an end that
does not fit into 64 bits is out of range, whatever the length. -/

namespace Wristband

structure BitVector where
  bytes : Bytes
  length : Nat
deriving DecidableEq, Repr

namespace BitVector

/-- The number of positions that 64 bits can name. -/
def positionLimit : Nat := UInt64.size

def empty : BitVector := ⟨[], 0⟩

def ofBytes (bytes : Bytes) : BitVector := ⟨bytes, bytes.length * 8⟩

def zeros (length : Nat) : BitVector := ⟨List.replicate ((length + 7) / 8) 0, length⟩

/-- The stored bytes with room for one more bit. Every eighth bit begins a byte. -/
def room (vector : BitVector) : Bytes :=
  if vector.length % 8 = 0 then vector.bytes ++ [0] else vector.bytes

/-- The vector with one more bit at its end. -/
def push (vector : BitVector) (bit : Bool) : BitVector :=
  let mask : UInt8 := 0x80 >>> UInt8.ofNat (vector.length % 8)
  let bytes := if bit then vector.room.modify (vector.room.length - 1) (· ||| mask) else vector.room
  ⟨bytes, vector.length + 1⟩

def ofBits (bits : List Bool) : BitVector := bits.foldl push empty

/-- The stored bit at a position. -/
def bit (vector : BitVector) (index : Nat) : Bool :=
  (vector.bytes.getD (index / 8) 0).toNat.testBit (7 - index % 8)

/-- The stored bits at `count` positions from `start` on. -/
def bitsFrom (vector : BitVector) (start count : Nat) : List Bool :=
  (List.range' start count).map vector.bit

/-- The bit sequence that the vector stands for. -/
def bits (vector : BitVector) : List Bool := vector.bitsFrom 0 vector.length

def isEmpty (vector : BitVector) : Bool := vector.length == 0

/-- The length in bytes, for a vector of whole bytes. -/
def byteLength? (vector : BitVector) : Option Nat :=
  if vector.length % 8 = 0 then some (vector.length / 8) else none

def get (vector : BitVector) (index : Nat) : Except DataError Bool :=
  if vector.length ≤ index then .error (.bitIndexOutOfRange index vector.length)
  else .ok (vector.bit index)

/-- The eight bits from a position on, as a byte. The position need not be a
multiple of eight: elsewhere the bits are shifted in one by one. -/
def byteAt (vector : BitVector) (offset : Nat) : Except DataError UInt8 :=
  if positionLimit ≤ offset + 8 then .error (.bitIndexOutOfRange offset vector.length)
  else if vector.length < offset + 8 then
    .error (.bitIndexOutOfRange (offset + 7) vector.length)
  else if offset % 8 = 0 then .ok (vector.bytes.getD (offset / 8) 0)
  else .ok <| (vector.bitsFrom offset 8).foldl (fun value bit => value <<< 1 ||| bit.toUInt8) 0

/-- A byte position as a bit position, held at the largest 64-bit number. -/
def bitPosition (byteIndex : Nat) : Nat := min (byteIndex * 8) (positionLimit - 1)

def byte (vector : BitVector) (index : Nat) : Except DataError UInt8 :=
  vector.byteAt (bitPosition index)

/-- The `length` bits from `start` on. Bytes are copied when both ends fall on byte
boundaries, and bits otherwise. -/
def slice (vector : BitVector) (start length : Nat) : Except DataError BitVector :=
  if positionLimit ≤ start + length then .error (.bitIndexOutOfRange start vector.length)
  else if vector.length < start + length then
    .error (.bitIndexOutOfRange (start + length - 1) vector.length)
  else if start % 8 = 0 ∧ length % 8 = 0 then
    .ok (ofBytes ((vector.bytes.drop (start / 8)).take (length / 8)))
  else .ok (ofBits (vector.bitsFrom start length))

/-- The `length` bytes from byte `start` on. -/
def sliceBytes (vector : BitVector) (start length : Nat) : Except DataError BitVector :=
  vector.slice (bitPosition start) (bitPosition length)

/-- The bits of both vectors, one after the other. Bytes are copied when the first
vector ends on a byte boundary and repacked otherwise. -/
def concat (left right : BitVector) : BitVector :=
  if left.length % 8 = 0 then ⟨left.bytes ++ right.bytes, left.length + right.length⟩
  else ofBits (left.bits ++ right.bits)

instance : Append BitVector := ⟨concat⟩

def toBytes (vector : BitVector) : Except DataError Bytes :=
  if vector.length % 8 = 0 then .ok vector.bytes else .error (.notByteAligned vector.length)

/-- One binary digit for each bit. -/
def bitText (vector : BitVector) : String :=
  String.ofList (vector.bits.map fun bit => if bit then '1' else '0')

/-- Hexadecimal for whole bytes and binary otherwise. -/
def text (vector : BitVector) : String :=
  if vector.length % 8 = 0 then Hex.upper vector.bytes else vector.bitText

def description (vector : BitVector) : String :=
  s!"BitVector({vector.length} bits: {vector.text})"

end BitVector
end Wristband
