/-! Byte strings as lists. Frames, keys and memory images are all byte strings,
and every one of them is short, so a list is both fast enough and easy to reason
about. -/

namespace Wristband

abbrev Bytes := List UInt8

/-- A byte string of known length, such as a key. -/
abbrev FixedBytes (size : Nat) := { bytes : Bytes // bytes.length = size }

/-- The byte string as one of `size` bytes, when it has that length. -/
def FixedBytes.ofBytes? (size : Nat) (bytes : Bytes) : Option (FixedBytes size) :=
  if sized : bytes.length = size then some ⟨bytes, sized⟩ else none

namespace Bytes

/-- Moves the first byte to the end. -/
def rotateLeft : Bytes → Bytes
  | [] => []
  | first :: rest => rest ++ [first]

/-- The last `size` bytes, or all of them when there are fewer. -/
def lastBlock (size : Nat) (bytes : Bytes) : Bytes :=
  bytes.drop (bytes.length - size)

/-- Bytewise exclusive or, as long as the shorter argument. -/
def xor (left right : Bytes) : Bytes :=
  List.zipWith (· ^^^ ·) left right

/-- The number whose base-256 digits are the bytes, most significant first. -/
def foldBigEndian (bytes : Bytes) : Nat :=
  bytes.foldl (fun value byte => value * 256 + byte.toNat) 0

/-- Replaces the bytes from `start` on by `data`, keeping the length. Bytes that
would fall past the end are dropped. -/
def overwrite (bytes : Bytes) (start : Nat) (data : Bytes) : Bytes :=
  bytes.take start ++ (data ++ bytes.drop (start + data.length)).take (bytes.length - start)

/-- Flips the lowest bit of the byte at `index`, if there is one. -/
def flipAt (bytes : Bytes) (index : Nat) : Bytes :=
  bytes.modify index (· ^^^ 1)

end Bytes

/-- At most so many pieces of `size` elements from the front of a list. -/
def piecesUpTo {α : Type} (size : Nat) : Nat → List α → List (List α)
  | 0, _ => []
  | _, [] => []
  | bound + 1, items => items.take size :: piecesUpTo size bound (items.drop size)

/-- The consecutive pieces of `size` elements that make up a list. Only the last
may be shorter. -/
def pieces {α : Type} (size : Nat) (items : List α) : List (List α) :=
  piecesUpTo size items.length items

end Wristband
