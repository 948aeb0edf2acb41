import Wristband.Bits.Packing
import Wristband.Cipher.Block

/-! The DES block cipher and its threefold use under two keys. Blocks, halves and
round keys are lists of bits, first bit first, and every wiring of the standard is a
list of the positions that its outputs are taken from. -/

namespace Wristband.Des

abbrev Bits := List Bool

/-- Takes the bits at the given positions. -/
def select (positions : List Nat) (bits : Bits) : Bits :=
  let table := bits.toArray
  positions.map fun position => table.getD position false

def xorBits (left right : Bits) : Bits := List.zipWith (fun a b => a != b) left right

/-- The wiring in front of the first round. -/
def initialPositions : List Nat :=
  [57, 49, 41, 33, 25, 17, 9, 1, 59, 51, 43, 35, 27, 19, 11, 3,
   61, 53, 45, 37, 29, 21, 13, 5, 63, 55, 47, 39, 31, 23, 15, 7,
   56, 48, 40, 32, 24, 16, 8, 0, 58, 50, 42, 34, 26, 18, 10, 2,
   60, 52, 44, 36, 28, 20, 12, 4, 62, 54, 46, 38, 30, 22, 14, 6]

/-- The wiring behind the last round, which undoes the one in front of the first. -/
def finalPositions : List Nat :=
  [39, 7, 47, 15, 55, 23, 63, 31, 38, 6, 46, 14, 54, 22, 62, 30,
   37, 5, 45, 13, 53, 21, 61, 29, 36, 4, 44, 12, 52, 20, 60, 28,
   35, 3, 43, 11, 51, 19, 59, 27, 34, 2, 42, 10, 50, 18, 58, 26,
   33, 1, 41, 9, 49, 17, 57, 25, 32, 0, 40, 8, 48, 16, 56, 24]

/-- Stretches a half of 32 bits to 48. -/
def expansionPositions : List Nat :=
  [31, 0, 1, 2, 3, 4, 3, 4, 5, 6, 7, 8, 7, 8, 9, 10, 11, 12, 11, 12, 13, 14, 15, 16,
   15, 16, 17, 18, 19, 20, 19, 20, 21, 22, 23, 24, 23, 24, 25, 26, 27, 28,
   27, 28, 29, 30, 31, 0]

/-- Spreads the substituted bits over the half. -/
def spreadPositions : List Nat :=
  [15, 6, 19, 20, 28, 11, 27, 16, 0, 14, 22, 25, 4, 17, 30, 9,
   1, 7, 23, 13, 31, 26, 2, 8, 18, 12, 29, 5, 21, 10, 3, 24]

/-- The 56 bits of a key that count; the lowest bit of each byte does not. -/
def keyPositions : List Nat :=
  [56, 48, 40, 32, 24, 16, 8, 0, 57, 49, 41, 33, 25, 17,
   9, 1, 58, 50, 42, 34, 26, 18, 10, 2, 59, 51, 43, 35,
   62, 54, 46, 38, 30, 22, 14, 6, 61, 53, 45, 37, 29, 21,
   13, 5, 60, 52, 44, 36, 28, 20, 12, 4, 27, 19, 11, 3]

/-- The 48 bits of a round key, taken from the two turned key halves. -/
def roundKeyPositions : List Nat :=
  [13, 16, 10, 23, 0, 4, 2, 27, 14, 5, 20, 9, 22, 18, 11, 3, 25, 7, 15, 6, 26, 19, 12, 1,
   40, 51, 30, 36, 46, 54, 29, 39, 50, 44, 32, 47, 43, 48, 38, 55, 33, 52, 45, 41, 49, 35, 28, 31]

/-- How far the key halves turn before each round. -/
def turns : List Nat := [1, 1, 2, 2, 2, 2, 2, 2, 1, 2, 2, 2, 2, 2, 2, 1]

/-- The eight substitution boxes, each with four rows of sixteen values. -/
def boxes : List (Array Nat) := [
  #[14, 4, 13, 1, 2, 15, 11, 8, 3, 10, 6, 12, 5, 9, 0, 7,
    0, 15, 7, 4, 14, 2, 13, 1, 10, 6, 12, 11, 9, 5, 3, 8,
    4, 1, 14, 8, 13, 6, 2, 11, 15, 12, 9, 7, 3, 10, 5, 0,
    15, 12, 8, 2, 4, 9, 1, 7, 5, 11, 3, 14, 10, 0, 6, 13],
  #[15, 1, 8, 14, 6, 11, 3, 4, 9, 7, 2, 13, 12, 0, 5, 10,
    3, 13, 4, 7, 15, 2, 8, 14, 12, 0, 1, 10, 6, 9, 11, 5,
    0, 14, 7, 11, 10, 4, 13, 1, 5, 8, 12, 6, 9, 3, 2, 15,
    13, 8, 10, 1, 3, 15, 4, 2, 11, 6, 7, 12, 0, 5, 14, 9],
  #[10, 0, 9, 14, 6, 3, 15, 5, 1, 13, 12, 7, 11, 4, 2, 8,
    13, 7, 0, 9, 3, 4, 6, 10, 2, 8, 5, 14, 12, 11, 15, 1,
    13, 6, 4, 9, 8, 15, 3, 0, 11, 1, 2, 12, 5, 10, 14, 7,
    1, 10, 13, 0, 6, 9, 8, 7, 4, 15, 14, 3, 11, 5, 2, 12],
  #[7, 13, 14, 3, 0, 6, 9, 10, 1, 2, 8, 5, 11, 12, 4, 15,
    13, 8, 11, 5, 6, 15, 0, 3, 4, 7, 2, 12, 1, 10, 14, 9,
    10, 6, 9, 0, 12, 11, 7, 13, 15, 1, 3, 14, 5, 2, 8, 4,
    3, 15, 0, 6, 10, 1, 13, 8, 9, 4, 5, 11, 12, 7, 2, 14],
  #[2, 12, 4, 1, 7, 10, 11, 6, 8, 5, 3, 15, 13, 0, 14, 9,
    14, 11, 2, 12, 4, 7, 13, 1, 5, 0, 15, 10, 3, 9, 8, 6,
    4, 2, 1, 11, 10, 13, 7, 8, 15, 9, 12, 5, 6, 3, 0, 14,
    11, 8, 12, 7, 1, 14, 2, 13, 6, 15, 0, 9, 10, 4, 5, 3],
  #[12, 1, 10, 15, 9, 2, 6, 8, 0, 13, 3, 4, 14, 7, 5, 11,
    10, 15, 4, 2, 7, 12, 9, 5, 6, 1, 13, 14, 0, 11, 3, 8,
    9, 14, 15, 5, 2, 8, 12, 3, 7, 0, 4, 10, 1, 13, 11, 6,
    4, 3, 2, 12, 9, 5, 15, 10, 11, 14, 1, 7, 6, 0, 8, 13],
  #[4, 11, 2, 14, 15, 0, 8, 13, 3, 12, 9, 7, 5, 10, 6, 1,
    13, 0, 11, 7, 4, 9, 1, 10, 14, 3, 5, 12, 2, 15, 8, 6,
    1, 4, 11, 13, 12, 3, 7, 14, 10, 15, 6, 8, 0, 5, 9, 2,
    6, 11, 13, 8, 1, 4, 10, 7, 9, 5, 0, 15, 14, 2, 3, 12],
  #[13, 2, 8, 4, 6, 15, 11, 1, 10, 9, 3, 14, 5, 0, 12, 7,
    1, 15, 13, 8, 10, 3, 7, 4, 12, 5, 6, 11, 0, 14, 9, 2,
    7, 11, 4, 1, 9, 12, 14, 2, 0, 6, 10, 13, 15, 3, 5, 8,
    2, 1, 14, 7, 4, 10, 8, 13, 15, 12, 9, 0, 3, 5, 6, 11]]

def numberOfBits (bits : Bits) : Nat :=
  bits.foldl (fun value bit => 2 * value + bit.toNat) 0

/-- The outer bits of six choose the row of a box and the inner ones the column. -/
def substituteSix (box : Array Nat) : Bits → Bits
  | [b0, b1, b2, b3, b4, b5] =>
    let value := box.getD (16 * numberOfBits [b0, b5] + numberOfBits [b1, b2, b3, b4]) 0
    [value.testBit 3, value.testBit 2, value.testBit 1, value.testBit 0]
  | _ => [false, false, false, false]

/-- What a round mixes into a half. -/
def mangle (roundKey half : Bits) : Bits :=
  let mixed := xorBits (select expansionPositions half) roundKey
  select spreadPositions <|
    (List.zipWith substituteSix boxes (pieces 6 mixed)).flatten

/-- Turns a key half to the left. -/
def turn (amount : Nat) (half : Bits) : Bits := half.drop amount ++ half.take amount

def keysOfHalves : List Nat → Bits → Bits → List Bits
  | [], _, _ => []
  | amount :: rest, left, right =>
    let left := turn amount left
    let right := turn amount right
    select roundKeyPositions (left ++ right) :: keysOfHalves rest left right

/-- The sixteen round keys of a key of eight bytes. -/
def roundKeys (key : Bytes) : List Bits :=
  let selected := select keyPositions (unpackBits key)
  keysOfHalves turns (selected.take 28) (selected.drop 28)

/-- The two halves of a block between rounds. -/
abbrev Halves := Bits × Bits

/-- One round: the right half moves to the left, and the left half is mixed with what
`mix` makes of the right one. -/
def forward {κ : Type} (mix : κ → Bits → Bits) (key : κ) (halves : Halves) : Halves :=
  (halves.2, xorBits halves.1 (mix key halves.2))

/-- Undoes one round. -/
def backward {κ : Type} (mix : κ → Bits → Bits) (key : κ) (halves : Halves) : Halves :=
  (xorBits halves.2 (mix key halves.1), halves.1)

def runForward {κ : Type} (mix : κ → Bits → Bits) (keys : List κ) (halves : Halves) : Halves :=
  keys.foldl (fun current key => forward mix key current) halves

def runBackward {κ : Type} (mix : κ → Bits → Bits) (keys : List κ) (halves : Halves) : Halves :=
  keys.foldr (fun key current => backward mix key current) halves

/-- The halves that a block is split into in front of the first round. -/
def split (block : Bytes) : Halves :=
  let bits := select initialPositions (unpackBits block)
  (bits.take 32, bits.drop 32)

/-- The block that the halves behind the last round make up. -/
def join (halves : Halves) : Bytes :=
  packBits (select finalPositions (halves.2 ++ halves.1))

/-- The halves that end up in a block. -/
def splitLast (block : Bytes) : Halves :=
  let bits := select initialPositions (unpackBits block)
  (bits.drop 32, bits.take 32)

/-- The block that was split into the given halves. -/
def joinFirst (halves : Halves) : Bytes :=
  packBits (select finalPositions (halves.1 ++ halves.2))

def encryptBlock (keys : List Bits) (block : Bytes) : Bytes :=
  join (runForward mangle keys (split block))

def decryptBlock (keys : List Bits) (block : Bytes) : Bytes :=
  joinFirst (runBackward mangle keys (splitLast block))

/-- Encrypts, decrypts and encrypts again, with the first half of a key of sixteen
bytes on the outside and the second half between. -/
def doubleKeyCipher (key : Bytes) : BlockCipher :=
  let outer := roundKeys (key.take 8)
  let inner := roundKeys (key.drop 8)
  { blockSize := 8
    encrypt := fun block => encryptBlock outer (decryptBlock inner (encryptBlock outer block))
    decrypt := fun block => decryptBlock outer (encryptBlock inner (decryptBlock outer block)) }

end Wristband.Des
