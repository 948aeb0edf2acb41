import Wristband.Bytes.Basic

/-! The stream cipher ChaCha with twelve rounds and a 64-bit block counter, used as
a generator of random bytes. -/

namespace Wristband.ChaCha

abbrev State := Array UInt32

def rotateLeft (word amount : UInt32) : UInt32 :=
  (word <<< amount) ||| (word >>> (32 - amount))

/-- Adds word `addend` to word `into`, then mixes and turns word `mixed`. -/
def mixWords (into addend mixed : Nat) (amount : UInt32) (state : State) : State :=
  let sum := state.getD into 0 + state.getD addend 0
  (state.setIfInBounds into sum).setIfInBounds mixed
    (rotateLeft (state.getD mixed 0 ^^^ sum) amount)

def quarterRound (a b c d : Nat) (state : State) : State :=
  mixWords c d b 7 (mixWords a b d 8 (mixWords c d b 12 (mixWords a b d 16 state)))

/-- A round on the columns and a round on the diagonals. -/
def doubleRound (state : State) : State :=
  let columns := quarterRound 3 7 11 15 <| quarterRound 2 6 10 14 <|
    quarterRound 1 5 9 13 <| quarterRound 0 4 8 12 state
  quarterRound 3 4 9 14 <| quarterRound 2 7 8 13 <|
    quarterRound 1 6 11 12 <| quarterRound 0 5 10 15 columns

/-- The text that fills the first four words of every state. -/
def constants : List UInt32 := [0x61707865, 0x3320646e, 0x79622d32, 0x6b206574]

def bytesOfWord (word : UInt32) : Bytes :=
  [word.toUInt8, (word >>> 8).toUInt8, (word >>> 16).toUInt8, (word >>> 24).toUInt8]

/-- Sixty-four bytes of key stream for a key of eight words. -/
def block (key : List UInt32) (counter : Nat) : Bytes :=
  let position := [UInt32.ofNat counter, UInt32.ofNat (counter >>> 32), 0, 0]
  let start : State := (constants ++ key ++ position).toArray
  let final := (List.range 6).foldl (fun state _ => doubleRound state) start
  (List.zipWith (· + ·) start.toList final.toList).flatMap bytesOfWord

/-- The key stream, byte by byte. -/
def keyStream (key : List UInt32) (position : Nat) : UInt8 :=
  (block key (position / 64)).getD (position % 64) 0

end Wristband.ChaCha
