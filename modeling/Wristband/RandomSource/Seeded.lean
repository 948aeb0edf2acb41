import Wristband.Cipher.ChaCha
import Wristband.RandomSource

/-! The random source that belongs to a 64-bit seed. A small linear generator stretches
the seed to a key, and the key's stream gives the bytes. -/

namespace Wristband.RandomSource

/-- The next state of the linear generator. -/
def nextSeed (state : UInt64) : UInt64 :=
  state * 6364136223846793005 + 11634580027462260723

/-- The word that a state of the linear generator puts out. -/
def seedWord (state : UInt64) : UInt32 :=
  let word := (((state >>> 18) ^^^ state) >>> 27).toUInt32
  let turn := (state >>> 59).toUInt32
  (word >>> turn) ||| (word <<< ((32 - turn) &&& 31))

/-- So many words from a state of the linear generator on. -/
def seedWords : Nat → UInt64 → List UInt32
  | 0, _ => []
  | count + 1, state =>
    let next := nextSeed state
    seedWord next :: seedWords count next

def seeded (seed : UInt64) : RandomSource :=
  let key := seedWords 8 seed
  { byteAt := ChaCha.keyStream key, taken := 0 }

end Wristband.RandomSource
