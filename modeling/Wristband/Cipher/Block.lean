import Wristband.Bytes.Basic

/-! Block ciphers under a fixed key, and their use in cipher block chaining. Every
message of a handshake is a whole number of blocks, so nothing is ever padded. -/

namespace Wristband

/-- A keyed permutation of blocks and its inverse. -/
structure BlockCipher where
  blockSize : Nat
  encrypt : Bytes → Bytes
  decrypt : Bytes → Bytes

/-- Why a message cannot be enciphered or deciphered. -/
inductive CipherError where
  | partialBlocks (length blockSize : Nat)
  | chainingValueLength
deriving DecidableEq, Repr

def CipherError.message : CipherError → String
  | .partialBlocks length blockSize =>
    s!"data length {length} is not a multiple of the {blockSize}-byte block"
  | .chainingValueLength => "Invalid Length"

namespace BlockCipher

/-- Each block is mixed with the cipher block before it and then enciphered. -/
def chainEncrypt (cipher : BlockCipher) : Bytes → List Bytes → Bytes
  | _, [] => []
  | chained, block :: rest =>
    let enciphered := cipher.encrypt (Bytes.xor block chained)
    enciphered ++ chainEncrypt cipher enciphered rest

/-- Each block is deciphered and then mixed with the cipher block before it. -/
def chainDecrypt (cipher : BlockCipher) : Bytes → List Bytes → Bytes
  | _, [] => []
  | chained, block :: rest =>
    Bytes.xor (cipher.decrypt block) chained ++ chainDecrypt cipher block rest

/-- The data must be whole blocks and at least one, and the value that the first
block is mixed with must be one block. The data is checked first. -/
def checkMessage (cipher : BlockCipher) (initial data : Bytes) : Except CipherError Unit :=
  if data.isEmpty ∨ data.length % cipher.blockSize ≠ 0 then
    .error (.partialBlocks data.length cipher.blockSize)
  else if initial.length ≠ cipher.blockSize then .error .chainingValueLength
  else .ok ()

def encryptMessage (cipher : BlockCipher) (initial data : Bytes) : Except CipherError Bytes := do
  cipher.checkMessage initial data
  return cipher.chainEncrypt initial (pieces cipher.blockSize data)

def decryptMessage (cipher : BlockCipher) (initial data : Bytes) : Except CipherError Bytes := do
  cipher.checkMessage initial data
  return cipher.chainDecrypt initial (pieces cipher.blockSize data)

end BlockCipher
end Wristband
