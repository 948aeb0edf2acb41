import Wristband.Proofs.Cipher.Des
import Wristband.Proofs.Cipher.Permutation
import Wristband.Proofs.Handshake.Lifetime

/-! The one confirmation that a handshake takes. Once the challenge is answered it is settled: the
terminal's number, turned and enciphered. Anything else ends the handshake. -/

namespace Wristband

/-- What a handshake makes its last two messages with. The terminal's number has so many bytes, and the
confirmation is chained to a part of the message that the terminal has sent. -/
structure Suite where
  cipher : BlockCipher
  numberLength : Nat
  chainedTo : Bytes → Bytes

namespace Suite

def confirmation (suite : Suite) (hostRandom sent : Bytes) : Except CipherError Bytes :=
  suite.cipher.encryptMessage (suite.chainedTo sent) (Bytes.rotateLeft hostRandom)

structure Sound (suite : Suite) : Prop where
  invertible : suite.cipher.Invertible
  exists_blocks : ∃ blocks, suite.numberLength = suite.cipher.blockSize * (blocks + 1)
  length_chainedTo : ∀ sent, sent.length = Frame.responseLength →
    (suite.chainedTo sent).length = suite.cipher.blockSize

end Suite

namespace Engine

def suite : Engine → Suite
  | tdes handshake => {
      cipher := Des.doubleKeyCipher handshake.key
      numberLength := TdesHandshake.hostRandomLength
      chainedTo := Bytes.lastBlock TdesHandshake.blockSize }
  | aes handshake => {
      cipher := Aes.cipher handshake.key
      numberLength := AesHandshake.blockSize
      chainedTo := fun _ => AesHandshake.zeroBlock }

/-- A handshake of either family that nothing was done with, under any key. -/
inductive IsNew : Engine → Prop
  | tdes (key : FixedBytes Layout.tdesKeyLength) : IsNew (tdes (.new key.val))
  | aes (key : FixedBytes Layout.aesKeyLength) (slot : KeySlot) (cmac : Bool) :
    IsNew (aes (.new key.val slot cmac))

private theorem IsNew.sound {engine : Engine} (isNew : engine.IsNew) : engine.suite.Sound := by
  cases isNew with
  | tdes key =>
    refine ⟨Des.doubleKeyCipher_invertible key.val, ⟨2, rfl⟩, ?_⟩
    intro sent sized
    change (sent.drop (sent.length - 8)).length = 8
    rw [List.length_drop, sized]
    rfl
  | aes key slot cmac =>
    exact ⟨Aes.cipher_invertible key.property, ⟨0, rfl⟩, fun _ _ => List.length_replicate⟩

variable {engine answered : Engine} {challenge : BitVector} {source rest : RandomSource}
  {frame : Bytes}

end Engine
end Wristband
