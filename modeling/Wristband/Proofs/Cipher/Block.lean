import Wristband.Cipher.Block
import Wristband.Proofs.Bytes.Pieces

/-! Cipher block chaining over a block cipher that can be undone. Nothing is asked of the cipher
but its inverse and the length of its blocks, so one argument serves both families. -/

namespace Wristband

namespace Bytes

variable {left right : Bytes}

@[simp] theorem length_xor : (xor left right).length = min left.length right.length :=
  List.length_zipWith

theorem xor_xor (covered : left.length ≤ right.length) : xor (xor left right) right = left := by
  induction left generalizing right with
  | nil => rfl
  | cons first rest ih =>
    cases right with
    | nil => simp at covered
    | cons other others =>
      simp only [List.length_cons, Nat.add_le_add_iff_right] at covered
      simp only [xor, List.zipWith_cons_cons] at ih ⊢
      rw [ih covered, UInt8.xor_assoc, UInt8.xor_self, UInt8.xor_zero]

@[simp] theorem length_rotateLeft (bytes : Bytes) : (rotateLeft bytes).length = bytes.length := by
  cases bytes <;> simp [rotateLeft]

theorem length_lastBlock {size : Nat} (enough : size ≤ left.length) :
    (lastBlock size left).length = size := by
  rw [lastBlock, List.length_drop]
  omega

end Bytes

namespace BlockCipher

structure Invertible (cipher : BlockCipher) : Prop where
  positive : 0 < cipher.blockSize
  length_encrypt : ∀ block, block.length = cipher.blockSize →
    (cipher.encrypt block).length = cipher.blockSize
  decrypt_encrypt : ∀ block, block.length = cipher.blockSize →
    cipher.decrypt (cipher.encrypt block) = block

namespace Invertible

variable {cipher : BlockCipher} (invertible : cipher.Invertible) {initial : Bytes}
include invertible

theorem length_encrypt_xor {block : Bytes} (whole : block.length = cipher.blockSize)
    (sized : initial.length = cipher.blockSize) :
    (cipher.encrypt (Bytes.xor block initial)).length = cipher.blockSize := by
  apply invertible.length_encrypt
  rw [Bytes.length_xor, whole, sized, Nat.min_self]

theorem length_chainEncrypt {blocks : List Bytes} (sized : initial.length = cipher.blockSize)
    (whole : ∀ block ∈ blocks, block.length = cipher.blockSize) :
    (cipher.chainEncrypt initial blocks).length = blocks.flatten.length := by
  induction blocks generalizing initial with
  | nil => rfl
  | cons block blocks ih =>
    have first := whole block List.mem_cons_self
    have enciphered := invertible.length_encrypt_xor first sized
    have rest := ih enciphered fun other listed => whole other (List.mem_cons_of_mem block listed)
    simp only [chainEncrypt, List.length_append, List.flatten_cons, enciphered, rest, first]

/-- Each cipher block is both deciphered and mixed into the next one. -/
theorem chainDecrypt_chainEncrypt {blocks : List Bytes}
    (sized : initial.length = cipher.blockSize)
    (whole : ∀ block ∈ blocks, block.length = cipher.blockSize) :
    cipher.chainDecrypt initial (pieces cipher.blockSize (cipher.chainEncrypt initial blocks)) =
      blocks.flatten := by
  induction blocks generalizing initial with
  | nil => rfl
  | cons block blocks ih =>
    have first := whole block List.mem_cons_self
    have enciphered := invertible.length_encrypt_xor first sized
    have mixed : (Bytes.xor block initial).length = cipher.blockSize := by
      rw [Bytes.length_xor, first, sized, Nat.min_self]
    have rest := ih enciphered fun other listed => whole other (List.mem_cons_of_mem block listed)
    rw [chainEncrypt, pieces_append invertible.positive _ enciphered, chainDecrypt,
      invertible.decrypt_encrypt _ mixed, Bytes.xor_xor (Nat.le_of_eq (first.trans sized.symm)),
      rest, List.flatten_cons]

omit invertible in
private theorem checkMessage_ok {data : Bytes} (some_ : data ≠ [])
    (whole : data.length % cipher.blockSize = 0) (sized : initial.length = cipher.blockSize) :
    cipher.checkMessage initial data = .ok () := by
  have inside : ¬ (data.isEmpty = true ∨ data.length % cipher.blockSize ≠ 0) := by
    simp [some_, whole]
  rw [checkMessage, if_neg inside, if_neg (not_not_intro sized)]

/-- Whole blocks are enciphered to as many bytes, from which they come back. -/
theorem encryptMessage_decrypts {data : Bytes} (some_ : data ≠ [])
    (whole : data.length % cipher.blockSize = 0) (sized : initial.length = cipher.blockSize) :
    ∃ message, cipher.encryptMessage initial data = .ok message ∧
      message.length = data.length ∧ cipher.decryptMessage initial message = .ok data := by
  have each : ∀ block ∈ pieces cipher.blockSize data, block.length = cipher.blockSize :=
    fun _ => length_of_mem_pieces invertible.positive whole
  have sameLength := invertible.length_chainEncrypt sized each
  have back := invertible.chainDecrypt_chainEncrypt sized each
  rw [flatten_pieces invertible.positive] at sameLength back
  have someMessage : cipher.chainEncrypt initial (pieces cipher.blockSize data) ≠ [] := by
    apply List.ne_nil_of_length_pos
    rw [sameLength]
    exact List.length_pos_iff.mpr some_
  refine ⟨_, ?_, sameLength, ?_⟩
  · rw [encryptMessage, checkMessage_ok some_ whole sized]
    rfl
  · rw [decryptMessage, checkMessage_ok someMessage (by rw [sameLength, whole]) sized]
    exact congrArg Except.ok back

/-- The same for a number of blocks that is known. -/
theorem encryptMessage_blocks (blocks : Nat) {data : Bytes}
    (sized : data.length = cipher.blockSize * (blocks + 1))
    (chained : initial.length = cipher.blockSize) :
    ∃ message, cipher.encryptMessage initial data = .ok message ∧
      message.length = cipher.blockSize * (blocks + 1) ∧
        cipher.decryptMessage initial message = .ok data := by
  have some_ : data ≠ [] := by
    apply List.ne_nil_of_length_pos
    rw [sized]
    exact Nat.mul_pos invertible.positive (Nat.zero_lt_succ blocks)
  have whole : data.length % cipher.blockSize = 0 := by rw [sized, Nat.mul_mod_right]
  rw [← sized]
  exact invertible.encryptMessage_decrypts some_ whole chained

end Invertible
end BlockCipher
end Wristband
