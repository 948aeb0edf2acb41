import Mathlib.Data.Set.Finite.List
import Wristband.Proofs.Cipher.Block

/-! Block ciphers as permutations. There are finitely many blocks, so a cipher that deciphering undoes
reaches every block, and enciphering undoes deciphering as well. The same then holds of messages: a
message deciphers to some data exactly when the data enciphers to it. -/

namespace Wristband.BlockCipher

private instance : Finite UInt8 := .of_injective UInt8.toFin fun _ _ same => UInt8.toFin_inj.mp same

variable {cipher : BlockCipher} {initial message data : Bytes}

namespace Invertible

variable (invertible : cipher.Invertible)
include invertible

private theorem exists_encrypt_eq {block : Bytes} (whole : block.length = cipher.blockSize) :
    ∃ plain, plain.length = cipher.blockSize ∧ cipher.encrypt plain = block := by
  have finite : {block : Bytes | block.length = cipher.blockSize}.Finite :=
    List.finite_length_eq UInt8 cipher.blockSize
  have within : Set.MapsTo cipher.encrypt {block | block.length = cipher.blockSize}
      {block | block.length = cipher.blockSize} := invertible.length_encrypt
  have apart : Set.InjOn cipher.encrypt {block | block.length = cipher.blockSize} := by
    intro left leftWhole right rightWhole same
    rw [← invertible.decrypt_encrypt left leftWhole, same, invertible.decrypt_encrypt right rightWhole]
  exact ((finite.injOn_iff_bijOn_of_mapsTo within).mp apart).surjOn whole

private theorem length_decrypt {block : Bytes} (whole : block.length = cipher.blockSize) :
    (cipher.decrypt block).length = cipher.blockSize := by
  obtain ⟨plain, plainWhole, rfl⟩ := invertible.exists_encrypt_eq whole
  rw [invertible.decrypt_encrypt plain plainWhole, plainWhole]

private theorem encrypt_decrypt {block : Bytes} (whole : block.length = cipher.blockSize) :
    cipher.encrypt (cipher.decrypt block) = block := by
  obtain ⟨plain, plainWhole, rfl⟩ := invertible.exists_encrypt_eq whole
  rw [invertible.decrypt_encrypt plain plainWhole]

private theorem length_decrypt_xor {block : Bytes} (whole : block.length = cipher.blockSize)
    (sized : initial.length = cipher.blockSize) :
    (Bytes.xor (cipher.decrypt block) initial).length = cipher.blockSize := by
  rw [Bytes.length_xor, invertible.length_decrypt whole, sized, Nat.min_self]

private theorem length_chainDecrypt {blocks : List Bytes} (sized : initial.length = cipher.blockSize)
    (whole : ∀ block ∈ blocks, block.length = cipher.blockSize) :
    (cipher.chainDecrypt initial blocks).length = blocks.flatten.length := by
  induction blocks generalizing initial with
  | nil => rfl
  | cons block blocks ih =>
    have first := whole block List.mem_cons_self
    have rest := ih first fun other listed => whole other (List.mem_cons_of_mem block listed)
    rw [chainDecrypt, List.length_append, List.flatten_cons, List.length_append, rest,
      invertible.length_decrypt_xor first sized, first]

/-- Each block is mixed with the same cipher block in both directions. -/
theorem chainEncrypt_chainDecrypt {blocks : List Bytes} (sized : initial.length = cipher.blockSize)
    (whole : ∀ block ∈ blocks, block.length = cipher.blockSize) :
    cipher.chainEncrypt initial (pieces cipher.blockSize (cipher.chainDecrypt initial blocks)) =
      blocks.flatten := by
  induction blocks generalizing initial with
  | nil => rfl
  | cons block blocks ih =>
    have first := whole block List.mem_cons_self
    have deciphered := invertible.length_decrypt first
    have unmixed : Bytes.xor (Bytes.xor (cipher.decrypt block) initial) initial =
        cipher.decrypt block := Bytes.xor_xor (Nat.le_of_eq (deciphered.trans sized.symm))
    have rest := ih first fun other listed => whole other (List.mem_cons_of_mem block listed)
    rw [chainDecrypt, pieces_append invertible.positive _ (invertible.length_decrypt_xor first sized),
      chainEncrypt, unmixed, invertible.encrypt_decrypt first, rest, List.flatten_cons]

end Invertible

/-- The data is whole blocks, at least one, and what they are chained to is one block. -/
def Takes (cipher : BlockCipher) (initial data : Bytes) : Prop :=
  data ≠ [] ∧ data.length % cipher.blockSize = 0 ∧ initial.length = cipher.blockSize

private theorem checked_eq_ok {result : Bytes} :
    (do cipher.checkMessage initial data; return result) = Except.ok message ↔
      cipher.Takes initial data ∧ result = message := by
  unfold checkMessage
  split
  next partly =>
    refine ⟨nofun, ?_⟩
    rintro ⟨⟨some_, whole, _⟩, _⟩
    rcases partly with none_ | cut
    · exact (some_ (List.isEmpty_iff.mp none_)).elim
    · exact (cut whole).elim
  next fits =>
    obtain ⟨some_, whole⟩ := not_or.mp fits
    split
    next unsized => exact ⟨nofun, fun ⟨⟨_, _, sized⟩, _⟩ => (unsized sized).elim⟩
    next sized =>
      have takes : cipher.Takes initial data := ⟨fun none_ => some_ (List.isEmpty_iff.mpr none_),
        Classical.not_not.mp whole, Classical.not_not.mp sized⟩
      exact ⟨fun done => ⟨takes, Except.ok.inj done⟩, fun ⟨_, same⟩ => congrArg Except.ok same⟩

theorem encryptMessage_eq_ok : cipher.encryptMessage initial data = .ok message ↔
    cipher.Takes initial data ∧
      cipher.chainEncrypt initial (pieces cipher.blockSize data) = message :=
  checked_eq_ok

theorem decryptMessage_eq_ok : cipher.decryptMessage initial message = .ok data ↔
    cipher.Takes initial message ∧
      cipher.chainDecrypt initial (pieces cipher.blockSize message) = data :=
  checked_eq_ok

private theorem Takes.congr {other : Bytes} (takes : cipher.Takes initial data)
    (sameLength : other.length = data.length) : cipher.Takes initial other := by
  refine ⟨?_, by rw [sameLength, takes.2.1], takes.2.2⟩
  apply List.ne_nil_of_length_pos
  rw [sameLength]
  exact List.length_pos_iff.mpr takes.1

section

variable (invertible : cipher.Invertible)
include invertible

theorem Invertible.whole_pieces (takes : cipher.Takes initial data) :
    ∀ block ∈ pieces cipher.blockSize data, block.length = cipher.blockSize :=
  fun _ => length_of_mem_pieces invertible.positive takes.2.1

theorem Invertible.length_message (takes : cipher.Takes initial data) :
    (cipher.chainEncrypt initial (pieces cipher.blockSize data)).length = data.length := by
  rw [invertible.length_chainEncrypt takes.2.2 (invertible.whole_pieces takes),
    flatten_pieces invertible.positive]

theorem Invertible.length_plain (takes : cipher.Takes initial message) :
    (cipher.chainDecrypt initial (pieces cipher.blockSize message)).length = message.length := by
  rw [invertible.length_chainDecrypt takes.2.2 (invertible.whole_pieces takes),
    flatten_pieces invertible.positive]

/-- Data and message belong together, whichever of the two is given. -/
theorem Invertible.decryptMessage_iff :
    cipher.decryptMessage initial message = .ok data ↔
      cipher.encryptMessage initial data = .ok message := by
  rw [decryptMessage_eq_ok, encryptMessage_eq_ok]
  constructor
  · rintro ⟨takes, rfl⟩
    have back := invertible.chainEncrypt_chainDecrypt takes.2.2 (invertible.whole_pieces takes)
    rw [flatten_pieces invertible.positive] at back
    exact ⟨takes.congr (invertible.length_plain takes), back⟩
  · rintro ⟨takes, rfl⟩
    have back := invertible.chainDecrypt_chainEncrypt takes.2.2 (invertible.whole_pieces takes)
    rw [flatten_pieces invertible.positive] at back
    exact ⟨takes.congr (invertible.length_message takes), back⟩

/-- A message of whole blocks deciphers, and to as many bytes. -/
theorem Invertible.decryptMessage_blocks (blocks : Nat)
    (sized : message.length = cipher.blockSize * (blocks + 1))
    (chained : initial.length = cipher.blockSize) :
    ∃ data, cipher.decryptMessage initial message = .ok data ∧
      data.length = cipher.blockSize * (blocks + 1) := by
  have some_ : message ≠ [] := by
    apply List.ne_nil_of_length_pos
    rw [sized]
    exact Nat.mul_pos invertible.positive (Nat.zero_lt_succ blocks)
  have whole : message.length % cipher.blockSize = 0 := by rw [sized, Nat.mul_mod_right]
  have takes : cipher.Takes initial message := ⟨some_, whole, chained⟩
  exact ⟨_, decryptMessage_eq_ok.mpr ⟨takes, rfl⟩, (invertible.length_plain takes).trans sized⟩

end

end Wristband.BlockCipher
