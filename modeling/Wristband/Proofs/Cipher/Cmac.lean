import Wristband.Cipher.Cmac
import Wristband.Proofs.Cipher.Aes

/-! Codes have one length, whatever the message. -/

namespace Wristband.Cmac

private theorem length_doubleBlock {block : Bytes} (sized : block.length = 16) :
    (doubleBlock block).length = 16 := by
  simp [doubleBlock, sized]

private theorem length_finalBlock {wholeKey partialKey last : Bytes} (short : last.length ≤ 16)
    (wholeSized : wholeKey.length = 16) (partialSized : partialKey.length = 16) :
    (finalBlock wholeKey partialKey last).length = 16 := by
  unfold finalBlock
  split
  next whole =>
    rw [Bytes.length_xor, whole, wholeSized]
    rfl
  next partly =>
    simp only [Bytes.length_xor, List.length_append, List.length_cons, List.length_replicate,
      partialSized]
    omega

private theorem length_chain {cipher : BlockCipher} (invertible : cipher.Invertible) {initial : Bytes}
    {blocks : List Bytes} (sized : initial.length = cipher.blockSize)
    (whole : ∀ block ∈ blocks, block.length = cipher.blockSize) :
    (blocks.foldl (fun chained block => cipher.encrypt (Bytes.xor block chained)) initial).length =
      cipher.blockSize := by
  induction blocks generalizing initial with
  | nil => exact sized
  | cons block blocks ih =>
    have next := invertible.length_encrypt_xor (whole block List.mem_cons_self) sized
    exact ih next fun other listed => whole other (List.mem_cons_of_mem block listed)

private theorem length_getLastD_pieces (message : Bytes) :
    ((pieces 16 message).getLastD []).length ≤ 16 := by
  by_cases some_ : pieces 16 message = []
  · rw [some_]
    exact Nat.zero_le 16
  · rw [List.getLastD_eq_getLast?, List.getLast?_eq_some_getLast some_]
    exact length_of_mem_pieces_le (Nat.zero_lt_succ 15) (List.getLast_mem some_)

theorem length_code {key : Bytes} (sized : key.length = 16) (message : Bytes) :
    (code key message).length = 16 := by
  have invertible := Aes.cipher_invertible sized
  have wholeKey := length_doubleBlock (invertible.length_encrypt (List.replicate 16 0) rfl)
  have partialKey := length_doubleBlock wholeKey
  apply length_chain invertible rfl
  intro block listed
  rcases List.mem_append.mp listed with before | last
  · exact length_of_mem_dropLast_pieces (Nat.zero_lt_succ 15) before
  · obtain rfl := List.mem_singleton.mp last
    exact length_finalBlock (length_getLastD_pieces message) wholeKey partialKey

end Wristband.Cmac
