import Wristband.Cipher.Des
import Wristband.Proofs.Bits.Packing
import Wristband.Proofs.Cipher.Block

/-! Deciphering DES. A round can be undone whatever it mixes in, and the wirings in front of the
first round and behind the last one undo each other. -/

namespace Wristband.Des

@[simp] theorem length_select (positions : List Nat) (bits : Bits) :
    (select positions bits).length = positions.length :=
  List.length_map _

private theorem select_eq (positions : List Nat) (bits : Bits) :
    select positions bits = positions.map fun position => bits.getD position false := by
  simp [select]

private theorem select_range (bits : Bits) : select (List.range bits.length) bits = bits := by
  apply List.ext_getElem
  · simp
  · intro index inside inside'
    simp [select_eq, inside']

private theorem select_select {outer inner : List Nat} (bits : Bits)
    (inside : ∀ position ∈ outer, position < inner.length) :
    select outer (select inner bits) =
      select (outer.map fun position => inner.getD position 0) bits := by
  simp only [select_eq, List.map_map]
  apply List.map_congr_left
  intro position listed
  have within := inside position listed
  simp [within]

private theorem select_undone {outer inner : List Nat} {bits : Bits}
    (inside : ∀ position ∈ outer, position < inner.length)
    (undo : (outer.map fun position => inner.getD position 0) = List.range bits.length) :
    select outer (select inner bits) = bits := by
  rw [select_select bits inside, undo, select_range]

private theorem select_final_initial {bits : Bits} (sized : bits.length = 64) :
    select finalPositions (select initialPositions bits) = bits := by
  apply select_undone
  · decide
  · rw [sized]
    decide

private theorem select_initial_final {bits : Bits} (sized : bits.length = 64) :
    select initialPositions (select finalPositions bits) = bits := by
  apply select_undone
  · decide
  · rw [sized]
    decide

private theorem xorBits_xorBits {left right : Bits} (covered : left.length ≤ right.length) :
    xorBits (xorBits left right) right = left := by
  induction left generalizing right with
  | nil => rfl
  | cons first rest ih =>
    cases right with
    | nil => simp at covered
    | cons other others =>
      simp only [List.length_cons, Nat.add_le_add_iff_right] at covered
      simp only [xorBits, List.zipWith_cons_cons] at ih ⊢
      rw [ih covered]
      cases first <;> cases other <;> rfl

structure Halved (halves : Halves) : Prop where
  left : halves.1.length = 32
  right : halves.2.length = 32

section Rounds

variable {κ : Type} {mix : κ → Bits → Bits} (mixes : ∀ key half, (mix key half).length = 32)
  {halves : Halves}
include mixes

private theorem halved_forward (halved : Halved halves) (key : κ) : Halved (forward mix key halves) := by
  refine ⟨halved.right, ?_⟩
  simp only [forward, xorBits, List.length_zipWith, halved.left, mixes, Nat.min_self]

private theorem halved_backward (halved : Halved halves) (key : κ) : Halved (backward mix key halves) := by
  refine ⟨?_, halved.left⟩
  simp only [backward, xorBits, List.length_zipWith, halved.right, mixes, Nat.min_self]

private theorem backward_forward (halved : Halved halves) (key : κ) :
    backward mix key (forward mix key halves) = halves := by
  have covered : halves.1.length ≤ (mix key halves.2).length := by
    apply Nat.le_of_eq
    rw [halved.left, mixes]
  simp only [backward, forward, xorBits_xorBits covered]

private theorem forward_backward (halved : Halved halves) (key : κ) :
    forward mix key (backward mix key halves) = halves := by
  have covered : halves.2.length ≤ (mix key halves.1).length := by
    apply Nat.le_of_eq
    rw [halved.right, mixes]
  simp only [backward, forward, xorBits_xorBits covered]

private theorem halved_runForward (halved : Halved halves) (keys : List κ) :
    Halved (runForward mix keys halves) := by
  induction keys generalizing halves with
  | nil => exact halved
  | cons key keys ih => exact ih (halved_forward mixes halved key)

private theorem halved_runBackward (halved : Halved halves) (keys : List κ) :
    Halved (runBackward mix keys halves) := by
  induction keys with
  | nil => exact halved
  | cons key keys ih => exact halved_backward mixes ih key

/-- The last round is undone first, so the induction goes through every pair of halves. -/
theorem runBackward_runForward (halved : Halved halves) (keys : List κ) :
    runBackward mix keys (runForward mix keys halves) = halves := by
  induction keys generalizing halves with
  | nil => rfl
  | cons key keys ih =>
    change backward mix key (runBackward mix keys (runForward mix keys (forward mix key halves))) =
      halves
    rw [ih (halved_forward mixes halved key), backward_forward mixes halved]

private theorem runForward_runBackward (halved : Halved halves) (keys : List κ) :
    runForward mix keys (runBackward mix keys halves) = halves := by
  induction keys with
  | nil => rfl
  | cons key keys ih =>
    change runForward mix keys (forward mix key (backward mix key (runBackward mix keys halves))) =
      halves
    rw [forward_backward mixes (halved_runBackward mixes halved keys), ih]

end Rounds

private theorem length_mangle (roundKey half : Bits) : (mangle roundKey half).length = 32 :=
  length_select _ _

variable {block : Bytes} {halves : Halves}

private theorem length_initial (block : Bytes) : (select initialPositions (unpackBits block)).length = 64 :=
  length_select _ _

private theorem halved_split (block : Bytes) : Halved (split block) := by
  have sized := length_initial block
  constructor
  · simp only [split, List.length_take, sized]
    rfl
  · simp only [split, List.length_drop, sized]

private theorem halved_splitLast (block : Bytes) : Halved (splitLast block) := by
  have sized := length_initial block
  constructor
  · simp only [splitLast, List.length_drop, sized]
  · simp only [splitLast, List.length_take, sized]
    rfl

private theorem unpacked_final {bits : Bits} (sized : bits.length = 64) :
    select initialPositions (unpackBits (packBits (select finalPositions bits))) = bits := by
  have whole : (select finalPositions bits).length % 8 = 0 := by
    rw [length_select]
    rfl
  rw [unpackBits_packBits whole, select_initial_final sized]

private theorem packed_initial (sized : block.length = 8) :
    packBits (select finalPositions (select initialPositions (unpackBits block))) = block := by
  have bits : (unpackBits block).length = 64 := by rw [length_unpackBits, sized]
  rw [select_final_initial bits, packBits_unpackBits]

private theorem splitLast_join (halved : Halved halves) : splitLast (join halves) = halves := by
  have sized : (halves.2 ++ halves.1).length = 64 := by
    rw [List.length_append, halved.left, halved.right]
  simp only [splitLast, join, unpacked_final sized, List.drop_left' halved.right,
    List.take_left' halved.right]

private theorem split_joinFirst (halved : Halved halves) : split (joinFirst halves) = halves := by
  have sized : (halves.1 ++ halves.2).length = 64 := by
    rw [List.length_append, halved.left, halved.right]
  simp only [split, joinFirst, unpacked_final sized, List.drop_left' halved.left,
    List.take_left' halved.left]

private theorem joinFirst_split (sized : block.length = 8) : joinFirst (split block) = block := by
  simp only [joinFirst, split, List.take_append_drop, packed_initial sized]

private theorem join_splitLast (sized : block.length = 8) : join (splitLast block) = block := by
  simp only [join, splitLast, List.take_append_drop, packed_initial sized]

private theorem decryptBlock_encryptBlock (keys : List Bits) (sized : block.length = 8) :
    decryptBlock keys (encryptBlock keys block) = block := by
  have halved := halved_split block
  rw [decryptBlock, encryptBlock, splitLast_join (halved_runForward length_mangle halved keys),
    runBackward_runForward length_mangle halved, joinFirst_split sized]

private theorem encryptBlock_decryptBlock (keys : List Bits) (sized : block.length = 8) :
    encryptBlock keys (decryptBlock keys block) = block := by
  have halved := halved_splitLast block
  rw [encryptBlock, decryptBlock, split_joinFirst (halved_runBackward length_mangle halved keys),
    runForward_runBackward length_mangle halved, join_splitLast sized]

private theorem length_packed (positions : List Nat) (bits : Bits) (sized : positions.length = 64) :
    (packBits (select positions bits)).length = 8 := by
  rw [packBits, List.length_map, length_pieces (Nat.zero_lt_succ 7), length_select, sized]

private theorem length_encryptBlock (keys : List Bits) (block : Bytes) :
    (encryptBlock keys block).length = 8 :=
  length_packed finalPositions _ rfl

private theorem length_decryptBlock (keys : List Bits) (block : Bytes) :
    (decryptBlock keys block).length = 8 :=
  length_packed finalPositions _ rfl

theorem doubleKeyCipher_invertible (key : Bytes) : (doubleKeyCipher key).Invertible where
  positive := Nat.zero_lt_succ 7
  length_encrypt block _ := length_encryptBlock _ _
  decrypt_encrypt block sized := by
    simp only [doubleKeyCipher]
    rw [decryptBlock_encryptBlock _ (length_decryptBlock _ _),
      encryptBlock_decryptBlock _ (length_encryptBlock _ _), decryptBlock_encryptBlock _ sized]

end Wristband.Des
