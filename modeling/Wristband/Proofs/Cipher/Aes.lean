import Wristband.Cipher.Aes
import Wristband.Proofs.Bits.Packing
import Wristband.Proofs.Cipher.Block

/-! Deciphering AES. Every layer of a round has an inverse on states of sixteen bytes, so the
rounds can be taken back one by one, whatever the round keys are. -/

namespace Wristband.Aes

private theorem unsubstitute_substitute :
    ∀ byte, unsubstitute (substitute byte) = byte := by
  apply forall_byte
  decide +kernel

private theorem map_unsubstitute_substitute (state : Bytes) :
    (state.map substitute).map unsubstitute = state := by
  simp [Function.comp_def, unsubstitute_substitute]

private theorem length_shiftRows (state : Bytes) : (shiftRows state).length = state.length := by
  unfold shiftRows
  split <;> rfl

private theorem unshiftRows_shiftRows (state : Bytes) : unshiftRows (shiftRows state) = state := by
  unfold shiftRows
  split
  next => rfl
  next other => exact unshiftRows.eq_2 state other

private theorem double_eq : ∀ byte : UInt8,
    double byte = (byte <<< 1) ^^^ (bif byte.toBitVec.msb then 0x1b else 0) := by
  apply forall_byte
  decide +kernel

private theorem double_xor (left right : UInt8) :
    double (left ^^^ right) = double left ^^^ double right := by
  have regroup (a b c d : UInt8) : (a ^^^ b) ^^^ (c ^^^ d) = (a ^^^ c) ^^^ (b ^^^ d) := by ac_rfl
  simp only [double_eq, UInt8.shiftLeft_xor, UInt8.toBitVec_xor, BitVec.msb_xor, regroup]
  congr 1
  cases left.toBitVec.msb <;> cases right.toBitVec.msb <;> rfl

private theorem unmixed_xor (a b c d a' b' c' d' : UInt8) :
    unmixed (a ^^^ a') (b ^^^ b') (c ^^^ c') (d ^^^ d') =
      unmixed a b c d ^^^ unmixed a' b' c' d' := by
  simp only [unmixed, double_xor]
  ac_rfl

/-- What the unmixed first byte of a column owes to each byte of the column before: everything to
the first one and nothing to the others. -/
private theorem unmixed_parts : ∀ byte : UInt8,
    unmixed (double byte) byte byte (double byte ^^^ byte) = byte ∧
    unmixed (double byte ^^^ byte) (double byte) byte byte = 0 ∧
    unmixed byte (double byte ^^^ byte) (double byte) byte = 0 ∧
    unmixed byte byte (double byte ^^^ byte) (double byte) = 0 := by
  apply forall_byte
  decide +kernel

/-- Unmixing is linear, so a column may be unmixed byte by byte. -/
private theorem unmixed_mixed (a b c d : UInt8) :
    unmixed (mixed a b c d) (mixed b c d a) (mixed c d a b) (mixed d a b c) = a := by
  have apart : unmixed (mixed a b c d) (mixed b c d a) (mixed c d a b) (mixed d a b c) =
      unmixed (double a) a a (double a ^^^ a) ^^^ unmixed (double b ^^^ b) (double b) b b ^^^
        unmixed c (double c ^^^ c) (double c) c ^^^ unmixed d d (double d ^^^ d) (double d) := by
    simp only [← unmixed_xor, mixed]
    congr 1 <;> ac_rfl
  rw [apart, (unmixed_parts a).1, (unmixed_parts b).2.1, (unmixed_parts c).2.2.1,
    (unmixed_parts d).2.2.2, UInt8.xor_zero, UInt8.xor_zero, UInt8.xor_zero]

private theorem unmixColumn_mixColumn (a b c d : UInt8) :
    unmixColumn (mixed a b c d) (mixed b c d a) (mixed c d a b) (mixed d a b c) = [a, b, c, d] := by
  simp only [unmixColumn, unmixed_mixed]

private theorem length_onColumns_mixColumn (state : Bytes) :
    (onColumns mixColumn state).length = state.length := by
  fun_induction onColumns mixColumn state with
  | case1 a b c d rest ih =>
    simp only [mixColumn, List.length_append, List.length_cons, List.length_nil, ih]
    omega
  | case2 => rfl

private theorem onColumns_unmixColumn_mixColumn (state : Bytes) :
    onColumns unmixColumn (onColumns mixColumn state) = state := by
  fun_induction onColumns mixColumn state with
  | case1 a b c d rest ih =>
    simp only [mixColumn, List.cons_append, List.nil_append]
    rw [onColumns, ih, unmixColumn_mixColumn]
    rfl
  | case2 rest short => exact onColumns.eq_2 unmixColumn rest short

private theorem length_nextRoundKey (constant : UInt8) {key : Bytes} (sized : key.length = 16) :
    (nextRoundKey constant key).length = 16 := by
  simp [nextRoundKey, sized]

private theorem length_of_mem_expandKey {constants key roundKey : Bytes} (sized : key.length = 16)
    (listed : roundKey ∈ expandKey constants key) : roundKey.length = 16 := by
  induction constants generalizing key with
  | nil => cases listed
  | cons constant constants ih =>
    have next := length_nextRoundKey constant sized
    rcases List.mem_cons.mp listed with rfl | later
    · exact next
    · exact ih next later

variable {keys : List Bytes} {state : Bytes}

private theorem length_substituted (state : Bytes) :
    (shiftRows (state.map substitute)).length = state.length := by
  rw [length_shiftRows, List.length_map]

private theorem length_diffused (state : Bytes) :
    (onColumns mixColumn (shiftRows (state.map substitute))).length = state.length := by
  rw [length_onColumns_mixColumn, length_substituted]

private theorem length_encryptRounds (keysSized : ∀ key ∈ keys, key.length = 16)
    (sized : state.length = 16) : (encryptRounds keys state).length = 16 := by
  fun_induction encryptRounds keys state with
  | case1 => exact sized
  | case2 last state =>
    rw [Bytes.length_xor, length_substituted, sized, keysSized last List.mem_cons_self]
    rfl
  | case3 key keys state some_ ih =>
    apply ih fun other listed => keysSized other (List.mem_cons_of_mem key listed)
    rw [Bytes.length_xor, length_diffused, sized, keysSized key List.mem_cons_self]
    rfl

private theorem decryptRounds_encryptRounds (keysSized : ∀ key ∈ keys, key.length = 16)
    (sized : state.length = 16) : decryptRounds keys (encryptRounds keys state) = state := by
  fun_induction encryptRounds keys state with
  | case1 => rfl
  | case2 last state =>
    have covered : (shiftRows (state.map substitute)).length ≤ last.length := by
      apply Nat.le_of_eq
      rw [length_substituted, sized, keysSized last List.mem_cons_self]
    rw [decryptRounds, Bytes.xor_xor covered, unshiftRows_shiftRows, map_unsubstitute_substitute]
  | case3 key keys state some_ ih =>
    have whole := keysSized key List.mem_cons_self
    have covered :
        (onColumns mixColumn (shiftRows (state.map substitute))).length ≤ key.length := by
      apply Nat.le_of_eq
      rw [length_diffused, sized, whole]
    have mixed : (Bytes.xor (onColumns mixColumn (shiftRows (state.map substitute))) key).length =
        16 := by
      rw [Bytes.length_xor, length_diffused, sized, whole]
      rfl
    have rest := ih (fun other listed => keysSized other (List.mem_cons_of_mem key listed)) mixed
    rw [decryptRounds.eq_3 _ _ _ some_, rest, Bytes.xor_xor covered,
      onColumns_unmixColumn_mixColumn, unshiftRows_shiftRows, map_unsubstitute_substitute]

theorem cipher_invertible {key : Bytes} (sized : key.length = 16) : (cipher key).Invertible where
  positive := Nat.zero_lt_succ 15
  length_encrypt block (whole : block.length = 16) := by
    apply length_encryptRounds fun _ => length_of_mem_expandKey sized
    rw [Bytes.length_xor, whole, sized]
    rfl
  decrypt_encrypt block (whole : block.length = 16) := by
    have mixed : (Bytes.xor block key).length = 16 := by
      rw [Bytes.length_xor, whole, sized]
      rfl
    simp only [cipher]
    rw [decryptRounds_encryptRounds (fun _ => length_of_mem_expandKey sized) mixed,
      Bytes.xor_xor (Nat.le_of_eq (whole.trans sized.symm))]

end Wristband.Aes
