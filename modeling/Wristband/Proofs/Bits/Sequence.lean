import Mathlib.Algebra.Group.Nat.Defs
import Wristband.Proofs.Bits.Storage

/-! Bit vectors as lists of bits. Whether a position falls on a byte boundary decides how a vector is
read, cut and joined, but never what comes out. A position that 64 bits cannot name lies behind every
vector, and so does the position that stands in for it. -/

namespace Wristband.BitVector

def foldBits (bits : List Bool) : Nat := bits.foldl (fun value bit => 2 * value + bit.toNat) 0

private theorem foldBits_bitsOfByte : ∀ byte, foldBits (bitsOfByte byte) = byte.toNat := by
  apply forall_byte
  decide +kernel

private theorem toNat_shiftIn {bits : List Bool} (sized : bits.length = 8) :
    (bits.foldl (fun (value : UInt8) bit => value <<< 1 ||| bit.toUInt8) 0).toNat =
      foldBits bits := by
  have every : ∀ a b c d e f g h : Bool,
      ([a, b, c, d, e, f, g, h].foldl (fun (value : UInt8) bit => value <<< 1 ||| bit.toUInt8)
        0).toNat = foldBits [a, b, c, d, e, f, g, h] := by
    decide +kernel
  match bits, sized with
  | [a, b, c, d, e, f, g, h], _ => exact every a b c d e f g h

variable {vector left right : BitVector} {offset : Nat}

private theorem byteAt_inside (named : offset + 8 < positionLimit) (inside : offset + 8 ≤ vector.length) :
    ∃ byte, vector.byteAt offset = .ok byte ∧ byte.toNat = foldBits (vector.bitsFrom offset 8) := by
  rw [byteAt, if_neg (Nat.not_le.mpr named), if_neg (Nat.not_lt.mpr inside)]
  split
  next aligned =>
    refine ⟨_, rfl, ?_⟩
    rw [bitsFrom_aligned aligned, foldBits_bitsOfByte]
  next => exact ⟨_, rfl, toNat_shiftIn (length_bitsFrom _ _)⟩

private theorem byteAt_outside (outside : ¬ (offset + 8 < positionLimit ∧ offset + 8 ≤ vector.length)) :
    ∃ index, vector.byteAt offset = .error (.bitIndexOutOfRange index vector.length) :=
  outOfRange_of_outside outside

private theorem toOption_get (index : Nat) : (vector.get index).toOption = vector.bits[index]? := by
  unfold get
  split
  next behind => exact (List.getElem?_eq_none (length_bits ▸ behind)).symm
  next inside => exact (getElem?_bits (Nat.lt_of_not_le inside)).symm

private theorem toOption_byteAt (offset : Nat) : (vector.byteAt offset).toOption.map UInt8.toNat =
    if offset + 8 < positionLimit ∧ offset + 8 ≤ vector.bits.length then
      some (foldBits ((vector.bits.drop offset).take 8))
    else none := by
  rw [length_bits]
  split
  next inside =>
    obtain ⟨byte, found, value⟩ := byteAt_inside inside.1 inside.2
    rw [found, take_drop_bits inside.2, ← value]
    rfl
  next outside =>
    obtain ⟨_, refused⟩ := byteAt_outside outside
    rw [refused]
    rfl

private theorem IsTidy.toOption_slice (tidy : vector.IsTidy) (start length : Nat) :
    (vector.slice start length).toOption.map bits =
      if start + length < positionLimit ∧ start + length ≤ vector.bits.length then
        some ((vector.bits.drop start).take length)
      else none := by
  rw [length_bits]
  split
  next inside =>
    rw [tidy.slice_inside inside.1 inside.2, take_drop_bits inside.2]
    exact congrArg some (bits_ofBits _)
  next outside =>
    obtain ⟨_, refused⟩ := slice_outside outside
    rw [refused]
    rfl

/-! Positions that are given in bytes. The largest 64-bit number stands in for a position that is
larger still, and no vector reaches as far as that. -/

private theorem bitPosition_of_lt {index : Nat} (named : 8 * index < positionLimit) :
    bitPosition index = 8 * index := by
  rw [bitPosition, Nat.mul_comm]
  exact Nat.min_eq_left (Nat.le_sub_one_of_lt named)

private theorem bitPosition_of_le {index : Nat} (unnamed : positionLimit ≤ 8 * index) :
    bitPosition index = positionLimit - 1 := by
  rw [bitPosition, Nat.mul_comm]
  exact Nat.min_eq_right (Nat.le_trans (Nat.sub_le _ _) unnamed)

private theorem lt_positionLimit_of_short (short : vector.length < 2 ^ 63) :
    vector.length < positionLimit - 1 :=
  Nat.lt_trans short (by decide)

private theorem sliceBytes_of_lt {start length : Nat} (named : 8 * start < positionLimit)
    (namedLength : 8 * length < positionLimit) :
    vector.sliceBytes start length = vector.slice (8 * start) (8 * length) := by
  rw [sliceBytes, bitPosition_of_lt named, bitPosition_of_lt namedLength]

private theorem byte_of_lt {index : Nat} (named : 8 * index < positionLimit) :
    vector.byte index = vector.byteAt (8 * index) := by
  rw [byte, bitPosition_of_lt named]

private theorem toOption_sliceBytes (short : vector.length < 2 ^ 63) (start length : Nat) :
    (vector.sliceBytes start length).toOption =
      (vector.slice (8 * start) (8 * length)).toOption := by
  by_cases named : 8 * start < positionLimit ∧ 8 * length < positionLimit
  · rw [sliceBytes_of_lt named.1 named.2]
  · have reach := lt_positionLimit_of_short short
    have far : positionLimit - 1 ≤ bitPosition start + bitPosition length := by
      rcases not_and_or.mp named with unnamed | unnamed
      · rw [bitPosition_of_le (Nat.not_lt.mp unnamed)]
        exact Nat.le_add_right _ _
      · rw [bitPosition_of_le (Nat.not_lt.mp unnamed)]
        exact Nat.le_add_left _ _
    have outside : ¬ (8 * start + 8 * length < positionLimit ∧
        8 * start + 8 * length ≤ vector.length) := by omega
    obtain ⟨_, refused⟩ := slice_outside outside
    obtain ⟨_, refusedBytes⟩ := @slice_outside vector (bitPosition start) (bitPosition length)
      (by omega)
    rw [sliceBytes, refused, refusedBytes]
    rfl

private theorem toOption_byte (short : vector.length < 2 ^ 63) (index : Nat) :
    (vector.byte index).toOption = (vector.byteAt (8 * index)).toOption := by
  by_cases named : 8 * index < positionLimit
  · rw [byte_of_lt named]
  · have reach := lt_positionLimit_of_short short
    have stands := bitPosition_of_le (Nat.not_lt.mp named)
    obtain ⟨_, refused⟩ := @byteAt_outside vector (8 * index) (by omega)
    obtain ⟨_, refusedByte⟩ := @byteAt_outside vector (bitPosition index) (by omega)
    rw [byte, refused, refusedByte]
    rfl

/-- The operations on vectors are those on lists of bits, wherever byte boundaries fall. Joining is
appending, cutting is dropping and taking, and a byte is the number that its eight bits spell. What
lies past the end, or past what 64 bits can name, is refused. -/
theorem operations_are_list_operations (built : left.Built) (builtRight : right.Built)
    (short : left.length < 2 ^ 63) :
    (∀ list, (ofBits list).bits = list) ∧
    (left.concat right).bits = left.bits ++ right.bits ∧
    (∀ start length, (left.slice start length).toOption.map bits =
      if start + length < 2 ^ 64 ∧ start + length ≤ left.bits.length then
        some ((left.bits.drop start).take length)
      else none) ∧
    (∀ offset, (left.byteAt offset).toOption.map UInt8.toNat =
      if offset + 8 < 2 ^ 64 ∧ offset + 8 ≤ left.bits.length then
        some (foldBits ((left.bits.drop offset).take 8))
      else none) ∧
    (∀ index, (left.get index).toOption = left.bits[index]?) ∧
    (∀ start length, (left.sliceBytes start length).toOption =
      (left.slice (8 * start) (8 * length)).toOption) ∧
    (∀ index, (left.byte index).toOption = (left.byteAt (8 * index)).toOption) ∧
    (∀ start length, 8 * start < 2 ^ 64 → 8 * length < 2 ^ 64 →
      left.sliceBytes start length = left.slice (8 * start) (8 * length)) ∧
    (∀ index, 8 * index < 2 ^ 64 → left.byte index = left.byteAt (8 * index)) := by
  have limit : positionLimit = 2 ^ 64 := by decide
  have tidy := built.isTidy
  refine ⟨bits_ofBits, ?_, ?_, ?_, toOption_get, toOption_sliceBytes short, toOption_byte short,
    ?_, ?_⟩
  · rw [tidy.concat_eq builtRight.isTidy, bits_ofBits]
  · exact limit ▸ tidy.toOption_slice
  · exact limit ▸ toOption_byteAt
  · exact limit ▸ fun _ _ => sliceBytes_of_lt
  · exact limit ▸ fun _ => byte_of_lt

/-- Eight bits behind three others, read and cut where no byte begins, and at positions that 64 bits
cannot name. -/
theorem operations_are_list_operations_behind_three_bits :
    Built ((ofBits [true, false, true]).concat (ofBytes [0xA5])) ∧ Built (ofBytes [0x0F]) ∧
    ((ofBits [true, false, true]).concat (ofBytes [0xA5])).length < 2 ^ 63 ∧
    (((ofBits [true, false, true]).concat (ofBytes [0xA5])).slice 3 8).toOption.map bits =
      some [true, false, true, false, false, true, false, true] ∧
    (((ofBits [true, false, true]).concat (ofBytes [0xA5])).slice (2 ^ 64 - 1) 1).toOption.map bits =
      none ∧
    (((ofBits [true, false, true]).concat (ofBytes [0xA5])).byteAt 3).toOption.map UInt8.toNat =
      some 0xA5 ∧
    (((ofBits [true, false, true]).concat (ofBytes [0xA5])).sliceBytes (2 ^ 61) 0).toOption =
      (((ofBits [true, false, true]).concat (ofBytes [0xA5])).slice (2 ^ 64) 0).toOption := by
  have joined : Built ((ofBits [true, false, true]).concat (ofBytes [0xA5])) :=
    .concat (.ofBits _) (.ofBytes _)
  have other : Built (ofBytes [0x0F]) := .ofBytes _
  have short : ((ofBits [true, false, true]).concat (ofBytes [0xA5])).length < 2 ^ 63 := by decide
  obtain ⟨-, -, cut, read, -, cutBytes, -⟩ := operations_are_list_operations joined other short
  exact ⟨joined, other, short, (cut 3 8).trans (by decide), (cut _ 1).trans (by decide),
    (read 3).trans (by decide), cutBytes (2 ^ 61) 0⟩

end Wristband.BitVector
