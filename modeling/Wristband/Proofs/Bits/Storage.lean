import Mathlib.Data.List.GetD
import Wristband.Proofs.Bits.Packing

/-! How bit vectors are stored. Whatever operations make a vector, it takes up as few bytes as hold
its bits, and no bit behind the last one is set. So the bits settle what is stored, and comparing or
copying stored bytes never shows more than the bits. -/

namespace Wristband

private theorem byte_eq_of_testBit {left right : UInt8}
    (same : ∀ place < 8, left.toNat.testBit (7 - place) = right.toNat.testBit (7 - place)) :
    left = right := by
  apply UInt8.toNat_inj.mp
  apply Nat.eq_of_testBit_eq
  intro index
  by_cases inside : index < 8
  · have mirrored := same (7 - index) (by omega)
    rwa [show 7 - (7 - index) = index by omega] at mirrored
  · have above (byte : UInt8) : byte.toNat.testBit index = false := by
      apply Nat.testBit_lt_two_pow
      exact Nat.lt_of_lt_of_le byte.toNat_lt (Nat.pow_le_pow_right (by decide) (by omega))
    rw [above, above]

private theorem testBit_mask : ∀ place < 8, ∀ other < 8,
    (0x80 >>> UInt8.ofNat place : UInt8).toNat.testBit (7 - other) = decide (other = place) := by
  decide

namespace BitVector

variable {vector left right : BitVector}

@[simp] theorem length_bitsFrom (start count : Nat) :
    (vector.bitsFrom start count).length = count := by
  rw [bitsFrom, List.length_map, List.length_range']

@[simp] theorem length_bits : vector.bits.length = vector.length := length_bitsFrom _ _

private theorem bitsFrom_append (start first second : Nat) :
    vector.bitsFrom start (first + second) =
      vector.bitsFrom start first ++ vector.bitsFrom (start + first) second := by
  rw [bitsFrom, bitsFrom, bitsFrom, ← List.map_append, List.range'_append_1]

private theorem bitsFrom_congr {start other count : Nat}
    (same : ∀ place < count, left.bit (start + place) = right.bit (other + place)) :
    left.bitsFrom start count = right.bitsFrom other count := by
  rw [bitsFrom, bitsFrom, List.range'_eq_map_range, List.range'_eq_map_range, List.map_map,
    List.map_map]
  apply List.map_congr_left
  intro place listed
  exact same place (List.mem_range.mp listed)

theorem getElem?_bits {index : Nat} (inside : index < vector.length) :
    vector.bits[index]? = some (vector.bit index) := by
  rw [bits, bitsFrom, List.getElem?_map, List.getElem?_range' inside, Nat.zero_add, Nat.one_mul]
  rfl

theorem take_drop_bits {start count : Nat} (inside : start + count ≤ vector.length) :
    (vector.bits.drop start).take count = vector.bitsFrom start count := by
  obtain ⟨behind, total⟩ := Nat.exists_eq_add_of_le inside
  rw [bits, total, Nat.add_assoc, bitsFrom_append, bitsFrom_append, Nat.zero_add,
    List.drop_left' (length_bitsFrom _ _), List.take_left' (length_bitsFrom _ _)]

/-- The vector is stored in as few bytes as hold it, and only zeros lie behind its last bit. -/
structure IsTidy (vector : BitVector) : Prop where
  length_bytes : vector.bytes.length = (vector.length + 7) / 8
  padding : ∀ index, vector.length ≤ index → vector.bit index = false

private theorem IsTidy.ext (tidy : left.IsTidy) (tidyRight : right.IsTidy) (same : left.bits = right.bits) :
    left = right := by
  have length : left.length = right.length := by
    rw [← length_bits, same, length_bits]
  have everywhere (index : Nat) : left.bit index = right.bit index := by
    by_cases inside : index < left.length
    · have found := getElem?_bits inside
      rw [same, getElem?_bits (length ▸ inside)] at found
      exact (Option.some.inj found).symm
    · have behind := Nat.not_lt.mp inside
      rw [tidy.padding index behind, tidyRight.padding index (length ▸ behind)]
  have stored : left.bytes = right.bytes := by
    have sized : left.bytes.length = right.bytes.length := by
      rw [tidy.length_bytes, tidyRight.length_bytes, length]
    apply List.ext_getElem sized
    intro index inside insideRight
    apply byte_eq_of_testBit
    intro place within
    have same := everywhere (8 * index + place)
    unfold bit at same
    rwa [show (8 * index + place) / 8 = index by omega, show (8 * index + place) % 8 = place by omega,
      List.getD_eq_getElem _ _ inside, List.getD_eq_getElem _ _ insideRight] at same
  cases left
  cases right
  cases length
  cases stored
  rfl

private theorem bit_of_length_le {index : Nat} (behind : 8 * vector.bytes.length ≤ index) :
    vector.bit index = false := by
  rw [bit, List.getD_eq_default _ _ (by omega)]
  exact Nat.zero_testBit _

private theorem isTidy_ofBytes (bytes : Bytes) : (ofBytes bytes).IsTidy where
  length_bytes := by
    change bytes.length = (bytes.length * 8 + 7) / 8
    omega
  padding := by
    intro index behind
    exact bit_of_length_le (Nat.mul_comm _ _ ▸ behind)

private theorem isTidy_zeros (length : Nat) : (zeros length).IsTidy where
  length_bytes := List.length_replicate
  padding := by
    intro index _
    have zero : (zeros length).bytes.getD (index / 8) 0 = 0 := by
      rw [zeros, List.getD_eq_getElem?_getD, List.getElem?_getD_replicate_default_eq]
    rw [bit, zero]
    exact Nat.zero_testBit _

/-! Bits that are put to the end one by one. -/

private theorem getD_room (index : Nat) : vector.room.getD index 0 = vector.bytes.getD index 0 := by
  unfold room
  split
  · rcases Nat.lt_or_ge index vector.bytes.length with inside | behind
    · exact List.getD_append _ _ _ _ inside
    · rw [List.getD_append_right _ _ _ _ behind, List.getD_eq_default _ _ behind]
      cases index - vector.bytes.length <;> rfl
  · rfl

private theorem IsTidy.length_room (tidy : vector.IsTidy) : vector.room.length = vector.length / 8 + 1 := by
  have stored := tidy.length_bytes
  unfold room
  split
  · rw [List.length_append, List.length_singleton]
    omega
  · omega

private theorem getD_modify {bytes : Bytes} {place : Nat} (stored : place < bytes.length)
    (change : UInt8 → UInt8) (index : Nat) : (bytes.modify place change).getD index 0 =
      if place = index then change (bytes.getD index 0) else bytes.getD index 0 := by
  rw [List.getD_eq_getElem?_getD, List.getElem?_modify]
  split
  next here =>
    have found := List.getElem?_eq_getElem (here ▸ stored)
    rw [List.getD_eq_getElem?_getD, found]
    rfl
  next elsewhere => rw [Option.map_eq_map, Option.map_id_fun', id, List.getD_eq_getElem?_getD]

private theorem IsTidy.bit_push (tidy : vector.IsTidy) (last : Bool) (index : Nat) :
    (vector.push last).bit index = if index = vector.length then last else vector.bit index := by
  have kept : (vector.room.getD (index / 8) 0).toNat.testBit (7 - index % 8) = vector.bit index := by
    rw [getD_room]
    rfl
  cases last with
  | false =>
    change (vector.room.getD (index / 8) 0).toNat.testBit (7 - index % 8) = _
    rw [kept]
    split
    next here => exact tidy.padding index (Nat.le_of_eq here.symm)
    next => rfl
  | true =>
    have stored : vector.length / 8 < vector.room.length := by
      rw [tidy.length_room]
      exact Nat.lt_succ_self _
    change ((vector.room.modify (vector.room.length - 1) _).getD (index / 8) 0).toNat.testBit _ = _
    rw [tidy.length_room, Nat.add_sub_cancel, getD_modify stored]
    by_cases inLast : vector.length / 8 = index / 8
    · have mask := testBit_mask _ (Nat.mod_lt vector.length (by decide)) _
        (Nat.mod_lt index (by decide))
      rw [if_pos inLast, UInt8.toNat_or, Nat.testBit_or, mask, kept]
      by_cases here : index = vector.length
      · rw [if_pos here, here, decide_eq_true rfl, Bool.or_true]
      · rw [if_neg here, decide_eq_false (by omega), Bool.or_false]
    · have elsewhere : index ≠ vector.length := fun same => inLast (same ▸ rfl)
      rw [if_neg inLast, kept, if_neg elsewhere]

private theorem IsTidy.push (tidy : vector.IsTidy) (last : Bool) : (vector.push last).IsTidy where
  length_bytes := by
    have sized : (vector.push last).bytes.length = vector.room.length := by
      cases last
      · rfl
      · exact List.length_modify _ _ _
    rw [sized, tidy.length_room]
    change _ = (vector.length + 1 + 7) / 8
    omega
  padding := by
    intro index behind
    have after : vector.length + 1 ≤ index := behind
    rw [tidy.bit_push, if_neg (by omega)]
    exact tidy.padding index (by omega)

private theorem IsTidy.bits_push (tidy : vector.IsTidy) (last : Bool) :
    (vector.push last).bits = vector.bits ++ [last] := by
  have same : (vector.push last).bitsFrom 0 vector.length = vector.bits := by
    apply bitsFrom_congr
    intro place inside
    rw [tidy.bit_push, if_neg (by omega)]
  have added : (vector.push last).bitsFrom (0 + vector.length) 1 = [last] := by
    change [(vector.push last).bit (0 + vector.length)] = [last]
    rw [tidy.bit_push, if_pos (Nat.zero_add _)]
  change (vector.push last).bitsFrom 0 (vector.length + 1) = _
  rw [bitsFrom_append, same, added]

private theorem IsTidy.foldl_push (tidy : vector.IsTidy) (more : List Bool) :
    (more.foldl BitVector.push vector).IsTidy ∧
      (more.foldl BitVector.push vector).bits = vector.bits ++ more := by
  induction more generalizing vector with
  | nil => exact ⟨tidy, (List.append_nil _).symm⟩
  | cons next more ih =>
    obtain ⟨kept, appended⟩ := ih (tidy.push next)
    refine ⟨kept, ?_⟩
    rw [List.foldl_cons, appended, tidy.bits_push, List.append_assoc, List.singleton_append]

private theorem isTidy_ofBits (bits : List Bool) : (ofBits bits).IsTidy :=
  ((isTidy_ofBytes []).foldl_push bits).1

@[simp] theorem bits_ofBits (bits : List Bool) : (ofBits bits).bits = bits :=
  ((isTidy_ofBytes []).foldl_push bits).2

/-! Whole bytes that are put behind one another or cut out give what their bits give. -/

private theorem IsTidy.length_of_whole (tidy : vector.IsTidy) (whole : vector.length % 8 = 0) :
    vector.bytes.length * 8 = vector.length := by
  rw [tidy.length_bytes]
  omega

private theorem bit_append (whole : left.bytes.length * 8 = left.length) (length index : Nat) :
    bit ⟨left.bytes ++ right.bytes, length⟩ index =
      if index < left.length then left.bit index else right.bit (index - left.length) := by
  unfold bit
  split
  next inside => rw [List.getD_append _ _ _ _ (by omega)]
  next behind =>
    rw [List.getD_append_right _ _ _ _ (by omega),
      show (index - left.length) / 8 = index / 8 - left.bytes.length by omega,
      show (index - left.length) % 8 = index % 8 by omega]

private theorem IsTidy.append_bytes (tidy : left.IsTidy) (tidyRight : right.IsTidy)
    (whole : left.length % 8 = 0) :
    IsTidy ⟨left.bytes ++ right.bytes, left.length + right.length⟩ where
  length_bytes := by
    change (left.bytes ++ right.bytes).length = (left.length + right.length + 7) / 8
    rw [List.length_append, tidy.length_bytes, tidyRight.length_bytes]
    omega
  padding := by
    intro index behind
    have after : left.length + right.length ≤ index := behind
    rw [bit_append (tidy.length_of_whole whole), if_neg (by omega)]
    exact tidyRight.padding _ (by omega)

private theorem bits_append_bytes (whole : left.bytes.length * 8 = left.length) :
    bits ⟨left.bytes ++ right.bytes, left.length + right.length⟩ = left.bits ++ right.bits := by
  rw [bits, bitsFrom_append]
  apply congrArg₂
  · apply bitsFrom_congr
    intro place inside
    rw [bit_append whole, if_pos (by omega)]
  · apply bitsFrom_congr
    intro place inside
    rw [bit_append whole, if_neg (by omega), Nat.zero_add, Nat.zero_add, Nat.add_sub_cancel_left]

/-- Bytes and bits that are put behind one another give the same vector. -/
theorem IsTidy.concat_eq (tidy : left.IsTidy) (tidyRight : right.IsTidy) :
    left.concat right = ofBits (left.bits ++ right.bits) := by
  unfold concat
  split
  next whole =>
    apply (tidy.append_bytes tidyRight whole).ext (isTidy_ofBits _)
    rw [bits_append_bytes (tidy.length_of_whole whole), bits_ofBits]
  next => rfl

private theorem bits_cut {start length : Nat} (aligned : start % 8 = 0) (whole : length % 8 = 0)
    (stored : start + length ≤ vector.bytes.length * 8) :
    (ofBytes ((vector.bytes.drop (start / 8)).take (length / 8))).bits =
      vector.bitsFrom start length := by
  have sized : (ofBytes ((vector.bytes.drop (start / 8)).take (length / 8))).length = length := by
    change ((vector.bytes.drop (start / 8)).take (length / 8)).length * 8 = length
    rw [List.length_take, List.length_drop]
    omega
  rw [bits, sized]
  apply bitsFrom_congr
  intro place inside
  unfold bit
  rw [Nat.zero_add, List.getD_eq_getElem?_getD, List.getD_eq_getElem?_getD,
    show (start + place) / 8 = start / 8 + place / 8 by omega,
    show (start + place) % 8 = place % 8 by omega, ← List.getElem?_drop]
  change (((vector.bytes.drop (start / 8)).take (length / 8))[place / 8]?.getD 0).toNat.testBit _ = _
  rw [List.getElem?_take_of_lt (by omega)]

/-- Bytes and bits that are cut out give the same vector. -/
theorem IsTidy.slice_inside (tidy : vector.IsTidy) {start length : Nat}
    (named : start + length < positionLimit) (inside : start + length ≤ vector.length) :
    vector.slice start length = .ok (ofBits (vector.bitsFrom start length)) := by
  have stored := tidy.length_bytes
  rw [slice, if_neg (Nat.not_le.mpr named), if_neg (Nat.not_lt.mpr inside)]
  split
  next aligned =>
    apply congrArg Except.ok
    apply (isTidy_ofBytes _).ext (isTidy_ofBits _)
    rw [bits_cut aligned.1 aligned.2 (by omega), bits_ofBits]
  next => rfl

/-- An end that cannot be named, or lies behind the vector's own, is an error. -/
theorem outOfRange_of_outside {α : Type} {limit stop length first last : Nat}
    {inside : Except DataError α} (outside : ¬ (stop < limit ∧ stop ≤ length)) :
    ∃ index, (if limit ≤ stop then .error (.bitIndexOutOfRange first length)
      else if length < stop then .error (.bitIndexOutOfRange last length) else inside) =
        (.error (.bitIndexOutOfRange index length) : Except DataError α) := by
  by_cases overflow : limit ≤ stop
  · exact ⟨_, if_pos overflow⟩
  · have behind : length < stop := by
      apply Nat.lt_of_not_le
      exact fun within => outside ⟨Nat.lt_of_not_le overflow, within⟩
    exact ⟨_, (if_neg overflow).trans (if_pos behind)⟩

theorem slice_outside {start length : Nat}
    (outside : ¬ (start + length < positionLimit ∧ start + length ≤ vector.length)) :
    ∃ index, vector.slice start length = .error (.bitIndexOutOfRange index vector.length) :=
  outOfRange_of_outside outside

private theorem IsTidy.of_slice_eq_ok (tidy : vector.IsTidy) {part : BitVector} {start length : Nat}
    (cut : vector.slice start length = .ok part) :
    (start + length < positionLimit ∧ start + length ≤ vector.length) ∧
      part = ofBits (vector.bitsFrom start length) := by
  by_cases inside : start + length < positionLimit ∧ start + length ≤ vector.length
  · rw [tidy.slice_inside inside.1 inside.2] at cut
    exact ⟨inside, (Except.ok.inj cut).symm⟩
  · obtain ⟨_, refused⟩ := slice_outside inside
    rw [refused] at cut
    cases cut

/-- The vectors that the constructors and the operations make of one another. -/
inductive Built : BitVector → Prop where
  | empty : Built empty
  | ofBytes (bytes : Bytes) : Built (ofBytes bytes)
  | zeros (length : Nat) : Built (zeros length)
  | ofBits (bits : List Bool) : Built (ofBits bits)
  | concat {left right : BitVector} (first : Built left) (second : Built right) :
    Built (left.concat right)
  | slice {vector part : BitVector} {start length : Nat} (whole : Built vector)
    (cut : vector.slice start length = .ok part) : Built part
  | sliceBytes {vector part : BitVector} {start length : Nat} (whole : Built vector)
    (cut : vector.sliceBytes start length = .ok part) : Built part

theorem Built.isTidy (built : vector.Built) : vector.IsTidy := by
  induction built with
  | empty => exact isTidy_ofBytes []
  | ofBytes bytes => exact isTidy_ofBytes bytes
  | zeros length => exact isTidy_zeros length
  | ofBits bits => exact isTidy_ofBits bits
  | concat _ _ first second => exact first.concat_eq second ▸ isTidy_ofBits _
  | slice _ cut whole => exact (whole.of_slice_eq_ok cut).2 ▸ isTidy_ofBits _
  | sliceBytes _ cut whole => exact (whole.of_slice_eq_ok cut).2 ▸ isTidy_ofBits _

/-! Whole bytes hold their bits in order, so the bits spell them again. -/

theorem bitsFrom_aligned {offset : Nat} (aligned : offset % 8 = 0) :
    vector.bitsFrom offset 8 = bitsOfByte (vector.bytes.getD (offset / 8) 0) := by
  rw [bitsFrom, bitsOfByte, List.range'_eq_map_range, List.map_map]
  apply List.map_congr_left
  intro place listed
  have inside := List.mem_range.mp listed
  rw [Function.comp_apply, bit, show (offset + place) / 8 = offset / 8 by omega,
    show (offset + place) % 8 = place by omega]

private theorem bits_ofBytes (bytes : Bytes) : (ofBytes bytes).bits = unpackBits bytes := by
  induction bytes with
  | nil => rfl
  | cons byte rest ih =>
    have behind : (ofBytes (byte :: rest)).bitsFrom (0 + 8) (rest.length * 8) =
        (ofBytes rest).bits := by
      apply bitsFrom_congr
      intro place _
      unfold bit
      rw [show (0 + 8 + place) / 8 = place / 8 + 1 by omega,
        show (0 + 8 + place) % 8 = (0 + place) % 8 by omega, Nat.zero_add]
      rfl
    have split : (ofBytes (byte :: rest)).length = 8 + rest.length * 8 := by
      change (rest.length + 1) * 8 = _
      omega
    rw [bits, split, bitsFrom_append, bitsFrom_aligned (Nat.zero_mod 8), behind, ih]
    rfl

private theorem IsTidy.packBits_bits (tidy : vector.IsTidy) (whole : vector.length % 8 = 0) :
    packBits vector.bits = vector.bytes := by
  have shape : vector = ofBytes vector.bytes := by
    have sized := tidy.length_of_whole whole
    cases vector
    exact congrArg _ sized.symm
  rw [shape, bits_ofBytes, packBits_unpackBits]
  rfl

/-- However a vector was made, it is stored in as few bytes as hold its bits and with zeros behind
them. Two vectors are equal exactly when their bits are, and what is shown of a vector, as bytes or as
text, can be told from its bits. -/
theorem built_told_by_bits (built : left.Built) (builtRight : right.Built) :
    left.bytes.length = (left.length + 7) / 8 ∧
    (∀ index, left.length ≤ index → left.bit index = false) ∧
    (left = right ↔ left.bits = right.bits) ∧
    left.toBytes = (if left.bits.length % 8 = 0 then .ok (packBits left.bits)
      else .error (.notByteAligned left.bits.length)) ∧
    left.text = (if left.bits.length % 8 = 0 then Hex.upper (packBits left.bits)
      else String.ofList (left.bits.map fun bit => if bit then '1' else '0')) := by
  have tidy := built.isTidy
  refine ⟨tidy.length_bytes, tidy.padding, ⟨fun same => same ▸ rfl, tidy.ext builtRight.isTidy⟩, ?_⟩
  rw [length_bits, toBytes, text]
  by_cases whole : left.length % 8 = 0
  · simp only [whole, if_true, tidy.packBits_bits whole, and_self]
  · simp only [whole, if_false, bitText, and_self]

/-- Nine bits that were put together are the nine bits that were cut out elsewhere. -/
theorem built_told_by_bits_nine :
    Built ((ofBits [true]).concat (ofBytes [0xA5])) ∧ Built ⟨[0xD2, 0x80], 9⟩ ∧
    ((ofBits [true]).concat (ofBytes [0xA5])).bytes.length = 2 ∧
    (∀ index, 9 ≤ index → ((ofBits [true]).concat (ofBytes [0xA5])).bit index = false) ∧
    (ofBits [true]).concat (ofBytes [0xA5]) = ⟨[0xD2, 0x80], 9⟩ ∧
    ((ofBits [true]).concat (ofBytes [0xA5])).toBytes = .error (.notByteAligned 9) ∧
    ((ofBits [true]).concat (ofBytes [0xA5])).text = "110100101" := by
  have joined : Built ((ofBits [true]).concat (ofBytes [0xA5])) := .concat (.ofBits _) (.ofBytes _)
  have cut : Built ⟨[0xD2, 0x80], 9⟩ :=
    .slice (.ofBytes [0x69, 0x40]) (rfl : slice _ 1 9 = _)
  obtain ⟨storage, padding, same, bytes, text⟩ := built_told_by_bits joined cut
  exact ⟨joined, cut, storage, padding, same.mpr (by decide), bytes, text⟩

end BitVector
end Wristband
