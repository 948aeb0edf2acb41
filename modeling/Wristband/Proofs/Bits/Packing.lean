import Wristband.Bits.BitVector
import Wristband.Bits.Packing
import Wristband.Proofs.Bytes.Pieces

/-! Bits go into bytes and come back. -/

namespace Wristband

/-- A byte has 256 values, which can be gone through. -/
theorem forall_byte {p : UInt8 → Prop} (every : ∀ value ∈ List.range 256, p (.ofNat value))
    (byte : UInt8) : p byte := by
  have known := every byte.toNat (List.mem_range.mpr byte.toNat_lt)
  rwa [UInt8.ofNat_toNat] at known

private theorem byteOfBits_bitsOfByte : ∀ byte, byteOfBits (bitsOfByte byte) = byte := by
  apply forall_byte
  decide +kernel

@[simp] theorem length_bitsOfByte (byte : UInt8) : (bitsOfByte byte).length = 8 := rfl

private theorem bitsOfByte_byteOfBits {bits : List Bool} (sized : bits.length = 8) :
    bitsOfByte (byteOfBits bits) = bits := by
  have every : ∀ a b c d e f g h : Bool,
      bitsOfByte (byteOfBits [a, b, c, d, e, f, g, h]) = [a, b, c, d, e, f, g, h] := by
    decide +kernel
  match bits, sized with
  | [a, b, c, d, e, f, g, h], _ => exact every a b c d e f g h

@[simp] theorem length_unpackBits (bytes : Bytes) :
    (unpackBits bytes).length = 8 * bytes.length := by
  induction bytes with
  | nil => rfl
  | cons byte rest ih =>
    unfold unpackBits at ih ⊢
    rw [List.flatMap_cons, List.length_append, ih, length_bitsOfByte, List.length_cons]
    omega

theorem packBits_unpackBits (bytes : Bytes) : packBits (unpackBits bytes) = bytes := by
  have cut : pieces 8 (unpackBits bytes) = bytes.map bitsOfByte := by
    unfold unpackBits
    induction bytes with
    | nil => rfl
    | cons byte rest ih =>
      rw [List.flatMap_cons, pieces_append (Nat.zero_lt_succ 7) _ (length_bitsOfByte byte), ih,
        List.map_cons]
  rw [packBits, cut, List.map_map]
  apply List.map_id''
  exact byteOfBits_bitsOfByte

theorem unpackBits_packBits {bits : List Bool} (whole : bits.length % 8 = 0) :
    unpackBits (packBits bits) = bits := by
  have positive : 0 < 8 := Nat.zero_lt_succ 7
  have same : ∀ piece ∈ pieces 8 bits, (bitsOfByte ∘ byteOfBits) piece = piece := by
    intro piece listed
    exact bitsOfByte_byteOfBits (length_of_mem_pieces positive whole listed)
  rw [unpackBits, packBits, List.flatMap_def, List.map_map, List.map_congr_left same,
    List.map_id', flatten_pieces positive]

@[simp] theorem BitVector.toBytes_ofBytes (bytes : Bytes) :
    (BitVector.ofBytes bytes).toBytes = .ok bytes :=
  if_pos (Nat.mul_mod_left _ _)

end Wristband
