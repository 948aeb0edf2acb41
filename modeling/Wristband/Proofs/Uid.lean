import Wristband.Proofs.Bytes.BigEndian
import Wristband.Proofs.Bytes.Hex
import Wristband.Uid

/-! Identifiers as text. The text has as few digits as make up whole bytes, so it spells the bytes that
were folded without the zeros before them. Every number has such a text and is read back from it. -/

namespace Wristband

namespace Hex

private theorem digits_of_lt : ∀ value < 16, digits value = [upperDigits.getD value '0'] := by
  decide

private theorem digits_push {number value : Nat} (positive : 0 < number) (small : value < 16) :
    digits (16 * number + value) = digits number ++ [upperDigits.getD value '0'] := by
  have joined : Nat.toDigits 16 number ++ Nat.toDigits 16 value =
      Nat.toDigits 16 (16 * number + value) :=
    Nat.toDigits_append_toDigits (by decide) positive small
  rw [digits, ← joined, List.map_append]
  apply congrArg (digits number ++ ·)
  exact digits_of_lt value small

private theorem digits_push_byte {number : Nat} (positive : 0 < number) (byte : UInt8) :
    digits (number * 256 + byte.toNat) = digits number ++ ofByte upperDigits byte := by
  have small := byte.toNat_lt
  have split : number * 256 + byte.toNat =
      16 * (16 * number + byte.toNat / 16) + byte.toNat % 16 := by omega
  rw [split, digits_push (by omega) (by omega), digits_push positive (by omega), List.append_assoc]
  rfl

private theorem padded_of_whole {digits : List Char} (whole : digits.length % 2 = 0) :
    padded digits = digits := by
  rw [padded, whole]
  exact if_neg Nat.zero_ne_one

private theorem padded_digits_byte (byte : UInt8) : padded (digits byte.toNat) = ofByte upperDigits byte := by
  have small := byte.toNat_lt
  by_cases single : byte.toNat < 16
  · have upper : byte.toNat / 16 = 0 := Nat.div_eq_of_lt single
    have lower : byte.toNat % 16 = byte.toNat := Nat.mod_eq_of_lt single
    rw [digits_of_lt _ single, ofByte, upper, lower]
    rfl
  · have split : byte.toNat = 16 * (byte.toNat / 16) + byte.toNat % 16 := by omega
    rw [split, digits_push (by omega) (by omega), digits_of_lt _ (by omega)]
    exact padded_of_whole (Nat.mod_self 2)

private theorem padded_append (front : List Char) {behind : List Char} (whole : behind.length % 2 = 0) :
    padded (front ++ behind) = padded front ++ behind := by
  have same : (front ++ behind).length % 2 = front.length % 2 := by
    rw [List.length_append]
    omega
  unfold padded
  rw [same]
  split
  · exact List.cons_append.symm
  · rfl

private theorem digits_append {front : Bytes} (positive : 0 < Bytes.foldBigEndian front) (bytes : Bytes) :
    digits (Bytes.foldBigEndian (front ++ bytes)) =
      digits (Bytes.foldBigEndian front) ++ bytes.flatMap (ofByte upperDigits) := by
  induction bytes generalizing front with
  | nil => rw [List.append_nil, List.flatMap_nil, List.append_nil]
  | cons byte rest ih =>
    have longer : 0 < Bytes.foldBigEndian (front ++ [byte]) := by
      rw [Bytes.foldBigEndian_append]
      omega
    rw [List.append_cons, ih longer, Bytes.foldBigEndian_append, digits_push_byte positive,
      List.append_assoc, List.flatMap_cons]

/-- The digits of a number spell its bytes from the first one on that is not zero. -/
theorem padded_digits {bytes : Bytes} (some_ : 0 < bytes.length) :
    padded (digits (Bytes.foldBigEndian bytes)) =
      (Bytes.shortest bytes).flatMap (ofByte upperDigits) := by
  fun_induction Bytes.shortest bytes with
  | case1 => cases some_
  | case2 last =>
    rw [Bytes.foldBigEndian_singleton, padded_digits_byte, List.flatMap_singleton]
  | case3 second rest ih =>
    rw [Bytes.foldBigEndian_zero_cons]
    exact ih (Nat.succ_pos _)
  | case4 first second rest other =>
    have positive : 0 < Bytes.foldBigEndian [first] := by
      rw [Bytes.foldBigEndian_singleton]
      exact Nat.pos_of_ne_zero fun zero => other (UInt8.toNat_inj.mp zero)
    have whole : ((second :: rest).flatMap (ofByte upperDigits)).length % 2 = 0 := by
      rw [length_flatMap_ofByte]
      exact Nat.mul_mod_right _ _
    rw [List.flatMap_cons, ← padded_digits_byte, ← List.singleton_append, digits_append positive,
      padded_append _ whole, Bytes.foldBigEndian_singleton]

end Hex

namespace Uid

variable {bytes : Bytes}

private theorem ofBytes_eq (some_ : 0 < bytes.length) (short : bytes.length ≤ 8) :
    ofBytes bytes = .ok ⟨UInt64.ofNat (Bytes.foldBigEndian bytes)⟩ := by
  apply if_neg
  rw [List.isEmpty_iff_length_eq_zero]
  omega

private theorem text_of_bytes (some_ : 0 < bytes.length) (short : bytes.length ≤ 8) :
    text ⟨UInt64.ofNat (Bytes.foldBigEndian bytes)⟩ = Hex.upper (Bytes.shortest bytes) := by
  rw [text, Bytes.toNat_foldBigEndian short, Hex.padded_digits some_]
  rfl

private theorem exists_bytes (value : UInt64) : ∃ bytes : Bytes, bytes.length = 8 ∧
    value = UInt64.ofNat (Bytes.foldBigEndian bytes) := by
  have small : value.toNat < 256 ^ 8 := value.toNat_lt
  obtain ⟨bytes, sized, folded⟩ := Bytes.exists_foldBigEndian small
  exact ⟨bytes, sized, by rw [folded, UInt64.ofNat_toNat]⟩

/-- One to eight bytes are folded to an identifier whose text spells these bytes in upper case, without
the zeros before them but with one byte at least, so the digits are always even in number. The text of
any number is read as bytes that are folded to this number again. -/
theorem text_spells_shortest_bytes :
    (∀ bytes : Bytes, 1 ≤ bytes.length → bytes.length ≤ 8 →
      ∃ uid, ofBytes bytes = .ok uid ∧ uid.text = Hex.upper (Bytes.shortest bytes) ∧
        uid.text.length % 2 = 0) ∧
    (∀ value : UInt64, ∃ bytes, Hex.read (Text.encodeUtf8 (text ⟨value⟩).toList) = .ok bytes ∧
      ofBytes bytes = .ok ⟨value⟩) := by
  constructor
  · intro bytes some_ short
    refine ⟨_, ofBytes_eq some_ short, text_of_bytes some_ short, ?_⟩
    rw [text_of_bytes some_ short, Hex.length_upper]
    exact Nat.mul_mod_right _ _
  · intro value
    obtain ⟨bytes, eight, rfl⟩ := exists_bytes value
    have some_ : 0 < bytes.length := by omega
    have short := (Bytes.length_shortest_le bytes).trans (Nat.le_of_eq eight)
    refine ⟨Bytes.shortest bytes, ?_, ?_⟩
    · rw [text_of_bytes some_ (Nat.le_of_eq eight)]
      exact Hex.read_upper _
    · rw [ofBytes_eq (Bytes.length_shortest_pos some_) short, Bytes.foldBigEndian_shortest]

/-- Zeros before the number are left out, but neither the upper half of its first byte nor a zero
between others. Of zeros alone one byte is left. -/
theorem zeros_before_text_left_out :
    let bytes : Bytes := [0x00, 0x00, 0x04, 0xA3, 0x00, 0x1B]
    let zeros : Bytes := [0x00, 0x00]
    (1 ≤ bytes.length ∧ bytes.length ≤ 8) ∧ (1 ≤ zeros.length ∧ zeros.length ≤ 8) ∧
      (∃ uid, ofBytes bytes = .ok uid ∧ uid.text = "04A3001B") ∧
      (∃ uid, ofBytes zeros = .ok uid ∧ uid.text = "00") := by
  intro bytes zeros
  have sized : 1 ≤ bytes.length ∧ bytes.length ≤ 8 := by decide
  have sizedZeros : 1 ≤ zeros.length ∧ zeros.length ≤ 8 := by decide
  obtain ⟨uid, folded, spelt, -⟩ := text_spells_shortest_bytes.1 bytes sized.1 sized.2
  obtain ⟨zero, foldedZeros, speltZero, -⟩ :=
    text_spells_shortest_bytes.1 zeros sizedZeros.1 sizedZeros.2
  refine ⟨sized, sizedZeros, ⟨uid, folded, spelt.trans ?_⟩, zero, foldedZeros, speltZero.trans ?_⟩
  · decide
  · decide

end Uid
end Wristband
