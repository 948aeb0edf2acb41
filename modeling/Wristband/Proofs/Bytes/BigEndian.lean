import Mathlib.Algebra.Group.Nat.Defs
import Mathlib.Data.List.Induction
import Wristband.Bytes.Basic

/-! Bytes as the digits of a number, most significant first. Every number below a bound has so many
digits, and it stays the same without the zeros before it. -/

namespace Wristband.Bytes

theorem foldBigEndian_append (bytes : Bytes) (last : UInt8) :
    foldBigEndian (bytes ++ [last]) = foldBigEndian bytes * 256 + last.toNat := by
  rw [foldBigEndian, List.foldl_append]
  rfl

theorem foldBigEndian_singleton (byte : UInt8) : foldBigEndian [byte] = byte.toNat := by
  rw [← List.nil_append [byte], foldBigEndian_append]
  exact Nat.zero_add _

private theorem foldBigEndian_lt (bytes : Bytes) : foldBigEndian bytes < 256 ^ bytes.length := by
  induction bytes using List.reverseRecOn with
  | nil => exact Nat.zero_lt_one
  | append_singleton bytes last ih =>
    have digit := last.toNat_lt
    rw [foldBigEndian_append, List.length_append, List.length_singleton, Nat.pow_succ]
    omega

/-- Eight bytes fit into 64 bits. -/
theorem toNat_foldBigEndian {bytes : Bytes} (short : bytes.length ≤ 8) :
    (UInt64.ofNat (foldBigEndian bytes)).toNat = foldBigEndian bytes := by
  apply UInt64.toNat_ofNat_of_lt'
  exact Nat.lt_of_lt_of_le (foldBigEndian_lt bytes) (Nat.pow_le_pow_right (by decide) short)

theorem exists_foldBigEndian {number size : Nat} (small : number < 256 ^ size) :
    ∃ bytes : Bytes, bytes.length = size ∧ foldBigEndian bytes = number := by
  induction size generalizing number with
  | zero =>
    rw [Nat.pow_zero, Nat.lt_one_iff] at small
    exact ⟨[], rfl, small.symm⟩
  | succ size ih =>
    rw [Nat.pow_succ] at small
    obtain ⟨front, sized, folded⟩ := ih (Nat.div_lt_of_lt_mul (Nat.mul_comm _ _ ▸ small))
    have last : (UInt8.ofNat (number % 256)).toNat = number % 256 :=
      UInt8.toNat_ofNat_of_lt' (Nat.mod_lt _ (by decide))
    refine ⟨front ++ [.ofNat (number % 256)], ?_, ?_⟩
    · rw [List.length_append, sized, List.length_singleton]
    · rw [foldBigEndian_append, folded, last, Nat.div_add_mod']

/-- The bytes without the zeros before them. The last byte is kept, whatever it is. -/
def shortest : Bytes → Bytes
  | [] => []
  | [last] => [last]
  | first :: second :: rest =>
    if first = 0 then shortest (second :: rest) else first :: second :: rest

theorem foldBigEndian_zero_cons (bytes : Bytes) : foldBigEndian (0 :: bytes) = foldBigEndian bytes :=
  rfl

theorem foldBigEndian_shortest (bytes : Bytes) :
    foldBigEndian (shortest bytes) = foldBigEndian bytes := by
  fun_induction shortest bytes with
  | case1 => rfl
  | case2 last => rfl
  | case3 second rest ih => rw [ih, foldBigEndian_zero_cons]
  | case4 first second rest other => rfl

theorem length_shortest_le (bytes : Bytes) : (shortest bytes).length ≤ bytes.length := by
  fun_induction shortest bytes with
  | case1 => exact Nat.le_refl _
  | case2 last => exact Nat.le_refl _
  | case3 second rest ih => exact Nat.le_succ_of_le ih
  | case4 first second rest other => exact Nat.le_refl _

theorem length_shortest_pos {bytes : Bytes} (some_ : 0 < bytes.length) :
    0 < (shortest bytes).length := by
  fun_induction shortest bytes with
  | case1 => cases some_
  | case2 last => exact some_
  | case3 second rest ih => exact ih (Nat.succ_pos _)
  | case4 first second rest other => exact some_

end Wristband.Bytes
