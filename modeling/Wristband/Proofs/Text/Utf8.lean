import Mathlib.Data.List.TakeWhile
import Wristband.Text.Utf8

/-! Text that is written as UTF-8 is read back as it was. A character of several bytes begins with a
byte that says how many follow and what the second one may be, so none of its bytes is taken for the
beginning or the end of another one. -/

namespace Wristband.Text

/-- A leading byte, the byte after it and the further ones have the shape of one character. -/
structure IsSequence (lead second : UInt8) (further : Bytes) : Prop where
  several : 0x80 ≤ lead
  shape : ∃ low high, sequenceShape? lead = some (low, high, further.length) ∧
    low ≤ second ∧ second ≤ high
  continues : ∀ byte ∈ further, isContinuation byte = true

def sequenceValue (lead second : UInt8) (further : Bytes) : Nat :=
  (second :: further).foldl (fun value byte => value * 64 + byte.toNat % 64)
    (leadBits lead (further.length + 1))

variable {lead second : UInt8} {further : Bytes}

private theorem IsSequence.decodeUtf8 (sequence : IsSequence lead second further) {value : Nat}
    (number : sequenceValue lead second further = value) (rest : Bytes) :
    decodeUtf8 (lead :: second :: further ++ rest) = Char.ofNat value :: decodeUtf8 rest := by
  obtain ⟨low, high, shape, above, below⟩ := sequence.shape
  have found : ((further ++ rest).take further.length).takeWhile isContinuation = further := by
    rw [List.take_left, List.takeWhile_eq_self_iff.mpr sequence.continues]
  have decoded : decodeCharacter lead (second :: (further ++ rest)) =
      (Char.ofNat value, further.length + 1) := by
    rw [← number]
    simp only [decodeCharacter, UInt8.not_lt.mpr sequence.several, shape, above, below, decide_true,
      Bool.and_self, if_true, if_false, found, sequenceValue]
  rw [List.cons_append, List.cons_append, Text.decodeUtf8, decoded, List.drop_succ_cons,
    List.drop_left]

/-! The leading bytes by the number of bytes that they announce. Two bytes of each kind narrow what
the second byte may be, where it could spell a number that fewer bytes spell, or that is none of a
character. -/

private theorem isSequence_two (above : 0xC2 ≤ lead) (below : lead ≤ 0xDF)
    (continues : isContinuation second = true) : IsSequence lead second [] where
  several := UInt8.le_trans (by decide) above
  shape := by
    simp only [isContinuation, Bool.and_eq_true, decide_eq_true_eq] at continues
    refine ⟨0x80, 0xBF, ?_, continues⟩
    simp only [sequenceShape?, above, below, decide_true, Bool.and_self, if_true, List.length_nil]
  continues := nofun

private theorem isSequence_three {third : UInt8} (above : 0xE0 ≤ lead) (below : lead ≤ 0xEF)
    (continues : isContinuation second = true) (ends : isContinuation third = true)
    (first : lead = 0xE0 → 0xA0 ≤ second) (surrogate : lead = 0xED → second ≤ 0x9F) :
    IsSequence lead second [third] where
  several := UInt8.le_trans (by decide) above
  shape := by
    simp only [isContinuation, Bool.and_eq_true, decide_eq_true_eq] at continues
    by_cases least : lead = 0xE0
    · exact ⟨0xA0, 0xBF, by rw [least]; rfl, first least, continues.2⟩
    by_cases skipped : lead = 0xED
    · exact ⟨0x80, 0x9F, by rw [skipped]; rfl, continues.1, surrogate skipped⟩
    refine ⟨0x80, 0xBF, ?_, continues⟩
    have two : ¬ lead ≤ 0xDF := UInt8.not_le.mpr (Std.lt_of_lt_of_le (by decide) above)
    have later : 0xE1 ≤ lead := by grind
    simp only [sequenceShape?, two, least, skipped, later, below, decide_true, decide_false,
      Bool.and_false, Bool.and_self, Bool.false_eq_true, if_true, if_false, List.length_singleton]
  continues := by simp only [List.mem_singleton, forall_eq, ends]

private theorem isSequence_four {third fourth : UInt8} (above : 0xF0 ≤ lead) (below : lead ≤ 0xF4)
    (continues : isContinuation second = true)
    (going : isContinuation third = true) (ends : isContinuation fourth = true)
    (first : lead = 0xF0 → 0x90 ≤ second) (last : lead = 0xF4 → second ≤ 0x8F) :
    IsSequence lead second [third, fourth] where
  several := UInt8.le_trans (by decide) above
  shape := by
    simp only [isContinuation, Bool.and_eq_true, decide_eq_true_eq] at continues
    by_cases least : lead = 0xF0
    · exact ⟨0x90, 0xBF, by rw [least]; rfl, first least, continues.2⟩
    by_cases greatest : lead = 0xF4
    · exact ⟨0x80, 0x8F, by rw [greatest]; rfl, continues.1, last greatest⟩
    refine ⟨0x80, 0xBF, ?_, continues⟩
    have two : ¬ lead ≤ 0xDF := by grind
    have three : ¬ lead ≤ 0xEF := by grind
    have other : lead ≠ 0xE0 ∧ lead ≠ 0xED := by grind
    have inside : 0xF1 ≤ lead ∧ lead ≤ 0xF3 := by grind
    simp only [sequenceShape?, two, three, other, least, inside, decide_true, decide_false,
      Bool.and_false, Bool.and_self, Bool.false_eq_true, if_true, if_false, List.length_cons,
      List.length_nil]
  continues := by
    simp only [List.mem_cons, List.not_mem_nil, or_false, forall_eq_or_imp, forall_eq, going, ends,
      and_self]

theorem toNat_ofNat_lt {number : Nat} (small : number < 256) :
    (UInt8.ofNat number).toNat = number := by
  rw [UInt8.toNat_ofNat', Nat.mod_eq_of_lt small]

def continuation (bits : Nat) : UInt8 := UInt8.ofNat (bits % 64 + 128)

theorem toNat_continuation (bits : Nat) : (continuation bits).toNat = bits % 64 + 128 :=
  toNat_ofNat_lt (by omega)

private theorem isContinuation_continuation (bits : Nat) : isContinuation (continuation bits) = true := by
  have inside : bits % 64 < 64 := Nat.mod_lt _ (by decide)
  simp only [isContinuation, UInt8.le_iff_toNat_le, toNat_continuation, UInt8.reduceToNat,
    Bool.and_eq_true, decide_eq_true_eq]
  omega

/-! The sequences of numbers that take two, three and four bytes. -/

section

variable {value : Nat}

private theorem decodeUtf8_two (above : 127 < value) (below : value ≤ 2047) (rest : Bytes) :
    decodeUtf8 ([UInt8.ofNat (value / 64 % 32 + 192), continuation value] ++ rest) =
      Char.ofNat value :: decodeUtf8 rest := by
  have lead := toNat_ofNat_lt (by omega : value / 64 % 32 + 192 < 256)
  have sequence : IsSequence (UInt8.ofNat (value / 64 % 32 + 192)) (continuation value) [] := by
    refine isSequence_two ?_ ?_ (isContinuation_continuation _)
    all_goals
      rw [UInt8.le_iff_toNat_le, lead]
      simp only [UInt8.reduceToNat]
      omega
  have number : sequenceValue (UInt8.ofNat (value / 64 % 32 + 192)) (continuation value) [] =
      value := by
    change (UInt8.ofNat (value / 64 % 32 + 192)).toNat % 32 * 64 + (continuation value).toNat % 64 = _
    rw [lead, toNat_continuation]
    omega
  exact sequence.decodeUtf8 number rest

private theorem decodeUtf8_three (above : 2047 < value) (below : value ≤ 65535) (valid : value.isValidChar)
    (rest : Bytes) :
    decodeUtf8 ([UInt8.ofNat (value / 4096 % 16 + 224), continuation (value / 64),
      continuation value] ++ rest) = Char.ofNat value :: decodeUtf8 rest := by
  have lead := toNat_ofNat_lt (by omega : value / 4096 % 16 + 224 < 256)
  have sequence : IsSequence (UInt8.ofNat (value / 4096 % 16 + 224)) (continuation (value / 64))
      [continuation value] := by
    refine isSequence_three ?_ ?_ (isContinuation_continuation _) (isContinuation_continuation _)
      ?_ ?_
    all_goals
      simp only [← UInt8.toNat_inj, UInt8.le_iff_toNat_le, lead, toNat_continuation,
        UInt8.reduceToNat]
      unfold Nat.isValidChar at valid
      omega
  have number : sequenceValue (UInt8.ofNat (value / 4096 % 16 + 224)) (continuation (value / 64))
      [continuation value] = value := by
    change ((UInt8.ofNat (value / 4096 % 16 + 224)).toNat % 16 * 64 +
      (continuation (value / 64)).toNat % 64) * 64 + (continuation value).toNat % 64 = _
    rw [lead, toNat_continuation, toNat_continuation]
    omega
  exact sequence.decodeUtf8 number rest

private theorem decodeUtf8_four (above : 65535 < value) (valid : value.isValidChar) (rest : Bytes) :
    decodeUtf8 ([UInt8.ofNat (value / 262144 % 8 + 240), continuation (value / 4096),
      continuation (value / 64), continuation value] ++ rest) =
        Char.ofNat value :: decodeUtf8 rest := by
  have lead := toNat_ofNat_lt (by omega : value / 262144 % 8 + 240 < 256)
  have sequence : IsSequence (UInt8.ofNat (value / 262144 % 8 + 240)) (continuation (value / 4096))
      [continuation (value / 64), continuation value] := by
    refine isSequence_four ?_ ?_ (isContinuation_continuation _) (isContinuation_continuation _)
      (isContinuation_continuation _) ?_ ?_
    all_goals
      simp only [← UInt8.toNat_inj, UInt8.le_iff_toNat_le, lead, toNat_continuation,
        UInt8.reduceToNat]
      unfold Nat.isValidChar at valid
      omega
  have number : sequenceValue (UInt8.ofNat (value / 262144 % 8 + 240)) (continuation (value / 4096))
      [continuation (value / 64), continuation value] = value := by
    change (((UInt8.ofNat (value / 262144 % 8 + 240)).toNat % 8 * 64 +
      (continuation (value / 4096)).toNat % 64) * 64 + (continuation (value / 64)).toNat % 64) * 64 +
        (continuation value).toNat % 64 = _
    rw [lead, toNat_continuation, toNat_continuation, toNat_continuation]
    unfold Nat.isValidChar at valid
    omega
  exact sequence.decodeUtf8 number rest

end

/-- A character at the front is read back, whatever follows it. -/
theorem decodeUtf8_append (character : Char) (rest : Bytes) :
    decodeUtf8 (String.utf8EncodeChar character ++ rest) = character :: decodeUtf8 rest := by
  have valid : character.val.toNat.isValidChar := character.valid
  have back : Char.ofNat character.val.toNat = character := Char.ofNat_toNat character
  unfold String.utf8EncodeChar
  dsimp only
  generalize character.val.toNat = value at valid back
  rw [← back]
  split
  next one =>
    have number := toNat_ofNat_lt (by omega : value < 256)
    have plain : UInt8.ofNat value < 0x80 := by
      rw [UInt8.lt_iff_toNat_lt, number]
      exact Nat.lt_succ_of_le one
    have decoded : decodeCharacter (UInt8.ofNat value) rest = (Char.ofNat value, 0) := by
      simp only [decodeCharacter, plain, if_true, number]
    rw [List.singleton_append, decodeUtf8, decoded, List.drop_zero]
  next several =>
    split
    next two => exact decodeUtf8_two (by omega) two rest
    next more =>
      split
      next three => exact decodeUtf8_three (by omega) three valid rest
      next four => exact decodeUtf8_four (by omega) valid rest

theorem decodeUtf8_encodeUtf8 (characters : List Char) :
    decodeUtf8 (encodeUtf8 characters) = characters := by
  induction characters with
  | nil => rw [encodeUtf8, List.flatMap_nil, decodeUtf8]
  | cons character characters ih =>
    rw [encodeUtf8, List.flatMap_cons, decodeUtf8_append]
    exact congrArg _ ih

/-- The characters of ASCII can be gone through. -/
theorem forall_ascii {p : Char → Prop} (every : ∀ number < 128, p (.ofNat number)) {character : Char}
    (ascii : character.toNat < 128) : p character := by
  have known := every character.toNat ascii
  rwa [Char.ofNat_toNat] at known

theorem utf8EncodeChar_of_ascii {character : Char} (ascii : character.toNat < 128) :
    String.utf8EncodeChar character = [UInt8.ofNat character.toNat] := by
  have one : character.val.toNat ≤ 127 := Nat.le_of_lt_succ ascii
  unfold String.utf8EncodeChar
  dsimp only
  exact if_pos one

/-- A character outside ASCII takes several bytes, and the last one continues the others. -/
theorem getLast?_utf8EncodeChar {character : Char} (several : ¬ character.toNat < 128) :
    ∃ bits, (String.utf8EncodeChar character).getLast? = some (continuation bits) := by
  have more : ¬ character.val.toNat ≤ 127 := fun one => several (Nat.lt_succ_of_le one)
  unfold String.utf8EncodeChar
  dsimp only
  rw [if_neg more]
  split
  next two => exact ⟨_, rfl⟩
  next => split <;> exact ⟨_, rfl⟩

private theorem getLast?_encodeCharacter {character : Char} (other : character ≠ '\x00') :
    ∃ last, (String.utf8EncodeChar character).getLast? = some last ∧ last ≠ 0 := by
  by_cases ascii : character.toNat < 128
  · rw [utf8EncodeChar_of_ascii ascii]
    refine ⟨UInt8.ofNat character.toNat, rfl, fun zero => other (Char.toNat_inj.mp ?_)⟩
    have number := congrArg UInt8.toNat zero
    rwa [toNat_ofNat_lt (by omega)] at number
  · obtain ⟨bits, last⟩ := getLast?_utf8EncodeChar ascii
    refine ⟨_, last, fun zero => ?_⟩
    have number := congrArg UInt8.toNat zero
    rw [toNat_continuation] at number
    cases number

theorem getLast?_encodeUtf8 {characters : List Char}
    (unended : characters.getLast? ≠ some '\x00') : (encodeUtf8 characters).getLast? ≠ some 0 := by
  cases ends : characters.getLast? with
  | none =>
    rw [List.getLast?_eq_none_iff.mp ends]
    nofun
  | some character =>
    obtain ⟨before, rfl⟩ := List.getLast?_eq_some_iff.mp ends
    obtain ⟨last, shown, some_⟩ := getLast?_encodeCharacter fun nul => unended (nul ▸ ends)
    rw [encodeUtf8, List.flatMap_append, List.flatMap_singleton, List.getLast?_append, shown]
    exact fun zero => some_ (Option.some.inj zero)

end Wristband.Text
