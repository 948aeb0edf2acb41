import Wristband.AuthKey
import Wristband.Proofs.Bytes.Hex

/-! Keys as text. A text stands for a key exactly when it is the hexadecimal form of one, in either
case and with blank characters around it, and it stands for no other key. -/

namespace Wristband

namespace Text

variable {before digits after : List Char}

private theorem dropWhile_isBlank (visible : ∀ character ∈ digits, isBlank character = false) :
    digits.dropWhile isBlank = digits := by
  cases digits with
  | nil => rfl
  | cons first rest =>
    exact List.dropWhile_cons_of_neg (Bool.eq_false_iff.mp (visible first List.mem_cons_self))

private theorem trim_append (blank : ∀ character ∈ before, isBlank character = true)
    (blankAfter : ∀ character ∈ after, isBlank character = true)
    (visible : ∀ character ∈ digits, isBlank character = false) :
    trim (before ++ digits ++ after) = digits := by
  have trailing : ∀ character ∈ after.reverse, isBlank character = true := by
    intro character listed
    exact blankAfter character (List.mem_reverse.mp listed)
  have visibleBack : ∀ character ∈ digits.reverse, isBlank character = false := by
    intro character listed
    exact visible character (List.mem_reverse.mp listed)
  rw [trim, List.append_assoc, List.dropWhile_append_of_pos blank]
  cases digits with
  | nil =>
    rw [List.nil_append, List.dropWhile_eq_nil_iff.mpr blankAfter]
    rfl
  | cons first rest =>
    have shown := Bool.eq_false_iff.mp (visible first List.mem_cons_self)
    rw [List.cons_append, List.dropWhile_cons_of_neg shown, ← List.cons_append,
      List.reverse_append, List.dropWhile_append_of_pos trailing, dropWhile_isBlank visibleBack,
      List.reverse_reverse]

private theorem isBlank_of_isHexDigit {digit : Char} (hex : digit.isHexDigit = true) :
    isBlank digit = false :=
  Hex.forall_hexDigit (p := fun digit => isBlank digit = false) (by decide) hex

end Text

namespace AuthKey

private theorem ofTdesSecret_eq {bytes : Bytes} (sized : bytes.length = Layout.tdesSecretLength) :
    ofTdesSecret bytes = .ok (tdes ⟨bytes, sized⟩) := by
  rw [ofTdesSecret, FixedBytes.ofBytes?, dif_pos sized]

private theorem ofAesKey_eq {bytes : Bytes} (sized : bytes.length = Layout.aesKeyLength) :
    ofAesKey bytes = .ok (aes ⟨bytes, sized⟩) := by
  rw [ofAesKey, FixedBytes.ofBytes?, dif_pos sized]

private theorem ofAesKey_of_length_ne {bytes : Bytes} (other : bytes.length ≠ Layout.aesKeyLength) :
    ofAesKey bytes = .error (.invalidKeyLength Layout.aesKeyLength bytes.length) := by
  rw [ofAesKey, FixedBytes.ofBytes?, dif_neg other]

/-- A key is read from the digits that spell its bytes. -/
theorem ofHex_eq_ok {text : String} {key : AuthKey} :
    ofHex text = .ok key ↔ Hex.read (Text.encodeUtf8 (Text.trim text.toList)) = .ok key.bytes := by
  unfold ofHex
  cases Hex.read (Text.encodeUtf8 (Text.trim text.toList)) with
  | error reason => exact iff_of_false nofun nofun
  | ok bytes =>
    constructor
    · intro made
      dsimp only at made
      by_cases secret : bytes.length = Layout.tdesSecretLength
      · rw [if_pos secret, ofTdesSecret_eq secret] at made
        cases made
        rfl
      by_cases value : bytes.length = Layout.aesKeyLength
      · rw [if_neg secret, ofAesKey_eq value] at made
        cases made
        rfl
      · rw [if_neg secret, ofAesKey_of_length_ne value] at made
        cases made
    · intro read
      obtain rfl := Except.ok.inj read
      cases key with
      | tdes secret => exact (if_pos secret.property).trans (ofTdesSecret_eq secret.property)
      | aes value =>
        have other : value.val.length ≠ Layout.tdesSecretLength := by
          rw [value.property]
          decide
        exact (if_neg other).trans (ofAesKey_eq value.property)

/-- Twelve or thirty-two digits spell a key, and digits of no other number do. -/
theorem exists_spelt_iff {digits : List Char} (hex : ∀ digit ∈ digits, digit.isHexDigit = true) :
    (∃ key : AuthKey, digits.map Hex.digitValue = Hex.halves key.bytes) ↔
      digits.length = 12 ∨ digits.length = 32 := by
  constructor
  · rintro ⟨key, spelt⟩
    have sized := congrArg List.length spelt
    rw [List.length_map, Hex.length_halves] at sized
    cases key with
    | tdes secret => exact .inl (sized.trans (congrArg (2 * ·) secret.property))
    | aes value => exact .inr (sized.trans (congrArg (2 * ·) value.property))
  · intro sized
    have small : ∀ value ∈ digits.map Hex.digitValue, value < 16 := by
      intro value listed
      obtain ⟨digit, part, rfl⟩ := List.mem_map.mp listed
      exact Hex.digitValue_lt (hex digit part)
    obtain ⟨bytes, shape⟩ := Hex.exists_halves (by rw [List.length_map]; omega) small
    have length := congrArg List.length shape
    rw [Hex.length_halves, List.length_map] at length
    rcases sized with secret | value
    · exact ⟨tdes ⟨bytes, by change bytes.length = 6; omega⟩, shape.symm⟩
    · exact ⟨aes ⟨bytes, by change bytes.length = 16; omega⟩, shape.symm⟩

/-- A text stands for a key when twelve or thirty-two hexadecimal digits, in either case, are all that
is left of it without the blank characters around it. The number of digits tells the kind of the key,
and the digits spell its bytes. So a key is written in lower case as the text it was read from, and it
is read back from what it is written as, in any case and with any blank characters around it. -/
theorem ofHex_reads_spelt_keys :
    (∀ text, (∃ key, ofHex text = .ok key) ↔
      (∀ digit ∈ Text.trim text.toList, digit.isHexDigit = true) ∧
        ((Text.trim text.toList).length = 12 ∨ (Text.trim text.toList).length = 32)) ∧
    (∀ text key, ofHex text = .ok key →
      ((Text.trim text.toList).length = 12 → ∃ secret, key = tdes secret) ∧
      ((Text.trim text.toList).length = 32 → ∃ value, key = aes value) ∧
      (Text.trim text.toList).map Hex.digitValue = Hex.halves key.bytes ∧
      Hex.lower key.bytes = String.ofList ((Text.trim text.toList).map Char.toLower)) ∧
    (∀ (key : AuthKey) before digits after,
      (∀ character ∈ before, Text.isBlank character = true) →
      (∀ character ∈ after, Text.isBlank character = true) →
      digits.map Char.toLower = (Hex.lower key.bytes).toList →
      ofHex (String.ofList (before ++ digits ++ after)) = .ok key) := by
  refine ⟨fun text => ?_, fun text key made => ?_, ?_⟩
  · simp only [ofHex_eq_ok, Hex.read_encodeUtf8_eq_ok, exists_and_left]
    exact and_congr_right exists_spelt_iff
  · obtain ⟨hex, spelt⟩ := Hex.read_encodeUtf8_eq_ok.mp (ofHex_eq_ok.mp made)
    have sized := congrArg List.length spelt
    rw [List.length_map, Hex.length_halves] at sized
    refine ⟨fun twelve => ?_, fun many => ?_, spelt, ?_⟩
    · cases key with
      | tdes secret => exact ⟨secret, rfl⟩
      | aes value => cases twelve.symm.trans (sized.trans (congrArg (2 * ·) value.property))
    · cases key with
      | tdes secret => cases many.symm.trans (sized.trans (congrArg (2 * ·) secret.property))
      | aes value => exact ⟨value, rfl⟩
    · rw [Hex.spell_iff_toLower.mp ⟨hex, spelt⟩, String.ofList_toList]
  · intro key before digits after blank blankAfter lowered
    obtain ⟨hex, spelt⟩ := Hex.spell_iff_toLower.mpr lowered
    have visible : ∀ digit ∈ digits, Text.isBlank digit = false := fun digit listed =>
      Text.isBlank_of_isHexDigit (hex digit listed)
    rw [ofHex_eq_ok, String.toList_ofList, Text.trim_append blank blankAfter visible]
    exact Hex.read_encodeUtf8_eq_ok.mpr ⟨hex, spelt⟩

/-- Letters of either case between blank characters, some of them outside ASCII. -/
theorem mixed_case_between_blanks_is_read :
    (∀ character ∈ ['\u3000', ' '], Text.isBlank character = true) ∧
    (∀ character ∈ ['\u0085', '\n'], Text.isBlank character = true) ∧
    "a1B2c3D4e5F6".toList.map Char.toLower =
      (Hex.lower (tdes ⟨[0xA1, 0xB2, 0xC3, 0xD4, 0xE5, 0xF6], rfl⟩).bytes).toList ∧
    ofHex (String.ofList (['\u3000', ' '] ++ "a1B2c3D4e5F6".toList ++ ['\u0085', '\n'])) =
      .ok (tdes ⟨[0xA1, 0xB2, 0xC3, 0xD4, 0xE5, 0xF6], rfl⟩) ∧
    Hex.lower [0xA1, 0xB2, 0xC3, 0xD4, 0xE5, 0xF6] = "a1b2c3d4e5f6" := by
  have blank : ∀ character ∈ ['\u3000', ' '], Text.isBlank character = true :=
    List.all_eq_true.mp rfl
  have blankAfter : ∀ character ∈ ['\u0085', '\n'], Text.isBlank character = true :=
    List.all_eq_true.mp rfl
  have lowered : "a1B2c3D4e5F6".toList.map Char.toLower =
      (Hex.lower (tdes ⟨[0xA1, 0xB2, 0xC3, 0xD4, 0xE5, 0xF6], rfl⟩).bytes).toList := by decide
  have made := ofHex_reads_spelt_keys.2.2 _ _ _ _ blank blankAfter lowered
  refine ⟨blank, blankAfter, lowered, made, ?_⟩
  exact (ofHex_reads_spelt_keys.2.1 _ _ made).2.2.2.trans (by decide)

end AuthKey
end Wristband
