import Wristband.Json.Text

/-! A text that is written in quotes is read back as it was, whatever follows it. Each character is
written in one of three ways, and each of them is read as that character. -/

namespace Wristband.Json

def after (character : Char) (found : List Char × List Char) : List Char × List Char :=
  (character :: found.1, found.2)

/-- Every letter that writing puts behind a backslash is read as the character it was put for, and
none of them announces a number. -/
theorem writtenEscapes_are_read : ∀ escape ∈ writtenEscapes,
    shortEscapes.lookup escape.2 = some escape.1 ∧ escape.2 ≠ 'u' := by
  decide

private theorem readCharacters_escape {character letter : Char}
    (written : writtenEscapes.lookup character = some letter) (more : List Char) :
    readCharacters ('\x5c' :: letter :: more) = (readCharacters more).map (after character) := by
  obtain ⟨_, _, split, _⟩ := List.lookup_eq_some_iff.mp written
  have listed : (character, letter) ∈ writtenEscapes := by
    rw [split]
    exact List.mem_append_right _ List.mem_cons_self
  obtain ⟨meant, other⟩ := writtenEscapes_are_read _ listed
  rw [readCharacters, meant]
  · rfl
  · exact fun _ _ _ _ _ same => absurd same other

private theorem unit?_control {number : Nat} (control : number < 0x20) :
    unit? '0' '0' (hexDigitOf (number / 16)) (hexDigitOf (number % 16)) = some number := by
  have all : ∀ number < 0x20,
      unit? '0' '0' (hexDigitOf (number / 16)) (hexDigitOf (number % 16)) = some number := by decide
  exact all number control

private theorem readCharacters_control {character : Char} (control : character.toNat < 0x20)
    (more : List Char) :
    readCharacters ('\x5c' :: 'u' :: '0' :: '0' :: hexDigitOf (character.toNat / 16) ::
      hexDigitOf (character.toNat % 16) :: more) = (readCharacters more).map (after character) := by
  have whole : isTrailingHalf character.toNat = false ∧ isLeadingHalf character.toNat = false := by
    simp only [isTrailingHalf, isLeadingHalf, Bool.and_eq_false_iff, decide_eq_false_iff_not]
    omega
  rw [readCharacters.eq_def]
  simp only [unit?_control control, whole, Bool.false_eq_true, if_false, Char.ofNat_toNat]
  rfl

private theorem readCharacters_plain {character : Char}
    (unescaped : writtenEscapes.lookup character = none) (printable : ¬ character.toNat < 0x20)
    (more : List Char) :
    readCharacters (character :: more) = (readCharacters more).map (after character) := by
  have unquoted : character ≠ '\x22' := by
    rintro rfl
    cases unescaped
  have other : character ≠ '\x5c' := by
    rintro rfl
    cases unescaped
  rw [readCharacters, if_neg unquoted, if_neg (not_or_intro printable other)]
  · rfl
  · exact fun _ _ _ _ _ same => absurd same other
  · exact fun _ _ same => absurd same other

private theorem readCharacters_writeCharacter (character : Char) (more : List Char) :
    readCharacters (writeCharacter character ++ more) =
      (readCharacters more).map (after character) := by
  unfold writeCharacter
  split
  next written => exact readCharacters_escape written more
  next unescaped =>
    split
    next control => exact readCharacters_control control more
    next printable => exact readCharacters_plain unescaped printable more

theorem readCharacters_flatMap (characters rest : List Char) :
    readCharacters (characters.flatMap writeCharacter ++ '\x22' :: rest) =
      .ok (characters, rest) := by
  induction characters with
  | nil => rfl
  | cons character characters ih =>
    rw [List.flatMap_cons, List.append_assoc, readCharacters_writeCharacter, ih]
    rfl

theorem toList_writeText (text : String) : (writeText text).toList =
    '\x22' :: (text.toList.flatMap writeCharacter ++ ['\x22']) := by
  simp only [writeText, String.toList_append, String.toList_ofList]
  rfl

end Wristband.Json
