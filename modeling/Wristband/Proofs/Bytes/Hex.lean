import Wristband.Bytes.Hex
import Wristband.Proofs.Text.Utf8

/-! Hexadecimal text and the bytes it spells. A byte has two halves, and a digit of either case stands
for one of them. A text is read exactly when it consists of digits that make up whole bytes. -/

namespace Wristband

namespace Hex

/-- The halves of bytes in turn, the upper one first. -/
def halves (bytes : Bytes) : List Nat :=
  bytes.flatMap fun byte => [byte.toNat / 16, byte.toNat % 16]

def digitValue (digit : Char) : Nat := lowerDigits.idxOf digit.toLower

def codeValue? (code : UInt8) : Option Nat := (digitValue? code).map UInt8.toNat

private theorem halves_cons (byte : UInt8) (rest : Bytes) :
    halves (byte :: rest) = byte.toNat / 16 :: byte.toNat % 16 :: halves rest := rfl

theorem length_halves (bytes : Bytes) : (halves bytes).length = 2 * bytes.length := by
  induction bytes with
  | nil => rfl
  | cons byte rest ih =>
    rw [halves_cons, List.length_cons, List.length_cons, List.length_cons, ih]
    omega

private theorem lt_of_mem_halves {bytes : Bytes} {half : Nat} (listed : half ∈ halves bytes) : half < 16 := by
  obtain ⟨byte, -, part⟩ := List.mem_flatMap.mp listed
  have small := byte.toNat_lt
  simp only [List.mem_cons, List.not_mem_nil, or_false] at part
  omega

/-- Any values of two digits each are the halves of bytes. -/
theorem exists_halves : ∀ {values : List Nat}, values.length % 2 = 0 → (∀ value ∈ values, value < 16) →
    ∃ bytes, halves bytes = values
  | [], _, _ => ⟨[], rfl⟩
  | [_], odd, _ => absurd odd Nat.one_ne_zero
  | high :: low :: rest, even, small => by
    simp only [List.length_cons] at even
    have smallHigh := small high List.mem_cons_self
    have smallLow := small low (List.mem_cons_of_mem _ List.mem_cons_self)
    obtain ⟨bytes, shape⟩ := exists_halves (by omega : rest.length % 2 = 0) fun value listed =>
      small value (List.mem_cons_of_mem _ (List.mem_cons_of_mem _ listed))
    have number : (UInt8.ofNat (high * 16 + low)).toNat = high * 16 + low :=
      Text.toNat_ofNat_lt (by omega)
    refine ⟨UInt8.ofNat (high * 16 + low) :: bytes, ?_⟩
    rw [halves_cons, number, shape, show (high * 16 + low) / 16 = high by omega,
      show (high * 16 + low) % 16 = low by omega]

private theorem toNat_sub_lt {code first last offset : UInt8}
    (range : (first ≤ code && code ≤ last) = true) (behind : offset ≤ first)
    (short : last.toNat < offset.toNat + 16) : (code - offset).toNat < 16 := by
  simp only [Bool.and_eq_true, decide_eq_true_eq, UInt8.le_iff_toNat_le] at range behind
  rw [UInt8.toNat_sub_of_le _ _ (UInt8.le_iff_toNat_le.mpr (behind.trans range.1))]
  omega

private theorem digitValue?_lt {code value : UInt8} (read : digitValue? code = some value) :
    value.toNat < 16 := by
  unfold digitValue? at read
  split at read
  next decimal =>
    cases read
    exact toNat_sub_lt decimal (by decide) (by decide)
  split at read
  next capital =>
    cases read
    exact toNat_sub_lt capital (by decide) (by decide)
  split at read
  next small =>
    cases read
    exact toNat_sub_lt small (by decide) (by decide)
  next => cases read

private theorem byte_of_halves {high low byte : UInt8} (small : high.toNat < 16) (smallLow : low.toNat < 16) :
    high * 16 + low = byte ↔ high.toNat = byte.toNat / 16 ∧ low.toNat = byte.toNat % 16 := by
  have number : (high * 16 + low).toNat = high.toNat * 16 + low.toNat := by
    simp only [UInt8.toNat_add, UInt8.toNat_mul, UInt8.reduceToNat]
    omega
  rw [← UInt8.toNat_inj, number]
  omega

private theorem map_cons_eq_ok {read : Except ReadError Bytes} {first byte : UInt8} {bytes : Bytes} :
    read.map (first :: ·) = .ok (byte :: bytes) ↔ first = byte ∧ read = .ok bytes := by
  cases read with
  | error => exact iff_of_false nofun fun found => nomatch found.2
  | ok found => simp only [Except.map, Except.ok.injEq, List.cons.injEq]

private theorem go_eq_ok : ∀ {codes bytes : Bytes} {position : Nat}, codes.length % 2 = 0 →
    (read.go position codes = .ok bytes ↔ codes.map codeValue? = (halves bytes).map some)
  | [], bytes, _, _ => by
    cases bytes with
    | nil => exact iff_of_true rfl rfl
    | cons => exact iff_of_false nofun nofun
  | [_], _, _, odd => absurd odd Nat.one_ne_zero
  | high :: low :: rest, bytes, position, even => by
    simp only [List.length_cons] at even
    have behind := fun found : Bytes =>
      @go_eq_ok rest found (position + 2) (by omega : rest.length % 2 = 0)
    rw [read.go, List.map_cons, List.map_cons, codeValue?, codeValue?]
    cases upper : digitValue? high with
    | none => cases bytes <;> exact iff_of_false nofun nofun
    | some upperHalf =>
      cases lower : digitValue? low with
      | none =>
        refine iff_of_false nofun fun spelt => ?_
        cases bytes with
        | nil => cases spelt
        | cons => cases (List.cons.inj (List.cons.inj spelt).2).1
      | some lowerHalf =>
        cases bytes with
        | nil =>
          refine iff_of_false (fun nothing => ?_) nofun
          dsimp only at nothing
          cases found : read.go (position + 2) rest with
          | error | ok =>
            rw [found] at nothing
            cases nothing
        | cons byte found =>
          have joined := @byte_of_halves _ _ byte (digitValue?_lt upper) (digitValue?_lt lower)
          simp only [map_cons_eq_ok, joined, behind, halves_cons, Option.map_some, List.map_cons,
            List.cons.injEq, Option.some.injEq, and_assoc]

/-- Bytes are read exactly from the codes of the digits that spell them. -/
theorem read_eq_ok {codes bytes : Bytes} :
    read codes = .ok bytes ↔ codes.map codeValue? = (halves bytes).map some := by
  by_cases odd : codes.length % 2 = 1
  · rw [read, if_pos odd]
    refine iff_of_false nofun fun spelt => ?_
    have sized := congrArg List.length spelt
    rw [List.length_map, List.length_map, length_halves] at sized
    omega
  · rw [read, if_neg odd]
    exact go_eq_ok (by omega)

/-! Digits as characters of a text. -/

private theorem ascii_of_isHexDigit {digit : Char} (hex : digit.isHexDigit = true) : digit.toNat < 128 := by
  simp only [Char.isHexDigit, Char.isDigit, Bool.or_eq_true, Bool.and_eq_true, decide_eq_true_eq,
    UInt32.le_iff_toNat_le, ge_iff_le] at hex
  change digit.val.toNat < 128
  simp only [Char.reduceVal, UInt32.reduceToNat] at hex
  omega

/-- The digits of both cases can be gone through by their values. -/
theorem forall_hexDigit {p : Char → Prop}
    (every : ∀ value < 16, p (lowerDigits.getD value '0') ∧ p (upperDigits.getD value '0'))
    {digit : Char} (hex : digit.isHexDigit = true) : p digit := by
  have listed : ∃ value < 16,
      digit = lowerDigits.getD value '0' ∨ digit = upperDigits.getD value '0' := by
    refine Text.forall_ascii (p := fun digit => digit.isHexDigit = true → ∃ value < 16,
      digit = lowerDigits.getD value '0' ∨ digit = upperDigits.getD value '0') ?_
      (ascii_of_isHexDigit hex) hex
    decide
  obtain ⟨value, small, rfl | rfl⟩ := listed
  · exact (every value small).1
  · exact (every value small).2

private theorem codeValue?_of_ascii {character : Char} (ascii : character.toNat < 128) :
    codeValue? (.ofNat character.toNat) =
      if character.isHexDigit then some (digitValue character) else none := by
  refine Text.forall_ascii (p := fun character => codeValue? (.ofNat character.toNat) =
    if character.isHexDigit then some (digitValue character) else none) ?_ ascii
  decide

private theorem codeValue?_continuation (bits : Nat) : codeValue? (Text.continuation bits) = none := by
  have past {last : UInt8} (ascii : last.toNat < 128) : ¬ Text.continuation bits ≤ last := by
    rw [UInt8.le_iff_toNat_le, Text.toNat_continuation]
    omega
  simp only [codeValue?, digitValue?, @past 57 (by decide), @past 70 (by decide),
    @past 102 (by decide), decide_false, Bool.and_false, Bool.false_eq_true, if_false,
    Option.map_none]

private theorem isHexDigit_of_codes {character : Char}
    (digits : ∀ code ∈ String.utf8EncodeChar character, codeValue? code ≠ none) :
    character.isHexDigit = true := by
  by_cases ascii : character.toNat < 128
  · have own := digits (.ofNat character.toNat)
      (Text.utf8EncodeChar_of_ascii ascii ▸ List.mem_singleton_self _)
    rw [codeValue?_of_ascii ascii] at own
    by_contra other
    exact own (if_neg other)
  · obtain ⟨bits, last⟩ := Text.getLast?_utf8EncodeChar ascii
    exact absurd (codeValue?_continuation bits) (digits _ (List.mem_of_getLast? last))

private theorem map_codeValue?_encodeUtf8 {digits : List Char}
    (hex : ∀ digit ∈ digits, digit.isHexDigit = true) :
    (Text.encodeUtf8 digits).map codeValue? = (digits.map digitValue).map some := by
  induction digits with
  | nil => rfl
  | cons digit digits ih =>
    have first := hex digit List.mem_cons_self
    have ascii := ascii_of_isHexDigit first
    rw [Text.encodeUtf8, List.flatMap_cons, Text.utf8EncodeChar_of_ascii ascii,
      List.singleton_append, List.map_cons, codeValue?_of_ascii ascii, if_pos first]
    apply congrArg (some (digitValue digit) :: ·)
    exact ih fun digit listed => hex digit (List.mem_cons_of_mem _ listed)

theorem read_encodeUtf8_eq_ok {digits : List Char} {bytes : Bytes} :
    read (Text.encodeUtf8 digits) = .ok bytes ↔
      (∀ digit ∈ digits, digit.isHexDigit = true) ∧ digits.map digitValue = halves bytes := by
  have apart {left right : List Nat} : left.map some = right.map some ↔ left = right :=
    List.map_inj_right fun _ _ => Option.some.inj
  rw [read_eq_ok]
  constructor
  · intro spelt
    have hex : ∀ digit ∈ digits, digit.isHexDigit = true := by
      intro digit listed
      apply isHexDigit_of_codes
      intro code part nothing
      have read := List.mem_map_of_mem (f := codeValue?) (List.mem_flatMap.mpr ⟨digit, listed, part⟩)
      rw [← Text.encodeUtf8, spelt, nothing] at read
      obtain ⟨_, -, absent⟩ := List.mem_map.mp read
      cases absent
    exact ⟨hex, apart.mp (map_codeValue?_encodeUtf8 hex ▸ spelt)⟩
  · rintro ⟨hex, spelt⟩
    rw [map_codeValue?_encodeUtf8 hex, spelt]

/-! Digits of one case are what bytes are written with. -/

private theorem flatMap_ofByte (cased : List Char) (bytes : Bytes) :
    bytes.flatMap (ofByte cased) = (halves bytes).map (cased.getD · '0') := by
  rw [halves, List.map_flatMap]
  rfl

theorem length_flatMap_ofByte (cased : List Char) (bytes : Bytes) :
    (bytes.flatMap (ofByte cased)).length = 2 * bytes.length := by
  rw [flatMap_ofByte, List.length_map, length_halves]

private theorem toList_lower (bytes : Bytes) :
    (lower bytes).toList = (halves bytes).map (lowerDigits.getD · '0') := by
  rw [lower, String.toList_ofList, flatMap_ofByte]

private theorem toList_upper (bytes : Bytes) :
    (upper bytes).toList = (halves bytes).map (upperDigits.getD · '0') := by
  rw [upper, String.toList_ofList, flatMap_ofByte]

theorem length_upper (bytes : Bytes) : (upper bytes).length = 2 * bytes.length := by
  rw [upper, String.length_ofList, length_flatMap_ofByte]

private theorem toLower_of_isHexDigit {digit : Char} (hex : digit.isHexDigit = true) :
    digit.toLower = lowerDigits.getD (digitValue digit) '0' := by
  apply forall_hexDigit (p := fun digit =>
    digit.toLower = lowerDigits.getD (digitValue digit) '0') ?_ hex
  decide

theorem digitValue_lt {digit : Char} (hex : digit.isHexDigit = true) : digitValue digit < 16 :=
  forall_hexDigit (p := fun digit => digitValue digit < 16) (by decide) hex

private theorem isHexDigit_of_toLower {digit : Char} (hex : digit.toLower.isHexDigit = true) :
    digit.isHexDigit = true := by
  by_cases ascii : digit.toNat < 128
  · refine Text.forall_ascii (p := fun digit => digit.toLower.isHexDigit = true →
      digit.isHexDigit = true) ?_ ascii hex
    decide
  · have not_capital : ¬ (digit.val ≥ 'A'.val ∧ digit.val ≤ 'Z'.val) := by
      intro capital
      apply ascii
      have below := UInt32.le_iff_toNat_le.mp capital.2
      exact Nat.lt_of_le_of_lt below (by decide)
    have same : digit.toLower = digit := dif_neg not_capital
    rwa [same] at hex

private theorem lowerDigits_read_back : ∀ value < 16, (lowerDigits.getD value '0').isHexDigit = true ∧
    lowerDigits.idxOf (lowerDigits.getD value '0') = value := by
  decide

/-- Digits of any case spell bytes exactly when their lower case is how the bytes are written. -/
theorem spell_iff_toLower {digits : List Char} {bytes : Bytes} :
    ((∀ digit ∈ digits, digit.isHexDigit = true) ∧ digits.map digitValue = halves bytes) ↔
      digits.map Char.toLower = (lower bytes).toList := by
  rw [toList_lower]
  constructor
  · rintro ⟨hex, spelt⟩
    rw [← spelt, List.map_map]
    exact List.map_congr_left fun digit listed => toLower_of_isHexDigit (hex digit listed)
  · intro lowered
    constructor
    · intro digit listed
      have written := List.mem_map_of_mem (f := Char.toLower) listed
      rw [lowered] at written
      obtain ⟨half, part, same⟩ := List.mem_map.mp written
      apply isHexDigit_of_toLower
      rw [← same]
      exact (lowerDigits_read_back half (lt_of_mem_halves part)).1
    · have values : digits.map digitValue = (digits.map Char.toLower).map lowerDigits.idxOf := by
        rw [List.map_map]
        rfl
      rw [values, lowered, List.map_map]
      apply (List.map_congr_left fun half part => ?_).trans (List.map_id _)
      exact (lowerDigits_read_back half (lt_of_mem_halves part)).2

private theorem toLower_upperDigits : ∀ value < 16,
    (upperDigits.getD value '0').toLower = lowerDigits.getD value '0' := by
  decide

/-- Bytes are read back from their digits in upper case. -/
theorem read_upper (bytes : Bytes) : read (Text.encodeUtf8 (upper bytes).toList) = .ok bytes := by
  apply read_encodeUtf8_eq_ok.mpr
  apply spell_iff_toLower.mpr
  rw [toList_upper, toList_lower, List.map_map]
  exact List.map_congr_left fun half part => toLower_upperDigits half (lt_of_mem_halves part)

end Hex
end Wristband
