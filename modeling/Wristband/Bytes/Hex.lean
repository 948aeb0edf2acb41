import Wristband.Bytes.Basic

/-! Hexadecimal text of byte strings, in both letter cases, and its reading. -/

namespace Wristband.Hex

/-- The digits in value order, upper case. -/
def upperDigits : List Char := "0123456789ABCDEF".toList

/-- The digits in value order, lower case. -/
def lowerDigits : List Char := "0123456789abcdef".toList

/-- The two digits of a byte. -/
def ofByte (digits : List Char) (byte : UInt8) : List Char :=
  [digits.getD (byte.toNat / 16) '0', digits.getD (byte.toNat % 16) '0']

/-- Two upper-case digits for each byte. -/
def upper (bytes : Bytes) : String := String.ofList (bytes.flatMap (ofByte upperDigits))

/-- Two lower-case digits for each byte. -/
def lower (bytes : Bytes) : String := String.ofList (bytes.flatMap (ofByte lowerDigits))

/-- The digits of a number in upper case, as few as it has. -/
def digits (number : Nat) : List Char := (Nat.toDigits 16 number).map Char.toUpper

/-- Digits with a zero before them when their number is odd, so that they make up whole bytes. -/
def padded (digits : List Char) : List Char :=
  if digits.length % 2 = 1 then '0' :: digits else digits

/-- The value of a digit given by its character code, in either letter case. -/
def digitValue? (code : UInt8) : Option UInt8 :=
  if 48 ≤ code && code ≤ 57 then some (code - 48)
  else if 65 ≤ code && code ≤ 70 then some (code - 55)
  else if 97 ≤ code && code ≤ 102 then some (code - 87)
  else none

/-- Why a text is no sequence of bytes. -/
inductive ReadError where
  | oddDigits
  | invalidDigit (code : UInt8) (position : Nat)
deriving DecidableEq, Repr

/-- Reads the bytes that a string of character codes spells. The number of digits
is checked before any of them, and of two wrong digits the first is reported. -/
def read (codes : Bytes) : Except ReadError Bytes :=
  if codes.length % 2 = 1 then .error .oddDigits else go 0 codes
where
  go (position : Nat) : Bytes → Except ReadError Bytes
    | high :: low :: rest =>
      match digitValue? high, digitValue? low with
      | none, _ => .error (.invalidDigit high position)
      | some _, none => .error (.invalidDigit low (position + 1))
      | some upperHalf, some lowerHalf =>
        (go (position + 2) rest).map ((upperHalf * 16 + lowerHalf) :: ·)
    | _ => .ok []

end Wristband.Hex
