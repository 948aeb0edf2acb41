import Wristband.Json.Reading

/-! Texts in JSON. A text is written between quotes, and only quotes, backslashes and
control characters are escaped. Every escape of the format is read. -/

namespace Wristband.Json

def hexDigit? (character : Char) : Option Nat :=
  if '0' ≤ character ∧ character ≤ '9' then some (character.toNat - 48)
  else if 'a' ≤ character ∧ character ≤ 'f' then some (character.toNat - 87)
  else if 'A' ≤ character ∧ character ≤ 'F' then some (character.toNat - 55)
  else none

/-- The number that four hexadecimal digits spell. -/
def unit? (a b c d : Char) : Option Nat := do
  return (((← hexDigit? a) * 16 + (← hexDigit? b)) * 16 + (← hexDigit? c)) * 16 + (← hexDigit? d)

/-- The first half of a pair that stands for one character. -/
def isLeadingHalf (unit : Nat) : Bool := 0xD800 ≤ unit && unit < 0xDC00

/-- The second half of such a pair. -/
def isTrailingHalf (unit : Nat) : Bool := 0xDC00 ≤ unit && unit < 0xE000

def joinHalves (leading trailing : Nat) : Char :=
  Char.ofNat (0x10000 + (leading - 0xD800) * 0x400 + (trailing - 0xDC00))

/-- The character that stands behind a backslash for another one. -/
def shortEscapes : List (Char × Char) :=
  [('\x22', '\x22'), ('\x5c', '\x5c'), ('/', '/'), ('b', '\x08'), ('f', '\x0c'), ('n', '\n'),
   ('r', '\r'), ('t', '\t')]

/-- The characters up to the closing quote, and what follows it. -/
def readCharacters : List Char → Except ReadError (List Char × List Char)
  | [] => .error .malformed
  | '\x5c' :: 'u' :: a :: b :: c :: d :: rest =>
    match unit? a b c d with
    | none => .error .malformed
    | some unit =>
      if isTrailingHalf unit then .error .malformed
      else if isLeadingHalf unit then
        match rest with
        | '\x5c' :: 'u' :: e :: f :: g :: h :: rest =>
          match unit? e f g h with
          | none => .error .malformed
          | some trailing =>
            if isTrailingHalf trailing then
              (readCharacters rest).map fun found => (joinHalves unit trailing :: found.1, found.2)
            else .error .malformed
        | _ => .error .malformed
      else (readCharacters rest).map fun found => (Char.ofNat unit :: found.1, found.2)
  | '\x5c' :: letter :: rest =>
    match shortEscapes.lookup letter with
    | none => .error .malformed
    | some character => (readCharacters rest).map fun found => (character :: found.1, found.2)
  | character :: rest =>
    if character = '\x22' then .ok ([], rest)
    else if character.toNat < 0x20 ∨ character = '\x5c' then .error .malformed
    else (readCharacters rest).map fun found => (character :: found.1, found.2)

/-- A text between quotes. -/
def readText : Reading String := do
  takeMark '\x22'
  let (characters, rest) ← readCharacters (← get)
  set rest
  return String.ofList characters

/-- Skips a text to behind its closing quote. Escapes must have their form, but they need
not stand for characters. -/
def skipCharacters : List Char → Except ReadError (List Char)
  | [] => .error .malformed
  | '\x5c' :: 'u' :: a :: b :: c :: d :: rest =>
    if (unit? a b c d).isSome then skipCharacters rest else .error .malformed
  | '\x5c' :: letter :: rest =>
    if (shortEscapes.lookup letter).isSome then skipCharacters rest else .error .malformed
  | character :: rest =>
    if character = '\x22' then .ok rest
    else if character.toNat < 0x20 ∨ character = '\x5c' then .error .malformed
    else skipCharacters rest

/-- The escapes that writing uses in place of a number. -/
def writtenEscapes : List (Char × Char) :=
  [('\x22', '\x22'), ('\x5c', '\x5c'), ('\x08', 'b'), ('\x0c', 'f'), ('\n', 'n'), ('\r', 'r'),
   ('\t', 't')]

def hexDigitOf (value : Nat) : Char := "0123456789abcdef".toList.getD value '0'

def writeCharacter (character : Char) : List Char :=
  match writtenEscapes.lookup character with
  | some letter => ['\x5c', letter]
  | none =>
    if character.toNat < 0x20 then
      ['\x5c', 'u', '0', '0', hexDigitOf (character.toNat / 16), hexDigitOf (character.toNat % 16)]
    else [character]

def writeText (text : String) : String :=
  "\"" ++ String.ofList (text.toList.flatMap writeCharacter) ++ "\""

end Wristband.Json
