import Wristband.Bytes.Hex
import Wristband.Text.Unprintable

/-! Characters and texts as they appear, between quotes, in descriptions. Quotes of
the kind around them, backslashes and whatever does not print are escaped. -/

namespace Wristband.Text

/-- The hexadecimal number of a character between braces, without leading zeros. -/
def numericEscape (character : Char) : List Char :=
  "\\u\x7b".toList ++ Nat.toDigits 16 character.toNat ++ ['\x7d']

/-- A character inside quotes of the given kind. -/
def escape (quote character : Char) : List Char :=
  if character = '\x00' then ['\x5c', '0']
  else if character = '\t' then ['\x5c', 't']
  else if character = '\r' then ['\x5c', 'r']
  else if character = '\n' then ['\x5c', 'n']
  else if character = quote ∨ character = '\x5c' then ['\x5c', character]
  else if isUnprintable character then numericEscape character
  else [character]

def quoteCharacter (character : Char) : String :=
  String.ofList (['\x27'] ++ escape '\x27' character ++ ['\x27'])

def quoteText (text : String) : String :=
  String.ofList (['\x22'] ++ text.toList.flatMap (escape '\x22') ++ ['\x22'])

end Wristband.Text
