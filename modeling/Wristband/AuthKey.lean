import Wristband.Chip.Family
import Wristband.DataError
import Wristband.Text.Blank
import Wristband.Text.Quoted
import Wristband.Text.Utf8

/-! Keys that a terminal is configured with. A description never shows their bytes. -/

namespace Wristband

inductive AuthKey where
  /-- The secret that the 3DES key of an Ultralight-C tag is derived from. -/
  | tdes (secret : FixedBytes Layout.tdesSecretLength)
  /-- The AES key of an Ultralight-AES tag. -/
  | aes (key : FixedBytes Layout.aesKeyLength)
deriving DecidableEq

/-- The wording of a hexadecimal text that cannot be read. -/
def Hex.ReadError.message : Hex.ReadError → String
  | .oddDigits => "Odd number of digits"
  | .invalidDigit code position =>
    let shown := Text.quoteCharacter (Char.ofNat code.toNat)
    s!"Invalid character {shown} at position {position}"

namespace AuthKey

def ofTdesSecret (bytes : Bytes) : Except DataError AuthKey :=
  match FixedBytes.ofBytes? Layout.tdesSecretLength bytes with
  | some secret => .ok (tdes secret)
  | none => .error (.invalidKeyLength Layout.tdesSecretLength bytes.length)

def ofAesKey (bytes : Bytes) : Except DataError AuthKey :=
  match FixedBytes.ofBytes? Layout.aesKeyLength bytes with
  | some key => .ok (aes key)
  | none => .error (.invalidKeyLength Layout.aesKeyLength bytes.length)

/-- Reads a key from hexadecimal text with any blank characters around it. Its length
tells the kind: twelve digits spell a 3DES secret and thirty-two an AES key. -/
def ofHex (text : String) : Except DataError AuthKey :=
  match Hex.read (Text.encodeUtf8 (Text.trim text.toList)) with
  | .error reason => .error (.invalidKeyEncoding reason.message)
  | .ok bytes =>
    if bytes.length = Layout.tdesSecretLength then ofTdesSecret bytes else ofAesKey bytes

def bytes : AuthKey → Bytes
  | tdes secret => secret.val
  | aes key => key.val

/-- The family whose tags the key can authenticate to. -/
def family : AuthKey → ChipFamily
  | tdes _ => .ultralight
  | aes _ => .ultralightAes

def description : AuthKey → String
  | tdes _ => "AuthKey::Tdes(<redacted>)"
  | aes _ => "AuthKey::Aes(<redacted>)"

end AuthKey
end Wristband
