import Wristband.Chip.Layout

/-! Chip families. The family of a tag decides the memory layout and the handshake
that the tag speaks. -/

namespace Wristband

inductive ChipFamily where
  /-- Ultralight and Ultralight-C, the latter with 3DES authentication. -/
  | ultralight
  /-- Ultralight-AES, with AES authentication and optional frame authentication. -/
  | ultralightAes
deriving DecidableEq, Repr

namespace ChipFamily

def pageCount : ChipFamily → UInt8
  | ultralight => Layout.pageCount
  | ultralightAes => Layout.pageCountAes

/-- The page that holds AUTH0. -/
def auth0Page : ChipFamily → UInt8
  | ultralight => Layout.tdesAuth0Page
  | ultralightAes => Layout.aesConfigPage

/-- The place of AUTH0 in its page. -/
def auth0Byte : ChipFamily → Nat
  | ultralight => 0
  | ultralightAes => Layout.aesAuth0Byte

/-- The AUTH0 value that protects nothing. -/
def auth0Disabled (family : ChipFamily) : UInt8 := family.pageCount

/-- Bytes of the encrypted challenge in the first answer of a handshake. -/
def challengeLength : ChipFamily → Nat
  | ultralight => 8
  | ultralightAes => 16

/-- Bytes of the encrypted confirmation in the second answer of a handshake. -/
def confirmationLength : ChipFamily → Nat
  | ultralight => 24
  | ultralightAes => 16

def supportsCmac : ChipFamily → Bool
  | ultralight => false
  | ultralightAes => true

def name : ChipFamily → String
  | ultralight => "MIFARE Ultralight"
  | ultralightAes => "MIFARE Ultralight AES"

/-- The name of the family in written data. -/
def identifier : ChipFamily → String
  | ultralight => "ultralight"
  | ultralightAes => "ultralight_aes"

def ofIdentifier? (name : String) : Option ChipFamily :=
  [ultralight, ultralightAes].find? fun family => family.identifier == name

/-- The name of the family in state descriptions. -/
def label : ChipFamily → String
  | ultralight => "Ultralight"
  | ultralightAes => "UltralightAes"

end ChipFamily
end Wristband
