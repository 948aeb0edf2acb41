import Wristband.Chip.Family
import Wristband.Text.Quoted

/-! What a tag advertises when it comes into the field. -/

namespace Wristband

inductive Technology where
  | nfcA
  | nfcB
  | nfcF
  | nfcV
  | isoDep
  | mifareClassic
  | mifareUltralight
  | mifareUltralightAes
  | ndef
  | other (name : String)
deriving DecidableEq, Repr

namespace Technology

/-- The part of a name behind its last dot. -/
def shortName (name : String) : String :=
  String.ofList (name.toList.reverse.takeWhile (· != '.')).reverse

/-- Reads a name such as `android.nfc.tech.NfcA`, of which only the last part counts. -/
def ofName (name : String) : Technology :=
  match shortName name with
  | "NfcA" => nfcA
  | "NfcB" => nfcB
  | "NfcF" => nfcF
  | "NfcV" => nfcV
  | "IsoDep" => isoDep
  | "MifareClassic" => mifareClassic
  | "MifareUltralight" => mifareUltralight
  | "MifareUltralightAES" => mifareUltralightAes
  | "MifareUltralightAes" => mifareUltralightAes
  | "Ndef" => ndef
  | _ => other name

def name : Technology → String
  | nfcA => "NfcA"
  | nfcB => "NfcB"
  | nfcF => "NfcF"
  | nfcV => "NfcV"
  | isoDep => "IsoDep"
  | mifareClassic => "MifareClassic"
  | mifareUltralight => "MifareUltralight"
  | mifareUltralightAes => "MifareUltralightAes"
  | ndef => "Ndef"
  | other name => name

def description : Technology → String
  | other name => "Other(" ++ Text.quoteText name ++ ")"
  | known => known.name

/-- The family that a list of technologies tells. Ultralight-AES tags advertise the plain
Ultralight technology as well, so theirs takes precedence. -/
def family? (technologies : List Technology) : Option ChipFamily :=
  if mifareUltralightAes ∈ technologies then some .ultralightAes
  else if mifareUltralight ∈ technologies then some .ultralight
  else none

end Technology
end Wristband
