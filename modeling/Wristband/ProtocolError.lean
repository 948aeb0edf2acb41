import Wristband.Bytes.Hex
import Wristband.Chip.Family
import Wristband.DataError

/-! Errors of the exchange with a tag. The first five are found before a frame is
built, so nothing has been sent when one of them arises. -/

namespace Wristband

inductive ProtocolError where
  | invalidPage (page pageCount : UInt8)
  | invalidPayloadLength (expected actual : Nat)
  | invalidKeySlot (code : UInt8)
  | invalidChallengeLength (expected actual : Nat)
  | keyFamilyMismatch (family key : ChipFamily)
  | unexpectedLength (expected actual : Nat)
  | unexpectedStatus (expected actual : UInt8)
  | nak (code : UInt8)
  | invalidData (reason : String)
  | cmacMismatch
  | counterExhausted
  | authenticationFailed (reason : String)
  | invalidState (reason : String)
  | cipher (reason : String)
  | data (error : DataError)
deriving DecidableEq, Repr

/-- Two lower-case hexadecimal digits after `0x`. -/
def Hex.marked (byte : UInt8) : String := "0x" ++ Hex.lower [byte]

/-- As few lower-case hexadecimal digits as the number has, after `0x`. -/
def Hex.markedShort (byte : UInt8) : String :=
  "0x" ++ String.ofList (Nat.toDigits 16 byte.toNat)

namespace ProtocolError

/-- The error's kind, as a log or a report names it. -/
def kind : ProtocolError → String
  | invalidPage .. => "InvalidPage"
  | invalidPayloadLength .. => "InvalidPayloadLength"
  | invalidKeySlot _ => "InvalidKeyType"
  | invalidChallengeLength .. => "InvalidChallengeLength"
  | keyFamilyMismatch .. => "KeyFamilyMismatch"
  | unexpectedLength .. => "UnexpectedResponseLength"
  | unexpectedStatus .. => "UnexpectedStatus"
  | nak _ => "Nak"
  | invalidData _ => "InvalidData"
  | cmacMismatch => "CmacMismatch"
  | counterExhausted => "CounterExhausted"
  | authenticationFailed _ => "AuthenticationFailed"
  | invalidState _ => "InvalidState"
  | cipher _ => "Crypto"
  | data error => "Core." ++ error.kind

def message : ProtocolError → String
  | invalidPage page pageCount =>
    s!"Page {page} out of range for a tag with {pageCount} pages"
  | invalidPayloadLength expected actual =>
    s!"Invalid payload length: expected {expected} bytes, got {actual}"
  | invalidKeySlot code => s!"Invalid key type: {code}"
  | invalidChallengeLength expected actual =>
    s!"Invalid challenge response length: expected {expected} bits, got {actual}"
  | keyFamilyMismatch family key =>
    s!"A {key.name} key cannot authenticate a {family.name} tag"
  | unexpectedLength expected actual =>
    s!"Unexpected response length: expected {expected} bytes, got {actual}"
  | unexpectedStatus expected actual =>
    "Unexpected status byte: expected " ++ Hex.marked expected ++ ", got " ++ Hex.marked actual
  | nak code => "Tag answered NAK " ++ Hex.markedShort code
  | invalidData reason => "Invalid data: " ++ reason
  | cmacMismatch => "CMAC verification failed"
  | counterExhausted => "CMAC command counter exhausted"
  | authenticationFailed reason => "Authentication failed: " ++ reason
  | invalidState reason => "Invalid authentication state: " ++ reason
  | cipher reason => "Crypto error: " ++ reason
  | data error => error.message

/-- Nothing was sent before the error arose. -/
def isPrecondition : ProtocolError → Bool
  | invalidPage .. | invalidPayloadLength .. | invalidKeySlot _ | invalidChallengeLength ..
  | keyFamilyMismatch .. => true
  | _ => false

/-- The tag did not prove that it knows the key, or a frame was not authentic. -/
def isAuthentication : ProtocolError → Bool
  | cmacMismatch | authenticationFailed _ => true
  | _ => false

end ProtocolError
end Wristband
