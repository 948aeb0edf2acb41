/-! Errors about the data that a caller hands over. -/

namespace Wristband

inductive DataError where
  | bitIndexOutOfRange (index length : Nat)
  | notByteAligned (length : Nat)
  | invalidKeyLength (expected actual : Nat)
  | invalidKeyEncoding (reason : String)
  | invalidUidLength (length : Nat)
  | invalidPageRange (reason : String)
  | config (reason : String)
deriving DecidableEq, Repr

/-- The error's kind, as a log or a report names it. -/
def DataError.kind : DataError → String
  | .bitIndexOutOfRange .. => "BitIndexOutOfRange"
  | .notByteAligned _ => "NotByteAligned"
  | .invalidKeyLength .. => "InvalidKeyLength"
  | .invalidKeyEncoding _ => "InvalidKeyEncoding"
  | .invalidUidLength _ => "InvalidUidLength"
  | .invalidPageRange _ => "InvalidPageRange"
  | .config _ => "Config"

def DataError.message : DataError → String
  | .bitIndexOutOfRange index length =>
    s!"Bit index {index} out of range for vector of {length} bits"
  | .notByteAligned length => s!"Bit vector of {length} bits is not byte aligned"
  | .invalidKeyLength expected actual =>
    s!"Invalid key length: expected {expected} bytes, got {actual}"
  | .invalidKeyEncoding reason => "Invalid key encoding: " ++ reason
  | .invalidUidLength length => s!"Invalid UID length: {length} bytes"
  | .invalidPageRange reason => "Invalid page range: " ++ reason
  | .config reason => "Configuration error: " ++ reason

end Wristband
