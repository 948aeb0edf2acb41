import Wristband.ProtocolError
import Wristband.Scan.Result
import Wristband.Tag.HardwareError

/-! Everything that can go wrong while a tag is in the field, and how it is reported to
the caller of a scan. -/

namespace Wristband

inductive TagError where
  | hardware (error : HardwareError)
  | protocol (error : ProtocolError)
  | data (error : DataError)
  /-- A handshake failed, or a tag ended an authenticated session. -/
  | auth (reason : String)
  /-- A protected page was addressed without a handshake. -/
  | notAuthenticated (operation : String)
  | incompatible (reason : String)
deriving DecidableEq, Repr

namespace TagError

def message : TagError → String
  | hardware error => error.message
  | protocol error => error.message
  | data error => error.message
  | auth reason => "Authentication failed: " ++ reason
  | notAuthenticated operation => operation ++ " needs an authenticated session"
  | incompatible reason => "Incompatible tag: " ++ reason

/-- The tag left the field or the connection broke. -/
def isLost : TagError → Bool
  | hardware error => error.isConnectionLoss
  | _ => false

/-- The request itself was wrong, so nothing was sent. -/
def isPrecondition : TagError → Bool
  | protocol error => error.isPrecondition
  | data _ => true
  | _ => false

/-- The failure that the caller of a scan is told. -/
def toFailure (error : TagError) : ScanFailure :=
  match error with
  | hardware (.unsupported operation) => ⟨.incompatible, "unsupported operation: " ++ operation⟩
  | hardware cause => ⟨if cause.isConnectionLoss then .lost else .other, cause.message⟩
  | protocol .cmacMismatch | protocol .counterExhausted
  | protocol (.authenticationFailed _) => ⟨.auth, error.message⟩
  | protocol (.keyFamilyMismatch ..) => ⟨.incompatible, error.message⟩
  | protocol _ | data _ => ⟨.other, error.message⟩
  | auth reason => ⟨.auth, reason⟩
  | notAuthenticated _ => ⟨.auth, error.message⟩
  | incompatible reason => ⟨.incompatible, reason⟩

end TagError
end Wristband
