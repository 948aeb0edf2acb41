/-! Errors of the radio link between terminal and tag. -/

namespace Wristband

inductive HardwareError where
  | tagLost (reason : String)
  | notConnected
  | security (reason : String)
  | unsupported (operation : String)
  | timeout (milliseconds : UInt64)
  | readerModeDisabled
  | other (reason : String)
deriving DecidableEq, Repr

namespace HardwareError

/-- The error's kind, as a log or a report names it. -/
def kind : HardwareError → String
  | tagLost _ => "TagLost"
  | notConnected => "NotConnected"
  | security _ => "Security"
  | unsupported _ => "Unsupported"
  | timeout _ => "Timeout"
  | readerModeDisabled => "ReaderModeDisabled"
  | other _ => "Other"

def message : HardwareError → String
  | tagLost reason => "Tag lost: " ++ reason
  | notConnected => "Tag not connected"
  | security reason => "Security error: " ++ reason
  | unsupported operation => "Unsupported operation: " ++ operation
  | timeout milliseconds => s!"Operation timeout after {milliseconds}ms"
  | readerModeDisabled => "Reader mode disabled"
  | other reason => reason

/-- The connection to the tag is gone. -/
def isConnectionLoss : HardwareError → Bool
  | tagLost _ | notConnected | security _ | timeout _ => true
  | unsupported _ | readerModeDisabled | other _ => false

end HardwareError
end Wristband
