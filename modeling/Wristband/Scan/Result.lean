import Wristband.Text.Utf8
import Wristband.Uid

/-! What a scan ends with. -/

namespace Wristband

inductive FailureKind where
  /-- The tag cannot serve the request. -/
  | incompatible
  /-- The connection broke. -/
  | lost
  /-- The tag or a frame was not authentic, or authentication was missing. -/
  | auth
  | other
deriving DecidableEq, Repr

/-- The name of the kind in written data. -/
def FailureKind.identifier : FailureKind → String
  | incompatible => "incompatible"
  | lost => "lost"
  | auth => "auth"
  | other => "other"

structure ScanFailure where
  kind : FailureKind
  reason : String
deriving DecidableEq, Repr

def ScanFailure.message (failure : ScanFailure) : String :=
  match failure.kind with
  | .incompatible => "incompatible tag: " ++ failure.reason
  | .lost => "tag lost: " ++ failure.reason
  | .auth => "authentication failed: " ++ failure.reason
  | .other => failure.reason

inductive ScanResult where
  | fastRead (uid : Uid)
  /-- User memory, and whether a part of the memory is protected. -/
  | read (isProtected : Bool) (uid : Uid) (content : Bytes)
  | write
  | test (log : String)
  | fail (failure : ScanFailure)
deriving DecidableEq, Repr

namespace ScanResult

def failure? : ScanResult → Option ScanFailure
  | fail failure => some failure
  | _ => none

def isFail (result : ScanResult) : Bool := result.failure?.isSome

/-- The bytes without the zeros at their end. -/
def trimZeros (bytes : Bytes) : Bytes := (bytes.reverse.dropWhile (· == 0)).reverse

/-- The content that was read, as text without its padding. -/
def contentText? : ScanResult → Option String
  | read _ _ content => some (String.ofList (Text.decodeUtf8 (trimZeros content)))
  | _ => none

end ScanResult
end Wristband
