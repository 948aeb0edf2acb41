import Wristband.Json.Record
import Wristband.Scan.Result

/-! The written form of scan results. -/

namespace Wristband

open Json

namespace FailureKind

def ofIdentifier? (name : String) : Option FailureKind :=
  [incompatible, lost, auth, other].find? fun kind => kind.identifier == name

/-- The kind by its name. -/
def readName (name : String) : Reading FailureKind := require (ofIdentifier? name)

def readPlain : Reading FailureKind := do
  readName (← readText)

/-- The kind as a name, or as a record with the name and null. -/
def readTagged : Reading FailureKind :=
  readCase readName fun name => do
    let kind ← readName name
    readNull
    return kind

end FailureKind

namespace ScanFailure

/-- The fields of a failure that have been read. -/
structure Fields where
  kind : Option FailureKind
  reason : Option String

/-- The kind among the values of a list is a plain name, the kind by its field name may
also be tagged. -/
def readField (isListed : Bool) (field : Nat) (fields : Fields) : Reading Fields := do
  if field = 0 then
    let kind ← if isListed then FailureKind.readPlain else FailureKind.readTagged
    return { fields with kind := some kind }
  else
    let reason ← readText
    return { fields with reason := some reason }

def read : Reading ScanFailure := do
  let isListed := (← peek) == some '['
  let fields ← readRecord ["kind", "reason"] (readField isListed) ⟨none, none⟩
  return ⟨← require fields.kind, ← require fields.reason⟩

def write (failure : ScanFailure) : String :=
  "\x7b\"kind\":" ++ writeText failure.kind.identifier ++ ",\"reason\":" ++
    writeText failure.reason ++ "\x7d"

end ScanFailure

namespace ScanResult

/-- The fields of what was read from a tag, as far as they have been read. -/
structure Fields where
  isProtected : Option Bool
  uid : Option Uid
  content : Option Bytes

def readUid : Reading Uid := do
  let value ← readNatural UInt64.size
  return ⟨UInt64.ofNat value⟩

def readByte : Reading UInt8 := do
  let value ← readNatural 256
  return UInt8.ofNat value

def readField (field : Nat) (fields : Fields) : Reading Fields := do
  if field = 0 then
    let isProtected ← readBool
    return { fields with isProtected := some isProtected }
  else if field = 1 then
    let uid ← readUid
    return { fields with uid := some uid }
  else
    let content ← readList readByte
    return { fields with content := some content }

def readMemory : Reading ScanResult := do
  let fields ← readRecord ["protected", "uid", "content"] readField ⟨none, none, none⟩
  return .read (← require fields.isProtected) (← require fields.uid) (← require fields.content)

/-- A result with a value behind its name. -/
def readNamedCase (name : String) : Reading ScanResult :=
  match name with
  | "fast_read" => do
    let uid ← readUid
    return .fastRead uid
  | "read" => readMemory
  | "write" => do
    readNull
    return .write
  | "test" => do
    let log ← readText
    return .test log
  | "fail" => do
    let failure ← ScanFailure.read
    return .fail failure
  | _ => malformed

/-- A result without a value. -/
def readPlainCase (name : String) : Reading ScanResult :=
  if name = "write" then return .write else malformed

def ofJson (text : String) : Except ReadError ScanResult :=
  readAll (readCase readPlainCase readNamedCase) text

def writeCase (name value : String) : String :=
  "\x7b" ++ writeText name ++ ":" ++ value ++ "\x7d"

def toJson : ScanResult → String
  | fastRead uid => writeCase "fast_read" (toString uid.value)
  | read isProtected uid content =>
    writeCase "read" ("\x7b\"protected\":" ++ toString isProtected ++ ",\"uid\":" ++
      toString uid.value ++ ",\"content\":[" ++ ",".intercalate (content.map toString) ++ "]\x7d")
  | write => writeText "write"
  | test log => writeCase "test" (writeText log)
  | fail failure => writeCase "fail" failure.write

end ScanResult
end Wristband
