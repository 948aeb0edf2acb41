import Wristband.Json.Record
import Wristband.Scan.Request

/-! The keys and settings that a terminal is configured with, and the requests that they
lead to. -/

namespace Wristband

structure ScanPolicy where
  dataProtectionKey : Option AuthKey
  uidRetrievalKey : Option AuthKey
  /-- Keys that reading tries after the data protection key, in order. -/
  fallbackKeys : List AuthKey
  cmac : Bool
  /-- Every scan must authenticate. -/
  restricted : Bool
deriving DecidableEq

/-- Why a policy cannot be loaded. -/
inductive PolicyError where
  | unreadable (error : Json.ReadError)
  | restrictedWithoutKey
deriving DecidableEq, Repr

namespace PolicyError

def restrictedWithoutKeyReason : String := "restricted policy needs a data protection key"

/-- The wording of an error that is about the policy and not about its text. -/
def message? : PolicyError → Option String
  | unreadable .malformed => none
  | unreadable (.badKey error) => some (DataError.config error.message).message
  | restrictedWithoutKey => some (DataError.config restrictedWithoutKeyReason).message

end PolicyError

namespace ScanPolicy

open Json

/-- No keys and no restrictions, but codes on frames. -/
def default : ScanPolicy :=
  { dataProtectionKey := none, uidRetrievalKey := none, fallbackKeys := [], cmac := true,
    restricted := false }

def readKey : Reading AuthKey := do
  match AuthKey.ofHex (← readText) with
  | .ok key => return key
  | .error error => throw (.badKey error)

def fieldNames : List String :=
  ["data_protection_key", "uid_retrieval_key", "fallback_keys", "cmac", "restricted"]

def readField (field : Nat) (policy : ScanPolicy) : Reading ScanPolicy := do
  match field with
  | 0 => do
    let key ← readOptional readKey
    return { policy with dataProtectionKey := key }
  | 1 => do
    let key ← readOptional readKey
    return { policy with uidRetrievalKey := key }
  | 2 => do
    let keys ← readList readKey
    return { policy with fallbackKeys := keys }
  | 3 => do
    let cmac ← readBool
    return { policy with cmac := cmac }
  | _ => do
    let restricted ← readBool
    return { policy with restricted := restricted }

/-- A restricted policy must have a key to authenticate with. -/
def check (policy : ScanPolicy) : Except PolicyError ScanPolicy :=
  if policy.restricted ∧ policy.dataProtectionKey = none then .error .restrictedWithoutKey
  else .ok policy

/-- Loads a policy. Every field may be missing. -/
def ofJson (text : String) : Except PolicyError ScanPolicy :=
  match readAll (readRecord fieldNames readField default) text with
  | .error error => .error (.unreadable error)
  | .ok policy => policy.check

/-- The keys that reading tries, in order. -/
def readKeys (policy : ScanPolicy) : List AuthKey :=
  policy.dataProtectionKey.toList ++ policy.fallbackKeys

def fastRead (_ : ScanPolicy) : ScanRequest := .fastRead

def read (policy : ScanPolicy) (page : UInt8) : ScanRequest :=
  match policy.readKeys with
  | [] => .read page none policy.cmac
  | [key] => .read page (some key) policy.cmac
  | keys => .readMultiKey page keys policy.cmac

def write (policy : ScanPolicy) (page : UInt8) (data : Bytes) : ScanRequest :=
  .write page data policy.dataProtectionKey policy.cmac

def protect (policy : ScanPolicy) (enable : Bool) : ScanRequest :=
  .writeProtect policy.dataProtectionKey enable policy.cmac

def switchCmac (policy : ScanPolicy) (enable : Bool) : ScanRequest :=
  .writeCmac policy.dataProtectionKey enable policy.cmac

/-- Replaces the keys of a tag that has the current one. -/
def rekey (policy : ScanPolicy) (newKey : AuthKey) : ScanRequest :=
  .writeKey policy.dataProtectionKey newKey policy.cmac

/-- A diagnosis, for which both keys must be known. -/
def test (policy : ScanPolicy) : Except DataError ScanRequest :=
  match policy.dataProtectionKey, policy.uidRetrievalKey with
  | some key0, some key1 => .ok (.test key0 key1)
  | _, _ =>
    .error (.config "diagnostics need both the data protection and the UID retrieval key")

def description (policy : ScanPolicy) : String :=
  ScanRequest.describeFields "ScanPolicy"
    [("data_protection_key", ScanRequest.describeKey policy.dataProtectionKey),
     ("uid_retrieval_key", ScanRequest.describeKey policy.uidRetrievalKey),
     ("fallback_keys", ScanRequest.describeList AuthKey.description policy.fallbackKeys),
     ("cmac", toString policy.cmac), ("restricted", toString policy.restricted)]

end ScanPolicy
end Wristband
