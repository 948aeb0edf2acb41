import Wristband.Scan.Request
import Wristband.Session.Authenticate
import Wristband.Session.Memory

/-! Running a request in a session. Its parameters are checked before the first frame,
and a key it carries is used before any memory access. -/

namespace Wristband.Scan

open Session

variable {τ : Type} [NfcTag τ]

def authenticateWith (key : Option AuthKey) (cmac : Bool) : SessionM τ Unit := do
  match key with
  | some key => authenticate key .dataProtection cmac
  | none => return

/-- The identifier, the protection and the user memory from a page on. -/
def readFrom (page : UInt8) : SessionM τ ScanResult := do
  let uid ← readUid
  let isProtected ← isProtected
  let content ← readUserMemory page
  return .read isProtected uid content

/-- Another key may still work after such an error. -/
def isRejection : TagError → Bool
  | .auth _ | .incompatible _ => true
  | _ => false

/-- Authenticates with one key. Says whether the key was accepted, and fails for every
other reason than that it was rejected. -/
def tryKey (key : AuthKey) (cmac : Bool) : SessionM τ Bool :=
  tryCatch (do authenticate key .dataProtection cmac; return true) fun error =>
    if isRejection error then return false else throw error

/-- Reads with the first key that the tag accepts. Every key but the first one gets a
new connection. -/
def readWithKeys (page : UInt8) (cmac : Bool) : (reconnecting : Bool) → List AuthKey →
    SessionM τ ScanResult
  | _, [] => throw (.auth "none of the keys worked")
  | reconnecting, key :: keys => do
    if reconnecting then reconnect
    if ← tryKey key cmac then readFrom page
    else readWithKeys page cmac true keys

/-- The line that an action adds to the log of a diagnosis: its result, or its error
unless the tag is lost. -/
def logged {α : Type} (action : SessionM τ α) (onResult : α → String)
    (onError : TagError → String) : SessionM τ String :=
  tryCatch (do return onResult (← action)) fun error =>
    if error.isLost then throw error else return onError error

/-- The line on codes, for tags that have them. -/
def inspectCmac : SessionM τ (List String) := do
  if (← get).family ≠ .ultralightAes then return []
  let line ← logged cmacRequired (fun required => s!"cmac: {required}")
    (fun error => "cmac: " ++ error.message)
  return [line]

/-- The lines of a diagnosis after a handshake. -/
def inspect : SessionM τ (List String) := do
  let auth0 ← logged auth0Page (fun page => "auth0: " ++ Hex.marked page)
    (fun error => "auth0: " ++ error.message)
  let cmac ← inspectCmac
  let uid ← logged readUid (fun uid => "uid: " ++ uid.text)
    (fun error => "uid: " ++ error.message)
  return auth0 :: cmac ++ [uid]

/-- The lines of a diagnosis for one of the two keys. -/
def diagnoseKey (index : Nat) (key : AuthKey) (slot : KeySlot) : SessionM τ (List String) := do
  let accepted ← tryCatch (do authenticate key slot false; return none) fun error =>
    if error.isLost then throw error else return some error
  match accepted with
  | some error => return [s!"key{index}: " ++ error.message]
  | none => return s!"key{index}: ok" :: (← inspect)

/-- Tries both keys, each on its own connection, and logs what the tag does. Only a lost
tag ends the run early. -/
def diagnose (key0 key1 : AuthKey) : SessionM τ ScanResult := do
  let session ← get
  let version ← logged getVersion (fun bytes => "version: " ++ Hex.upper bytes)
    (fun error => "version: unavailable (" ++ error.message ++ ")")
  let first ← diagnoseKey 0 key0 .dataProtection
  reconnect
  let second ← diagnoseKey 1 key1
    (match session.family with
    | .ultralight => .dataProtection
    | .ultralightAes => .uidRetrieval)
  let head := ["id: " ++ Hex.upper (NfcTag.id session.tag), "family: " ++ session.family.name,
    version]
  return .test ("\n".intercalate (head ++ first ++ second))

def execute (request : ScanRequest) : SessionM τ ScanResult := do
  let session ← get
  match request with
  | .fastRead => return .fastRead (← ofData (Uid.ofBytes (NfcTag.id session.tag)))
  | .read page key cmac =>
    let _ ← ofData (userRange page Layout.pageSize)
    authenticateWith key cmac
    readFrom page
  | .readMultiKey page keys cmac =>
    let _ ← ofData (userRange page Layout.pageSize)
    readWithKeys page cmac false keys
  | .write page data key cmac =>
    let _ ← ofData (userRange page data.length)
    authenticateWith key cmac
    writeUserMemory page data
    return .write
  | .writeKey key newKey cmac =>
    if newKey.family ≠ session.family then
      throw (.incompatible
        s!"a {newKey.family.name} key cannot be stored on a {session.family.name} tag")
    authenticateWith key cmac
    writeKey newKey
    return .write
  | .writeProtect key enable cmac =>
    authenticateWith key cmac
    setAuth0 (if enable then Layout.protectUserMemory else session.family.auth0Disabled)
    return .write
  | .writeCmac key enable cmac =>
    if session.family ≠ .ultralightAes then
      throw (.incompatible "CMAC configuration needs an Ultralight-AES tag")
    authenticateWith key cmac
    setCmac enable
    return .write
  | .test key0 key1 => diagnose key0 key1

end Wristband.Scan
