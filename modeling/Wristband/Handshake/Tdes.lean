import Wristband.Cipher.Des
import Wristband.Cipher.Sha256
import Wristband.Frame.Command
import Wristband.RandomSource

/-! The terminal's side of the 3DES handshake of Ultralight-C. The terminal returns
the tag's random number rotated by one byte, and the tag returns the terminal's in
the same way. The messages form one chain: each begins where the last one ended. -/

namespace Wristband

/-- The key that a tag stores for a secret. -/
def deriveTdesKey (secret : Bytes) : Bytes :=
  (Sha256.digest secret).take Layout.tdesKeyLength

/-- What the terminal remembers of the message that it sent. -/
structure SentResponse where
  hostRandom : Bytes
  lastBlock : Bytes
deriving DecidableEq, Repr

inductive TdesState where
  | idle
  /-- The handshake was started, and once the challenge was answered, that answer. -/
  | started (sent : Option SentResponse)
  | complete
  | failed
deriving DecidableEq, Repr

def TdesState.name : TdesState → String
  | idle => "Idle"
  | started _ => "Challenge1Sent"
  | complete => "MutualAuthComplete"
  | failed => "Failed"

structure TdesHandshake where
  key : Bytes
  state : TdesState
deriving DecidableEq, Repr

namespace TdesHandshake

def blockSize : Nat := 8

/-- Bytes of the terminal's random number. -/
def hostRandomLength : Nat := 24

def new (key : Bytes) : TdesHandshake := { key := key, state := .idle }

def failed (handshake : TdesHandshake) : TdesHandshake := { handshake with state := .failed }

/-- The first frame. There is only one key slot. -/
def start (handshake : TdesHandshake) : Except ProtocolError Bytes × TdesHandshake :=
  match handshake.state with
  | .idle =>
    match Frame.authenticate KeySlot.dataProtection.code with
    | .ok frame => (.ok frame, { handshake with state := .started none })
    | .error error => (.error error, handshake)
  | state =>
    (.error (.invalidState ("cannot start 3DES authentication from " ++ state.name)), handshake)

/-- The tag's random number behind an encrypted challenge. -/
def readChallenge (key : Bytes) (challenge : BitVector) : Except ProtocolError Bytes := do
  let encrypted ← challenge.toBytes.mapError .data
  if encrypted.length ≠ blockSize then
    throw (.authenticationFailed "malformed 3DES challenge")
  (Des.doubleKeyCipher key).decryptMessage (List.replicate blockSize 0) encrypted
    |>.mapError (.cipher ·.message)

/-- The message that proves possession of the key. -/
def buildResponse (key hostRandom tagRandom : Bytes) (challenge : BitVector) :
    Except ProtocolError Bytes :=
  (Des.doubleKeyCipher key).encryptMessage challenge.bytes
    (hostRandom ++ Bytes.rotateLeft tagRandom) |>.mapError (.cipher ·.message)

/-- The second frame, which answers the challenge with fresh random bytes. -/
def respond (handshake : TdesHandshake) (challenge : BitVector) (source : RandomSource) :
    Except ProtocolError Bytes × TdesHandshake × RandomSource :=
  match handshake.state with
  | .started _ =>
    match readChallenge handshake.key challenge with
    | .error error => (.error error, handshake.failed, source)
    | .ok tagRandom =>
      let hostRandom := source.next hostRandomLength
      let source := source.skip hostRandomLength
      let frame := do
        let message ← buildResponse handshake.key hostRandom tagRandom challenge
        let frame ← Frame.continueAuthentication (BitVector.ofBytes message)
        return (message, frame)
      match frame with
      | .error error => (.error error, handshake.failed, source)
      | .ok (message, frame) =>
        let sent : SentResponse := ⟨hostRandom, Bytes.lastBlock blockSize message⟩
        (.ok frame, { handshake with state := .started (some sent) }, source)
  | state =>
    (.error (.invalidState ("no challenge expected in " ++ state.name)), handshake.failed, source)

/-- The confirmation must be the terminal's own number, rotated and encrypted. -/
def checkConfirmation (key : Bytes) (sent : SentResponse) (confirmation : BitVector) :
    Except ProtocolError Unit := do
  let encrypted ← confirmation.toBytes.mapError .data
  let plain ← (Des.doubleKeyCipher key).decryptMessage sent.lastBlock encrypted
    |>.mapError (.cipher ·.message)
  if plain ≠ Bytes.rotateLeft sent.hostRandom then
    throw (.authenticationFailed "tag returned a wrong confirmation")

def confirm (handshake : TdesHandshake) (confirmation : BitVector) :
    Except ProtocolError Unit × TdesHandshake :=
  match handshake.state with
  | .started (some sent) =>
    match checkConfirmation handshake.key sent confirmation with
    | .ok () => (.ok (), { handshake with state := .complete })
    | .error error => (.error error, handshake.failed)
  | state =>
    (.error (.invalidState ("no confirmation expected in " ++ state.name)), handshake.failed)

def description (handshake : TdesHandshake) : String :=
  s!"TdesAuthenticator \x7b state: {handshake.state.name}, .. \x7d"

end TdesHandshake
end Wristband
