import Wristband.Frame.Command
import Wristband.RandomSource
import Wristband.SecureChannel

/-! The terminal's side of the AES handshake of Ultralight-AES. It has the shape of the
3DES handshake, but every message is encrypted on its own. On request a secure
channel is derived from both random numbers at the end. -/

namespace Wristband

inductive AesState where
  | idle
  /-- The handshake was started. Both random numbers count as zero until the challenge
  is answered. -/
  | started (hostRandom tagRandom : Bytes)
  | authenticated (channel : Option SecureChannel)
  | failed
deriving DecidableEq, Repr

def AesState.name : AesState → String
  | idle => "Idle"
  | started .. => "Authenticating"
  | authenticated none => "Authenticated \x7b cmac_counter: None \x7d"
  | authenticated (some channel) =>
    s!"Authenticated \x7b cmac_counter: Some({channel.counter}) \x7d"
  | failed => "Failed"

structure AesHandshake where
  key : Bytes
  slot : KeySlot
  /-- A secure channel is asked for. -/
  cmac : Bool
  state : AesState
deriving DecidableEq, Repr

namespace AesHandshake

def blockSize : Nat := 16

/-- A block of zeros, which every message is chained to. -/
def zeroBlock : Bytes := List.replicate blockSize 0

def new (key : Bytes) (slot : KeySlot) (cmac : Bool) : AesHandshake :=
  { key := key, slot := slot, cmac := cmac, state := .idle }

def failed (handshake : AesHandshake) : AesHandshake := { handshake with state := .failed }

/-- The first frame. -/
def start (handshake : AesHandshake) : Except ProtocolError Bytes × AesHandshake :=
  match handshake.state with
  | .idle =>
    match Frame.authenticate handshake.slot.code with
    | .ok frame => (.ok frame, { handshake with state := .started zeroBlock zeroBlock })
    | .error error => (.error error, handshake)
  | state =>
    (.error (.invalidState ("cannot start AES authentication from " ++ state.name)), handshake)

/-- The tag's random number behind an encrypted challenge. -/
def readChallenge (key : Bytes) (challenge : BitVector) : Except ProtocolError Bytes := do
  let encrypted ← challenge.toBytes.mapError .data
  if encrypted.length ≠ blockSize then
    throw (.authenticationFailed "malformed AES challenge")
  (Aes.cipher key).decryptMessage zeroBlock encrypted |>.mapError (.cipher ·.message)

/-- The frame that proves possession of the key. -/
def buildResponse (key hostRandom tagRandom : Bytes) : Except ProtocolError Bytes := do
  let message ← (Aes.cipher key).encryptMessage zeroBlock
    (hostRandom ++ Bytes.rotateLeft tagRandom) |>.mapError (.cipher ·.message)
  Frame.continueAuthentication (BitVector.ofBytes message)

/-- The second frame, which answers the challenge with fresh random bytes. -/
def respond (handshake : AesHandshake) (challenge : BitVector) (source : RandomSource) :
    Except ProtocolError Bytes × AesHandshake × RandomSource :=
  match handshake.state with
  | .started .. =>
    match readChallenge handshake.key challenge with
    | .error error => (.error error, handshake.failed, source)
    | .ok tagRandom =>
      let hostRandom := source.next blockSize
      let source := source.skip blockSize
      match buildResponse handshake.key hostRandom tagRandom with
      | .error error => (.error error, handshake.failed, source)
      | .ok frame =>
        (.ok frame, { handshake with state := .started hostRandom tagRandom }, source)
  | _ => (.error (.invalidState "no challenge expected"), handshake.failed, source)

/-- The confirmation must be the terminal's own number, rotated and encrypted. -/
def checkConfirmation (key hostRandom : Bytes) (confirmation : BitVector) :
    Except ProtocolError Unit := do
  let encrypted ← confirmation.toBytes.mapError .data
  let plain ← (Aes.cipher key).decryptMessage zeroBlock encrypted |>.mapError (.cipher ·.message)
  if plain ≠ Bytes.rotateLeft hostRandom then
    throw (.authenticationFailed "tag returned a wrong confirmation")

/-- The secure channel that the handshake ends with, if one is asked for. -/
def sessionChannel? (handshake : AesHandshake) (hostRandom tagRandom : Bytes) :
    Option SecureChannel :=
  if handshake.cmac then some (SecureChannel.derive handshake.key hostRandom tagRandom)
  else none

def confirm (handshake : AesHandshake) (confirmation : BitVector) :
    Except ProtocolError Unit × AesHandshake :=
  match handshake.state with
  | .started hostRandom tagRandom =>
    match checkConfirmation handshake.key hostRandom confirmation with
    | .ok () =>
      (.ok (), { handshake with
        state := .authenticated (handshake.sessionChannel? hostRandom tagRandom) })
    | .error error => (.error error, handshake.failed)
  | _ => (.error (.invalidState "no confirmation expected"), handshake.failed)

/-- The secure channel of an authenticated handshake. -/
def channel? (handshake : AesHandshake) : Option SecureChannel :=
  match handshake.state with
  | .authenticated channel => channel
  | _ => none

def description (handshake : AesHandshake) : String :=
  s!"AesAuthenticator \x7b state: {handshake.state.name}, key_type: {handshake.slot.name}, .. \x7d"

end AesHandshake
end Wristband
