import Wristband.Cipher.Des
import Wristband.Frame.Response
import Wristband.Tag.Simulated.Basic
import Wristband.Tag.Simulated.Command

/-! How a simulated tag answers. Unless the terminal is authenticated, user pages from
AUTH0 on are not shown and no page from AUTH0 on is changed. Configuration pages can
always be read, and key pages always read as zeros. A refusal ends the authentication. -/

namespace Wristband

/-- What a tag answers to a command, before any code is added. -/
inductive Reply where
  | data (payload : Bytes)
  | nak (code : UInt8)
deriving DecidableEq, Repr

namespace SimulatedTag

/-- Refusal of wrong arguments and of forbidden access. -/
def nakRefused : UInt8 := 0x00

/-- Refusal of a frame that is not authentic. -/
def nakIntegrity : UInt8 := 0x01

/-- How long a terminal waits for a tag that stays silent. -/
def silence : UInt64 := 300

/-- What an Ultralight-AES chip says of itself. -/
def versionBytes : Bytes := [0x00, 0x04, 0x03, 0x01, 0x04, 0x00, 0x0F, 0x03]

def refused : Reply := .nak nakRefused

/-- What a READ shows of a page. -/
def shownPage (tag : SimulatedTag) (page : UInt8) : Bytes :=
  if tag.isKeyPage page then List.replicate Layout.pageSize 0 else tag.page page

/-- Four pages from `page` on. After the last page the first one follows. -/
def readBlock (tag : SimulatedTag) (page : UInt8) : Bytes :=
  (List.range Layout.readPages).flatMap fun offset =>
    tag.shownPage ((page + UInt8.ofNat offset) % tag.family.pageCount)

def read (tag : SimulatedTag) (page : UInt8) : Reply :=
  if tag.family.pageCount ≤ page then refused
  else if !tag.isAuthenticated ∧ tag.auth0 ≤ page ∧ page < Layout.userEnd then refused
  else .data (tag.readBlock page)

def write (tag : SimulatedTag) (page : UInt8) (data : Bytes) : Reply × SimulatedTag :=
  if page < Layout.userStart ∨ tag.family.pageCount ≤ page then (refused, tag)
  else if !tag.isAuthenticated ∧ tag.auth0 ≤ page then (refused, tag)
  else (.data [Layout.ack], tag.store page data)

/-- A block of zeros, which the tag's first message is chained to. -/
def zeros (size : Nat) : Bytes := List.replicate size 0

/-- Starts a handshake with a fresh random number. -/
def authenticate (tag : SimulatedTag) (slot : UInt8) : Reply × SimulatedTag :=
  let tag := tag.unauthenticated
  match tag.chip with
  | .ultralightC =>
    if slot ≠ 0 then (refused, tag)
    else
      let key := tag.keyAt Layout.tdesKeyPage
      let number := tag.random.next 8
      let tag := { tag with random := tag.random.skip 8 }
      match (Des.doubleKeyCipher key).encryptMessage (zeros 8) number with
      | .error _ => (refused, tag)
      | .ok encrypted =>
        (.data (Response.challengeStatus :: encrypted),
          { tag with authentication := .tdesChallenge key number encrypted })
  | .ultralightAes =>
    if 2 < slot then (refused, tag)
    else
      let key := tag.keyAt (Layout.aesDataKeyPage + slot * 4)
      let number := tag.random.next 16
      let tag := { tag with random := tag.random.skip 16 }
      match (Aes.cipher key).encryptMessage (zeros 16) number with
      | .error _ => (refused, tag)
      | .ok encrypted =>
        (.data (Response.challengeStatus :: encrypted),
          { tag with authentication := .aesChallenge key number })
  | .ultralight => (refused, tag)

/-- The confirmation for a terminal that returned the 3DES challenge as it should. -/
def confirmTdes (key number encrypted message : Bytes) : Option Bytes := do
  let cipher := Des.doubleKeyCipher key
  let plain ← (cipher.decryptMessage encrypted message).toOption
  guard (plain.drop 24 = Bytes.rotateLeft number)
  (cipher.encryptMessage (Bytes.lastBlock 8 message)
    (Bytes.rotateLeft (plain.take 24))).toOption

/-- The terminal's number and the confirmation, for a terminal that returned the AES
challenge as it should. -/
def confirmAes (key number message : Bytes) : Option (Bytes × Bytes) := do
  let cipher := Aes.cipher key
  let plain ← (cipher.decryptMessage (zeros 16) message).toOption
  guard (plain.drop 16 = Bytes.rotateLeft number)
  let confirmation ← (cipher.encryptMessage (zeros 16)
    (Bytes.rotateLeft (plain.take 16))).toOption
  return (plain.take 16, confirmation)

/-- The second step of a handshake. It uses up the challenge of the first. -/
def continueAuthentication (tag : SimulatedTag) (message : Bytes) : Reply × SimulatedTag :=
  if tag.faults.rejectAuthentication then (refused, tag.unauthenticated)
  else
    match tag.authentication with
    | .tdesChallenge key number encrypted =>
      match confirmTdes key number encrypted message with
      | none => (refused, tag.unauthenticated)
      | some confirmation =>
        (.data (Response.confirmationStatus :: confirmation),
          { tag with authentication := .authenticated none })
    | .aesChallenge key number =>
      match confirmAes key number message with
      | none => (refused, tag.unauthenticated)
      | some (hostNumber, confirmation) =>
        let channel :=
          if tag.cmacEnabled then some (SecureChannel.derive key hostNumber number) else none
        (.data (Response.confirmationStatus :: confirmation),
          { tag with authentication := .authenticated channel })
    | _ => (refused, tag.unauthenticated)

def execute (tag : SimulatedTag) (command : Bytes) : Reply × SimulatedTag :=
  match TagCommand.ofFrame command with
  | .getVersion => (if tag.chip = .ultralightAes then .data versionBytes else refused, tag)
  | .read page => (tag.read page, tag)
  | .write page data => tag.write page data
  | .authenticate slot => tag.authenticate slot
  | .continueAuthentication message => tag.continueAuthentication message
  | .unknown => (refused, tag)

/-- Inverts the last byte. -/
def spoilLast (bytes : Bytes) : Bytes := bytes.modify (bytes.length - 1) (· ^^^ 0xFF)

/-- Adds the code to a response, if the tag still has its channel. -/
def sealReply (tag : SimulatedTag) (payload : Bytes) :
    Except HardwareError Bytes × SimulatedTag :=
  match tag.channel? with
  | none => (.ok payload, tag)
  | some channel =>
    match channel.sealResponse payload with
    | .error error => (.error (.other error.message), tag)
    | .ok (response, channel) =>
      let tag := { tag with
        authentication := .authenticated (some channel)
        sealedResponses := tag.sealedResponses + 1 }
      if tag.faults.corruptCodeOn = some tag.sealedResponses then
        (.ok (spoilLast response), tag)
      else (.ok response, tag)

/-- Answers a command that has come through. Whether the answer carries a code is decided
before the command runs, so the confirmation of a handshake never does. -/
def answerCommand (tag : SimulatedTag) (viaChannel : Bool) (command : Bytes) :
    Except HardwareError Bytes × SimulatedTag :=
  match tag.execute command with
  | (.nak code, after) => (.ok [code], after.unauthenticated)
  | (.data payload, after) => if viaChannel then after.sealReply payload else (.ok payload, after)

/-- Answers a frame that has reached the tag. -/
def answerFrame (tag : SimulatedTag) (frame : Bytes) :
    Except HardwareError Bytes × SimulatedTag :=
  match tag.channel? with
  | none => tag.answerCommand false frame
  | some channel =>
    match channel.openCommand frame with
    | .error _ => (.ok [nakIntegrity], tag.unauthenticated)
    | .ok command => tag.answerCommand true command

def leftField : HardwareError := .tagLost "tag left the field"

/-- Some limit on the number of frames is exceeded. -/
def exceeds (limit : Option Nat) (count : Nat) : Bool :=
  match limit with
  | none => false
  | some limit => limit < count

def transceive (tag : SimulatedTag) (frame : Bytes) :
    Except HardwareError Bytes × SimulatedTag :=
  if tag.lost then (.error leftField, tag)
  else if !tag.connected then (.error .notConnected, tag)
  else
    let tag := { tag with frames := tag.frames ++ [frame] }
    if exceeds tag.faults.loseAfter tag.frames.length then (.error leftField, tag.remove)
    else if exceeds tag.faults.timeOutAfter tag.frames.length then
      (.error (.timeout silence), tag)
    else tag.answerFrame frame

def connect (tag : SimulatedTag) : Except HardwareError Unit × SimulatedTag :=
  if tag.lost then (.error leftField, tag)
  else (.ok (), { tag.unauthenticated with connected := true, connects := tag.connects + 1 })

def close (tag : SimulatedTag) : Except HardwareError Unit × SimulatedTag :=
  (.ok (), { tag.unauthenticated with connected := false, closes := tag.closes + 1 })

instance : NfcTag SimulatedTag where
  id := SimulatedTag.id
  technologies := SimulatedTag.technologies
  connect := connect
  close := close
  transceive := transceive

end SimulatedTag
end Wristband
