import Wristband.Cipher.Cmac
import Wristband.ProtocolError

/-! Authenticated frames after an AES handshake. Every command and every response
carries a code over its bytes and the number of exchanges so far, so that a frame
that is replayed or moved is refused. A response counts one exchange more than the
command it answers. Neither side goes on when the counter is used up. -/

namespace Wristband

structure SecureChannel where
  sessionKey : Bytes
  counter : UInt16
deriving DecidableEq, Repr

namespace SecureChannel

/-- Bytes of the code that is appended to a frame. -/
def codeLength : Nat := 8

/-- The counter value at which a channel is used up. -/
def lastCounter : UInt16 := 65535

/-- What the session key is derived from: both random numbers of the handshake. -/
def sessionVector (hostRandom tagRandom : Bytes) : Bytes :=
  [0x5A, 0xA5, 0x00, 0x01, 0x00, 0x80] ++ hostRandom.take 2 ++
    Bytes.xor ((hostRandom.drop 2).take 6) (tagRandom.take 6) ++
    tagRandom.drop 6 ++ hostRandom.drop 8

def derive (key hostRandom tagRandom : Bytes) : SecureChannel :=
  { sessionKey := Cmac.code key (sessionVector hostRandom tagRandom), counter := 0 }

/-- Every second byte, beginning with the second. -/
def oddBytes : Bytes → Bytes
  | _ :: second :: rest => second :: oddBytes rest
  | _ => []

/-- The code of some data at a counter value. -/
def code (channel : SecureChannel) (counter : UInt16) (data : Bytes) : Bytes :=
  oddBytes (Cmac.code channel.sessionKey
    (counter.toUInt8 :: (counter >>> 8).toUInt8 :: data))

def checkCounter (channel : SecureChannel) : Except ProtocolError Unit :=
  if channel.counter = lastCounter then .error .counterExhausted else .ok ()

/-- Takes the code off some data, if it is right. -/
def verify (channel : SecureChannel) (counter : UInt16) (data : Bytes) :
    Except ProtocolError Bytes :=
  let payload := data.take (data.length - codeLength)
  if data.length < codeLength then .error .cmacMismatch
  else if channel.code counter payload = data.drop (data.length - codeLength) then .ok payload
  else .error .cmacMismatch

/-- The channel after one more exchange. -/
def advanced (channel : SecureChannel) : SecureChannel :=
  { channel with counter := channel.counter + 1 }

/-- The terminal's side: a command with its code. -/
def sealCommand (channel : SecureChannel) (frame : Bytes) : Except ProtocolError Bytes := do
  channel.checkCounter
  return frame ++ channel.code channel.counter frame

/-- The tag's side: the command without its code. -/
def openCommand (channel : SecureChannel) (frame : Bytes) : Except ProtocolError Bytes := do
  channel.checkCounter
  channel.verify channel.counter frame

/-- The tag's side: a response with its code, which ends the exchange. -/
def sealResponse (channel : SecureChannel) (payload : Bytes) :
    Except ProtocolError (Bytes × SecureChannel) := do
  channel.checkCounter
  return (payload ++ channel.code (channel.counter + 1) payload, channel.advanced)

/-- The terminal's side: the response without its code, which ends the exchange. -/
def openResponse (channel : SecureChannel) (response : Bytes) :
    Except ProtocolError (Bytes × SecureChannel) := do
  channel.checkCounter
  let payload ← channel.verify (channel.counter + 1) response
  return (payload, channel.advanced)

/-- The channel after so many sealed responses. Once it is used up it stays so. -/
def advance (channel : SecureChannel) (exchanges : Nat) : SecureChannel :=
  { channel with
    counter := UInt16.ofNat (min (channel.counter.toNat + exchanges) lastCounter.toNat) }

def description (channel : SecureChannel) : String :=
  s!"SecureChannel \x7b counter: {channel.counter}, .. \x7d"

end SecureChannel
end Wristband
