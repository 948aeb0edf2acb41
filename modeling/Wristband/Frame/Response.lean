import Wristband.Frame.Command
import Wristband.Uid

/-! What the answers of a tag mean. A single byte in the range of four bits that is no
acknowledgement is a refusal. -/

namespace Wristband.Response

/-- First byte of a challenge. -/
def challengeStatus : UInt8 := 0xAF

/-- First byte of a confirmation. -/
def confirmationStatus : UInt8 := 0x00

/-- The refusal code that an answer consists of, if it is a refusal. -/
def nak? : Bytes → Option UInt8
  | [code] => if code ≠ Layout.ack ∧ code ≤ Layout.nakMax then some code else none
  | _ => none

def checkNak (response : Bytes) : Except ProtocolError Unit :=
  match nak? response with
  | some code => .error (.nak code)
  | none => .ok ()

/-- The answer to GET_VERSION: any bytes. -/
def version (response : Bytes) : Except ProtocolError Bytes := do
  checkNak response
  if response.isEmpty then throw (.unexpectedLength 8 0)
  return response

/-- The answer to READ: four pages. -/
def block (response : Bytes) : Except ProtocolError Bytes := do
  checkNak response
  if response.length ≠ Layout.readLength then
    throw (.unexpectedLength Layout.readLength response.length)
  return response

/-- The page that a READ asked for, which comes first in its block. -/
def requestedPage (block : BitVector) : Except ProtocolError Bytes :=
  match block.sliceBytes 0 Layout.pageSize with
  | .error error => .error (.data error)
  | .ok page => page.toBytes.mapError .data

/-- The answer to WRITE. -/
def acknowledgement : Bytes → Except ProtocolError Unit
  | [code] =>
    if code = Layout.ack then .ok ()
    else if code ≤ Layout.nakMax then .error (.nak code)
    else .error (.unexpectedStatus Layout.ack code)
  | response => .error (.unexpectedLength 1 response.length)

/-- An answer of a handshake: a status byte and so many bytes. -/
def handshakeStep (status : UInt8) (length : Nat) (response : Bytes) :
    Except ProtocolError Bytes := do
  checkNak response
  match response with
  | [] => throw (.unexpectedLength (length + 1) 0)
  | first :: payload =>
    if first ≠ status then throw (.unexpectedStatus status first)
    if payload.length ≠ length then throw (.unexpectedLength (length + 1) response.length)
    return payload

/-- The encrypted challenge of a tag. -/
def challenge (family : ChipFamily) : Bytes → Except ProtocolError Bytes :=
  handshakeStep challengeStatus family.challengeLength

/-- The encrypted confirmation of a tag. -/
def confirmation (family : ChipFamily) : Bytes → Except ProtocolError Bytes :=
  handshakeStep confirmationStatus family.confirmationLength

/-- The two check bytes that go with an identifier. Each covers one of its halves. -/
def uidCheckBytes (uid : Bytes) : UInt8 × UInt8 :=
  ((uid.take 3).foldl (· ^^^ ·) Layout.cascadeTag, (uid.drop 3).foldl (· ^^^ ·) 0)

/-- The identifier in the block of pages 0 to 3. Its check bytes stand behind its
third and its last byte. -/
def uid (block : Bytes) : Except ProtocolError Uid :=
  match block with
  | u0 :: u1 :: u2 :: check0 :: u3 :: u4 :: u5 :: u6 :: check1 :: _ =>
    let bytes := [u0, u1, u2, u3, u4, u5, u6]
    if uidCheckBytes bytes ≠ (check0, check1) then
      .error (.invalidData "UID check bytes do not match")
    else (Uid.ofBytes bytes).mapError .data
  | _ => .error (.unexpectedLength Layout.readLength block.length)

end Wristband.Response
