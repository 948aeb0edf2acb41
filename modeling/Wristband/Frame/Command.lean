import Wristband.Bits.BitVector
import Wristband.Chip.Family
import Wristband.KeySlot
import Wristband.ProtocolError

/-! The frames that a terminal sends. Every function here checks its arguments first
and makes no frame when one of them is wrong. -/

namespace Wristband

/-- The first byte of a frame. -/
inductive CommandCode where
  | getVersion
  | read
  | write
  | authenticate
  | continueAuthentication
deriving DecidableEq, Repr

namespace CommandCode

def code : CommandCode → UInt8
  | getVersion => 0x60
  | read => 0x30
  | write => 0xA2
  | authenticate => 0x1A
  | continueAuthentication => 0xAF

def name : CommandCode → String
  | getVersion => "GET_VERSION"
  | read => "READ"
  | write => "WRITE"
  | authenticate => "AUTHENTICATE"
  | continueAuthentication => "AUTHENTICATE_CONTINUE"

/-- All codes, in the order in which they are documented. -/
def all : List CommandCode :=
  [getVersion, read, write, authenticate, continueAuthentication]

end CommandCode

namespace Frame

/-- Bytes of the terminal's message in the second step of a handshake. -/
def responseLength : Nat := 32

/-- The page must exist on the family's chips. -/
def checkPage (family : ChipFamily) (page : UInt8) : Except ProtocolError Unit :=
  if family.pageCount ≤ page then .error (.invalidPage page family.pageCount) else .ok ()

def getVersion : Bytes := [CommandCode.getVersion.code]

/-- Asks for the four pages from `page` on. -/
def read (family : ChipFamily) (page : UInt8) : Except ProtocolError Bytes := do
  checkPage family page
  return [CommandCode.read.code, page]

/-- Stores exactly one page. -/
def write (family : ChipFamily) (page : UInt8) (data : Bytes) : Except ProtocolError Bytes := do
  checkPage family page
  if data.length ≠ Layout.pageSize then
    throw (.invalidPayloadLength Layout.pageSize data.length)
  return CommandCode.write.code :: page :: data

/-- Starts a handshake with the key in the numbered slot. -/
def authenticate (slot : UInt8) : Except ProtocolError Bytes :=
  if 2 < slot then .error (.invalidKeySlot slot)
  else .ok [CommandCode.authenticate.code, slot]

/-- Answers the challenge of a tag. -/
def continueAuthentication (response : BitVector) : Except ProtocolError Bytes :=
  if response.length ≠ responseLength * 8 then
    .error (.invalidChallengeLength (responseLength * 8) response.length)
  else .ok (CommandCode.continueAuthentication.code :: response.bytes)

end Frame
end Wristband
