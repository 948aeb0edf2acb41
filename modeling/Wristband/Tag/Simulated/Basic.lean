import Wristband.RandomSource.Seeded
import Wristband.SecureChannel
import Wristband.Tag.NfcTag

/-! The state of a simulated tag: its memory, what it knows of the terminal, and the
faults that it is to show. -/

namespace Wristband

inductive Chip where
  /-- Has no authentication. -/
  | ultralight
  | ultralightC
  | ultralightAes
deriving DecidableEq, Repr

def Chip.family : Chip → ChipFamily
  | ultralight => .ultralight
  | ultralightC => .ultralight
  | ultralightAes => .ultralightAes

/-- How far the terminal has proved that it knows a key. -/
inductive TagAuthentication where
  | none
  | tdesChallenge (key random encrypted : Bytes)
  | aesChallenge (key random : Bytes)
  | authenticated (channel : Option SecureChannel)
deriving DecidableEq, Repr

/-- Deviations from a working tag. Frames and responses are counted from one. -/
structure Faults where
  /-- The tag leaves the field after so many frames. -/
  loseAfter : Option Nat
  /-- The tag leaves every frame after so many unanswered. -/
  timeOutAfter : Option Nat
  /-- The response with a code whose code is spoilt. -/
  corruptCodeOn : Option Nat
  /-- Every second step of a handshake is refused. -/
  rejectAuthentication : Bool
deriving DecidableEq, Repr

def Faults.none : Faults := ⟨.none, .none, .none, false⟩

structure SimulatedTag where
  chip : Chip
  id : Bytes
  technologies : List Technology
  /-- All pages, one after the other. -/
  memory : Bytes
  connected : Bool
  lost : Bool
  authentication : TagAuthentication
  random : RandomSource
  /-- Every frame received, the first one first. -/
  frames : List Bytes
  connects : Nat
  closes : Nat
  sealedResponses : Nat
  faults : Faults

namespace SimulatedTag

def family (tag : SimulatedTag) : ChipFamily := tag.chip.family

/-- The position of a page in memory. -/
def pageStart (page : UInt8) : Nat := page.toNat * Layout.pageSize

/-- The four bytes of a page. -/
def page (tag : SimulatedTag) (page : UInt8) : Bytes :=
  (tag.memory.drop (pageStart page)).take Layout.pageSize

/-- The byte of a page at some place. -/
def pageByte (tag : SimulatedTag) (page : UInt8) (place : Nat) : UInt8 :=
  tag.memory.getD (pageStart page + place) 0

/-- Stores bytes from the start of a page on. -/
def store (tag : SimulatedTag) (page : UInt8) (data : Bytes) : SimulatedTag :=
  { tag with memory := tag.memory.overwrite (pageStart page) data }

/-- Stores one byte of a page. -/
def storeByte (tag : SimulatedTag) (page : UInt8) (place : Nat) (value : UInt8) :
    SimulatedTag :=
  { tag with memory := tag.memory.set (pageStart page + place) value }

/-- The first page that is protected. -/
def auth0 (tag : SimulatedTag) : UInt8 := tag.pageByte tag.family.auth0Page tag.family.auth0Byte

/-- Frames after a handshake must carry a code. -/
def cmacEnabled (tag : SimulatedTag) : Bool :=
  tag.chip == .ultralightAes &&
    tag.pageByte Layout.aesConfigPage 0 &&& Layout.aesCmacFlag != 0

def isAuthenticated (tag : SimulatedTag) : Bool :=
  match tag.authentication with
  | .authenticated _ => true
  | _ => false

/-- The secure channel that frames go through. -/
def channel? (tag : SimulatedTag) : Option SecureChannel :=
  match tag.authentication with
  | .authenticated channel => channel
  | _ => none

/-- The page holds a part of a key and is never shown. -/
def isKeyPage (tag : SimulatedTag) (page : UInt8) : Bool :=
  match tag.family with
  | .ultralight => Layout.tdesKeyPage ≤ page && page < Layout.tdesKeyPage + 4
  | .ultralightAes => Layout.aesDataKeyPage ≤ page && page < Layout.aesOriginalityKeyPage + 4

/-- The sixteen bytes of the key that starts at a page. -/
def keyAt (tag : SimulatedTag) (page : UInt8) : Bytes :=
  (tag.memory.drop (pageStart page)).take 16

/-- The tag without what it knew of the terminal. -/
def unauthenticated (tag : SimulatedTag) : SimulatedTag :=
  { tag with authentication := .none }

/-- Takes the tag out of the field. -/
def remove (tag : SimulatedTag) : SimulatedTag :=
  { tag with lost := true, connected := false }

def description (tag : SimulatedTag) : String :=
  let id := ", ".intercalate (tag.id.map fun byte => toString byte)
  let technologies := ", ".intercalate (tag.technologies.map Technology.description)
  "MockTag \x7b id: [" ++ id ++ "], technologies: [" ++ technologies ++ "], .. \x7d"

/-- What has been seen of the terminal. -/
def contactDescription (tag : SimulatedTag) : String :=
  s!"MockTagHandle \x7b frames: {tag.frames.length}, connect_count: {tag.connects}, " ++
    s!"close_count: {tag.closes} \x7d"

end SimulatedTag
end Wristband
