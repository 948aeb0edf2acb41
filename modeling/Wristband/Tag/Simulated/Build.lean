import Wristband.Handshake.Tdes
import Wristband.Tag.Simulated.Answer

/-! Making simulated tags. A new tag is not connected and has the
header of its identifier, its keys, and nothing protected. -/

namespace Wristband.SimulatedTag

/-- The first seven bytes of the identifier, filled up with zeros. -/
def headerUid (id : Bytes) : Bytes :=
  (id ++ List.replicate Layout.uidLength 0).take Layout.uidLength

/-- Pages 0 to 2: the identifier with its check bytes, and the lock bytes. -/
def header (id : Bytes) : Bytes :=
  let uid := headerUid id
  let check := Response.uidCheckBytes uid
  uid.take 3 ++ [check.1] ++ uid.drop 3 ++ [check.2, 0x48, 0x00, 0x00]

/-- Technologies that a chip advertises. -/
def chipTechnologies : Chip → List Technology
  | .ultralight | .ultralightC => [.nfcA, .mifareUltralight]
  | .ultralightAes => [.nfcA, .mifareUltralight, .mifareUltralightAes]

/-- The seed of tags that are given none. -/
def defaultSeed : UInt64 := 0x5EED

/-- Sets the first protected page. -/
def withAuth0 (tag : SimulatedTag) (auth0 : UInt8) : SimulatedTag :=
  tag.storeByte tag.family.auth0Page tag.family.auth0Byte auth0

/-- A tag with empty memory behind its header. -/
def blank (chip : Chip) (id : Bytes) : SimulatedTag :=
  let tag : SimulatedTag :=
    { chip := chip
      id := id
      technologies := chipTechnologies chip
      memory := (header id ++ zeros (chip.family.pageCount.toNat * Layout.pageSize)).take
        (chip.family.pageCount.toNat * Layout.pageSize)
      connected := false
      lost := false
      authentication := .none
      random := .seeded defaultSeed
      frames := []
      connects := 0
      closes := 0
      sealedResponses := 0
      faults := .none }
  tag.withAuth0 chip.family.auth0Disabled

/-- A tag without authentication. -/
def ultralight (id : Bytes) : SimulatedTag := blank .ultralight id

/-- A tag with the 3DES key of a secret. -/
def ultralightC (id secret : Bytes) : SimulatedTag :=
  (blank .ultralightC id).store Layout.tdesKeyPage (deriveTdesKey secret)

/-- A tag with an AES key in its first two slots. -/
def ultralightAes (id key : Bytes) : SimulatedTag :=
  (((blank .ultralightAes id).store Layout.aesDataKeyPage key).store
    Layout.aesUidKeyPage key).store Layout.aesOriginalityKeyPage (List.replicate 16 0xA5)

def withTechnologies (tag : SimulatedTag) (technologies : List Technology) : SimulatedTag :=
  { tag with technologies := technologies }

/-- Switches codes on frames on or off, on a chip that has them. -/
def withCmac (tag : SimulatedTag) (enabled : Bool) : SimulatedTag :=
  if tag.chip = .ultralightAes then
    let flags := tag.pageByte Layout.aesConfigPage 0
    tag.storeByte Layout.aesConfigPage 0
      (if enabled then flags ||| Layout.aesCmacFlag else flags &&& ~~~Layout.aesCmacFlag)
  else tag

/-- Sets the key of the second slot, on a chip that has one. -/
def withUidKey (tag : SimulatedTag) (key : Bytes) : SimulatedTag :=
  if tag.chip = .ultralightAes then tag.store Layout.aesUidKeyPage key else tag

def withFaults (tag : SimulatedTag) (faults : Faults) : SimulatedTag :=
  { tag with faults := faults }

def withSeed (tag : SimulatedTag) (seed : UInt64) : SimulatedTag :=
  { tag with random := .seeded seed }

end Wristband.SimulatedTag
