import Wristband.Session.Basic

/-! Memory access. Arguments are checked before a frame is built. Then every access to a
page must be allowed: with a handshake it must have succeeded, and without one the page
must not be protected. -/

namespace Wristband

/-- The number of pages that so many bytes take from a page on, if they fit into user
memory. -/
def userRange (page : UInt8) (length : Nat) : Except DataError UInt8 :=
  let pages := (length + Layout.pageSize - 1) / Layout.pageSize
  if page < Layout.userStart ∨ Layout.userEnd.toNat < page.toNat + pages then
    .error (.invalidPageRange (s!"{length} bytes from page " ++ Hex.marked page ++
      " do not fit in user memory " ++ Hex.marked Layout.userStart ++ ".." ++
      Hex.marked Layout.userEnd))
  else .ok (UInt8.ofNat pages)

/-- A read of some pages: where it begins and how many pages of its block count. -/
structure ReadStep where
  page : UInt8
  pages : Nat
deriving DecidableEq, Repr

/-- The reads that cover the pages from `first` up to `limit`. -/
def readPlan (first limit : UInt8) : List ReadStep :=
  let count := limit.toNat - first.toNat
  (List.range ((count + Layout.readPages - 1) / Layout.readPages)).map fun step =>
    { page := first + UInt8.ofNat (step * Layout.readPages)
      pages := min Layout.readPages (count - step * Layout.readPages) }

/-- A chunk of data filled up with zeros to a page. -/
def padPage (chunk : Bytes) : Bytes :=
  chunk ++ List.replicate (Layout.pageSize - chunk.length) 0

namespace Session

variable {τ : Type} [NfcTag τ]

/-- Raw answer to GET_VERSION. -/
def getVersion : SessionM τ Bytes := do
  ofProtocol (Response.version (← exchange Frame.getVersion))

/-- Sends a READ and takes the four pages it returns. -/
def readBlock (frame : Bytes) : SessionM τ Bytes := do
  ofProtocol (Response.block (← exchange frame))

/-- The first protected page, which is looked up at most once per connection. -/
def auth0Page : SessionM τ UInt8 := do
  let session ← get
  match session.auth0 with
  | some auth0 => return auth0
  | none =>
    let frame ← ofProtocol (Frame.read session.family session.family.auth0Page)
    let block ← readBlock frame
    let page ← ofProtocol (Response.requestedPage (.ofBytes block))
    let auth0 := page.getD session.family.auth0Byte 0
    modify fun session => { session with auth0 := some auth0 }
    return auth0

inductive Access where
  | read
  | write
deriving DecidableEq, Repr

def Access.describe (access : Access) (page : UInt8) : String :=
  (match access with
  | .read => "READ "
  | .write => "WRITE ") ++ Hex.marked page

/-- Without a handshake a page from AUTH0 on cannot be written, nor read if it is a user
page. -/
def Access.isProtected (access : Access) (auth0 page : UInt8) : Bool :=
  match access with
  | .read => auth0 ≤ page && page < Layout.userEnd
  | .write => auth0 ≤ page

def ensureAccess (page : UInt8) (access : Access) : SessionM τ Unit := do
  match (← get).engine with
  | some engine =>
    if !engine.isAuthenticated then throw (.notAuthenticated (access.describe page))
  | none =>
    if access.isProtected (← auth0Page) page then
      throw (.notAuthenticated (access.describe page))

def readPage (page : UInt8) : SessionM τ Bytes := do
  let frame ← ofProtocol (Frame.read (← get).family page)
  ensureAccess page .read
  let block ← readBlock frame
  ofProtocol (Response.requestedPage (.ofBytes block))

def writePage (page : UInt8) (data : Bytes) : SessionM τ Unit := do
  let frame ← ofProtocol (Frame.write (← get).family page data)
  ensureAccess page .write
  ofProtocol (Response.acknowledgement (← exchange frame))

/-- The identifier in the header of the memory. -/
def readUid : SessionM τ Uid := do
  let frame ← ofProtocol (Frame.read (← get).family 0)
  let block ← readBlock frame
  ofProtocol (Response.uid block)

def setAuth0 (auth0 : UInt8) : SessionM τ Unit := do
  let family := (← get).family
  let config ← readPage family.auth0Page
  writePage family.auth0Page (config.set family.auth0Byte auth0)
  modify fun session => { session with auth0 := some auth0 }

/-- A part of the memory is protected. -/
def isProtected : SessionM τ Bool := do
  let auth0 ← auth0Page
  return auth0 < (← get).family.pageCount

def requireAes (purpose : String) : SessionM τ Unit := do
  if (← get).family ≠ .ultralightAes then
    throw (.incompatible (purpose ++ " needs an Ultralight-AES tag"))

/-- The tag asks for codes on frames. -/
def cmacRequired : SessionM τ Bool := do
  requireAes "CMAC configuration"
  let config ← readPage Layout.aesConfigPage
  return config.getD 0 0 &&& Layout.aesCmacFlag != 0

/-- The configuration page with the flag for codes set or cleared. -/
def withCmacFlag (config : Bytes) (enabled : Bool) : Bytes :=
  let flags := config.getD 0 0
  config.set 0 (if enabled then flags ||| Layout.aesCmacFlag else flags &&& ~~~Layout.aesCmacFlag)

def setCmac (enabled : Bool) : SessionM τ Unit := do
  requireAes "CMAC configuration"
  let config ← readPage Layout.aesConfigPage
  writePage Layout.aesConfigPage (withCmacFlag config enabled)

/-- One past the last user page that can be read as things are. -/
def readLimit : SessionM τ UInt8 := do
  if (← get).isAuthenticated then return Layout.userEnd
  let auth0 ← auth0Page
  return min auth0 Layout.userEnd

/-- The bytes that one read of a plan contributes. -/
def readStep (step : ReadStep) : SessionM τ Bytes := do
  let frame ← ofProtocol (Frame.read (← get).family step.page)
  ensureAccess step.page .read
  let block ← readBlock frame
  return block.take (step.pages * Layout.pageSize)

/-- User memory from a page to its end. Without a handshake the end is at AUTH0. -/
def readUserMemory (page : UInt8) : SessionM τ Bytes := do
  let _ ← ofData (userRange page Layout.pageSize)
  let limit ← readLimit
  if limit ≤ page then throw (.notAuthenticated (Access.describe .read page))
  let parts ← (readPlan page limit).mapM readStep
  return parts.flatten

/-- Stores one chunk to a page, from `first` on. -/
def writePages (first : UInt8) (chunks : List Bytes) : SessionM τ Unit :=
  chunks.zipIdx.forM fun chunk => writePage (first + UInt8.ofNat chunk.2) chunk.1

/-- Stores data in user memory, filled up with zeros to whole pages. -/
def writeUserMemory (page : UInt8) (data : Bytes) : SessionM τ Unit := do
  let _ ← ofData (userRange page data.length)
  writePages page ((pieces Layout.pageSize data).map padPage)

/-- Stores a key. Ultralight-AES tags get it in their first two slots. -/
def writeKey (key : AuthKey) : SessionM τ Unit := do
  match (← get).family, key with
  | .ultralight, .tdes secret =>
    writePages Layout.tdesKeyPage (pieces Layout.pageSize (deriveTdesKey secret.val))
  | .ultralightAes, .aes key => do
    writePages Layout.aesDataKeyPage (pieces Layout.pageSize key.val)
    writePages Layout.aesUidKeyPage (pieces Layout.pageSize key.val)
  | family, key =>
    throw (.incompatible s!"cannot store a {key.family.name} key on a {family.name} tag")

end Session
end Wristband
