import Wristband.Frame.Response
import Wristband.Handshake.Engine
import Wristband.Session.TagError
import Wristband.Tag.NfcTag

/-! One presence of a tag: its connection, its authentication, and every frame that
is sent. A session holds the only handshake of the presence, so whether the terminal is
authenticated is a property of the session and of nothing else. -/

namespace Wristband

/-- A frame on its way: how it found the tag, the handshake that the session held, and
the command with and without its code. -/
structure Transmission (τ : Type) where
  tag : τ
  engine : Option Engine
  command : Bytes
  frame : Bytes

structure Session (τ : Type) where
  tag : τ
  family : ChipFamily
  engine : Option Engine
  /-- The first protected page, as last read or written. -/
  auth0 : Option UInt8
  closed : Bool
  random : RandomSource
  /-- Every frame that was sent, the first one first. -/
  transcript : List (Transmission τ)

/-- A computation on a session. An error leaves the session as it was when the error
arose. -/
abbrev SessionM (τ : Type) (α : Type) := ExceptT TagError (StateM (Session τ)) α

namespace Session

variable {τ : Type}

def isAuthenticated (session : Session τ) : Bool :=
  match session.engine with
  | some engine => engine.isAuthenticated
  | none => false

/-- The secure channel that frames go through. -/
def channel? (session : Session τ) : Option SecureChannel :=
  session.engine.bind Engine.channel?

/-- The session after its authentication was lost. -/
def dropAuthentication (session : Session τ) : Session τ :=
  { session with engine := session.engine.map Engine.invalidate }

def setChannel (session : Session τ) (channel : SecureChannel) : Session τ :=
  { session with engine := session.engine.map (·.setChannel channel) }

def ofProtocol {α : Type} : Except ProtocolError α → SessionM τ α
  | .ok value => return value
  | .error error => throw (.protocol error)

def ofData {α : Type} : Except DataError α → SessionM τ α
  | .ok value => return value
  | .error error => throw (.data error)

def ofHardware {α : Type} : Except HardwareError α → SessionM τ α
  | .ok value => return value
  | .error error => throw (.hardware error)

variable [NfcTag τ]

/-- Connects to a tag. If that fails the tag is closed again. -/
def openOn (tag : τ) (family : ChipFamily) (random : RandomSource) :
    Except (TagError × τ) (Session τ) :=
  match NfcTag.connect tag with
  | (.error error, tag) => .error (.hardware error, (NfcTag.close tag).2)
  | (.ok (), tag) =>
    .ok { tag := tag, family := family, engine := none, auth0 := none, closed := false,
          random := random, transcript := [] }

def connectTag : SessionM τ Unit := do
  let session ← get
  let connected := NfcTag.connect session.tag
  set { session with tag := connected.2 }
  ofHardware connected.1

def closeTag : SessionM τ Unit := do
  let session ← get
  let closed := NfcTag.close session.tag
  set { session with tag := closed.2 }
  ofHardware closed.1

/-- Closes the connection. Only the first call does anything. -/
def close : SessionM τ Unit := do
  if (← get).closed then return
  modify fun session => { session with closed := true, engine := none }
  closeTag

/-- Closes the connection and opens it again, without anything learned so far. -/
def reconnect : SessionM τ Unit := do
  modify fun session => { session with engine := none, auth0 := none }
  closeTag
  connectTag

/-- Sends a frame that carries a command. -/
def transmit (command frame : Bytes) : SessionM τ Bytes := do
  let session ← get
  let sent : Transmission τ := ⟨session.tag, session.engine, command, frame⟩
  let answered := NfcTag.transceive session.tag frame
  set { session with tag := answered.2, transcript := session.transcript ++ [sent] }
  ofHardware answered.1

/-- A refusal ends an authenticated session. -/
def endAuthentication (status : UInt8) : SessionM τ Bytes := do
  modify dropAuthentication
  throw (.auth ("tag ended the authenticated session with NAK " ++ Hex.marked status))

/-- Sends a command without a code. -/
def exchangePlain (command : Bytes) : SessionM τ Bytes := do
  let response ← transmit command command
  match response with
  | [status] =>
    if (← get).isAuthenticated ∧ status ≠ Layout.ack then endAuthentication status
    else return response
  | _ => return response

/-- Sends a command through a secure channel. A single byte comes from outside of it. -/
def exchangeSealed (channel : SecureChannel) (command : Bytes) : SessionM τ Bytes := do
  let frame ← ofProtocol (channel.sealCommand command)
  let response ← transmit command frame
  match response with
  | [status] => endAuthentication status
  | _ =>
    match channel.openResponse response with
    | .ok (payload, channel) => do
      modify (setChannel · channel)
      return payload
    | .error error => do
      modify dropAuthentication
      throw (.protocol error)

/-- Sends a command, through the secure channel if there is one. -/
def exchange (command : Bytes) : SessionM τ Bytes := do
  match (← get).channel? with
  | none => exchangePlain command
  | some channel => exchangeSealed channel command

def description (session : Session τ) : String :=
  let engine := match session.engine with
    | none => "None"
    | some engine => "Some(" ++ engine.description ++ ")"
  let auth0 := match session.auth0 with
    | none => "None"
    | some page => s!"Some({page})"
  "TagSession \x7b family: " ++ session.family.label ++ ", engine: " ++ engine ++
    ", auth0: " ++ auth0 ++ s!", closed: {session.closed}, .. \x7d"

end Session
end Wristband
