import Wristband.Session.Basic

/-! The handshake of a session. A session runs at most one; another key needs a new
connection. -/

namespace Wristband.Session

variable {τ : Type} [NfcTag τ]

/-- Remembers the handshake after one of its steps, and goes on if the step succeeded. -/
def keepStep {α : Type} (step : Except ProtocolError α × Engine) : SessionM τ α := do
  modify fun session => { session with engine := some step.2 }
  ofProtocol step.1

/-- All steps of a handshake that has not been started. -/
def handshake (engine : Engine) : SessionM τ Unit := do
  let started := engine.start
  let first ← keepStep started
  let response ← exchange first
  let challenge ← ofProtocol (Response.challenge (← get).family response)
  let responded := started.2.respond (.ofBytes challenge) (← get).random
  modify fun session => { session with random := responded.2.2 }
  let second ← keepStep (responded.1, responded.2.1)
  let response ← exchange second
  let confirmation ← ofProtocol (Response.confirmation (← get).family response)
  keepStep (responded.2.1.confirm (.ofBytes confirmation))

/-- What is reported of a handshake that failed. A lost tag is told apart. -/
def handshakeError (error : TagError) : TagError :=
  if error.isLost then error else .auth error.message

/-- Proves to the tag that the terminal knows the key in a slot, and the reverse. A key
that does not fit the family or the slot is refused before anything is sent. -/
def authenticate (key : AuthKey) (slot : KeySlot) (cmac : Bool) : SessionM τ Unit := do
  let session ← get
  if session.engine.isSome then throw (.auth "session already ran its handshake")
  match Engine.new session.family key slot cmac with
  | .error error => throw (.incompatible error.message)
  | .ok engine =>
    tryCatch (handshake engine) fun error => do
      modify dropAuthentication
      throw (handshakeError error)

end Wristband.Session
