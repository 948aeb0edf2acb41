import Wristband.AuthKey
import Wristband.Handshake.Aes
import Wristband.Handshake.Tdes

/-! One handshake of either family, driven by the same three steps: start, respond to
the challenge, confirm. Once it has failed it stays failed. -/

namespace Wristband

inductive Engine where
  | tdes (handshake : TdesHandshake)
  | aes (handshake : AesHandshake)
deriving DecidableEq, Repr

namespace Engine

/-- The handshake for a key on a tag of the family. Ultralight-C has one key slot and
no secure channel, so there the request for one is ignored. -/
def new (family : ChipFamily) (key : AuthKey) (slot : KeySlot) (cmac : Bool) :
    Except ProtocolError Engine :=
  match family, key with
  | .ultralight, .tdes secret =>
    if slot = .dataProtection then .ok (tdes (.new (deriveTdesKey secret.val)))
    else .error (.invalidKeySlot slot.code)
  | .ultralightAes, .aes key => .ok (aes (.new key.val slot cmac))
  | family, key => .error (.keyFamilyMismatch family key.family)

def start : Engine → Except ProtocolError Bytes × Engine
  | tdes handshake => let (frame, after) := handshake.start; (frame, tdes after)
  | aes handshake => let (frame, after) := handshake.start; (frame, aes after)

def respond (engine : Engine) (challenge : BitVector) (source : RandomSource) :
    Except ProtocolError Bytes × Engine × RandomSource :=
  match engine with
  | tdes handshake =>
    let (frame, after, rest) := handshake.respond challenge source
    (frame, tdes after, rest)
  | aes handshake =>
    let (frame, after, rest) := handshake.respond challenge source
    (frame, aes after, rest)

def confirm (engine : Engine) (confirmation : BitVector) : Except ProtocolError Unit × Engine :=
  match engine with
  | tdes handshake => let (done, after) := handshake.confirm confirmation; (done, tdes after)
  | aes handshake => let (done, after) := handshake.confirm confirmation; (done, aes after)

/-- Abandons the handshake, or the session that it established. -/
def invalidate : Engine → Engine
  | tdes handshake => tdes handshake.failed
  | aes handshake => aes handshake.failed

def isAuthenticated : Engine → Bool
  | tdes handshake => handshake.state == .complete
  | aes handshake =>
    match handshake.state with
    | .authenticated _ => true
    | _ => false

def isFailed : Engine → Bool
  | tdes handshake => handshake.state == .failed
  | aes handshake => handshake.state == .failed

/-- The secure channel, which only an authenticated AES handshake can have. -/
def channel? : Engine → Option SecureChannel
  | tdes _ => none
  | aes handshake => handshake.channel?

/-- Replaces the secure channel of an engine that has one. -/
def setChannel (engine : Engine) (channel : SecureChannel) : Engine :=
  match engine with
  | tdes handshake => tdes handshake
  | aes handshake =>
    match handshake.state with
    | .authenticated (some _) =>
      aes { handshake with state := .authenticated (some channel) }
    | _ => aes handshake

def stateName : Engine → String
  | tdes handshake => handshake.state.name
  | aes handshake => handshake.state.name

def description : Engine → String
  | tdes handshake => "Tdes(" ++ handshake.description ++ ")"
  | aes handshake => "Aes(" ++ handshake.description ++ ")"

end Engine
end Wristband
