import Wristband.Proofs.Session.Access
import Wristband.Proofs.Session.Handshake

/-! A session as its user sees it: a list of calls, of which the later ones are made whether
the earlier ones failed or not. -/

namespace Wristband

inductive SessionCall where
  | authenticate (key : AuthKey) (slot : KeySlot) (cmac : Bool)
  | getVersion
  | readPage (page : UInt8)
  | writePage (page : UInt8) (data : Bytes)
  | readUid
  | auth0
  | setAuth0 (page : UInt8)
  | isProtected
  | cmacRequired
  | setCmac (enabled : Bool)
  | readUserMemory (page : UInt8)
  | writeUserMemory (page : UInt8) (data : Bytes)
  | writeKey (key : AuthKey)
  | reconnect
  | close
deriving DecidableEq

namespace SessionCall

variable {τ : Type} [NfcTag τ]

def perform : SessionCall → SessionM τ Unit
  | authenticate key slot cmac => Session.authenticate key slot cmac
  | getVersion => do let _ ← Session.getVersion
  | readPage page => do let _ ← Session.readPage page
  | writePage page data => Session.writePage page data
  | readUid => do let _ ← Session.readUid
  | auth0 => do let _ ← Session.auth0Page
  | setAuth0 page => Session.setAuth0 page
  | isProtected => do let _ ← Session.isProtected
  | cmacRequired => do let _ ← Session.cmacRequired
  | setCmac enabled => Session.setCmac enabled
  | readUserMemory page => do let _ ← Session.readUserMemory page
  | writeUserMemory page data => Session.writeUserMemory page data
  | writeKey key => Session.writeKey key
  | reconnect => Session.reconnect
  | close => Session.close

def changesHandshake : SessionCall → Bool
  | authenticate .. | reconnect | close => true
  | _ => false

end SessionCall

namespace Session

variable {τ : Type} [NfcTag τ] {during afterwards : Session τ → Prop}

def afterCalls (session : Session τ) (calls : List SessionCall) : Session τ :=
  calls.foldl (fun session call => (call.perform.run session).2) session

theorem afterCalls_append (session : Session τ) (first second : List SessionCall) :
    session.afterCalls (first ++ second) = (session.afterCalls first).afterCalls second :=
  List.foldl_append

theorem afterCalls_cons (session : Session τ) (call : SessionCall) (calls : List SessionCall) :
    session.afterCalls (call :: calls) =
      Session.afterCalls (call.perform.run session).2 calls := rfl

theorem afterCalls_singleton (session : Session τ) (call : SessionCall) :
    session.afterCalls [call] = (call.perform.run session).2 := rfl

theorem openOn_fresh {tag : τ} {family : ChipFamily} {random : RandomSource}
    {session : Session τ} (opened : openOn tag family random = .ok session) :
    session.engine = none ∧ session.transcript = [] := by
  unfold openOn at opened
  split at opened
  · cases opened
  · cases opened
    exact ⟨rfl, rfl⟩

def OfTranscript (kept : Session τ → Prop) : Prop :=
  ∀ before after : Session τ, after.transcript = before.transcript → kept before → kept after

/-- What a reconnection leaves, whether it closes the tag, connects to it again or fails to. -/
theorem reconnect_leaves {session : Session τ} {kept : Session τ → Prop}
    (unclosed : ∀ error, (NfcTag.close session.tag).1 = .error error →
      kept { session with tag := (NfcTag.close session.tag).2, engine := none, auth0 := none })
    (closed : kept { session with
      tag := (NfcTag.connect (NfcTag.close session.tag).2).2
      engine := none
      auth0 := none }) :
    Ensures reconnect session (fun _ => kept) (fun _ => kept) := by
  simp only [reconnect, closeTag, connectTag, ensures_bind, ensures_modify, ensures_get,
    ensures_set, ensures_ofHardware]
  cases failed : (NfcTag.close session.tag).1 with
  | error error => exact unclosed error failed
  | ok => cases (NfcTag.connect (NfcTag.close session.tag).2).1 <;> exact closed

/-- Whether a reconnection succeeds or not, nothing is left of the handshake. -/
theorem reconnect_ends {kept : Session τ → Prop} (decided : OfTranscript kept) :
    Leads kept (fun session => kept session ∧ session.engine = none)
      (fun session => kept session ∧ session.engine = none) reconnect :=
  fun session holds => reconnect_leaves (fun _ _ => ⟨decided session _ rfl holds, rfl⟩)
    ⟨decided session _ rfl holds, rfl⟩

theorem reconnect_leads {kept : Session τ → Prop} (decided : OfTranscript kept) :
    Leads kept (fun session => kept session ∧ session.engine = none) kept reconnect :=
  (reconnect_ends decided).onError fun _ left => left.1

theorem reconnect_keeps {kept : Session τ → Prop} (decided : OfTranscript kept) :
    Keeps kept kept reconnect :=
  (reconnect_leads decided).onValue fun _ left => left.1

/-- Only the first call does anything, and then nothing is left of the handshake. -/
theorem close_ends {kept finish : Session τ → Prop} (decided : OfTranscript kept)
    (weaken : ∀ session, finish session → kept session)
    (ended : ∀ session, kept session → session.engine = none → finish session) :
    Keeps finish finish close := by
  refine Leads.get fun session holds => ?_
  split
  · exact holds
  · have left := weaken session holds
    simp only [closeTag, ensures_bind, ensures_modify, ensures_get, ensures_set,
      ensures_ofHardware]
    cases (NfcTag.close session.tag).1 <;> exact ended _ (decided session _ rfl left) rfl

theorem close_keeps {kept : Session τ → Prop} (decided : OfTranscript kept) :
    Keeps kept kept close :=
  close_ends decided (fun _ kept => kept) fun _ kept _ => kept

/-- A property that outlasts every exchange but the steps of a handshake and does not depend on
what is known of AUTH0. -/
structure Endures (during afterwards : Session τ → Prop) : Prop where
  weaken : ∀ session, during session → afterwards session
  request : ∀ command, Frame.IsRequest command → Keeps during afterwards (exchange command)
  learn : ∀ session auth0, during session → during { session with auth0 := some auth0 }

namespace Endures

variable (endures : Endures during afterwards)
include endures

private theorem read (page : UInt8) :
    Keeps during afterwards (Session.exchange [CommandCode.read.code, page]) :=
  endures.request _ (Frame.isRequest_read page)

theorem reads : Reads during afterwards where
  weaken := endures.weaken
  version := endures.request _ Frame.isRequest_getVersion
  lookUp := auth0Page_keeps endures.weaken endures.learn endures.read
  uid := endures.read _
  page page := fun session holds => endures.read page session holds.1

private theorem writePage (page : UInt8) (data : Bytes) :
    Keeps during afterwards (writePage (τ := τ) page data) :=
  endures.reads.writePage
    (fun _ session holds => endures.request _ (Frame.isRequest_write page data) session holds.1)
    (fun _ kept => kept) endures.weaken

theorem writes : Writes during afterwards where
  toReads := endures.reads
  write page data _ _ session holds :=
    endures.request _ (Frame.isRequest_write page data) session holds.1

theorem setAuth0 (auth0 : UInt8) : Keeps during afterwards (setAuth0 (τ := τ) auth0) :=
  Leads.get fun session holds => by
    refine ((endures.reads.readPage _).bind fun config =>
      (endures.writePage _ _).bind fun _ session holds => ?_) session holds
    exact ensures_modify.mpr (endures.learn session auth0 holds)

theorem setCmac (enabled : Bool) : Keeps during afterwards (setCmac (τ := τ) enabled) :=
  (endures.reads.requireAes _).bind fun _ => (endures.reads.readPage _).bind fun _ =>
    endures.writePage _ _

theorem perform (call : SessionCall) (plain : call.changesHandshake = false) :
    Keeps during afterwards (call.perform (τ := τ)) := by
  cases call with
  | authenticate | reconnect | close => cases plain
  | getVersion => exact endures.reads.getVersion.discard
  | readPage page => exact (endures.reads.readPage page).discard
  | writePage page data => exact endures.writePage page data
  | readUid => exact endures.reads.readUid.discard
  | auth0 => exact endures.reads.lookUp.discard
  | setAuth0 page => exact endures.setAuth0 page
  | isProtected => exact endures.reads.isProtected.discard
  | cmacRequired => exact endures.reads.cmacRequired.discard
  | setCmac enabled => exact endures.setCmac enabled
  | readUserMemory page => exact (endures.reads.readUserMemory page).discard
  | writeUserMemory page data => exact endures.writes.writeUserMemory page data
  | writeKey key => exact endures.writes.writeKey key

end Endures

structure Outlasts (during afterwards : Session τ → Prop) : Prop where
  weaken : ∀ session, during session → afterwards session
  exchange : ∀ command, Keeps during afterwards (exchange command)
  learn : ∀ session auth0, during session → during { session with auth0 := some auth0 }

namespace Outlasts

variable (outlasts : Outlasts during afterwards)
include outlasts

theorem endures : Endures during afterwards where
  weaken := outlasts.weaken
  request command _ := outlasts.exchange command
  learn := outlasts.learn

/-- If the frames that were sent decide what is left of it, and it survives handshakes, then it
is left of every call. -/
theorem leads_perform (handshakes : Handshakes afterwards) (decided : OfTranscript afterwards)
    (call : SessionCall) : Leads during afterwards afterwards (call.perform (τ := τ)) := by
  intro session holds
  have left := outlasts.weaken session holds
  cases plain : call.changesHandshake with
  | false =>
    exact (outlasts.endures.perform call plain session holds).onValue fun _ => outlasts.weaken
  | true =>
    cases call with
    | authenticate key slot cmac =>
      exact (handshakes.authenticate key slot cmac session left).onValue fun _ _ after => after.1
    | reconnect => exact reconnect_keeps decided session left
    | close => exact close_keeps decided session left
    | _ => cases plain

end Outlasts
end Session
end Wristband
