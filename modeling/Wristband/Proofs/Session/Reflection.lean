import Wristband.Proofs.Session.Access
import Wristband.Proofs.Session.Handshake
import Wristband.Proofs.Session.Mirror

/-! What the operations of a session leave to an argument about two runs. If no command makes two
runs part unawares then no operation does, because each stops at its first error. -/

namespace Wristband.Session

variable {τ σ : Type} [NfcTag τ] [NfcTag σ] {image : τ → σ} {parted : Parting τ σ}

structure Reflects (image : τ → σ) (parted : Parting τ σ) (during afterwards : Session τ → Prop) :
    Prop where
  weaken : ∀ session, during session → afterwards session
  request : ∀ command, Frame.IsRequest command →
    Mirrors image parted during during afterwards (exchange command) (exchange command)
  learn : ∀ session auth0, during session → during { session with auth0 := some auth0 }

namespace Reflects

variable {α : Type} {during afterwards : Session τ → Prop}
  (reflects : Reflects image parted during afterwards)
include reflects

theorem getVersion : Mirrors image parted during during afterwards getVersion getVersion :=
  (reflects.request _ Frame.isRequest_getVersion).bind fun _ => .ofProtocol reflects.weaken

private theorem readBlock (page : UInt8) : Mirrors image parted during during afterwards
    (readBlock [CommandCode.read.code, page]) (readBlock [CommandCode.read.code, page]) :=
  (reflects.request _ (Frame.isRequest_read page)).bind fun _ => .ofProtocol reflects.weaken

private theorem learned (auth0 : UInt8) : Mirrors image parted during during afterwards
    (modify fun session => { session with auth0 := some auth0 } : SessionM τ PUnit)
    (modify fun session => { session with auth0 := some auth0 } : SessionM σ PUnit) :=
  .modify (fun _ => rfl) (fun _ => rfl) (fun _ => rfl) fun session => reflects.learn session auth0

theorem auth0Page : Mirrors image parted during during afterwards auth0Page auth0Page :=
  .get fun session => by
    dsimp only [map]
    cases session.auth0 with
    | some auth0 => exact .pure fun _ holds => holds
    | none =>
      refine .ofProtocol_bind reflects.weaken fun frame made => ?_
      obtain rfl := Frame.read_eq_ok made
      refine (reflects.readBlock _).bind fun block => ?_
      refine (Mirrors.ofProtocol reflects.weaken).bind fun page => ?_
      exact (reflects.learned _).bind fun _ => .pure fun _ holds => holds

private theorem ensureAccess (page : UInt8) (access : Access) :
    Mirrors image parted during during afterwards (ensureAccess page access)
      (ensureAccess page access) :=
  .get fun session => by
    dsimp only [map]
    cases session.engine with
    | some engine => exact .ite (fun _ => .throw reflects.weaken) fun _ => .pure fun _ holds => holds
    | none =>
      exact reflects.auth0Page.bind fun auth0 =>
        .ite (fun _ => .throw reflects.weaken) fun _ => .pure fun _ holds => holds

private theorem checkedRead {next : Bytes → SessionM τ α} {next' : Bytes → SessionM σ α} (page : UInt8)
    (rest : ∀ block, Mirrors image parted during during afterwards (next block) (next' block)) :
    Mirrors image parted during during afterwards
      (do
        let frame ← ofProtocol (Frame.read (← get).family page)
        Session.ensureAccess page .read
        let block ← Session.readBlock frame
        next block)
      (do
        let frame ← ofProtocol (Frame.read (← get).family page)
        Session.ensureAccess page .read
        let block ← Session.readBlock frame
        next' block) :=
  .get fun session => .ofProtocol_bind reflects.weaken fun frame made => by
    obtain rfl := Frame.read_eq_ok made
    exact (reflects.ensureAccess page .read).bind fun _ => (reflects.readBlock page).bind rest

private theorem readPage (page : UInt8) :
    Mirrors image parted during during afterwards (readPage page) (readPage page) :=
  reflects.checkedRead page fun _ => .ofProtocol reflects.weaken

private theorem readStep (step : ReadStep) :
    Mirrors image parted during during afterwards (readStep step) (readStep step) :=
  reflects.checkedRead step.page fun _ => .pure fun _ holds => holds

private theorem writePage (page : UInt8) (data : Bytes) :
    Mirrors image parted during during afterwards (writePage page data) (writePage page data) :=
  .get fun session => .ofProtocol_bind reflects.weaken fun frame made => by
    obtain ⟨rfl, _⟩ := Frame.write_eq_ok made
    exact (reflects.ensureAccess page .write).bind fun _ =>
      (reflects.request _ (Frame.isRequest_write page data)).bind fun _ =>
        .ofProtocol reflects.weaken

theorem readUid : Mirrors image parted during during afterwards readUid readUid :=
  .get fun session => .ofProtocol_bind reflects.weaken fun frame made => by
    obtain rfl := Frame.read_eq_ok made
    exact (reflects.readBlock 0).bind fun _ => .ofProtocol reflects.weaken

theorem setAuth0 (auth0 : UInt8) :
    Mirrors image parted during during afterwards (setAuth0 auth0) (setAuth0 auth0) :=
  .get fun _ => (reflects.readPage _).bind fun _ => (reflects.writePage _ _).bind fun _ =>
    reflects.learned auth0

theorem isProtected : Mirrors image parted during during afterwards isProtected isProtected :=
  reflects.auth0Page.bind fun _ => .get fun _ => .pure fun _ holds => holds

private theorem requireAes (purpose : String) :
    Mirrors image parted during during afterwards (requireAes purpose) (requireAes purpose) :=
  .get fun _ => .ite (fun _ => .throw reflects.weaken) fun _ => .pure fun _ holds => holds

theorem cmacRequired : Mirrors image parted during during afterwards cmacRequired cmacRequired :=
  (reflects.requireAes _).bind fun _ => (reflects.readPage _).bind fun _ => .pure fun _ holds => holds

theorem setCmac (enabled : Bool) :
    Mirrors image parted during during afterwards (setCmac enabled) (setCmac enabled) :=
  (reflects.requireAes _).bind fun _ => (reflects.readPage _).bind fun _ => reflects.writePage _ _

private theorem readLimit : Mirrors image parted during during afterwards readLimit readLimit :=
  .get fun _ => .ite (fun _ => .pure fun _ holds => holds) fun _ =>
    reflects.auth0Page.bind fun _ => .pure fun _ holds => holds

theorem readUserMemory (page : UInt8) : Mirrors image parted during during afterwards
    (readUserMemory page) (readUserMemory page) := by
  refine (Mirrors.ofData reflects.weaken).bind fun _ => reflects.readLimit.bind fun limit => ?_
  have content : Mirrors image parted during during afterwards
      (do let parts ← (readPlan page limit).mapM (Session.readStep (τ := τ)); return parts.flatten)
      (do let parts ← (readPlan page limit).mapM (Session.readStep (τ := σ)); return parts.flatten) :=
    (Mirrors.mapM _ reflects.readStep).bind fun _ => .pure fun _ holds => holds
  exact .ite (fun _ => (Mirrors.throw reflects.weaken).bind fun _ => content) fun _ => content

private theorem writePages (first : UInt8) (chunks : List Bytes) :
    Mirrors image parted during during afterwards (writePages first chunks)
      (writePages first chunks) :=
  .forM _ fun chunk => reflects.writePage _ chunk.1

theorem writeUserMemory (page : UInt8) (data : Bytes) :
    Mirrors image parted during during afterwards (writeUserMemory page data)
      (writeUserMemory page data) :=
  (Mirrors.ofData reflects.weaken).bind fun _ => reflects.writePages _ _

theorem writeKey (key : AuthKey) :
    Mirrors image parted during during afterwards (writeKey key) (writeKey key) :=
  .get fun session => by
    obtain ⟨tag, family, engine, auth0, closed, random, transcript⟩ := session
    dsimp only [map]
    split
    · exact reflects.writePages _ _
    · exact (reflects.writePages _ _).bind fun _ => reflects.writePages _ _
    · exact .throw reflects.weaken

end Reflects

/-- The two exchanges of a handshake are mirrored, and runs only part because the tag is lost. -/
structure ReflectsHandshakes (image : τ → σ) (parted : Parting τ σ)
    (before afterwards : Session τ → Prop) : Prop where
  weaken : ∀ session, before session → afterwards session
  step : ∀ session engine, before session → before { session with engine := some engine }
  engine : ∀ session engine, afterwards session → afterwards { session with engine := engine }
  random : ∀ session random, before session → before { session with random := random }
  challenge : ∀ command, command.head? = some CommandCode.authenticate.code →
    Mirrors image parted before before afterwards (exchange command) (exchange command)
  answer : ∀ command, command.head? = some CommandCode.continueAuthentication.code →
    Mirrors image parted before afterwards afterwards (exchange command) (exchange command)
  lost : ∀ tag transcript error rest, parted tag transcript error rest → error.isLost = true

namespace ReflectsHandshakes

variable {before afterwards middle finish : Session τ → Prop}
  (reflects : ReflectsHandshakes image parted before afterwards)
include reflects

private theorem keepFrame {α : Type} {step : Except ProtocolError Bytes × Engine}
    {next : Bytes → SessionM τ α} {next' : Bytes → SessionM σ α}
    (sent : ∀ frame, step.1 = .ok frame →
      Mirrors image parted before middle afterwards (exchange frame) (exchange frame))
    (rest : ∀ response, Mirrors image parted middle finish afterwards (next response)
      (next' response)) :
    Mirrors image parted before finish afterwards
      (do
        let frame ← keepStep step
        let response ← exchange frame
        next response)
      (do
        let frame ← keepStep step
        let response ← exchange frame
        next' response) := by
  unfold keepStep
  rw [bind_assoc, bind_assoc]
  refine Mirrors.bind (.modify (fun _ => rfl) (fun _ => rfl) (fun _ => rfl)
    fun session => reflects.step session step.2) fun _ => ?_
  exact .ofProtocol_bind reflects.weaken fun frame made => (sent frame made).bind rest

private theorem handshake (engine : Engine) :
    Mirrors image parted before afterwards afterwards (handshake engine) (handshake engine) := by
  refine reflects.keepFrame (fun _ started => reflects.challenge _ (Engine.head_start started))
    fun response => .get fun session => ?_
  refine (Mirrors.ofProtocol reflects.weaken).bind fun challenge => .get fun session => ?_
  refine Mirrors.bind (.modify (fun _ => rfl) (fun _ => rfl) (fun _ => rfl)
    fun session => reflects.random session _) fun _ => ?_
  refine reflects.keepFrame (fun _ responded => reflects.answer _ (Engine.head_respond responded))
    fun response => .get fun session => ?_
  refine (Mirrors.ofProtocol fun _ left => left).bind fun confirmation => ?_
  exact Mirrors.bind (.modify (fun _ => rfl) (fun _ => rfl) (fun _ => rfl)
    fun session => reflects.engine session _) fun _ => .ofProtocol fun _ left => left

theorem authenticate (key : AuthKey) (slot : KeySlot) (cmac : Bool) :
    Mirrors image parted before afterwards afterwards (authenticate key slot cmac)
      (authenticate key slot cmac) := by
  refine .get fun session => .ite (fun _ => .throw reflects.weaken) fun _ => ?_
  dsimp only [map]
  cases Engine.new session.family key slot cmac with
  | error error => exact .throw reflects.weaken
  | ok engine =>
    refine (reflects.handshake engine).tryCatch (fun error => ?_) ?_
    · exact (mirrors_dropAuthentication reflects.engine).bind fun _ => .throw fun _ left => left
    · intro tag transcript error rest apart
      refine ⟨rest.dropAuthentication, ?_, rfl⟩
      change (Except.error (handshakeError error), _) = _
      rw [handshakeError, if_pos (reflects.lost _ _ _ _ apart)]

end ReflectsHandshakes
end Wristband.Session
