import Wristband.Proofs.Handshake.Messages
import Wristband.Proofs.Session.Exchange

/-! The handshake of a session, for arguments about what is sent and what is known in the end.
Its frames are of two kinds, and only its last step makes the session authenticated. -/

namespace Wristband

def Frame.IsHandshake (command : Bytes) : Prop :=
  command.head? = some CommandCode.authenticate.code ∨
    command.head? = some CommandCode.continueAuthentication.code

def Frame.IsRequest (command : Bytes) : Prop := command ≠ [] ∧ ¬ Frame.IsHandshake command

theorem Frame.isRequest_getVersion : Frame.IsRequest Frame.getVersion := by
  refine ⟨nofun, ?_⟩
  rintro (⟨⟨⟩⟩ | ⟨⟨⟩⟩)

theorem Frame.isRequest_read (page : UInt8) : Frame.IsRequest [CommandCode.read.code, page] := by
  refine ⟨nofun, ?_⟩
  rintro (⟨⟨⟩⟩ | ⟨⟨⟩⟩)

theorem Frame.isRequest_write (page : UInt8) (data : Bytes) :
    Frame.IsRequest (CommandCode.write.code :: page :: data) := by
  refine ⟨nofun, ?_⟩
  rintro (⟨⟨⟩⟩ | ⟨⟨⟩⟩)

def Frame.StoresNothing (command : Bytes) : Prop :=
  command ≠ [] ∧ command.head? ≠ some CommandCode.write.code

theorem Frame.storesNothing_getVersion : Frame.StoresNothing Frame.getVersion :=
  ⟨nofun, fun same => absurd (Option.some.inj same) (by decide)⟩

theorem Frame.storesNothing_read (page : UInt8) :
    Frame.StoresNothing [CommandCode.read.code, page] :=
  ⟨nofun, fun same => absurd (Option.some.inj same) (by decide)⟩

theorem Frame.IsHandshake.storesNothing {command : Bytes} (step : Frame.IsHandshake command) :
    Frame.StoresNothing command := by
  cases command with
  | nil => obtain ⟨⟨⟩⟩ | ⟨⟨⟩⟩ := step
  | cons first rest =>
    refine ⟨nofun, ?_⟩
    intro write
    rw [Frame.IsHandshake, write] at step
    obtain first | second := step
    · exact absurd (Option.some.inj first) (by decide)
    · exact absurd (Option.some.inj second) (by decide)

theorem Frame.IsHandshake.append {command : Bytes} (step : Frame.IsHandshake command)
    (code : Bytes) : Frame.IsHandshake (command ++ code) := by
  obtain ⟨first, rest, rfl⟩ := List.exists_cons_of_ne_nil step.storesNothing.1
  exact step

theorem Frame.StoresNothing.append {command : Bytes} (nothing : Frame.StoresNothing command)
    (code : Bytes) : Frame.StoresNothing (command ++ code) := by
  obtain ⟨first, rest, rfl⟩ := List.exists_cons_of_ne_nil nothing.1
  exact ⟨nofun, nothing.2⟩

private theorem Frame.head_authenticate {slot : UInt8} {frame : Bytes}
    (made : Frame.authenticate slot = .ok frame) :
    frame.head? = some CommandCode.authenticate.code := by
  unfold Frame.authenticate at made
  split at made <;> cases made
  rfl

private theorem TdesHandshake.head_start {handshake : TdesHandshake} {frame : Bytes}
    (started : handshake.start.1 = .ok frame) :
    frame.head? = some CommandCode.authenticate.code := by
  unfold TdesHandshake.start at started
  split at started
  · split at started
    next made =>
      cases started
      exact Frame.head_authenticate made
    next => cases started
  · cases started

private theorem AesHandshake.head_start {handshake : AesHandshake} {frame : Bytes}
    (started : handshake.start.1 = .ok frame) :
    frame.head? = some CommandCode.authenticate.code := by
  unfold AesHandshake.start at started
  split at started
  · split at started
    next made =>
      cases started
      exact Frame.head_authenticate made
    next => cases started
  · cases started

namespace Engine

theorem head_start {engine : Engine} {frame : Bytes} (started : engine.start.1 = .ok frame) :
    frame.head? = some CommandCode.authenticate.code := by
  cases engine with
  | tdes => exact TdesHandshake.head_start started
  | aes => exact AesHandshake.head_start started

theorem head_respond {engine : Engine} {challenge : BitVector} {source : RandomSource}
    {frame : Bytes} (responded : (engine.respond challenge source).1 = .ok frame) :
    frame.head? = some CommandCode.continueAuthentication.code := by
  cases engine with
  | tdes handshake =>
    obtain ⟨message, rfl, _⟩ := TdesHandshake.respond_eq_ok (Prod.ext responded rfl)
    rfl
  | aes handshake =>
    obtain ⟨message, _, rfl, _⟩ := AesHandshake.respond_eq_ok (Prod.ext responded rfl)
    rfl

theorem isAuthenticated_confirm {engine : Engine} {confirmation : BitVector}
    (confirmed : (engine.confirm confirmation).1 = .ok ()) :
    (engine.confirm confirmation).2.isAuthenticated = true := by
  cases engine with
  | tdes handshake =>
    unfold confirm TdesHandshake.confirm at *
    cases held : handshake.state with
    | started sent =>
      cases sent with
      | none => simp [held] at confirmed
      | some sent =>
        cases checked : TdesHandshake.checkConfirmation handshake.key sent confirmation with
        | error => simp [held, checked] at confirmed
        | ok => simp [held, checked, isAuthenticated]
    | _ => simp [held] at confirmed
  | aes handshake =>
    unfold confirm AesHandshake.confirm at *
    cases held : handshake.state with
    | started hostRandom tagRandom =>
      cases checked : AesHandshake.checkConfirmation handshake.key hostRandom confirmation with
      | error => simp [held, checked] at confirmed
      | ok => simp [held, checked, isAuthenticated]
    | _ => simp [held] at confirmed

end Engine

namespace Session

variable {τ : Type} [NfcTag τ]

omit [NfcTag τ] in
theorem ensures_keepStep {α : Type} {session : Session τ} {step : Except ProtocolError α × Engine}
    {done : α → Session τ → Prop} {failed : TagError → Session τ → Prop} :
    Ensures (keepStep step) session done failed ↔
      match step.1 with
      | .ok value => done value { session with engine := some step.2 }
      | .error error => failed (.protocol error) { session with engine := some step.2 } := by
  unfold keepStep
  rw [ensures_bind, ensures_modify]
  exact ensures_ofProtocol

def finishHandshake (answer : Except ProtocolError Bytes × Engine) : SessionM τ Unit := do
  let second ← keepStep answer
  let response ← exchange second
  let confirmation ← ofProtocol (Response.confirmation (← get).family response)
  keepStep (answer.2.confirm (.ofBytes confirmation))

structure Handshakes (kept : Session τ → Prop) : Prop where
  engine : ∀ session engine, kept session → kept { session with engine := some engine }
  random : ∀ session random, kept session → kept { session with random := random }
  step : ∀ command, Frame.IsHandshake command → Keeps kept kept (exchange command)

namespace Handshakes

variable {kept : Session τ → Prop} (handshakes : Handshakes kept)
include handshakes

private theorem keepFrame {α : Type} {step : Except ProtocolError Bytes × Engine}
    {next : Bytes → SessionM τ α} {finish : Session τ → Prop}
    (frames : ∀ frame, step.1 = .ok frame → Frame.IsHandshake frame)
    (rest : ∀ response, Leads kept finish kept (next response)) :
    Leads kept finish kept (do
      let frame ← Session.keepStep step
      let response ← exchange frame
      next response) := by
  intro session holds
  have after := handshakes.engine session step.2 holds
  refine ensures_bind.mpr (ensures_keepStep.mpr ?_)
  cases made : step.1 with
  | error => exact after
  | ok frame => exact (handshakes.step frame (frames frame made)).bind rest _ after

/-- Only a handshake that has gone through all its steps succeeds. -/
theorem handshake (engine : Engine) :
    Leads kept (fun session => kept session ∧ session.isAuthenticated = true) kept
      (handshake (τ := τ) engine) := by
  refine handshakes.keepFrame (fun _ started => .inl (Engine.head_start started)) fun response => ?_
  refine Leads.get fun session holds => ?_
  refine (Leads.ofProtocol fun _ same => same).bind (fun challenge => ?_) session holds
  refine Leads.get fun session holds => ?_
  refine ensures_bind.mpr (ensures_modify.mpr ?_)
  refine handshakes.keepFrame (fun _ responded => .inr (Engine.head_respond responded))
    (fun response => ?_) _ (handshakes.random session _ holds)
  refine Leads.get fun session holds => ?_
  refine (Leads.ofProtocol fun _ same => same).bind (fun confirmation => ?_) session holds
  intro session holds
  have after := fun engine => handshakes.engine session engine holds
  refine ensures_keepStep.mpr ?_
  split
  next confirmed =>
    exact ⟨after _, isAuthenticated_iff.mpr ⟨_, rfl, Engine.isAuthenticated_confirm confirmed⟩⟩
  next => exact after _

private theorem dropAuthentication {session : Session τ} (holds : kept session) :
    kept session.dropAuthentication := by
  unfold Session.dropAuthentication
  cases held : session.engine with
  | none =>
    have same : ({ session with engine := none } : Session τ) = session := by rw [← held]
    rw [Option.map_none, same]
    exact holds
  | some engine => exact handshakes.engine session engine.invalidate holds

theorem authenticate (key : AuthKey) (slot : KeySlot) (cmac : Bool) :
    Leads kept (fun session => kept session ∧ session.isAuthenticated = true) kept
      (authenticate (τ := τ) key slot cmac) := by
  refine Leads.get fun session holds => ?_
  dsimp only
  by_cases ran : session.engine.isSome = true
  · rw [if_pos ran]
    exact ensures_throw.mpr holds
  · rw [if_neg ran]
    cases Engine.new session.family key slot cmac with
    | error error => exact ensures_throw.mpr holds
    | ok engine =>
      refine (handshakes.handshake engine).tryCatch (fun error failed left => ?_) session holds
      exact ensures_bind.mpr (ensures_modify.mpr (ensures_throw.mpr
        (handshakes.dropAuthentication left)))

end Handshakes
end Session
end Wristband
