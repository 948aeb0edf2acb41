import Wristband.Proofs.Session.InStep
import Wristband.Proofs.Tag.Requests

/-! The secure channel of a session. All its codes are of one length, so the tag cuts a command where
the terminal has joined it, and what the terminal takes for the answer is what the tag returned. -/

namespace Wristband

namespace Session

section

variable {τ : Type} {session after : Session τ}

theorem ensures_true {α : Type} {action : SessionM τ α} :
    Ensures action session (fun _ _ => True) (fun _ _ => True) := by
  unfold Ensures
  split <;> trivial

def HasSizedCodes (session : Session τ) : Prop :=
  ∀ channel, session.channel? = some channel → channel.sessionKey.length = 16

theorem hasSizedCodes_of_open (open_ : session.channel? = none) : session.HasSizedCodes := by
  intro channel active
  rw [open_] at active
  cases active

theorem channel?_setChannel {own : SecureChannel} (active : session.channel? = some own)
    (next : SecureChannel) : (session.setChannel next).channel? = some next := by
  obtain ⟨engine, held, activeHeld⟩ := channel?_eq_some.mp active
  rw [channel?, setChannel, held]
  exact Engine.channel?_setChannel activeHeld

theorem channel?_dropAuthentication (session : Session τ) :
    session.dropAuthentication.channel? = none := by
  cases held : session.engine with
  | none => simp [channel?, dropAuthentication, held]
  | some engine => exact (isBarred_invalidated held).channel?_eq_none

variable [NfcTag τ]

private theorem handshake_confirms (engine : Engine) :
    Ensures (handshake engine) session
      (fun _ after => ∃ challenge source confirmation,
        ((engine.start.2.respond challenge source).2.1.confirm confirmation).1 = .ok () ∧
        after.engine =
          some ((engine.start.2.respond challenge source).2.1.confirm confirmation).2)
      (fun _ _ => True) := by
  unfold handshake
  refine ensures_true.bind fun first _ _ => ensures_true.bind fun answer _ _ => ?_
  refine ensures_true.bind fun _ _ _ => ensures_true.bind fun challenge _ _ => ?_
  refine ensures_true.bind fun _ _ _ => ensures_true.bind fun _ _ _ => ?_
  refine ensures_true.bind fun second _ _ => ensures_true.bind fun answer _ _ => ?_
  refine ensures_true.bind fun _ _ _ => ensures_true.bind fun confirmation _ _ => ?_
  refine ensures_keepStep.mpr ?_
  split
  next confirmed => exact ⟨_, _, _, confirmed, rfl⟩
  next => trivial

/-- A handshake that succeeds ends with a channel that is new, if it ends with one. -/
theorem authenticate_channel (key : AuthKey) (slot : KeySlot) (cmac : Bool) :
    Ensures (authenticate key slot cmac) session
      (fun _ after => after.isAuthenticated = true ∧
        after.channel?.isSome = (session.family.supportsCmac && cmac) ∧ after.HasSizedCodes ∧
        ∀ channel, after.channel? = some channel → channel.counter = 0)
      (fun _ _ => True) := by
  refine ensures_bind.mpr (ensures_get.mpr ?_)
  dsimp only
  split
  · trivial
  · cases made : Engine.new session.family key slot cmac with
    | error => trivial
    | ok engine =>
      apply ensures_tryCatch.mpr
      refine (handshake_confirms engine).weaken ?_ fun _ _ _ => ensures_true.bind fun _ _ _ => trivial
      rintro _ after ⟨challenge, source, confirmation, confirmed, held⟩
      have ready := (((Engine.isFor_new made).perform .start).perform
        (.respond challenge source)).confirm confirmed
      refine ⟨isAuthenticated_iff.mpr ⟨_, held, Engine.isAuthenticated_confirm confirmed⟩, ?_⟩
      rw [HasSizedCodes, channel?, held]
      exact ⟨ready.1, ready.2, fun _ active => Engine.counter_confirm confirmed active⟩

/-- A handshake that fails, or is refused, leaves no channel that was not there before. -/
theorem authenticate_hasSizedCodes (key : AuthKey) (slot : KeySlot) (cmac : Bool) :
    Keeps HasSizedCodes HasSizedCodes (authenticate (τ := τ) key slot cmac) := by
  intro session sized
  have failing : Ensures (authenticate key slot cmac) session (fun _ _ => True)
      (fun _ => HasSizedCodes) := by
    refine ensures_bind.mpr (ensures_get.mpr ?_)
    dsimp only
    split
    · exact sized
    · cases Engine.new session.family key slot cmac with
      | error => exact sized
      | ok engine =>
        apply ensures_tryCatch.mpr
        refine ensures_true.onError fun _ after _ => ?_
        exact ensures_bind.mpr (ensures_modify.mpr
          (hasSizedCodes_of_open (channel?_dropAuthentication after)))
  exact ((authenticate_channel key slot cmac).and failing).weaken
    (fun _ _ left => left.1.2.2.1) fun _ _ left => left.2

variable {command : Bytes} {result : Except TagError Bytes}

/-- An answer to a command with a code moves the channel on. -/
theorem Exchanged.advanced {response : Bytes} {channel : SecureChannel}
    (exchanged : Exchanged session command (.ok response) after)
    (active : session.channel? = some channel) : after.channel? = some channel.advanced := by
  cases exchanged with
  | plain open_ =>
    rw [open_] at active
    cases active
  | @opened own next frame _ _ held _ _ genuine =>
    obtain rfl : own = channel := Option.some.inj (held.symm.trans active)
    obtain ⟨_, _, rfl⟩ := SecureChannel.openResponse_eq_ok genuine
    have sending : (session.sending command frame).channel? = some own := active
    exact channel?_setChannel sending _

theorem Exchanged.hasSizedCodes (exchanged : Exchanged session command result after)
    (sized : session.HasSizedCodes) : after.HasSizedCodes := by
  cases exchanged with
  | exhausted | unanswered | plain => exact sized
  | ended | spoilt => exact hasSizedCodes_of_open (channel?_dropAuthentication _)
  | @opened own next frame _ _ active _ _ genuine =>
    obtain ⟨_, _, rfl⟩ := SecureChannel.openResponse_eq_ok genuine
    have sending : (session.sending command frame).channel? = some own := active
    intro channel moved
    rw [channel?_setChannel sending] at moved
    cases moved
    exact sized own active

end

variable {session after : Session SimulatedTag} {command response : Bytes}

/-- A command for the memory that is answered was refused, or the tag carried it out and the answer
begins as what the tag returned. -/
theorem Exchanged.taken (exchanged : Exchanged session command (.ok response) after)
    (access : Frame.IsAccess command) (sized : session.HasSizedCodes) :
    (∃ status, response = [status] ∧ status ≠ Layout.ack) ∨
      ∃ frame payload rest, ((session.tag.heard frame).execute command).1 = .data payload ∧
        after.tag.memory = ((session.tag.heard frame).execute command).2.memory ∧
        response <+: payload ++ rest := by
  cases exchanged with
  | plain _ heard =>
    have reached := SimulatedTag.answerFrame_of_transceive heard
    have taken := (session.tag.heard command).answerFrame_bare access
    rw [← reached] at taken
    change (session.tag.transceive command).1 = _ at heard
    change _ ∨ ∃ frame payload rest, _ ∧ (session.tag.transceive command).2.memory = _ ∧ _
    generalize session.tag.transceive command = answered at taken heard ⊢
    cases taken with
    | silent => cases heard
    | refused refusal =>
      cases heard
      exact .inl ⟨_, rfl, refusal⟩
    | carriedOut data same shows_ =>
      cases heard
      subst shows_
      exact .inr ⟨command, _, [], data, same, List.prefix_append _ _⟩
  | @opened channel _ frame sealed_ _ active carries heard genuine =>
    have shape := SecureChannel.sealCommand_eq_ok carries
    obtain ⟨long, rfl, _⟩ := SecureChannel.openResponse_eq_ok genuine
    have reached := SimulatedTag.answerFrame_of_transceive heard
    have taken := (session.tag.heard frame).answerFrame_coded access
      (SecureChannel.length_code (sized channel active) channel.counter command)
    rw [← shape, ← reached] at taken
    change (session.tag.transceive frame).1 = _ at heard
    change _ ∨ ∃ frame_ payload rest, _ ∧ (session.tag.transceive frame).2.memory = _ ∧ _
    generalize session.tag.transceive frame = answered at taken heard ⊢
    cases taken with
    | silent => cases heard
    | refused =>
      cases heard
      exact absurd long (by decide : ¬ 8 ≤ 1)
    | carriedOut data same shows_ =>
      cases heard
      obtain ⟨rest, shown⟩ := shows_
      refine .inr ⟨frame, _, rest, data, same, List.IsPrefix.trans ?_ shown⟩
      rw [List.dropLast_eq_take]
      exact List.take_prefix_take_left (Nat.sub_le_sub_left (by decide) _)

end Session
end Wristband
