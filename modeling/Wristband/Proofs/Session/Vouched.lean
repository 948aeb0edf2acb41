import Wristband.Proofs.Session.Barred
import Wristband.Proofs.Session.InStep

/-! Handshakes in the record of a session. Each connection to a tag has a number, so the frames that
were sent tell whether a handshake had been completed on the connection that a later frame went
through. -/

namespace Wristband

namespace SimulatedTag

variable {tag : SimulatedTag}

private theorem Evolves.connects {after : SimulatedTag} (evolves : tag.Evolves after) :
    after.connects = tag.connects := by
  rw [evolves]

private theorem connects_transceive (tag : SimulatedTag) (frame : Bytes) :
    (tag.transceive frame).2.connects = tag.connects := by
  cases near : tag.hears with
  | false =>
    obtain ⟨_, unheard⟩ := transceive_unheard near frame
    rw [unheard]
  | true =>
    obtain left | silent | answered := transceive_heard near frame
    · rw [left]
      rfl
    · rw [silent]
      rfl
    · rw [answered, (answerFrame_evolves frame).1.connects]
      rfl

end SimulatedTag

/-- The frame ended a mutual handshake: with it the terminal returned the challenge of the tag, by
which the tag has recognised the terminal, and the answer has convinced the terminal of the tag. -/
inductive Transmission.CompletesHandshake : Transmission SimulatedTag → Prop where
  | confirmed {sent : Transmission SimulatedTag} {family : ChipFamily} {key : AuthKey}
      {slot : KeySlot} {cmac : Bool} {engine : Engine} {challenge : BitVector}
      {source : RandomSource} {response confirmation : Bytes}
      (made : Engine.new family key slot cmac = .ok engine)
      (returned : (engine.start.2.respond challenge source).1 = .ok sent.frame)
      (held : sent.engine = some (engine.start.2.respond challenge source).2.1)
      (recognised : (sent.tag.transceive sent.frame).2.isAuthenticated = true)
      (answered : (sent.tag.transceive sent.frame).1 = .ok response)
      (decoded : Response.confirmation family response = .ok confirmation)
      (convinced : ((engine.start.2.respond challenge source).2.1.confirm (.ofBytes confirmation)).1 =
        .ok ()) :
      sent.CompletesHandshake

def VouchedFor (connection : Nat) (frames : List (Transmission SimulatedTag)) : Prop :=
  ∃ sent ∈ frames, sent.tag.connects = connection ∧ sent.CompletesHandshake

namespace Session

variable {session after : Session SimulatedTag} {command : Bytes}
  {result : Except TagError Bytes}

def IsVouched (session : Session SimulatedTag) : Prop :=
  VouchedFor session.tag.connects session.transcript

/-- Memory was accessed only where a handshake had been completed before on the same connection. -/
def HandshakesFirst (session : Session SimulatedTag) : Prop :=
  ∀ before sent, before ++ [sent] <+: session.transcript → Frame.AccessesMemory sent.command →
    VouchedFor sent.tag.connects before

theorem handshakesFirst_ofTranscript : OfTranscript HandshakesFirst := by
  intro before after same holds
  unfold HandshakesFirst
  rw [same]
  exact holds

theorem Exchanged.connects (exchanged : Exchanged session command result after) :
    after.tag.connects = session.tag.connects := by
  obtain ⟨sameTag, _⟩ | ⟨frame, _, sameTag, _⟩ := exchanged.transmission
  · rw [sameTag]
  · rw [sameTag]
    exact session.tag.connects_transceive frame

private theorem IsVouched.exchanged (vouched : session.IsVouched)
    (exchanged : Exchanged session command result after) : after.IsVouched := by
  obtain ⟨sent, listed, here, completes⟩ := vouched
  exact ⟨sent, exchanged.transcript_prefix.subset listed, here.trans exchanged.connects.symm,
    completes⟩

/-- A frame that is added either is none for the memory, or comes after a handshake. -/
theorem HandshakesFirst.exchanged (first : session.HandshakesFirst)
    (allowed : Frame.AccessesMemory command → session.IsVouched)
    (exchanged : Exchanged session command result after) : after.HandshakesFirst := by
  obtain ⟨_, same⟩ | ⟨frame, _, _, grown⟩ := exchanged.transmission
  · exact handshakesFirst_ofTranscript session after same first
  · intro before sent starts access
    rw [grown, List.prefix_concat_iff] at starts
    obtain last | old := starts
    · obtain ⟨rfl, new⟩ := List.append_inj' last rfl
      obtain rfl := List.singleton_inj.mp new
      exact allowed access
    · exact first before sent old access

theorem handshakesFirst_handshakes : Handshakes HandshakesFirst where
  engine session _ first := handshakesFirst_ofTranscript session _ rfl first
  random session _ first := handshakesFirst_ofTranscript session _ rfl first
  step _ step _ first := exchange_leaves fun _ _ exchanged =>
    first.exchanged (fun access => absurd access step.not_accessesMemory) exchanged

/-- What holds of a session from a handshake to the next connection. -/
theorem vouched_outlasts : Outlasts
    (fun session => session.HandshakesFirst ∧ session.IsVouched)
    (fun session => session.HandshakesFirst ∧ session.IsVouched) where
  weaken _ holds := holds
  exchange _ _ holds := exchange_leaves fun _ _ exchanged =>
    ⟨holds.1.exchanged (fun _ => holds.2) exchanged, holds.2.exchanged exchanged⟩
  learn _ _ holds := holds

variable {family : ChipFamily} {key : AuthKey} {slot : KeySlot} {cmac : Bool} {engine : Engine}

private theorem finishHandshake_vouched (made : Engine.new family key slot cmac = .ok engine)
    (challenge : BitVector) (source : RandomSource) (own : session.family = family)
    (closed : session.tag.channel? = none) :
    Ensures (finishHandshake ((engine.start.2.respond challenge source).1,
        (engine.start.2.respond challenge source).2.1)) session
      (fun _ after => after.IsVouched) (fun _ _ => True) := by
  refine ensures_bind.mpr (ensures_keepStep.mpr ?_)
  cases returned : (engine.start.2.respond challenge source).1 with
  | error => trivial
  | ok second =>
    have waiting : isAuthenticated { session with
        engine := some (engine.start.2.respond challenge source).2.1 } = false :=
      Engine.not_authenticated_respond returned
    refine ((exchange_unauthenticated waiting second).onError fun _ _ _ => trivial).bind ?_
    rintro response _ ⟨answered, rfl⟩
    refine ensures_bind.mpr (ensures_get.mpr (ensures_bind.mpr (ensures_ofProtocol.mpr ?_)))
    split
    next confirmation decoded =>
      have fresh := SimulatedTag.isFresh_of_confirmation closed (Engine.head_respond returned)
        answered (Response.length_of_handshakeStep (ChipFamily.confirmationLength_pos _) decoded)
      apply ensures_keepStep.mpr
      split
      next convinced =>
        refine ⟨_, List.mem_append_right _ (List.mem_singleton_self _),
          (session.tag.connects_transceive second).symm, ?_⟩
        subst own
        obtain ⟨channel, recognised, _⟩ := fresh
        refine .confirmed made returned rfl ?_ answered decoded convinced
        change (session.tag.transceive second).2.isAuthenticated = true
        rw [SimulatedTag.isAuthenticated, recognised]
      next => trivial
    next => trivial

private theorem handshake_vouched (made : Engine.new family key slot cmac = .ok engine)
    (own : session.family = family) :
    Ensures (handshake engine) session (fun _ after => after.IsVouched) (fun _ _ => True) := by
  refine ensures_bind.mpr (ensures_keepStep.mpr ?_)
  cases started : engine.start.1 with
  | error => trivial
  | ok first =>
    have waiting : isAuthenticated { session with engine := some engine.start.2 } = false :=
      Engine.not_authenticated_start started
    refine ((exchange_unauthenticated waiting first).onError fun _ _ _ => trivial).bind ?_
    rintro response _ ⟨challenged, rfl⟩
    refine ensures_bind.mpr (ensures_get.mpr (ensures_bind.mpr (ensures_ofProtocol.mpr ?_)))
    split
    next challenge accepted =>
      have closed : (session.tag.transceive first).2.channel? = none :=
        SimulatedTag.channel?_of_challenge (Engine.head_start started) challenged
          (Response.length_of_handshakeStep (ChipFamily.challengeLength_pos _) accepted)
      refine ensures_bind.mpr (ensures_get.mpr (ensures_bind.mpr (ensures_modify.mpr ?_)))
      exact finishHandshake_vouched made _ _ own closed
    next => trivial

/-- A handshake that succeeds has been completed on the connection of the session. -/
theorem authenticate_vouched (key : AuthKey) (slot : KeySlot) (cmac : Bool) :
    Ensures (authenticate key slot cmac) session (fun _ after => after.IsVouched)
      (fun _ _ => True) := by
  refine ensures_bind.mpr (ensures_get.mpr ?_)
  dsimp only
  split
  · trivial
  · cases made : Engine.new session.family key slot cmac with
    | error => trivial
    | ok engine =>
      apply ensures_tryCatch.mpr
      refine (handshake_vouched made rfl).onError fun _ _ _ => ?_
      exact ensures_bind.mpr (ensures_modify.mpr trivial)

end Session
end Wristband
