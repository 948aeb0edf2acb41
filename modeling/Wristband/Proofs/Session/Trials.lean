import Wristband.Proofs.Session.Recognised
import Wristband.Proofs.Session.Verdicts
import Wristband.Proofs.Session.Vouched

/-! Handshakes that are tried one after another, each on a connection of its own, with a tag without
faults. Such a tag never leaves, so a handshake fails because it was refused. It leaves one side barred
and the other in the middle of it, but a new connection leaves nothing of that on either side. -/

namespace Wristband.Session

variable {image : SimulatedTag} {connects : Nat} {session after : Session SimulatedTag}
  {command : Bytes} {result : Except TagError Bytes} {α : Type}

structure Tries (image : SimulatedTag) (connects : Nat) (session : Session SimulatedTag) : Prop
    extends Attends image session where
  connects : session.tag.connects = connects
  unread : ∀ sent ∈ session.transcript,
    ¬ Frame.AccessesMemory sent.command ∧ ¬ Frame.AccessesMemory sent.frame

private theorem Tries.exchanged (tries : session.Tries image connects) (step : Frame.IsHandshake command)
    (exchanged : Exchanged session command result after) : after.Tries image connects where
  toAttends := tries.toAttends.exchanged step.storesNothing exchanged
  connects := exchanged.connects.trans tries.connects
  unread sent listed := by
    obtain old | ⟨frame, carries, rfl⟩ := exchanged.mem_transcript listed
    · exact tries.unread sent old
    · obtain ⟨code, rfl⟩ := carries.exists_code
      exact ⟨step.not_accessesMemory, (step.append code).not_accessesMemory⟩

theorem tries_handshakes (image : SimulatedTag) (connects : Nat) :
    Handshakes (Tries image connects) where
  engine _ _ tries :=
    ⟨(attends_handshakes image).engine _ _ tries.toAttends, tries.connects, tries.unread⟩
  random _ _ tries :=
    ⟨(attends_handshakes image).random _ _ tries.toAttends, tries.connects, tries.unread⟩
  step _ step _ tries := exchange_leaves fun _ _ exchanged => tries.exchanged step exchanged

theorem opened_tries {tag : SimulatedTag} (present : tag.lost = false)
    (faultless : tag.faults = .none) (random : RandomSource) :
    (opened tag tag.family random).Tries tag (tag.connects + 1) where
  toAttends := opened_attends present faultless random
  connects := rfl
  unread _ listed := absurd listed List.not_mem_nil

/-- Whatever the handshakes before have come to, the next one starts as the first one did. -/
theorem Tries.reconnect (tries : session.Tries image connects) :
    ∃ next, reconnect.run session = (.ok (), next) ∧ next.IsFresh image ∧
      next.Tries image (connects + 1) := by
  obtain ⟨⟨⟩, next, ran, same⟩ := (ensures_reconnect tries.ready).succeeds
  have attends : next.Attends image := by
    rw [same]
    exact ⟨⟨tries.family, tries.resembles.chip, tries.resembles.memory⟩,
      ⟨SimulatedTag.hears_of_connected rfl tries.ready.present, tries.ready.faultless⟩, rfl⟩
  subst same
  exact ⟨_, ran, ⟨attends, rfl, rfl⟩, attends, congrArg (· + 1) tries.connects, tries.unread⟩

private theorem Exchanged.not_lost {error : TagError} (ready : session.tag.Ready)
    (exchanged : Exchanged session command (.error error) after) : error.isLost = false := by
  cases exchanged with
  | unanswered _ silent => exact ready.silent silent
  | _ => rfl

abbrev Stays (action : SessionM SimulatedTag α) : Prop :=
  Meets (·.tag.Ready) (fun error _ => error.isLost = false) action

private theorem stays_ofProtocol (result : Except ProtocolError α) : Stays (ofProtocol result) :=
  fun _ ready => ensures_ofProtocol.mpr (by split <;> first | exact ready | rfl)

private theorem stays_keepStep (step : Except ProtocolError α × Engine) : Stays (keepStep step) :=
  fun _ ready => ensures_keepStep.mpr (by split <;> first | exact ready | rfl)

private theorem stays_exchange (command : Bytes) : Stays (exchange command) :=
  fun _ ready => ensures_exchange (fun _ _ exchanged => exchanged.ready ready)
    fun _ _ exchanged => exchanged.not_lost ready

private theorem stays_handshake (engine : Engine) : Stays (handshake engine) := by
  refine (stays_keepStep _).bind fun first => (stays_exchange first).bind fun response => ?_
  refine .get fun session => (stays_ofProtocol _).bind fun challenge => .get fun session => ?_
  refine Meets.bind (fun _ ready => ensures_modify.mpr ready) fun _ => ?_
  refine (stays_keepStep _).bind fun second => (stays_exchange second).bind fun response => ?_
  exact .get fun session => (stays_ofProtocol _).bind fun confirmation => stays_keepStep _

/-- A tag that stays can only refuse the key. -/
theorem authenticate_refused (ready : session.tag.Ready) (key : AuthKey) (slot : KeySlot)
    (cmac : Bool) :
    Ensures (authenticate key slot cmac) session (fun _ _ => True)
      (fun error _ => ∃ reason, error = .auth reason ∨ error = .incompatible reason) := by
  refine ensures_bind.mpr (ensures_get.mpr ?_)
  dsimp only
  split
  · exact ensures_throw.mpr ⟨_, .inl rfl⟩
  · split
    next => exact ensures_throw.mpr ⟨_, .inr rfl⟩
    next engine _ =>
      refine ensures_tryCatch.mpr ((stays_handshake engine session ready).weaken
        (fun _ _ _ => trivial) fun error _ stays => ?_)
      refine ensures_bind.mpr (ensures_modify.mpr (ensures_throw.mpr ⟨error.message, .inl ?_⟩))
      rw [handshakeError, stays]
      rfl

end Wristband.Session
