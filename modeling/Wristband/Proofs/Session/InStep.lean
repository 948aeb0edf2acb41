import Wristband.Proofs.Session.Calls
import Wristband.Proofs.Session.Mutual

/-! A session and its tag stay in step. The tag may know the terminal when the session has given
it up, but never the other way round, and two channels count the same exchanges. -/

namespace Wristband

/-- What the terminal and the tag may take each other for at one time. -/
structure Together (engine : Option Engine) (tag : SimulatedTag) : Prop where
  known : (∃ held, engine = some held ∧ held.isAuthenticated = true) → tag.isAuthenticated = true
  counted : ∀ own theirs, engine.bind Engine.channel? = some own → tag.channel? = some theirs →
    own.counter = theirs.counter

namespace Together

variable {engine : Option Engine} {tag after : SimulatedTag}

private theorem of_unauthenticated (waiting : ∀ held, engine = some held → held.isAuthenticated = false) :
    Together engine tag where
  known := by
    rintro ⟨held, same, authenticated⟩
    rw [waiting held same] at authenticated
    cases authenticated
  counted own theirs active _ := by
    obtain ⟨held, same, active⟩ := Option.bind_eq_some_iff.mp active
    have authenticated := Engine.isAuthenticated_of_channel? active
    rw [waiting held same] at authenticated
    cases authenticated

private theorem of_invalidated (engine : Option Engine) : Together (engine.map Engine.invalidate) tag := by
  apply of_unauthenticated
  intro held same
  obtain ⟨original, _, rfl⟩ := Option.map_eq_some_iff.mp same
  exact original.not_authenticated_invalidate

variable (now : Together engine tag)
include now

private theorem retag (same : after.authentication = tag.authentication) : Together engine after where
  known authenticated := by
    rw [SimulatedTag.isAuthenticated, same]
    exact now.known authenticated
  counted own theirs active held :=
    now.counted own theirs active (by rwa [SimulatedTag.channel?_congr same] at held)

private theorem unanswered {error : HardwareError} {result : Except HardwareError Bytes × SimulatedTag}
    (heard : tag.Heard result) (lost : result.1 = .error error) : Together engine result.2 := by
  cases heard with
  | silent same => exact now.retag same
  | refused | plain | counted => cases lost

private theorem answered {response : Bytes} {result : Except HardwareError Bytes × SimulatedTag}
    (heard : tag.Heard result) (received : result.1 = .ok response)
    (open_ : engine.bind Engine.channel? = none)
    (accepted : (∃ held, engine = some held ∧ held.isAuthenticated = true) →
      ∀ status, response = [status] → status = Layout.ack) : Together engine result.2 := by
  have uncounted {tag : SimulatedTag}
      (known : (∃ held, engine = some held ∧ held.isAuthenticated = true) →
        tag.isAuthenticated = true) : Together engine tag := by
    refine ⟨known, ?_⟩
    intro own theirs active
    rw [open_] at active
    cases active
  cases heard with
  | silent => cases received
  | refused refusal =>
    cases received
    exact uncounted fun authenticated => (refusal (accepted authenticated _ rfl)).elim
  | plain _ same => exact now.retag same
  | counted _ advanced =>
    apply uncounted
    intro _
    rw [SimulatedTag.isAuthenticated, advanced]

private theorem opened {response payload : Bytes} {channel next : SecureChannel}
    {result : Except HardwareError Bytes × SimulatedTag} (heard : tag.Heard result)
    (received : result.1 = .ok response) (active : engine.bind Engine.channel? = some channel)
    (genuine : channel.openResponse response = .ok (payload, next)) :
    Together (engine.map (·.setChannel next)) result.2 := by
  obtain ⟨long, _, rfl⟩ := SecureChannel.openResponse_eq_ok genuine
  obtain ⟨held, rfl, activeHeld⟩ := Option.bind_eq_some_iff.mp active
  have before := now.known ⟨held, rfl, Engine.isAuthenticated_of_channel? activeHeld⟩
  have moved : (held.setChannel channel.advanced).channel? = some channel.advanced :=
    Engine.channel?_setChannel activeHeld
  cases heard with
  | silent => cases received
  | refused =>
    cases received
    have uncoded : ¬ 8 ≤ 1 := by decide
    exact absurd long uncoded
  | plain closed same =>
    constructor
    · intro _
      rw [SimulatedTag.isAuthenticated, same]
      exact before
    · intro own theirs _ theirsHeld
      rw [SimulatedTag.channel?_congr same, closed] at theirsHeld
      cases theirsHeld
  | @counted theirs _ _ activeTag advanced =>
    have alike := now.counted channel theirs active activeTag
    constructor
    · intro _
      rw [SimulatedTag.isAuthenticated, advanced]
    · intro own other ownHeld otherHeld
      rw [Option.map_some, Option.bind_some, moved] at ownHeld
      rw [SimulatedTag.channel?, advanced] at otherHeld
      cases ownHeld
      cases otherHeld
      rw [SecureChannel.advanced, SecureChannel.advanced, alike]

end Together

namespace Session

variable {session after : Session SimulatedTag}

def Logged (session : Session SimulatedTag) : Prop :=
  ∀ sent ∈ session.transcript, Together sent.engine sent.tag

structure InStep (session : Session SimulatedTag) : Prop where
  now : Together session.engine session.tag
  logged : session.Logged

private theorem logged_ofTranscript : OfTranscript Logged := by
  intro before after same logged
  unfold Logged
  rw [same]
  exact logged

theorem InStep.of_engine_eq_none (logged : session.Logged) (free : session.engine = none) :
    session.InStep where
  now := .of_unauthenticated fun held same => by
    rw [free] at same
    cases same
  logged := logged

private theorem InStep.dropAuthentication (logged : session.Logged) :
    session.dropAuthentication.InStep where
  now := .of_invalidated session.engine
  logged := logged

theorem Carries.not_isHandshake {command frame : Bytes} (carries : session.Carries command frame)
    (request : Frame.IsRequest command) : ¬ Frame.IsHandshake frame := by
  obtain ⟨code, rfl⟩ := carries.exists_code
  obtain ⟨first, rest, rfl⟩ := List.exists_cons_of_ne_nil request.1
  exact request.2

private theorem inStep_exchanged {command : Bytes} {result : Except TagError Bytes}
    (together : session.InStep) (request : Frame.IsRequest command)
    (exchanged : Exchanged session command result after) : after.InStep := by
  have now := together.now
  have logged : after.Logged := by
    intro sent listed
    rcases exchanged.mem_transcript listed with old | ⟨frame, _, rfl⟩
    · exact together.logged sent old
    · exact now
  have heard {frame : Bytes} (carries : session.Carries command frame) :
      session.tag.Heard (NfcTag.transceive session.tag frame) :=
    SimulatedTag.transceive_request (carries.not_isHandshake request)
  refine ⟨?_, logged⟩
  cases exchanged with
  | exhausted => exact now
  | unanswered carries lost => exact now.unanswered (heard carries) lost
  | plain open_ received accepted =>
    have carries : session.Carries command command := by simp only [Carries, open_]
    exact now.answered (heard carries) received open_ fun authenticated =>
      accepted (isAuthenticated_iff.mpr authenticated)
  | ended | spoilt => exact .of_invalidated session.engine
  | @opened _ _ frame _ _ active carried received genuine =>
    have carries : session.Carries command frame := by simpa only [Carries, active] using carried
    exact now.opened (heard carries) received active genuine

private theorem inStep_endures : Endures InStep InStep where
  weaken _ together := together
  request _ request _ together := exchange_leaves fun _ _ => inStep_exchanged together request
  learn _ _ together := ⟨together.now, together.logged⟩

structure Waiting (session : Session SimulatedTag) : Prop where
  open_ : session.isAuthenticated = false
  logged : session.Logged

private theorem Waiting.of_engine {engine : Engine} (logged : session.Logged)
    (held : session.engine = some engine) (open_ : engine.isAuthenticated = false) :
    session.Waiting := by
  refine ⟨?_, logged⟩
  rw [isAuthenticated, held]
  exact open_

private theorem Waiting.sending (waiting : session.Waiting) (frame : Bytes) :
    (session.sending frame frame).Waiting := by
  refine ⟨waiting.open_, ?_⟩
  intro sent listed
  rcases List.mem_append.mp listed with old | new
  · exact waiting.logged sent old
  · obtain rfl := List.mem_singleton.mp new
    apply Together.of_unauthenticated
    intro held same
    change session.engine = some held at same
    have open_ := waiting.open_
    rw [isAuthenticated, same] at open_
    exact open_

private theorem Waiting.exchange (waiting : session.Waiting) (frame : Bytes) :
    Ensures (exchange frame) session
      (fun response after => (NfcTag.transceive session.tag frame).1 = .ok response ∧
        after = session.sending frame frame) (fun _ => Logged) := by
  refine (exchange_unauthenticated waiting.open_ frame).onError ?_
  rintro error after ⟨_, rfl⟩
  exact (waiting.sending frame).logged

private theorem together_confirmed {engine : Engine} {confirmation : BitVector} {tag : SimulatedTag}
    (confirmed : (engine.confirm confirmation).1 = .ok ()) (fresh : tag.IsFresh) :
    Together (some (engine.confirm confirmation).2) tag := by
  obtain ⟨channel, recognised, zero⟩ := fresh
  constructor
  · intro _
    rw [SimulatedTag.isAuthenticated, recognised]
  · intro own theirs active held
    rw [SimulatedTag.channel?, recognised] at held
    rw [Engine.counter_confirm confirmed active, zero theirs held]

private theorem finishHandshake_inStep (engine : Engine) (challenge : BitVector) (source : RandomSource) :
    Leads (fun session => session.Logged ∧ session.tag.channel? = none) InStep Logged
      (finishHandshake
        ((engine.respond challenge source).1, (engine.respond challenge source).2.1)) := by
  rintro session ⟨logged, closed⟩
  refine ensures_bind.mpr (ensures_keepStep.mpr ?_)
  cases responded : (engine.respond challenge source).1 with
  | error => exact logged
  | ok second =>
    have waiting : Waiting { session with engine := some (engine.respond challenge source).2.1 } :=
      .of_engine logged rfl (Engine.not_authenticated_respond responded)
    have logged := (waiting.sending second).logged
    refine (waiting.exchange second).bind ?_
    rintro response _ ⟨confirmed, rfl⟩
    refine ensures_bind.mpr (ensures_get.mpr (ensures_bind.mpr (ensures_ofProtocol.mpr ?_)))
    split
    next confirmation accepted =>
      have fresh := SimulatedTag.isFresh_of_confirmation closed (Engine.head_respond responded)
        confirmed (Response.length_of_handshakeStep (ChipFamily.confirmationLength_pos _) accepted)
      apply ensures_keepStep.mpr
      split
      next convinced => exact ⟨together_confirmed convinced fresh, logged⟩
      next => exact logged
    next => exact logged

private theorem handshake_inStep (engine : Engine) : Leads Waiting InStep Logged (handshake engine) := by
  intro session waiting
  refine ensures_bind.mpr (ensures_keepStep.mpr ?_)
  cases started : engine.start.1 with
  | error => exact waiting.logged
  | ok first =>
    have waiting : Waiting { session with engine := some engine.start.2 } :=
      .of_engine waiting.logged rfl (Engine.not_authenticated_start started)
    have logged := (waiting.sending first).logged
    refine (waiting.exchange first).bind ?_
    rintro response _ ⟨challenged, rfl⟩
    refine ensures_bind.mpr (ensures_get.mpr (ensures_bind.mpr (ensures_ofProtocol.mpr ?_)))
    split
    next challenge accepted =>
      have closed : (NfcTag.transceive session.tag first).2.channel? = none :=
        SimulatedTag.channel?_of_challenge (Engine.head_start started) challenged
          (Response.length_of_handshakeStep (ChipFamily.challengeLength_pos _) accepted)
      refine ensures_bind.mpr (ensures_get.mpr (ensures_bind.mpr (ensures_modify.mpr ?_)))
      exact finishHandshake_inStep _ _ _ _ ⟨logged, closed⟩
    next => exact logged

theorem authenticate_inStep (key : AuthKey) (slot : KeySlot) (cmac : Bool) :
    Keeps InStep InStep (authenticate key slot cmac) := by
  refine Leads.get fun session together => ?_
  dsimp only
  by_cases ran : session.engine.isSome = true
  · rw [if_pos ran]
    exact ensures_throw.mpr together
  · rw [if_neg ran]
    cases Engine.new session.family key slot cmac with
    | error error => exact ensures_throw.mpr together
    | ok engine =>
      have free : session.engine = none := Option.not_isSome_iff_eq_none.mp ran
      have waiting : session.Waiting := ⟨by rw [isAuthenticated, free], together.logged⟩
      apply ensures_tryCatch.mpr
      apply (handshake_inStep engine session waiting).onError
      intro error after logged
      exact ensures_bind.mpr (ensures_modify.mpr (ensures_throw.mpr (.dropAuthentication logged)))

private theorem inStep_perform (call : SessionCall) :
    Keeps InStep InStep (call.perform (τ := SimulatedTag)) := by
  cases plain : call.changesHandshake with
  | false => exact inStep_endures.perform call plain
  | true =>
    cases call with
    | authenticate key slot cmac => exact authenticate_inStep key slot cmac
    | reconnect =>
      intro session together
      have ended := reconnect_ends logged_ofTranscript session together.logged
      exact ended.weaken (fun _ _ left => .of_engine_eq_none left.1 left.2)
        fun _ _ left => .of_engine_eq_none left.1 left.2
    | close =>
      exact close_ends logged_ofTranscript (fun _ together => together.logged)
        fun _ => InStep.of_engine_eq_none
    | _ => cases plain

private theorem inStep_afterCalls (together : session.InStep) (calls : List SessionCall) :
    (session.afterCalls calls).InStep := by
  induction calls generalizing session with
  | nil => exact together
  | cons call calls ih => exact ih (inStep_perform call session together).after

/-- From the moment a session is opened, whatever is called, it takes itself for authenticated only
while the tag does, and whenever both have a channel they have counted the same exchanges. That
is so after every call and for every frame on its way. -/
theorem authenticated_together_and_counting_alike {tag : SimulatedTag} {family : ChipFamily}
    {random : RandomSource} (opened : openOn tag family random = .ok session)
    (calls : List SessionCall) :
    ((session.afterCalls calls).isAuthenticated = true →
      (session.afterCalls calls).tag.isAuthenticated = true) ∧
    (∀ own theirs, (session.afterCalls calls).channel? = some own →
      (session.afterCalls calls).tag.channel? = some theirs → own.counter = theirs.counter) ∧
    ∀ sent ∈ (session.afterCalls calls).transcript,
      (sent.IsAuthenticated → sent.tag.isAuthenticated = true) ∧
      ∀ own theirs, sent.engine.bind Engine.channel? = some own → sent.tag.channel? = some theirs →
        own.counter = theirs.counter := by
  obtain ⟨free, empty⟩ := openOn_fresh opened
  have logged : session.Logged := by
    intro sent listed
    rw [empty] at listed
    cases listed
  have together := inStep_afterCalls (.of_engine_eq_none logged free) calls
  refine ⟨?_, together.now.counted, ?_⟩
  · intro authenticated
    exact together.now.known (isAuthenticated_iff.mp authenticated)
  · intro sent listed
    have then_ := together.logged sent listed
    exact ⟨then_.known, then_.counted⟩

/-- Both sides have a channel after a handshake with codes. -/
theorem zeroKey_together :
    ∃ session : Session SimulatedTag,
      openOn zeroKeyTag zeroKeyTag.family ⟨fun _ => 0, 0⟩ = .ok session ∧
      (session.afterCalls [.authenticate zeroKey .dataProtection true]).isAuthenticated = true ∧
      (session.afterCalls [.authenticate zeroKey .dataProtection true]).tag.isAuthenticated = true ∧
      ∃ own theirs,
        (session.afterCalls [.authenticate zeroKey .dataProtection true]).channel? = some own ∧
        (session.afterCalls [.authenticate zeroKey .dataProtection true]).tag.channel? =
          some theirs ∧
        own.counter = theirs.counter := by
  have present : zeroKeyTag.lost = false := rfl
  have asks : zeroKeyTag.cmacEnabled = true := by decide +kernel
  obtain ⟨session, engine, finished, after, opened, free, made, agreement, accepted⟩ :=
    opened_agreement present rfl holds_zeroKey true ⟨fun _ => 0, 0⟩
  obtain ⟨final, ran, held, rfl⟩ := authenticate_agreed free made agreement
  have reached : session.afterCalls [.authenticate zeroKey .dataProtection true] = final := by
    show ((authenticate zeroKey .dataProtection true).run session).2 = final
    rw [ran]
  have together := authenticated_together_and_counting_alike opened
    [.authenticate zeroKey .dataProtection true]
  refine ⟨session, opened, ?_⟩
  rw [reached] at together ⊢
  obtain ⟨channel, own, theirs, _⟩ := accepted.shared ⟨rfl, asks⟩
  have ownHere := channel?_eq_some.mpr ⟨finished, held, own⟩
  have authenticatedHere := isAuthenticated_iff.mpr ⟨finished, held, accepted.byTerminal⟩
  exact ⟨authenticatedHere, together.1 authenticatedHere, channel, channel, ownHere, theirs,
    together.2.1 channel channel ownHere theirs⟩

end Session
end Wristband
