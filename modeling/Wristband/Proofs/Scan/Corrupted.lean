import Wristband.Proofs.Scan.Parted
import Wristband.Proofs.Scan.Reflection
import Wristband.Proofs.Tag.SpoiltCode

/-! A response whose code is spoilt. Up to it everything is as on a tag without faults, and with it the
request ends: the command is not sent again, nothing is sent without a code, and what the tag has done
for the command stays. -/

namespace Wristband

/-- The command to which a response with a spoilt code came, and how the tag was left. -/
structure SpoiltAt (tag : SimulatedTag) (response : Nat) (sent : Transmission SimulatedTag)
    (error : TagError) (rest : SimulatedTag) : Prop where
  before : sent.tag.sealedResponses + 1 = response
  counted : (sent.tag.transceive sent.frame).2.sealedResponses = response
  error : error = .protocol .cmacMismatch
  left : rest = (sent.tag.transceive sent.frame).2.withFaults (.spoiling response)
  connects : rest.connects = tag.connects + 1
  closes : rest.closes = tag.closes

namespace Session

variable {tag : SimulatedTag} {random : RandomSource} {request : ScanRequest} {response : Nat}
  {session after : Session SimulatedTag} {command frame : Bytes}

structure Awaits (tag : SimulatedTag) (response : Nat) (session : Session SimulatedTag) : Prop where
  fewer : session.tag.sealedResponses < response
  connects : session.tag.connects = tag.connects + 1
  closes : session.tag.closes = tag.closes

structure Shares (tag : SimulatedTag) (response : Nat) (session : Session SimulatedTag) : Prop
    extends Awaits tag response session where
  ready : session.tag.Ready
  channel : ∃ channel, session.channel? = some channel ∧ session.tag.channel? = some channel ∧
    channel.sessionKey.length = 16

private theorem Shares.connection (shares : session.Shares tag response) (command frame : Bytes) :
    (session.sending command frame).tag.connects = tag.connects + 1 ∧
      (session.sending command frame).tag.closes = tag.closes := by
  have evolves := ((session.tag.heard frame).answerFrame_evolves frame).1
  have left : (session.sending command frame).tag = ((session.tag.heard frame).answerFrame frame).2 :=
    congrArg Prod.snd
      (SimulatedTag.transceive_faultless shares.ready.near shares.ready.faultless frame)
  rw [left, evolves]
  exact ⟨shares.connects, shares.closes⟩

private theorem received_several {bytes : Bytes} (several : bytes.length ≠ 1)
    (session : Session SimulatedTag) (channel : SecureChannel) : session.received channel bytes =
      match channel.openResponse bytes with
      | .ok (payload, next) => (.ok payload, session.setChannel next)
      | .error error => (.error (.protocol error), session.dropAuthentication) := by
  rcases bytes with _ | ⟨status, _ | ⟨second, rest⟩⟩
  · rfl
  · exact absurd rfl several
  · rfl

section

variable {channel : SecureChannel} (fresh : channel.counter ≠ SecureChannel.lastCounter)
  (sized : channel.sessionKey.length = 16) (session : Session SimulatedTag) (payload : Bytes)
include fresh sized

omit fresh in
private theorem several_coded :
    (payload ++ channel.code (channel.counter + 1) payload).length ≠ 1 := by
  rw [List.length_append, channel.length_code sized]
  exact Nat.ne_of_gt (Nat.lt_of_lt_of_le (by decide : 1 < 8) (Nat.le_add_left 8 _))

private theorem received_answered :
    session.received channel (payload ++ channel.code (channel.counter + 1) payload) =
      (.ok payload, session.setChannel channel.advanced) := by
  rw [received_several (several_coded sized payload),
    SecureChannel.openResponse_ok fresh sized payload]

private theorem received_spoilt :
    session.received channel
        (SimulatedTag.spoilLast (payload ++ channel.code (channel.counter + 1) payload)) =
      (.error (.protocol .cmacMismatch), session.dropAuthentication) := by
  have several := several_coded sized payload
  rw [← SimulatedTag.length_spoilLast] at several
  rw [received_several several, SimulatedTag.openResponse_spoilt fresh sized payload]

end

private theorem Shares.receives {channel : SecureChannel} (shares : session.Shares tag response)
    (active : session.channel? = some channel) (activeTag : session.tag.channel? = some channel)
    (sized : channel.sessionKey.length = 16) (fresh : channel.counter ≠ SecureChannel.lastCounter)
    (request : Frame.IsRequest command)
    (sealed_ : frame = command ++ channel.code channel.counter command) :
    ∃ bytes bytes', (NfcTag.transceive session.tag frame).1 = .ok bytes ∧
      (NfcTag.transceive (session.tag.withFaults (.spoiling response)) frame).1 = .ok bytes' ∧
      Mirrored (·.withFaults (.spoiling response)) (PartedAt (SpoiltAt tag response))
        (Shares tag response) (Awaits tag response)
        ((session.sending command frame).received channel bytes)
        (((session.map (·.withFaults (.spoiling response))).sending command frame).received
          channel bytes') := by
  have coded := shares.ready.answers_coded activeTag fresh sized request response
  have connection := shares.connection command frame
  have ready := shares.ready.transceive frame
  rw [← sealed_] at coded
  generalize own : session.tag.transceive frame = answer,
    other : (session.tag.withFaults (.spoiling response)).transceive frame = answer' at coded
  have left : (session.sending command frame).tag = answer.2 := congrArg Prod.snd own
  have sent (same : answer'.2 = answer.2.withFaults (.spoiling response)) :
      (session.map (·.withFaults (.spoiling response))).sending command frame =
        (session.sending command frame).map (·.withFaults (.spoiling response)) := by
    refine sending_map ?_ command
    change ((session.tag.withFaults (.spoiling response)).transceive frame).2 =
      (session.tag.transceive frame).2.withFaults (.spoiling response)
    rw [own, other, same]
  cases coded with
  | refused count =>
    refine ⟨_, _, congrArg Prod.fst own, congrArg Prod.fst other, ?_⟩
    rw [sent rfl]
    refine .failed ⟨?_, connection.1, connection.2⟩
    change (session.sending command frame).tag.sealedResponses < response
    rw [left, count]
    exact shares.fewer
  | answered count advanced others =>
    refine ⟨_, _, congrArg Prod.fst own, congrArg Prod.fst other, ?_⟩
    rw [sent rfl, received_answered fresh sized, received_answered fresh sized]
    refine .done ⟨⟨?_, connection.1, connection.2⟩, ready, channel.advanced,
      channel?_setChannel active _, ?_, sized⟩
    · change (session.sending command frame).tag.sealedResponses < response
      rw [left, count]
      exact Nat.lt_of_le_of_ne shares.fewer fun same => others (same.symm.trans count.symm)
    · change (session.sending command frame).tag.channel? = _
      rw [left]
      exact advanced
  | spoilt count advanced this =>
    refine ⟨_, _, congrArg Prod.fst own, congrArg Prod.fst other, ?_⟩
    rw [sent rfl, received_answered fresh sized, received_spoilt fresh sized]
    refine .parted (.now shares.ready.near
      ⟨count.symm.trans this.symm, ?_, rfl, rfl, connection.1, connection.2⟩ ?_ (Nat.le_refl _))
    · change (session.sending command frame).tag.sealedResponses = response
      rw [left]
      exact this.symm
    · change (session.tag.transceive frame).2.frames = _
      rw [SimulatedTag.frames_transceive, if_pos shares.ready.near]

private theorem mirrors_shared (request : Frame.IsRequest command) :
    Mirrors (·.withFaults (.spoiling response)) (PartedAt (SpoiltAt tag response))
      (Shares tag response) (Shares tag response) (Awaits tag response) (exchange command)
      (exchange command) where
  run session shares := by
    obtain ⟨channel, active, activeTag, sized⟩ := shares.channel
    have active' : (session.map (·.withFaults (.spoiling response))).channel? = some channel := active
    by_cases exhausted : channel.counter = SecureChannel.lastCounter
    · have refused := SecureChannel.sealCommand_exhausted exhausted command
      rw [run_exchange_exhausted active refused, run_exchange_exhausted active' refused]
      exact .failed shares.toAwaits
    · have sealed_ := SecureChannel.sealCommand_ok exhausted command
      obtain ⟨bytes, bytes', heard, heard', ends⟩ :=
        shares.receives active activeTag sized exhausted request rfl
      rw [run_exchange_sealed active sealed_ heard, run_exchange_sealed active' sealed_ heard']
      exact ends
  steady session error rest apart := by
    have sent := exchange_exchanged session command
    unfold Ensures at sent
    rcases ran : (exchange command).run session with ⟨_ | _, after⟩ <;> rw [ran] at sent <;>
      exact apart.exchanged sent

/-- The tag has no channel yet, so it seals nothing. -/
structure Greets (tag : SimulatedTag) (response : Nat) (session : Session SimulatedTag) : Prop
    extends Awaits tag response session where
  ready : session.tag.Ready
  open_ : session.tag.channel? = none

private theorem Greets.agrees (greets : session.Greets tag response) (frame : Bytes) :
    Agrees (·.withFaults (.spoiling response)) session.tag frame := by
  have near' : (session.tag.withFaults (.spoiling response)).hears = true := greets.ready.near
  have open_' : ((session.tag.withFaults (.spoiling response)).heard frame).channel? = none :=
    greets.open_
  have rejects : (Faults.spoiling response).rejectAuthentication =
      (session.tag.heard frame).faults.rejectAuthentication := by
    change _ = session.tag.faults.rejectAuthentication
    rw [greets.ready.faultless]
    rfl
  change (session.tag.withFaults (.spoiling response)).transceive frame =
    ((session.tag.transceive frame).1, (session.tag.transceive frame).2.withFaults _)
  rw [greets.ready.transceive_plain greets.open_, SimulatedTag.transceive_within near' rfl rfl,
    SimulatedTag.answerFrame_plain open_']
  exact SimulatedTag.answerCommand_withFaults rejects
    (fun through => absurd through Bool.false_ne_true) frame

private theorem Greets.awaits (greets : session.Greets tag response) (command frame : Bytes) :
    (session.sending command frame).Awaits tag response := by
  have left : (session.sending command frame).tag =
      ((session.tag.heard frame).answerCommand false frame).2 :=
    congrArg Prod.snd (greets.ready.transceive_plain greets.open_ frame)
  have evolves := ((session.tag.heard frame).answerCommand_evolves false frame).1
  have count : ((session.tag.heard frame).answerCommand false frame).2.sealedResponses =
      session.tag.sealedResponses := by
    have same := (session.tag.heard frame).sealedResponses_execute frame
    unfold SimulatedTag.answerCommand
    rcases executed : (session.tag.heard frame).execute frame with ⟨payload | code, after⟩ <;>
      rw [executed] at same <;> exact same
  constructor
  · rw [left, count]
    exact greets.fewer
  · rw [left, evolves]
    exact greets.connects
  · rw [left, evolves]
    exact greets.closes

private theorem Greets.challenged (greets : session.Greets tag response) (command : Bytes)
    (head : frame.head? = some CommandCode.authenticate.code) :
    (session.sending command frame).Greets tag response where
  toAwaits := greets.awaits command frame
  ready := greets.ready.transceive frame
  open_ := by
    have left : (session.sending command frame).tag =
        ((session.tag.heard frame).answerCommand false frame).2 :=
      congrArg Prod.snd (greets.ready.transceive_plain greets.open_ frame)
    rw [left]
    obtain nak | ⟨⟨payload, data⟩, open_⟩ :=
      (session.tag.heard frame).execute_challenge List.prefix_rfl head
    · rw [SimulatedTag.answerCommand_refused nak]
      rfl
    · rw [SimulatedTag.answerCommand_unsealed data fun _ => open_]
      exact open_

private theorem Carries.head {τ : Type} {session : Session τ} (carries : session.Carries command frame)
    {first : UInt8} (head : command.head? = some first) : frame.head? = some first := by
  obtain ⟨code, rfl⟩ := carries.exists_code
  rw [List.head?_append, head]
  rfl

private theorem reflects_greeting : ReflectsHandshakes (·.withFaults (.spoiling response)) .never
    (Greets tag response) (Awaits tag response) where
  weaken _ greets := greets.toAwaits
  step _ _ greets := ⟨⟨greets.fewer, greets.connects, greets.closes⟩, greets.ready, greets.open_⟩
  engine _ _ awaits := ⟨awaits.fewer, awaits.connects, awaits.closes⟩
  random _ _ greets := ⟨⟨greets.fewer, greets.connects, greets.closes⟩, greets.ready, greets.open_⟩
  challenge command head := by
    refine mirrors_exchange (fun _ greets => greets.toAwaits) (fun frame => mirrors_transmit
      (fun _ holds => holds.1.agrees frame) fun session holds => ?_) fun _ _ greets => ?_
    · exact ⟨holds.1.challenged command (holds.2.head head), holds.1.awaits command frame⟩
    · exact ⟨⟨⟨greets.fewer, greets.connects, greets.closes⟩, greets.ready, greets.open_⟩,
        greets.fewer, greets.connects, greets.closes⟩
  answer command head := by
    refine mirrors_exchange (fun _ greets => greets.toAwaits) (fun frame => mirrors_transmit
      (fun _ holds => holds.1.agrees frame) fun session holds => ?_) fun _ _ awaits => ?_
    · exact ⟨holds.1.awaits command frame, holds.1.awaits command frame⟩
    · exact ⟨⟨awaits.fewer, awaits.connects, awaits.closes⟩, awaits.fewer, awaits.connects,
        awaits.closes⟩
  lost _ _ _ _ never := never.elim

/-- The key that the tag holds opens the same channel on both tags. -/
theorem mirrors_held (present : tag.lost = false) (faultless : tag.faults = .none)
    (coded : tag.cmacEnabled = true) {key : AuthKey} (held : tag.Holds key .dataProtection)
    (early : tag.sealedResponses < response) (random : RandomSource) :
    Mirrors (·.withFaults (.spoiling response)) (PartedAt (SpoiltAt tag response))
      (· = opened tag tag.family random) (Shares tag response) (Awaits tag response)
      (authenticate key .dataProtection true) (authenticate key .dataProtection true) where
  run := by
    rintro _ rfl
    have greets : (opened tag tag.family random).Greets tag response :=
      { fewer := early, connects := rfl, closes := rfl
        ready := (opened_attends present faultless random).ready
        open_ := rfl }
    have alike := (reflects_greeting.authenticate key .dataProtection true).run _ greets
    obtain ⟨final, ran, recognised, asked, _, shared⟩ :=
      opened_held present faultless random held true
    rw [ran] at alike ⊢
    generalize (authenticate key .dataProtection true).run
      ((opened tag tag.family random).map (·.withFaults (.spoiling response))) = result at alike ⊢
    cases alike with
    | parted never => exact never.elim
    | done awaits =>
      refine .done ⟨awaits, recognised.ready, ?_⟩
      rw [SimulatedTag.family, SimulatedTag.chip_of_cmacEnabled coded] at asked
      obtain ⟨channel, active⟩ := Option.isSome_iff_exists.mp asked
      exact ⟨channel, active, (shared rfl coded).trans active, recognised.sized channel active⟩
  steady session error rest apart := by
    have stays : Handshakes fun session : Session SimulatedTag =>
        PartedAt (SpoiltAt tag response) session.tag session.transcript error rest :=
      { engine := fun _ _ apart => apart
        random := fun _ _ apart => apart
        step := fun command _ _ apart => exchange_leaves fun _ _ exchanged =>
          apart.exchanged exchanged }
    exact ((stays.authenticate key .dataProtection true session apart).weaken
      (fun _ _ left => left.1) fun _ _ left => left).after

theorem reflects_shared : Reflects (·.withFaults (.spoiling response))
    (PartedAt (SpoiltAt tag response)) (Shares tag response) (Awaits tag response) where
  weaken _ shares := shares.toAwaits
  request _ := mirrors_shared
  learn _ _ shares :=
    ⟨⟨shares.fewer, shares.connects, shares.closes⟩, shares.ready, shares.channel⟩

end Session
end Wristband
