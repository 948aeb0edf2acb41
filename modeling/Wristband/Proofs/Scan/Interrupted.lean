import Wristband.Proofs.Scan.Parted
import Wristband.Proofs.Scan.Reflection

/-! A tag that gets out of reach while it is served. Up to that frame everything is as if it had stayed,
and with that frame everything ends: no error handler takes the loss for something else, and nothing
is sent any more. -/

namespace Wristband

inductive Interruption where
  | leaves
  | timesOut
deriving DecidableEq, Repr

def Interruption.error : Interruption → HardwareError
  | leaves => SimulatedTag.leftField
  | timesOut => .timeout SimulatedTag.silence

def Faults.interrupted (faults : Faults) (interruption : Interruption) (limit : Nat) : Faults :=
  match interruption with
  | .leaves => { faults with loseAfter := some limit }
  | .timesOut => { faults with timeOutAfter := some limit }

structure Faults.Stays (faults : Faults) : Prop where
  here : faults.loseAfter = .none
  answering : faults.timeOutAfter = .none

open Session

variable {tag : SimulatedTag} {family : ChipFamily} {random : RandomSource}
  {request : ScanRequest} {interruption : Interruption} {limit : Nat}
  {session after : Session SimulatedTag} {command frame : Bytes}

namespace SimulatedTag

private theorem transceive_stays (near : tag.hears = true) (stays : tag.faults.Stays) (frame : Bytes) :
    tag.transceive frame = (tag.heard frame).answerFrame frame :=
  transceive_within near (by rw [stays.here]; rfl) (by rw [stays.answering]; rfl) frame

private theorem interrupted_before (interruption : Interruption) (near : tag.hears = true)
    (stays : tag.faults.Stays) (early : tag.frames.length < limit) (frame : Bytes) :
    Agrees (·.withFaults (tag.faults.interrupted interruption limit)) tag frame := by
  have inside : exceeds (some limit) (tag.frames.length + 1) = false :=
    decide_eq_false (Nat.not_lt.mpr early)
  have near' : (tag.withFaults (tag.faults.interrupted interruption limit)).hears = true := near
  have stays' : exceeds (tag.faults.interrupted interruption limit).loseAfter
        (tag.frames.length + 1) = false ∧
      exceeds (tag.faults.interrupted interruption limit).timeOutAfter
        (tag.frames.length + 1) = false := by
    cases interruption with
    | leaves => exact ⟨inside, congrArg (exceeds · _) stays.answering⟩
    | timesOut => exact ⟨congrArg (exceeds · _) stays.here, inside⟩
  have rejects : (tag.faults.interrupted interruption limit).rejectAuthentication =
      (tag.heard frame).faults.rejectAuthentication := by
    cases interruption <;> rfl
  have spoils : ((tag.heard frame).withFaults (tag.faults.interrupted interruption limit)).Spoils ↔
      (tag.heard frame).Spoils := by
    cases interruption <;> exact Iff.rfl
  change (tag.withFaults _).transceive frame =
    ((tag.transceive frame).1, (tag.transceive frame).2.withFaults _)
  rw [transceive_within near' stays'.1 stays'.2 frame, transceive_stays near stays]
  exact answerFrame_withFaults rejects (fun _ => spoils) frame

private theorem interrupted_at (interruption : Interruption) (near : tag.hears = true)
    (stays : tag.faults.Stays) (last : tag.frames.length = limit) (frame : Bytes) :
    ∃ rest, (tag.withFaults (tag.faults.interrupted interruption limit)).transceive frame =
        (.error interruption.error, rest) ∧ rest.memory = tag.memory ∧
      rest.frames = tag.frames ++ [frame] ∧ rest.connects = tag.connects ∧
      rest.closes = tag.closes ∧ rest.sealedResponses = tag.sealedResponses := by
  have beyond : exceeds (some limit) (tag.frames ++ [frame]).length = true := by
    refine decide_eq_true ?_
    rw [List.length_append, List.length_singleton]
    omega
  obtain ⟨connected, here⟩ := Bool.and_eq_true_iff.mp near
  have present : ¬ tag.lost = true := by simpa using here
  have linked : ¬ (!tag.connected) = true := by simp [connected]
  cases interruption with
  | leaves =>
    refine ⟨((tag.heard frame).withFaults (tag.faults.interrupted .leaves limit)).remove, ?_,
      rfl, rfl, rfl, rfl, rfl⟩
    exact (if_neg present).trans ((if_neg linked).trans (if_pos beyond))
  | timesOut =>
    have stays' : ¬ exceeds tag.faults.loseAfter (tag.frames ++ [frame]).length = true := by
      rw [stays.here]
      exact Bool.false_ne_true
    refine ⟨(tag.heard frame).withFaults (tag.faults.interrupted .timesOut limit), ?_,
      rfl, rfl, rfl, rfl, rfl⟩
    exact (if_neg present).trans ((if_neg linked).trans ((if_neg stays').trans (if_pos beyond)))

end SimulatedTag

/-- The session is on a tag that has heard at most so many frames since it was as it is here, and every
connection but the last one was closed. -/
structure Within (tag : SimulatedTag) (limit : Nat) (session : Session SimulatedTag) : Prop where
  near : session.tag.hears = true
  faults : session.tag.faults = tag.faults
  early : session.tag.frames.length ≤ limit
  balanced : session.tag.connects + tag.closes = session.tag.closes + tag.connects + 1

/-- The frame that came too late for an interrupted tag, and how that tag was left. -/
structure CutOff (tag : SimulatedTag) (interruption : Interruption) (limit : Nat)
    (sent : Transmission SimulatedTag) (error : TagError) (rest : SimulatedTag) : Prop where
  late : sent.tag.frames.length = limit
  error : error = .hardware interruption.error
  memory : rest.memory = sent.tag.memory
  balanced : rest.connects + tag.closes = rest.closes + tag.connects + 1

private theorem Within.sending (within : Within tag limit session) (stays : tag.faults.Stays)
    (early : session.tag.frames.length < limit) (command frame : Bytes) :
    Within tag limit (session.sending command frame) := by
  have evolves := ((session.tag.heard frame).answerFrame_evolves frame).1
  have left : (session.sending command frame).tag = ((session.tag.heard frame).answerFrame frame).2 :=
    congrArg Prod.snd (SimulatedTag.transceive_stays within.near (within.faults ▸ stays) frame)
  constructor
  · rw [left, evolves.hears]
    exact within.near
  · rw [left, evolves.faults]
    exact within.faults
  · rw [left, evolves.frames]
    change (session.tag.frames ++ [frame]).length ≤ limit
    rw [List.length_append, List.length_singleton]
    exact early
  · rw [left, evolves]
    exact within.balanced

private theorem mirrors_sent (stays : tag.faults.Stays) (command frame : Bytes) :
    Mirrors (·.withFaults (tag.faults.interrupted interruption limit))
      (PartedAt (CutOff tag interruption limit)) (Within tag limit) (Within tag limit)
      (Within tag limit) (transmit command frame) (transmit command frame) where
  run session within := by
    have own : session.tag.faults.Stays := within.faults ▸ stays
    obtain early | last := Nat.lt_or_eq_of_le within.early
    · have agrees := SimulatedTag.interrupted_before interruption within.near own early frame
      rw [within.faults] at agrees
      rw [run_transmit_map agrees, run_transmit]
      have left := within.sending stays early command frame
      cases (NfcTag.transceive session.tag frame).1 with
      | ok => exact .done left
      | error => exact .failed left
    · obtain ⟨rest, silent, memory, frames, connects, closes, count⟩ :=
        SimulatedTag.interrupted_at interruption within.near own last frame
      rw [within.faults] at silent
      have heard : NfcTag.transceive (session.map
          (·.withFaults (tag.faults.interrupted interruption limit))).tag frame =
          (.error interruption.error, rest) := silent
      have left : ((session.map (·.withFaults (tag.faults.interrupted interruption limit))).sending
          command frame).tag = rest := congrArg Prod.snd heard
      have balanced : rest.connects + tag.closes = rest.closes + tag.connects + 1 := by
        rw [connects, closes]
        exact within.balanced
      rw [run_transmit, run_transmit, heard]
      apply Mirrored.parted
      rw [left]
      exact .now within.near ⟨last, rfl, memory, balanced⟩ frames
        (count ▸ session.tag.sealedResponses_transceive frame)
  steady session error rest apart := by
    rw [run_transmit]
    exact apart.sending command frame

private theorem mirrors_reconnect : Mirrors (·.withFaults (tag.faults.interrupted interruption limit))
    (PartedAt (CutOff tag interruption limit)) (Within tag limit) (Within tag limit)
    (Within tag limit) reconnect reconnect := by
  have forgets : Mirrors (·.withFaults (tag.faults.interrupted interruption limit))
      (PartedAt (CutOff tag interruption limit)) (Within tag limit) (Within tag limit)
      (Within tag limit)
      (modify fun session => { session with engine := none, auth0 := none } :
        SessionM SimulatedTag PUnit)
      (modify fun session => { session with engine := none, auth0 := none } :
        SessionM SimulatedTag PUnit) :=
    .modify (fun _ => rfl) (fun _ => rfl) (fun _ => rfl) fun _ within =>
      ⟨within.near, within.faults, within.early, within.balanced⟩
  have closes : Mirrors (·.withFaults (tag.faults.interrupted interruption limit))
      (PartedAt (CutOff tag interruption limit)) (Within tag limit)
      (fun session => session.tag.lost = false ∧
        Within tag limit { session with tag := session.tag.connect.2 })
      (Within tag limit) (closeTag (τ := SimulatedTag)) closeTag := by
    refine mirrors_closeTag fun session within => ?_
    obtain ⟨_, here⟩ := Bool.and_eq_true_iff.mp within.near
    have present : session.tag.lost = false := by simpa using here
    have again : session.tag.close.2.connect = (.ok (), { session.tag with
        authentication := .none
        connected := true
        connects := session.tag.connects + 1
        closes := session.tag.closes + 1 }) := by
      simp only [SimulatedTag.connect, SimulatedTag.close, SimulatedTag.unauthenticated, present,
        Bool.false_eq_true, if_false]
    refine ⟨present, ?_⟩
    dsimp only
    rw [again]
    refine ⟨?_, within.faults, within.early, ?_⟩
    · simp [SimulatedTag.hears, present]
    · have balanced := within.balanced
      dsimp only
      omega
  exact forgets.bind fun _ => closes.bind fun _ => mirrors_connectTag fun _ holds => holds

private theorem mirrors_interrupted (stays : tag.faults.Stays) (command : Bytes) :
    Mirrors (·.withFaults (tag.faults.interrupted interruption limit))
      (PartedAt (CutOff tag interruption limit)) (Within tag limit) (Within tag limit)
      (Within tag limit) (exchange command) (exchange command) :=
  mirrors_exchange (fun _ within => within)
    (fun frame => (mirrors_sent stays command frame).onStart fun _ holds => holds.1)
    fun _ _ within => ⟨⟨within.near, within.faults, within.early, within.balanced⟩,
      within.near, within.faults, within.early, within.balanced⟩

private theorem reflects_interrupted (stays : tag.faults.Stays) :
    Scan.ReflectsRequests (·.withFaults (tag.faults.interrupted interruption limit))
      (PartedAt (CutOff tag interruption limit)) (Within tag limit) := by
  have lost (own : SimulatedTag) (transcript : List (Transmission SimulatedTag)) (error : TagError)
      (rest : SimulatedTag)
      (parted : PartedAt (CutOff tag interruption limit) own transcript error rest) :
      error.isLost = true := by
    obtain ⟨sent, _, cut, _⟩ := parted.ending
    rw [cut.error]
    cases interruption <;> rfl
  have handshakes : ReflectsHandshakes (·.withFaults (tag.faults.interrupted interruption limit))
      (PartedAt (CutOff tag interruption limit)) (Within tag limit) (Within tag limit) :=
    { weaken := fun _ within => within
      step := fun _ _ within => ⟨within.near, within.faults, within.early, within.balanced⟩
      engine := fun _ _ within => ⟨within.near, within.faults, within.early, within.balanced⟩
      random := fun _ _ within => ⟨within.near, within.faults, within.early, within.balanced⟩
      challenge := fun command _ => mirrors_interrupted stays command
      answer := fun command _ => mirrors_interrupted stays command
      lost := lost }
  exact
    { weaken := fun _ within => within
      request := fun command _ => mirrors_interrupted stays command
      learn := fun _ _ within => ⟨within.near, within.faults, within.early, within.balanced⟩
      authenticate := handshakes.authenticate
      reconnect := mirrors_reconnect
      lost := lost
      sameId := fun _ => rfl }

/-- What is served of a request that an interruption cuts off, next to the whole of it. -/
structure ServedUpTo (tag : SimulatedTag) (interruption : Interruption) (limit : Nat)
    (whole cut : ScanResult × Served SimulatedTag) : Prop where
  result : cut.1 = .fail ⟨.lost, interruption.error.message⟩
  frames : cut.2.tag.frames = whole.2.tag.frames.take (limit + 1)
  memory : ∃ sent ∈ whole.2.transcript, sent.tag.frames = whole.2.tag.frames.take limit ∧
    cut.2.tag.memory = sent.tag.memory
  disconnected : cut.2.tag.connected = false
  balanced : cut.2.tag.connects + tag.closes = cut.2.tag.closes + tag.connects

private theorem opened_within (present : tag.lost = false) (early : tag.frames.length ≤ limit)
    (family : ChipFamily) (random : RandomSource) :
    Within tag limit (opened tag family random) where
  near := SimulatedTag.hears_of_connected rfl present
  faults := rfl
  early := early
  balanced := by
    change tag.connects + 1 + tag.closes = tag.closes + tag.connects + 1
    omega

private theorem serve_interrupted (stays : tag.faults.Stays) (early : tag.frames.length ≤ limit) :
    (serve tag family random request).2.tag.frames.length ≤ limit ∧
        (serve (tag.withFaults (tag.faults.interrupted interruption limit)) family random
          request).1 = (serve tag family random request).1 ∧
        (serve (tag.withFaults (tag.faults.interrupted interruption limit)) family random
            request).2.tag = (serve tag family random request).2.tag.withFaults
          (tag.faults.interrupted interruption limit) ∨
      limit < (serve tag family random request).2.tag.frames.length ∧
        ServedUpTo tag interruption limit (serve tag family random request)
          (serve (tag.withFaults (tag.faults.interrupted interruption limit)) family random
            request) := by
  cases lost : tag.lost with
  | true =>
    have lost' : (tag.withFaults (tag.faults.interrupted interruption limit)).lost = true := lost
    rw [serve_absent lost, serve_absent lost']
    exact .inl ⟨early, rfl, rfl⟩
  | false =>
    obtain ⟨after, within, left, result, same⟩ | ⟨error, rest, parted, result, left⟩ :=
      serve_mirrored ((reflects_interrupted stays).execute request) lost
        (opened_within lost early family random)
    · exact .inl ⟨left ▸ within.early, result, same⟩
    · obtain ⟨⟨sent, listed, cut, last⟩, begun, _⟩ := parted
      have count : rest.frames.length = limit + 1 := by
        rw [last, List.length_append, List.length_singleton, cut.late]
      have frames := List.prefix_iff_eq_take.mp begun
      rw [count] at frames
      refine .inr ⟨Nat.lt_of_lt_of_le (Nat.lt_of_lt_of_eq limit.lt_succ_self count.symm)
        begun.length_le, ?_⟩
      constructor
      · rw [result, cut.error]
        cases interruption <;> rfl
      · rw [left]
        exact frames
      · refine ⟨sent, listed, ?_, ?_⟩
        · have earlier : sent.tag.frames <+: _ :=
            (List.prefix_append _ [sent.frame]).trans (last ▸ begun)
          exact cut.late ▸ List.prefix_iff_eq_take.mp earlier
        · rw [left]
          exact cut.memory
      · rw [left]
        rfl
      · rw [left]
        have balanced := cut.balanced
        change rest.connects + tag.closes = rest.closes + 1 + tag.connects
        omega

/-- However a tag gets out of reach, and wherever in a request: if the request is over by then, nothing
is different. Otherwise the caller is told that the tag was lost, the frame that came too late was the
last one, and the tag is left as that frame found it. A new tag has heard no frames yet. -/
theorem lost_tag_cuts_request_off (tag : SimulatedTag) (family : ChipFamily)
    (random : RandomSource) (request : ScanRequest) (interruption : Interruption) (limit : Nat)
    (stays : tag.faults.Stays) (early : tag.frames.length ≤ limit) :
    let whole := serve tag family random request
    let cut := serve (tag.withFaults (tag.faults.interrupted interruption limit)) family random
      request
    (whole.2.tag.frames.length ≤ limit → cut.1 = whole.1 ∧
        cut.2.tag.frames = whole.2.tag.frames ∧ cut.2.tag.memory = whole.2.tag.memory) ∧
      (limit < whole.2.tag.frames.length → ServedUpTo tag interruption limit whole cut) := by
  intro whole cut
  obtain ⟨done, result, same⟩ | ⟨more, served⟩ := serve_interrupted stays early
  · refine ⟨fun _ => ⟨result, ?_, ?_⟩, fun more => absurd more (Nat.not_lt.mpr done)⟩
    · exact (congrArg SimulatedTag.frames same).trans rfl
    · exact (congrArg SimulatedTag.memory same).trans rfl
  · exact ⟨fun done => absurd done (Nat.not_le.mpr more), fun _ => served⟩

/-- A tag that falls silent after the identifier was read. -/
theorem silent_tag_cuts_read_off :
    (serve ((SimulatedTag.ultralight [0x04, 0x11, 0x22, 0x33, 0x44, 0x55, 0x66]).withFaults
        (Faults.none.interrupted .timesOut 1)) .ultralight ⟨fun _ => 0, 0⟩
      (.read 4 none false)).1 = .fail ⟨.lost, "Operation timeout after 300ms"⟩ := by
  have longer : 1 < (serve (SimulatedTag.ultralight [0x04, 0x11, 0x22, 0x33, 0x44, 0x55, 0x66])
      .ultralight ⟨fun _ => 0, 0⟩ (.read 4 none false)).2.tag.frames.length := by
    decide +kernel
  exact ((lost_tag_cuts_request_off (SimulatedTag.ultralight
    [0x04, 0x11, 0x22, 0x33, 0x44, 0x55, 0x66]) .ultralight ⟨fun _ => 0, 0⟩ (.read 4 none false)
    .timesOut 1 ⟨rfl, rfl⟩ (Nat.zero_le 1)).2 longer).result

end Wristband
