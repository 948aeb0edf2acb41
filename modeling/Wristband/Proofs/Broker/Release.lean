import Wristband.Proofs.Broker.Delivery
import Wristband.Proofs.Scan.Closing
import Wristband.Tag.Recorded
import Wristband.Tag.Simulated.Build

/-! What a presence leaves behind. Whether a request goes through all its steps, ends at some error or
cannot even connect, the link is released as often as it was taken, and the broker hears of the request
once. -/

namespace Wristband

open Session

/-- Every attempt to connect is followed by a close of its own, with nothing but frames in between. -/
inductive Bracketed : List LinkEvent → Prop where
  | nothing : Bracketed []
  | bracket {events : List LinkEvent} (before : Bracketed events)
      (outcome : Except HardwareError Unit) (frames : List (Bytes × Except HardwareError Bytes)) :
      Bracketed (events ++ .connect outcome :: frames.map (fun sent => .exchange sent.1 sent.2) ++
        [.close (.ok ())])

inductive Unreleased : List LinkEvent → Prop where
  | waits {events : List LinkEvent} (before : Bracketed events)
      (outcome : Except HardwareError Unit) (frames : List (Bytes × Except HardwareError Bytes)) :
      Unreleased (events ++ .connect outcome :: frames.map (fun sent => .exchange sent.1 sent.2))

variable {events : List LinkEvent}

private theorem Bracketed.connect (bracketed : Bracketed events) (outcome : Except HardwareError Unit) :
    Unreleased (events ++ [.connect outcome]) := .waits bracketed outcome []

private theorem Unreleased.exchange (unreleased : Unreleased events) (frame : Bytes)
    (outcome : Except HardwareError Bytes) : Unreleased (events ++ [.exchange frame outcome]) := by
  cases unreleased with
  | waits before connected frames =>
    have longer := Unreleased.waits before connected (frames ++ [(frame, outcome)])
    rw [List.map_append] at longer
    rwa [List.append_assoc, List.cons_append]

private theorem Unreleased.close (unreleased : Unreleased events) :
    Bracketed (events ++ [.close (.ok ())]) := by
  cases unreleased with
  | waits before connected frames => exact .bracket before connected frames

namespace RecordedTag

variable {link : RecordedTag SimulatedTag}

private theorem close_eq (faultless : link.closeErrors = []) : NfcTag.close link =
    (.ok (), { link with
      tag := link.tag.close.2
      closes := link.closes + 1
      events := link.events ++ [.close (.ok ())] }) := by
  change link.close = _
  unfold RecordedTag.close
  rw [faultless]
  rfl

/-- The tag can be given back: the link is closed, and the tag has forgotten the terminal. -/
structure Released (link : RecordedTag SimulatedTag) : Prop where
  bracketed : Bracketed link.events
  last : link.events.getLast? = some (.close (.ok ()))
  disconnected : link.tag.connected = false
  strange : link.tag.authentication = .none

structure Held (link : RecordedTag SimulatedTag) : Prop where
  faultless : link.closeErrors = []
  unreleased : Unreleased link.events

private theorem Held.close (held : link.Held) : (NfcTag.close link).2.Released := by
  rw [close_eq held.faultless]
  exact ⟨held.unreleased.close, List.getLast?_concat, rfl, rfl⟩

private theorem held_connect (faultless : link.closeErrors = []) (bracketed : Bracketed link.events) :
    (NfcTag.connect link).2.Held :=
  ⟨faultless, bracketed.connect _⟩

private theorem Held.transceive (held : link.Held) (frame : Bytes) :
    (NfcTag.transceive link frame).2.Held :=
  ⟨held.faultless, held.unreleased.exchange frame _⟩

end RecordedTag

namespace Session

/-- Whatever a request does on a link that it holds, it goes on to hold it. -/
theorem persists_held :
    Persists fun session : Session (RecordedTag SimulatedTag) => session.tag.Held where
  exchange command session held := exchange_leaves fun _ after exchanged => by
    obtain ⟨sameTag, _⟩ | ⟨frame, _, sameTag, _⟩ := exchanged.transmission
    · rw [sameTag]
      exact held
    · rw [sameTag]
      exact held.transceive frame
  engine _ _ held := held
  learn _ _ held := held
  random _ _ held := held
  reconnect session held := by
    have closed := RecordedTag.close_eq held.faultless
    refine reconnect_leaves (fun error failed => ?_) (RecordedTag.held_connect ?_ ?_)
    · rw [closed] at failed
      cases failed
    · rw [closed]
      exact held.faultless
    · exact held.close.bracketed

end Session

open RecordedTag

private theorem probe_released (tag : SimulatedTag) : (probe (ofTag tag)).Released :=
  (held_connect rfl .nothing).close

private theorem serve_released (tag : SimulatedTag) (family : ChipFamily) (random : RandomSource)
    (request : ScanRequest) :
    (serve (ofTag tag) family random request).2.tag.Released := by
  have held : (NfcTag.connect (ofTag tag)).2.Held := held_connect rfl .nothing
  rcases connected : NfcTag.connect (ofTag tag) with ⟨error | _, link⟩ <;> rw [connected] at held
  · have refused : openOn (ofTag tag) family random =
        .error (.hardware error, (NfcTag.close link).2) := by
      unfold openOn
      rw [connected]
    have left : (serve (ofTag tag) family random request).2.tag = (NfcTag.close link).2 := by
      unfold serve
      rw [refused]
    rw [left]
    exact held.close
  · have opened : openOn (ofTag tag) family random =
        .ok ⟨link, family, none, none, false, random, []⟩ := by
      unfold openOn
      rw [connected]
    rw [serve_opened opened]
    exact (persists_held.execute request _ held).after.close

private theorem Broker.statusChanges_complete (broker : Broker) (ticket : Ticket) (result : ScanResult) :
    (broker.complete ticket result).statusChanges = broker.statusChanges + 1 := by
  have dropped : (broker.dropRequest ticket).statusChanges = broker.statusChanges := by
    unfold Broker.dropRequest
    split <;> rfl
  unfold Broker.complete
  rw [← dropped]
  dsimp only
  split <;> rfl

/-- The dispatcher serves tags with these technologies. -/
def IsServable (technologies : List Technology) : Prop :=
  Technology.nfcA ∈ technologies ∧ (Technology.family? technologies).isSome = true

structure ServedPresence (steps : List BrokerStep)
    (handled : Broker × Served (RecordedTag SimulatedTag)) : Prop where
  released : handled.2.tag.Released
  probed : (Traffic.run steps).broker.request = none →
    handled.1 = (Traffic.run (steps ++ [.take])).broker
  completed : ∀ scan, (Traffic.run steps).broker.request = some scan → ∃ result,
    handled.1 = (Traffic.run (steps ++ [.take, .complete scan.ticket result])).broker ∧
      handled.1.statusChanges = (Traffic.run steps).broker.statusChanges + 1

structure RefusedPresence (steps : List BrokerStep) (tag : SimulatedTag)
    (handled : Broker × Served (RecordedTag SimulatedTag)) : Prop where
  untouched : handled.2.tag = ofTag tag
  cleared : handled.1.request = none
  published : ∃ reason,
    handled.1 = (Traffic.run (steps ++ [.publish (.fail ⟨.incompatible, reason⟩)])).broker ∧
      ∀ scan, (Traffic.run steps).broker.request = some scan →
        handled.1.result = some (scan.ticket, .fail ⟨.incompatible, reason⟩)

private theorem publish_refuses (steps : List BrokerStep) (tag : SimulatedTag) (random : RandomSource)
    (reason : String) : RefusedPresence steps tag
      ((Traffic.run steps).broker.publishResult (.fail ⟨.incompatible, reason⟩),
        ⟨ofTag tag, random, []⟩) := by
  obtain ⟨stage, at_, _⟩ := Traffic.run_recorded steps
  have after := at_.broker.publishResult (.fail ⟨.incompatible, reason⟩)
  refine ⟨rfl, ?_, reason, ?_, fun scan pending => ?_⟩
  · rw [after.request]
    cases stage <;> rfl
  · rw [Traffic.run_append]
    rfl
  · rw [at_.broker.request] at pending
    rw [after.result]
    cases stage with
    | queued queued =>
      cases pending
      rfl
    | free | taken | answered => cases pending

section
variable {σ : Type} [NfcTag σ] {tag : σ} {family : ChipFamily}

theorem handleTag_idle (near : Technology.nfcA ∈ NfcTag.technologies tag)
    (known : Technology.family? (NfcTag.technologies tag) = some family) {broker : Broker}
    (idle : broker.request = none) (random : RandomSource) :
    broker.handleTag tag random = (broker.takeRequest.2, ⟨probe tag, random, []⟩) := by
  unfold Broker.handleTag Broker.takeRequest
  dsimp only
  rw [if_neg (Classical.not_not.mpr near), known, idle]

theorem handleTag_busy (near : Technology.nfcA ∈ NfcTag.technologies tag)
    (known : Technology.family? (NfcTag.technologies tag) = some family) {broker : Broker}
    {scan : PendingScan} (pending : broker.request = some scan) (random : RandomSource) :
    broker.handleTag tag random =
      (broker.takeRequest.2.complete scan.ticket (serve tag family random scan.request).1,
        (serve tag family random scan.request).2) := by
  unfold Broker.handleTag Broker.takeRequest
  dsimp only
  rw [if_neg (Classical.not_not.mpr near), known, pending]

end

private theorem handleTag_served {tag : SimulatedTag} (servable : IsServable tag.technologies)
    (steps : List BrokerStep) (random : RandomSource) :
    ServedPresence steps ((Traffic.run steps).broker.handleTag (ofTag tag) random) := by
  obtain ⟨near, known⟩ := servable
  obtain ⟨family, known⟩ := Option.isSome_iff_exists.mp known
  cases pending : (Traffic.run steps).broker.request with
  | none =>
    rw [handleTag_idle near known pending]
    refine ⟨probe_released tag, fun _ => ?_, fun scan some_ => ?_⟩
    · rw [Traffic.run_append]
      simp only [List.foldl_cons, List.foldl_nil, Traffic.step, Broker.takeRequest, pending]
    · rw [pending] at some_
      cases some_
  | some scan =>
    rw [handleTag_busy near known pending]
    refine ⟨serve_released tag family random scan.request, fun none_ => ?_, fun taken same => ?_⟩
    · rw [pending] at none_
      cases none_
    · rw [pending] at same
      cases same
      refine ⟨(serve (ofTag tag) family random scan.request).1, ?_, ?_⟩
      · rw [Traffic.run_append]
        simp only [List.foldl_cons, List.foldl_nil, Traffic.step, Broker.takeRequest, pending,
          Traffic.record]
      · exact Broker.statusChanges_complete _ _ _

private theorem handleTag_refused {tag : SimulatedTag} (other : ¬ IsServable tag.technologies)
    (steps : List BrokerStep) (random : RandomSource) :
    RefusedPresence steps tag ((Traffic.run steps).broker.handleTag (ofTag tag) random) := by
  unfold Broker.handleTag
  dsimp only
  split
  · exact publish_refuses steps tag random _
  next near =>
    have unknown : Technology.family? (NfcTag.technologies (ofTag tag)) = none := by
      apply Option.isNone_iff_eq_none.mp
      apply Option.isSome_eq_false_iff.mp
      apply eq_false_of_ne_true
      intro known
      exact other ⟨Classical.not_not.mp near, known⟩
    rw [unknown]
    exact publish_refuses steps tag random _

/-- However a presence goes, what was taken is given back. A new tag that can be served is connected
and closed in turns, and is closed in the end, and a request that was taken is completed once. A tag
that cannot be served is left alone, and whoever waits is told so. -/
theorem presence_is_released_and_answered (steps : List BrokerStep) (tag : SimulatedTag)
    (random : RandomSource) (unconnected : tag.connected = false)
    (strange : tag.authentication = .none) :
    let handled := (Traffic.run steps).broker.handleTag (ofTag tag) random
    (IsServable tag.technologies → ServedPresence steps handled) ∧
      (¬ IsServable tag.technologies → RefusedPresence steps tag handled) ∧
      handled.2.tag.tag.connected = false ∧ handled.2.tag.tag.authentication = .none := by
  by_cases servable : IsServable tag.technologies
  · have served := handleTag_served servable steps random
    exact ⟨fun _ => served, fun other => absurd servable other, served.released.disconnected,
      served.released.strange⟩
  · have refused := handleTag_refused servable steps random
    refine ⟨fun able => absurd able servable, fun _ => refused, ?_, ?_⟩
    · exact (congrArg (·.tag.connected) refused.untouched).trans unconnected
    · exact (congrArg (·.tag.authentication) refused.untouched).trans strange

/-- A tag that has left the field before it is connected is closed all the same, and one without NFC-A is
not even connected. -/
theorem absent_and_foreign_tags_are_answered :
    let tag := SimulatedTag.ultralight [0x04, 0x11, 0x22, 0x33, 0x44, 0x55, 0x66]
    let broker := (Traffic.run [.poll (.created .fastRead)]).broker
    let absent := broker.handleTag (ofTag tag.remove) ⟨fun _ => 0, 0⟩
    let foreign := broker.handleTag (ofTag (tag.withTechnologies [.nfcB])) ⟨fun _ => 0, 0⟩
    absent.2.tag.Released ∧ absent.1.statusChanges = 2 ∧ foreign.2.tag.events = [] ∧
      ∃ reason, foreign.1.result = some (1, .fail ⟨.incompatible, reason⟩) := by
  intro tag broker absent foreign
  have near : IsServable tag.remove.technologies := ⟨by decide, by decide⟩
  have far : ¬ IsServable (tag.withTechnologies [.nfcB]).technologies := by
    rintro ⟨near, _⟩
    exact absurd near (by decide)
  have served := (presence_is_released_and_answered [.poll (.created .fastRead)] tag.remove
    ⟨fun _ => 0, 0⟩ rfl rfl).1 near
  have refused := (presence_is_released_and_answered [.poll (.created .fastRead)]
    (tag.withTechnologies [.nfcB]) ⟨fun _ => 0, 0⟩ rfl rfl).2.1 far
  obtain ⟨_, _, changes⟩ := served.completed ⟨1, .fastRead⟩ rfl
  obtain ⟨reason, _, answered⟩ := refused.published
  exact ⟨served.released, changes, congrArg (·.events) refused.untouched, reason,
    answered ⟨1, .fastRead⟩ rfl⟩

end Wristband
