import Mathlib.Data.List.Induction
import Wristband.Proofs.Broker.Traffic

/-! What the record of a broker looks like, whatever its callers and the tag side do. A
ticket is handed out at most once and only while its scan is open, and a scan ends at most
once and with a result that was given to it. -/

namespace Wristband.Traffic
open BrokerEvent

/-- What an event requires of the ones before it. -/
def Follows (past : List BrokerEvent) : BrokerEvent → Prop
  | started ticket _ => ∀ event ∈ past, event.starts ticket = false
  | taken scan =>
    started scan.ticket scan.request ∈ past ∧
      ∀ event ∈ past, event.takes scan.ticket = false ∧ event.drops scan.ticket = false ∧
        event.resolves scan.ticket = false ∧ ∀ result, ¬ event.Gives scan.ticket result
  | resolved ticket outcome =>
    (∀ event ∈ past, event.drops ticket = false ∧ event.resolves ticket = false) ∧
      ∃ result, outcome = .ok result ∧ ∃ event ∈ past, event.Gives ticket result
  | returned _ outcome => outcome = .error .requestPending
  | _ => True

def Lawful (events : List BrokerEvent) : Prop :=
  ∀ past event rest, events = past ++ event :: rest → Follows past event

private theorem Lawful.append_one {events : List BrokerEvent} {event : BrokerEvent}
    (lawful : Lawful events) (follows : Follows events event) : Lawful (events ++ [event]) := by
  intro past current rest split
  rcases List.eq_nil_or_concat rest with rfl | ⟨front, last, rfl⟩
  · obtain ⟨rfl, same⟩ := List.append_inj' split rfl
    cases same
    exact follows
  · rw [List.concat_eq_append, ← List.cons_append, ← List.append_assoc] at split
    exact lawful past current front (List.append_inj' split rfl).1

private theorem countP_le_one {events : List BrokerEvent} {kind : BrokerEvent → Bool}
    (once : ∀ past event rest, events = past ++ event :: rest → kind event →
      ∀ earlier ∈ past, kind earlier = false) : events.countP kind ≤ 1 := by
  induction events using List.reverseRecOn with
  | nil => simp
  | append_singleton front last ih =>
    rw [List.countP_append, List.countP_singleton]
    split
    next chosen =>
      have none := once front last [] rfl chosen
      have : front.countP kind = 0 := List.countP_eq_zero.mpr (by simpa using none)
      omega
    next =>
      refine ih fun past event rest split => once past event (rest ++ [last]) ?_
      simp [split]

def Concerns (ticket : Ticket) (event : BrokerEvent) : Prop :=
  event.starts ticket ∨ event.takes ticket ∨ event.drops ticket ∨ event.resolves ticket ∨
    ∃ result, event.Gives ticket result

/-- What ties the record to the stage of the broker. -/
structure Recorded (stage : ScanStage) (last : Ticket) (events : List BrokerEvent) : Prop where
  lawful : Lawful events
  counted : last = events.countP isStart
  fresh : ∀ event ∈ events, ∀ ticket, Concerns ticket event → ticket ≤ last
  waits : ∀ ticket, stage.ticket? = some ticket → ticket ≤ last ∧
    ∀ event ∈ events, event.drops ticket = false ∧ event.resolves ticket = false
  queued : ∀ scan, stage = .queued scan → started scan.ticket scan.request ∈ events ∧
    ∀ event ∈ events, event.takes scan.ticket = false ∧
      ∀ result, ¬ event.Gives scan.ticket result
  answered : ∀ ticket result, stage = .answered ticket result →
    ∃ event ∈ events, event.Gives ticket result

variable {stage next : ScanStage} {last : Ticket} {events : List BrokerEvent} {event : BrokerEvent}

private theorem Recorded.nil : Recorded .free 0 [] := by
  refine ⟨?_, rfl, ?_, nofun, nofun, nofun⟩
  · intro past event rest split
    simp at split
  · intro event member
    cases member

private theorem Recorded.untouched (kept : Recorded stage last events) {ticket : Ticket}
    (unused : last < ticket) : ∀ event ∈ events, event.starts ticket = false ∧
      event.takes ticket = false ∧ event.drops ticket = false ∧ event.resolves ticket = false ∧
      ∀ result, ¬ event.Gives ticket result := by
  intro event member
  have apart : ¬ Concerns ticket event := fun concerns =>
    Nat.not_le_of_lt unused (kept.fresh event member ticket concerns)
  simpa [Concerns] using apart

private theorem Recorded.extend (kept : Recorded stage last events) (follows : Follows events event)
    (noStart : event.isStart = false) (bounded : ∀ ticket, Concerns ticket event → ticket ≤ last) :
    Lawful (events ++ [event]) ∧ last = (events ++ [event]).countP isStart ∧
      ∀ other ∈ events ++ [event], ∀ ticket, Concerns ticket other → ticket ≤ last := by
  refine ⟨kept.lawful.append_one follows, ?_, ?_⟩
  · simpa [List.countP_append, noStart] using kept.counted
  · intro other member
    rcases List.mem_append.mp member with old | new
    · exact kept.fresh other old
    · exact List.mem_singleton.mp new ▸ bounded

private theorem Recorded.answer (kept : Recorded stage last events)
    (follows : Follows events event) (noStart : event.isStart = false)
    (neutral : ∀ ticket, event.starts ticket = false ∧ event.takes ticket = false ∧
      event.drops ticket = false ∧ event.resolves ticket = false)
    (gives : ∀ ticket result, event.Gives ticket result → stage.ticket? = some ticket)
    (same : next.ticket? = stage.ticket?)
    (queued : ∀ scan, next = .queued scan →
      stage = .queued scan ∧ ∀ result, ¬ event.Gives scan.ticket result)
    (answered : ∀ ticket result, next = .answered ticket result →
      stage = .answered ticket result ∨ event.Gives ticket result) :
    Recorded next last (events ++ [event]) := by
  have bounded : ∀ ticket, Concerns ticket event → ticket ≤ last := by
    intro ticket concerns
    obtain ⟨noStart, noTake, noDrop, noEnd⟩ := neutral ticket
    rcases concerns with starts | takes | drops | resolves | ⟨result, given⟩
    · exact absurd starts (by simp [noStart])
    · exact absurd takes (by simp [noTake])
    · exact absurd drops (by simp [noDrop])
    · exact absurd resolves (by simp [noEnd])
    · exact (kept.waits ticket (gives ticket result given)).1
  obtain ⟨lawful, counted, fresh⟩ := kept.extend follows noStart bounded
  refine ⟨lawful, counted, fresh, ?_, ?_, ?_⟩
  · intro ticket waits
    obtain ⟨small, alive⟩ := kept.waits ticket (same ▸ waits)
    refine ⟨small, fun other member => ?_⟩
    rcases List.mem_append.mp member with old | new
    · exact alive other old
    · exact List.mem_singleton.mp new ▸ (neutral ticket).2.2
  · intro scan queues
    obtain ⟨before, silent⟩ := queued scan queues
    obtain ⟨started, untaken⟩ := kept.queued scan before
    refine ⟨List.mem_append_left _ started, fun other member => ?_⟩
    rcases List.mem_append.mp member with old | new
    · exact untaken other old
    · exact List.mem_singleton.mp new ▸ ⟨(neutral scan.ticket).2.1, silent⟩
  · intro ticket result answers
    rcases answered ticket result answers with before | given
    · obtain ⟨other, member, given⟩ := kept.answered ticket result before
      exact ⟨other, List.mem_append_left _ member, given⟩
    · exact ⟨event, by simp, given⟩

private theorem Recorded.finish (kept : Recorded stage last events) {ticket : Ticket}
    (waits : stage.ticket? = some ticket) (follows : Follows events event)
    (noStart : event.isStart = false) (only : ∀ other, Concerns other event → ticket = other) :
    Recorded .free last (events ++ [event]) := by
  obtain ⟨lawful, counted, fresh⟩ := kept.extend follows noStart
    fun other concerns => only other concerns ▸ (kept.waits ticket waits).1
  exact ⟨lawful, counted, fresh, nofun, nofun, nofun⟩

private theorem Recorded.start (kept : Recorded .free last events) (request : ScanRequest) :
    Recorded (.queued ⟨last + 1, request⟩) (last + 1)
      (events ++ [.started (last + 1) request]) := by
  have untouched := kept.untouched (Nat.lt_succ_self last)
  have follows : Follows events (.started (last + 1) request) :=
    fun event member => (untouched event member).1
  refine ⟨kept.lawful.append_one follows, ?_, ?_, ?_, ?_, nofun⟩
  · simpa [List.countP_append, isStart] using kept.counted
  · intro event member ticket concerns
    rcases List.mem_append.mp member with old | new
    · exact Nat.le_succ_of_le (kept.fresh event old ticket concerns)
    · cases List.mem_singleton.mp new
      have same : last + 1 = ticket := by
        simpa [Concerns, starts, takes, drops, resolves, Gives] using concerns
      exact Nat.le_of_eq same.symm
  · rintro ticket ⟨⟩
    refine ⟨Nat.le_refl _, fun event member => ?_⟩
    rcases List.mem_append.mp member with old | new
    · exact ⟨(untouched event old).2.2.1, (untouched event old).2.2.2.1⟩
    · cases List.mem_singleton.mp new
      exact ⟨rfl, rfl⟩
  · rintro scan ⟨⟩
    refine ⟨by simp, fun event member => ?_⟩
    rcases List.mem_append.mp member with old | new
    · exact ⟨(untouched event old).2.1, (untouched event old).2.2.2.2⟩
    · cases List.mem_singleton.mp new
      simp [takes, Gives]

private theorem Moves.recorded {after : Ticket} {new : List BrokerEvent}
    (moves : Moves stage last new next after) (kept : Recorded stage last events) :
    Recorded next after (events ++ new) := by
  cases moves with
  | quiet => simpa using kept
  | start request => exact kept.start request
  | refuse busy request =>
    refine kept.answer rfl rfl (fun _ => ⟨rfl, rfl, rfl, rfl⟩) ?_ rfl ?_ ?_
    · simp [Gives]
    · exact fun scan queues => ⟨queues, by simp [Gives]⟩
    · exact fun ticket result answers => .inl answers
  | resolve ticket result =>
    refine kept.finish rfl ⟨(kept.waits ticket rfl).2, result, rfl, ?_⟩ rfl ?_
    · exact kept.answered ticket result rfl
    · simp [Concerns, starts, takes, drops, resolves, Gives]
  | drop ticket waits =>
    refine kept.finish waits trivial rfl ?_
    simp [Concerns, starts, takes, drops, resolves, Gives]
  | take scan =>
    obtain ⟨small, alive⟩ := kept.waits scan.ticket rfl
    obtain ⟨started, untaken⟩ := kept.queued scan rfl
    have follows : Follows events (.taken scan) := by
      refine ⟨started, fun event member => ?_⟩
      exact ⟨(untaken event member).1, (alive event member).1, (alive event member).2,
        (untaken event member).2⟩
    obtain ⟨lawful, counted, fresh⟩ := kept.extend follows rfl fun ticket concerns => by
      have same : scan.ticket = ticket := by
        simpa [Concerns, starts, takes, drops, resolves, Gives] using concerns
      exact same ▸ small
    refine ⟨lawful, counted, fresh, ?_, ?_, ?_⟩
    · rintro ticket ⟨⟩
      refine ⟨small, fun event member => ?_⟩
      rcases List.mem_append.mp member with old | new
      · exact alive event old
      · cases List.mem_singleton.mp new
        exact ⟨rfl, rfl⟩
    · intro other queues
      cases queues
    · intro owner answer answers
      cases answers
  | complete ticket result =>
    refine kept.answer trivial rfl (fun _ => ⟨rfl, rfl, rfl, rfl⟩) ?_
      (stage.afterComplete_ticket? ticket result) ?_ ?_
    · intro other answer given
      exact (gives_completed.mp given).2.1
    · intro scan queues
      unfold ScanStage.afterComplete at queues
      split at queues
      next => cases queues
      next other =>
        subst queues
        refine ⟨rfl, fun answer given => other ?_⟩
        exact congrArg some (gives_completed.mp given).1.symm
    · intro owner answer answers
      unfold ScanStage.afterComplete at answers
      split at answers
      next waits =>
        cases answers
        exact .inr (gives_completed.mpr ⟨rfl, waits, rfl⟩)
      next => exact .inl answers
  | publish result =>
    refine kept.answer trivial rfl (fun _ => ⟨rfl, rfl, rfl, rfl⟩) ?_
      (stage.afterPublish_ticket? result) ?_ ?_
    · intro other answer given
      exact (gives_published.mp given).1
    · intro scan queues
      unfold ScanStage.afterPublish at queues
      split at queues
      next => cases queues
      next nobody => subst queues; cases nobody
    · intro owner answer answers
      unfold ScanStage.afterPublish at answers
      split at answers
      next waits =>
        cases answers
        exact .inr (gives_published.mpr ⟨waits, rfl⟩)
      next => exact .inl answers

/-- Whatever was done, the broker is in a stage and the record is lawful. -/
theorem run_recorded (steps : List BrokerStep) :
    ∃ stage, (run steps).At stage ∧
      Recorded stage (run steps).broker.lastTicket (run steps).events := by
  induction steps using List.reverseRecOn with
  | nil => exact ⟨.free, ⟨Broker.new_at, rfl⟩, Recorded.nil⟩
  | append_singleton steps step ih =>
    obtain ⟨stage, at_, recorded⟩ := ih
    obtain ⟨next, events, led, grown, moves⟩ := at_.led step
    rw [run_append]
    refine ⟨next, led, ?_⟩
    simp only [List.foldl_cons, List.foldl_nil, grown]
    exact moves.recorded recorded

/-- Tickets tell scans apart. Each is handed out at most once, and not after its scan was
dropped or given a result. A scan ends at most once, and with a result that it was given; at
its first poll it can only be refused. While it lives, any other scan is refused and the broker
stays as it is. There are as many tickets as scans that were accepted. -/
theorem scans_answered_once (steps : List BrokerStep) :
    let traffic := run steps
    (∀ ticket, traffic.events.countP (starts ticket) ≤ 1 ∧
      traffic.events.countP (takes ticket) ≤ 1 ∧ traffic.events.countP (resolves ticket) ≤ 1) ∧
    (∀ past scan rest, traffic.events = past ++ .taken scan :: rest →
      .started scan.ticket scan.request ∈ past ∧
      ∀ event ∈ past, event.drops scan.ticket = false ∧
        ∀ result, ¬ event.Gives scan.ticket result) ∧
    (∀ past ticket outcome rest, traffic.events = past ++ .resolved ticket outcome :: rest →
      (∀ event ∈ past, event.drops ticket = false) ∧
      ∃ result, outcome = .ok result ∧ ∃ event ∈ past, event.Gives ticket result) ∧
    (∀ request outcome, .returned request outcome ∈ traffic.events →
      outcome = .error .requestPending) ∧
    (∀ ticket ∈ traffic.live, ∀ request,
      traffic.broker.poll (.created request) = (.ready (.error .requestPending), traffic.broker) ∧
      traffic.step (.poll (.created request)) =
        traffic.record (.returned request (.error .requestPending))) ∧
    traffic.broker.lastTicket = traffic.events.countP isStart := by
  obtain ⟨stage, at_, recorded⟩ := run_recorded steps
  refine ⟨fun ticket => ⟨?_, ?_, ?_⟩, ?_, ?_, ?_, ?_, recorded.counted⟩
  · refine countP_le_one fun past event rest split chosen => ?_
    cases event <;> simp only [starts, Bool.false_eq_true, beq_iff_eq] at chosen
    subst chosen
    exact recorded.lawful past _ rest split
  · refine countP_le_one fun past event rest split chosen => ?_
    cases event <;> simp only [takes, Bool.false_eq_true, beq_iff_eq] at chosen
    subst chosen
    exact fun earlier member => ((recorded.lawful past _ rest split).2 earlier member).1
  · refine countP_le_one fun past event rest split chosen => ?_
    cases event <;> simp only [resolves, Bool.false_eq_true, beq_iff_eq] at chosen
    subst chosen
    exact fun earlier member => ((recorded.lawful past _ rest split).1 earlier member).2
  · intro past scan rest split
    obtain ⟨started, earlier⟩ := recorded.lawful past _ rest split
    exact ⟨started, fun event member => ⟨(earlier event member).2.1, (earlier event member).2.2.2⟩⟩
  · intro past ticket outcome rest split
    obtain ⟨alive, given⟩ := recorded.lawful past _ rest split
    exact ⟨fun event member => (alive event member).1, given⟩
  · intro request outcome listed
    obtain ⟨past, rest, split⟩ := List.append_of_mem listed
    exact recorded.lawful past _ rest split
  · intro ticket live request
    have busy : stage.ticket?.isSome := by rw [at_.mem_live.mp live]; rfl
    exact ⟨at_.broker.poll_created_busy busy request, at_.poll_created_busy busy request⟩

end Wristband.Traffic
