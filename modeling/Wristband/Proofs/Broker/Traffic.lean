import Wristband.Proofs.Broker.Stage

/-! Everything that callers and the tag side can do with one broker, step by step and in
any order, with a record of what happened. A scan is known by its ticket from its first
poll on, and it can be polled or given up only until it ends. -/

namespace Wristband

inductive BrokerStep where
  | poll (call : ScanCall)
  | drop (call : ScanCall)
  | take
  | complete (ticket : Ticket) (result : ScanResult)
  | publish (result : ScanResult)

/-- A scan that ends with its first poll has no ticket yet. A result names what was waiting when it came. -/
inductive BrokerEvent where
  | started (ticket : Ticket) (request : ScanRequest)
  | returned (request : ScanRequest) (outcome : Except BrokerError ScanResult)
  | resolved (ticket : Ticket) (outcome : Except BrokerError ScanResult)
  | dropped (ticket : Ticket)
  | taken (scan : PendingScan)
  | completed (ticket : Ticket) (waiting : Option Ticket) (result : ScanResult)
  | published (waiting : Option Ticket) (result : ScanResult)

namespace BrokerEvent

def isStart : BrokerEvent → Bool
  | started .. => true
  | _ => false

def starts (ticket : Ticket) : BrokerEvent → Bool
  | started owner _ => owner == ticket
  | _ => false

def takes (ticket : Ticket) : BrokerEvent → Bool
  | taken scan => scan.ticket == ticket
  | _ => false

def resolves (ticket : Ticket) : BrokerEvent → Bool
  | resolved owner _ => owner == ticket
  | _ => false

def drops (ticket : Ticket) : BrokerEvent → Bool
  | dropped owner => owner == ticket
  | _ => false

/-- The scan of the ticket is given a result: it was waiting, and the result came with
its ticket or for whatever scan was waiting. -/
def Gives (ticket : Ticket) (result : ScanResult) (event : BrokerEvent) : Prop :=
  event = completed ticket (some ticket) result ∨ event = published (some ticket) result

@[simp] theorem gives_completed {owner ticket : Ticket} {waiting : Option Ticket}
    {given result : ScanResult} : (completed owner waiting given).Gives ticket result ↔
      owner = ticket ∧ waiting = some ticket ∧ given = result := by
  simp [Gives]

@[simp] theorem gives_published {ticket : Ticket} {waiting : Option Ticket}
    {given result : ScanResult} : (published waiting given).Gives ticket result ↔
      waiting = some ticket ∧ given = result := by
  simp [Gives]

end BrokerEvent

/-- The scans that were polled and have not ended, and what happened so far, the first event first. -/
structure Traffic where
  broker : Broker
  live : List Ticket
  events : List BrokerEvent

namespace Traffic

def start : Traffic := ⟨.new, [], []⟩

def record (traffic : Traffic) (event : BrokerEvent) : Traffic :=
  { traffic with events := traffic.events ++ [event] }

/-- The first poll of a scan, or one of a scan that has not ended. -/
def poll (traffic : Traffic) : ScanCall → Traffic
  | .created request =>
    match traffic.broker.poll (.created request) with
    | (.pending ticket, broker) =>
      { traffic with broker := broker, live := ticket :: traffic.live }.record
        (.started ticket request)
    | (.ready outcome, broker) =>
      { traffic with broker := broker }.record (.returned request outcome)
  | .waiting ticket =>
    if ticket ∈ traffic.live then
      match traffic.broker.poll (.waiting ticket) with
      | (.pending _, broker) => { traffic with broker := broker }
      | (.ready outcome, broker) =>
        { traffic with broker := broker, live := traffic.live.erase ticket }.record
          (.resolved ticket outcome)
    else traffic

/-- Giving up a scan that was never polled leaves no trace. -/
def drop (traffic : Traffic) : ScanCall → Traffic
  | .created request => { traffic with broker := traffic.broker.drop (.created request) }
  | .waiting ticket =>
    if ticket ∈ traffic.live then
      { traffic with
        broker := traffic.broker.drop (.waiting ticket)
        live := traffic.live.erase ticket }.record (.dropped ticket)
    else traffic

def step (traffic : Traffic) : BrokerStep → Traffic
  | .poll call => traffic.poll call
  | .drop call => traffic.drop call
  | .take =>
    match traffic.broker.takeRequest with
    | (none, broker) => { traffic with broker := broker }
    | (some scan, broker) => { traffic with broker := broker }.record (.taken scan)
  | .complete ticket result =>
    { traffic with broker := traffic.broker.complete ticket result }.record
      (.completed ticket traffic.broker.waiting result)
  | .publish result =>
    { traffic with broker := traffic.broker.publishResult result }.record
      (.published traffic.broker.waiting result)

def run (steps : List BrokerStep) : Traffic := steps.foldl step start

theorem run_append (first second : List BrokerStep) :
    run (first ++ second) = second.foldl step (run first) := List.foldl_append

/-- The broker is in a stage, and the scan that it waits for is the only live one. -/
structure At (traffic : Traffic) (stage : ScanStage) : Prop where
  broker : traffic.broker.At stage
  live : traffic.live = stage.ticket?.toList

inductive Moves : ScanStage → Ticket → List BrokerEvent → ScanStage → Ticket → Prop where
  | quiet {stage last} : Moves stage last [] stage last
  | start {last} (request : ScanRequest) :
      Moves .free last [.started (last + 1) request] (.queued ⟨last + 1, request⟩) (last + 1)
  | refuse {stage last} (busy : stage.ticket?.isSome) (request : ScanRequest) :
      Moves stage last [.returned request (.error .requestPending)] stage last
  | resolve {last} (ticket : Ticket) (result : ScanResult) :
      Moves (.answered ticket result) last [.resolved ticket (.ok result)] .free last
  | drop {stage last} (ticket : Ticket) (waits : stage.ticket? = some ticket) :
      Moves stage last [.dropped ticket] .free last
  | take {last} (scan : PendingScan) :
      Moves (.queued scan) last [.taken scan] (.taken scan.ticket) last
  | complete {stage last} (ticket : Ticket) (result : ScanResult) :
      Moves stage last [.completed ticket stage.ticket? result] (stage.afterComplete ticket result) last
  | publish {stage last} (result : ScanResult) :
      Moves stage last [.published stage.ticket? result] (stage.afterPublish result) last

def Led (before after : Traffic) (stage : ScanStage) : Prop :=
  ∃ next events, after.At next ∧ after.events = before.events ++ events ∧
    Moves stage before.broker.lastTicket events next after.broker.lastTicket

variable {traffic : Traffic} {stage : ScanStage} {ticket : Ticket}

theorem At.mem_live (at_ : traffic.At stage) :
    ticket ∈ traffic.live ↔ stage.ticket? = some ticket := by
  rw [at_.live, Option.mem_toList]

private theorem At.stay (at_ : traffic.At stage) : Led traffic traffic stage :=
  ⟨stage, [], at_, (List.append_nil _).symm, .quiet⟩

theorem At.poll_created_busy (at_ : traffic.At stage) (busy : stage.ticket?.isSome)
    (request : ScanRequest) :
    traffic.poll (.created request) =
      traffic.record (.returned request (.error .requestPending)) := by
  simp only [poll, at_.broker.poll_created_busy busy request]

private theorem At.poll_created (at_ : traffic.At stage) (request : ScanRequest) :
    Led traffic (traffic.poll (.created request)) stage := by
  cases stage with
  | free =>
    obtain ⟨pending, last, queued⟩ := at_.broker.poll_created_free request
    cases polled : traffic.broker.poll (.created request) with
    | mk outcome broker =>
      rw [polled] at pending last queued
      simp only at pending last queued
      subst pending
      simp only [poll, polled]
      refine ⟨_, _, ⟨queued, congrArg _ at_.live⟩, rfl, ?_⟩
      simp only [record, last]
      exact .start request
  | queued _ | taken _ | answered _ _ =>
    rw [at_.poll_created_busy rfl request]
    exact ⟨_, _, ⟨at_.broker, at_.live⟩, rfl, .refuse rfl request⟩

theorem At.poll_waiting_answered {result : ScanResult}
    (at_ : traffic.At (.answered ticket result)) :
    (traffic.poll (.waiting ticket)).At .free ∧
      (traffic.poll (.waiting ticket)).events =
        traffic.events ++ [.resolved ticket (.ok result)] ∧
      (traffic.poll (.waiting ticket)).broker.lastTicket = traffic.broker.lastTicket := by
  obtain ⟨ready, last, free⟩ := at_.broker.poll_waiting_answered
  have live : ticket ∈ traffic.live := at_.mem_live.mpr rfl
  cases polled : traffic.broker.poll (.waiting ticket) with
  | mk outcome broker =>
    rw [polled] at ready last free
    simp only at ready last free
    subst ready
    simp only [poll, if_pos live, polled]
    refine ⟨⟨free, ?_⟩, rfl, last⟩
    simp [record, at_.live, ScanStage.ticket?]

private theorem At.poll_waiting (at_ : traffic.At stage) (ticket : Ticket) :
    Led traffic (traffic.poll (.waiting ticket)) stage := by
  by_cases waits : stage.ticket? = some ticket
  · cases stage with
    | free => cases waits
    | queued _ | taken _ =>
      have same : traffic.broker.poll (.waiting ticket) = (.pending ticket, traffic.broker) :=
        at_.broker.poll_waiting_unanswered nofun
      simp only [poll, if_pos (at_.mem_live.mpr waits), same]
      exact at_.stay
    | answered owner result =>
      cases waits
      obtain ⟨free, events, last⟩ := at_.poll_waiting_answered
      exact ⟨_, _, free, events, last ▸ Moves.resolve ticket result⟩
  · simp only [poll, if_neg (mt at_.mem_live.mp waits)]
    exact at_.stay

private theorem At.led_drop (at_ : traffic.At stage) (call : ScanCall) :
    Led traffic (traffic.drop call) stage := by
  cases call with
  | created request => exact at_.stay
  | waiting ticket =>
    by_cases waits : stage.ticket? = some ticket
    · simp only [drop, if_pos (at_.mem_live.mpr waits)]
      refine ⟨.free, _, ⟨at_.broker.drop_waiting waits, ?_⟩, rfl, ?_⟩
      · simp only [record, at_.live, waits, Option.toList_some, List.erase_cons_head]
        rfl
      · simpa [record] using Moves.drop ticket waits
    · simp only [drop, if_neg (mt at_.mem_live.mp waits)]
      exact at_.stay

private theorem At.led_take (at_ : traffic.At stage) : Led traffic (traffic.step .take) stage := by
  obtain ⟨taken, after⟩ := at_.broker.takeRequest
  have last : traffic.broker.takeRequest.2.lastTicket = traffic.broker.lastTicket := rfl
  cases took : traffic.broker.takeRequest with
  | mk scan broker =>
    rw [took] at taken after last
    simp only at taken after last
    cases stage with
    | queued request =>
      subst taken
      simp only [step, took, ScanStage.request?]
      exact ⟨_, _, ⟨after, at_.live⟩, rfl, last ▸ Moves.take request⟩
    | free | taken _ | answered _ _ =>
      subst taken
      simp only [step, took, ScanStage.request?]
      exact ⟨_, [], ⟨after, at_.live⟩, (List.append_nil _).symm, last ▸ Moves.quiet⟩

/-- Every step is one of the moves. -/
theorem At.led (at_ : traffic.At stage) (step : BrokerStep) :
    Led traffic (traffic.step step) stage := by
  cases step with
  | poll call =>
    cases call with
    | created request => exact at_.poll_created request
    | waiting ticket => exact at_.poll_waiting ticket
  | drop call => exact at_.led_drop call
  | take => exact at_.led_take
  | complete ticket result =>
    refine ⟨_, _, ⟨at_.broker.complete ticket result, ?_⟩, rfl, ?_⟩
    · exact at_.live.trans (by rw [ScanStage.afterComplete_ticket?])
    · simpa [Traffic.step, record, at_.broker.waiting] using Moves.complete ticket result
  | publish result =>
    refine ⟨_, _, ⟨at_.broker.publishResult result, ?_⟩, rfl, ?_⟩
    · exact at_.live.trans (by rw [ScanStage.afterPublish_ticket?])
    · simpa [Traffic.step, record, at_.broker.waiting] using Moves.publish result

end Traffic
end Wristband
