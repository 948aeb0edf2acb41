import Wristband.Broker.Call

/-! A broker is always in one of four stages. The stage decides what is in the slots and
whom the bell wakes, so an operation is described by the stage that it leads to. -/

namespace Wristband

inductive ScanStage where
  | free
  | queued (scan : PendingScan)
  | taken (ticket : Ticket)
  | answered (ticket : Ticket) (result : ScanResult)

namespace ScanStage

def ticket? : ScanStage → Option Ticket
  | free => none
  | queued scan => some scan.ticket
  | taken ticket => some ticket
  | answered ticket _ => some ticket

def request? : ScanStage → Option PendingScan
  | queued scan => some scan
  | _ => none

def result? : ScanStage → Option (Ticket × ScanResult)
  | answered ticket result => some (ticket, result)
  | _ => none

def listener? : ScanStage → Option Ticket
  | answered _ _ => none
  | stage => stage.ticket?

def woken? : ScanStage → Option Ticket
  | answered ticket _ => some ticket
  | _ => none

def afterTake : ScanStage → ScanStage
  | queued scan => taken scan.ticket
  | stage => stage

def afterPublish (stage : ScanStage) (result : ScanResult) : ScanStage :=
  match stage.ticket? with
  | some ticket => answered ticket result
  | none => stage

def afterComplete (stage : ScanStage) (ticket : Ticket) (result : ScanResult) : ScanStage :=
  if stage.ticket? = some ticket then answered ticket result else stage

@[simp] theorem afterComplete_ticket? (stage : ScanStage) (ticket : Ticket) (result : ScanResult) :
    (stage.afterComplete ticket result).ticket? = stage.ticket? := by
  unfold ScanStage.afterComplete
  split
  next waits => exact waits.symm
  next => rfl

@[simp] theorem afterPublish_ticket? (stage : ScanStage) (result : ScanResult) :
    (stage.afterPublish result).ticket? = stage.ticket? := by
  unfold ScanStage.afterPublish
  split
  next waits => exact waits.symm
  next => rfl

end ScanStage

/-- The slots and the bell of a broker are those of a stage. -/
structure Broker.At (broker : Broker) (stage : ScanStage) : Prop where
  waiting : broker.waiting = stage.ticket?
  request : broker.request = stage.request?
  result : broker.result = stage.result?
  listener : broker.bell.listener = stage.listener?
  woken : broker.bell.woken = stage.woken?

namespace Broker

variable {broker : Broker} {stage : ScanStage}

theorem new_at : new.At .free := ⟨rfl, rfl, rfl, rfl, rfl⟩

private theorem At.publishStatus (at_ : broker.At stage) (status : ScanStatus) :
    (broker.publishStatus status).At stage :=
  ⟨at_.waiting, at_.request, at_.result, at_.listener, at_.woken⟩

theorem At.takeRequest (at_ : broker.At stage) :
    broker.takeRequest.1 = stage.request? ∧ broker.takeRequest.2.At stage.afterTake := by
  refine ⟨at_.request, ?_⟩
  obtain ⟨waiting, request, result, listener, woken⟩ := at_
  cases stage <;> exact ⟨waiting, rfl, result, listener, woken⟩

private theorem At.dropRequest_waiting {ticket : Ticket} (at_ : broker.At stage)
    (waits : stage.ticket? = some ticket) :
    broker.dropRequest ticket = { broker with request := none } := by
  have empty (nothing : broker.request = none) : broker = { broker with request := none } := by
    rw [← nothing]
  unfold Broker.dropRequest requestTicket?
  rw [at_.request]
  cases stage with
  | free => cases waits
  | queued scan => exact if_pos waits
  | taken owner => exact (if_neg nofun).trans (empty at_.request)
  | answered owner earlier => exact (if_neg nofun).trans (empty at_.request)

private theorem At.dropRequest_other {ticket : Ticket} (at_ : broker.At stage)
    (other : stage.ticket? ≠ some ticket) : broker.dropRequest ticket = broker := by
  unfold Broker.dropRequest requestTicket?
  rw [at_.request]
  cases stage with
  | queued scan => exact if_neg other
  | free | taken _ | answered _ _ => exact if_neg nofun

private theorem At.leaveResult {ticket : Ticket} (at_ : broker.At stage)
    (waits : stage.ticket? = some ticket) (result : ScanResult) :
    ({ broker with request := none }.leaveResult ticket result).At (.answered ticket result) := by
  obtain ⟨waiting, -, -, listener, woken⟩ := at_
  have ringing : (broker.bell.ring).listener = none ∧ (broker.bell.ring).woken = some ticket := by
    unfold Bell.ring
    cases stage with
    | free => cases waits
    | queued scan => cases waits; rw [listener]; exact ⟨rfl, rfl⟩
    | taken owner => cases waits; rw [listener]; exact ⟨rfl, rfl⟩
    | answered owner earlier => cases waits; rw [listener]; exact ⟨rfl, woken⟩
  exact ⟨waiting.trans waits, rfl, rfl, ringing.1, ringing.2⟩

theorem At.publishResult (at_ : broker.At stage) (result : ScanResult) :
    (broker.publishResult result).At (stage.afterPublish result) := by
  unfold Broker.publishResult
  apply At.publishStatus
  split
  next ticket slot =>
    have waits : stage.ticket? = some ticket := at_.waiting.symm.trans slot
    simp only [ScanStage.afterPublish, waits]
    exact at_.leaveResult waits result
  next slot =>
    have nobody : stage.ticket? = none := at_.waiting.symm.trans slot
    simp only [ScanStage.afterPublish, nobody]
    obtain ⟨waiting, -, result, listener, woken⟩ := at_
    cases stage with
    | free => exact ⟨waiting, rfl, result, listener, woken⟩
    | queued _ | taken _ | answered _ _ => cases nobody

theorem At.complete (at_ : broker.At stage) (ticket : Ticket) (result : ScanResult) :
    (broker.complete ticket result).At (stage.afterComplete ticket result) := by
  unfold Broker.complete ScanStage.afterComplete
  apply At.publishStatus
  by_cases waits : stage.ticket? = some ticket
  · rw [at_.dropRequest_waiting waits, if_pos waits, if_pos (at_.waiting.trans waits)]
    exact at_.leaveResult waits result
  · rw [at_.dropRequest_other waits, if_neg waits, if_neg (at_.waiting ▸ waits)]
    exact at_

theorem At.poll_created_free (at_ : broker.At .free) (request : ScanRequest) :
    (broker.poll (.created request)).1 = .pending (broker.lastTicket + 1) ∧
      (broker.poll (.created request)).2.lastTicket = broker.lastTicket + 1 ∧
      (broker.poll (.created request)).2.At (.queued ⟨broker.lastTicket + 1, request⟩) := by
  have free : broker.waiting = none := at_.waiting
  simp only [Broker.poll, free, Option.isSome_none, Bool.false_eq_true, ↓reduceIte]
  exact ⟨rfl, rfl, rfl, rfl, rfl, rfl, at_.woken⟩

theorem At.poll_created_busy (at_ : broker.At stage) (busy : stage.ticket?.isSome)
    (request : ScanRequest) :
    broker.poll (.created request) = (.ready (.error .requestPending), broker) := by
  simp only [Broker.poll, at_.waiting, busy, ↓reduceIte]

theorem At.poll_waiting_unanswered {ticket : Ticket} (at_ : broker.At stage)
    (unanswered : stage.woken? ≠ some ticket) :
    broker.poll (.waiting ticket) = (.pending ticket, broker) := by
  simp only [Broker.poll, at_.woken, unanswered, ↓reduceIte]

theorem At.poll_waiting_answered {ticket : Ticket} {result : ScanResult}
    (at_ : broker.At (.answered ticket result)) :
    (broker.poll (.waiting ticket)).1 = .ready (.ok result) ∧
      (broker.poll (.waiting ticket)).2.lastTicket = broker.lastTicket ∧
      (broker.poll (.waiting ticket)).2.At .free := by
  have rung : broker.bell.woken = some ticket := at_.woken
  have answer : broker.result = some (ticket, result) := at_.result
  simp only [Broker.poll, rung, lookOrListen, takeResult?, answer, ↓reduceIte]
  exact ⟨trivial, trivial, rfl, at_.request, rfl, at_.listener, rfl⟩

theorem At.drop_waiting {ticket : Ticket} (at_ : broker.At stage)
    (waits : stage.ticket? = some ticket) : (broker.drop (.waiting ticket)).At .free := by
  obtain ⟨waiting, request, result, listener, woken⟩ := at_
  have silent : (broker.bell.leave ticket).listener = none ∧
      (broker.bell.leave ticket).woken = none := by
    unfold Bell.leave Bell.ring
    cases stage with
    | free => cases waits
    | queued scan | taken owner | answered owner earlier =>
      cases waits
      simp [listener, woken, ScanStage.listener?, ScanStage.woken?, ScanStage.ticket?]
  unfold Broker.drop retract
  simp only [waiting, waits, ↓reduceIte]
  apply At.publishStatus
  cases stage with
  | free => cases waits
  | queued scan | taken owner | answered owner earlier =>
    cases waits
    simp only [ScanStage.request?, ScanStage.result?] at request result
    simp [Broker.dropRequest, dropResult, requestTicket?, resultTicket?, request, result]
    exact ⟨rfl, rfl, rfl, silent.1, silent.2⟩

/-! Tickets are given out by new scans only. -/

@[simp] theorem dropRequest_lastTicket (ticket : Ticket) :
    (broker.dropRequest ticket).lastTicket = broker.lastTicket := by
  unfold Broker.dropRequest; split <;> rfl

@[simp] theorem dropResult_lastTicket (ticket : Ticket) :
    (broker.dropResult ticket).lastTicket = broker.lastTicket := by
  unfold dropResult; split <;> rfl

@[simp] theorem complete_lastTicket (ticket : Ticket) (result : ScanResult) :
    (broker.complete ticket result).lastTicket = broker.lastTicket := by
  unfold Broker.complete Broker.publishStatus
  simp only
  split
  · exact dropRequest_lastTicket ticket
  · exact dropRequest_lastTicket ticket

@[simp] theorem publishResult_lastTicket (result : ScanResult) :
    (broker.publishResult result).lastTicket = broker.lastTicket := by
  unfold Broker.publishResult Broker.publishStatus
  simp only
  split <;> rfl

@[simp] theorem drop_lastTicket (call : ScanCall) :
    (broker.drop call).lastTicket = broker.lastTicket := by
  cases call with
  | created request => rfl
  | waiting ticket =>
    simp only [Broker.drop, retract]
    split
    · simp [Broker.publishStatus]
    · rfl

end Broker
end Wristband
