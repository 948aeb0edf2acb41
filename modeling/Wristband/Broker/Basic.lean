import Wristband.Scan.Request
import Wristband.Scan.Result

/-! A mailbox for one request at a time. The application leaves a request and waits; the
side that handles tags takes it and leaves the result. Every request has a ticket, and a
result is only given to the caller with the same ticket. -/

namespace Wristband

/-- Tells apart the scans of a broker. -/
abbrev Ticket := Nat

structure PendingScan where
  ticket : Ticket
  request : ScanRequest
deriving DecidableEq

/-- What wakes a waiting caller. A ring that nobody hears is kept until somebody listens. -/
structure Bell where
  /-- A ring is kept. -/
  permit : Bool
  /-- The caller that listens. -/
  listener : Option Ticket
  /-- The caller that was rung and has not looked yet. -/
  woken : Option Ticket
deriving DecidableEq, Repr

namespace Bell

def silent : Bell := ⟨false, none, none⟩

/-- Wakes the listener, or keeps the ring. -/
def ring (bell : Bell) : Bell :=
  match bell.listener with
  | some ticket => { bell with listener := none, woken := some ticket }
  | none => { bell with permit := true }

/-- A caller goes away. If it was rung and did not look, the ring is passed on. -/
def leave (bell : Bell) (ticket : Ticket) : Bell :=
  if bell.woken = some ticket then { bell with woken := none }.ring
  else if bell.listener = some ticket then { bell with listener := none }
  else bell

end Bell

/-- The latest news for passive displays. -/
inductive ScanStatus where
  | idle
  /-- A caller waits for a tag, with the name of its request. -/
  | waiting (request : String)
  | completed (result : ScanResult)
deriving DecidableEq, Repr

structure Broker where
  /-- The ticket given out last. -/
  lastTicket : Ticket
  /-- The ticket of the caller that waits. -/
  waiting : Option Ticket
  request : Option PendingScan
  result : Option (Ticket × ScanResult)
  bell : Bell
  status : ScanStatus
  /-- How often a status was published. -/
  statusChanges : Nat
deriving DecidableEq

namespace Broker

def new : Broker :=
  { lastTicket := 0, waiting := none, request := none, result := none, bell := .silent,
    status := .idle, statusChanges := 0 }

def publishStatus (broker : Broker) (status : ScanStatus) : Broker :=
  { broker with status := status, statusChanges := broker.statusChanges + 1 }

/-- The ticket of the request that has not been taken. -/
def requestTicket? (broker : Broker) : Option Ticket := broker.request.map PendingScan.ticket

def resultTicket? (broker : Broker) : Option Ticket := broker.result.map Prod.fst

/-- The broker without the request of a ticket, if that is the one left. -/
def dropRequest (broker : Broker) (ticket : Ticket) : Broker :=
  if broker.requestTicket? = some ticket then { broker with request := none } else broker

/-- The broker without the result of a ticket, if that is the one left. -/
def dropResult (broker : Broker) (ticket : Ticket) : Broker :=
  if broker.resultTicket? = some ticket then { broker with result := none } else broker

/-- Leaves a result for the caller of a ticket and wakes it. -/
def leaveResult (broker : Broker) (ticket : Ticket) (result : ScanResult) : Broker :=
  { broker with result := some (ticket, result), bell := broker.bell.ring }

/-- Takes the request, which can be done once. -/
def takeRequest (broker : Broker) : Option PendingScan × Broker :=
  (broker.request, { broker with request := none })

/-- Answers the request of a ticket. If its caller is gone, only the status tells. -/
def complete (broker : Broker) (ticket : Ticket) (result : ScanResult) : Broker :=
  let broker := broker.dropRequest ticket
  let broker := if broker.waiting = some ticket then broker.leaveResult ticket result else broker
  broker.publishStatus (.completed result)

/-- Answers whatever request is outstanding, taken or not. -/
def publishResult (broker : Broker) (result : ScanResult) : Broker :=
  let broker := { broker with request := none }
  let broker := match broker.waiting with
    | some ticket => broker.leaveResult ticket result
    | none => broker
  broker.publishStatus (.completed result)

/-- Takes the result of a ticket. Its caller no longer waits after that. -/
def takeResult? (broker : Broker) (ticket : Ticket) : Option (ScanResult × Broker) :=
  match broker.result with
  | some (owner, result) =>
    if owner = ticket then some (result, { broker with result := none, waiting := none })
    else none
  | none => none

def description (broker : Broker) : String :=
  let waiting := match broker.waiting with
    | none => "None"
    | some ticket => s!"Some({ticket})"
  let request := match broker.request with
    | none => "None"
    | some scan => "Some(\"" ++ scan.request.name ++ "\")"
  "ScanBroker \x7b waiting: " ++ waiting ++ ", request: " ++ request ++
    s!", has_result: {broker.result.isSome} \x7d"

end Broker
end Wristband
