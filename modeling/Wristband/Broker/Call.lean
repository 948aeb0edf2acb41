import Wristband.Broker.Basic

/-! The caller's side of a broker. A scan does nothing until it is first polled. Then it
leaves its request, and from there on it answers a poll only after it was woken. -/

namespace Wristband

/-- Another caller still waits for its result. -/
inductive BrokerError where
  | requestPending
deriving DecidableEq, Repr

def BrokerError.message : BrokerError → String
  | requestPending => "A scan request is already pending"

/-- A scan that has not ended. -/
inductive ScanCall where
  | created (request : ScanRequest)
  | waiting (ticket : Ticket)
deriving DecidableEq

/-- What a poll brings. -/
inductive ScanPoll where
  | pending (ticket : Ticket)
  | ready (outcome : Except BrokerError ScanResult)

namespace Broker

/-- Looks for the result and listens if it is not there. A kept ring is used up, since it
would only make the caller look once more. -/
def lookOrListen (broker : Broker) (ticket : Ticket) : ScanPoll × Broker :=
  match broker.takeResult? ticket with
  | some (result, after) => (.ready (.ok result), after)
  | none =>
    (.pending ticket,
      { broker with bell := { broker.bell with permit := false, listener := some ticket } })

/-- Leaves a request under a new ticket. -/
def publishRequest (broker : Broker) (request : ScanRequest) : Broker :=
  let ticket := broker.lastTicket + 1
  { broker.publishStatus (.waiting request.name) with
    lastTicket := ticket
    waiting := some ticket
    request := some ⟨ticket, request⟩
    result := none }

def poll (broker : Broker) : ScanCall → ScanPoll × Broker
  | .created request =>
    if broker.waiting.isSome then (.ready (.error .requestPending), broker)
    else
      let after := broker.publishRequest request
      after.lookOrListen after.lastTicket
  | .waiting ticket =>
    if broker.bell.woken = some ticket then
      { broker with bell := { broker.bell with woken := none } }.lookOrListen ticket
    else (.pending ticket, broker)

/-- Takes back what a caller left, unless its scan has already ended. -/
def retract (broker : Broker) (ticket : Ticket) : Broker :=
  if broker.waiting = some ticket then
    (({ broker with waiting := none }.dropRequest ticket).dropResult ticket).publishStatus .idle
  else broker

/-- Gives up a scan. -/
def drop (broker : Broker) : ScanCall → Broker
  | .created _ => broker
  | .waiting ticket => { broker with bell := broker.bell.leave ticket }.retract ticket

end Broker
end Wristband
