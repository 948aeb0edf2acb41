import Wristband.Broker.Call

/-! Several callers of one broker, told apart by name. A name belongs to one scan at a
time, and a scan that has ended is forgotten. -/

namespace Wristband

structure Callers where
  broker : Broker
  /-- The scans that have not ended, by name. -/
  calls : List (String × ScanCall)

namespace Callers

def new : Callers := ⟨.new, []⟩

def forget (callers : Callers) (name : String) : List (String × ScanCall) :=
  callers.calls.filter fun call => call.1 != name

/-- Gives up the scan of a name, if there is one. -/
def drop (callers : Callers) (name : String) : Callers :=
  match callers.calls.lookup name with
  | none => callers
  | some call => ⟨callers.broker.drop call, callers.forget name⟩

/-- Prepares a scan. An earlier one of the same name is given up first. -/
def create (callers : Callers) (name : String) (request : ScanRequest) : Callers :=
  let callers := callers.drop name
  { callers with calls := (name, .created request) :: callers.calls }

/-- Polls the scan of a name, if there is one. -/
def poll? (callers : Callers) (name : String) : Option (ScanPoll × Callers) :=
  (callers.calls.lookup name).map fun call =>
    let (poll, broker) := callers.broker.poll call
    let others := callers.forget name
    match poll with
    | .pending ticket => (poll, ⟨broker, (name, .waiting ticket) :: others⟩)
    | .ready _ => (poll, ⟨broker, others⟩)

/-- Gives up all scans, in the order of their names. -/
def dropAll (callers : Callers) : Callers :=
  let names := (callers.calls.map Prod.fst).mergeSort fun left right => decide (left ≤ right)
  names.foldl drop callers

end Callers
end Wristband
