import Wristband.Broker.Dispatch
import Wristband.Proofs.Broker.Delivery

/-! When a caller looks for its result. It only looks after it was rung, so the bell has to reach whoever
has been answered, and a ring that was kept for nobody must not be taken for an answer. -/

namespace Wristband

namespace Broker

def lookWhileRung (broker : Broker) (ticket : Ticket) : ScanPoll × Broker :=
  match broker.takeResult? ticket with
  | some (result, after) => (.ready (.ok result), after)
  | none =>
    if broker.bell.permit then
      { broker with bell := { broker.bell with permit := false } }.lookWhileRung ticket
    else
      (.pending ticket, { broker with bell := { broker.bell with listener := some ticket } })
termination_by broker.bell.permit.toNat
decreasing_by simp_all

variable {broker : Broker} {ticket : Ticket}

private theorem takeResult?_eq_none :
    broker.takeResult? ticket = none ↔ broker.resultTicket? ≠ some ticket := by
  unfold takeResult? resultTicket?
  cases broker.result <;> simp

private theorem lookWhileRung_eq (broker : Broker) (ticket : Ticket) :
    broker.lookWhileRung ticket = broker.lookOrListen ticket := by
  unfold lookOrListen
  cases found : broker.takeResult? ticket with
  | some left => rw [lookWhileRung, found]
  | none =>
    rw [lookWhileRung, found]
    dsimp only
    split
    next =>
      have missing : broker.resultTicket? ≠ some ticket := takeResult?_eq_none.mp found
      have again : { broker with bell := { broker.bell with permit := false } }.takeResult? ticket =
          none := takeResult?_eq_none.mpr missing
      rw [lookWhileRung, again]
      rfl
    next unrung =>
      have silent : broker.bell.permit = false := Bool.eq_false_iff.mpr unrung
      rw [silent]

end Broker

namespace Traffic
open BrokerEvent

/-- Whatever callers and the tag side have done, the scan that waits is the only live one, and nobody
else's result is left. If its result is there it has been rung, and its next poll returns the result; if
not it listens, and a poll changes nothing. A new scan never starts with a result, also when a ring was
kept for nobody: it looks once more, finds nothing and listens. -/
theorem poll_returns_what_is_left (steps : List BrokerStep) :
    let broker := (run steps).broker
    (run steps).live = broker.waiting.toList ∧
    (∀ owner result, broker.result = some (owner, result) → broker.waiting = some owner) ∧
    (∀ ticket, broker.waiting = some ticket →
      (∀ result, broker.result = some (ticket, result) →
        broker.bell.woken = some ticket ∧
        (broker.poll (.waiting ticket)).1 = .ready (.ok result) ∧
        (run (steps ++ [.poll (.waiting ticket)])).events =
          (run steps).events ++ [.resolved ticket (.ok result)]) ∧
      (broker.resultTicket? ≠ some ticket →
        broker.bell.listener = some ticket ∧
        broker.poll (.waiting ticket) = (.pending ticket, broker))) ∧
    (broker.waiting = none → ∀ request,
      broker.poll (.created request) =
        (broker.publishRequest request).lookWhileRung (broker.lastTicket + 1) ∧
      (broker.poll (.created request)).1 = .pending (broker.lastTicket + 1)) := by
  intro broker
  obtain ⟨stage, at_, _⟩ := run_recorded steps
  have waiting := at_.broker.waiting
  have result := at_.broker.result
  refine ⟨?_, ?_, fun ticket waits => ⟨fun answer left => ?_, fun unanswered => ?_⟩,
    fun free request => ?_⟩
  · rw [at_.live, waiting]
  · intro owner answer left
    rw [result] at left
    cases stage with
    | answered ticket _ => cases left; exact waiting
    | free | queued _ | taken _ => cases left
  · rw [result] at left
    cases stage with
    | answered owner _ =>
      cases left
      refine ⟨at_.broker.woken, at_.broker.poll_waiting_answered.1, ?_⟩
      rw [run_append]
      exact at_.poll_waiting_answered.2.1
    | free | queued _ | taken _ => cases left
  · have waits : stage.ticket? = some ticket := waiting.symm.trans waits
    cases stage with
    | free => cases waits
    | answered owner answer =>
      cases waits
      refine absurd ?_ unanswered
      exact congrArg (Option.map Prod.fst) result
    | queued _ | taken _ =>
      exact ⟨at_.broker.listener.trans waits, at_.broker.poll_waiting_unanswered nofun⟩
  · have free : stage.ticket? = none := waiting.symm.trans free
    cases stage with
    | free =>
      refine ⟨?_, (at_.broker.poll_created_free request).1⟩
      rw [Broker.lookWhileRung_eq, Broker.poll, if_neg]
      · rfl
      · rw [waiting]
        exact Bool.false_ne_true
    | queued _ | taken _ | answered _ _ => cases free

/-- The second answer rings nobody, and neither does the first one once its caller has gone. Both rings
are kept as one, which the next scan uses up. -/
theorem stale_ring_is_no_answer :
    let answered := run [.poll (.created .fastRead), .publish .write, .publish notSupported]
    let stale := run [.poll (.created .fastRead), .publish .write, .publish notSupported,
      .drop (.waiting 1)]
    (answered.broker.poll (.waiting 1)).1 = .ready (.ok notSupported) ∧
      stale.broker.bell.permit = true ∧
      (stale.broker.poll (.created .fastRead)).1 = .pending 2 := by
  intro answered stale
  obtain ⟨_, _, waiting, _⟩ := poll_returns_what_is_left
    [.poll (.created .fastRead), .publish .write, .publish notSupported]
  obtain ⟨_, _, _, free⟩ := poll_returns_what_is_left
    [.poll (.created .fastRead), .publish .write, .publish notSupported, .drop (.waiting 1)]
  exact ⟨((waiting 1 rfl).1 notSupported rfl).2.1, rfl, (free rfl .fastRead).2⟩

end Traffic
end Wristband
