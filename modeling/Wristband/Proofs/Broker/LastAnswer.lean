import Wristband.Broker.Dispatch
import Wristband.Proofs.Broker.Delivery

/-! What a caller gets that was answered but has not looked yet. Answers for it that come in
between replace the one that is there, so it gets the last one. -/

namespace Wristband

def BrokerStep.answer? (ticket : Ticket) : BrokerStep → Option ScanResult
  | complete owner result => if owner = ticket then some result else none
  | publish result => some result
  | _ => none

namespace Traffic

/-- The result that an answered scan has after some steps. -/
def lastAnswer (ticket : Ticket) (result : ScanResult) (steps : List BrokerStep) : ScanResult :=
  (steps.filterMap (BrokerStep.answer? ticket)).getLastD result

private theorem lastAnswer_cons (ticket : Ticket) (result : ScanResult) (step : BrokerStep)
    (steps : List BrokerStep) : lastAnswer ticket result (step :: steps) =
      lastAnswer ticket ((step.answer? ticket).getD result) steps := by
  unfold lastAnswer
  cases found : step.answer? ticket with
  | none => rw [List.filterMap_cons_none found]; rfl
  | some answer => rw [List.filterMap_cons_some found, List.getLastD_cons]; rfl

variable {traffic : Traffic} {ticket : Ticket} {result : ScanResult}

private theorem At.answered_step (at_ : traffic.At (.answered ticket result)) (step : BrokerStep)
    (notPolled : step ≠ .poll (.waiting ticket)) (notDropped : step ≠ .drop (.waiting ticket)) :
    (traffic.step step).At (.answered ticket ((step.answer? ticket).getD result)) := by
  have alone {other : Ticket} (apart : other ≠ ticket) : other ∉ traffic.live :=
    fun live => apart (Option.some.inj (at_.mem_live.mp live)).symm
  cases step with
  | poll call =>
    cases call with
    | created request =>
      simp only [Traffic.step, at_.poll_created_busy rfl request]
      exact ⟨at_.broker, at_.live⟩
    | waiting other =>
      have apart : other ≠ ticket := fun same => notPolled (same ▸ rfl)
      simp only [Traffic.step, poll, if_neg (alone apart)]
      exact at_
  | drop call =>
    cases call with
    | created request => exact at_
    | waiting other =>
      have apart : other ≠ ticket := fun same => notDropped (same ▸ rfl)
      simp only [Traffic.step, drop, if_neg (alone apart)]
      exact at_
  | take =>
    obtain ⟨nothing, after⟩ := at_.broker.takeRequest
    cases took : traffic.broker.takeRequest with
    | mk scan broker =>
      rw [took] at nothing after
      subst nothing
      simp only [Traffic.step, took]
      exact ⟨after, at_.live⟩
  | complete owner answer =>
    have after := at_.broker.complete owner answer
    refine ⟨?_, at_.live⟩
    unfold ScanStage.afterComplete at after
    by_cases same : owner = ticket
    · subst same
      simpa [Traffic.step, record, BrokerStep.answer?, ScanStage.ticket?] using after
    · simpa [Traffic.step, record, BrokerStep.answer?, ScanStage.ticket?, same,
        Ne.symm same] using after
  | publish answer => exact ⟨at_.broker.publishResult answer, at_.live⟩

private theorem At.answered_steps (at_ : traffic.At (.answered ticket result)) (steps : List BrokerStep)
    (notPolled : .poll (.waiting ticket) ∉ steps) (notDropped : .drop (.waiting ticket) ∉ steps) :
    (steps.foldl step traffic).At (.answered ticket (lastAnswer ticket result steps)) := by
  induction steps generalizing traffic result with
  | nil => exact at_
  | cons first rest ih =>
    rw [List.foldl_cons, lastAnswer_cons]
    have after := at_.answered_step first
      (fun same => notPolled (same ▸ List.mem_cons_self))
      (fun same => notDropped (same ▸ List.mem_cons_self))
    exact ih after (fun member => notPolled (List.mem_cons_of_mem _ member))
      (fun member => notDropped (List.mem_cons_of_mem _ member))

/-- A scan that was given a result by its ticket returns the last result that was given to it
before it looks, and so the first one only if no later one differs at the end. -/
theorem poll_resolves_with_last_answer (steps between : List BrokerStep) (ticket : Ticket)
    (result : ScanResult) (live : ticket ∈ (run steps).live)
    (notPolled : .poll (.waiting ticket) ∉ between)
    (notDropped : .drop (.waiting ticket) ∉ between) :
    let traffic := run (steps ++ .complete ticket result :: between)
    let polled := traffic.step (.poll (.waiting ticket))
    polled.events = traffic.events ++ [.resolved ticket (.ok (lastAnswer ticket result between))] ∧
    (polled.events = traffic.events ++ [.resolved ticket (.ok result)] ↔
      lastAnswer ticket result between = result) := by
  obtain ⟨stage, at_, -⟩ := run_recorded steps
  have waits : stage.ticket? = some ticket := at_.mem_live.mp live
  have answered : ((run steps).step (.complete ticket result)).At (.answered ticket result) := by
    refine ⟨?_, at_.live.trans (congrArg Option.toList waits)⟩
    have completed := at_.broker.complete ticket result
    rwa [ScanStage.afterComplete, if_pos waits] at completed
  have kept := answered.answered_steps between notPolled notDropped
  rw [← List.foldl_cons, ← run_append] at kept
  have resolved := kept.poll_waiting_answered.2.1
  refine ⟨resolved, ?_⟩
  simp only [step, resolved]
  simp

theorem untouched_answer_is_returned :
    let steps : List BrokerStep := [.poll (.created .fastRead), .take]
    let between : List BrokerStep := [.poll (.created .fastRead), .complete 2 .write, .take]
    let polled := (run (steps ++ .complete 1 (.fastRead ⟨7⟩) :: between)).step (.poll (.waiting 1))
    1 ∈ (run steps).live ∧ .poll (.waiting 1) ∉ between ∧ .drop (.waiting 1) ∉ between ∧
      polled.events.getLast? = some (.resolved 1 (.ok (.fastRead ⟨7⟩))) := by
  intro steps between polled
  have live : 1 ∈ (run steps).live := List.mem_singleton.mpr rfl
  have notPolled : .poll (.waiting 1) ∉ between := by simp [between]
  have notDropped : .drop (.waiting 1) ∉ between := by simp [between]
  refine ⟨live, notPolled, notDropped, ?_⟩
  have kept := poll_resolves_with_last_answer steps between 1 (.fastRead ⟨7⟩) live notPolled notDropped
  rw [show polled.events = _ from kept.2.mpr rfl, List.getLast?_concat]

/-- A tag that cannot be served takes the result away from a caller that was answered. -/
theorem later_presence_replaces_answer :
    let before := run [.poll (.created .fastRead), .take]
    let answered := before.step (.complete 1 (.fastRead ⟨7⟩))
    let polled := (answered.step (.publish notSupported)).step (.poll (.waiting 1))
    1 ∈ before.live ∧ (∀ event ∈ before.events, ∀ result, ¬ event.Gives 1 result) ∧
      polled.events.getLast? = some (.resolved 1 (.ok notSupported)) ∧
      notSupported ≠ .fastRead ⟨7⟩ := by
  refine ⟨List.mem_singleton.mpr rfl, ?_, rfl, nofun⟩
  intro event member result
  rcases List.mem_cons.mp member with rfl | member
  · exact nofun
  · rw [List.mem_singleton.mp member]
    exact nofun

end Traffic
end Wristband
