import Mathlib.Data.List.Induction
import Wristband.Proofs.Scan.Closing
import Wristband.Proofs.Tag.Answer
import Wristband.Tag.Simulated.Build

/-! What closing a session leaves behind. A session remembers that it was closed, but not that a
reconnection has opened it again, so from then on it cannot be closed any more. -/

namespace Wristband

def SessionCall.Reopens (calls : List SessionCall) : Prop :=
  ∃ before after, calls = before ++ .reconnect :: after ∧ .close ∈ before

namespace SimulatedTag

variable {tag : SimulatedTag}

/-- Only leaving the field has ended the connection. -/
def IsLinked (tag : SimulatedTag) : Prop := tag.connected = !tag.lost

private theorem Evolves.isLinked {after : SimulatedTag} (evolves : tag.Evolves after)
    (linked : tag.IsLinked) : after.IsLinked := by
  unfold IsLinked
  rw [evolves]
  exact linked

private theorem IsLinked.transceive (linked : tag.IsLinked) (frame : Bytes) :
    (tag.transceive frame).2.IsLinked := by
  cases near : tag.hears with
  | false =>
    obtain ⟨_, unheard⟩ := transceive_unheard near frame
    rw [unheard]
    exact linked
  | true =>
    obtain left | silent | answered := transceive_heard near frame
    · rw [left]
      rfl
    · rw [silent]
      exact linked
    · rw [answered]
      exact (answerFrame_evolves frame).1.isLinked linked

private theorem isLinked_connect (apart : tag.connected = false) : (tag.connect).2.IsLinked := by
  unfold connect IsLinked
  split
  next lost =>
    rw [lost, apart]
    rfl
  next present =>
    have here : tag.lost = false := Bool.eq_false_iff.mpr present
    exact congrArg Bool.not here.symm

end SimulatedTag

namespace Session
open SessionCall

section
variable {τ : Type} [NfcTag τ] {kept : Session τ → Prop}

private theorem Endures.keeps_perform (endures : Endures kept kept) (handshakes : Handshakes kept)
    {call : SessionCall} (reconnects : call = .reconnect → Keeps kept kept reconnect)
    (closes : call = .close → Keeps kept kept close) :
    Keeps kept kept (call.perform (τ := τ)) := by
  cases plain : call.changesHandshake with
  | false => exact endures.perform call plain
  | true =>
    cases call with
    | authenticate key slot cmac =>
      exact (handshakes.authenticate key slot cmac).onValue fun _ left => left.1
    | reconnect => exact reconnects rfl
    | close => exact closes rfl
    | _ => cases plain

/-- A session that was closed once is not closed again. -/
theorem run_close_closed {session : Session τ} (closed : session.closed = true) :
    close.run session = (.ok (), session) := by
  change (if session.closed then (return : SessionM τ PUnit) else _ : SessionM τ PUnit).run session = _
  rw [if_pos closed]
  rfl

private theorem close_keeps_closed (closed : ∀ session, kept session → session.closed = true) :
    Keeps kept kept close := fun session holds => by
  unfold Ensures
  rw [run_close_closed (closed session holds)]
  exact holds

end

variable {session : Session SimulatedTag}

structure Shut (session : Session SimulatedTag) : Prop where
  closed : session.closed = true
  disconnected : session.tag.connected = false
  strange : session.tag.authentication = .none

structure Reopened (session : Session SimulatedTag) : Prop where
  closed : session.closed = true
  linked : session.tag.IsLinked

private theorem Shut.exchange (shut : session.Shut) (command : Bytes) :
    Ensures (exchange command) session (fun _ => Shut) (fun _ => Shut) := by
  refine exchange_leaves fun _ after exchanged => ?_
  have closed := exchanged.closed.trans shut.closed
  have same : after.tag = session.tag := by
    obtain ⟨same, _⟩ | ⟨frame, _, reached, _⟩ := exchanged.transmission
    · exact same
    · have deaf : session.tag.hears = false := by
        rw [SimulatedTag.hears, shut.disconnected, Bool.false_and]
      obtain ⟨_, unheard⟩ := SimulatedTag.transceive_unheard deaf frame
      rw [reached]
      exact congrArg Prod.snd unheard
  exact ⟨closed, same ▸ shut.disconnected, same ▸ shut.strange⟩

private theorem shut_outlasts : Outlasts Shut Shut where
  weaken _ shut := shut
  exchange command _ shut := shut.exchange command
  learn _ _ shut := ⟨shut.closed, shut.disconnected, shut.strange⟩

private theorem shut_handshakes : Handshakes Shut where
  engine _ _ shut := ⟨shut.closed, shut.disconnected, shut.strange⟩
  random _ _ shut := ⟨shut.closed, shut.disconnected, shut.strange⟩
  step command _ _ shut := shut.exchange command

private theorem reopened_reconnect (closed : session.closed = true) :
    Ensures reconnect session (fun _ => Reopened) (fun _ => Reopened) :=
  reconnect_leaves (fun _ failed => nomatch failed)
    ⟨closed, SimulatedTag.isLinked_connect rfl⟩

private theorem persists_reopened : Persists Reopened where
  exchange command session reopened := exchange_leaves fun _ after exchanged => by
    refine ⟨exchanged.closed.trans reopened.closed, ?_⟩
    obtain ⟨same, _⟩ | ⟨frame, _, reached, _⟩ := exchanged.transmission
    · exact same ▸ reopened.linked
    · rw [reached]
      exact reopened.linked.transceive frame
  engine _ _ reopened := ⟨reopened.closed, reopened.linked⟩
  learn _ _ reopened := ⟨reopened.closed, reopened.linked⟩
  random _ _ reopened := ⟨reopened.closed, reopened.linked⟩
  reconnect _ reopened := reopened_reconnect reopened.closed

private theorem run_close_open (open_ : session.closed = false) :
    close.run session =
      (.ok (), { session with tag := session.tag.close.2, closed := true, engine := none }) := by
  refine Prod.ext ?_ (run_close open_)
  change ((if session.closed then (return : SessionM SimulatedTag PUnit) else _ :
    SessionM SimulatedTag PUnit).run session).1 = _
  rw [open_]
  rfl

inductive Standing (calls : List SessionCall) (session : Session SimulatedTag) : Prop where
  | open_ (unclosed : .close ∉ calls) (open_ : session.closed = false)
  | shut (closed : .close ∈ calls) (stays : ¬ Reopens calls) (shut : session.Shut)
  | reopened (again : Reopens calls) (reopened : session.Reopened)

private theorem not_reopens_of_unclosed {calls : List SessionCall} (unclosed : .close ∉ calls) :
    ¬ Reopens calls := by
  rintro ⟨before, after, rfl, closed⟩
  exact unclosed (List.mem_append_left _ closed)

/-- Only a reconnection opens a closed session again. -/
theorem reopens_append_one {calls : List SessionCall} {call : SessionCall} :
    Reopens (calls ++ [call]) ↔ Reopens calls ∨ call = .reconnect ∧ .close ∈ calls := by
  constructor
  · rintro ⟨before, after, split, closed⟩
    rcases List.eq_nil_or_concat after with rfl | ⟨front, last, rfl⟩
    · obtain ⟨rfl, same⟩ := List.append_inj' split rfl
      exact .inr ⟨List.singleton_inj.mp same, closed⟩
    · rw [List.concat_eq_append, ← List.cons_append, ← List.append_assoc] at split
      exact .inl ⟨before, front, (List.append_inj' split rfl).1, closed⟩
  · rintro (⟨before, after, rfl, closed⟩ | ⟨rfl, closed⟩)
    · exact ⟨before, after ++ [call], by simp, closed⟩
    · exact ⟨calls, [], rfl, closed⟩

private theorem Standing.perform {calls : List SessionCall} (standing : Standing calls session)
    (call : SessionCall) : Standing (calls ++ [call]) (call.perform.run session).2 := by
  cases standing with
  | open_ unclosed open_ =>
    by_cases closes : call = .close
    · subst closes
      have left := run_close open_
      refine .shut (by simp) ?_ ?_
      · rw [reopens_append_one]
        exact not_or.mpr ⟨not_reopens_of_unclosed unclosed, fun again => nomatch again.1⟩
      · change Shut (close.run session).2
        rw [left]
        exact ⟨rfl, rfl, rfl⟩
    · refine .open_ (by simpa [unclosed] using Ne.symm closes) ?_
      exact (persists_open.endures.keeps_perform persists_open.withstands.handshakes
        (fun _ => persists_open.reconnect) (fun same => absurd same closes) session open_).after
  | shut closed stays shut =>
    by_cases reconnects : call = .reconnect
    · subst reconnects
      exact .reopened (reopens_append_one.mpr (.inr ⟨rfl, closed⟩))
        (reopened_reconnect shut.closed).after
    · refine .shut (List.mem_append_left _ closed) ?_ ?_
      · rw [reopens_append_one]
        exact not_or.mpr ⟨stays, fun again => reconnects again.1⟩
      · exact (shut_outlasts.endures.keeps_perform shut_handshakes
          (fun same => absurd same reconnects)
          (fun _ => close_keeps_closed fun _ left => left.closed) session shut).after
  | reopened again reopened =>
    refine .reopened (reopens_append_one.mpr (.inl again)) ?_
    exact (persists_reopened.endures.keeps_perform persists_reopened.withstands.handshakes
      (fun _ => persists_reopened.reconnect)
      (fun _ => close_keeps_closed fun _ left => left.closed) session reopened).after

private theorem standing_afterCalls (open_ : session.closed = false) (calls : List SessionCall) :
    Standing calls (session.afterCalls calls) := by
  induction calls using List.reverseRecOn with
  | nil => exact .open_ List.not_mem_nil open_
  | append_singleton calls call ih =>
    rw [afterCalls_append]
    exact ih.perform call

/-- Closing a session on a simulated tag never fails. It leaves the tag disconnected and
unauthenticated, whatever was called before, unless the session was closed earlier and a reconnection has
opened it again: then it does nothing, and the tag is only released if it has left the field without being
authenticated. -/
theorem close_releases_unless_reopened {tag : SimulatedTag} {family : ChipFamily}
    {random : RandomSource} (opened : openOn tag family random = .ok session)
    (calls : List SessionCall) :
    let before := session.afterCalls calls
    let closed := close.run before
    closed.1 = .ok () ∧
      (closed.2.tag.connected = false ∧ closed.2.tag.isAuthenticated = false ↔
        ¬ Reopens calls ∨ before.tag.lost = true ∧ before.tag.isAuthenticated = false) ∧
      (Reopens calls → closed.2 = before) := by
  intro before closed
  cases standing_afterCalls (openOn_unclosed opened) calls with
  | open_ unclosed open_ =>
    have stays := not_reopens_of_unclosed unclosed
    have ran : closed = (.ok (), { before with
        tag := before.tag.close.2, closed := true, engine := none }) := run_close_open open_
    rw [ran]
    exact ⟨rfl, iff_of_true ⟨rfl, rfl⟩ (.inl stays), fun again => absurd again stays⟩
  | shut _ stays shut =>
    have ran : closed = (.ok (), before) := run_close_closed shut.closed
    have strange : before.tag.isAuthenticated = false := by
      rw [SimulatedTag.isAuthenticated, shut.strange]
    rw [ran]
    exact ⟨rfl, iff_of_true ⟨shut.disconnected, strange⟩ (.inl stays), fun _ => rfl⟩
  | reopened again reopened =>
    have ran : closed = (.ok (), before) := run_close_closed reopened.closed
    have apart : before.tag.connected = false ↔ before.tag.lost = true := by
      rw [reopened.linked]
      cases before.tag.lost <;> decide
    rw [ran, or_iff_right (not_not_intro again), ← apart]
    exact ⟨rfl, Iff.rfl, fun _ => rfl⟩

/-- Closing a second time leaves a tag connected that was connected again after the first time. -/
theorem reopened_tag_stays_connected :
    ∃ session : Session SimulatedTag,
      openOn (SimulatedTag.ultralight [0x04, 0x11, 0x22, 0x33, 0x44, 0x55, 0x66]) .ultralight
        ⟨fun _ => 0, 0⟩ = .ok session ∧
      (close.run (session.afterCalls [.close, .reconnect])).1 = .ok () ∧
      (close.run (session.afterCalls [.close, .reconnect])).2.tag.connected = true :=
  ⟨_, rfl, rfl, rfl⟩

/-- A session that reconnects before it is closed releases its tag. -/
theorem reconnected_tag_is_released :
    ∃ session : Session SimulatedTag,
      openOn (SimulatedTag.ultralight [0x04, 0x11, 0x22, 0x33, 0x44, 0x55, 0x66]) .ultralight
        ⟨fun _ => 0, 0⟩ = .ok session ∧
      (close.run (session.afterCalls [.readUid, .reconnect, .close])).1 = .ok () ∧
      (close.run (session.afterCalls [.readUid, .reconnect, .close])).2.tag.connected = false := by
  have opened : openOn (SimulatedTag.ultralight [0x04, 0x11, 0x22, 0x33, 0x44, 0x55, 0x66])
      .ultralight ⟨fun _ => 0, 0⟩ = .ok _ := rfl
  have unclosed : .close ∉ [SessionCall.readUid] := by decide
  have stays : ¬ Reopens ([.readUid] ++ [.reconnect] ++ [.close]) := by
    rw [reopens_append_one, reopens_append_one]
    rintro ((early | ⟨_, closed⟩) | ⟨other, _⟩)
    · exact not_reopens_of_unclosed unclosed early
    · exact unclosed closed
    · cases other
  obtain ⟨succeeds, releases, _⟩ :=
    close_releases_unless_reopened opened [.readUid, .reconnect, .close]
  exact ⟨_, opened, succeeds, (releases.mpr (.inl stays)).1⟩

end Session
end Wristband
