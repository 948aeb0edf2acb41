import Wristband.Proofs.Broker.Succession
import Wristband.Reader.Basic

/-! A reader over its whole life. Every tag that comes into the field while reader mode is on is
handled once, in the order of coming, also when reader mode is switched off first. Between two moves
the loop runs exactly while reader mode is on. -/

namespace Wristband

inductive DeskEvent (τ : Type) where
  | given (tag : τ)
  | used (change : Broker → Broker)

namespace DeskEvent

variable {τ : Type}

def tag? : DeskEvent τ → Option τ
  | given tag => some tag
  | used _ => none

def change? : DeskEvent τ → Option (Broker → Broker)
  | given _ => none
  | used change => some change

end DeskEvent

structure DeskLog (τ : Type) extends Desk where
  handled : List τ

namespace DeskLog

variable {τ : Type} [NfcTag τ]

def after (log : DeskLog τ) : DeskEvent τ → DeskLog τ
  | .given tag =>
    let (served, desk) := log.toDesk.present tag
    ⟨desk, log.handled ++ [served.tag]⟩
  | .used change => { log with broker := change log.broker }

def afterAll (log : DeskLog τ) (events : List (DeskEvent τ)) : DeskLog τ := events.foldl after log

end DeskLog

namespace NfcReader

/-- What can happen to a reader. A tag that is presented while the queue is full waits for its place, and
a pause returns when the loop has ended. -/
inductive Move (τ : Type) where
  | resume
  | pause
  | present (tag : τ)
  | turn
  | used (change : Broker → Broker)

/-- What the moves alone tell: whether the last resume or pause was a resume, which tags came while it
was, what changed at the broker, and how many resumes did not follow another one. -/
structure Ledger (τ : Type) where
  resumed : Bool
  presented : List τ
  changes : List (Broker → Broker)
  switchedOn : Nat

def Ledger.empty {τ : Type} : Ledger τ := ⟨false, [], [], 0⟩

def Ledger.record {τ : Type} (ledger : Ledger τ) : Move τ → Ledger τ
  | .resume =>
    if ledger.resumed then ledger
    else { ledger with resumed := true, switchedOn := ledger.switchedOn + 1 }
  | .pause => { ledger with resumed := false }
  | .present tag =>
    if ledger.resumed then { ledger with presented := ledger.presented ++ [tag] } else ledger
  | .turn => ledger
  | .used change => { ledger with changes := ledger.changes ++ [change] }

def Ledger.recordAll {τ : Type} (ledger : Ledger τ) (moves : List (Move τ)) : Ledger τ :=
  moves.foldl record ledger

variable {τ : Type} [NfcTag τ] {start : DeskLog τ} {reader after : NfcReader τ} {tag : τ}

def perform (reader : NfcReader τ) : Move τ → NfcReader τ
  | .resume => reader.resume
  | .pause => reader.pause
  | .present tag =>
    match reader.present tag with
    | .ok after => after
    | .error .queueFull => reader.lineUp tag
    | .error .readerModeDisabled => reader
  | .turn => reader.turn?.getD reader
  | .used change => { reader with broker := change reader.broker }

def afterMoves (reader : NfcReader τ) (moves : List (Move τ)) : NfcReader τ :=
  moves.foldl perform reader

def desk (reader : NfcReader τ) : DeskLog τ := ⟨⟨reader.broker, reader.random⟩, reader.handled⟩

def waiting (reader : NfcReader τ) : List τ := reader.queue.getD []

/-- Each presented tag was given to the dispatcher or waits, in the order of presentation, and
nothing else has happened at the desk but what the callers did. -/
def Accounts (start : DeskLog τ) (presented : List τ) (changes : List (Broker → Broker))
    (reader : NfcReader τ) : Prop :=
  ∃ events : List (DeskEvent τ),
    events.filterMap DeskEvent.tag? ++ reader.waiting = presented ∧
      events.filterMap DeskEvent.change? = changes ∧ reader.desk = start.afterAll events

section Accounts

variable {presented : List τ} {changes : List (Broker → Broker)}

private theorem Accounts.congr (accounts : reader.Accounts start presented changes)
    (sameWaiting : after.waiting = reader.waiting) (sameDesk : after.desk = reader.desk) :
    after.Accounts start presented changes := by
  obtain ⟨events, tags, used, reached⟩ := accounts
  exact ⟨events, by rw [sameWaiting, tags], used, sameDesk.trans reached⟩

private theorem Accounts.turn? (accounts : reader.Accounts start presented changes)
    (turned : reader.turn? = some after) : after.Accounts start presented changes := by
  obtain ⟨_, queued, rfl⟩ | ⟨tag, tags, queued, rfl⟩ := turn?_eq_some turned
  · exact accounts.congr (by rw [waiting, waiting, queued]; rfl) rfl
  · obtain ⟨events, given, used, reached⟩ := accounts
    refine ⟨events ++ [.given tag], ?_, ?_, ?_⟩
    · rw [waiting, queued] at given
      rw [List.filterMap_append, List.append_assoc]
      exact given
    · rw [List.filterMap_append]
      exact (List.append_nil _).trans used
    · rw [DeskLog.afterAll, List.foldl_append]
      exact congrArg (DeskLog.after · (.given tag)) reached

private theorem Accounts.settle (accounts : reader.Accounts start presented changes) :
    reader.settle.Accounts start presented changes := by
  induction reader using NfcReader.settle.induct with
  | case1 reader waits =>
    rw [settle_of_waits waits]
    exact accounts
  | case2 reader after turned ih =>
    rw [settle_of_turned turned]
    exact ih (accounts.turn? turned)

private theorem Accounts.lineUp (accounts : reader.Accounts start presented changes)
    (running : reader.isRunning = true) (tag : τ) :
    (reader.lineUp tag).Accounts start (presented ++ [tag]) changes := by
  obtain ⟨events, given, used, reached⟩ := accounts
  obtain ⟨tags, queued⟩ := Option.isSome_iff_exists.mp running
  refine ⟨events, ?_, used, reached⟩
  rw [← given, List.append_assoc]
  simp only [waiting, NfcReader.lineUp, queued, Option.map_some, Option.getD_some]

private theorem Accounts.used (accounts : reader.Accounts start presented changes)
    (change : Broker → Broker) :
    { reader with broker := change reader.broker }.Accounts start presented
      (changes ++ [change]) := by
  obtain ⟨events, given, used, reached⟩ := accounts
  refine ⟨events ++ [.used change], ?_, ?_, ?_⟩
  · rw [List.filterMap_append, ← given]
    exact congrArg (· ++ reader.waiting) (List.append_nil _)
  · rw [List.filterMap_append, used]
    rfl
  · rw [DeskLog.afterAll, List.foldl_append]
    exact congrArg (DeskLog.after · (.used change)) reached

end Accounts

private theorem turn?_keeps (turned : reader.turn? = some after) :
    after.enabled = reader.enabled ∧ after.enables = reader.enables := by
  obtain ⟨_, _, rfl⟩ | ⟨tag, tags, _, rfl⟩ := turn?_eq_some turned <;> exact ⟨rfl, rfl⟩

private theorem settle_keeps (reader : NfcReader τ) :
    reader.settle.enabled = reader.enabled ∧ reader.settle.enables = reader.enables := by
  induction reader using NfcReader.settle.induct with
  | case1 reader waits =>
    rw [settle_of_waits waits]
    exact ⟨rfl, rfl⟩
  | case2 reader after turned ih =>
    rw [settle_of_turned turned, ih.1, ih.2]
    exact turn?_keeps turned

private theorem isRunning_turn? (inMode : reader.isRunning = reader.enabled)
    (turned : reader.turn? = some after) : after.isRunning = reader.isRunning := by
  obtain ⟨off, queued, rfl⟩ | ⟨tag, tags, queued, rfl⟩ := turn?_eq_some turned
  · rw [inMode, off]
    rfl
  · have running : reader.isRunning = true := by rw [isRunning, queued]; rfl
    rw [running]
    rfl

private theorem queue_settle (off : reader.enabled = false) : reader.settle.queue = none := by
  induction reader using NfcReader.settle.induct with
  | case1 reader waits =>
    rw [settle_of_waits waits]
    exact queue_of_waits waits off
  | case2 reader after turned ih =>
    rw [settle_of_turned turned]
    exact ih ((turn?_keeps turned).1.trans off)

omit [NfcTag τ] in
private theorem present_of_off (off : reader.enabled = false) (tag : τ) :
    reader.present tag = .error .readerModeDisabled := by
  rw [present, off]
  rfl

private theorem perform_present_of_on (on : reader.enabled = true) (running : reader.isRunning = true)
    (tag : τ) : reader.perform (.present tag) = reader.lineUp tag := by
  obtain ⟨tags, queued⟩ := Option.isSome_iff_exists.mp running
  by_cases full : queueLimit ≤ tags.length <;> simp [perform, present, on, queued, full]

structure Conforms (start : DeskLog τ) (ledger : Ledger τ) (reader : NfcReader τ) : Prop where
  enabled : reader.enabled = ledger.resumed
  running : reader.isRunning = ledger.resumed
  enables : reader.enables = ledger.switchedOn
  accounts : reader.Accounts start ledger.presented ledger.changes

variable {ledger : Ledger τ}

private theorem conforms_new (config : ReaderConfig) (random : RandomSource) :
    (new config random : NfcReader τ).Conforms ⟨.new random, []⟩ .empty where
  enabled := rfl
  running := rfl
  enables := rfl
  accounts := ⟨[], rfl, rfl, rfl⟩

private theorem Conforms.resume (conforms : reader.Conforms start ledger) :
    (reader.perform .resume).Conforms start (ledger.record .resume) := by
  have running := conforms.running
  unfold perform NfcReader.resume Ledger.record
  dsimp only
  rw [running]
  cases resumed : ledger.resumed with
  | true =>
    rw [if_pos rfl, if_pos rfl]
    exact conforms
  | false =>
    rw [resumed] at running
    have ended : reader.queue = none := by simpa [isRunning] using running
    rw [if_neg Bool.false_ne_true, if_neg Bool.false_ne_true]
    refine ⟨rfl, rfl, congrArg (· + 1) conforms.enables, ?_⟩
    exact conforms.accounts.congr (by rw [waiting, waiting, ended]; rfl) rfl

private theorem Conforms.pause (conforms : reader.Conforms start ledger) :
    (reader.perform .pause).Conforms start (ledger.record .pause) := by
  have kept := settle_keeps { reader with enabled := false }
  have accounts : { reader with enabled := false }.Accounts start ledger.presented ledger.changes :=
    conforms.accounts.congr rfl rfl
  have ended : { reader with enabled := false }.settle.queue = none := queue_settle rfl
  exact ⟨kept.1, congrArg Option.isSome ended, kept.2.trans conforms.enables, accounts.settle⟩

private theorem Conforms.present (conforms : reader.Conforms start ledger) (tag : τ) :
    (reader.perform (.present tag)).Conforms start (ledger.record (.present tag)) := by
  have enabled := conforms.enabled
  have running := conforms.running
  unfold Ledger.record
  dsimp only
  cases resumed : ledger.resumed with
  | false =>
    rw [resumed] at enabled
    rw [perform, present_of_off enabled, if_neg Bool.false_ne_true]
    exact conforms
  | true =>
    rw [resumed] at enabled running
    rw [perform_present_of_on enabled running, if_pos rfl]
    exact ⟨enabled, Option.isSome_map.trans running, conforms.enables,
      conforms.accounts.lineUp running tag⟩

private theorem Conforms.turn (conforms : reader.Conforms start ledger) :
    (reader.perform .turn).Conforms start (ledger.record .turn) := by
  unfold perform
  dsimp only
  cases turned : reader.turn? with
  | none => exact conforms
  | some after =>
    have kept := turn?_keeps turned
    have inMode := conforms.running.trans conforms.enabled.symm
    exact ⟨kept.1.trans conforms.enabled, (isRunning_turn? inMode turned).trans conforms.running,
      kept.2.trans conforms.enables, conforms.accounts.turn? turned⟩

private theorem Conforms.perform (conforms : reader.Conforms start ledger) (move : Move τ) :
    (reader.perform move).Conforms start (ledger.record move) := by
  cases move with
  | resume => exact conforms.resume
  | pause => exact conforms.pause
  | present tag => exact conforms.present tag
  | turn => exact conforms.turn
  | used change =>
    exact ⟨conforms.enabled, conforms.running, conforms.enables, conforms.accounts.used change⟩

private theorem Conforms.afterMoves (conforms : reader.Conforms start ledger) (moves : List (Move τ)) :
    (reader.afterMoves moves).Conforms start (ledger.recordAll moves) := by
  induction moves generalizing reader ledger with
  | nil => exact conforms
  | cons move rest ih => exact ih (conforms.perform move)

private theorem Conforms.present_eq_disabled_iff (conforms : reader.Conforms start ledger) (tag : τ) :
    reader.present tag = .error .readerModeDisabled ↔ ledger.resumed = false := by
  have enabled := conforms.enabled
  have running := conforms.running
  cases resumed : ledger.resumed with
  | false =>
    rw [resumed] at enabled
    exact ⟨fun _ => rfl, fun _ => present_of_off enabled tag⟩
  | true =>
    rw [resumed] at enabled running
    obtain ⟨tags, queued⟩ := Option.isSome_iff_exists.mp running
    by_cases full : queueLimit ≤ tags.length <;>
      simp [NfcReader.present, enabled, queued, full]

/-- Whatever is done with a reader, in any order: a tag is turned away exactly while reader mode is
off. The dispatcher is given the tags that came while it was on, each once and in their order, and all
of them by the time that it is off again. Reader mode is switched on once for each resume that finds
it off. -/
theorem presented_tags_given_once_in_order (config : ReaderConfig) (random : RandomSource)
    (moves : List (Move τ)) :
    let reader := (new config random : NfcReader τ).afterMoves moves
    let ledger := Ledger.empty.recordAll moves
    (∀ tag, reader.present tag = .error .readerModeDisabled ↔ ledger.resumed = false) ∧
      reader.isRunning = ledger.resumed ∧
      reader.enables = ledger.switchedOn ∧
      ∃ events : List (DeskEvent τ),
        events.filterMap DeskEvent.tag? ++ reader.waiting = ledger.presented ∧
          events.filterMap DeskEvent.change? = ledger.changes ∧
          reader.desk = DeskLog.afterAll ⟨.new random, []⟩ events ∧
          (ledger.resumed = false → events.filterMap DeskEvent.tag? = ledger.presented) := by
  intro reader ledger
  have conforms : reader.Conforms ⟨.new random, []⟩ ledger :=
    (conforms_new config random).afterMoves moves
  obtain ⟨events, given, used, reached⟩ := conforms.accounts
  refine ⟨conforms.present_eq_disabled_iff, conforms.running, conforms.enables, events, given, used,
    reached, fun off => ?_⟩
  have ended : reader.queue = none := by simpa [isRunning, off] using conforms.running
  rw [waiting, ended] at given
  exact (List.append_nil _).symm.trans given

end NfcReader
end Wristband
