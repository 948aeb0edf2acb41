import Wristband.Broker.Dispatch
import Wristband.Reader.Options

/-! Reader mode. While it is on, presented tags queue up for a loop that handles them one
after the other. Switching it off closes the queue, and the loop ends when it has handled
everything that is still in it. -/

namespace Wristband

/-- Why a tag does not get into the queue at once. -/
inductive PresentError where
  | readerModeDisabled
  | queueFull
deriving DecidableEq, Repr

structure NfcReader (τ : Type) where
  broker : Broker
  options : ReaderOptions
  random : RandomSource
  /-- Reader mode is on, so that tags can get into the queue. -/
  enabled : Bool
  /-- The tags that the loop has not taken yet, while there is a loop. The queue has room
  for so many, and those behind them wait for room. -/
  queue : Option (List τ)
  /-- The tags that were handled, as they were left, the first one first. -/
  handled : List τ
  /-- The options of the last time that reader mode was switched on. -/
  lastOptions : Option ReaderOptions
  /-- How often reader mode was switched on. -/
  enables : Nat

namespace NfcReader

variable {τ : Type}

/-- How many tags the queue has room for. -/
def queueLimit : Nat := 16

def new (config : ReaderConfig) (random : RandomSource) : NfcReader τ :=
  { broker := .new, options := config.options, random := random, enabled := false, queue := none,
    handled := [], lastOptions := none, enables := 0 }

/-- There is a loop. -/
def isRunning (reader : NfcReader τ) : Bool := reader.queue.isSome

/-- Switches reader mode on and starts the loop, unless there is one already. -/
def resume (reader : NfcReader τ) : NfcReader τ :=
  if reader.isRunning then reader
  else
    { reader with
      enabled := true, queue := some [], lastOptions := some reader.options,
      enables := reader.enables + 1 }

/-- Puts a tag behind all others that are not handled yet. -/
def lineUp (reader : NfcReader τ) (tag : τ) : NfcReader τ :=
  { reader with queue := reader.queue.map (· ++ [tag]) }

/-- Brings a tag into the field. When the queue is full, the caller can wait for room or
give up. -/
def present (reader : NfcReader τ) (tag : τ) : Except PresentError (NfcReader τ) :=
  if reader.enabled then
    match reader.queue with
    | none => .error .readerModeDisabled
    | some tags =>
      if queueLimit ≤ tags.length then .error .queueFull else .ok (reader.lineUp tag)
  else .error .readerModeDisabled

variable [NfcTag τ]

/-- Handles one tag. -/
def handle (reader : NfcReader τ) (tag : τ) : NfcReader τ :=
  let (broker, served) := reader.broker.handleTag tag reader.random
  { reader with
    broker := broker, random := served.random, handled := reader.handled ++ [served.tag] }

/-- What the loop does next: it handles the first tag of the queue, or ends when the queue
is closed. Otherwise it waits. -/
def turn? (reader : NfcReader τ) : Option (NfcReader τ) :=
  match reader.queue with
  | none => none
  | some [] => if reader.enabled then none else some { reader with queue := none }
  | some (tag :: tags) => some ({ reader with queue := some tags }.handle tag)

/-- A turn ends the loop or handles a tag. -/
theorem turn?_eq_some {reader after : NfcReader τ} (turned : reader.turn? = some after) :
    (reader.enabled = false ∧ reader.queue = some [] ∧ after = { reader with queue := none }) ∨
      ∃ tag tags, reader.queue = some (tag :: tags) ∧
        after = { reader with queue := some tags }.handle tag := by
  unfold turn? at turned
  split at turned
  · cases turned
  next queued =>
    split at turned
    · cases turned
    next off =>
      cases turned
      exact .inl ⟨Bool.eq_false_iff.mpr off, queued, rfl⟩
  next tag tags queued =>
    cases turned
    exact .inr ⟨tag, tags, queued, rfl⟩

/-- The loop waits only while reader mode is on. -/
theorem queue_of_waits {reader : NfcReader τ} (waits : reader.turn? = none)
    (off : reader.enabled = false) : reader.queue = none := by
  unfold turn? at waits
  split at waits
  next ended => exact ended
  · rw [off] at waits
    cases waits
  · cases waits

/-- How often the loop can take a turn before it must wait. -/
def backlog (reader : NfcReader τ) : Nat :=
  match reader.queue with
  | none => 0
  | some tags => tags.length + 1

theorem backlog_turn? {reader after : NfcReader τ} (turned : reader.turn? = some after) :
    after.backlog < reader.backlog := by
  obtain ⟨_, queued, rfl⟩ | ⟨tag, tags, queued, rfl⟩ := turn?_eq_some turned
  · simp only [backlog, queued, Nat.lt_succ_self, List.length_nil]
  · simp only [backlog, queued, handle, List.length_cons, Nat.lt_succ_self]

/-- Lets the loop run until it waits or has ended. -/
def settle (reader : NfcReader τ) : NfcReader τ :=
  match _ : reader.turn? with
  | none => reader
  | some after => after.settle
termination_by reader.backlog
decreasing_by
  apply backlog_turn?
  assumption

theorem settle_of_waits {reader : NfcReader τ} (waits : reader.turn? = none) :
    reader.settle = reader := by
  rw [settle]
  split
  · rfl
  next turned => cases waits.symm.trans turned

theorem settle_of_turned {reader after : NfcReader τ} (turned : reader.turn? = some after) :
    reader.settle = after.settle := by
  rw [settle]
  split
  next waits => cases turned.symm.trans waits
  next same => rw [Option.some.inj (turned.symm.trans same)]

/-- Switches reader mode off and waits until the loop has ended. -/
def pause (reader : NfcReader τ) : NfcReader τ := { reader with enabled := false }.settle

def description (reader : NfcReader τ) : String :=
  s!"NfcReader \x7b reader_mode: {reader.enabled}, options: " ++
    reader.options.description ++ ", .. \x7d"

end NfcReader
end Wristband
