import Mathlib.Data.List.Induction
import Wristband.Proofs.Tag.Authentication

/-! A simulated tag as everything around it sees it: it is connected, closed and sent frames, in any
order, and answers each of these. -/

namespace Wristband

inductive TagCall where
  | connect
  | close
  | transceive (frame : Bytes)
deriving DecidableEq, Repr

namespace SimulatedTag

variable {tag : SimulatedTag} {frame : Bytes}

def perform (tag : SimulatedTag) : TagCall → Except HardwareError Bytes × SimulatedTag
  | .connect => (tag.connect.1.map fun _ => [], tag.connect.2)
  | .close => (tag.close.1.map fun _ => [], tag.close.2)
  | .transceive frame => tag.transceive frame

def after (tag : SimulatedTag) (calls : List TagCall) : SimulatedTag :=
  calls.foldl (fun tag call => (tag.perform call).2) tag

def answers (tag : SimulatedTag) : List TagCall → List (Except HardwareError Bytes)
  | [] => []
  | call :: calls => (tag.perform call).1 :: (tag.perform call).2.answers calls

theorem after_concat (tag : SimulatedTag) (calls : List TagCall) (call : TagCall) :
    tag.after (calls ++ [call]) = ((tag.after calls).perform call).2 := by
  rw [after, List.foldl_append]
  rfl

theorem perform_connect_of_lost (lost : tag.lost = true) :
    tag.perform .connect = (.error leftField, tag) := by
  rw [perform, connect, lost]
  rfl

theorem perform_connect_of_present (present : tag.lost = false) : tag.perform .connect =
    (.ok [], { tag.unauthenticated with connected := true, connects := tag.connects + 1 }) := by
  rw [perform, connect, present]
  rfl

/-- Something holds of the tag and each of its calls, at the time of the call. -/
def Throughout (holds : SimulatedTag → TagCall → Prop) : SimulatedTag → List TagCall → Prop
  | _, [] => True
  | tag, call :: calls => holds tag call ∧ Throughout holds (tag.perform call).2 calls

def responds (tag : SimulatedTag) : Bool :=
  tag.hears && !exceeds tag.faults.loseAfter (tag.frames.length + 1) &&
    !exceeds tag.faults.timeOutAfter (tag.frames.length + 1)

/-- The command in a frame. With a secure channel that is what comes with the right code, without its
code. -/
def opened? (tag : SimulatedTag) (frame : Bytes) : Option Bytes :=
  match tag.channel? with
  | none => some frame
  | some channel => (channel.openCommand frame).toOption

def received? (tag : SimulatedTag) (frame : Bytes) : Option Bytes :=
  if tag.responds then tag.opened? frame else none

def taken? (tag : SimulatedTag) : TagCall → Option TagCommand
  | .transceive frame => (tag.received? frame).map TagCommand.ofFrame
  | _ => none

theorem taken?_of_received {received : Bytes} (reached : tag.received? frame = some received) :
    tag.taken? (.transceive frame) = some (TagCommand.ofFrame received) := by
  rw [taken?, reached]
  rfl

theorem taken?_eq_some {call : TagCall} {command : TagCommand} (taken : tag.taken? call = some command) :
    ∃ frame received, call = .transceive frame ∧ tag.received? frame = some received ∧
      TagCommand.ofFrame received = command := by
  cases call with
  | connect | close => cases taken
  | transceive frame =>
    obtain ⟨received, reached, means⟩ := Option.map_eq_some_iff.mp taken
    exact ⟨frame, received, rfl, reached, means⟩

private theorem answerFrame_eq (tag : SimulatedTag) (frame : Bytes) : tag.answerFrame frame =
    match tag.opened? frame with
    | none => (.ok [nakIntegrity], tag.unauthenticated)
    | some command => tag.answerCommand tag.channel?.isSome command := by
  unfold answerFrame opened?
  cases tag.channel? with
  | none => rfl
  | some channel =>
    dsimp only
    cases channel.openCommand frame <;> rfl

private theorem transceive_responds (responds : tag.responds = true) (frame : Bytes) :
    tag.transceive frame = (tag.heard frame).answerFrame frame := by
  simp only [SimulatedTag.responds, Bool.and_eq_true, Bool.not_eq_true'] at responds
  obtain ⟨⟨near, stays⟩, speaks⟩ := responds
  exact transceive_within near stays speaks frame

theorem received?_of_silent (silent : tag.responds = false) (frame : Bytes) :
    tag.received? frame = none := by
  rw [received?, silent]
  rfl

theorem transceive_received {received : Bytes} (reached : tag.received? frame = some received) :
    tag.transceive frame = (tag.heard frame).answerCommand tag.channel?.isSome received := by
  cases responds : tag.responds with
  | false =>
    rw [received?_of_silent responds] at reached
    cases reached
  | true =>
    rw [received?, if_pos responds] at reached
    rw [transceive_responds responds, answerFrame_eq,
      show (tag.heard frame).opened? frame = some received from reached]
    rfl

theorem transceive_rejected (responds : tag.responds = true) (wrong : tag.received? frame = none) :
    tag.transceive frame = (.ok [nakIntegrity], (tag.heard frame).unauthenticated) := by
  have closed : (tag.heard frame).opened? frame = none := (if_pos responds).symm.trans wrong
  rw [transceive_responds responds, answerFrame_eq, closed]

/-- A tag that hears the frame, stays for it and speaks then responds. -/
theorem not_silent (silent : tag.responds = false) (present : ¬ tag.lost = true)
    (connected : ¬ (!tag.connected) = true)
    (stays : ¬ exceeds tag.faults.loseAfter (tag.frames ++ [frame]).length = true)
    (speaks : ¬ exceeds tag.faults.timeOutAfter (tag.frames ++ [frame]).length = true) : False := by
  rw [List.length_append, List.length_singleton, Bool.not_eq_true] at stays speaks
  rw [Bool.not_eq_true, Bool.not_eq_false'] at connected
  rw [Bool.not_eq_true] at present
  rw [responds, hears, connected, present, stays, speaks] at silent
  cases silent

theorem transceive_unanswered (silent : tag.responds = false) (frame : Bytes) :
    ∃ error missed, tag.transceive frame = (.error error, missed) ∧
      missed.memory = tag.memory ∧ missed.authentication = tag.authentication := by
  unfold transceive
  split
  · exact ⟨_, _, rfl, rfl, rfl⟩
  next present =>
    split
    · exact ⟨_, _, rfl, rfl, rfl⟩
    next connected =>
      dsimp only
      split
      · exact ⟨_, _, rfl, rfl, rfl⟩
      next stays =>
        split
        · exact ⟨_, _, rfl, rfl, rfl⟩
        next speaks => exact (not_silent silent present connected stays speaks).elim

/-- What becomes of a frame. The tag may not answer, which changes neither its memory nor what it
knows, or refuse a wrong code, or carry out the command. -/
inductive Delivered (tag : SimulatedTag) (frame : Bytes) :
    Except HardwareError Bytes × SimulatedTag → Prop where
  | missed {error : HardwareError} {missed : SimulatedTag} (silent : tag.responds = false)
      (memory : missed.memory = tag.memory) (same : missed.authentication = tag.authentication) :
      Delivered tag frame (.error error, missed)
  | rejected (responds : tag.responds = true) (wrong : tag.received? frame = none) :
      Delivered tag frame (.ok [nakIntegrity], (tag.heard frame).unauthenticated)
  | answered {received : Bytes} (reached : tag.received? frame = some received) :
      Delivered tag frame ((tag.heard frame).answerCommand tag.channel?.isSome received)

theorem transceive_delivered (tag : SimulatedTag) (frame : Bytes) :
    tag.Delivered frame (tag.transceive frame) := by
  cases responds : tag.responds with
  | false =>
    obtain ⟨error, missed, unanswered, memory, same⟩ := transceive_unanswered responds frame
    rw [unanswered]
    exact .missed responds memory same
  | true =>
    cases reached : tag.received? frame with
    | none =>
      rw [transceive_rejected responds reached]
      exact .rejected responds reached
    | some received =>
      rw [transceive_received reached]
      exact .answered reached

theorem chip_perform (tag : SimulatedTag) (call : TagCall) : (tag.perform call).2.chip = tag.chip := by
  cases call with
  | connect =>
    rw [perform, connect]
    split <;> rfl
  | close => rfl
  | transceive frame => exact tag.chip_transceive frame

theorem chip_after (tag : SimulatedTag) (calls : List TagCall) : (tag.after calls).chip = tag.chip := by
  induction calls using List.reverseRecOn with
  | nil => rfl
  | append_singleton calls call ih => rw [after_concat, chip_perform, ih]

end SimulatedTag
end Wristband
