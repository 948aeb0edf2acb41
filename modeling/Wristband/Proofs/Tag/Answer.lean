import Wristband.Proofs.Bytes.Overwrite
import Wristband.Proofs.SecureChannel
import Wristband.Tag.Simulated.Answer

/-! What a frame can do to a simulated tag. Its memory changes only by a WRITE, and everything
else that a command touches is about authentication. -/

namespace Wristband

def TagCommand.IsReadFrom (frame : Bytes) : TagCommand → Prop
  | getVersion => frame = [CommandCode.getVersion.code]
  | read page => frame = [CommandCode.read.code, page]
  | write page data =>
    frame = CommandCode.write.code :: page :: data ∧ data.length = Layout.pageSize
  | authenticate slot => frame = [CommandCode.authenticate.code, slot]
  | continueAuthentication message => frame = CommandCode.continueAuthentication.code :: message
  | unknown => True

private theorem TagCommand.isReadFrom_ofFrame (frame : Bytes) : (ofFrame frame).IsReadFrom frame := by
  unfold ofFrame
  split
  · trivial
  next code arguments =>
    split
    next known =>
      split
      next bare => rw [IsReadFrom, known, bare]
      next => trivial
    split
    next known =>
      split
      next => rw [IsReadFrom, known]
      next => trivial
    split
    next known =>
      split
      next page data =>
        split
        next sized => exact ⟨by rw [known], sized⟩
        next => trivial
      next => trivial
    split
    next known =>
      split
      next => rw [IsReadFrom, known]
      next => trivial
    split
    next known =>
      split
      next => rw [IsReadFrom, known]
      next => trivial
    next => trivial

theorem TagCommand.isReadFrom {frame : Bytes} {command : TagCommand}
    (means : ofFrame frame = command) : command.IsReadFrom frame :=
  means ▸ isReadFrom_ofFrame frame

namespace TagCommand

def argumentsLength (code : UInt8) : Nat :=
  if code = CommandCode.getVersion.code then 0
  else if code = CommandCode.read.code ∨ code = CommandCode.authenticate.code then 1
  else if code = CommandCode.write.code then Layout.pageSize + 1
  else Frame.responseLength

private theorem length_of_known {code : UInt8} {arguments : Bytes}
    (known : ofFrame (code :: arguments) ≠ .unknown) :
    arguments.length = argumentsLength code := by
  cases means : ofFrame (code :: arguments) with
  | unknown => exact absurd means known
  | getVersion | read | authenticate =>
    cases isReadFrom means
    rfl
  | write page data =>
    obtain ⟨same, sized⟩ := isReadFrom means
    cases same
    exact congrArg (· + 1) sized
  | continueAuthentication message =>
    cases isReadFrom means
    apply Classical.byContradiction
    intro other
    exact known (if_neg other)

/-- No command begins another one. -/
theorem not_begun {command rest : Bytes} (known : ofFrame command ≠ .unknown) (more : rest ≠ []) :
    ofFrame (command ++ rest) = .unknown := by
  apply Classical.byContradiction
  intro longer
  cases command with
  | nil => exact known rfl
  | cons code arguments =>
    have short := length_of_known known
    have long : (arguments ++ rest).length = argumentsLength code := length_of_known longer
    rw [List.length_append, short] at long
    exact more (List.length_eq_zero_iff.mp (Nat.add_eq_left.mp long))

end TagCommand

namespace SimulatedTag

/-- Between two states of a tag nothing changed but its memory and its authentication. -/
def Evolves (before after : SimulatedTag) : Prop :=
  after = { before with
    memory := after.memory
    authentication := after.authentication
    random := after.random
    sealedResponses := after.sealedResponses }

variable {tag : SimulatedTag}

theorem Evolves.frames {after : SimulatedTag} (evolves : tag.Evolves after) :
    after.frames = tag.frames := by
  rw [evolves]

private theorem Evolves.chip {after : SimulatedTag} (evolves : tag.Evolves after) :
    after.chip = tag.chip := by
  rw [evolves]

private theorem Evolves.unauthenticated {after : SimulatedTag} (evolves : tag.Evolves after) :
    tag.Evolves after.unauthenticated := by
  unfold Evolves at *
  rw [evolves]
  rfl

/-- Only WRITE stores anything, and it stores one page. -/
def Stores (before after : SimulatedTag) (command : Bytes) : Prop :=
  after.memory = before.memory ∨ ∃ page data, data.length = Layout.pageSize ∧
    command = CommandCode.write.code :: page :: data ∧
      after.memory = before.memory.overwrite (pageStart page) data

theorem authenticate_evolves (slot : UInt8) : tag.Evolves (tag.authenticate slot).2 ∧
    (tag.authenticate slot).2.memory = tag.memory := by
  unfold authenticate
  dsimp only
  split
  · split
    · exact ⟨rfl, rfl⟩
    · split <;> exact ⟨rfl, rfl⟩
  · split
    · exact ⟨rfl, rfl⟩
    · split <;> exact ⟨rfl, rfl⟩
  · exact ⟨rfl, rfl⟩

theorem continueAuthentication_evolves (message : Bytes) :
    tag.Evolves (tag.continueAuthentication message).2 ∧
      (tag.continueAuthentication message).2.memory = tag.memory := by
  unfold continueAuthentication
  split
  · exact ⟨rfl, rfl⟩
  · split
    · split <;> exact ⟨rfl, rfl⟩
    · split <;> exact ⟨rfl, rfl⟩
    · exact ⟨rfl, rfl⟩

private theorem write_evolves (page : UInt8) (data : Bytes) : tag.Evolves (tag.write page data).2 ∧
    ((tag.write page data).2.memory = tag.memory ∨
      (tag.write page data).2.memory = tag.memory.overwrite (pageStart page) data) := by
  unfold write
  split
  · exact ⟨rfl, .inl rfl⟩
  · split
    · exact ⟨rfl, .inl rfl⟩
    · exact ⟨rfl, .inr rfl⟩

theorem execute_evolves (command : Bytes) : tag.Evolves (tag.execute command).2 ∧
    tag.Stores (tag.execute command).2 command := by
  unfold execute
  cases means : TagCommand.ofFrame command with
  | getVersion | read | unknown => exact ⟨rfl, .inl rfl⟩
  | authenticate slot =>
    obtain ⟨evolves, same⟩ := tag.authenticate_evolves slot
    exact ⟨evolves, .inl same⟩
  | continueAuthentication message =>
    obtain ⟨evolves, same⟩ := tag.continueAuthentication_evolves message
    exact ⟨evolves, .inl same⟩
  | write page data =>
    obtain ⟨shape, sized⟩ := TagCommand.isReadFrom means
    obtain ⟨evolves, same | stored⟩ := tag.write_evolves page data
    · exact ⟨evolves, .inl same⟩
    · exact ⟨evolves, .inr ⟨page, data, sized, shape, stored⟩⟩

theorem sealReply_evolves (payload : Bytes) : tag.Evolves (tag.sealReply payload).2 ∧
    (tag.sealReply payload).2.memory = tag.memory := by
  unfold sealReply
  split
  · exact ⟨rfl, rfl⟩
  · split
    · exact ⟨rfl, rfl⟩
    · dsimp only
      split <;> exact ⟨rfl, rfl⟩

private theorem Evolves.trans {middle after : SimulatedTag} (first : tag.Evolves middle)
    (second : middle.Evolves after) : tag.Evolves after := by
  unfold Evolves at *
  rw [second, first]

theorem answerCommand_evolves (viaChannel : Bool) (command : Bytes) :
    tag.Evolves (tag.answerCommand viaChannel command).2 ∧
      tag.Stores (tag.answerCommand viaChannel command).2 command := by
  obtain ⟨evolves, stores⟩ := tag.execute_evolves command
  unfold answerCommand
  rcases executed : tag.execute command with ⟨payload | code, after⟩ <;>
    rw [executed] at evolves stores
  · cases viaChannel with
    | true =>
      obtain ⟨sealed, same⟩ := after.sealReply_evolves payload
      refine ⟨evolves.trans sealed, ?_⟩
      unfold Stores at *
      simpa only [if_true, same] using stores
    | false => exact ⟨evolves, stores⟩
  · exact ⟨evolves.unauthenticated, stores⟩

/-- What a frame stores is a WRITE that it begins with, whether a code follows or not. -/
theorem answerFrame_evolves (frame : Bytes) : tag.Evolves (tag.answerFrame frame).2 ∧
    ∃ command, command <+: frame ∧ tag.Stores (tag.answerFrame frame).2 command := by
  unfold answerFrame
  split
  · obtain ⟨evolves, stores⟩ := tag.answerCommand_evolves false frame
    exact ⟨evolves, frame, List.prefix_rfl, stores⟩
  · split
    · exact ⟨rfl, frame, List.prefix_rfl, .inl rfl⟩
    next opened =>
      obtain ⟨evolves, stores⟩ := tag.answerCommand_evolves true _
      exact ⟨evolves, _, SecureChannel.openCommand_prefix opened, stores⟩

def hears (tag : SimulatedTag) : Bool := tag.connected && !tag.lost

theorem hears_of_connected (connected : tag.connected = true) (present : tag.lost = false) :
    tag.hears = true := by
  rw [hears, connected, present]
  rfl

theorem transceive_unheard (deaf : tag.hears = false) (frame : Bytes) :
    ∃ error, tag.transceive frame = (.error error, tag) := by
  unfold hears at deaf
  unfold transceive
  cases lost : tag.lost with
  | true => exact ⟨_, by rw [if_pos rfl]⟩
  | false =>
    have away : tag.connected = false := by simpa [lost] using deaf
    exact ⟨_, by rw [if_neg Bool.false_ne_true, if_pos (by rw [away]; rfl)]⟩

/-- The tag once it has heard a frame and not answered it yet. -/
def heard (tag : SimulatedTag) (frame : Bytes) : SimulatedTag :=
  { tag with frames := tag.frames ++ [frame] }

theorem transceive_heard (near : tag.hears = true) (frame : Bytes) :
    tag.transceive frame = (.error leftField, (tag.heard frame).remove) ∨
      tag.transceive frame = (.error (.timeout silence), tag.heard frame) ∨
        tag.transceive frame = (tag.heard frame).answerFrame frame := by
  obtain ⟨connected, here⟩ := Bool.and_eq_true_iff.mp near
  have present : ¬ tag.lost = true := by simpa using here
  unfold transceive
  rw [if_neg present, if_neg (by rw [connected]; exact Bool.false_ne_true)]
  dsimp only
  split
  · exact .inl rfl
  · split
    · exact .inr (.inl rfl)
    · exact .inr (.inr rfl)

/-- A tag that is there answers as long as no limit is exceeded. -/
theorem transceive_within (near : tag.hears = true)
    (stays : exceeds tag.faults.loseAfter (tag.frames.length + 1) = false)
    (answers : exceeds tag.faults.timeOutAfter (tag.frames.length + 1) = false) (frame : Bytes) :
    tag.transceive frame = (tag.heard frame).answerFrame frame := by
  obtain ⟨connected, here⟩ := Bool.and_eq_true_iff.mp near
  have present : ¬ tag.lost = true := by simpa using here
  unfold transceive
  rw [if_neg present, if_neg (by rw [connected]; exact Bool.false_ne_true)]
  simp only [List.length_append, List.length_singleton, stays, answers, Bool.false_eq_true, if_false]
  rfl

theorem chip_transceive (tag : SimulatedTag) (frame : Bytes) :
    (tag.transceive frame).2.chip = tag.chip := by
  cases near : tag.hears with
  | false =>
    obtain ⟨_, unheard⟩ := transceive_unheard near frame
    rw [unheard]
  | true =>
    obtain left | silent | answered := transceive_heard near frame
    · rw [left]
      rfl
    · rw [silent]
      rfl
    · rw [answered, (answerFrame_evolves frame).1.chip]
      rfl

theorem frames_transceive (tag : SimulatedTag) (frame : Bytes) :
    (tag.transceive frame).2.frames =
      if tag.hears then tag.frames ++ [frame] else tag.frames := by
  cases near : tag.hears with
  | false =>
    obtain ⟨_, unheard⟩ := transceive_unheard near frame
    rw [unheard]
    rfl
  | true =>
    obtain left | silent | answered := transceive_heard near frame
    · rw [left]
      rfl
    · rw [silent]
      rfl
    · rw [answered, (answerFrame_evolves frame).1.frames]
      rfl

theorem memory_transceive (tag : SimulatedTag) (frame : Bytes) :
    ∃ command, command <+: frame ∧ tag.Stores (tag.transceive frame).2 command := by
  cases near : tag.hears with
  | false =>
    obtain ⟨_, unheard⟩ := transceive_unheard near frame
    exact ⟨frame, List.prefix_rfl, .inl (by rw [unheard])⟩
  | true =>
    obtain left | silent | answered := transceive_heard near frame
    · exact ⟨frame, List.prefix_rfl, .inl (by rw [left]; rfl)⟩
    · exact ⟨frame, List.prefix_rfl, .inl (by rw [silent]; rfl)⟩
    · rw [answered]
      exact (answerFrame_evolves frame).2

end SimulatedTag
end Wristband
