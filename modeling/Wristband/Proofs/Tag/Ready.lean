import Wristband.Proofs.Handshake.Agreement
import Wristband.Proofs.Tag.Requests

/-! What a tag that is there and shows no faults answers to a command. It answers every frame, and
the frame alone decides whether it carries the command out. -/

namespace Wristband.SimulatedTag

variable {tag : SimulatedTag} {command payload : Bytes} {channel : SecureChannel}

theorem Evolves.hears {after : SimulatedTag} (evolves : tag.Evolves after) :
    after.hears = tag.hears := by
  rw [evolves]
  rfl

theorem Evolves.faults {after : SimulatedTag} (evolves : tag.Evolves after) :
    after.faults = tag.faults := by
  rw [evolves]

/-- Only one chip has codes to ask for. -/
theorem chip_of_cmacEnabled (coded : tag.cmacEnabled = true) : tag.chip = .ultralightAes := by
  rw [cmacEnabled, Bool.and_eq_true] at coded
  exact eq_of_beq coded.1

theorem Ready.present (ready : tag.Ready) : tag.lost = false := by
  have near := ready.near
  rw [hears, Bool.and_eq_true, Bool.not_eq_true'] at near
  exact near.2

theorem Ready.transceive (ready : tag.Ready) (frame : Bytes) : (tag.transceive frame).2.Ready := by
  have evolves := (tag.heard frame).answerFrame_evolves frame
  rw [transceive_faultless ready.near ready.faultless]
  exact ⟨evolves.1.hears.trans ready.near, evolves.1.faults.trans ready.faultless⟩

private theorem sealReply_silent {error : HardwareError} (silent : (tag.sealReply payload).1 = .error error) :
    error.isConnectionLoss = false := by
  unfold sealReply at silent
  split at silent
  · cases silent
  · split at silent
    · cases silent
      rfl
    · dsimp only at silent
      split at silent <;> cases silent

private theorem answerCommand_silent {viaChannel : Bool} {error : HardwareError}
    (silent : (tag.answerCommand viaChannel command).1 = .error error) :
    error.isConnectionLoss = false := by
  unfold answerCommand at silent
  split at silent
  · cases silent
  · split at silent
    · exact sealReply_silent silent
    · cases silent

theorem Ready.silent (ready : tag.Ready) {frame : Bytes} {error : HardwareError}
    (silent : (tag.transceive frame).1 = .error error) : error.isConnectionLoss = false := by
  rw [transceive_faultless ready.near ready.faultless, answerFrame] at silent
  split at silent
  · exact answerCommand_silent silent
  · split at silent
    · cases silent
    · exact answerCommand_silent silent

theorem Ready.answers_plain (ready : tag.Ready) (open_ : tag.channel? = none)
    (request : Frame.IsRequest command)
    (data : ((tag.heard command).execute command).1 = .data payload) :
    ∃ after, tag.transceive command = (.ok payload, after) ∧
      after.authentication = tag.authentication ∧
      after.memory = ((tag.heard command).execute command).2.memory := by
  have executes : (tag.heard command).execute command =
      (.data payload, ((tag.heard command).execute command).2) := by rw [← data]
  exact ⟨_, transceive_data ready.near ready.faultless open_ executes,
    (tag.heard command).execute_request request.2, rfl⟩

theorem Ready.transceive_plain (ready : tag.Ready) (open_ : tag.channel? = none) (frame : Bytes) :
    tag.transceive frame = (tag.heard frame).answerCommand false frame := by
  have closed : (tag.heard frame).channel? = none := open_
  rw [transceive_faultless ready.near ready.faultless, answerFrame_plain closed]

theorem Ready.refuses_plain (ready : tag.Ready) (open_ : tag.channel? = none)
    (nak : ((tag.heard command).execute command).1 = refused) :
    ∃ after, tag.transceive command = (.ok [nakRefused], after) ∧ after.authentication = .none := by
  refine ⟨((tag.heard command).execute command).2.unauthenticated, ?_, rfl⟩
  rw [ready.transceive_plain open_, answerCommand_refused nak]

/-- Under a channel that is not used up the tag seals what it returns, and counts it. -/
theorem Ready.answers_sealed (ready : tag.Ready) (active : tag.channel? = some channel)
    (fresh : channel.counter ≠ SecureChannel.lastCounter) (sized : channel.sessionKey.length = 16)
    (request : Frame.IsRequest command) {frame : Bytes}
    (sealed_ : frame = command ++ channel.code channel.counter command)
    (data : ((tag.heard frame).execute command).1 = .data payload) :
    ∃ after, tag.transceive frame =
        (.ok (payload ++ channel.code (channel.counter + 1) payload), after) ∧
      after.authentication = .authenticated (some channel.advanced) ∧
      after.memory = ((tag.heard frame).execute command).2.memory := by
  have evolves := ((tag.heard frame).execute_evolves command).1
  have same := (tag.heard frame).execute_request request.2
  rcases executes : (tag.heard frame).execute command with ⟨reply, after⟩
  rw [executes] at data evolves same
  cases data
  have still : after.channel? = some channel := (channel?_congr same).trans active
  have unspoilt : after.faults.corruptCodeOn = none := by
    rw [evolves.faults]
    exact congrArg Faults.corruptCodeOn ready.faultless
  refine ⟨{ after with
    authentication := .authenticated (some channel.advanced)
    sealedResponses := after.sealedResponses + 1 }, ?_, rfl, rfl⟩
  have opens : channel.openCommand frame = .ok command := by
    rw [sealed_]
    exact SecureChannel.openCommand_ok fresh sized command
  have activeHeard : (tag.heard frame).channel? = some channel := active
  rw [transceive_faultless ready.near ready.faultless, answerFrame, activeHeard]
  simp only [opens, answerCommand, executes, if_true, sealReply, still,
    SecureChannel.sealResponse_ok fresh, unspoilt, reduceCtorEq, if_false]

end Wristband.SimulatedTag
