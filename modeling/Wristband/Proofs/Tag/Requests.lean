import Wristband.Proofs.Tag.Authentication
import Wristband.Proofs.Tag.Content

/-! How a tag takes a READ or a WRITE, with a code and without. A command with a code is too long
for a tag that uses none, and a command without a code is too short for a tag that does, so a tag
never carries out what was meant for the other kind. -/

namespace Wristband

inductive Frame.IsAccess : Bytes → Prop where
  | read (page : UInt8) : IsAccess [CommandCode.read.code, page]
  | write (page : UInt8) {data : Bytes} (sized : data.length = Layout.pageSize) :
      IsAccess (CommandCode.write.code :: page :: data)

namespace Frame.IsAccess

variable {command : Bytes} (access : Frame.IsAccess command)
include access

theorem short : command.length < SecureChannel.codeLength := by
  cases access with
  | read => exact (by decide : 2 < 8)
  | write page sized =>
    rw [List.length_cons, List.length_cons, sized]
    decide

theorem known : TagCommand.ofFrame command ≠ .unknown := by
  cases access with
  | read => exact nofun
  | write page sized =>
    rw [show TagCommand.ofFrame (CommandCode.write.code :: page :: _) = _ from if_pos sized]
    exact nofun

end Frame.IsAccess

namespace SimulatedTag

variable {tag : SimulatedTag} {command frame : Bytes} {page : UInt8}

theorem execute_read (tag : SimulatedTag) (page : UInt8) :
    tag.execute [CommandCode.read.code, page] = (tag.read page, tag) := rfl

theorem execute_write (tag : SimulatedTag) (page : UInt8) {data : Bytes}
    (sized : data.length = Layout.pageSize) :
    tag.execute (CommandCode.write.code :: page :: data) = tag.write page data := by
  have means : TagCommand.ofFrame (CommandCode.write.code :: page :: data) = .write page data :=
    if_pos sized
  rw [execute, means]

/-- A WRITE that is answered with data was carried out. -/
theorem write_eq_data {data payload : Bytes} (answered : (tag.write page data).1 = .data payload) :
    tag.write page data = (.data [Layout.ack], tag.store page data) := by
  unfold write at answered ⊢
  split
  next outside =>
    rw [if_pos outside] at answered
    cases answered
  next inside =>
    rw [if_neg inside] at answered
    split
    next refused_ =>
      rw [if_pos refused_] at answered
      cases answered
    next => rfl

theorem answerFrame_plain (open_ : tag.channel? = none) (frame : Bytes) :
    tag.answerFrame frame = tag.answerCommand false frame := by
  rw [answerFrame, open_]

/-- A tag that uses codes refuses what is too short for one. -/
theorem answerFrame_short {channel : SecureChannel} (active : tag.channel? = some channel)
    (short : frame.length < SecureChannel.codeLength) :
    tag.answerFrame frame = (.ok [nakIntegrity], tag.unauthenticated) := by
  rw [answerFrame, active]
  dsimp only
  split
  · rfl
  next opened => exact absurd (SecureChannel.openCommand_eq_ok opened).1 (Nat.not_le.mpr short)

private theorem answerFrame_unknown (open_ : tag.channel? = none)
    (unknown : TagCommand.ofFrame frame = .unknown) :
    tag.answerFrame frame = (.ok [nakRefused], tag.unauthenticated) := by
  rw [answerFrame_plain open_, answerCommand, execute, unknown]
  rfl

/-- A tag that uses no codes takes no command with a code for one without. -/
theorem answerFrame_unasked (open_ : tag.channel? = none)
    (known : TagCommand.ofFrame command ≠ .unknown) {code : Bytes}
    (sized : code.length = SecureChannel.codeLength) :
    tag.answerFrame (command ++ code) = (.ok [nakRefused], tag.unauthenticated) := by
  refine answerFrame_unknown open_ (TagCommand.not_begun known ?_)
  rintro rfl
  cases sized

/-- What a tag says to a command that has a code which it does not ask for, or lacks one for which it
asks. -/
def complaint (tag : SimulatedTag) : UInt8 :=
  if tag.channel?.isSome then nakIntegrity else nakRefused

theorem complaint_ne_ack (tag : SimulatedTag) : tag.complaint ≠ Layout.ack := by
  unfold complaint
  split <;> decide

/-- A tag that uses codes accepts no command without one, not even if the end of the command should
happen to be a code of the rest. -/
theorem answerFrame_uncoded {channel : SecureChannel} (active : tag.channel? = some channel)
    (known : TagCommand.ofFrame command ≠ .unknown) : ∃ status, status ≠ Layout.ack ∧
      tag.answerFrame command = (.ok [status], tag.unauthenticated) := by
  rw [answerFrame, active]
  dsimp only
  cases opened : channel.openCommand command with
  | error => exact ⟨nakIntegrity, by decide, rfl⟩
  | ok begun =>
    obtain ⟨rest, rfl⟩ := SecureChannel.openCommand_prefix opened
    have long := (SecureChannel.openCommand_eq_ok opened).1
    have more : rest ≠ [] := by
      have shorter := congrArg List.length (SecureChannel.openCommand_eq_ok opened).2
      rintro rfl
      rw [List.append_nil] at shorter long
      rw [List.length_take, SecureChannel.codeLength] at shorter
      rw [SecureChannel.codeLength] at long
      omega
    have unknown : TagCommand.ofFrame begun = .unknown :=
      Classical.byContradiction fun known_ => known (TagCommand.not_begun known_ more)
    have executed : tag.execute begun = (refused, tag) := by rw [execute, unknown]
    refine ⟨nakRefused, by decide, ?_⟩
    dsimp only
    rw [answerCommand_refused (by rw [executed]), executed]

/-- How a tag takes a command for its memory: in silence, with a refusal, or by carrying it out,
with an answer that shows what it returns. -/
inductive Taken (tag : SimulatedTag) (command : Bytes) (Shows : Bytes → Bytes → Prop) :
    Except HardwareError Bytes × SimulatedTag → Prop where
  | silent {error : HardwareError} {after : SimulatedTag} :
      Taken tag command Shows (.error error, after)
  | refused {status : UInt8} {after : SimulatedTag} (refusal : status ≠ Layout.ack) :
      Taken tag command Shows (.ok [status], after)
  | carriedOut {payload response : Bytes} {after : SimulatedTag}
      (data : (tag.execute command).1 = .data payload)
      (same : after.memory = (tag.execute command).2.memory) (shows_ : Shows payload response) :
      Taken tag command Shows (.ok response, after)

theorem answerFrame_bare (access : Frame.IsAccess command) :
    tag.Taken command (· = ·) (tag.answerFrame command) := by
  cases active : tag.channel? with
  | some channel =>
    rw [answerFrame_short active access.short]
    exact .refused (by decide)
  | none =>
    rw [answerFrame_plain active]
    obtain nak | ⟨payload, data⟩ := tag.execute_reply command
    · rw [answerCommand_refused nak]
      exact .refused (by decide)
    · rw [answerCommand_unsealed data fun through => absurd through Bool.false_ne_true]
      exact .carriedOut data rfl rfl

theorem dropLast_spoilLast (bytes : Bytes) : (spoilLast bytes).dropLast = bytes.dropLast := by
  unfold spoilLast
  rw [List.dropLast_eq_take, List.dropLast_eq_take, List.length_modify]
  apply List.ext_getElem?
  intro index
  by_cases inside : index < bytes.length - 1
  · have other : ¬ bytes.length - 1 = index := by omega
    rw [List.getElem?_take_of_lt inside, List.getElem?_take_of_lt inside, List.getElem?_modify]
    simp only [if_neg other, Option.map_eq_map, Option.map_id']
  · rw [List.getElem?_take_eq_none (Nat.le_of_not_lt inside),
      List.getElem?_take_eq_none (Nat.le_of_not_lt inside)]

private theorem sealReply_shows {payload : Bytes} {result : Except HardwareError Bytes × SimulatedTag}
    (replied : tag.sealReply payload = result) : result.2.memory = tag.memory ∧
      ∀ response, result.1 = .ok response → ∃ rest, response.dropLast <+: payload ++ rest := by
  subst replied
  refine ⟨(tag.sealReply_evolves payload).2, ?_⟩
  intro response replied
  unfold sealReply at replied
  split at replied
  · cases replied
    exact ⟨[], (List.append_nil payload).symm ▸ List.dropLast_prefix _⟩
  next channel _ =>
    split at replied
    · cases replied
    next sealed =>
      obtain ⟨rfl, _⟩ := SecureChannel.sealResponse_eq_ok sealed
      refine ⟨channel.code (channel.counter + 1) payload, ?_⟩
      dsimp only at replied
      split at replied
      · cases replied
        rw [dropLast_spoilLast]
        exact List.dropLast_prefix _
      · cases replied
        exact List.dropLast_prefix _

theorem answerFrame_coded (access : Frame.IsAccess command) {code : Bytes}
    (sized : code.length = SecureChannel.codeLength) :
    tag.Taken command (fun payload response => ∃ rest, response.dropLast <+: payload ++ rest)
      (tag.answerFrame (command ++ code)) := by
  cases active : tag.channel? with
  | none =>
    rw [answerFrame_unasked active access.known sized]
    exact .refused (by decide)
  | some channel =>
    rw [answerFrame, active]
    dsimp only
    cases opened : channel.openCommand (command ++ code) with
    | error => exact .refused (by decide)
    | ok meant =>
      obtain ⟨_, same⟩ := SecureChannel.openCommand_eq_ok opened
      rw [List.length_append, sized, Nat.add_sub_cancel, List.take_left] at same
      subst same
      dsimp only
      obtain nak | ⟨payload, data⟩ := tag.execute_reply meant
      · rw [answerCommand_refused nak]
        exact .refused (by decide)
      · rcases executed : tag.execute meant with ⟨reply, after⟩
        have kept := data
        rw [executed] at data
        cases data
        rw [answerCommand, executed]
        dsimp only
        rw [if_pos rfl]
        rcases replied : after.sealReply payload with ⟨error | response, final⟩
        · exact .silent
        · obtain ⟨same, shows_⟩ := sealReply_shows replied
          refine .carriedOut kept ?_ (shows_ response rfl)
          rw [executed]
          exact same

end SimulatedTag
end Wristband
