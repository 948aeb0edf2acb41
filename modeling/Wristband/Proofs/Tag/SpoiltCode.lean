import Wristband.Proofs.Tag.Faults

/-! A response with a code that a tag spoils. It is as long as it should be, and the terminal reads the
same payload from it, but the code is not the one of that payload. -/

namespace Wristband

def Faults.spoiling (response : Nat) : Faults := { Faults.none with corruptCodeOn := some response }

namespace SimulatedTag

variable {tag : SimulatedTag} {channel : SecureChannel} {command payload : Bytes} {spoilt : Nat}

theorem length_spoilLast (bytes : Bytes) : (spoilLast bytes).length = bytes.length :=
  List.length_modify _ _ _

private theorem spoilLast_ne {bytes : Bytes} (some_ : bytes ≠ []) : spoilLast bytes ≠ bytes := by
  intro same
  have last : bytes.length - 1 < bytes.length :=
    Nat.sub_lt (List.length_pos_iff.mpr some_) Nat.one_pos
  have byte := congrArg (·[bytes.length - 1]?) same
  simp only [spoilLast, List.getElem?_modify, if_true, List.getElem?_eq_getElem last] at byte
  have flipped : bytes[bytes.length - 1] ^^^ 0xFF = bytes[bytes.length - 1] := Option.some.inj byte
  have mask := congrArg (bytes[bytes.length - 1] ^^^ ·) flipped
  simp only [← UInt8.xor_assoc, UInt8.xor_self, UInt8.zero_xor] at mask
  cases mask

private theorem take_spoilLast {bytes : Bytes} {count : Nat} (before : count ≤ bytes.length - 1) :
    (spoilLast bytes).take count = bytes.take count := by
  have same := congrArg (List.take count) (dropLast_spoilLast bytes)
  rwa [List.dropLast_eq_take, List.dropLast_eq_take, List.take_take, List.take_take,
    length_spoilLast, Nat.min_eq_left before] at same

/-- A code that is spoilt is refused, and nothing else is wrong with the response. -/
theorem openResponse_spoilt (fresh : channel.counter ≠ SecureChannel.lastCounter)
    (sized : channel.sessionKey.length = 16) (payload : Bytes) :
    channel.openResponse (spoilLast (payload ++ channel.code (channel.counter + 1) payload)) =
      .error .cmacMismatch := by
  have coded := channel.length_code sized (channel.counter + 1) payload
  generalize known : channel.code (channel.counter + 1) payload = code at coded ⊢
  have length : (payload ++ code).length = payload.length + SecureChannel.codeLength := by
    rw [List.length_append, coded]
  have read : (spoilLast (payload ++ code)).take payload.length = payload := by
    rw [take_spoilLast (by rw [length]; exact Nat.le_add_right _ 7), List.take_left]
  have different : ¬ code = (spoilLast (payload ++ code)).drop payload.length := by
    intro same
    have whole := List.take_append_drop payload.length (spoilLast (payload ++ code))
    rw [read, ← same] at whole
    refine spoilLast_ne (fun none_ => ?_) whole.symm
    rw [none_] at length
    cases length
  have kept : (spoilLast (payload ++ code)).length - SecureChannel.codeLength = payload.length := by
    rw [length_spoilLast, length, Nat.add_sub_cancel]
  have long : ¬ (spoilLast (payload ++ code)).length < SecureChannel.codeLength := by
    rw [length_spoilLast, length]
    exact Nat.not_lt.mpr (Nat.le_add_left _ _)
  rw [SecureChannel.openResponse, SecureChannel.checkCounter, if_neg fresh]
  simp only [SecureChannel.verify, kept, read, known, if_neg long, if_neg different]
  rfl

private theorem sealReply_eq (active : tag.channel? = some channel)
    (fresh : channel.counter ≠ SecureChannel.lastCounter) (payload : Bytes) :
    tag.sealReply payload =
      (.ok (if tag.faults.corruptCodeOn = some (tag.sealedResponses + 1) then
          spoilLast (payload ++ channel.code (channel.counter + 1) payload)
        else payload ++ channel.code (channel.counter + 1) payload),
        { tag with
          authentication := .authenticated (some channel.advanced)
          sealedResponses := tag.sealedResponses + 1 }) := by
  rw [sealReply, active]
  dsimp only
  rw [SecureChannel.sealResponse_ok fresh]
  dsimp only
  split <;> rfl

/-- The answers to a command that came with its code, after so many responses with a code: of a tag
without faults, and of the same tag if it spoils some response. -/
inductive Coded (channel : SecureChannel) (before response : Nat) :
    Except HardwareError Bytes × SimulatedTag → Except HardwareError Bytes × SimulatedTag → Prop where
  | refused {after : SimulatedTag} (count : after.sealedResponses = before) :
      Coded channel before response (.ok [nakRefused], after)
        (.ok [nakRefused], after.withFaults (.spoiling response))
  | answered {payload : Bytes} {after : SimulatedTag}
      (count : after.sealedResponses = before + 1)
      (advanced : after.channel? = some channel.advanced) (other : response ≠ after.sealedResponses) :
      Coded channel before response
        (.ok (payload ++ channel.code (channel.counter + 1) payload), after)
        (.ok (payload ++ channel.code (channel.counter + 1) payload),
          after.withFaults (.spoiling response))
  | spoilt {payload : Bytes} {after : SimulatedTag}
      (count : after.sealedResponses = before + 1)
      (advanced : after.channel? = some channel.advanced) (this : response = after.sealedResponses) :
      Coded channel before response
        (.ok (payload ++ channel.code (channel.counter + 1) payload), after)
        (.ok (spoilLast (payload ++ channel.code (channel.counter + 1) payload)),
          after.withFaults (.spoiling response))

private theorem answerCommand_coded (faultless : tag.faults = .none) (active : tag.channel? = some channel)
    (fresh : channel.counter ≠ SecureChannel.lastCounter) (request : Frame.IsRequest command)
    (response : Nat) :
    Coded channel tag.sealedResponses response (tag.answerCommand true command)
      ((tag.withFaults (.spoiling response)).answerCommand true command) := by
  have rejects : (Faults.spoiling response).rejectAuthentication = tag.faults.rejectAuthentication := by
    rw [faultless]
    rfl
  have count := tag.sealedResponses_execute command
  have other := execute_withFaults rejects command
  obtain nak | ⟨payload, data⟩ := tag.execute_reply command
  · have nak' : ((tag.withFaults (.spoiling response)).execute command).1 = SimulatedTag.refused := by
      rw [other]
      exact nak
    rw [answerCommand_refused nak, answerCommand_refused nak', other]
    exact .refused count
  · have same := tag.execute_request request.2
    have kept := (tag.execute_evolves command).1.faults
    rcases executed : tag.execute command with ⟨reply, after⟩
    rw [executed] at data count other same kept
    cases data
    have still : after.channel? = some channel := (channel?_congr same).trans active
    have still' : (after.withFaults (.spoiling response)).channel? = some channel := still
    have unspoilt : ¬ after.faults.corruptCodeOn = some (after.sealedResponses + 1) := by
      rw [kept, faultless]
      exact nofun
    rw [answerCommand, answerCommand, executed, other]
    dsimp only
    rw [if_pos rfl, if_pos rfl, sealReply_eq still fresh, sealReply_eq still' fresh, if_neg unspoilt]
    have next : after.sealedResponses + 1 = tag.sealedResponses + 1 := congrArg (· + 1) count
    by_cases this : response = after.sealedResponses + 1
    · have hit : (after.withFaults (.spoiling response)).faults.corruptCodeOn =
          some ((after.withFaults (.spoiling response)).sealedResponses + 1) := congrArg some this
      rw [if_pos hit]
      exact .spoilt next rfl this
    · have miss : ¬ (after.withFaults (.spoiling response)).faults.corruptCodeOn =
          some ((after.withFaults (.spoiling response)).sealedResponses + 1) :=
        fun hit => this (Option.some.inj hit)
      rw [if_neg miss]
      exact .answered next rfl this

theorem Ready.answers_coded (ready : tag.Ready) (active : tag.channel? = some channel)
    (fresh : channel.counter ≠ SecureChannel.lastCounter) (sized : channel.sessionKey.length = 16)
    (request : Frame.IsRequest command) (response : Nat) :
    Coded channel tag.sealedResponses response
      (tag.transceive (command ++ channel.code channel.counter command))
      ((tag.withFaults (.spoiling response)).transceive
        (command ++ channel.code channel.counter command)) := by
  have opens := SecureChannel.openCommand_ok fresh sized command
  generalize command ++ channel.code channel.counter command = frame at opens ⊢
  have near' : (tag.withFaults (.spoiling response)).hears = true := ready.near
  have activeHeard : (tag.heard frame).channel? = some channel := active
  have own : tag.transceive frame = (tag.heard frame).answerCommand true command := by
    rw [transceive_faultless ready.near ready.faultless, answerFrame, activeHeard]
    simp only [opens]
  have other : (tag.withFaults (.spoiling response)).transceive frame =
      ((tag.heard frame).withFaults (.spoiling response)).answerCommand true command := by
    have activeHeard' : ((tag.withFaults (.spoiling response)).heard frame).channel? =
        some channel := active
    rw [transceive_within near' rfl rfl, answerFrame, activeHeard']
    simp only [opens]
    rfl
  rw [own, other]
  have faultlessHeard : (tag.heard frame).faults = .none := ready.faultless
  exact answerCommand_coded faultlessHeard activeHeard fresh request response

end SimulatedTag
end Wristband
