import Wristband.Proofs.Tag.Ready

/-! What the faults of a simulated tag have to do with its answers. They are looked at in three places:
when a frame comes in, in the second step of a handshake, and when a code is put on an answer. In all
other things two tags are alike that only differ in their faults. -/

namespace Wristband.SimulatedTag

variable {tag : SimulatedTag} {faults : Faults}

private theorem authenticate_withFaults (tag : SimulatedTag) (faults : Faults) (slot : UInt8) :
    (tag.withFaults faults).authenticate slot =
      ((tag.authenticate slot).1, (tag.authenticate slot).2.withFaults faults) := by
  obtain ⟨chip, id, technologies, memory, connected, lost, authentication, random, frames, connects,
    closes, sealedResponses, own⟩ := tag
  simp only [authenticate, withFaults, unauthenticated, keyAt]
  cases chip with
  | ultralight => rfl
  | ultralightC | ultralightAes =>
    dsimp only
    split
    · rfl
    · split <;> rfl

private theorem continueAuthentication_withFaults
    (rejects : faults.rejectAuthentication = tag.faults.rejectAuthentication) (message : Bytes) :
    (tag.withFaults faults).continueAuthentication message =
      ((tag.continueAuthentication message).1,
        (tag.continueAuthentication message).2.withFaults faults) := by
  obtain ⟨chip, id, technologies, memory, connected, lost, authentication, random, frames, connects,
    closes, sealedResponses, own⟩ := tag
  change _ = own.rejectAuthentication at rejects
  simp only [continueAuthentication, withFaults, rejects]
  split
  · rfl
  · split
    · split <;> rfl
    · split <;> rfl
    · rfl

private theorem write_withFaults (tag : SimulatedTag) (faults : Faults) (page : UInt8) (data : Bytes) :
    (tag.withFaults faults).write page data =
      ((tag.write page data).1, (tag.write page data).2.withFaults faults) := by
  have same : (tag.withFaults faults).write page data =
      if page < Layout.userStart ∨ tag.family.pageCount ≤ page then
        (refused, tag.withFaults faults)
      else if !tag.isAuthenticated ∧ tag.auth0 ≤ page then (refused, tag.withFaults faults)
      else (.data [Layout.ack], (tag.store page data).withFaults faults) := rfl
  rw [same, write]
  split
  · rfl
  · split <;> rfl

theorem execute_withFaults
    (rejects : faults.rejectAuthentication = tag.faults.rejectAuthentication) (command : Bytes) :
    (tag.withFaults faults).execute command =
      ((tag.execute command).1, (tag.execute command).2.withFaults faults) := by
  unfold execute
  cases TagCommand.ofFrame command with
  | getVersion | read | unknown => rfl
  | write page data => exact tag.write_withFaults faults page data
  | authenticate slot => exact tag.authenticate_withFaults faults slot
  | continueAuthentication message => exact continueAuthentication_withFaults rejects message

theorem sealedResponses_execute (tag : SimulatedTag) (command : Bytes) :
    (tag.execute command).2.sealedResponses = tag.sealedResponses := by
  unfold execute
  cases TagCommand.ofFrame command with
  | getVersion | read | unknown => rfl
  | write page data =>
    simp only [write]
    split
    · rfl
    · split <;> rfl
  | authenticate slot =>
    simp only [authenticate]
    split
    · split
      · rfl
      · split <;> rfl
    · split
      · rfl
      · split <;> rfl
    · rfl
  | continueAuthentication message =>
    simp only [continueAuthentication]
    split
    · rfl
    · split
      · split <;> rfl
      · split <;> rfl
      · rfl

private theorem sealedResponses_sealReply (tag : SimulatedTag) (payload : Bytes) :
    tag.sealedResponses ≤ (tag.sealReply payload).2.sealedResponses := by
  unfold sealReply
  split
  · exact Nat.le_refl _
  · split
    · exact Nat.le_refl _
    · dsimp only
      split <;> exact Nat.le_succ _

private theorem sealedResponses_answerFrame (tag : SimulatedTag) (frame : Bytes) :
    tag.sealedResponses ≤ (tag.answerFrame frame).2.sealedResponses := by
  have answered (viaChannel : Bool) (command : Bytes) :
      tag.sealedResponses ≤ (tag.answerCommand viaChannel command).2.sealedResponses := by
    have same := tag.sealedResponses_execute command
    unfold answerCommand
    rcases executed : tag.execute command with ⟨payload | code, after⟩ <;> rw [executed] at same
    · cases viaChannel with
      | false => exact Nat.le_of_eq same.symm
      | true => exact Nat.le_trans (Nat.le_of_eq same.symm) (after.sealedResponses_sealReply payload)
    · exact Nat.le_of_eq same.symm
  unfold answerFrame
  split
  · exact answered _ _
  · split
    · exact Nat.le_refl _
    · exact answered _ _

/-- Responses with a code are only ever added to. -/
theorem sealedResponses_transceive (tag : SimulatedTag) (frame : Bytes) :
    tag.sealedResponses ≤ (tag.transceive frame).2.sealedResponses := by
  cases near : tag.hears with
  | false =>
    obtain ⟨_, unheard⟩ := transceive_unheard near frame
    exact Nat.le_of_eq (by rw [unheard])
  | true =>
    obtain left | quiet | answered := transceive_heard near frame
    · exact Nat.le_of_eq (by rw [left]; rfl)
    · exact Nat.le_of_eq (by rw [quiet]; rfl)
    · rw [answered]
      exact (tag.heard frame).sealedResponses_answerFrame frame

def Spoils (tag : SimulatedTag) : Prop := tag.faults.corruptCodeOn = some (tag.sealedResponses + 1)

private theorem sealReply_withFaults (spoils : (tag.withFaults faults).Spoils ↔ tag.Spoils)
    (payload : Bytes) : (tag.withFaults faults).sealReply payload =
      ((tag.sealReply payload).1, (tag.sealReply payload).2.withFaults faults) := by
  have alike : (tag.withFaults faults).channel? = tag.channel? := rfl
  unfold sealReply
  rw [alike]
  cases tag.channel? with
  | none => rfl
  | some channel =>
    dsimp only
    cases channel.sealResponse payload with
    | error => rfl
    | ok sealed =>
      unfold Spoils at spoils
      dsimp only
      by_cases hit : tag.faults.corruptCodeOn = some (tag.sealedResponses + 1)
      · rw [if_pos hit, if_pos (spoils.mpr hit)]
        rfl
      · rw [if_neg hit, if_neg fun other => hit (spoils.mp other)]
        rfl

/-- An answer that is sealed depends on the faults if the code of the next one is to be spoilt. -/
theorem answerCommand_withFaults
    (rejects : faults.rejectAuthentication = tag.faults.rejectAuthentication) {viaChannel : Bool}
    (spoils : viaChannel = true → ((tag.withFaults faults).Spoils ↔ tag.Spoils)) (command : Bytes) :
    (tag.withFaults faults).answerCommand viaChannel command =
      ((tag.answerCommand viaChannel command).1,
        (tag.answerCommand viaChannel command).2.withFaults faults) := by
  have faultsKept := (tag.execute_evolves command).1.faults
  have count := tag.sealedResponses_execute command
  unfold answerCommand
  rw [execute_withFaults rejects]
  rcases executed : tag.execute command with ⟨payload | code, after⟩
  · rw [executed] at faultsKept count
    cases viaChannel with
    | false => rfl
    | true =>
      refine sealReply_withFaults ?_ payload
      change faults.corruptCodeOn = some (after.sealedResponses + 1) ↔
        after.faults.corruptCodeOn = some (after.sealedResponses + 1)
      rw [faultsKept, count]
      exact spoils rfl
  · rfl

theorem answerFrame_withFaults
    (rejects : faults.rejectAuthentication = tag.faults.rejectAuthentication)
    (spoils : tag.channel? ≠ none → ((tag.withFaults faults).Spoils ↔ tag.Spoils)) (frame : Bytes) :
    (tag.withFaults faults).answerFrame frame =
      ((tag.answerFrame frame).1, (tag.answerFrame frame).2.withFaults faults) := by
  unfold answerFrame
  have same : (tag.withFaults faults).channel? = tag.channel? := rfl
  rw [same]
  cases active : tag.channel? with
  | none =>
    exact answerCommand_withFaults rejects (fun through => absurd through Bool.false_ne_true) frame
  | some channel =>
    dsimp only
    cases channel.openCommand frame with
    | error => rfl
    | ok command =>
      have some_ : tag.channel? ≠ none := by rw [active]; exact nofun
      exact answerCommand_withFaults rejects (fun _ => spoils some_) command

end Wristband.SimulatedTag
