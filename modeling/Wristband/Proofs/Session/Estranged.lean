import Wristband.Proofs.Session.Recognised

/-! A terminal and a tag that have recognised each other, but of which only one uses codes. The tag
uses them exactly if it is to, whatever the terminal asks for, and so the handshake itself does not
show that they differ: the first command after it does, and the tag ends the session with it. -/

namespace Wristband

/-- The terminal has been recognised, or is about to be, without a channel only if the tag is to use no
codes. -/
def TagAuthentication.Fits (codes : Bool) : TagAuthentication → Prop
  | .tdesChallenge .. | .authenticated .none => codes = false
  | .none | .aesChallenge .. | .authenticated (some _) => True

namespace SimulatedTag

variable {tag : SimulatedTag}

private theorem authenticate_fits (slot : UInt8) :
    (tag.authenticate slot).2.authentication.Fits tag.cmacEnabled := by
  unfold authenticate
  dsimp only
  split
  next chip =>
    have uncoded : tag.cmacEnabled = false := by
      have other : tag.chip = .ultralightC := chip
      rw [cmacEnabled, other]
      rfl
    split
    · trivial
    · split
      · trivial
      · exact uncoded
  · split
    · trivial
    · split <;> trivial
  · trivial

private theorem continueAuthentication_fits (fits : tag.authentication.Fits tag.cmacEnabled)
    (message : Bytes) :
    (tag.continueAuthentication message).2.authentication.Fits tag.cmacEnabled := by
  unfold continueAuthentication
  split
  · trivial
  · split
    next waits =>
      rw [waits] at fits
      split
      · trivial
      · exact fits
    · split
      · trivial
      · cases codes : tag.cmacEnabled <;> trivial
    · trivial

private theorem execute_fits (fits : tag.authentication.Fits tag.cmacEnabled) (command : Bytes) :
    (tag.execute command).2.authentication.Fits tag.cmacEnabled := by
  unfold execute
  cases TagCommand.ofFrame command with
  | getVersion | read | unknown => exact fits
  | write page data =>
    simp only [write]
    split
    · exact fits
    · split <;> exact fits
  | authenticate slot => exact authenticate_fits slot
  | continueAuthentication message => exact continueAuthentication_fits fits message

private theorem sealReply_fits {codes : Bool} (fits : tag.authentication.Fits codes) (payload : Bytes) :
    (tag.sealReply payload).2.authentication.Fits codes := by
  unfold sealReply
  split
  · exact fits
  · split
    · exact fits
    · dsimp only
      split <;> trivial

private theorem answerCommand_fits (fits : tag.authentication.Fits tag.cmacEnabled) (viaChannel : Bool)
    (command : Bytes) :
    (tag.answerCommand viaChannel command).2.authentication.Fits tag.cmacEnabled := by
  have executed := tag.execute_fits fits command
  unfold answerCommand
  split
  · trivial
  next ran =>
    rw [ran] at executed
    split
    · exact sealReply_fits executed _
    · exact executed

private theorem answerFrame_fits (fits : tag.authentication.Fits tag.cmacEnabled) (frame : Bytes) :
    (tag.answerFrame frame).2.authentication.Fits tag.cmacEnabled := by
  unfold answerFrame
  split
  · exact answerCommand_fits fits false frame
  · split
    · trivial
    · exact answerCommand_fits fits true _

private theorem channel?_of_fits {codes : Bool} (fits : tag.authentication.Fits codes)
    (recognised : tag.isAuthenticated = true) (asks : codes = true) :
    tag.channel?.isSome = true := by
  unfold isAuthenticated at recognised
  unfold channel?
  cases standing : tag.authentication with
  | none | tdesChallenge | aesChallenge =>
    rw [standing] at recognised
    cases recognised
  | authenticated channel =>
    rw [standing] at fits
    cases channel with
    | none => cases asks.symm.trans fits
    | some channel => rfl

end SimulatedTag

namespace Session

variable {image : SimulatedTag} {session : Session SimulatedTag}

private theorem fits_handshakes (image : SimulatedTag) : Handshakes fun session : Session SimulatedTag =>
    session.Attends image ∧ session.tag.authentication.Fits image.cmacEnabled where
  engine _ _ kept := ⟨(attends_handshakes image).engine _ _ kept.1, kept.2⟩
  random _ _ kept := ⟨(attends_handshakes image).random _ _ kept.1, kept.2⟩
  step command handshake session kept := exchange_leaves fun _ after exchanged => by
    refine ⟨kept.1.exchanged handshake.storesNothing exchanged, ?_⟩
    obtain ⟨sameTag, _⟩ | ⟨frame, _, sameTag, _⟩ := exchanged.transmission
    · rw [sameTag]
      exact kept.2
    · have same : (session.tag.heard frame).cmacEnabled = image.cmacEnabled :=
        kept.1.resembles.cmacEnabled
      have fits : (session.tag.heard frame).authentication.Fits
        (session.tag.heard frame).cmacEnabled := same ▸ kept.2
      have left := SimulatedTag.answerFrame_fits fits frame
      rw [same, ← SimulatedTag.transceive_faultless kept.1.ready.near kept.1.ready.faultless] at left
      rw [sameTag]
      exact left

/-- The key that the tag holds is accepted even if only one side asks for codes, and then only that
side has a channel. -/
theorem IsFresh.held_estranged (fresh : session.IsFresh image) (chip : image.chip = .ultralightAes)
    {key : AuthKey} {slot : KeySlot} (held : image.Holds key slot) {cmac : Bool}
    (mismatch : cmac ≠ image.cmacEnabled) :
    ∃ final, (authenticate key slot cmac).run session = (.ok (), final) ∧
      final.Recognised image ∧ final.channel?.isSome ≠ final.tag.channel?.isSome ∧
      final.tag.channel?.isSome = image.cmacEnabled := by
  obtain ⟨final, ran, recognised, asked, uncoded, _⟩ := fresh.held held cmac
  have begins : session.tag.authentication.Fits image.cmacEnabled := by
    rw [fresh.strange]
    trivial
  have fits := (ensures_of_ok ran).mp
    ((fits_handshakes image).authenticate key slot cmac session ⟨fresh.toAttends, begins⟩)
  have theirs : final.tag.channel?.isSome = image.cmacEnabled := by
    cases codes : image.cmacEnabled with
    | true => exact SimulatedTag.channel?_of_fits fits.1.2 recognised.alike codes
    | false =>
      rw [uncoded codes]
      rfl
  have own : final.channel?.isSome = cmac := by
    rw [asked, SimulatedTag.family, chip]
    exact Bool.true_and cmac
  refine ⟨final, ran, recognised, ?_, theirs⟩
  rw [own, theirs]
  exact mismatch

end Session
end Wristband
