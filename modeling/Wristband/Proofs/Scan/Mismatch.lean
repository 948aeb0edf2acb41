import Wristband.Proofs.Scan.Closing
import Wristband.Proofs.Scan.FailedWrites
import Wristband.Proofs.Session.Estranged

/-! Requests that ask for codes on a tag that uses none, or do not ask for them on a tag that does. The
handshake succeeds, because it does not depend on codes, but nothing that comes after it does. -/

namespace Wristband

open Session

/-- The request accesses the memory, with arguments that are valid for the family and with the key and
no other. -/
inductive ScanRequest.Presents (family : ChipFamily) (key : AuthKey) (cmac : Bool) :
    ScanRequest → Prop where
  | read {page count : UInt8} (fits : userRange page Layout.pageSize = .ok count) :
      Presents family key cmac (.read page (some key) cmac)
  | readMultiKey {page count : UInt8} (fits : userRange page Layout.pageSize = .ok count) :
      Presents family key cmac (.readMultiKey page [key] cmac)
  | write {page count : UInt8} {data : Bytes} (fits : userRange page data.length = .ok count)
      (some_ : data ≠ []) : Presents family key cmac (.write page data (some key) cmac)
  | writeKey {newKey : AuthKey} (own : newKey.family = family) :
      Presents family key cmac (.writeKey (some key) newKey cmac)
  | writeProtect (enable : Bool) : Presents family key cmac (.writeProtect (some key) enable cmac)
  | writeCmac (enable : Bool) : Presents family key cmac (.writeCmac (some key) enable cmac)

variable {tag : SimulatedTag} {request : ScanRequest} {key : AuthKey} {cmac : Bool}

namespace Scan

variable {image : SimulatedTag} {session : Session SimulatedTag} {page : UInt8}

section

variable (recognised : session.Recognised image)
  (estranged : session.channel?.isSome ≠ session.tag.channel?.isSome)
include recognised estranged

theorem readFrom_ends : Ensures (readFrom page) session (fun _ _ => False)
    (EndedWith image session.tag.complaint) :=
  (readUid_fails (recognised.exchange_estranged estranged (.read 0))).abort

private theorem readPage_ends (known : page < session.family.pageCount) :
    Ensures (readPage page) session (fun _ _ => False) (EndedWith image session.tag.complaint) :=
  readPage_fails recognised.standing (Frame.read_ok known)
    (recognised.exchange_estranged estranged (.read page))

private theorem writePages_ends {content : Bytes} (known : page < session.family.pageCount)
    (some_ : content ≠ []) (full : content.length % Layout.pageSize = 0) :
    Ensures (writePages page (pieces Layout.pageSize content)) session (fun _ _ => False)
      (EndedWith image session.tag.complaint) := by
  have positive : 0 < Layout.pageSize := by decide
  have sized : (content.take Layout.pageSize).length = Layout.pageSize := by
    have long := List.length_pos_iff.mpr some_
    rw [List.length_take]
    simp only [Layout.pageSize] at full ⊢
    omega
  rw [pieces_eq positive some_, writePages_cons]
  exact (writePage_fails recognised.standing (Frame.write_ok known sized)
    (recognised.exchange_estranged estranged (.write page sized))).abort

end

/-- Whatever the request is, the first command after the handshake is the last one. -/
theorem execute_ends (present : tag.lost = false) (faultless : tag.faults = .none)
    (chip : tag.chip = .ultralightAes) (random : RandomSource)
    (held : tag.Holds key .dataProtection) (mismatch : cmac ≠ tag.cmacEnabled)
    (presents : request.Presents tag.family key cmac) :
    Ensures (execute request) (opened tag tag.family random) (fun _ _ => False)
      (EndedWith tag
        (if tag.cmacEnabled then SimulatedTag.nakIntegrity else SimulatedTag.nakRefused)) := by
  obtain ⟨final, ran, recognised, estranged, theirs⟩ :=
    (opened_isFresh present faultless random).held_estranged chip held mismatch
  have complaint : final.tag.complaint =
      if tag.cmacEnabled then SimulatedTag.nakIntegrity else SimulatedTag.nakRefused := by
    rw [SimulatedTag.complaint, theirs]
  rw [← complaint]
  have authenticated {α : Type} {body : SessionM SimulatedTag α}
      (ends : Ensures body final (fun _ _ => False) (EndedWith tag final.tag.complaint)) :
      Ensures (do
        authenticateWith (some key) cmac
        body) (opened tag tag.family random) (fun _ _ => False)
        (EndedWith tag final.tag.complaint) := by
    refine ensures_bind.mpr ?_
    exact (ensures_of_ok (show (authenticateWith (some key) cmac).run _ = _ from ran)).mpr ends
  refine ensures_bind.mpr (ensures_get.mpr ?_)
  cases presents with
  | read fits =>
    refine ensures_bind.mpr (ensures_ofData.mpr ?_)
    rw [fits]
    exact authenticated (readFrom_ends recognised estranged)
  | readMultiKey fits =>
    refine ensures_bind.mpr (ensures_ofData.mpr ?_)
    rw [fits]
    have tried : Ensures (tryKey key cmac) (opened tag tag.family random)
        (fun accepted after => accepted = true ∧ after = final) (fun _ _ => False) := by
      refine ensures_tryCatch.mpr (ensures_bind.mpr ?_)
      exact (ensures_of_ok ran).mpr ⟨rfl, rfl⟩
    refine tried.total.bind ?_
    rintro _ _ ⟨rfl, rfl⟩
    exact readFrom_ends recognised estranged
  | @write page count data fits some_ =>
    refine ensures_bind.mpr (ensures_ofData.mpr ?_)
    rw [fits]
    refine authenticated (Ensures.abort ?_)
    rw [writeUserMemory_eq]
    refine ensures_bind.mpr (ensures_ofData.mpr ?_)
    rw [fits]
    have inside := lt_userEnd_of_userRange (List.length_pos_iff.mpr some_) fits
    refine writePages_ends recognised estranged
      (UInt8.lt_trans inside (userEnd_lt_pageCount _)) ?_ ?_
    · exact List.append_ne_nil_of_left_ne_nil some_ _
    · rw [Bytes.length_padded, Nat.mul_mod_left]
  | @writeKey newKey own =>
    have family : newKey.family = final.family := own.trans recognised.family.symm
    dsimp only
    split
    next foreign => exact absurd own foreign
    next =>
      refine authenticated (Ensures.abort ((ensures_writeKey family).mpr ?_))
      have known : newKey.home < final.family.pageCount := family ▸ newKey.home_lt_pageCount
      exact writePages_ends recognised estranged known newKey.stored_ne_nil newKey.length_stored
  | writeProtect enable =>
    exact authenticated (Ensures.abort (ensures_bind.mpr (ensures_get.mpr
      (readPage_ends recognised estranged (auth0Page_lt_pageCount _)).abort)))
  | writeCmac enable =>
    have family : final.family = .ultralightAes := by
      rw [recognised.family, SimulatedTag.family, chip]
      rfl
    have own : (opened tag tag.family random).family = .ultralightAes := by
      change tag.family = _
      rw [SimulatedTag.family, chip]
      rfl
    dsimp only
    split
    next foreign => exact absurd own foreign
    next =>
      refine authenticated (Ensures.abort (ensures_bind.mpr (ensures_bind.mpr (ensures_get.mpr ?_))))
      split
      next foreign => exact absurd family foreign
      next =>
        have known : Layout.aesConfigPage < final.family.pageCount := by
          rw [family]
          decide
        exact Ensures.abort (readPage_ends recognised estranged known)

end Scan

structure EndedByTag (tag : SimulatedTag) (status : UInt8)
    (served : ScanResult × Served SimulatedTag) : Prop where
  result : served.1 =
    .fail ⟨.auth, "tag ended the authenticated session with NAK " ++ Hex.marked status⟩
  memory : served.2.tag.memory = tag.memory
  strange : served.2.tag.authentication = .none
  last : ∃ sent left, served.2.transcript.getLast? = some sent ∧
    sent.tag.transceive sent.frame = (.ok [status], left) ∧ left.authentication = .none

/-- If only one side uses codes then a request fails, with the memory as it was, though its key is the
one of the tag. A tag takes no frame of one format for one of the other: without codes it knows no
command that comes with one, whatever the code is, and with codes it carries out no command that comes
without. -/
theorem mismatched_codes_end_session (tag : SimulatedTag) (random : RandomSource)
    (request : ScanRequest) (key : AuthKey) (cmac : Bool) (present : tag.lost = false)
    (faultless : tag.faults = .none) (chip : tag.chip = .ultralightAes)
    (held : tag.Holds key .dataProtection) (mismatch : cmac ≠ tag.cmacEnabled)
    (presents : request.Presents tag.family key cmac) :
    EndedByTag tag (if tag.cmacEnabled then SimulatedTag.nakIntegrity else SimulatedTag.nakRefused)
        (serve tag tag.family random request) ∧
      (∀ (plain : SimulatedTag) (command code : Bytes), plain.channel? = none →
        TagCommand.ofFrame command ≠ .unknown → code.length = SecureChannel.codeLength →
          plain.answerFrame (command ++ code) =
            (.ok [SimulatedTag.nakRefused], plain.unauthenticated)) ∧
      ∀ (coded : SimulatedTag) (command : Bytes), coded.channel?.isSome = true →
        TagCommand.ofFrame command ≠ .unknown → ∃ status, status ≠ Layout.ack ∧
          coded.answerFrame command = (.ok [status], coded.unauthenticated) := by
  refine ⟨?_, fun _ _ _ open_ known sized => SimulatedTag.answerFrame_unasked open_ known sized,
    fun coded command active known => ?_⟩
  · have ends := Scan.execute_ends present faultless chip random held mismatch presents
    rw [serve_opened (openOn_eq_opened present tag.family random)]
    unfold Ensures at ends
    rcases ran : (Scan.execute request).run (opened tag tag.family random) with ⟨error | _, after⟩ <;>
      rw [ran] at ends
    · obtain ⟨sent, final, answered⟩ := ends.last
      exact ⟨by rw [ends.error]; rfl, ends.resembles.memory, rfl, sent, _, final, answered,
        ends.strange⟩
    · exact ends.elim
  · obtain ⟨channel, active⟩ := Option.isSome_iff_exists.mp active
    exact SimulatedTag.answerFrame_uncoded active known

/-- A tag that uses codes is asked without one, and a tag that does not is asked with one. -/
theorem zeroKey_is_no_use_without_agreement :
    let plain := zeroKeyTag.withCmac false
    (serve zeroKeyTag zeroKeyTag.family ⟨fun _ => 0, 0⟩ (.readMultiKey 0x04 [zeroKey] false)).1 =
        .fail ⟨.auth, "tag ended the authenticated session with NAK 0x01"⟩ ∧
      (serve plain plain.family ⟨fun _ => 0, 0⟩ (.writeProtect (some zeroKey) true true)).1 =
        .fail ⟨.auth, "tag ended the authenticated session with NAK 0x00"⟩ := by
  intro plain
  have coded : zeroKeyTag.cmacEnabled = true := by decide +kernel
  have uncoded : plain.cmacEnabled = false := by decide +kernel
  have stored : plain.keyAt (Layout.aesDataKeyPage + 0 * 4) = List.replicate 16 0 := by
    decide +kernel
  have held : plain.Holds zeroKey .dataProtection := stored
  have fits : userRange 0x04 Layout.pageSize = .ok 1 := rfl
  have first := (mismatched_codes_end_session zeroKeyTag ⟨fun _ => 0, 0⟩ _ zeroKey false rfl rfl rfl
    holds_zeroKey (by rw [coded]; decide) (.readMultiKey fits)).1.result
  have second := (mismatched_codes_end_session plain ⟨fun _ => 0, 0⟩ _ zeroKey true rfl rfl rfl
    held (by rw [uncoded]; decide) (.writeProtect true)).1.result
  rw [coded] at first
  rw [uncoded] at second
  exact ⟨first, second⟩

end Wristband
