import Wristband.Proofs.Session.Writing

/-! A session after its handshake on a tag without faults. If both sides have the same channel, or
both have none, they go on to converse. If one side alone has a channel, every command for the memory
is refused: it carries a code that the tag does not know, or lacks one that the tag asks for. -/

namespace Wristband

theorem SimulatedTag.Resembles.holds {tag image : SimulatedTag} {key : AuthKey} {slot : KeySlot}
    (resembles : tag.Resembles image) (held : image.Holds key slot) : tag.Holds key slot := by
  unfold Holds keyAt at *
  rw [resembles.chip, resembles.memory]
  exact held

namespace Session

variable {image tag : SimulatedTag} {session after : Session SimulatedTag} {random : RandomSource}
  {command : Bytes} {result : Except TagError Bytes}

structure Attends (image : SimulatedTag) (session : Session SimulatedTag) : Prop
    extends IsOn image session where
  ready : session.tag.Ready
  unlearned : session.auth0 = none

theorem Attends.exchanged (attends : session.Attends image)
    (nothing : Frame.StoresNothing command) (exchanged : Exchanged session command result after) :
    after.Attends image where
  toIsOn := attends.toIsOn.exchanged nothing exchanged
  ready := exchanged.ready attends.ready
  unlearned := exchanged.auth0.trans attends.unlearned

theorem attends_handshakes (image : SimulatedTag) : Handshakes (Attends image) where
  engine _ _ attends := ⟨⟨attends.family, attends.resembles⟩, attends.ready, attends.unlearned⟩
  random _ _ attends := ⟨⟨attends.family, attends.resembles⟩, attends.ready, attends.unlearned⟩
  step _ step _ attends :=
    exchange_leaves fun _ _ exchanged => attends.exchanged step.storesNothing exchanged

theorem opened_attends (present : tag.lost = false) (faultless : tag.faults = .none)
    (random : RandomSource) : (opened tag tag.family random).Attends tag where
  toIsOn := (opened_worksOn tag random).toIsOn
  ready := ⟨SimulatedTag.hears_of_connected rfl present, faultless⟩
  unlearned := rfl

/-- The session is on a new connection, and neither side has begun a handshake. -/
structure IsFresh (image : SimulatedTag) (session : Session SimulatedTag) : Prop
    extends Attends image session where
  free : session.engine = none
  strange : session.tag.authentication = .none

theorem opened_isFresh (present : tag.lost = false) (faultless : tag.faults = .none)
    (random : RandomSource) : (opened tag tag.family random).IsFresh tag where
  toAttends := opened_attends present faultless random
  free := rfl
  strange := rfl

/-- Without a handshake both sides are strangers. -/
theorem opened_converses (present : tag.lost = false) (faultless : tag.faults = .none)
    (random : RandomSource) : (opened tag tag.family random).Converses tag false 0 where
  toWorksOn := opened_worksOn tag random
  ready := (opened_attends present faultless random).ready
  learned := nofun
  standing := rfl
  free _ := rfl
  alike := rfl
  channels := rfl
  counted := nofun

structure Recognised (image : SimulatedTag) (session : Session SimulatedTag) : Prop
    extends Attends image session where
  sized : session.HasSizedCodes
  standing : session.isAuthenticated = true
  alike : session.tag.isAuthenticated = true
  unused : ∀ channel, session.channel? = some channel → channel.counter = 0

theorem opened_recognised (present : tag.lost = false) (faultless : tag.faults = .none)
    (random : RandomSource) (key : AuthKey) (slot : KeySlot) (cmac : Bool) :
    Ensures (authenticate key slot cmac) (opened tag tag.family random)
      (fun _ after => after.Recognised tag ∧
        after.channel?.isSome = (tag.family.supportsCmac && cmac))
      (fun _ after => after.tag.Resembles tag) := by
  have logged : (opened tag tag.family random).Logged := fun _ listed => nomatch listed
  have attended := (attends_handshakes tag).authenticate key slot cmac _
    (opened_attends present faultless random)
  have inStep : (opened tag tag.family random).InStep := .of_engine_eq_none logged rfl
  have together := authenticate_inStep key slot cmac _ inStep
  have channel : Ensures (authenticate key slot cmac) (opened tag tag.family random) _ _ :=
    authenticate_channel key slot cmac
  refine ((attended.and together).and channel).weaken ?_ ?_
  · rintro _ after ⟨⟨attends, inStep⟩, standing, asked, sized, unused⟩
    have alike := inStep.now.known (isAuthenticated_iff.mp standing)
    exact ⟨⟨attends.1, sized, standing, alike, unused⟩, asked⟩
  · rintro _ after ⟨⟨attends, _⟩, _⟩
    exact attends.resembles

def Stops {α : Type} (image : SimulatedTag) (session : Session SimulatedTag)
    (action : SessionM SimulatedTag α) : Prop :=
  Ensures action session (fun _ _ => False) (fun _ after => after.tag.Resembles image)

structure EndedWith (image : SimulatedTag) (status : UInt8) (error : TagError)
    (after : Session SimulatedTag) : Prop where
  error : error = .auth ("tag ended the authenticated session with NAK " ++ Hex.marked status)
  resembles : after.tag.Resembles image
  strange : after.tag.authentication = .none
  last : ∃ sent, after.transcript.getLast? = some sent ∧
    sent.tag.transceive sent.frame = (.ok [status], after.tag)

/-- The identifier is read without an access check. -/
theorem readUid_fails {failed : TagError → Session SimulatedTag → Prop}
    (fails : Ensures (exchange [CommandCode.read.code, 0]) session (fun _ _ => False) failed) :
    Ensures readUid session (fun _ _ => False) failed := by
  refine ensures_bind.mpr (ensures_get.mpr (ensures_bind.mpr (ensures_ofProtocol.mpr ?_)))
  rw [Frame.read_header]
  exact fails.abort.abort

namespace Recognised

variable (recognised : session.Recognised image)
include recognised

theorem converses (channels : session.tag.channel? = session.channel?) :
    session.Converses image true 0 where
  toIsOn := recognised.toIsOn
  sized := recognised.sized
  ready := recognised.ready
  learned auth0 cached := by
    rw [recognised.unlearned] at cached
    cases cached
  standing := recognised.standing
  free strange := nomatch strange
  alike := recognised.alike
  channels := channels
  counted channel active := by
    rw [recognised.unused channel active]
    exact Nat.zero_le _

section

variable (estranged : session.channel?.isSome ≠ session.tag.channel?.isSome)
include estranged

/-- A code that is not asked for is as wrong as one that is missing. -/
theorem refuses_frame (access : Frame.IsAccess command) {frame : Bytes}
    (carries : session.Carries command frame) :
    session.tag.transceive frame =
      (.ok [session.tag.complaint], (session.tag.heard frame).unauthenticated) := by
  have answered :=
    SimulatedTag.transceive_faultless recognised.ready.near recognised.ready.faultless frame
  rw [answered, SimulatedTag.complaint]
  cases own : session.channel? with
  | none =>
    obtain ⟨channel, theirs⟩ : ∃ channel, session.tag.channel? = some channel := by
      apply Option.isSome_iff_exists.mp
      apply eq_true_of_ne_false
      intro none_
      rw [own, none_] at estranged
      exact estranged rfl
    obtain rfl : frame = command := by simpa only [Carries, own] using carries
    have heard : (session.tag.heard frame).channel? = some channel := theirs
    have shorter := access.short
    rw [SimulatedTag.answerFrame_short heard shorter, theirs]
    rfl
  | some channel =>
    have theirs : (session.tag.heard frame).channel? = none := by
      apply Option.isSome_eq_false_iff.mp _ |> Option.isNone_iff_eq_none.mp
      apply eq_false_of_ne_true
      intro some_
      rw [own] at estranged
      exact estranged some_.symm
    have sealed_ : channel.sealCommand command = .ok frame := by
      simpa only [Carries, own] using carries
    obtain rfl := SecureChannel.sealCommand_eq_ok sealed_
    have coded := channel.length_code (recognised.sized channel own) channel.counter command
    have open_ : session.tag.channel? = none := theirs
    rw [SimulatedTag.answerFrame_unasked theirs access.known coded, open_]
    rfl

theorem exchange_estranged (access : Frame.IsAccess command) :
    Ensures (exchange command) session (fun _ _ => False)
      (EndedWith image session.tag.complaint) := by
  obtain ⟨frame, carries⟩ : ∃ frame, session.Carries command frame := by
    unfold Carries
    cases active : session.channel? with
    | none => exact ⟨command, rfl⟩
    | some channel =>
      have fresh : channel.counter ≠ SecureChannel.lastCounter := by
        rw [recognised.unused channel active]
        decide
      exact ⟨_, SecureChannel.sealCommand_ok fresh command⟩
  have answered := recognised.refuses_frame estranged access carries
  refine (exchange_ended recognised.standing carries (congrArg Prod.fst answered)
    session.tag.complaint_ne_ack).onError ?_
  rintro _ _ ⟨rfl, rfl⟩
  have left : (session.sending command frame).dropAuthentication.tag =
      (session.tag.heard frame).unauthenticated := congrArg Prod.snd answered
  refine ⟨rfl, ?_, ?_, _, List.getLast?_concat, ?_⟩
  · rw [left]
    exact ⟨recognised.resembles.chip, recognised.resembles.memory⟩
  · rw [left]
    rfl
  · rw [left]
    exact answered

private theorem readPage_estranged (page : UInt8) : session.Stops image (readPage page) := by
  cases made : Frame.read session.family page with
  | error =>
    refine ensures_bind.mpr (ensures_get.mpr (ensures_bind.mpr (ensures_ofProtocol.mpr ?_)))
    rw [made]
    exact recognised.resembles
  | ok frame =>
    obtain rfl := Frame.read_eq_ok made
    exact readPage_fails recognised.standing made ((recognised.exchange_estranged estranged
      (.read page)).onError fun _ _ ended => ended.resembles)

private theorem writePage_estranged (page : UInt8) (data : Bytes) :
    session.Stops image (writePage page data) := by
  cases made : Frame.write session.family page data with
  | error =>
    refine ensures_bind.mpr (ensures_get.mpr (ensures_bind.mpr (ensures_ofProtocol.mpr ?_)))
    rw [made]
    exact recognised.resembles
  | ok frame =>
    obtain ⟨rfl, sized⟩ := Frame.write_eq_ok made
    exact writePage_fails recognised.standing made ((recognised.exchange_estranged estranged
      (.write page sized)).onError fun _ _ ended => ended.resembles)

theorem writePages_estranged (first : UInt8) (chunks : List Bytes) :
    Ensures (writePages first chunks) session (fun _ _ => True)
      (fun _ after => after.tag.Resembles image) := by
  cases chunks with
  | nil => trivial
  | cons chunk chunks =>
    rw [writePages_cons]
    exact Ensures.abort (recognised.writePage_estranged estranged first chunk)

theorem setAuth0_estranged (auth0 : UInt8) : session.Stops image (setAuth0 auth0) :=
  ensures_bind.mpr (ensures_get.mpr (Ensures.abort (recognised.readPage_estranged estranged _)))

theorem setCmac_estranged (enabled : Bool) : session.Stops image (setCmac enabled) := by
  refine ensures_bind.mpr (ensures_bind.mpr (ensures_get.mpr ?_))
  split
  · exact recognised.resembles
  · exact Ensures.abort (recognised.readPage_estranged estranged _)

end

end Recognised

/-- The key that the tag holds is accepted. Both sides have the same channel then, unless only one of
them asks for codes. -/
theorem IsFresh.held (fresh : session.IsFresh image) {key : AuthKey} {slot : KeySlot}
    (held : image.Holds key slot) (cmac : Bool) :
    ∃ final, (authenticate key slot cmac).run session = (.ok (), final) ∧
      final.Recognised image ∧ final.channel?.isSome = (image.family.supportsCmac && cmac) ∧
      (image.cmacEnabled = false → final.tag.channel? = none) ∧
      (cmac = true → image.cmacEnabled = true → final.tag.channel? = final.channel?) := by
  have own : session.tag.family = session.family :=
    fresh.resembles.family.trans fresh.family.symm
  have closed : session.tag.channel? = none := by
    rw [SimulatedTag.channel?, fresh.strange]
  obtain ⟨engine, finished, after, made, agreement, accepted⟩ :=
    fresh.ready.agreement closed (fresh.resembles.holds held) cmac session.random
  rw [own] at made agreement
  obtain ⟨final, ran, heldEngine, rfl⟩ := authenticate_agreed fresh.free made agreement
  have attends := (ensures_of_ok ran).mp
    ((attends_handshakes image).authenticate key slot cmac session fresh.toAttends)
  obtain ⟨standing, asked, sized, unused⟩ := (ensures_of_ok ran).mp (authenticate_channel key slot cmac)
  rw [fresh.family] at asked
  refine ⟨final, ran, ⟨attends.1, sized, standing, accepted.byTag, unused⟩, asked, ?_, ?_⟩
  · intro disabled
    exact accepted.uncoded (attends.1.resembles.cmacEnabled.trans disabled)
  · intro wanted enabled
    obtain ⟨channel, own, theirs, _⟩ :=
      accepted.shared ⟨wanted, fresh.resembles.cmacEnabled.trans enabled⟩
    rw [theirs, channel?_eq_some.mpr ⟨finished, heldEngine, own⟩]

theorem opened_held (present : tag.lost = false) (faultless : tag.faults = .none)
    (random : RandomSource) {key : AuthKey} {slot : KeySlot} (held : tag.Holds key slot)
    (cmac : Bool) :
    ∃ final, (authenticate key slot cmac).run (opened tag tag.family random) = (.ok (), final) ∧
      final.Recognised tag ∧ final.channel?.isSome = (tag.family.supportsCmac && cmac) ∧
      (tag.cmacEnabled = false → final.tag.channel? = none) ∧
      (cmac = true → tag.cmacEnabled = true → final.tag.channel? = final.channel?) :=
  (opened_isFresh present faultless random).held held cmac

/-- With the key of the tag, and codes exactly if the tag asks for them, everything is ready. -/
theorem IsFresh.held_converses (fresh : session.IsFresh image) {key : AuthKey} {slot : KeySlot}
    (held : image.Holds key slot) {cmac : Bool}
    (codes : image.chip = .ultralightAes → cmac = image.cmacEnabled) :
    Ensures (authenticate key slot cmac) session
      (fun _ after => after.Converses image true 0) (fun _ _ => False) := by
  obtain ⟨final, ran, recognised, asked, uncoded, shared⟩ := fresh.held held cmac
  refine (ensures_of_ok ran).mpr (recognised.converses ?_)
  cases enabled : image.cmacEnabled with
  | true =>
    have chip := SimulatedTag.chip_of_cmacEnabled enabled
    exact shared ((codes chip).trans enabled) enabled
  | false =>
    have unasked : (image.family.supportsCmac && cmac) = false := by
      cases chip : image.chip with
      | ultralightAes => rw [codes chip, enabled, Bool.and_false]
      | _ =>
        rw [SimulatedTag.family, chip]
        rfl
    rw [unasked] at asked
    rw [uncoded enabled, Option.isSome_eq_false_iff.mp asked |> Option.isNone_iff_eq_none.mp]

end Session
end Wristband
