import Wristband.Proofs.Handshake.Agreement
import Wristband.Proofs.Handshake.Progress
import Wristband.Tag.Simulated.Build

/-! A session that is opened on a tag and knows one of its keys. Its handshake succeeds, and both
sides are authenticated then. -/

namespace Wristband

namespace Session

variable {τ : Type} [NfcTag τ] {session : Session τ}

private theorem exchange_answered {frame response : Bytes} {after : τ}
    (waiting : session.isAuthenticated = false)
    (answered : NfcTag.transceive session.tag frame = (.ok response, after)) :
    Ensures (exchange frame) session
      (fun value final => value = response ∧ final = session.sending frame frame)
      (fun _ _ => False) := by
  apply (exchange_unauthenticated waiting frame).weaken
  · rintro value final ⟨heard, rfl⟩
    rw [answered] at heard
    cases heard
    exact ⟨rfl, rfl⟩
  · rintro error final ⟨⟨lost, silent⟩, _⟩
    rw [answered] at silent
    cases silent

private theorem keepFrame_answered {α : Type} {step : Except ProtocolError Bytes × Engine} {engine : Engine}
    {frame response : Bytes} {after : τ} {next : Bytes → SessionM τ α}
    {done : α → Session τ → Prop} {failed : TagError → Session τ → Prop}
    (made : step = (.ok frame, engine)) (open_ : engine.isAuthenticated = false)
    (answered : NfcTag.transceive session.tag frame = (.ok response, after))
    (rest : ∀ final : Session τ, final.tag = after → final.family = session.family →
      final.random = session.random → Ensures (next response) final done failed) :
    Ensures (do
      let frame ← keepStep step
      let response ← exchange frame
      next response) session done failed := by
  subst made
  have waiting : ({ session with engine := some engine } : Session τ).isAuthenticated = false :=
    open_
  refine ensures_bind.mpr (ensures_keepStep.mpr ?_)
  apply ((exchange_answered waiting answered).onError fun _ _ never => never.elim).bind
  rintro _ final ⟨rfl, rfl⟩
  exact rest _ (congrArg Prod.snd answered) rfl rfl

private theorem finishHandshake_agreed {answered finished : Engine} {second confirmation : Bytes} {after : τ}
    (open_ : answered.isAuthenticated = false)
    (confirmed : NfcTag.transceive session.tag second =
      (.ok (Response.confirmationStatus :: confirmation), after))
    (sized : confirmation.length = session.family.confirmationLength)
    (convinced : answered.confirm (.ofBytes confirmation) = (.ok (), finished)) :
    Ensures (finishHandshake (.ok second, answered)) session
      (fun _ final => final.engine = some finished ∧ final.tag = after) (fun _ _ => False) := by
  have read : Response.confirmation session.family
      (Response.confirmationStatus :: confirmation) = .ok confirmation :=
    Response.handshakeStep_ok session.family.confirmationLength_pos sized
  apply keepFrame_answered rfl open_ confirmed
  intro heard sameTag sameFamily _
  refine ensures_bind.mpr (ensures_get.mpr (ensures_bind.mpr (ensures_ofProtocol.mpr ?_)))
  rw [sameFamily, read]
  apply ensures_keepStep.mpr
  dsimp only
  rw [convinced]
  exact ⟨rfl, sameTag⟩

private theorem handshake_agreed {engine finished : Engine} {after : τ}
    (agreement : Agreement session.family engine session.tag session.random finished after) :
    Ensures (handshake engine) session
      (fun _ final => final.engine = some finished ∧ final.tag = after) (fun _ _ => False) := by
  cases agreement with
  | @reached first challenge second confirmation started answered middle rest starts challenged
      challengeSized responds confirmed confirmationSized convinced =>
    have startedOpen : started.isAuthenticated = false := by
      have made : engine.start.1 = .ok first := by rw [starts]
      have open_ := Engine.not_authenticated_start made
      rwa [starts] at open_
    have answeredOpen : answered.isAuthenticated = false := by
      have made : (started.respond (.ofBytes challenge) session.random).1 = .ok second := by
        rw [responds]
      have open_ := Engine.not_authenticated_respond made
      rwa [responds] at open_
    have read : Response.challenge session.family (Response.challengeStatus :: challenge) =
        .ok challenge :=
      Response.handshakeStep_ok session.family.challengeLength_pos challengeSized
    apply keepFrame_answered starts startedOpen challenged
    intro heard sameTag sameFamily sameRandom
    rw [← sameFamily] at read confirmationSized
    refine ensures_bind.mpr (ensures_get.mpr (ensures_bind.mpr (ensures_ofProtocol.mpr ?_)))
    rw [read]
    refine ensures_bind.mpr (ensures_get.mpr (ensures_bind.mpr (ensures_modify.mpr ?_)))
    rw [starts, sameRandom, responds]
    subst sameTag
    exact finishHandshake_agreed answeredOpen confirmed confirmationSized convinced

/-- What fails in the handshake itself would be caught, but nothing does. -/
theorem authenticate_agreed {key : AuthKey} {slot : KeySlot} {cmac : Bool}
    {engine finished : Engine} {after : τ} (free : session.engine = none)
    (made : Engine.new session.family key slot cmac = .ok engine)
    (agreement : Agreement session.family engine session.tag session.random finished after) :
    ∃ final, (authenticate key slot cmac).run session = (.ok (), final) ∧
      final.engine = some finished ∧ final.tag = after := by
  have succeeds : Ensures (authenticate key slot cmac) session
      (fun _ final => final.engine = some finished ∧ final.tag = after) (fun _ _ => False) := by
    have first : ¬ session.engine.isSome = true := by
      rw [free]
      exact Bool.false_ne_true
    refine ensures_bind.mpr (ensures_get.mpr ?_)
    dsimp only
    rw [if_neg first, made]
    apply ensures_tryCatch.mpr
    exact (handshake_agreed agreement).onError fun _ _ never => never.elim
  obtain ⟨⟨⟩, final, ran, ends⟩ := succeeds.succeeds
  exact ⟨final, ran, ends⟩

end Session

namespace SimulatedTag

variable {tag : SimulatedTag} {key : AuthKey} {slot : KeySlot}

/-- The tag holds the key in the slot. An Ultralight-C tag has a key in one slot only, and stores
what is derived from the secret. -/
def Holds (tag : SimulatedTag) (key : AuthKey) (slot : KeySlot) : Prop :=
  match tag.chip, key with
  | .ultralightC, .tdes secret =>
    slot = .dataProtection ∧ tag.keyAt Layout.tdesKeyPage = deriveTdesKey secret.val
  | .ultralightAes, .aes key => tag.keyAt (Layout.aesDataKeyPage + slot.code * 4) = key.val
  | _, _ => False

private theorem cmacEnabled_eq_false (chip : tag.chip = .ultralightC) : tag.cmacEnabled = false := by
  rw [cmacEnabled, chip]
  rfl

theorem Ready.agreement (ready : tag.Ready) (open_ : tag.channel? = none)
    (held : tag.Holds key slot) (cmac : Bool) (random : RandomSource) :
    ∃ engine finished after, Engine.new tag.family key slot cmac = .ok engine ∧
      Agreement tag.family engine tag random finished after ∧
      Accepted finished after (cmac = true ∧ tag.cmacEnabled = true) := by
  unfold Holds at held
  split at held
  · next secret chip =>
    obtain ⟨rfl, stored⟩ := held
    have family : tag.family = .ultralight := congrArg Chip.family chip
    obtain ⟨finished, after, agreement, accepted⟩ := ready.tdes_agreement open_ chip random
    rw [stored] at agreement
    rw [family, cmacEnabled_eq_false chip]
    exact ⟨_, finished, after, rfl, agreement, accepted.mono fun asked => nomatch asked.2⟩
  · next key chip =>
    have family : tag.family = .ultralightAes := congrArg Chip.family chip
    have sized : (tag.keyAt (Layout.aesDataKeyPage + slot.code * 4)).length = 16 := by
      rw [held]
      exact key.property
    obtain ⟨finished, after, agreement, accepted⟩ :=
      ready.aes_agreement open_ chip slot cmac sized random
    rw [held] at agreement
    rw [family]
    exact ⟨_, finished, after, rfl, agreement, accepted⟩
  · exact held.elim

end SimulatedTag

namespace Session

theorem openOn_present {tag : SimulatedTag} (present : tag.lost = false) (family : ChipFamily)
    (random : RandomSource) :
    openOn tag family random = .ok {
      tag := { tag.unauthenticated with connected := true, connects := tag.connects + 1 }
      family, engine := none, auth0 := none, closed := false, random, transcript := [] } := by
  have connects : NfcTag.connect tag = (.ok (),
      { tag.unauthenticated with connected := true, connects := tag.connects + 1 }) := by
    have here : ¬ tag.lost = true := by
      rw [present]
      exact Bool.false_ne_true
    exact if_neg here
  rw [openOn, connects]

/-- The handshake of a session that has just been opened on a tag with the same key. -/
theorem opened_agreement {tag : SimulatedTag} (present : tag.lost = false)
    (faultless : tag.faults = .none) {key : AuthKey} {slot : KeySlot} (held : tag.Holds key slot)
    (cmac : Bool) (random : RandomSource) :
    ∃ (session : Session SimulatedTag) (engine finished : Engine) (after : SimulatedTag),
      openOn tag tag.family random = .ok session ∧ session.engine = none ∧
      Engine.new session.family key slot cmac = .ok engine ∧
      Agreement session.family engine session.tag session.random finished after ∧
      SimulatedTag.Accepted finished after (cmac = true ∧ tag.cmacEnabled = true) := by
  let connected : SimulatedTag :=
    { tag.unauthenticated with connected := true, connects := tag.connects + 1 }
  have ready : connected.Ready := ⟨SimulatedTag.hears_of_connected rfl present, faultless⟩
  have stored : connected.Holds key slot := held
  obtain ⟨engine, finished, after, made, agreement, accepted⟩ :=
    ready.agreement rfl stored cmac random
  exact ⟨_, engine, finished, after, openOn_present present tag.family random, rfl, made, agreement,
    accepted⟩

/-- On a tag without faults a handshake with the key that the tag holds always succeeds, whatever
random numbers both sides draw, and leaves both sides authenticated. If both ask for codes they
share a new channel. -/
theorem authenticate_succeeds_with_held_key {tag : SimulatedTag} (present : tag.lost = false)
    (faultless : tag.faults = .none) {key : AuthKey} {slot : KeySlot} (held : tag.Holds key slot)
    (cmac : Bool) (random : RandomSource) :
    ∃ session final : Session SimulatedTag,
      openOn tag tag.family random = .ok session ∧
      (authenticate key slot cmac).run session = (.ok (), final) ∧
      final.isAuthenticated = true ∧ final.tag.isAuthenticated = true ∧
      (cmac = true → tag.cmacEnabled = true → ∃ channel,
        final.channel? = some channel ∧ final.tag.channel? = some channel ∧
          channel.counter = 0) := by
  obtain ⟨session, engine, finished, after, opened, free, made, agreement, accepted⟩ :=
    opened_agreement present faultless held cmac random
  obtain ⟨final, ran, engineHeld, rfl⟩ := authenticate_agreed free made agreement
  refine ⟨session, final, opened, ran, ?_, accepted.byTag, ?_⟩
  · exact isAuthenticated_iff.mpr ⟨finished, engineHeld, accepted.byTerminal⟩
  · intro asked enabled
    obtain ⟨channel, own, theirs, unused⟩ := accepted.shared ⟨asked, enabled⟩
    exact ⟨channel, channel?_eq_some.mpr ⟨finished, engineHeld, own⟩, theirs, unused⟩

def zeroKeyTag : SimulatedTag :=
  (SimulatedTag.ultralightAes [0x04, 0x11, 0x22, 0x33, 0x44, 0x55, 0x66]
    (List.replicate 16 0)).withCmac true

def zeroKey : AuthKey := .aes ⟨List.replicate 16 0, rfl⟩

theorem holds_zeroKey : zeroKeyTag.Holds zeroKey .dataProtection := by
  have stored : zeroKeyTag.keyAt (Layout.aesDataKeyPage + 0 * 4) = List.replicate 16 0 := by
    decide +kernel
  exact stored

theorem zeroKey_authenticates :
    ∃ session final : Session SimulatedTag,
      openOn zeroKeyTag zeroKeyTag.family ⟨fun _ => 0, 0⟩ = .ok session ∧
      (authenticate zeroKey .dataProtection true).run session = (.ok (), final) ∧
      final.isAuthenticated = true ∧ final.tag.isAuthenticated = true ∧
      ∃ channel, final.channel? = some channel ∧ final.tag.channel? = some channel ∧
        channel.counter = 0 := by
  have present : zeroKeyTag.lost = false := rfl
  have asks : zeroKeyTag.cmacEnabled = true := by decide +kernel
  obtain ⟨session, final, opened, ran, authenticated, recognised, agreed⟩ :=
    authenticate_succeeds_with_held_key present rfl holds_zeroKey true ⟨fun _ => 0, 0⟩
  exact ⟨session, final, opened, ran, authenticated, recognised, agreed rfl asks⟩

end Session
end Wristband
