import Wristband.Proofs.Cipher.Des
import Wristband.Proofs.Tag.Authentication

/-! The messages of a handshake between a terminal and a tag that hold the same key. Each side
deciphers what the other has enciphered, so every check of either side passes, whatever numbers
both sides have drawn. -/

namespace Wristband

structure TdesMessages (key number hostRandom challenge message confirmation : Bytes) : Prop where
  challenges : (Des.doubleKeyCipher key).encryptMessage (SimulatedTag.zeros 8) number =
    .ok challenge
  challengeSized : challenge.length = 8
  reads : TdesHandshake.readChallenge key (.ofBytes challenge) = .ok number
  answers : TdesHandshake.buildResponse key hostRandom number (.ofBytes challenge) = .ok message
  messageSized : message.length = 32
  convinces : SimulatedTag.confirmTdes key number challenge message = some confirmation
  confirmationSized : confirmation.length = 24
  confirms : TdesHandshake.checkConfirmation key ⟨hostRandom, Bytes.lastBlock 8 message⟩
    (.ofBytes confirmation) = .ok ()

/-- The messages of an AES handshake. The tag learns the terminal's number for the session key. -/
structure AesMessages (key number hostRandom challenge message confirmation : Bytes) : Prop where
  challenges : (Aes.cipher key).encryptMessage (SimulatedTag.zeros 16) number = .ok challenge
  challengeSized : challenge.length = 16
  reads : AesHandshake.readChallenge key (.ofBytes challenge) = .ok number
  answers : AesHandshake.buildResponse key hostRandom number =
    .ok (CommandCode.continueAuthentication.code :: message)
  messageSized : message.length = 32
  convinces : SimulatedTag.confirmAes key number message = some (hostRandom, confirmation)
  confirmationSized : confirmation.length = 16
  confirms : AesHandshake.checkConfirmation key hostRandom (.ofBytes confirmation) = .ok ()

variable {key number hostRandom : Bytes}

namespace SimulatedTag

variable {challenge message confirmation : Bytes}

private theorem confirmTdes_eq_some (hostSized : hostRandom.length = 24)
    (read : (Des.doubleKeyCipher key).decryptMessage challenge message =
      .ok (hostRandom ++ Bytes.rotateLeft number))
    (confirms : (Des.doubleKeyCipher key).encryptMessage (Bytes.lastBlock 8 message)
      (Bytes.rotateLeft hostRandom) = .ok confirmation) :
    confirmTdes key number challenge message = some confirmation := by
  have returned : (guard ((hostRandom ++ Bytes.rotateLeft number).drop 24 =
      Bytes.rotateLeft number) : Option Unit) = some () := if_pos (List.drop_left' hostSized)
  rw [confirmTdes, read]
  refine (congrArg (· >>= _) returned).trans ?_
  change ((Des.doubleKeyCipher key).encryptMessage (Bytes.lastBlock 8 message)
    (Bytes.rotateLeft ((hostRandom ++ Bytes.rotateLeft number).take 24))).toOption = _
  rw [List.take_left' hostSized, confirms]
  rfl

private theorem confirmAes_eq_some (hostSized : hostRandom.length = 16)
    (read : (Aes.cipher key).decryptMessage (zeros 16) message =
      .ok (hostRandom ++ Bytes.rotateLeft number))
    (confirms : (Aes.cipher key).encryptMessage (zeros 16) (Bytes.rotateLeft hostRandom) =
      .ok confirmation) :
    confirmAes key number message = some (hostRandom, confirmation) := by
  have returned : (guard ((hostRandom ++ Bytes.rotateLeft number).drop 16 =
      Bytes.rotateLeft number) : Option Unit) = some () := if_pos (List.drop_left' hostSized)
  rw [confirmAes, read]
  refine (congrArg (· >>= _) returned).trans ?_
  change ((Aes.cipher key).encryptMessage (zeros 16)
    (Bytes.rotateLeft ((hostRandom ++ Bytes.rotateLeft number).take 16))).toOption.bind
      (fun confirmation => some ((hostRandom ++ Bytes.rotateLeft number).take 16, confirmation)) = _
  rw [List.take_left' hostSized, confirms]
  rfl

end SimulatedTag

theorem length_rotated_appended {size : Nat} (numberSized : number.length = size) :
    (hostRandom ++ Bytes.rotateLeft number).length = hostRandom.length + size := by
  rw [List.length_append, Bytes.length_rotateLeft, numberSized]

/-- The last block of each message is where the next one begins. -/
theorem tdesMessages (key : Bytes) (numberSized : number.length = 8)
    (hostSized : hostRandom.length = 24) :
    ∃ challenge message confirmation,
      TdesMessages key number hostRandom challenge message confirmation := by
  have invertible := Des.doubleKeyCipher_invertible key
  have bothSized : (hostRandom ++ Bytes.rotateLeft number).length = 32 := by
    rw [length_rotated_appended numberSized, hostSized]
  have turnedSized : (Bytes.rotateLeft hostRandom).length = 24 := by
    rw [Bytes.length_rotateLeft, hostSized]
  obtain ⟨challenge, challenges, challengeSized, challengeRead⟩ :=
    invertible.encryptMessage_blocks 0 numberSized List.length_replicate
  obtain ⟨message, answers, messageSized, messageRead⟩ :=
    invertible.encryptMessage_blocks 3 bothSized challengeSized
  have lastSized : (Bytes.lastBlock 8 message).length = 8 := by
    apply Bytes.length_lastBlock
    rw [messageSized]
    exact (by decide : 8 ≤ 8 * (3 + 1))
  obtain ⟨confirmation, confirms, confirmationSized, confirmationRead⟩ :=
    invertible.encryptMessage_blocks 2 turnedSized lastSized
  exact ⟨challenge, message, confirmation, {
    challenges
    challengeSized
    reads := TdesHandshake.readChallenge_ok challengeSized challengeRead
    answers := Except.mapError_eq_ok.mpr answers
    messageSized
    convinces := SimulatedTag.confirmTdes_eq_some hostSized messageRead confirms
    confirmationSized
    confirms := TdesHandshake.checkConfirmation_eq_ok.mpr
      ⟨confirmation, BitVector.toBytes_ofBytes confirmation, confirmationRead⟩ }⟩

/-- Every message begins with zeros. -/
theorem aesMessages (keySized : key.length = 16) (numberSized : number.length = 16)
    (hostSized : hostRandom.length = 16) :
    ∃ challenge message confirmation,
      AesMessages key number hostRandom challenge message confirmation := by
  have invertible := Aes.cipher_invertible keySized
  have zeros : AesHandshake.zeroBlock.length = 16 := List.length_replicate
  have bothSized : (hostRandom ++ Bytes.rotateLeft number).length = 32 := by
    rw [length_rotated_appended numberSized, hostSized]
  have turnedSized : (Bytes.rotateLeft hostRandom).length = 16 := by
    rw [Bytes.length_rotateLeft, hostSized]
  obtain ⟨challenge, challenges, challengeSized, challengeRead⟩ :=
    invertible.encryptMessage_blocks 0 numberSized zeros
  obtain ⟨message, answers, messageSized, messageRead⟩ :=
    invertible.encryptMessage_blocks 1 bothSized zeros
  obtain ⟨confirmation, confirms, confirmationSized, confirmationRead⟩ :=
    invertible.encryptMessage_blocks 0 turnedSized zeros
  exact ⟨challenge, message, confirmation, {
    challenges
    challengeSized
    reads := AesHandshake.readChallenge_ok challengeSized challengeRead
    answers := by
      rw [AesHandshake.buildResponse, Except.mapError_eq_ok.mpr answers]
      exact Frame.continueAuthentication_eq_ok.mpr ⟨messageSized, rfl⟩
    messageSized
    convinces := SimulatedTag.confirmAes_eq_some hostSized messageRead confirms
    confirmationSized
    confirms := AesHandshake.checkConfirmation_eq_ok.mpr
      ⟨confirmation, BitVector.toBytes_ofBytes confirmation, confirmationRead⟩ }⟩

/-- A handshake of a terminal with a tag that goes well: the frames of both sides, and what is
left of either side. -/
inductive Agreement {τ : Type} [NfcTag τ] (family : ChipFamily) (engine : Engine) (tag : τ)
    (random : RandomSource) (finished : Engine) (after : τ) : Prop where
  | reached {first challenge second confirmation : Bytes} {started answered : Engine} {middle : τ}
      {rest : RandomSource}
      (starts : engine.start = (.ok first, started))
      (challenged : NfcTag.transceive tag first =
        (.ok (Response.challengeStatus :: challenge), middle))
      (challengeSized : challenge.length = family.challengeLength)
      (responds : started.respond (.ofBytes challenge) random = (.ok second, answered, rest))
      (confirmed : NfcTag.transceive middle second =
        (.ok (Response.confirmationStatus :: confirmation), after))
      (confirmationSized : confirmation.length = family.confirmationLength)
      (convinced : answered.confirm (.ofBytes confirmation) = (.ok (), finished))

namespace SimulatedTag

variable {tag : SimulatedTag}

/-- A tag without faults that is there answers every frame. -/
theorem transceive_faultless (near : tag.hears = true) (faultless : tag.faults = .none)
    (frame : Bytes) : tag.transceive frame = (tag.heard frame).answerFrame frame :=
  transceive_within near (by rw [faultless]; rfl) (by rw [faultless]; rfl) frame

theorem transceive_data (near : tag.hears = true) (faultless : tag.faults = .none)
    (open_ : tag.channel? = none) {frame payload : Bytes} {after : SimulatedTag}
    (executes : (tag.heard frame).execute frame = (.data payload, after)) :
    tag.transceive frame = (.ok payload, after) := by
  have closed : (tag.heard frame).channel? = none := open_
  rw [transceive_faultless near faultless, answerFrame, closed]
  simp only [answerCommand, executes]
  rfl

private theorem execute_continueAuthentication {message : Bytes} (sized : message.length = 32) :
    tag.execute (CommandCode.continueAuthentication.code :: message) =
      tag.continueAuthentication message := by
  have means : TagCommand.ofFrame (CommandCode.continueAuthentication.code :: message) =
      .continueAuthentication message := by
    simp [TagCommand.ofFrame, CommandCode.code, Frame.responseLength, sized]
  rw [execute, means]

private theorem authenticate_tdes (chip : tag.chip = .ultralightC) {challenge : Bytes}
    (challenges : (Des.doubleKeyCipher (tag.keyAt Layout.tdesKeyPage)).encryptMessage (zeros 8)
      (tag.random.next 8) = .ok challenge) :
    tag.authenticate 0 = (.data (Response.challengeStatus :: challenge),
      { tag with
        random := tag.random.skip 8
        authentication := .tdesChallenge (tag.keyAt Layout.tdesKeyPage) (tag.random.next 8)
          challenge }) := by
  simp only [authenticate, unauthenticated, chip, keyAt] at challenges ⊢
  simp only [challenges]
  rfl

private theorem authenticate_aes (chip : tag.chip = .ultralightAes) (slot : KeySlot) {challenge : Bytes}
    (challenges : (Aes.cipher (tag.keyAt (Layout.aesDataKeyPage + slot.code * 4))).encryptMessage
      (zeros 16) (tag.random.next 16) = .ok challenge) :
    tag.authenticate slot.code = (.data (Response.challengeStatus :: challenge),
      { tag with
        random := tag.random.skip 16
        authentication := .aesChallenge (tag.keyAt (Layout.aesDataKeyPage + slot.code * 4))
          (tag.random.next 16) }) := by
  have known : ¬ 2 < slot.code := by cases slot <;> decide
  simp only [authenticate, unauthenticated, chip, keyAt, if_neg known] at challenges ⊢
  simp only [challenges]

private theorem continueAuthentication_tdes {challenge message confirmation : Bytes}
    (accepts : tag.faults.rejectAuthentication = false)
    (waits : tag.authentication = .tdesChallenge key number challenge)
    (convinces : confirmTdes key number challenge message = some confirmation) :
    tag.continueAuthentication message = (.data (Response.confirmationStatus :: confirmation),
      { tag with authentication := .authenticated none }) := by
  simp only [continueAuthentication, accepts, waits, convinces]
  rfl

private theorem continueAuthentication_aes {message confirmation : Bytes}
    (accepts : tag.faults.rejectAuthentication = false)
    (waits : tag.authentication = .aesChallenge key number)
    (convinces : confirmAes key number message = some (hostRandom, confirmation)) :
    tag.continueAuthentication message = (.data (Response.confirmationStatus :: confirmation),
      { tag with
        authentication := .authenticated
          (if tag.cmacEnabled then some (.derive key hostRandom number) else none) }) := by
  simp only [continueAuthentication, accepts, waits, convinces]
  rfl

end SimulatedTag

namespace Engine

theorem respond_tdes {challenge message : Bytes} {random : RandomSource}
    (reads : TdesHandshake.readChallenge key (.ofBytes challenge) = .ok number)
    (answers : TdesHandshake.buildResponse key (random.next 24) number (.ofBytes challenge) =
      .ok message) (sized : message.length = 32) :
    (tdes ⟨key, .started none⟩).respond (.ofBytes challenge) random =
      (.ok (CommandCode.continueAuthentication.code :: message),
        tdes ⟨key, .started (some ⟨random.next 24, Bytes.lastBlock 8 message⟩)⟩,
        random.skip 24) := by
  have built : TdesHandshake.buildResponse key (random.next TdesHandshake.hostRandomLength) number
    (.ofBytes challenge) = .ok message := answers
  simp only [respond, TdesHandshake.respond, reads, built, bind, Except.bind,
    Frame.continueAuthentication_eq_ok.mpr ⟨sized, rfl⟩]
  rfl

theorem respond_aes (slot : KeySlot) (cmac : Bool) {challenge frame : Bytes} {random : RandomSource}
    (reads : AesHandshake.readChallenge key (.ofBytes challenge) = .ok number)
    (answers : AesHandshake.buildResponse key (random.next 16) number = .ok frame) :
    (aes ⟨key, slot, cmac, .started AesHandshake.zeroBlock AesHandshake.zeroBlock⟩).respond
        (.ofBytes challenge) random =
      (.ok frame, aes ⟨key, slot, cmac, .started (random.next 16) number⟩, random.skip 16) := by
  have built : AesHandshake.buildResponse key (random.next AesHandshake.blockSize) number =
    .ok frame := answers
  simp only [respond, AesHandshake.respond, reads, built]
  rfl

private theorem confirm_tdes {sent : SentResponse} {confirmation : BitVector}
    (confirms : TdesHandshake.checkConfirmation key sent confirmation = .ok ()) :
    (tdes ⟨key, .started (some sent)⟩).confirm confirmation = (.ok (), tdes ⟨key, .complete⟩) := by
  simp only [confirm, TdesHandshake.confirm, confirms]

private theorem confirm_aes (slot : KeySlot) (cmac : Bool) (number : Bytes) {confirmation : BitVector}
    (confirms : AesHandshake.checkConfirmation key hostRandom confirmation = .ok ()) :
    (aes ⟨key, slot, cmac, .started hostRandom number⟩).confirm confirmation =
      (.ok (), aes ⟨key, slot, cmac, .authenticated
        (if cmac then some (.derive key hostRandom number) else none)⟩) := by
  simp only [confirm, AesHandshake.confirm, confirms]
  rfl

end Engine

namespace SimulatedTag

variable {tag : SimulatedTag}

/-- Each side has accepted the other. If they use codes they share a new channel. -/
structure Accepted (engine : Engine) (tag : SimulatedTag) (codes : Prop) : Prop where
  byTerminal : engine.isAuthenticated = true
  byTag : tag.isAuthenticated = true
  shared : codes → ∃ channel,
    engine.channel? = some channel ∧ tag.channel? = some channel ∧ channel.counter = 0
  uncoded : tag.cmacEnabled = false → tag.channel? = none

theorem Accepted.mono {engine : Engine} {codes wanted : Prop} (accepted : Accepted engine tag codes)
    (weaker : wanted → codes) : Accepted engine tag wanted where
  byTerminal := accepted.byTerminal
  byTag := accepted.byTag
  shared := fun asked => accepted.shared (weaker asked)
  uncoded := accepted.uncoded

structure Ready (tag : SimulatedTag) : Prop where
  near : tag.hears = true
  faultless : tag.faults = .none

private theorem Ready.accepts (ready : tag.Ready) : tag.faults.rejectAuthentication = false := by
  rw [ready.faultless]
  rfl

private theorem Ready.challenge_tdes (ready : tag.Ready) (open_ : tag.channel? = none)
    (chip : tag.chip = .ultralightC) {challenge : Bytes}
    (challenges : (Des.doubleKeyCipher (tag.keyAt Layout.tdesKeyPage)).encryptMessage (zeros 8)
      (tag.random.next 8) = .ok challenge) :
    ∃ middle, tag.transceive [CommandCode.authenticate.code, 0] =
        (.ok (Response.challengeStatus :: challenge), middle) ∧ middle.Ready ∧
      middle.authentication =
        .tdesChallenge (tag.keyAt Layout.tdesKeyPage) (tag.random.next 8) challenge := by
  have chipHeard : (tag.heard [CommandCode.authenticate.code, 0]).chip = .ultralightC := chip
  have executes := authenticate_tdes chipHeard challenges
  exact ⟨_, transceive_data ready.near ready.faultless open_ executes,
    ⟨ready.near, ready.faultless⟩, rfl⟩

private theorem Ready.challenge_aes (ready : tag.Ready) (open_ : tag.channel? = none)
    (chip : tag.chip = .ultralightAes) (slot : KeySlot) {challenge : Bytes}
    (challenges : (Aes.cipher (tag.keyAt (Layout.aesDataKeyPage + slot.code * 4))).encryptMessage
      (zeros 16) (tag.random.next 16) = .ok challenge) :
    ∃ middle, tag.transceive [CommandCode.authenticate.code, slot.code] =
        (.ok (Response.challengeStatus :: challenge), middle) ∧ middle.Ready ∧
      middle.cmacEnabled = tag.cmacEnabled ∧
      middle.authentication = .aesChallenge (tag.keyAt (Layout.aesDataKeyPage + slot.code * 4))
        (tag.random.next 16) := by
  have chipHeard : (tag.heard [CommandCode.authenticate.code, slot.code]).chip = .ultralightAes :=
    chip
  have executes := authenticate_aes chipHeard slot challenges
  exact ⟨_, transceive_data ready.near ready.faultless open_ executes,
    ⟨ready.near, ready.faultless⟩, rfl, rfl⟩

private theorem Ready.confirmation_tdes (ready : tag.Ready) {challenge message confirmation : Bytes}
    (waits : tag.authentication = .tdesChallenge key number challenge)
    (sized : message.length = 32)
    (convinces : confirmTdes key number challenge message = some confirmation) :
    ∃ after, tag.transceive (CommandCode.continueAuthentication.code :: message) =
        (.ok (Response.confirmationStatus :: confirmation), after) ∧
      after.authentication = .authenticated none := by
  have open_ : tag.channel? = none := by rw [channel?, waits]
  have heard : (tag.heard (CommandCode.continueAuthentication.code :: message)).Ready :=
    ⟨ready.near, ready.faultless⟩
  have executes := continueAuthentication_tdes heard.accepts waits convinces
  rw [← execute_continueAuthentication sized] at executes
  exact ⟨_, transceive_data ready.near ready.faultless open_ executes, rfl⟩

private theorem Ready.confirmation_aes (ready : tag.Ready) {message confirmation : Bytes}
    (waits : tag.authentication = .aesChallenge key number) (sized : message.length = 32)
    (convinces : confirmAes key number message = some (hostRandom, confirmation)) :
    ∃ after, tag.transceive (CommandCode.continueAuthentication.code :: message) =
        (.ok (Response.confirmationStatus :: confirmation), after) ∧
      after.cmacEnabled = tag.cmacEnabled ∧
      after.authentication = .authenticated
        (if tag.cmacEnabled then some (.derive key hostRandom number) else none) := by
  have open_ : tag.channel? = none := by rw [channel?, waits]
  have heard : (tag.heard (CommandCode.continueAuthentication.code :: message)).Ready :=
    ⟨ready.near, ready.faultless⟩
  have executes := continueAuthentication_aes heard.accepts waits convinces
  rw [← execute_continueAuthentication sized] at executes
  exact ⟨_, transceive_data ready.near ready.faultless open_ executes, rfl, rfl⟩

theorem Ready.tdes_agreement (ready : tag.Ready) (open_ : tag.channel? = none)
    (chip : tag.chip = .ultralightC) (random : RandomSource) :
    ∃ finished after,
      Agreement .ultralight (.tdes (.new (tag.keyAt Layout.tdesKeyPage))) tag random finished
          after ∧
        Accepted finished after False := by
  have numberSized := tag.random.length_next 8
  have hostSized := random.length_next 24
  obtain ⟨challenge, message, confirmation, messages⟩ := tdesMessages (tag.keyAt Layout.tdesKeyPage)
    numberSized hostSized
  obtain ⟨middle, challenged, waiting, waits⟩ := ready.challenge_tdes open_ chip messages.challenges
  obtain ⟨after, confirmed, recognised⟩ :=
    waiting.confirmation_tdes waits messages.messageSized messages.convinces
  have responds := Engine.respond_tdes messages.reads messages.answers messages.messageSized
  have convinced := Engine.confirm_tdes messages.confirms
  have agreement : Agreement .ultralight (.tdes (.new (tag.keyAt Layout.tdesKeyPage))) tag random
      (.tdes ⟨tag.keyAt Layout.tdesKeyPage, .complete⟩) after :=
    .reached rfl challenged messages.challengeSized responds confirmed messages.confirmationSized
      convinced
  exact ⟨_, after, agreement, rfl, by rw [isAuthenticated, recognised], nofun,
    fun _ => by rw [channel?, recognised]⟩

/-- When both sides ask for codes they derive one channel, from both numbers. -/
theorem Ready.aes_agreement (ready : tag.Ready) (open_ : tag.channel? = none)
    (chip : tag.chip = .ultralightAes) (slot : KeySlot) (cmac : Bool)
    (sized : (tag.keyAt (Layout.aesDataKeyPage + slot.code * 4)).length = 16)
    (random : RandomSource) :
    ∃ finished after,
      Agreement .ultralightAes
          (.aes (.new (tag.keyAt (Layout.aesDataKeyPage + slot.code * 4)) slot cmac)) tag random
          finished after ∧
        Accepted finished after (cmac = true ∧ tag.cmacEnabled = true) := by
  have numberSized := tag.random.length_next 16
  have hostSized := random.length_next 16
  obtain ⟨challenge, message, confirmation, messages⟩ := aesMessages sized numberSized hostSized
  obtain ⟨middle, challenged, waiting, sameFlag, waits⟩ :=
    ready.challenge_aes open_ chip slot messages.challenges
  obtain ⟨after, confirmed, keptFlag, recognised⟩ :=
    waiting.confirmation_aes waits messages.messageSized messages.convinces
  have starts :
      (Engine.aes (.new (tag.keyAt (Layout.aesDataKeyPage + slot.code * 4)) slot cmac)).start =
      (.ok [CommandCode.authenticate.code, slot.code],
        .aes ⟨tag.keyAt (Layout.aesDataKeyPage + slot.code * 4), slot, cmac,
          .started AesHandshake.zeroBlock AesHandshake.zeroBlock⟩) := by
    cases slot <;> rfl
  have responds := Engine.respond_aes slot cmac messages.reads messages.answers
  have convinced := Engine.confirm_aes slot cmac (tag.random.next 16) messages.confirms
  have agreement : Agreement .ultralightAes
      (.aes (.new (tag.keyAt (Layout.aesDataKeyPage + slot.code * 4)) slot cmac)) tag random _
      after :=
    .reached starts challenged messages.challengeSized responds confirmed
      messages.confirmationSized convinced
  refine ⟨_, after, agreement, rfl, by rw [isAuthenticated, recognised], ?_, ?_⟩
  · rintro ⟨rfl, enabled⟩
    refine ⟨_, rfl, ?_, rfl⟩
    rw [channel?, recognised, sameFlag, enabled]
    rfl
  · intro disabled
    rw [channel?, recognised, ← keptFlag, disabled]
    rfl

end SimulatedTag
end Wristband
