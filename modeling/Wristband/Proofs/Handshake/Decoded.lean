import Wristband.Proofs.Cipher.Permutation
import Wristband.Proofs.Handshake.Agreement
import Wristband.Proofs.Handshake.Channel

/-! What the codec of a family lets through is what the handshake of the family can work with. A
challenge is one block of the cipher and a confirmation is whole blocks of it, so both decipher, and
nothing but the comparison with the terminal's own number is left to fail. -/

namespace Wristband

variable {key challenge confirmation plain : Bytes}

namespace TdesHandshake

private theorem exists_answer (key : Bytes) (sized : challenge.length = blockSize) (source : RandomSource) :
    ∃ number message, readChallenge key (.ofBytes challenge) = .ok number ∧
      buildResponse key (source.next hostRandomLength) number (.ofBytes challenge) = .ok message ∧
        message.length = Frame.responseLength := by
  have invertible := Des.doubleKeyCipher_invertible key
  obtain ⟨number, read, numberSized⟩ :=
    invertible.decryptMessage_blocks 0 sized List.length_replicate
  have bothSized : (source.next hostRandomLength ++ Bytes.rotateLeft number).length = 32 := by
    rw [length_rotated_appended numberSized, source.length_next]
    rfl
  obtain ⟨message, answers, messageSized, -⟩ := invertible.encryptMessage_blocks 3 bothSized sized
  exact ⟨number, message, readChallenge_ok sized read, Except.mapError_eq_ok.mpr answers,
    messageSized⟩

private theorem checkConfirmation_deciphered {sent : SentResponse}
    (deciphered : (Des.doubleKeyCipher key).decryptMessage sent.lastBlock confirmation = .ok plain) :
    checkConfirmation key sent (.ofBytes confirmation) =
      if plain ≠ Bytes.rotateLeft sent.hostRandom then
        .error (.authenticationFailed "tag returned a wrong confirmation")
      else .ok () := by
  simp only [checkConfirmation, BitVector.toBytes_ofBytes, Except.mapError, bind, Except.bind,
    deciphered]
  rfl

end TdesHandshake

namespace AesHandshake

private theorem exists_answer (keySized : key.length = Layout.aesKeyLength)
    (sized : challenge.length = blockSize) (source : RandomSource) :
    ∃ number message, readChallenge key (.ofBytes challenge) = .ok number ∧
      buildResponse key (source.next blockSize) number =
        .ok (CommandCode.continueAuthentication.code :: message) ∧
        message.length = Frame.responseLength := by
  have invertible := Aes.cipher_invertible keySized
  have zeros : zeroBlock.length = 16 := List.length_replicate
  obtain ⟨number, read, numberSized⟩ := invertible.decryptMessage_blocks 0 sized zeros
  have bothSized : (source.next blockSize ++ Bytes.rotateLeft number).length = 32 := by
    rw [length_rotated_appended numberSized, source.length_next]
    rfl
  obtain ⟨message, enciphered, messageSized, -⟩ := invertible.encryptMessage_blocks 1 bothSized zeros
  refine ⟨number, message, readChallenge_ok sized read, ?_, messageSized⟩
  rw [buildResponse, Except.mapError_eq_ok.mpr enciphered]
  exact Frame.continueAuthentication_eq_ok.mpr ⟨messageSized, rfl⟩

private theorem checkConfirmation_deciphered {hostRandom : Bytes}
    (deciphered : (Aes.cipher key).decryptMessage zeroBlock confirmation = .ok plain) :
    checkConfirmation key hostRandom (.ofBytes confirmation) =
      if plain ≠ Bytes.rotateLeft hostRandom then
        .error (.authenticationFailed "tag returned a wrong confirmation")
      else .ok () := by
  simp only [checkConfirmation, BitVector.toBytes_ofBytes, Except.mapError, bind, Except.bind,
    deciphered]
  rfl

end AesHandshake

namespace Engine

/-- The engine has a verdict on every confirmation that the codec lets through: it takes it, or
authentication has failed. -/
def Judges (family : ChipFamily) (engine : Engine) : Prop :=
  ∀ response confirmation, Response.confirmation family response = .ok confirmation →
    (engine.confirm (.ofBytes confirmation)).1 = .ok () ∨
      (engine.confirm (.ofBytes confirmation)).1 =
        .error (.authenticationFailed "tag returned a wrong confirmation")

private theorem judges_tdes (key hostRandom : Bytes) {message : Bytes}
    (sized : message.length = Frame.responseLength) :
    Judges .ultralight (tdes ⟨key, .started (some ⟨hostRandom, Bytes.lastBlock 8 message⟩)⟩) := by
  intro response confirmation decoded
  obtain ⟨-, confirmationSized⟩ := Response.handshakeStep_eq_ok decoded
  have lastSized : (Bytes.lastBlock 8 message).length = 8 := by
    apply Bytes.length_lastBlock
    rw [sized]
    decide
  obtain ⟨plain, deciphered, -⟩ :=
    (Des.doubleKeyCipher_invertible key).decryptMessage_blocks 2 confirmationSized lastSized
  rw [confirm, TdesHandshake.confirm_started,
    TdesHandshake.checkConfirmation_deciphered deciphered]
  split
  · exact .inr rfl
  · exact .inl rfl

private theorem judges_aes {key : Bytes} (keySized : key.length = Layout.aesKeyLength) (slot : KeySlot)
    (cmac : Bool) (hostRandom number : Bytes) :
    Judges .ultralightAes (aes ⟨key, slot, cmac, .started hostRandom number⟩) := by
  intro response confirmation decoded
  obtain ⟨-, confirmationSized⟩ := Response.handshakeStep_eq_ok decoded
  obtain ⟨plain, deciphered, -⟩ := (Aes.cipher_invertible keySized).decryptMessage_blocks 0
    confirmationSized List.length_replicate
  rw [confirm, AesHandshake.confirm_started,
    AesHandshake.checkConfirmation_deciphered deciphered]
  split
  · exact .inr rfl
  · exact .inl rfl

/-- The engine has an answer to every challenge that the codec lets through, whatever the terminal
draws, and then a verdict on the confirmation. -/
def Answers (family : ChipFamily) (engine : Engine) : Prop :=
  ∀ response challenge, Response.challenge family response = .ok challenge → ∀ source,
    ∃ message answered rest,
      engine.respond (.ofBytes challenge) source =
          (.ok (CommandCode.continueAuthentication.code :: message), answered, rest) ∧
        message.length = Frame.responseLength ∧ answered.Judges family

private theorem answers_tdes (key : Bytes) : Answers .ultralight (tdes ⟨key, .started none⟩) := by
  intro response challenge decoded source
  obtain ⟨-, sized⟩ := Response.handshakeStep_eq_ok decoded
  obtain ⟨number, message, reads, answers, messageSized⟩ :=
    TdesHandshake.exists_answer key sized source
  exact ⟨message, _, _, respond_tdes reads answers messageSized, messageSized,
    judges_tdes key _ messageSized⟩

private theorem answers_aes {key : Bytes} (keySized : key.length = Layout.aesKeyLength) (slot : KeySlot)
    (cmac : Bool) :
    Answers .ultralightAes
      (aes ⟨key, slot, cmac, .started AesHandshake.zeroBlock AesHandshake.zeroBlock⟩) := by
  intro response challenge decoded source
  obtain ⟨-, sized⟩ := Response.handshakeStep_eq_ok decoded
  obtain ⟨number, message, reads, answers, messageSized⟩ :=
    AesHandshake.exists_answer keySized sized source
  exact ⟨message, _, _, respond_aes slot cmac reads answers, messageSized,
    judges_aes keySized slot cmac _ number⟩

/-- A new engine starts, and from then on every response that the codec lets through is worked with. -/
theorem exists_answers_of_new {family : ChipFamily} {key : AuthKey} {slot : KeySlot} {cmac : Bool}
    {engine : Engine} (made : new family key slot cmac = .ok engine) :
    ∃ first started, engine.start = (.ok first, started) ∧ started.Answers family := by
  have isFor := isFor_new made
  have idle := phase_new made
  cases engine with
  | tdes handshake =>
    obtain rfl : family = .ultralight := isFor
    obtain ⟨key, state⟩ := handshake
    cases state with
    | idle => exact ⟨_, _, rfl, answers_tdes key⟩
    | started | complete | failed => cases idle
  | aes handshake =>
    obtain ⟨rfl, keySized, rfl⟩ := isFor
    obtain ⟨key, slot, cmac, state⟩ := handshake
    cases state with
    | idle =>
      refine ⟨[CommandCode.authenticate.code, slot.code], _, ?_, answers_aes keySized slot cmac⟩
      cases slot <;> rfl
    | started | authenticated | failed => cases idle

/-- Whatever the codec of the family lets through, a new engine that takes its steps in order is not
stopped by the length of a vector or by its cipher. It answers the challenge with a frame of 33 bytes,
and either takes the confirmation or says that authentication has failed. -/
theorem decoded_responses_lead_to_verdict {family : ChipFamily} {key : AuthKey} {slot : KeySlot}
    {cmac : Bool} {engine : Engine} (made : new family key slot cmac = .ok engine) :
    ∃ first started, engine.start = (.ok first, started) ∧
      ∀ response challenge, Response.challenge family response = .ok challenge → ∀ source,
        ∃ frame answered rest,
          started.respond (.ofBytes challenge) source = (.ok frame, answered, rest) ∧
            frame.length = 33 ∧
            frame.head? = some CommandCode.continueAuthentication.code ∧
            ∀ response confirmation, Response.confirmation family response = .ok confirmation →
              (answered.confirm (.ofBytes confirmation)).1 = .ok () ∨
                ∃ reason, (answered.confirm (.ofBytes confirmation)).1 =
                  .error (.authenticationFailed reason) := by
  obtain ⟨first, started, starts, answers⟩ := exists_answers_of_new made
  refine ⟨first, started, starts, fun response challenge decoded source => ?_⟩
  obtain ⟨message, answered, rest, responds, sized, judges⟩ :=
    answers response challenge decoded source
  refine ⟨_, answered, rest, responds, congrArg (· + 1) sized, rfl, ?_⟩
  intro response confirmation decoded
  exact (judges response confirmation decoded).imp_right fun failed => ⟨_, failed⟩

/-- Under a key of zeros a tag may answer with zeros enciphered. The engine answers the challenge, takes
that as a confirmation, and says of zeros as they are that authentication has failed. -/
theorem zeroKey_leads_to_verdict :
    ∃ engine first started frame answered rest,
      new .ultralightAes (.aes ⟨List.replicate 16 0, rfl⟩) .dataProtection true = .ok engine ∧
        engine.start = (.ok first, started) ∧
        started.respond (.ofBytes zerosEnciphered.bytes) ⟨fun _ => 0, 0⟩ =
          (.ok frame, answered, rest) ∧
        frame.length = 33 ∧ frame.head? = some CommandCode.continueAuthentication.code ∧
        (answered.confirm (.ofBytes zerosEnciphered.bytes)).1 = .ok () ∧
        ∃ reason, (answered.confirm (.ofBytes (List.replicate 16 0))).1 =
          .error (.authenticationFailed reason) := by
  obtain ⟨engine, made⟩ : ∃ engine, new .ultralightAes (.aes ⟨List.replicate 16 0, rfl⟩)
    .dataProtection true = .ok engine := ⟨_, rfl⟩
  obtain ⟨first, started, starts, answers⟩ := decoded_responses_lead_to_verdict made
  have challenged : Response.challenge .ultralightAes
      (Response.challengeStatus :: zerosEnciphered.bytes) = .ok zerosEnciphered.bytes := by
    decide +kernel
  have confirmed : Response.confirmation .ultralightAes
      (Response.confirmationStatus :: zerosEnciphered.bytes) = .ok zerosEnciphered.bytes := by
    decide +kernel
  have zeros : Response.confirmation .ultralightAes
      (Response.confirmationStatus :: List.replicate 16 0) = .ok (List.replicate 16 0) := by
    decide +kernel
  obtain ⟨frame, answered, rest, responds, sized, head, judges⟩ :=
    answers _ _ challenged ⟨fun _ => 0, 0⟩
  have verdicts :
      let answered := (engine.start.2.respond (.ofBytes zerosEnciphered.bytes) ⟨fun _ => 0, 0⟩).2.1
      (answered.confirm (.ofBytes zerosEnciphered.bytes)).1.isOk = true ∧
        (answered.confirm (.ofBytes (List.replicate 16 0))).1.isOk = false := by
    cases made
    decide +kernel
  rw [starts, responds] at verdicts
  obtain ⟨taken, refused⟩ := verdicts
  refine ⟨engine, first, started, frame, answered, rest, made, starts, responds, sized, head, ?_, ?_⟩
  · refine (judges _ _ confirmed).resolve_right ?_
    rintro ⟨reason, failed⟩
    rw [failed] at taken
    cases taken
  · refine (judges _ _ zeros).resolve_left fun done => ?_
    rw [done] at refused
    cases refused

end Engine
end Wristband
