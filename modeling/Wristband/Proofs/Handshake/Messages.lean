import Wristband.Frame.Response
import Wristband.Handshake.Engine
import Wristband.Proofs.Cipher.Aes

/-! What the messages of a handshake must be for a step to succeed. -/

namespace Wristband

namespace Except

variable {ε ε' α β : Type}

theorem bind_eq_ok {first : Except ε α} {next : α → Except ε β} {result : β} :
    first >>= next = .ok result ↔ ∃ value, first = .ok value ∧ next value = .ok result := by
  cases first with
  | error => exact ⟨nofun, nofun⟩
  | ok value =>
    refine ⟨fun done => ⟨value, rfl, done⟩, ?_⟩
    rintro ⟨_, ⟨⟩, done⟩
    exact done

theorem mapError_eq_ok {change : ε → ε'} {result : Except ε α} {value : α} :
    result.mapError change = .ok value ↔ result = .ok value := by
  cases result with
  | error => exact ⟨nofun, nofun⟩
  | ok => exact ⟨fun same => by cases same; rfl, fun same => by cases same; rfl⟩

private theorem throw_if_eq_ok {wrong : Prop} [Decidable wrong] {error : ε} :
    (if wrong then throw error else pure () : Except ε Unit) = .ok () ↔ ¬ wrong := by
  by_cases wrong_ : wrong
  · rw [if_pos wrong_]
    exact ⟨nofun, fun right => (right wrong_).elim⟩
  · rw [if_neg wrong_]
    exact ⟨fun _ => wrong_, fun _ => rfl⟩

end Except

@[simp] theorem RandomSource.length_next (source : RandomSource) (count : Nat) :
    (source.next count).length = count := by
  simp [next]

theorem ChipFamily.challengeLength_pos (family : ChipFamily) : 0 < family.challengeLength := by
  cases family <;> decide

theorem ChipFamily.confirmationLength_pos (family : ChipFamily) :
    0 < family.confirmationLength := by
  cases family <;> decide

theorem AesHandshake.checkConfirmation_eq_ok {key hostRandom : Bytes} {confirmation : BitVector} :
    checkConfirmation key hostRandom confirmation = .ok () ↔
      ∃ encrypted, confirmation.toBytes = .ok encrypted ∧
        (Aes.cipher key).decryptMessage zeroBlock encrypted =
          .ok (Bytes.rotateLeft hostRandom) := by
  simp only [checkConfirmation, Except.bind_eq_ok, Except.mapError_eq_ok, Except.throw_if_eq_ok,
    ne_eq, Classical.not_not, exists_eq_right]

theorem TdesHandshake.checkConfirmation_eq_ok {key : Bytes} {sent : SentResponse}
    {confirmation : BitVector} : checkConfirmation key sent confirmation = .ok () ↔
      ∃ encrypted, confirmation.toBytes = .ok encrypted ∧
        (Des.doubleKeyCipher key).decryptMessage sent.lastBlock encrypted =
          .ok (Bytes.rotateLeft sent.hostRandom) := by
  simp only [checkConfirmation, Except.bind_eq_ok, Except.mapError_eq_ok, Except.throw_if_eq_ok,
    ne_eq, Classical.not_not, exists_eq_right]

/-- What is said of a confirmation is what the check says. -/
theorem TdesHandshake.confirm_started {key : Bytes} {sent : SentResponse} {confirmation : BitVector} :
    (confirm ⟨key, .started (some sent)⟩ confirmation).1 =
      checkConfirmation key sent confirmation := by
  unfold confirm
  dsimp only
  cases checkConfirmation key sent confirmation <;> rfl

theorem AesHandshake.confirm_started {key hostRandom tagRandom : Bytes} {slot : KeySlot} {cmac : Bool}
    {confirmation : BitVector} :
    (confirm ⟨key, slot, cmac, .started hostRandom tagRandom⟩ confirmation).1 =
      checkConfirmation key hostRandom confirmation := by
  unfold confirm
  dsimp only
  cases checkConfirmation key hostRandom confirmation <;> rfl

theorem TdesHandshake.readChallenge_ok {key challenge number : Bytes}
    (sized : challenge.length = blockSize)
    (read : (Des.doubleKeyCipher key).decryptMessage (List.replicate blockSize 0) challenge =
      .ok number) : readChallenge key (.ofBytes challenge) = .ok number := by
  have whole : ¬ challenge.length ≠ blockSize := not_not_intro sized
  refine Except.bind_eq_ok.mpr
    ⟨challenge, Except.mapError_eq_ok.mpr (BitVector.toBytes_ofBytes challenge), ?_⟩
  rw [if_neg whole]
  exact Except.mapError_eq_ok.mpr read

theorem AesHandshake.readChallenge_ok {key challenge number : Bytes}
    (sized : challenge.length = blockSize)
    (read : (Aes.cipher key).decryptMessage zeroBlock challenge = .ok number) :
    readChallenge key (.ofBytes challenge) = .ok number := by
  have whole : ¬ challenge.length ≠ blockSize := not_not_intro sized
  refine Except.bind_eq_ok.mpr
    ⟨challenge, Except.mapError_eq_ok.mpr (BitVector.toBytes_ofBytes challenge), ?_⟩
  rw [if_neg whole]
  exact Except.mapError_eq_ok.mpr read

theorem Frame.continueAuthentication_eq_ok {message frame : Bytes} :
    continueAuthentication (.ofBytes message) = .ok frame ↔
      message.length = responseLength ∧ frame = CommandCode.continueAuthentication.code :: message := by
  unfold continueAuthentication
  split
  next unsized =>
    refine ⟨nofun, ?_⟩
    rintro ⟨sized, _⟩
    exact (unsized (congrArg (· * 8) sized)).elim
  next sized =>
    have bits : message.length * 8 = responseLength * 8 := Classical.not_not.mp sized
    have bytes : message.length = responseLength := Nat.eq_of_mul_eq_mul_right (by decide) bits
    constructor
    · intro made
      exact ⟨bytes, (Except.ok.inj made).symm⟩
    · rintro ⟨_, rfl⟩
      rfl

variable {challenge : BitVector} {source rest : RandomSource} {frame : Bytes}

/-- The terminal remembers the number that it has drawn, and where the message ends. -/
theorem TdesHandshake.respond_eq_ok {handshake after : TdesHandshake}
    (responded : handshake.respond challenge source = (.ok frame, after, rest)) :
    ∃ message, frame = CommandCode.continueAuthentication.code :: message ∧
      message.length = Frame.responseLength ∧
      after = { handshake with
        state := .started (some ⟨source.next hostRandomLength, Bytes.lastBlock blockSize message⟩) } := by
  unfold respond at responded
  split at responded
  · split at responded
    · cases responded
    · dsimp only at responded
      split at responded
      · cases responded
      next built =>
        cases responded
        obtain ⟨_, _, made⟩ := Except.bind_eq_ok.mp built
        obtain ⟨_, made, same⟩ := Except.bind_eq_ok.mp made
        cases same
        obtain ⟨sized, rfl⟩ := Frame.continueAuthentication_eq_ok.mp made
        exact ⟨_, rfl, sized, rfl⟩
  · cases responded

theorem AesHandshake.respond_eq_ok {handshake after : AesHandshake}
    (responded : handshake.respond challenge source = (.ok frame, after, rest)) :
    ∃ message tagRandom, frame = CommandCode.continueAuthentication.code :: message ∧
      message.length = Frame.responseLength ∧
      after = { handshake with state := .started (source.next blockSize) tagRandom } := by
  unfold respond at responded
  split at responded
  · split at responded
    · cases responded
    next tagRandom _ =>
      dsimp only at responded
      split at responded
      · cases responded
      next built =>
        cases responded
        obtain ⟨message, _, made⟩ := Except.bind_eq_ok.mp built
        obtain ⟨sized, rfl⟩ := Frame.continueAuthentication_eq_ok.mp made
        exact ⟨message, tagRandom, rfl, sized, rfl⟩
  · cases responded

namespace Response

variable {status : UInt8} {length : Nat} {response payload : Bytes}

theorem handshakeStep_eq_ok (accepted : handshakeStep status length response = .ok payload) :
    response = status :: payload ∧ payload.length = length := by
  obtain ⟨_, _, rest⟩ := Except.bind_eq_ok.mp accepted
  cases response with
  | nil => cases rest
  | cons first payload =>
    dsimp only at rest
    split at rest
    · cases rest
    next same =>
      split at rest
      · cases rest
      next sized =>
        cases rest
        rw [Classical.not_not.mp same]
        exact ⟨rfl, Classical.not_not.mp sized⟩

theorem handshakeStep_ok (some_ : 0 < length) (sized : payload.length = length) :
    handshakeStep status length (status :: payload) = .ok payload := by
  have accepted : checkNak (status :: payload) = .ok () := by
    cases payload with
    | nil =>
      subst sized
      cases some_
    | cons => rfl
  simp only [handshakeStep, accepted, sized, ne_eq, not_true_eq_false, if_false]
  rfl

/-- A refusal is a single byte, so what is accepted is no refusal. -/
theorem length_of_handshakeStep (some_ : 0 < length)
    (accepted : handshakeStep status length response = .ok payload) : response.length ≠ 1 := by
  obtain ⟨rfl, sized⟩ := handshakeStep_eq_ok accepted
  rw [List.length_cons, sized]
  omega

end Response
end Wristband
