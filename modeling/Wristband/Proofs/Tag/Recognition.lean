import Mathlib.Data.Option.Basic
import Wristband.Proofs.Tag.Calls

/-! When a simulated tag takes the terminal for authenticated: from the message that returns its last
challenge, on the connection on which it issued it, to the first call that ends this. -/

namespace Wristband

/-- The message deciphers to something that ends with the number of the challenge, rotated. -/
inductive TagAuthentication.IsReturnedBy (message : Bytes) : TagAuthentication → Prop where
  | tdes {key number encrypted plain : Bytes}
      (deciphers : (Des.doubleKeyCipher key).decryptMessage encrypted message = .ok plain)
      (rotated : plain.drop 24 = Bytes.rotateLeft number) :
      IsReturnedBy message (.tdesChallenge key number encrypted)
  | aes {key number plain : Bytes}
      (deciphers : (Aes.cipher key).decryptMessage (SimulatedTag.zeros 16) message = .ok plain)
      (rotated : plain.drop 16 = Bytes.rotateLeft number) :
      IsReturnedBy message (.aesChallenge key number)

inductive TagAuthentication.IsChallenge : TagAuthentication → Prop where
  | tdes (key number encrypted : Bytes) : IsChallenge (.tdesChallenge key number encrypted)
  | aes (key number : Bytes) : IsChallenge (.aesChallenge key number)

namespace SimulatedTag

inductive Challenges (tag : SimulatedTag) (frame : Bytes) : TagAuthentication → Prop where
  | tdes {encrypted : Bytes} (chip : tag.chip = .ultralightC)
      (taken : tag.taken? (.transceive frame) = some (.authenticate 0))
      (encrypts : (Des.doubleKeyCipher (tag.keyAt Layout.tdesKeyPage)).encryptMessage (zeros 8)
        (tag.random.next 8) = .ok encrypted)
      (answered : (tag.transceive frame).1 = .ok (Response.challengeStatus :: encrypted)) :
      Challenges tag frame
        (.tdesChallenge (tag.keyAt Layout.tdesKeyPage) (tag.random.next 8) encrypted)
  | aes {slot : UInt8} {encrypted : Bytes} (chip : tag.chip = .ultralightAes) (known : slot ≤ 2)
      (taken : tag.taken? (.transceive frame) = some (.authenticate slot))
      (encrypts : (Aes.cipher (tag.keyAt (Layout.aesDataKeyPage + slot * 4))).encryptMessage
        (zeros 16) (tag.random.next 16) = .ok encrypted)
      (answered : (tag.transceive frame).1 = .ok (Response.challengeStatus :: encrypted)) :
      Challenges tag frame
        (.aesChallenge (tag.keyAt (Layout.aesDataKeyPage + slot * 4)) (tag.random.next 16))

/-- What ends an authentication, and a challenge before it: opening and closing the connection, a frame
with a wrong code, a refused command, and a new handshake. A tag that has left the field cannot be
connected. -/
inductive Ends (tag : SimulatedTag) : TagCall → Prop where
  | connect (present : tag.lost = false) : Ends tag .connect
  | close : Ends tag .close
  | rejected {frame : Bytes} (responds : tag.responds = true)
      (wrong : tag.received? frame = none) : Ends tag (.transceive frame)
  | refused {frame received : Bytes} {status : UInt8} (reached : tag.received? frame = some received)
      (nak : ((tag.heard frame).execute received).1 = .nak status) : Ends tag (.transceive frame)
  | restarted {frame : Bytes} {slot : UInt8}
      (taken : tag.taken? (.transceive frame) = some (.authenticate slot)) :
      Ends tag (.transceive frame)

inductive Turns (tag : SimulatedTag) (call : TagCall) : TagAuthentication → Prop where
  | kept (lasts : ¬ tag.Ends call)
      (unused : ∀ message, tag.taken? call ≠ some (.continueAuthentication message)) :
      Turns tag call tag.authentication
  | counted {channel : SecureChannel} (lasts : ¬ tag.Ends call)
      (active : tag.authentication = .authenticated (some channel)) :
      Turns tag call (.authenticated (some channel.advanced))
  | ended (ends : tag.Ends call) : Turns tag call .none
  | challenged {frame : Bytes} {challenge : TagAuthentication} (asked : call = .transceive frame)
      (ends : tag.Ends call) (challenges : tag.Challenges frame challenge) : Turns tag call challenge
  | recognised {message : Bytes} {channel : Option SecureChannel} (lasts : ¬ tag.Ends call)
      (taken : tag.taken? call = some (.continueAuthentication message))
      (returned : tag.authentication.IsReturnedBy message) : Turns tag call (.authenticated channel)

variable {tag : SimulatedTag} {frame received message : Bytes} {challenge : TagAuthentication}

private theorem lasts_of_data {payload : Bytes} (reached : tag.received? frame = some received)
    (data : ((tag.heard frame).execute received).1 = .data payload)
    (other : ∀ slot, TagCommand.ofFrame received ≠ .authenticate slot) :
    ¬ tag.Ends (.transceive frame) := by
  intro ends
  cases ends with
  | rejected responds wrong => cases reached.symm.trans wrong
  | refused again nak =>
    cases reached.symm.trans again
    cases data.symm.trans nak
  | restarted taken =>
    rw [taken?_of_received reached] at taken
    exact other _ (Option.some.inj taken)

private theorem lasts_of_silent (silent : tag.responds = false) : ¬ tag.Ends (.transceive frame) := by
  have unreached := received?_of_silent silent frame
  intro ends
  cases ends with
  | rejected responds wrong => cases silent.symm.trans responds
  | refused reached nak => cases unreached.symm.trans reached
  | restarted taken =>
    rw [taken?, unreached] at taken
    cases taken

private theorem ok_of_toOption {ε α : Type} {result : Except ε α} {value : α}
    (some_ : result.toOption = some value) : result = .ok value := by
  cases result with
  | error => cases some_
  | ok => exact congrArg Except.ok (Option.some.inj some_)

private theorem isReturnedBy_of_confirmTdes {key number encrypted confirmation : Bytes}
    (convinces : confirmTdes key number encrypted message = some confirmation) :
    (TagAuthentication.tdesChallenge key number encrypted).IsReturnedBy message := by
  obtain ⟨plain, deciphered, convinces⟩ := Option.bind_eq_some_iff.mp convinces
  obtain ⟨_, rotated, _⟩ := Option.bind_eq_some_iff.mp convinces
  exact .tdes (ok_of_toOption deciphered) ((Option.guard_eq_some' _).mp rotated)

private theorem isReturnedBy_of_confirmAes {key number : Bytes} {found : Bytes × Bytes}
    (convinces : confirmAes key number message = some found) :
    (TagAuthentication.aesChallenge key number).IsReturnedBy message := by
  obtain ⟨plain, deciphered, convinces⟩ := Option.bind_eq_some_iff.mp convinces
  obtain ⟨_, rotated, _⟩ := Option.bind_eq_some_iff.mp convinces
  exact .aes (ok_of_toOption deciphered) ((Option.guard_eq_some' _).mp rotated)

private theorem continueAuthentication_returned (tag : SimulatedTag) {payload : Bytes}
    (data : (tag.continueAuthentication message).1 = .data payload) :
    tag.authentication.IsReturnedBy message := by
  unfold continueAuthentication at data
  split at data
  · cases data
  · split at data
    next waits =>
      split at data
      next => cases data
      next convinces =>
        rw [waits]
        exact isReturnedBy_of_confirmTdes convinces
    next waits =>
      split at data
      next => cases data
      next convinces =>
        rw [waits]
        exact isReturnedBy_of_confirmAes convinces
    next => cases data

private theorem transceive_authenticate {slot : UInt8} {payload : Bytes}
    (reached : tag.received? frame = some received)
    (means : TagCommand.ofFrame received = .authenticate slot)
    (data : ((tag.heard frame).authenticate slot).1 = .data payload) :
    tag.transceive frame = (.ok payload, ((tag.heard frame).authenticate slot).2) := by
  have executed : (tag.heard frame).execute received = (tag.heard frame).authenticate slot := by
    rw [execute, means]
  have open_ : ((tag.heard frame).authenticate slot).2.channel? = none := by
    obtain nak | ⟨_, open_⟩ := (tag.heard frame).authenticate_reply slot
    · rw [nak] at data
      cases data
    · exact open_
  rw [← executed] at data open_ ⊢
  exact (transceive_received reached).trans (answerCommand_unsealed data fun _ => open_)

private theorem challenges_of_data {slot : UInt8} {payload : Bytes}
    (reached : tag.received? frame = some received)
    (means : TagCommand.ofFrame received = .authenticate slot)
    (data : ((tag.heard frame).authenticate slot).1 = .data payload) :
    tag.Challenges frame ((tag.heard frame).authenticate slot).2.authentication := by
  have taken : tag.taken? (.transceive frame) = some (.authenticate slot) :=
    (taken?_of_received reached).trans (congrArg some means)
  have answered : (tag.transceive frame).1 = .ok payload := by
    rw [transceive_authenticate reached means data]
  have sameChip : (tag.heard frame).unauthenticated.chip = tag.chip := rfl
  unfold authenticate at data ⊢
  dsimp only at data ⊢
  rw [sameChip] at data ⊢
  cases chip : tag.chip with
  | ultralight =>
    rw [chip] at data
    cases data
  | ultralightC =>
    simp only [chip] at data ⊢
    split at data
    next => cases data
    next first =>
      obtain rfl : slot = 0 := not_not.mp first
      rw [if_neg first]
      split at data
      next => cases data
      next encrypts =>
        cases data
        exact .tdes chip taken encrypts answered
  | ultralightAes =>
    simp only [chip] at data ⊢
    split at data
    next => cases data
    next known =>
      rw [if_neg known]
      split at data
      next => cases data
      next encrypts =>
        cases data
        exact .aes chip (UInt8.not_lt.mp known) taken encrypts answered

theorem Challenges.isChallenge (challenges : tag.Challenges frame challenge) :
    challenge.IsChallenge := by
  cases challenges with
  | tdes => exact .tdes _ _ _
  | aes => exact .aes _ _

private theorem isChallenge_of_isReturnedBy (returned : challenge.IsReturnedBy message) :
    challenge.IsChallenge := by
  cases returned with
  | tdes => exact .tdes _ _ _
  | aes => exact .aes _ _

private theorem channel?_of_isChallenge (waits : tag.authentication.IsChallenge) : tag.channel? = none := by
  cases active : tag.channel? with
  | none => rfl
  | some channel =>
    rw [channel?_eq_some.mp active] at waits
    cases waits

private theorem sealReply_turns {call : TagCall} {after : SimulatedTag} (payload : Bytes)
    (same : after.authentication = tag.authentication) (lasts : ¬ tag.Ends call)
    (unused : ∀ message, tag.taken? call ≠ some (.continueAuthentication message)) :
    tag.Turns call (after.sealReply payload).2.authentication := by
  unfold sealReply
  rw [channel?_congr same]
  cases active : tag.channel? with
  | none => exact same ▸ .kept lasts unused
  | some channel =>
    dsimp only
    split
    · exact same ▸ .kept lasts unused
    next sealed =>
      obtain ⟨_, rfl⟩ := SecureChannel.sealResponse_eq_ok sealed
      split <;> exact .counted lasts (channel?_eq_some.mp active)

private theorem request_turns {payload : Bytes} (reached : tag.received? frame = some received)
    (data : ((tag.heard frame).execute received).1 = .data payload)
    (request : ¬ Frame.IsHandshake received) :
    tag.Turns (.transceive frame)
      ((tag.heard frame).answerCommand tag.channel?.isSome received).2.authentication := by
  have same : ((tag.heard frame).execute received).2.authentication = tag.authentication :=
    execute_request request
  have unused (message : Bytes) :
      tag.taken? (.transceive frame) ≠ some (.continueAuthentication message) := by
    rw [taken?_of_received reached]
    intro taken
    rw [TagCommand.isReadFrom (Option.some.inj taken)] at request
    exact request (.inr rfl)
  have lasts : ¬ tag.Ends (.transceive frame) := by
    refine lasts_of_data reached data fun slot means => ?_
    rw [TagCommand.isReadFrom means] at request
    exact request (.inl rfl)
  unfold answerCommand
  rcases executed : (tag.heard frame).execute received with ⟨reply, after⟩
  rw [executed] at data same
  cases data
  dsimp only
  split
  · exact sealReply_turns payload same lasts unused
  · exact same ▸ .kept lasts unused

private theorem handshake_of_data {payload : Bytes} (data : (tag.execute received).1 = .data payload)
    (handshake : Frame.IsHandshake received) :
    (∃ slot, TagCommand.ofFrame received = .authenticate slot) ∨
      ∃ message, TagCommand.ofFrame received = .continueAuthentication message := by
  cases means : TagCommand.ofFrame received with
  | authenticate slot => exact .inl ⟨slot, rfl⟩
  | continueAuthentication message => exact .inr ⟨message, rfl⟩
  | unknown =>
    rw [execute, means] at data
    cases data
  | getVersion | read =>
    rw [TagCommand.isReadFrom means] at handshake
    rcases handshake with head | head <;> cases head
  | write =>
    rw [(TagCommand.isReadFrom means).1] at handshake
    rcases handshake with head | head <;> cases head

private theorem answered_turns (reached : tag.received? frame = some received) :
    tag.Turns (.transceive frame)
      ((tag.heard frame).answerCommand tag.channel?.isSome received).2.authentication := by
  obtain nak | ⟨payload, data⟩ := (tag.heard frame).execute_reply received
  · rw [answerCommand_refused nak]
    exact .ended (.refused reached nak)
  by_cases handshake : Frame.IsHandshake received
  · obtain ⟨slot, means⟩ | ⟨message, means⟩ := handshake_of_data data handshake
    · have executed : (tag.heard frame).execute received = (tag.heard frame).authenticate slot := by
        rw [execute, means]
      have taken := (taken?_of_received reached).trans (congrArg some means)
      rw [executed] at data
      rw [← transceive_received reached, transceive_authenticate reached means data]
      exact .challenged rfl (.restarted taken) (challenges_of_data reached means data)
    · have executed : (tag.heard frame).execute received =
          (tag.heard frame).continueAuthentication message := by
        rw [execute, means]
      have taken := (taken?_of_received reached).trans (congrArg some means)
      have lasts : ¬ tag.Ends (.transceive frame) := by
        refine lasts_of_data reached data fun slot other => ?_
        cases means.symm.trans other
      have returned : tag.authentication.IsReturnedBy message :=
        (tag.heard frame).continueAuthentication_returned (executed ▸ data)
      obtain nak | ⟨_, channel, authenticated, _⟩ :=
        (tag.heard frame).continueAuthentication_reply message
      · rw [executed, nak] at data
        cases data
      · rw [← executed] at authenticated
        rw [channel?_of_isChallenge (isChallenge_of_isReturnedBy returned), Option.isSome_none,
          answerCommand_unsealed data fun through => absurd through Bool.false_ne_true, authenticated]
        exact .recognised lasts taken returned
  · exact request_turns reached data handshake

theorem perform_turns (tag : SimulatedTag) (call : TagCall) :
    tag.Turns call (tag.perform call).2.authentication := by
  cases call with
  | connect =>
    cases lost : tag.lost with
    | true =>
      have lasts : ¬ tag.Ends .connect := by
        intro ends
        cases ends with
        | connect present => cases lost.symm.trans present
      rw [perform_connect_of_lost lost]
      refine .kept lasts fun message taken => ?_
      cases taken
    | false =>
      rw [perform_connect_of_present lost]
      exact .ended (.connect lost)
  | close => exact .ended .close
  | transceive frame =>
    rw [perform]
    have delivered := tag.transceive_delivered frame
    generalize tag.transceive frame = result at delivered ⊢
    cases delivered with
    | missed silent memory same =>
      rw [same]
      refine .kept (lasts_of_silent silent) fun message taken => ?_
      rw [taken?, received?_of_silent silent] at taken
      cases taken
    | rejected responds wrong => exact .ended (.rejected responds wrong)
    | answered reached => exact answered_turns reached

inductive Stands (tag : SimulatedTag) : List TagCall → TagAuthentication → Prop where
  | issued {before : List TagCall} {frame : Bytes} {challenge : TagAuthentication}
      (challenges : (tag.after before).Challenges frame challenge) :
      Stands tag (before ++ [.transceive frame]) challenge
  | lasts {calls : List TagCall} {call : TagCall} {challenge : TagAuthentication}
      (stands : Stands tag calls challenge) (lasts : ¬ (tag.after calls).Ends call)
      (unused : ∀ message, (tag.after calls).taken? call ≠ some (.continueAuthentication message)) :
      Stands tag (calls ++ [call]) challenge

/-- A challenge was returned while it stood, and since then nothing has ended the authentication. -/
inductive Recognised (tag : SimulatedTag) : List TagCall → Prop where
  | returned {before : List TagCall} {frame message : Bytes} {challenge : TagAuthentication}
      (stands : tag.Stands before challenge)
      (taken : (tag.after before).taken? (.transceive frame) = some (.continueAuthentication message))
      (returned : challenge.IsReturnedBy message)
      (accepted : ¬ (tag.after before).Ends (.transceive frame)) :
      Recognised tag (before ++ [.transceive frame])
  | lasts {calls : List TagCall} {call : TagCall} (recognised : Recognised tag calls)
      (lasts : ¬ (tag.after calls).Ends call) : Recognised tag (calls ++ [call])

private theorem stands_of_isChallenge (new : tag.authentication = .none) (calls : List TagCall)
    (waits : (tag.after calls).authentication.IsChallenge) :
    tag.Stands calls (tag.after calls).authentication := by
  induction calls using List.reverseRecOn with
  | nil =>
    rw [show tag.after [] = tag from rfl, new] at waits
    cases waits
  | append_singleton calls call ih =>
    rw [after_concat] at waits ⊢
    have turns := (tag.after calls).perform_turns call
    generalize ((tag.after calls).perform call).2.authentication = challenge at turns waits ⊢
    cases turns with
    | kept lasts unused => exact .lasts (ih waits) lasts unused
    | counted | ended | recognised => cases waits
    | challenged asked ends challenges =>
      subst asked
      exact .issued challenges

private theorem Stands.isChallenge {calls : List TagCall} (stands : tag.Stands calls challenge) :
    challenge.IsChallenge := by
  induction stands with
  | issued challenges => exact challenges.isChallenge
  | lasts _ _ _ ih => exact ih

private theorem authentication_of_challenges (challenges : tag.Challenges frame challenge) :
    (tag.transceive frame).2.authentication = challenge := by
  cases challenges with
  | @tdes encrypted chip taken encrypts =>
    obtain ⟨_, received, same, reached, means⟩ := taken?_eq_some taken
    cases same
    have begun : ((tag.heard frame).authenticate 0).1 =
        .data (Response.challengeStatus :: encrypted) ∧
        ((tag.heard frame).authenticate 0).2.authentication =
          .tdesChallenge (tag.keyAt Layout.tdesKeyPage) (tag.random.next 8) encrypted := by
      simp only [authenticate, unauthenticated, heard, chip, keyAt] at encrypts ⊢
      simp only [encrypts]
      exact ⟨rfl, rfl⟩
    rw [transceive_authenticate reached means begun.1]
    exact begun.2
  | @aes slot encrypted chip known taken encrypts =>
    obtain ⟨_, received, same, reached, means⟩ := taken?_eq_some taken
    cases same
    have begun : ((tag.heard frame).authenticate slot).1 =
        .data (Response.challengeStatus :: encrypted) ∧
        ((tag.heard frame).authenticate slot).2.authentication =
          .aesChallenge (tag.keyAt (Layout.aesDataKeyPage + slot * 4)) (tag.random.next 16) := by
      simp only [authenticate, unauthenticated, heard, chip, keyAt, if_neg (UInt8.not_lt.mpr known)]
        at encrypts ⊢
      simp only [encrypts, and_self]
    rw [transceive_authenticate reached means begun.1]
    exact begun.2

private theorem authentication_of_stands {calls : List TagCall} (stands : tag.Stands calls challenge) :
    (tag.after calls).authentication = challenge := by
  induction stands with
  | issued challenges =>
    rw [after_concat]
    exact authentication_of_challenges challenges
  | @lasts calls call challenge stands lasts unused ih =>
    rw [after_concat]
    have turns := (tag.after calls).perform_turns call
    generalize ((tag.after calls).perform call).2.authentication = next at turns ⊢
    cases turns with
    | kept => exact ih
    | counted _ active =>
      have waits := stands.isChallenge
      rw [← ih, active] at waits
      cases waits
    | ended ends => exact absurd ends lasts
    | challenged _ ends => exact absurd ends lasts
    | recognised _ taken => exact absurd taken (unused _)

/-- The challenge that stands after some calls is the one that the tag waits for. -/
theorem stands_iff (new : tag.authentication = .none) {calls : List TagCall} :
    tag.Stands calls challenge ↔
      challenge.IsChallenge ∧ (tag.after calls).authentication = challenge := by
  constructor
  · intro stands
    exact ⟨stands.isChallenge, authentication_of_stands stands⟩
  · rintro ⟨waits, rfl⟩
    exact stands_of_isChallenge new calls waits

private theorem isAuthenticated_iff : tag.isAuthenticated = true ↔
    ∃ channel, tag.authentication = .authenticated channel := by
  unfold isAuthenticated
  cases tag.authentication with
  | authenticated channel => exact ⟨fun _ => ⟨channel, rfl⟩, fun _ => rfl⟩
  | none | tdesChallenge | aesChallenge => exact ⟨nofun, nofun⟩

/-- A new tag takes the terminal for authenticated exactly when a challenge was returned to it in time
and nothing has ended that. -/
theorem isAuthenticated_iff_recognised (new : tag.authentication = .none) (calls : List TagCall) :
    (tag.after calls).isAuthenticated = true ↔ tag.Recognised calls := by
  constructor
  · intro authenticated
    obtain ⟨channel, held⟩ := isAuthenticated_iff.mp authenticated
    clear authenticated
    induction calls using List.reverseRecOn generalizing channel with
    | nil => cases new.symm.trans held
    | append_singleton calls call ih =>
      rw [after_concat] at held
      have turns := (tag.after calls).perform_turns call
      generalize ((tag.after calls).perform call).2.authentication = next at turns held
      cases turns with
      | kept lasts => exact .lasts (ih _ held) lasts
      | counted lasts active => exact .lasts (ih _ active) lasts
      | ended => cases held
      | challenged _ _ challenges =>
        have waits := challenges.isChallenge
        rw [held] at waits
        cases waits
      | recognised lasts taken returned =>
        obtain ⟨frame, _, rfl, _⟩ := taken?_eq_some taken
        have waits := isChallenge_of_isReturnedBy returned
        exact .returned ((stands_iff new).mpr ⟨waits, rfl⟩) taken returned lasts
  · intro recognised
    refine isAuthenticated_iff.mpr ?_
    induction recognised with
    | @returned before frame message challenge stands taken returned accepted =>
      rw [after_concat]
      have turns := (tag.after before).perform_turns (.transceive frame)
      generalize ((tag.after before).perform (.transceive frame)).2.authentication = next at turns ⊢
      cases turns with
      | kept _ unused => exact absurd taken (unused _)
      | counted | recognised => exact ⟨_, rfl⟩
      | ended ends => exact absurd ends accepted
      | challenged _ ends => exact absurd ends accepted
    | @lasts calls call recognised lasts ih =>
      rw [after_concat]
      have turns := (tag.after calls).perform_turns call
      generalize ((tag.after calls).perform call).2.authentication = next at turns ⊢
      cases turns with
      | kept => exact ih
      | counted | recognised => exact ⟨_, rfl⟩
      | ended ends => exact absurd ends lasts
      | challenged _ ends => exact absurd ends lasts

end SimulatedTag
end Wristband
