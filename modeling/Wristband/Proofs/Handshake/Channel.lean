import Wristband.Proofs.Handshake.Progress
import Wristband.Proofs.SecureChannel

/-! The secure channel of a handshake. A handshake ends with one exactly when the family has codes
and they were asked for, and using the channel does not touch the handshake. -/

namespace Wristband.Engine

theorem not_authenticated_invalidate (engine : Engine) :
    engine.invalidate.isAuthenticated = false := by
  cases engine <;> rfl

@[simp] theorem isAuthenticated_setChannel (engine : Engine) (channel : SecureChannel) :
    (engine.setChannel channel).isAuthenticated = engine.isAuthenticated := by
  cases engine with
  | tdes => rfl
  | aes handshake =>
    obtain ⟨key, slot, cmac, state⟩ := handshake
    cases state with
    | authenticated held => cases held <;> rfl
    | _ => rfl

theorem isAuthenticated_of_channel? {engine : Engine} {channel : SecureChannel}
    (active : engine.channel? = some channel) : engine.isAuthenticated = true := by
  cases engine with
  | tdes => cases active
  | aes handshake =>
    obtain ⟨key, slot, cmac, state⟩ := handshake
    cases state with
    | authenticated => rfl
    | _ => cases active

variable {family : ChipFamily} {cmac : Bool} {engine : Engine}

theorem channel?_setChannel {own next : SecureChannel} (active : engine.channel? = some own) :
    (engine.setChannel next).channel? = some next := by
  cases engine with
  | tdes => cases active
  | aes handshake =>
    obtain ⟨key, slot, cmac, state⟩ := handshake
    cases state with
    | authenticated held =>
      cases held with
      | none => cases active
      | some => rfl
    | _ => cases active

/-- The channel that a handshake ends with is new. -/
theorem counter_confirm {confirmation : BitVector} {own : SecureChannel}
    (confirmed : (engine.confirm confirmation).1 = .ok ())
    (active : (engine.confirm confirmation).2.channel? = some own) : own.counter = 0 := by
  cases engine with
  | tdes => cases active
  | aes handshake =>
    obtain ⟨key, slot, cmac, state⟩ := handshake
    cases state with
    | started hostRandom tagRandom =>
      cases checked : AesHandshake.checkConfirmation key hostRandom confirmation with
      | error => simp [confirm, AesHandshake.confirm, checked] at confirmed
      | ok =>
        simp only [confirm, AesHandshake.confirm, checked, channel?, AesHandshake.channel?,
          AesHandshake.sessionChannel?] at active
        split at active <;> cases active
        rfl
    | _ => cases confirmed

def IsFor (family : ChipFamily) (cmac : Bool) : Engine → Prop
  | tdes _ => family = .ultralight
  | aes handshake =>
    family = .ultralightAes ∧ handshake.key.length = Layout.aesKeyLength ∧ handshake.cmac = cmac

theorem isFor_new {key : AuthKey} {slot : KeySlot}
    (made : new family key slot cmac = .ok engine) : engine.IsFor family cmac := by
  unfold new at made
  split at made
  · split at made <;> cases made
    rfl
  next key =>
    cases made
    exact ⟨rfl, key.property, rfl⟩
  · cases made

theorem IsFor.perform (isFor : engine.IsFor family cmac) (call : HandshakeCall) :
    (engine.perform call).2.IsFor family cmac := by
  cases engine with
  | tdes => cases call <;> exact isFor
  | aes handshake =>
    obtain ⟨state, after⟩ := perform_aes handshake call
    rw [after]
    exact isFor

/-- What a confirmed handshake has for a channel. -/
theorem IsFor.confirm (isFor : engine.IsFor family cmac) {confirmation : BitVector}
    (confirmed : (engine.confirm confirmation).1 = .ok ()) :
    (engine.confirm confirmation).2.channel?.isSome = (family.supportsCmac && cmac) ∧
      ∀ channel, (engine.confirm confirmation).2.channel? = some channel →
        channel.sessionKey.length = 16 := by
  cases engine with
  | tdes handshake =>
    obtain rfl : family = .ultralight := isFor
    exact ⟨rfl, nofun⟩
  | aes handshake =>
    obtain ⟨key, slot, asked, state⟩ := handshake
    obtain ⟨rfl, sized, rfl⟩ := isFor
    cases state with
    | started hostRandom tagRandom =>
      cases checked : AesHandshake.checkConfirmation key hostRandom confirmation with
      | error => simp [Engine.confirm, AesHandshake.confirm, checked] at confirmed
      | ok =>
        simp only [Engine.confirm, AesHandshake.confirm, checked, channel?, AesHandshake.channel?,
          AesHandshake.sessionChannel?]
        cases asked with
        | false =>
          refine ⟨rfl, ?_⟩
          intro channel uncoded
          cases uncoded
        | true =>
          refine ⟨rfl, ?_⟩
          intro channel coded
          cases coded
          exact Cmac.length_code sized _
    | _ => cases confirmed

end Wristband.Engine
