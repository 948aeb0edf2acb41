import Wristband.Proofs.Handshake.Channel

/-! Everything that the owner of an engine can do with it, in any order: the steps of the handshake
and the operations of the secure channel. An engine that has failed stays failed, and there is a
channel exactly while an authenticated engine is due one. -/

namespace Wristband

/-- An operation of the secure channel does nothing where there is none. -/
inductive EngineCall where
  | handshake (call : HandshakeCall)
  | channel (call : SecureChannel.Call)

namespace Engine

def use (engine : Engine) : EngineCall → Engine
  | .handshake call => (engine.perform call).2
  | .channel call =>
    match engine.channel? with
    | none => engine
    | some channel => engine.setChannel (channel.perform call).2

def afterUses (engine : Engine) (calls : List EngineCall) : Engine := calls.foldl use engine

variable {engine : Engine} {call : HandshakeCall} {result : Bool × Engine}

theorem isFailed_iff_phase (engine : Engine) : engine.isFailed = true ↔ engine.phase = .failed := by
  cases engine with
  | tdes handshake =>
    obtain ⟨key, _ | _ | _ | _⟩ := handshake <;> simp [isFailed, phase]
  | aes handshake =>
    obtain ⟨key, slot, cmac, _ | _ | _ | _⟩ := handshake <;> simp [isFailed, phase]

theorem not_authenticated_of_phase (other : engine.phase ≠ .authenticated) :
    engine.isAuthenticated = false := by
  apply Bool.eq_false_iff.mpr
  intro authenticated
  exact other ((isAuthenticated_iff_phase engine).mp authenticated)

theorem channel?_of_unauthenticated (waiting : engine.isAuthenticated = false) :
    engine.channel? = none := by
  cases active : engine.channel? with
  | none => rfl
  | some channel =>
    rw [isAuthenticated_of_channel? active] at waiting
    cases waiting

/-- A start that comes too late has no effect at all. -/
theorem start_of_busy (busy : engine.phase ≠ .idle) :
    ∃ text, engine.start = (.error (.invalidState text), engine) := by
  cases engine with
  | tdes handshake =>
    obtain ⟨key, state⟩ := handshake
    cases state with
    | idle => exact (busy rfl).elim
    | started | complete | failed => exact ⟨_, rfl⟩
  | aes handshake =>
    obtain ⟨key, slot, cmac, state⟩ := handshake
    cases state with
    | idle => exact (busy rfl).elim
    | started | authenticated | failed => exact ⟨_, rfl⟩

/-- A step that is refused ends the handshake, apart from an untimely start. -/
private theorem Stepped.failed_of_refused (stepped : engine.Stepped call result)
    (refused : result.1 = false) (later : call ≠ .start) : result.2.phase = .failed := by
  cases stepped with
  | started | responded | confirmed => cases refused
  | untimely => exact (later rfl).elim
  | failed now => exact now

private theorem Stepped.stays_failed (stepped : engine.Stepped call result)
    (ended : engine.phase = .failed) : result.2.phase = .failed := by
  cases stepped with
  | started idle => cases ended.symm.trans idle
  | untimely => exact ended
  | responded started | confirmed started => cases ended.symm.trans started
  | failed now => exact now

/-- Only a confirmation that succeeds makes an engine authenticated. -/
theorem Stepped.confirms (stepped : engine.Stepped call result)
    (authenticated : result.2.isAuthenticated = true) :
    result.2 = engine ∨ result.1 = true ∧ ∃ confirmation, call = .confirm confirmation := by
  have now := (isAuthenticated_iff_phase result.2).mp authenticated
  cases stepped with
  | started _ _ started | responded _ started => cases now.symm.trans started
  | untimely => exact .inl rfl
  | confirmed => exact .inr ⟨rfl, _, rfl⟩
  | failed failed => cases now.symm.trans failed

private theorem respond_failed {challenge : BitVector} {source : RandomSource} {error : ProtocolError}
    (refused : (engine.respond challenge source).1 = .error error) :
    (engine.respond challenge source).2.1.isFailed = true := by
  have stepped := engine.respond_stepped challenge source
  exact (isFailed_iff_phase _).mpr (stepped.failed_of_refused (by rw [perform, refused]; rfl) nofun)

theorem confirm_failed {confirmation : BitVector} {error : ProtocolError}
    (refused : (engine.confirm confirmation).1 = .error error) :
    (engine.confirm confirmation).2.isFailed = true := by
  have stepped := engine.confirm_stepped confirmation
  exact (isFailed_iff_phase _).mpr (stepped.failed_of_refused (by rw [perform, refused]; rfl) nofun)

private theorem use_stays_failed (ended : engine.isFailed = true) (call : EngineCall) :
    (engine.use call).isFailed = true := by
  rw [isFailed_iff_phase] at ended ⊢
  cases call with
  | handshake call => exact (engine.perform_stepped call).stays_failed ended
  | channel call =>
    have waiting : engine.phase ≠ .authenticated := by
      rw [ended]
      exact nofun
    simp only [use, channel?_of_unauthenticated (not_authenticated_of_phase waiting)]
    exact ended

private theorem afterUses_stays_failed (ended : engine.isFailed = true) (calls : List EngineCall) :
    (engine.afterUses calls).isFailed = true := by
  induction calls generalizing engine with
  | nil => exact ended
  | cons call rest ih => exact ih (use_stays_failed ended call)

variable {family : ChipFamily} {cmac : Bool}

/-- The engine of a family has a channel exactly when it is authenticated and due one. -/
structure HoldsDue (family : ChipFamily) (cmac : Bool) (engine : Engine) : Prop where
  isFor : engine.IsFor family cmac
  channel : engine.channel?.isSome = (engine.isAuthenticated && (family.supportsCmac && cmac))

private theorem HoldsDue.of_unauthenticated (isFor : engine.IsFor family cmac)
    (waiting : engine.isAuthenticated = false) : engine.HoldsDue family cmac where
  isFor := isFor
  channel := by rw [channel?_of_unauthenticated waiting, waiting]; rfl

private theorem holdsDue_new {key : AuthKey} {slot : KeySlot}
    (made : new family key slot cmac = .ok engine) : engine.HoldsDue family cmac := by
  apply HoldsDue.of_unauthenticated (isFor_new made)
  apply not_authenticated_of_phase
  rw [phase_new made]
  exact nofun

private theorem HoldsDue.perform (holds : engine.HoldsDue family cmac) (call : HandshakeCall) :
    (engine.perform call).2.HoldsDue family cmac := by
  have isFor := holds.isFor.perform call
  cases authenticated : (engine.perform call).2.isAuthenticated with
  | false => exact .of_unauthenticated isFor authenticated
  | true =>
    rcases (engine.perform_stepped call).confirms authenticated with same | confirms
    · rw [same]
      exact holds
    · obtain ⟨succeeded, confirmation, rfl⟩ := confirms
      have confirmed : (engine.confirm confirmation).1 = .ok () := by
        change (engine.confirm confirmation).1.isOk = true at succeeded
        cases result : (engine.confirm confirmation).1 with
        | error =>
          rw [result] at succeeded
          cases succeeded
        | ok => rfl
      refine ⟨isFor, ?_⟩
      rw [authenticated, Bool.true_and]
      exact (holds.isFor.confirm confirmed).1

private theorem IsFor.setChannel (isFor : engine.IsFor family cmac) (channel : SecureChannel) :
    (engine.setChannel channel).IsFor family cmac := by
  cases engine with
  | tdes => exact isFor
  | aes handshake =>
    obtain ⟨key, slot, asked, state⟩ := handshake
    cases state with
    | authenticated held => cases held <;> exact isFor
    | _ => exact isFor

private theorem HoldsDue.use (holds : engine.HoldsDue family cmac) (call : EngineCall) :
    (engine.use call).HoldsDue family cmac := by
  cases call with
  | handshake call => exact holds.perform call
  | channel call =>
    unfold Engine.use
    cases active : engine.channel? with
    | none => exact holds
    | some channel =>
      refine ⟨holds.isFor.setChannel _, ?_⟩
      have held := holds.channel
      rw [active] at held
      rw [channel?_setChannel active, isAuthenticated_setChannel]
      exact held

private theorem HoldsDue.afterUses (holds : engine.HoldsDue family cmac) (calls : List EngineCall) :
    (engine.afterUses calls).HoldsDue family cmac := by
  induction calls generalizing engine with
  | nil => exact holds
  | cons call rest ih => exact ih (holds.use call)

/-- Whatever was done with an engine before: if it has failed it is of no further use, a step that is
refused makes it fail, and only a start that comes too late is refused without any effect. It has a
channel exactly while it is authenticated, if it is an AES engine that was asked for one. -/
theorem engine_fails_for_good_and_holds_due_channel {key : AuthKey} {slot : KeySlot}
    (made : new family key slot cmac = .ok engine) (calls : List EngineCall) :
    let now := engine.afterUses calls
    (now.isFailed = true → ∀ more, (now.afterUses more).isFailed = true) ∧
      (∀ challenge source error, (now.respond challenge source).1 = .error error →
        (now.respond challenge source).2.1.isFailed = true) ∧
      (∀ confirmation error, (now.confirm confirmation).1 = .error error →
        (now.confirm confirmation).2.isFailed = true) ∧
      (now.phase ≠ .idle → ∃ text, now.start = (.error (.invalidState text), now)) ∧
      (now.channel?.isSome = true ↔
        now.isAuthenticated = true ∧ family = .ultralightAes ∧ cmac = true) := by
  intro now
  refine ⟨afterUses_stays_failed, fun _ _ _ => respond_failed, fun _ _ => confirm_failed,
    start_of_busy, ?_⟩
  rw [((holdsDue_new made).afterUses calls).channel, Bool.and_eq_true, Bool.and_eq_true]
  cases family <;> simp [ChipFamily.supportsCmac, now]

def codedCalls : List EngineCall :=
  [.handshake .start, .handshake (.respond zerosEnciphered ⟨fun _ => 0, 0⟩),
    .handshake (.confirm zerosEnciphered), .channel (.sealCommand [0x30, 0x04])]

/-- The second confirmation comes too late, and with it the channel is gone for good. -/
theorem late_confirmation_ends_channel :
    ∃ engine, new .ultralightAes (.aes ⟨List.replicate 16 0, rfl⟩) .dataProtection true =
        .ok engine ∧
      (engine.afterUses codedCalls).channel?.isSome = true ∧
      ∀ more, (((engine.afterUses codedCalls).confirm zerosEnciphered).2.afterUses more).isFailed =
        true := by
  obtain ⟨engine, made⟩ : ∃ engine, new .ultralightAes (.aes ⟨List.replicate 16 0, rfl⟩)
    .dataProtection true = .ok engine := ⟨_, rfl⟩
  have authenticated : (engine.afterUses codedCalls).isAuthenticated = true := by
    cases made
    decide +kernel
  have ended : (engine.afterUses (codedCalls ++ [.handshake (.confirm zerosEnciphered)])).isFailed =
      true := by
    cases made
    decide +kernel
  obtain ⟨-, -, -, -, channel⟩ := engine_fails_for_good_and_holds_due_channel made codedCalls
  obtain ⟨stays, -⟩ := engine_fails_for_good_and_holds_due_channel made
    (codedCalls ++ [.handshake (.confirm zerosEnciphered)])
  exact ⟨engine, made, channel.mpr ⟨authenticated, rfl, rfl⟩, stays ended⟩

end Engine
end Wristband
