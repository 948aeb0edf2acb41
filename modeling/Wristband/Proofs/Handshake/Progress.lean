import Wristband.Proofs.Handshake.Messages

/-! How far the calls that succeeded have brought a handshake. An authenticated handshake was
started and confirmed, and the confirmation proves something only if a challenge was answered
before. The 3DES handshake insists on that and the AES handshake does not. -/

namespace Wristband

inductive HandshakeCall where
  | start
  | respond (challenge : BitVector) (source : RandomSource)
  | confirm (confirmation : BitVector)
  | invalidate

namespace Engine

inductive Phase where
  | idle
  | started
  | authenticated
  | failed
deriving DecidableEq

def phase : Engine → Phase
  | tdes handshake =>
    match handshake.state with
    | .idle => .idle
    | .started _ => .started
    | .complete => .authenticated
    | .failed => .failed
  | aes handshake =>
    match handshake.state with
    | .idle => .idle
    | .started .. => .started
    | .authenticated _ => .authenticated
    | .failed => .failed

theorem isAuthenticated_iff_phase (engine : Engine) :
    engine.isAuthenticated = true ↔ engine.phase = .authenticated := by
  cases engine with
  | tdes handshake =>
    obtain ⟨key, _ | _ | _ | _⟩ := handshake <;> simp [isAuthenticated, phase]
  | aes handshake =>
    obtain ⟨key, slot, cmac, _ | _ | _ | _⟩ := handshake <;> simp [isAuthenticated, phase]

private theorem phase_invalidate (engine : Engine) : engine.invalidate.phase = .failed := by
  cases engine <;> rfl

theorem phase_new {family : ChipFamily} {key : AuthKey} {slot : KeySlot} {cmac : Bool}
    {engine : Engine} (made : new family key slot cmac = .ok engine) : engine.phase = .idle := by
  unfold new at made
  split at made
  · split at made <;> cases made
    rfl
  · cases made
    rfl
  · cases made

def Unanswered : Engine → Prop
  | tdes handshake => handshake.state = .started none
  | aes handshake => handshake.state = .started AesHandshake.zeroBlock AesHandshake.zeroBlock

/-- The confirmation is what a handshake expects whose random numbers are still zero: it deciphers
to zeros. The 3DES handshake expects nothing then. -/
def ExpectsUnanswered (engine : Engine) (confirmation : BitVector) : Prop :=
  match engine with
  | tdes _ => False
  | aes handshake => ∃ encrypted, confirmation.toBytes = .ok encrypted ∧
      (Aes.cipher handshake.key).decryptMessage AesHandshake.zeroBlock encrypted =
        .ok AesHandshake.zeroBlock

def perform (engine : Engine) : HandshakeCall → Bool × Engine
  | .start => (engine.start.1.isOk, engine.start.2)
  | .respond challenge source =>
    ((engine.respond challenge source).1.isOk, (engine.respond challenge source).2.1)
  | .confirm confirmation => ((engine.confirm confirmation).1.isOk, (engine.confirm confirmation).2)
  | .invalidate => (true, engine.invalidate)

def afterCalls (engine : Engine) (calls : List HandshakeCall) : Engine :=
  calls.foldl (fun current call => (current.perform call).2) engine

def successes : Engine → List HandshakeCall → List HandshakeCall
  | _, [] => []
  | engine, call :: rest =>
    if (engine.perform call).1 then call :: (engine.perform call).2.successes rest
    else (engine.perform call).2.successes rest

private theorem successes_sublist (engine : Engine) (calls : List HandshakeCall) :
    (engine.successes calls).Sublist calls := by
  induction calls generalizing engine with
  | nil => exact .slnil
  | cons call rest ih =>
    unfold successes
    split
    · exact (ih _).cons_cons call
    · exact (ih _).cons call

/-- What a call does to a handshake: it takes the next step, or it is an untimely start without
any effect, or it is the end. -/
inductive Stepped (engine : Engine) : HandshakeCall → Bool × Engine → Prop
  | started {after : Engine} (idle : engine.phase = .idle) (waits : after.Unanswered)
      (now : after.phase = .started) : Stepped engine .start (true, after)
  | untimely (busy : engine.phase ≠ .idle) : Stepped engine .start (false, engine)
  | responded {challenge : BitVector} {source : RandomSource} {after : Engine}
      (started : engine.phase = .started) (now : after.phase = .started) :
      Stepped engine (.respond challenge source) (true, after)
  | confirmed {confirmation : BitVector} {after : Engine} (started : engine.phase = .started)
      (expected : engine.Unanswered → engine.ExpectsUnanswered confirmation)
      (now : after.phase = .authenticated) : Stepped engine (.confirm confirmation) (true, after)
  | failed {call : HandshakeCall} {succeeded : Bool} {after : Engine}
      (now : after.phase = .failed) : Stepped engine call (succeeded, after)

private theorem start_stepped (engine : Engine) : engine.Stepped .start (engine.perform .start) := by
  cases engine with
  | tdes handshake =>
    obtain ⟨key, state⟩ := handshake
    cases state with
    | idle => exact .started rfl rfl rfl
    | started | complete | failed => exact .untimely nofun
  | aes handshake =>
    obtain ⟨key, slot, cmac, state⟩ := handshake
    cases state with
    | idle => cases slot <;> exact .started rfl rfl rfl
    | started | authenticated | failed => exact .untimely nofun

theorem respond_stepped (engine : Engine) (challenge : BitVector) (source : RandomSource) :
    engine.Stepped (.respond challenge source) (engine.perform (.respond challenge source)) := by
  cases engine with
  | tdes handshake =>
    obtain ⟨key, state⟩ := handshake
    cases state with
    | idle | complete | failed => exact .failed rfl
    | started sent =>
      simp only [perform, respond, TdesHandshake.respond]
      split
      · exact .failed rfl
      · split
        · exact .failed rfl
        · exact .responded rfl rfl
  | aes handshake =>
    obtain ⟨key, slot, cmac, state⟩ := handshake
    cases state with
    | idle | authenticated | failed => exact .failed rfl
    | started hostRandom tagRandom =>
      simp only [perform, respond, AesHandshake.respond]
      split
      · exact .failed rfl
      · split
        · exact .failed rfl
        · exact .responded rfl rfl

/-- Zeros look the same when they are turned, so an AES handshake without an answer takes the
confirmation for the number zero. -/
theorem confirm_stepped (engine : Engine) (confirmation : BitVector) :
    engine.Stepped (.confirm confirmation) (engine.perform (.confirm confirmation)) := by
  cases engine with
  | tdes handshake =>
    obtain ⟨key, state⟩ := handshake
    cases state with
    | idle | complete | failed => exact .failed rfl
    | started sent =>
      cases sent with
      | none => exact .failed rfl
      | some sent =>
        simp only [perform, confirm, TdesHandshake.confirm]
        split
        · exact .confirmed rfl nofun rfl
        · exact .failed rfl
  | aes handshake =>
    obtain ⟨key, slot, cmac, state⟩ := handshake
    cases state with
    | idle | authenticated | failed => exact .failed rfl
    | started hostRandom tagRandom =>
      simp only [perform, confirm, AesHandshake.confirm]
      split
      next checked =>
        refine .confirmed rfl ?_ rfl
        rintro ⟨⟩
        exact AesHandshake.checkConfirmation_eq_ok.mp checked
      · exact .failed rfl

theorem perform_stepped (engine : Engine) (call : HandshakeCall) :
    engine.Stepped call (engine.perform call) := by
  cases call with
  | start => exact engine.start_stepped
  | respond challenge source => exact engine.respond_stepped challenge source
  | confirm confirmation => exact engine.confirm_stepped confirmation
  | invalidate => exact .failed engine.phase_invalidate

private theorem Stepped.not_authenticated {engine after : Engine} {call : HandshakeCall}
    {succeeded : Bool} (stepped : engine.Stepped call (succeeded, after))
    (made : succeeded = true) (other : ∀ confirmation, call ≠ .confirm confirmation) :
    after.isAuthenticated = false := by
  have unlike (phase : Phase) (now : after.phase = phase) (different : phase ≠ .authenticated) :
      after.isAuthenticated = false := by
    apply Bool.eq_false_iff.mpr
    intro authenticated
    exact different (now.symm.trans ((isAuthenticated_iff_phase after).mp authenticated))
  cases stepped with
  | started _ _ now => exact unlike _ now nofun
  | untimely => cases made
  | responded _ now => exact unlike _ now nofun
  | confirmed => exact (other _ rfl).elim
  | failed now => exact unlike _ now nofun

theorem not_authenticated_start {engine : Engine} {frame : Bytes}
    (made : engine.start.1 = .ok frame) : engine.start.2.isAuthenticated = false :=
  engine.start_stepped.not_authenticated (by rw [made]; rfl) nofun

theorem not_authenticated_respond {engine : Engine} {challenge : BitVector} {source : RandomSource}
    {frame : Bytes} (made : (engine.respond challenge source).1 = .ok frame) :
    (engine.respond challenge source).2.1.isAuthenticated = false :=
  (engine.respond_stepped challenge source).not_authenticated (by rw [made]; rfl) nofun

/-- A call changes nothing of an AES handshake but its state. -/
theorem perform_aes (handshake : AesHandshake) (call : HandshakeCall) :
    ∃ state, ((aes handshake).perform call).2 = aes { handshake with state := state } := by
  cases call with
  | start =>
    simp only [perform, start, AesHandshake.start]
    split
    · split <;> exact ⟨_, rfl⟩
    · exact ⟨_, rfl⟩
  | respond challenge source =>
    simp only [perform, respond, AesHandshake.respond]
    split
    · split
      · exact ⟨_, rfl⟩
      · split <;> exact ⟨_, rfl⟩
    · exact ⟨_, rfl⟩
  | confirm confirmation =>
    simp only [perform, confirm, AesHandshake.confirm]
    split
    · split <;> exact ⟨_, rfl⟩
    · exact ⟨_, rfl⟩
  | invalidate => exact ⟨_, rfl⟩

/-- Which confirmations an unanswered handshake takes is fixed by its key. -/
theorem perform_expects (engine : Engine) (call : HandshakeCall) :
    (engine.perform call).2.ExpectsUnanswered = engine.ExpectsUnanswered := by
  funext confirmation
  cases engine with
  | tdes handshake => cases call <;> rfl
  | aes handshake =>
    obtain ⟨state, after⟩ := perform_aes handshake call
    rw [after]
    rfl

def respondAll (answers : List (BitVector × RandomSource)) : List HandshakeCall :=
  answers.map fun answer => .respond answer.1 answer.2

/-- What has succeeded when a handshake has come as far as it has. -/
def Remembers (engine : Engine) (history : List HandshakeCall) : Prop :=
  match engine.phase with
  | .idle => history = []
  | .started => ∃ answers, history = .start :: respondAll answers ∧
      (answers = [] → engine.Unanswered)
  | .authenticated => ∃ answers confirmation,
      history = .start :: respondAll answers ++ [.confirm confirmation] ∧
        (answers = [] → engine.ExpectsUnanswered confirmation)
  | .failed => True

def recorded (history : List HandshakeCall) (call : HandshakeCall) (succeeded : Bool) :
    List HandshakeCall :=
  if succeeded then history ++ [call] else history

private theorem Remembers.perform {engine : Engine} {history : List HandshakeCall}
    (remembers : engine.Remembers history) (call : HandshakeCall) :
    (engine.perform call).2.Remembers (recorded history call (engine.perform call).1) := by
  have fixed := engine.perform_expects call
  have stepped := engine.perform_stepped call
  generalize engine.perform call = result at fixed stepped ⊢
  unfold Remembers at remembers ⊢
  cases stepped with
  | started idle waits now =>
    rw [idle] at remembers
    rw [now]
    exact ⟨[], by rw [remembers]; rfl, fun _ => waits⟩
  | untimely busy => exact remembers
  | @responded challenge source after started now =>
    rw [started] at remembers
    rw [now]
    obtain ⟨answers, rfl, waits⟩ := remembers
    refine ⟨answers ++ [(challenge, source)], ?_, ?_⟩
    · simp [recorded, respondAll]
    · simp
  | @confirmed confirmation after started expected now =>
    rw [started] at remembers
    rw [now]
    obtain ⟨answers, rfl, waits⟩ := remembers
    refine ⟨answers, confirmation, rfl, fun none_ => ?_⟩
    rw [fixed]
    exact expected (waits none_)
  | failed now =>
    rw [now]
    trivial

private theorem Remembers.afterCalls {engine : Engine} {history : List HandshakeCall}
    (remembers : engine.Remembers history) (calls : List HandshakeCall) :
    (engine.afterCalls calls).Remembers (history ++ engine.successes calls) := by
  induction calls generalizing engine history with
  | nil =>
    rw [successes, List.append_nil]
    exact remembers
  | cons call rest ih =>
    have going := ih (remembers.perform call)
    unfold successes
    unfold recorded at going
    split
    next succeeded =>
      rw [if_pos succeeded, List.append_assoc] at going
      exact going
    next failed =>
      rw [if_neg failed] at going
      exact going

private theorem remembers_new {family : ChipFamily} {key : AuthKey} {slot : KeySlot} {cmac : Bool}
    {engine : Engine} (made : new family key slot cmac = .ok engine) : engine.Remembers [] := by
  unfold Remembers
  rw [phase_new made]

private theorem afterCalls_expects (engine : Engine) (calls : List HandshakeCall) :
    (engine.afterCalls calls).ExpectsUnanswered = engine.ExpectsUnanswered := by
  induction calls generalizing engine with
  | nil => rfl
  | cons call rest ih => exact (ih _).trans (engine.perform_expects call)

/-- The three steps of a handshake, one after the other and with anything in between. -/
def ThreeSteps (calls : List HandshakeCall) : Prop :=
  ∃ challenge source confirmation,
    [.start, .respond challenge source, .confirm confirmation].Sublist calls

private theorem threeSteps_iff (answers : List (BitVector × RandomSource)) (confirmation : BitVector) :
    ThreeSteps (.start :: respondAll answers ++ [.confirm confirmation]) ↔ answers ≠ [] := by
  constructor
  · rintro ⟨challenge, source, other, steps⟩ rfl
    have short := steps.length_le
    simp [respondAll] at short
  · intro some_
    obtain ⟨first, rest, rfl⟩ := List.exists_cons_of_ne_nil some_
    refine ⟨first.1, first.2, confirmation, ?_⟩
    apply List.Sublist.cons_cons
    apply List.Sublist.cons_cons
    exact List.sublist_append_right (respondAll rest) _

/-- A handshake that is authenticated has gone through all three steps, unless it is an AES
handshake that was confirmed without an answer, by what its key makes of zeros. -/
theorem authenticated_by_three_steps_unless_unanswered {family : ChipFamily} {key : AuthKey}
    {slot : KeySlot} {cmac : Bool} {engine : Engine}
    (made : new family key slot cmac = .ok engine) (calls : List HandshakeCall)
    (authenticated : (engine.afterCalls calls).isAuthenticated = true) :
    ThreeSteps (engine.successes calls) ↔ ¬ ∃ confirmation,
      engine.successes calls = [.start, .confirm confirmation] ∧
        engine.ExpectsUnanswered confirmation := by
  have remembers := (remembers_new made).afterCalls calls
  unfold Remembers at remembers
  rw [(isAuthenticated_iff_phase _).mp authenticated, afterCalls_expects] at remembers
  obtain ⟨answers, confirmation, history, unanswered⟩ := remembers
  rw [List.nil_append] at history
  rw [history, threeSteps_iff]
  apply not_congr
  constructor
  · intro none_
    refine ⟨confirmation, ?_, unanswered none_⟩
    rw [none_]
    rfl
  · rintro ⟨other, short, _⟩
    cases answers with
    | nil => rfl
    | cons first rest => cases short

/-- Whoever holds the key, or has seen it encipher zeros, can end any AES handshake so. -/
theorem confirmed_unanswered (key : FixedBytes 16) (slot : KeySlot) (cmac : Bool) :
    ∃ confirmation,
      ((aes (.new key.val slot cmac)).afterCalls [.start, .confirm confirmation]).isAuthenticated =
        true := by
  have invertible := Aes.cipher_invertible key.property
  have some_ : AesHandshake.zeroBlock ≠ [] := nofun
  have whole : AesHandshake.zeroBlock.length % (Aes.cipher key.val).blockSize = 0 :=
    Nat.mod_self 16
  have sized : AesHandshake.zeroBlock.length = (Aes.cipher key.val).blockSize := rfl
  obtain ⟨message, _, _, deciphered⟩ := invertible.encryptMessage_decrypts some_ whole sized
  have checked : AesHandshake.checkConfirmation key.val AesHandshake.zeroBlock (.ofBytes message) =
      .ok () := by
    apply AesHandshake.checkConfirmation_eq_ok.mpr
    exact ⟨message, BitVector.toBytes_ofBytes message, deciphered⟩
  refine ⟨.ofBytes message, ?_⟩
  have waits : (aes (.new key.val slot cmac)).start.2 =
      aes ⟨key.val, slot, cmac, .started AesHandshake.zeroBlock AesHandshake.zeroBlock⟩ := by
    cases slot <;> rfl
  simp only [afterCalls, List.foldl_cons, List.foldl_nil, perform, waits, confirm,
    AesHandshake.confirm, checked]
  rfl

def zeroKey : Engine := aes (.new (List.replicate 16 0) .dataProtection false)

private theorem new_zeroKey :
    new .ultralightAes (.aes ⟨List.replicate 16 0, rfl⟩) .dataProtection false = .ok zeroKey := rfl

/-- What a key of zeros makes of zeros. -/
def zerosEnciphered : BitVector :=
  .ofBytes [0x66, 0xe9, 0x4b, 0xd4, 0xef, 0x8a, 0x2c, 0x3b, 0x88, 0x4c, 0xfa, 0x59, 0xca, 0x34,
    0x2b, 0x2e]

/-- When both random numbers are zero, the challenge and the confirmation are the same. -/
theorem zeroKey_authenticated_by_three_steps :
    (zeroKey.afterCalls [.start, .respond zerosEnciphered ⟨fun _ => 0, 0⟩,
        .confirm zerosEnciphered]).isAuthenticated = true ∧
      ThreeSteps (zeroKey.successes [.start, .respond zerosEnciphered ⟨fun _ => 0, 0⟩,
        .confirm zerosEnciphered]) := by
  have authenticated : (zeroKey.afterCalls [.start, .respond zerosEnciphered ⟨fun _ => 0, 0⟩,
      .confirm zerosEnciphered]).isAuthenticated = true := by decide +kernel
  have all : (zeroKey.successes [.start, .respond zerosEnciphered ⟨fun _ => 0, 0⟩,
      .confirm zerosEnciphered]).length = 3 := by decide +kernel
  refine ⟨authenticated, ?_⟩
  apply (authenticated_by_three_steps_unless_unanswered new_zeroKey _ authenticated).mpr
  rintro ⟨confirmation, short, _⟩
  rw [short] at all
  cases all

/-- Without an answer the same confirmation does. -/
theorem zeroKey_authenticated_unanswered :
    new .ultralightAes (.aes ⟨List.replicate 16 0, rfl⟩) .dataProtection false = .ok zeroKey ∧
      (zeroKey.afterCalls [.start, .confirm zerosEnciphered]).isAuthenticated = true ∧
      ¬ ThreeSteps (zeroKey.successes [.start, .confirm zerosEnciphered]) := by
  refine ⟨rfl, by decide +kernel, ?_⟩
  rintro ⟨challenge, source, confirmation, steps⟩
  have short := (steps.trans (zeroKey.successes_sublist _)).length_le
  exact Nat.not_succ_le_self 2 short

end Engine
end Wristband
