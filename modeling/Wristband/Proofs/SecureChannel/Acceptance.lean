import Wristband.Proofs.SecureChannel

/-! Which bytes a channel accepts. Opening undoes sealing and does nothing else: all that is accepted
is what comes out of it with its code behind it. Bytes that are too short for a code, or end in
another one, are refused and leave the channel as it was. -/

namespace Wristband.SecureChannel

/-- What stands behind some data: the bytes at odd places of its full code, which also covers a
count of exchanges, low byte first. -/
def trailer (key : Bytes) (count : Nat) (data : Bytes) : Bytes :=
  (List.range codeLength).map fun index =>
    (Cmac.code key (UInt8.ofNat (count % 256) :: UInt8.ofNat (count / 256) :: data)).getD
      (2 * index + 1) 0

variable {channel : SecureChannel}

private theorem code_eq_trailer (sized : channel.sessionKey.length = 16) (counter : UInt16) (data : Bytes) :
    channel.code counter data = trailer channel.sessionKey counter.toNat data := by
  have low : counter.toUInt8 = UInt8.ofNat (counter.toNat % 256) := by
    apply UInt8.toNat.inj
    simp
  have high : (counter >>> 8).toUInt8 = UInt8.ofNat (counter.toNat / 256) := by
    apply UInt8.toNat.inj
    simp [Nat.shiftRight_eq_div_pow]
  rw [code, oddBytes_eq_map_range, Cmac.length_code sized, low, high]
  rfl

section

variable {counter : UInt16} {frame payload : Bytes}

private theorem verify_cases (channel : SecureChannel) (counter : UInt16) (frame : Bytes) :
    channel.verify counter frame = .error .cmacMismatch ∨
      ∃ payload, channel.verify counter frame = .ok payload ∧
        frame = payload ++ channel.code counter payload := by
  unfold verify
  dsimp only
  split
  next => exact .inl rfl
  next =>
    split
    next same =>
      refine .inr ⟨_, rfl, ?_⟩
      rw [same, List.take_append_drop]
    next => exact .inl rfl

private theorem verify_iff (sized : channel.sessionKey.length = 16) :
    channel.verify counter frame = .ok payload ↔ frame = payload ++ channel.code counter payload := by
  constructor
  · intro verified
    rcases channel.verify_cases counter frame with refused | ⟨other, accepted, made⟩
    · cases refused.symm.trans verified
    · obtain rfl := Except.ok.inj (accepted.symm.trans verified)
      exact made
  · rintro rfl
    exact verify_sealed sized counter payload

private theorem verify_refuses (foreign : ∀ payload, frame ≠ payload ++ channel.code counter payload) :
    channel.verify counter frame = .error .cmacMismatch := by
  rcases channel.verify_cases counter frame with refused | ⟨payload, _, made⟩
  · exact refused
  · exact (foreign payload made).elim

end

section

variable (fresh : channel.counter ≠ lastCounter) (frame : Bytes)
include fresh

private theorem perform_openCommand : channel.perform (.openCommand frame) =
    (channel.verify channel.counter frame, channel) := by
  rw [perform, openCommand, checkCounter, if_neg fresh]
  rfl

private theorem perform_openResponse : channel.perform (.openResponse frame) =
    channel.settle ((channel.verify (channel.counter + 1) frame).map (·, channel.advanced)) := by
  rw [perform, openResponse, checkCounter, if_neg fresh]
  cases channel.verify (channel.counter + 1) frame <;> rfl

end

private theorem fresh_of_lt (below : channel.counter.toNat < 65535) : channel.counter ≠ lastCounter :=
  fun last => Nat.ne_of_lt below (congrArg UInt16.toNat last)

/-- A channel that is not used up accepts a response exactly when it is some data with the trailer
for the next count, and then counts it. It accepts a command exactly when it would have sealed it
itself. It refuses everything else because of the code, and only what it accepts changes it. -/
theorem opens_exactly_what_is_sealed (sized : channel.sessionKey.length = 16)
    (below : channel.counter.toNat < 65535) (frame : Bytes) :
    (∀ payload next, channel.perform (.openResponse frame) = (.ok payload, next) ↔
      frame = payload ++ trailer channel.sessionKey (channel.counter.toNat + 1) payload ∧
        next.sessionKey = channel.sessionKey ∧ next.counter.toNat = channel.counter.toNat + 1) ∧
    ((∀ payload, frame ≠ payload ++ trailer channel.sessionKey (channel.counter.toNat + 1) payload) →
      channel.perform (.openResponse frame) = (.error .cmacMismatch, channel)) ∧
    (∀ command next, channel.perform (.openCommand frame) = (.ok command, next) ↔
      channel.sealCommand command = .ok frame ∧ next = channel) ∧
    ((∀ command, channel.sealCommand command ≠ .ok frame) →
      channel.perform (.openCommand frame) = (.error .cmacMismatch, channel)) := by
  have fresh := fresh_of_lt below
  have counted : (channel.counter + 1).toNat = channel.counter.toNat + 1 := counter_advanced fresh
  have coded (payload : Bytes) : channel.code (channel.counter + 1) payload =
      trailer channel.sessionKey (channel.counter.toNat + 1) payload := by
    rw [code_eq_trailer sized, counted]
  have sealed_ (command : Bytes) : channel.sealCommand command = .ok frame ↔
      frame = command ++ channel.code channel.counter command := by
    rw [sealCommand_ok fresh, Except.ok.injEq, eq_comm]
  simp only [sealed_, ← coded, perform_openResponse fresh, perform_openCommand fresh, ne_eq]
  refine ⟨?_, ?_, ?_, ?_⟩
  · intro payload next
    have only (after : SecureChannel) : after.sessionKey = channel.sessionKey ∧
        after.counter.toNat = channel.counter.toNat + 1 ↔ channel.advanced = after := by
      cases after
      simp only [advanced, mk.injEq, ← counted, UInt16.toNat_inj, eq_comm]
    rw [only, ← verify_iff sized]
    cases channel.verify (channel.counter + 1) frame with
    | error | ok => simp [settle, Except.map]
  · intro foreign
    rw [verify_refuses foreign]
    rfl
  · intro command next
    rw [← verify_iff sized, Prod.mk.injEq, eq_comm (a := channel)]
  · intro foreign
    rw [verify_refuses foreign]

/-- The last response of a channel may be empty. What is too short for a code is none. -/
theorem opens_last_empty_response :
    (List.replicate 16 0 : Bytes).length = 16 ∧ (65534 : UInt16).toNat < 65535 ∧
    perform ⟨List.replicate 16 0, 65534⟩ (.openResponse (trailer (List.replicate 16 0) 65535 [])) =
      (.ok [], ⟨List.replicate 16 0, 65535⟩) ∧
    perform ⟨List.replicate 16 0, 65534⟩ (.openResponse [0x0A]) =
      (.error .cmacMismatch, ⟨List.replicate 16 0, 65534⟩) := by
  have opens := @opens_exactly_what_is_sealed ⟨List.replicate 16 0, 65534⟩ rfl (by decide)
  refine ⟨rfl, by decide, ((opens _).1 _ _).mpr ⟨rfl, rfl, rfl⟩, (opens _).2.1 ?_⟩
  intro payload made
  have short := congrArg List.length made
  simp only [List.length_append, trailer, List.length_map, List.length_range, codeLength,
    List.length_singleton] at short
  omega

end Wristband.SecureChannel
