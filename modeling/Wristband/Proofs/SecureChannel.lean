import Wristband.Proofs.Cipher.Cmac
import Wristband.Proofs.Handshake.Messages
import Wristband.SecureChannel

/-! The two ends of a secure channel over a run of exchanges. Both ends count the exchanges that
are finished, so each opens what the other has sealed until the counter is used up. -/

namespace Wristband.SecureChannel

theorem oddBytes_eq_map_range (bytes : Bytes) : oddBytes bytes =
    (List.range (bytes.length / 2)).map fun index => bytes.getD (2 * index + 1) 0 := by
  fun_induction oddBytes bytes with
  | case1 first second rest ih =>
    have halves : (first :: second :: rest).length / 2 = rest.length / 2 + 1 := by
      simp only [List.length_cons]
      omega
    rw [halves, List.range_succ_eq_map, List.map_cons, List.map_map, ih]
    rfl
  | case2 bytes short =>
    cases bytes with
    | nil => rfl
    | cons first rest =>
      cases rest with
      | nil => simp
      | cons second rest => exact (short first second rest rfl).elim

private theorem length_oddBytes (bytes : Bytes) : (oddBytes bytes).length = bytes.length / 2 := by
  rw [oddBytes_eq_map_range, List.length_map, List.length_range]

variable {channel : SecureChannel}

theorem length_code (sized : channel.sessionKey.length = 16) (counter : UInt16) (data : Bytes) :
    (channel.code counter data).length = codeLength := by
  rw [code, length_oddBytes, Cmac.length_code sized]
  rfl

private theorem verify_appended {sealed : Bytes} (sized : sealed.length = codeLength) (counter : UInt16)
    (data : Bytes) : channel.verify counter (data ++ sealed) =
      if channel.code counter data = sealed then .ok data else .error .cmacMismatch := by
  have long : ¬ (data ++ sealed).length < codeLength := by
    rw [List.length_append]
    omega
  have kept : (data ++ sealed).length - codeLength = data.length := by
    rw [List.length_append]
    omega
  simp only [verify, if_neg long, kept, List.take_left, List.drop_left]

theorem verify_sealed (sized : channel.sessionKey.length = 16) (counter : UInt16) (data : Bytes) :
    channel.verify counter (data ++ channel.code counter data) = .ok data := by
  rw [verify_appended (channel.length_code sized counter data), if_pos rfl]

theorem exists_verify_iff {sealed : Bytes} (sized : sealed.length = codeLength) {counter : UInt16}
    {data : Bytes} : (∃ payload, channel.verify counter (data ++ sealed) = .ok payload) ↔
      channel.code counter data = sealed := by
  rw [verify_appended sized]
  by_cases same : channel.code counter data = sealed
  · rw [if_pos same]
    exact ⟨fun _ => same, fun _ => ⟨data, rfl⟩⟩
  · rw [if_neg same]
    exact ⟨nofun, fun equal => (same equal).elim⟩

theorem checkCounter_eq_ok : channel.checkCounter = .ok () ↔ channel.counter ≠ lastCounter := by
  unfold checkCounter
  split
  next last => exact ⟨nofun, fun fresh => (fresh last).elim⟩
  next fresh => exact ⟨fun _ => fresh, fun _ => rfl⟩

section

variable {counter : UInt16} {command frame payload response : Bytes} {next : SecureChannel}

private theorem verify_eq_ok (verified : channel.verify counter frame = .ok payload) :
    codeLength ≤ frame.length ∧ payload = frame.take (frame.length - codeLength) := by
  unfold verify at verified
  dsimp only at verified
  split at verified
  · cases verified
  next long =>
    split at verified
    · cases verified
      exact ⟨Nat.not_lt.mp long, rfl⟩
    · cases verified

theorem sealCommand_eq_ok (sealed : channel.sealCommand command = .ok frame) :
    frame = command ++ channel.code channel.counter command := by
  obtain ⟨_, _, rest⟩ := Except.bind_eq_ok.mp sealed
  cases rest
  rfl

theorem openCommand_eq_ok (opened : channel.openCommand frame = .ok command) :
    codeLength ≤ frame.length ∧ command = frame.take (frame.length - codeLength) := by
  obtain ⟨_, _, verified⟩ := Except.bind_eq_ok.mp opened
  exact verify_eq_ok verified

theorem openCommand_prefix (opened : channel.openCommand frame = .ok command) :
    command <+: frame := by
  rw [(openCommand_eq_ok opened).2]
  exact List.take_prefix _ _

theorem sealResponse_eq_ok (sealed : channel.sealResponse payload = .ok (response, next)) :
    response = payload ++ channel.code (channel.counter + 1) payload ∧ next = channel.advanced := by
  obtain ⟨_, _, rest⟩ := Except.bind_eq_ok.mp sealed
  cases rest
  exact ⟨rfl, rfl⟩

theorem openResponse_eq_ok (genuine : channel.openResponse response = .ok (payload, next)) :
    codeLength ≤ response.length ∧ payload = response.take (response.length - codeLength) ∧
      next = channel.advanced := by
  obtain ⟨_, _, rest⟩ := Except.bind_eq_ok.mp genuine
  obtain ⟨opened, verified, rest⟩ := Except.bind_eq_ok.mp rest
  cases rest
  exact ⟨(verify_eq_ok verified).1, (verify_eq_ok verified).2, rfl⟩

theorem exists_openCommand_iff : (∃ command, channel.openCommand frame = .ok command) ↔
    channel.counter ≠ lastCounter ∧ ∃ command, channel.verify channel.counter frame = .ok command := by
  constructor
  · rintro ⟨command, opened⟩
    obtain ⟨_, checked, verified⟩ := Except.bind_eq_ok.mp opened
    exact ⟨checkCounter_eq_ok.mp checked, command, verified⟩
  · rintro ⟨fresh, command, verified⟩
    exact ⟨command, Except.bind_eq_ok.mpr ⟨(), checkCounter_eq_ok.mpr fresh, verified⟩⟩

theorem exists_openResponse_iff : (∃ opened, channel.openResponse frame = .ok opened) ↔
    channel.counter ≠ lastCounter ∧
      ∃ payload, channel.verify (channel.counter + 1) frame = .ok payload := by
  constructor
  · rintro ⟨opened, accepted⟩
    obtain ⟨_, checked, rest⟩ := Except.bind_eq_ok.mp accepted
    obtain ⟨payload, verified, _⟩ := Except.bind_eq_ok.mp rest
    exact ⟨checkCounter_eq_ok.mp checked, payload, verified⟩
  · rintro ⟨fresh, payload, verified⟩
    refine ⟨(payload, channel.advanced), ?_⟩
    exact Except.bind_eq_ok.mpr
      ⟨(), checkCounter_eq_ok.mpr fresh, Except.bind_eq_ok.mpr ⟨payload, verified, rfl⟩⟩

end

theorem counter_advanced (fresh : channel.counter ≠ lastCounter) :
    channel.advanced.counter.toNat = channel.counter.toNat + 1 := by
  have inside := channel.counter.toNat_lt
  have below : channel.counter.toNat ≠ 65535 := fun last => fresh (UInt16.toNat.inj last)
  simp only [advanced, UInt16.toNat_add, UInt16.reduceToNat]
  omega

section

variable (fresh : channel.counter ≠ lastCounter)
include fresh

theorem sealCommand_ok (command : Bytes) :
    channel.sealCommand command = .ok (command ++ channel.code channel.counter command) := by
  rw [sealCommand, checkCounter, if_neg fresh]
  rfl

theorem openCommand_ok (sized : channel.sessionKey.length = 16) (command : Bytes) :
    channel.openCommand (command ++ channel.code channel.counter command) = .ok command := by
  rw [openCommand, checkCounter, if_neg fresh, verify_sealed sized]
  rfl

theorem sealResponse_ok (payload : Bytes) : channel.sealResponse payload =
    .ok (payload ++ channel.code (channel.counter + 1) payload, channel.advanced) := by
  rw [sealResponse, checkCounter, if_neg fresh]
  rfl

theorem openResponse_ok (sized : channel.sessionKey.length = 16) (payload : Bytes) :
    channel.openResponse (payload ++ channel.code (channel.counter + 1) payload) =
      .ok (payload, channel.advanced) := by
  rw [openResponse, checkCounter, if_neg fresh, verify_sealed sized]
  rfl

end

inductive Call where
  | sealCommand (frame : Bytes)
  | openCommand (frame : Bytes)
  | sealResponse (payload : Bytes)
  | openResponse (response : Bytes)

/-- What is left of an operation that may advance the channel. -/
def settle (channel : SecureChannel) :
    Except ProtocolError (Bytes × SecureChannel) → Except ProtocolError Bytes × SecureChannel
  | .ok (bytes, after) => (.ok bytes, after)
  | .error error => (.error error, channel)

def perform (channel : SecureChannel) : Call → Except ProtocolError Bytes × SecureChannel
  | .sealCommand frame => (channel.sealCommand frame, channel)
  | .openCommand frame => (channel.openCommand frame, channel)
  | .sealResponse payload => channel.settle (channel.sealResponse payload)
  | .openResponse response => channel.settle (channel.openResponse response)

theorem sealCommand_exhausted (exhausted : channel.counter = lastCounter) (command : Bytes) :
    channel.sealCommand command = .error .counterExhausted := by
  rw [sealCommand, checkCounter, if_pos exhausted]
  rfl

/-- A channel that is used up does nothing, whichever end it is. -/
theorem perform_exhausted (exhausted : channel.counter = lastCounter) (call : Call) :
    channel.perform call = (.error .counterExhausted, channel) := by
  have refused : channel.checkCounter = .error .counterExhausted := if_pos exhausted
  cases call with
  | sealCommand | openCommand | sealResponse | openResponse =>
    simp only [perform, sealCommand, openCommand, sealResponse, openResponse, refused]
    rfl

/-- The number that a response counts is the next one, or there is no response. -/
theorem perform_counts (channel : SecureChannel) (call : Call) :
    channel.perform call = (.error .counterExhausted, channel) ∨
      (channel.counter + 1).toNat = channel.counter.toNat + 1 := by
  by_cases exhausted : channel.counter = lastCounter
  · exact .inl (channel.perform_exhausted exhausted call)
  · exact .inr (channel.counter_advanced exhausted)

structure Ends where
  terminal : SecureChannel
  tag : SecureChannel

/-- What became of an exchange: the command that the tag reads, the response that the terminal
reads, and what both ends count then. -/
structure Finished where
  command : Bytes
  response : Bytes
  terminalCount : Nat
  tagCount : Nat

namespace Ends

def exchange (ends : Ends) (command response : Bytes) : Except ProtocolError (Finished × Ends) := do
  let sealedCommand ← ends.terminal.sealCommand command
  let command ← ends.tag.openCommand sealedCommand
  let (sealedResponse, tag) ← ends.tag.sealResponse response
  let (response, terminal) ← ends.terminal.openResponse sealedResponse
  return (⟨command, response, terminal.counter.toNat, tag.counter.toNat⟩, ⟨terminal, tag⟩)

def exchangeAll : Ends → List (Bytes × Bytes) → Except ProtocolError (List Finished × Ends)
  | ends, [] => return ([], ends)
  | ends, (command, response) :: rest => do
    let (first, ends) ← ends.exchange command response
    let (finished, ends) ← ends.exchangeAll rest
    return (first :: finished, ends)

structure InStep (ends : Ends) (count : Nat) : Prop where
  same : ends.tag = ends.terminal
  sized : ends.terminal.sessionKey.length = 16
  counted : ends.terminal.counter.toNat = count

variable {ends : Ends} {count : Nat}

private theorem exchange_inStep (together : ends.InStep count) (room : count < 65535)
    (command response : Bytes) :
    ∃ after, ends.exchange command response =
      .ok (⟨command, response, count + 1, count + 1⟩, after) ∧ after.InStep (count + 1) := by
  obtain ⟨terminal, tag⟩ := ends
  obtain ⟨same, sized, counted⟩ := together
  change tag = terminal at same
  subst same
  have fresh : tag.counter ≠ lastCounter := by
    intro last
    change tag.counter.toNat = count at counted
    rw [last] at counted
    exact Nat.ne_of_lt room counted.symm
  have open_ : tag.checkCounter = .ok () := if_neg fresh
  have next : tag.advanced.counter.toNat = count + 1 := by
    rw [tag.counter_advanced fresh, counted]
  refine ⟨⟨tag.advanced, tag.advanced⟩, ?_, rfl, sized, next⟩
  simp only [exchange, sealCommand, openCommand, sealResponse, openResponse, open_, bind,
    Except.bind, pure, Except.pure, tag.verify_sealed sized, next]

private theorem exchangeAll_inStep (exchanges : List (Bytes × Bytes)) (together : ends.InStep count)
    (room : count + exchanges.length ≤ 65535) :
    ∃ after, ends.exchangeAll exchanges = .ok (exchanges.mapIdx fun index exchange =>
        ⟨exchange.1, exchange.2, count + index + 1, count + index + 1⟩, after) ∧
      after.InStep (count + exchanges.length) := by
  induction exchanges generalizing ends count with
  | nil => exact ⟨ends, rfl, together⟩
  | cons exchange rest ih =>
    simp only [List.length_cons] at room
    obtain ⟨middle, first, going⟩ := exchange_inStep together (by omega) exchange.1 exchange.2
    obtain ⟨after, finished, ended⟩ := ih going (by omega)
    refine ⟨after, ?_, ?_⟩
    · simp only [exchangeAll, first, finished, bind, Except.bind, pure, Except.pure,
        List.mapIdx_cons, Nat.add_assoc, Nat.add_comm 1]
    · rwa [List.length_cons, Nat.add_comm rest.length, ← Nat.add_assoc]

end Ends

/-- From a handshake on, every command and every response is read as it was sent, and both ends
count the exchanges one by one. When the last number is used both ends refuse everything, so a
number never wraps around. -/
theorem exchanges_succeed_until_used_up (key hostRandom tagRandom : FixedBytes 16)
    (exchanges : List (Bytes × Bytes)) (short : exchanges.length < 65536) :
    ∃ ends : Ends,
      Ends.exchangeAll ⟨derive key.val hostRandom.val tagRandom.val,
          derive key.val hostRandom.val tagRandom.val⟩ exchanges =
        .ok (exchanges.mapIdx fun index exchange =>
          ⟨exchange.1, exchange.2, index + 1, index + 1⟩, ends) ∧
      ends.terminal.counter.toNat = exchanges.length ∧
      ends.tag.counter.toNat = exchanges.length ∧
      (exchanges.length = 65535 → ∀ call,
        ends.terminal.perform call = (.error .counterExhausted, ends.terminal) ∧
          ends.tag.perform call = (.error .counterExhausted, ends.tag)) ∧
      ∀ (channel : SecureChannel) (call : Call),
        channel.perform call = (.error .counterExhausted, channel) ∨
          (channel.counter + 1).toNat = channel.counter.toNat + 1 := by
  have sized := Cmac.length_code key.property (sessionVector hostRandom.val tagRandom.val)
  have fresh : Ends.InStep ⟨derive key.val hostRandom.val tagRandom.val,
      derive key.val hostRandom.val tagRandom.val⟩ 0 := ⟨rfl, sized, rfl⟩
  have room : 0 + exchanges.length ≤ 65535 := by omega
  obtain ⟨ends, finished, together⟩ := Ends.exchangeAll_inStep exchanges fresh room
  rw [Nat.zero_add] at together
  have tagCounted : ends.tag.counter.toNat = exchanges.length := by
    rw [together.same, together.counted]
  refine ⟨ends, ?_, together.counted, tagCounted, ?_, perform_counts⟩
  · simpa only [Nat.zero_add] using finished
  · intro last call
    have used {channel : SecureChannel} (counted : channel.counter.toNat = exchanges.length) :
        channel.counter = lastCounter := UInt16.toNat.inj (counted.trans last)
    exact ⟨perform_exhausted (used together.counted) call, perform_exhausted (used tagCounted) call⟩

/-- Under a key of zeros, with both random numbers zero, the channel lasts for 65535 exchanges. -/
theorem zeros_used_up :
    (List.replicate 65535 (([0x30, 0x04], []) : Bytes × Bytes)).length < 65536 ∧
    ∃ finished ends,
      Ends.exchangeAll
          ⟨derive (List.replicate 16 0) (List.replicate 16 0) (List.replicate 16 0),
            derive (List.replicate 16 0) (List.replicate 16 0) (List.replicate 16 0)⟩
          (List.replicate 65535 ([0x30, 0x04], [])) = .ok (finished, ends) ∧
        ends.terminal.counter = lastCounter ∧
        ∀ call, ends.terminal.perform call = (.error .counterExhausted, ends.terminal) := by
  have many := List.length_replicate (n := 65535) (a := (([0x30, 0x04], []) : Bytes × Bytes))
  have short := Nat.lt_of_le_of_lt (Nat.le_of_eq many) (Nat.lt_succ_self 65535)
  obtain ⟨ends, finished, counted, tagCounted, used, safe⟩ := exchanges_succeed_until_used_up
    ⟨List.replicate 16 0, rfl⟩ ⟨List.replicate 16 0, rfl⟩ ⟨List.replicate 16 0, rfl⟩ _ short
  refine ⟨short, _, ends, finished, UInt16.toNat.inj (counted.trans many), ?_⟩
  intro call
  exact (used many call).1

end Wristband.SecureChannel
