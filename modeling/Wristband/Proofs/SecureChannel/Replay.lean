import Wristband.Proofs.SecureChannel

/-! Frames that are offered again. A frame is accepted only where its code counts what the reader
counts. A command and the response to the command before it count the same, and nothing in a code
tells the two apart, so the tag takes its own last response for the next command. -/

namespace Wristband.SecureChannel

inductive Role where
  | command
  | response

/-- A frame that one end has sealed, with what that end counted at the time. -/
structure Sealed where
  role : Role
  counter : UInt16
  data : Bytes
  frame : Bytes

def Sealed.counted (sealed : Sealed) : UInt16 :=
  match sealed.role with
  | .command => sealed.counter
  | .response => sealed.counter + 1

structure Wire extends Ends where
  sent : List Sealed

/-- What can happen on the wire. The tag reads commands without any effect on its end. -/
inductive Move where
  | sealCommand (command : Bytes)
  | sealResponse (payload : Bytes)
  | openResponse (response : Bytes)

namespace Wire

def start (key hostRandom tagRandom : Bytes) : Wire where
  terminal := derive key hostRandom tagRandom
  tag := derive key hostRandom tagRandom
  sent := []

def perform (wire : Wire) : Move → Wire
  | .sealCommand command =>
    match wire.terminal.sealCommand command with
    | .error _ => wire
    | .ok frame =>
      { wire with sent := wire.sent ++ [⟨.command, wire.terminal.counter, command, frame⟩] }
  | .sealResponse payload =>
    match wire.tag.sealResponse payload with
    | .error _ => wire
    | .ok (frame, after) =>
      { wire with tag := after, sent := wire.sent ++ [⟨.response, wire.tag.counter, payload, frame⟩] }
  | .openResponse response =>
    match wire.terminal.openResponse response with
    | .error _ => wire
    | .ok (_, after) => { wire with terminal := after }

def afterMoves (wire : Wire) (moves : List Move) : Wire := moves.foldl perform wire

def inputs (wire : Wire) : List (UInt16 × Bytes) :=
  wire.sent.flatMap fun sealed => [(sealed.counted, sealed.data), (wire.tag.counter, sealed.data),
    (wire.terminal.counter + 1, sealed.data)]

/-- Codes of different inputs differ. -/
def Apart (wire : Wire) : Prop :=
  ∀ first ∈ wire.inputs, ∀ second ∈ wire.inputs,
    wire.tag.code first.1 first.2 = wire.tag.code second.1 second.2 → first = second

/-- Both ends hold one key. What was sealed carries its code, and no command is ahead of the
terminal. -/
structure Sound (wire : Wire) : Prop where
  sameKey : wire.terminal.sessionKey = wire.tag.sessionKey
  sized : wire.tag.sessionKey.length = 16
  coded : ∀ sealed ∈ wire.sent,
    sealed.frame = sealed.data ++ wire.tag.code sealed.counted sealed.data
  counted : ∀ sealed ∈ wire.sent, sealed.role = .command →
    sealed.counter.toNat ≤ wire.terminal.counter.toNat

private theorem sound_start (key hostRandom tagRandom : FixedBytes 16) :
    (start key.val hostRandom.val tagRandom.val).Sound where
  sameKey := rfl
  sized := Cmac.length_code key.property _
  coded := nofun
  counted := nofun

variable {wire : Wire}

private theorem Sound.code_terminal (sound : wire.Sound) (counter : UInt16) (data : Bytes) :
    wire.terminal.code counter data = wire.tag.code counter data := by
  rw [code, code, sound.sameKey]

private theorem Sound.sealCommand (sound : wire.Sound) (command : Bytes) :
    (wire.perform (.sealCommand command)).Sound := by
  unfold perform
  dsimp only
  split
  · exact sound
  next frame result =>
    have made := sealCommand_eq_ok result
    rw [sound.code_terminal] at made
    refine ⟨sound.sameKey, sound.sized, ?_, ?_⟩
    · exact List.forall_mem_append.mpr ⟨sound.coded, List.forall_mem_singleton.mpr made⟩
    · exact List.forall_mem_append.mpr
        ⟨sound.counted, List.forall_mem_singleton.mpr fun _ => Nat.le_refl _⟩

private theorem Sound.sealResponse (sound : wire.Sound) (payload : Bytes) :
    (wire.perform (.sealResponse payload)).Sound := by
  unfold perform
  dsimp only
  split
  · exact sound
  next frame after result =>
    obtain ⟨made, rfl⟩ := sealResponse_eq_ok result
    refine ⟨sound.sameKey, sound.sized, ?_, ?_⟩
    · exact List.forall_mem_append.mpr ⟨sound.coded, List.forall_mem_singleton.mpr made⟩
    · exact List.forall_mem_append.mpr ⟨sound.counted, List.forall_mem_singleton.mpr nofun⟩

private theorem Sound.openResponse (sound : wire.Sound) (response : Bytes) :
    (wire.perform (.openResponse response)).Sound := by
  unfold perform
  dsimp only
  split
  · exact sound
  next payload after result =>
    obtain ⟨_, checked, _⟩ := Except.bind_eq_ok.mp result
    obtain ⟨_, _, rfl⟩ := openResponse_eq_ok result
    refine ⟨sound.sameKey, sound.sized, sound.coded, ?_⟩
    intro sealed listed isCommand
    have before := sound.counted sealed listed isCommand
    have grown := wire.terminal.counter_advanced (checkCounter_eq_ok.mp checked)
    change sealed.counter.toNat ≤ wire.terminal.advanced.counter.toNat
    omega

private theorem Sound.perform (sound : wire.Sound) (move : Move) : (wire.perform move).Sound := by
  cases move with
  | sealCommand command => exact sound.sealCommand command
  | sealResponse payload => exact sound.sealResponse payload
  | openResponse response => exact sound.openResponse response

private theorem Sound.afterMoves (sound : wire.Sound) (moves : List Move) :
    (wire.afterMoves moves).Sound := by
  induction moves generalizing wire with
  | nil => exact sound
  | cons move rest ih => exact ih (sound.perform move)

variable {sealed : Sealed}

/-- The tag takes what is coded for the number that it counts. -/
theorem Sound.openCommand_iff (sound : wire.Sound) (listed : sealed ∈ wire.sent) :
    (∃ command, wire.tag.openCommand sealed.frame = .ok command) ↔
      wire.tag.counter ≠ lastCounter ∧
        wire.tag.code wire.tag.counter sealed.data = wire.tag.code sealed.counted sealed.data := by
  have coded := wire.tag.length_code sound.sized sealed.counted sealed.data
  rw [exists_openCommand_iff, sound.coded sealed listed, exists_verify_iff coded]

/-- The terminal takes what is coded for the number after the one that it counts. -/
theorem Sound.openResponse_iff (sound : wire.Sound) (listed : sealed ∈ wire.sent) :
    (∃ opened, wire.terminal.openResponse sealed.frame = .ok opened) ↔
      wire.terminal.counter ≠ lastCounter ∧
        wire.tag.code (wire.terminal.counter + 1) sealed.data =
          wire.tag.code sealed.counted sealed.data := by
  have coded := wire.tag.length_code sound.sized sealed.counted sealed.data
  rw [exists_openResponse_iff, sound.coded sealed listed, exists_verify_iff coded,
    sound.code_terminal]

private theorem Apart.code_eq_iff (apart : wire.Apart) (listed : sealed ∈ wire.sent) {counter : UInt16}
    (met : counter = wire.tag.counter ∨ counter = wire.terminal.counter + 1) :
    wire.tag.code counter sealed.data = wire.tag.code sealed.counted sealed.data ↔
      counter = sealed.counted := by
  have first : (counter, sealed.data) ∈ wire.inputs := by
    refine List.mem_flatMap.mpr ⟨sealed, listed, ?_⟩
    rcases met with rfl | rfl <;> simp
  have second : (sealed.counted, sealed.data) ∈ wire.inputs :=
    List.mem_flatMap.mpr ⟨sealed, listed, List.mem_cons_self⟩
  constructor
  · intro same
    exact congrArg Prod.fst (apart _ first _ second same)
  · rintro rfl
    rfl

private theorem Sound.counted_ne_next (sound : wire.Sound) (listed : sealed ∈ wire.sent)
    (isCommand : sealed.role = .command) (fresh : wire.terminal.counter ≠ lastCounter) :
    wire.terminal.counter + 1 ≠ sealed.counter := by
  have behind := sound.counted sealed listed isCommand
  have grown := wire.terminal.counter_advanced fresh
  change (wire.terminal.counter + 1).toNat = wire.terminal.counter.toNat + 1 at grown
  intro same
  rw [same] at grown
  omega

def Reached (wire : Wire) : Prop :=
  ∃ (key hostRandom tagRandom : FixedBytes 16) (moves : List Move),
    (start key.val hostRandom.val tagRandom.val).afterMoves moves = wire

private theorem Reached.sound (reached : wire.Reached) : wire.Sound := by
  obtain ⟨key, hostRandom, tagRandom, moves, rfl⟩ := reached
  exact (sound_start key hostRandom tagRandom).afterMoves moves

/-- At any time in a session in which different inputs have different codes, a frame is accepted in
its own exchange and in its own role, and in no other place but one: until it answers again, the
tag takes its last response for a command. -/
theorem sealed_frame_refused_unless_last_response (reached : wire.Reached) (apart : wire.Apart)
    (listed : sealed ∈ wire.sent) :
    ((∃ command, wire.tag.openCommand sealed.frame = .ok command) ↔
      wire.tag.counter ≠ lastCounter ∧
        (sealed.role = .command ∧ wire.tag.counter = sealed.counter ∨
          sealed.role = .response ∧ wire.tag.counter = sealed.counter + 1)) ∧
    ((∃ opened, wire.terminal.openResponse sealed.frame = .ok opened) ↔
      wire.terminal.counter ≠ lastCounter ∧
        sealed.role = .response ∧ wire.terminal.counter = sealed.counter) := by
  have sound := reached.sound
  rw [sound.openCommand_iff listed, sound.openResponse_iff listed,
    apart.code_eq_iff listed (.inl rfl), apart.code_eq_iff listed (.inr rfl)]
  cases role : sealed.role with
  | command =>
    have counted : sealed.counted = sealed.counter := by rw [Sealed.counted, role]
    rw [counted]
    constructor
    · simp
    constructor
    · rintro ⟨fresh, same⟩
      exact (sound.counted_ne_next listed role fresh same).elim
    · rintro ⟨_, ⟨⟩, _⟩
  | response =>
    have counted : sealed.counted = sealed.counter + 1 := by rw [Sealed.counted, role]
    rw [counted, UInt16.add_left_inj]
    simp

/-- A session under a key of zeros, with both random numbers zero. The tag has acknowledged a
command, and the terminal has not seen the response yet. -/
def answered : Wire :=
  (start (List.replicate 16 0) (List.replicate 16 0) (List.replicate 16 0)).afterMoves
    [.sealCommand [0xA2, 0x04, 0x01, 0x02, 0x03, 0x04], .sealResponse [0x0A]]

private theorem reached_answered : answered.Reached :=
  ⟨⟨List.replicate 16 0, rfl⟩, ⟨List.replicate 16 0, rfl⟩, ⟨List.replicate 16 0, rfl⟩, _, rfl⟩

private theorem apart_answered : answered.Apart := by
  have key : answered.tag.sessionKey = [92, 151, 13, 53, 34, 245, 245, 69, 39, 233, 144, 187, 135,
    218, 169, 235] := by decide +kernel
  have codes (counter : UInt16) (data : Bytes) : answered.tag.code counter data =
      SecureChannel.code ⟨[92, 151, 13, 53, 34, 245, 245, 69, 39, 233, 144, 187, 135, 218, 169, 235],
        0⟩ counter data := by
    rw [code, code, key]
  have command : answered.tag.code 0 [0xA2, 0x04, 0x01, 0x02, 0x03, 0x04] =
      [59, 223, 179, 40, 161, 179, 221, 147] := by
    rw [codes]
    decide +kernel
  have next : answered.tag.code 1 [0xA2, 0x04, 0x01, 0x02, 0x03, 0x04] =
      [188, 207, 191, 250, 0, 47, 52, 84] := by
    rw [codes]
    decide +kernel
  have response : answered.tag.code 1 [0x0A] = [122, 95, 10, 12, 6, 138, 139, 252] := by
    rw [codes]
    decide +kernel
  have inputs : answered.inputs = [(0, [0xA2, 0x04, 0x01, 0x02, 0x03, 0x04]),
      (1, [0xA2, 0x04, 0x01, 0x02, 0x03, 0x04]), (1, [0xA2, 0x04, 0x01, 0x02, 0x03, 0x04]),
      (1, [0x0A]), (1, [0x0A]), (1, [0x0A])] := rfl
  simp [Apart, inputs, command, next, response]

/-- What was acknowledged is past: neither end takes the command again. -/
theorem acknowledged_command_refused :
    answered.Reached ∧ answered.Apart ∧ ∀ sealed ∈ answered.sent, sealed.role = .command →
      ¬ (∃ command, answered.tag.openCommand sealed.frame = .ok command) ∧
        ¬ ∃ opened, answered.terminal.openResponse sealed.frame = .ok opened := by
  refine ⟨reached_answered, apart_answered, fun sealed listed isCommand => ?_⟩
  obtain ⟨tag, terminal⟩ :=
    sealed_frame_refused_unless_last_response reached_answered apart_answered listed
  have first : sealed.counter = 0 := by
    rcases listed with _ | ⟨_, _ | ⟨_, ⟨⟩⟩⟩ <;> rfl
  have moved : answered.tag.counter = 1 := rfl
  rw [isCommand, first, moved] at tag
  rw [isCommand] at terminal
  constructor
  · intro accepted
    obtain ⟨_, ⟨_, ⟨⟩⟩ | ⟨⟨⟩, _⟩⟩ := tag.mp accepted
  · intro accepted
    obtain ⟨_, ⟨⟩, _⟩ := terminal.mp accepted

/-- Both ends take the acknowledgement, the terminal for what it is and the tag for a command. -/
theorem acknowledgement_accepted_as_command :
    answered.Reached ∧ answered.Apart ∧
      ∃ sealed ∈ answered.sent, sealed.role = .response ∧ sealed.data = [0x0A] ∧
        (∃ after, answered.terminal.openResponse sealed.frame = .ok ([0x0A], after)) ∧
        answered.tag.openCommand sealed.frame = .ok [0x0A] := by
  have sized := reached_answered.sound.sized
  refine ⟨reached_answered, apart_answered, _, .tail _ (.head _), rfl, rfl, ?_, ?_⟩
  · exact ⟨_, answered.terminal.openResponse_ok (by decide) sized [0x0A]⟩
  · exact answered.tag.openCommand_ok (by decide) sized [0x0A]

end Wire
end Wristband.SecureChannel
