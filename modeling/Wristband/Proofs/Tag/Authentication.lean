import Wristband.Proofs.Session.Handshake
import Wristband.Proofs.Tag.Answer

/-! What a frame changes in what a simulated tag knows of the terminal. A request either leaves
it alone or ends it, and under a channel it counts. The two frames of a handshake lead from
nothing to an authenticated terminal. -/

namespace Wristband

private theorem Frame.IsHandshake.of_prefix {command frame : Bytes} (handshake : Frame.IsHandshake command)
    (starts : command <+: frame) : Frame.IsHandshake frame := by
  obtain ⟨rest, rfl⟩ := starts
  cases command with
  | nil => rcases handshake with none_ | none_ <;> cases none_
  | cons => exact handshake

namespace SimulatedTag

variable {tag : SimulatedTag}

/-- How a tag takes a frame: in silence, with a refusal that ends the authentication, or with an
answer, which counts if it goes through the secure channel. -/
inductive Heard (tag : SimulatedTag) : Except HardwareError Bytes × SimulatedTag → Prop where
  | silent {error : HardwareError} {after : SimulatedTag}
      (same : after.authentication = tag.authentication) : Heard tag (.error error, after)
  | refused {status : UInt8} {after : SimulatedTag} (refusal : status ≠ Layout.ack)
      (ended : after.authentication = .none) : Heard tag (.ok [status], after)
  | plain {response : Bytes} {after : SimulatedTag} (open_ : tag.channel? = none)
      (same : after.authentication = tag.authentication) : Heard tag (.ok response, after)
  | counted {channel : SecureChannel} {response : Bytes} {after : SimulatedTag}
      (active : tag.channel? = some channel)
      (advanced : after.authentication = .authenticated (some channel.advanced)) :
      Heard tag (.ok response, after)

theorem channel?_congr {before after : SimulatedTag}
    (same : after.authentication = before.authentication) : after.channel? = before.channel? := by
  rw [channel?, channel?, same]

theorem channel?_eq_some {channel : SecureChannel} : tag.channel? = some channel ↔
    tag.authentication = .authenticated (some channel) := by
  unfold channel?
  cases tag.authentication with
  | none | tdesChallenge | aesChallenge => simp only [reduceCtorEq]
  | authenticated active => rw [TagAuthentication.authenticated.injEq]

theorem channel?_of_unknown (unknown : tag.isAuthenticated = false) : tag.channel? = none := by
  cases active : tag.channel? with
  | none => rfl
  | some channel =>
    rw [isAuthenticated, channel?_eq_some.mp active] at unknown
    cases unknown

theorem authenticate_reply (slot : UInt8) : (tag.authenticate slot).1 = refused ∨
    (∃ payload, (tag.authenticate slot).1 = .data payload) ∧
      (tag.authenticate slot).2.channel? = none := by
  unfold authenticate
  dsimp only
  split
  · split
    · exact .inl rfl
    · split
      · exact .inl rfl
      · exact .inr ⟨⟨_, rfl⟩, rfl⟩
  · split
    · exact .inl rfl
    · split
      · exact .inl rfl
      · exact .inr ⟨⟨_, rfl⟩, rfl⟩
  · exact .inl rfl

def IsFresh (tag : SimulatedTag) : Prop :=
  ∃ channel, tag.authentication = .authenticated channel ∧
    ∀ held, channel = some held → held.counter = 0

theorem continueAuthentication_reply (message : Bytes) :
    (tag.continueAuthentication message).1 = refused ∨
      (∃ payload, (tag.continueAuthentication message).1 = .data payload) ∧
        (tag.continueAuthentication message).2.IsFresh := by
  unfold continueAuthentication
  split
  · exact .inl rfl
  · split
    · split
      · exact .inl rfl
      · exact .inr ⟨⟨_, rfl⟩, none, rfl, nofun⟩
    · split
      · exact .inl rfl
      · refine .inr ⟨⟨_, rfl⟩, _, rfl, fun held derived => ?_⟩
        split at derived <;> cases derived
        rfl
    · exact .inl rfl

theorem execute_reply (command : Bytes) :
    (tag.execute command).1 = refused ∨ ∃ payload, (tag.execute command).1 = .data payload := by
  unfold execute
  cases TagCommand.ofFrame command with
  | getVersion =>
    dsimp only
    split
    · exact .inr ⟨_, rfl⟩
    · exact .inl rfl
  | read page =>
    simp only [read]
    split
    · exact .inl rfl
    · split
      · exact .inl rfl
      · exact .inr ⟨_, rfl⟩
  | write page data =>
    simp only [write]
    split
    · exact .inl rfl
    · split
      · exact .inl rfl
      · exact .inr ⟨_, rfl⟩
  | authenticate slot => exact (tag.authenticate_reply slot).imp_right And.left
  | continueAuthentication message =>
    exact (tag.continueAuthentication_reply message).imp_right And.left
  | unknown => exact .inl rfl

theorem execute_request {command : Bytes} (request : ¬ Frame.IsHandshake command) :
    (tag.execute command).2.authentication = tag.authentication := by
  unfold execute
  cases means : TagCommand.ofFrame command with
  | getVersion | read | unknown => rfl
  | write page data =>
    simp only [write]
    split
    · rfl
    · split <;> rfl
  | authenticate slot =>
    obtain rfl := TagCommand.isReadFrom means
    exact (request (.inl rfl)).elim
  | continueAuthentication message =>
    obtain rfl := TagCommand.isReadFrom means
    exact (request (.inr rfl)).elim

theorem answerCommand_refused {viaChannel : Bool} {command : Bytes}
    (nak : (tag.execute command).1 = refused) :
    tag.answerCommand viaChannel command =
      (.ok [nakRefused], (tag.execute command).2.unauthenticated) := by
  unfold answerCommand
  rcases executed : tag.execute command with ⟨reply, after⟩
  rw [executed] at nak
  cases nak
  rfl

private theorem sealReply_heard {after : SimulatedTag} {channel : SecureChannel} (payload : Bytes)
    (active : tag.channel? = some channel) (same : after.authentication = tag.authentication) :
    tag.Heard (after.sealReply payload) := by
  unfold sealReply
  rw [channel?_congr same, active]
  dsimp only
  cases sealed : channel.sealResponse payload with
  | error error => exact .silent same
  | ok result =>
    obtain ⟨response, next⟩ := result
    obtain ⟨_, rfl⟩ := SecureChannel.sealResponse_eq_ok sealed
    dsimp only
    split <;> exact .counted active rfl

private theorem answerCommand_heard {command : Bytes} (request : ¬ Frame.IsHandshake command) :
    tag.Heard (tag.answerCommand tag.channel?.isSome command) := by
  have same := tag.execute_request request
  rcases tag.execute_reply command with nak | ⟨payload, answered⟩
  · rw [answerCommand_refused nak]
    exact .refused (by decide) rfl
  · unfold answerCommand
    rcases executed : tag.execute command with ⟨reply, after⟩
    rw [executed] at same answered
    cases answered
    cases active : tag.channel? with
    | none => exact .plain active same
    | some channel => exact sealReply_heard payload active same

private theorem answerFrame_heard {frame : Bytes} (request : ¬ Frame.IsHandshake frame) :
    tag.Heard (tag.answerFrame frame) := by
  have answered {command : Bytes} (starts : command <+: frame) :
      tag.Heard (tag.answerCommand tag.channel?.isSome command) :=
    answerCommand_heard fun handshake => request (handshake.of_prefix starts)
  unfold answerFrame
  cases active : tag.channel? with
  | none =>
    rw [active] at answered
    exact answered List.prefix_rfl
  | some channel =>
    rw [active] at answered
    dsimp only
    split
    · exact .refused (by decide) rfl
    next opened => exact answered (SecureChannel.openCommand_prefix opened)

/-- Whatever comes of the frame itself, a tag may have left the field or may not answer. -/
theorem transceive_request {frame : Bytes} (request : ¬ Frame.IsHandshake frame) :
    tag.Heard (tag.transceive frame) := by
  cases near : tag.hears with
  | false =>
    obtain ⟨_, unheard⟩ := transceive_unheard near frame
    rw [unheard]
    exact .silent rfl
  | true =>
    obtain left | quiet | answered := transceive_heard near frame
    · rw [left]
      exact .silent rfl
    · rw [quiet]
      exact .silent rfl
    · rw [answered]
      have heard := (tag.heard frame).answerFrame_heard request
      generalize (tag.heard frame).answerFrame frame = result at heard ⊢
      cases heard with
      | silent same => exact .silent same
      | refused refusal ended => exact .refused refusal ended
      | plain open_ same => exact .plain open_ same
      | counted active advanced => exact .counted active advanced

theorem answerCommand_unsealed {viaChannel : Bool} {command payload : Bytes}
    (answered : (tag.execute command).1 = .data payload)
    (open_ : viaChannel = true → (tag.execute command).2.channel? = none) :
    tag.answerCommand viaChannel command = (.ok payload, (tag.execute command).2) := by
  unfold answerCommand
  rcases executed : tag.execute command with ⟨reply, after⟩
  rw [executed] at answered open_
  cases answered
  cases viaChannel with
  | false => rfl
  | true => simp only [sealReply, open_ rfl, if_true]

theorem execute_challenge {command frame : Bytes} (starts : command <+: frame)
    (head : frame.head? = some CommandCode.authenticate.code) :
    (tag.execute command).1 = refused ∨ (∃ payload, (tag.execute command).1 = .data payload) ∧
      (tag.execute command).2.channel? = none := by
  obtain ⟨rest, rfl⟩ := starts
  unfold execute
  cases means : TagCommand.ofFrame command with
  | authenticate slot => exact tag.authenticate_reply slot
  | unknown => exact .inl rfl
  | getVersion | read | continueAuthentication =>
    obtain rfl := TagCommand.isReadFrom means
    cases head
  | write =>
    obtain ⟨rfl, _⟩ := TagCommand.isReadFrom means
    cases head

private theorem execute_confirmation {frame : Bytes}
    (head : frame.head? = some CommandCode.continueAuthentication.code) :
    (tag.execute frame).1 = refused ∨
      (∃ payload, (tag.execute frame).1 = .data payload) ∧ (tag.execute frame).2.IsFresh := by
  unfold execute
  cases means : TagCommand.ofFrame frame with
  | continueAuthentication message => exact tag.continueAuthentication_reply message
  | unknown => exact .inl rfl
  | getVersion | read | authenticate =>
    obtain rfl := TagCommand.isReadFrom means
    cases head
  | write =>
    obtain ⟨rfl, _⟩ := TagCommand.isReadFrom means
    cases head

/-- Only a tag that hears a frame answers it. -/
theorem answerFrame_of_transceive {frame response : Bytes}
    (heard : (tag.transceive frame).1 = .ok response) :
    tag.transceive frame = (tag.heard frame).answerFrame frame := by
  cases near : tag.hears with
  | false =>
    obtain ⟨_, unheard⟩ := transceive_unheard near frame
    rw [unheard] at heard
    cases heard
  | true =>
    obtain left | quiet | answered := transceive_heard near frame
    · rw [left] at heard
      cases heard
    · rw [quiet] at heard
      cases heard
    · exact answered

/-- A tag that sends a challenge has closed the channel that it may have had. -/
theorem channel?_of_challenge {frame response : Bytes}
    (head : frame.head? = some CommandCode.authenticate.code)
    (heard : (tag.transceive frame).1 = .ok response) (several : response.length ≠ 1) :
    (tag.transceive frame).2.channel? = none := by
  have reached := answerFrame_of_transceive heard
  rw [reached] at heard ⊢
  generalize tag.heard frame = tag at heard ⊢
  have answers {viaChannel : Bool} {command : Bytes} (starts : command <+: frame)
      (answered : (tag.answerCommand viaChannel command).1 = .ok response) :
      (tag.answerCommand viaChannel command).2.channel? = none := by
    rcases tag.execute_challenge starts head with nak | ⟨⟨payload, data⟩, open_⟩
    · rw [answerCommand_refused nak] at answered
      cases answered
      exact (several rfl).elim
    · rw [answerCommand_unsealed data fun _ => open_]
      exact open_
  unfold answerFrame at heard ⊢
  split at heard
  next => exact answers List.prefix_rfl heard
  next =>
    split at heard
    next =>
      cases heard
      exact (several rfl).elim
    next opened => exact answers (SecureChannel.openCommand_prefix opened) heard

/-- A tag that sends a confirmation takes the terminal for authenticated. -/
theorem isFresh_of_confirmation {frame response : Bytes} (open_ : tag.channel? = none)
    (head : frame.head? = some CommandCode.continueAuthentication.code)
    (heard : (tag.transceive frame).1 = .ok response) (several : response.length ≠ 1) :
    (tag.transceive frame).2.IsFresh := by
  have reached := answerFrame_of_transceive heard
  rw [reached] at heard ⊢
  have plain :
      (tag.heard frame).answerFrame frame = (tag.heard frame).answerCommand false frame := by
    unfold answerFrame
    rw [show (tag.heard frame).channel? = none from open_]
  rw [plain] at heard ⊢
  rcases (tag.heard frame).execute_confirmation head with nak | ⟨⟨payload, data⟩, fresh⟩
  · rw [answerCommand_refused nak] at heard
    cases heard
    exact (several rfl).elim
  · have unsealed := answerCommand_unsealed data fun through => absurd through Bool.false_ne_true
    rw [unsealed]
    exact fresh

end SimulatedTag
end Wristband
