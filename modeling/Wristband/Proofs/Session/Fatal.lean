import Wristband.Proofs.Session.Estranged
import Wristband.Proofs.Session.Verdicts

/-! Failures after which an authenticated session must not go on. Each is found in another place: the
counter before anything is sent, a refusal in the clear and a code that does not fit when the answer
comes in, and a refusal with a code only when the answer is made sense of. Two of these places end
the session, and two do not. -/

namespace Wristband

namespace SecureChannel

variable {channel : SecureChannel} {command response : Bytes} {error : ProtocolError}

private theorem checkCounter_eq_error (refused : channel.checkCounter = .error error) :
    error = .counterExhausted ∧ channel.counter = lastCounter := by
  unfold checkCounter at refused
  split at refused
  next last =>
    cases refused
    exact ⟨rfl, last⟩
  next => cases refused

private theorem sealCommand_eq_error (refused : channel.sealCommand command = .error error) :
    error = .counterExhausted ∧ channel.counter = lastCounter := by
  unfold sealCommand at refused
  cases checked : channel.checkCounter with
  | error =>
    rw [checked] at refused
    cases refused
    exact checkCounter_eq_error checked
  | ok =>
    rw [checked] at refused
    cases refused

private theorem openResponse_eq_error {frame : Bytes} (sealed_ : channel.sealCommand command = .ok frame)
    (refused : channel.openResponse response = .error error) : error = .cmacMismatch := by
  obtain ⟨_, checked, _⟩ := Except.bind_eq_ok.mp sealed_
  rw [openResponse, checked] at refused
  change (do
    let payload ← channel.verify (channel.counter + 1) response
    return (payload, channel.advanced) : Except ProtocolError (Bytes × SecureChannel)) =
      .error error at refused
  unfold verify at refused
  dsimp only at refused
  split at refused
  · cases refused
    rfl
  · split at refused
    · cases refused
    · cases refused
      rfl

end SecureChannel

/-- The failures after which an authenticated session is to be over: a code that does not fit, a
counter that is used up, and a refusal, whether it comes in the clear or with a code. -/
inductive TagError.IsFatal : TagError → Prop where
  | mismatch : IsFatal (.protocol .cmacMismatch)
  | exhausted : IsFatal (.protocol .counterExhausted)
  | ended (status : UInt8) :
      IsFatal (.auth ("tag ended the authenticated session with NAK " ++ Hex.marked status))
  | refused (code : UInt8) : IsFatal (.protocol (.nak code))

/-- The failure is found while the codes of both sides are in order. -/
def TagError.IsInOrder (error : TagError) : Prop :=
  error = .protocol .counterExhausted ∨ ∃ code, error = .protocol (.nak code)

namespace Session

variable {τ : Type} [NfcTag τ] {session after : Session τ}

/-- What is left of an authenticated session by a failure: nothing, unless the channel was used up or
has just opened an answer that turned out to be a refusal. -/
def Settles : TagError → Session τ → Prop
  | .protocol .cmacMismatch, after | .auth _, after => after.IsBarred
  | .protocol .counterExhausted, after =>
    ∃ channel, after.channel? = some channel ∧ channel.counter = SecureChannel.lastCounter
  | .protocol (.nak code), after =>
    ∃ before response channel, SecureChannel.openResponse before response = .ok ([code], channel) ∧
      after.channel? = some channel
  | _, _ => True

omit [NfcTag τ] in
private theorem IsBarred.of_dropped (authenticated : session.isAuthenticated = true) :
    session.dropAuthentication.IsBarred := by
  obtain ⟨engine, held, _⟩ := isAuthenticated_iff.mp authenticated
  exact isBarred_invalidated held

private theorem exchange_settles (authenticated : session.isAuthenticated = true) (command : Bytes) :
    Ensures (exchange command) session
      (fun response after => after.isAuthenticated = true ∧
        ∀ code, Response.nak? response = some code → Settles (.protocol (.nak code)) after)
      Settles := by
  apply ensures_exchange
  · intro response after exchanged
    refine ⟨exchanged.sameStanding.isAuthenticated.trans authenticated, ?_⟩
    intro code refused
    obtain ⟨rfl, refusal⟩ : response = [code] ∧ code ≠ Layout.ack := by
      unfold Response.nak? at refused
      split at refused
      · split at refused
        next low =>
          cases refused
          exact ⟨rfl, low.1⟩
        next => cases refused
      · cases refused
    cases exchanged with
    | plain _ _ accepted => exact absurd (accepted authenticated code rfl) refusal
    | opened active _ _ genuine => exact ⟨_, _, _, genuine, channel?_setChannel active _⟩
  · intro error after exchanged
    cases exchanged with
    | unanswered => trivial
    | exhausted active refused =>
      obtain ⟨rfl, last⟩ := SecureChannel.sealCommand_eq_error refused
      exact ⟨_, active, last⟩
    | ended => exact IsBarred.of_dropped authenticated
    | spoilt active carries _ refused =>
      obtain rfl := SecureChannel.openResponse_eq_error carries refused
      exact IsBarred.of_dropped authenticated

private theorem judges_settles :
    Judges (fun session : Session τ => session.isAuthenticated = true) Settles where
  request command _ _ authenticated := exchange_settles authenticated command
  learn _ _ authenticated := authenticated
  own session error _ own := by
    cases error with
    | hardware | auth => exact own.elim
    | data | notAuthenticated | incompatible => trivial
    | protocol error =>
      cases error with
      | nak code => exact absurd rfl (own.1 code)
      | cmacMismatch => exact absurd rfl own.2.1
      | counterExhausted => exact absurd rfl own.2.2
      | _ => trivial

omit [NfcTag τ] in
private theorem ofHardware_settles {result : Except HardwareError Unit} :
    Ensures (ofHardware result) session (fun _ _ => True) Settles := by
  cases result <;> trivial

private theorem reconnect_settles : Ensures reconnect session (fun _ _ => True) Settles := by
  simp only [reconnect, closeTag, connectTag, ensures_bind, ensures_modify, ensures_get, ensures_set]
  exact (ofHardware_settles).onValue fun _ _ _ => ofHardware_settles

private theorem close_settles : Ensures close session (fun _ _ => True) Settles := by
  refine ensures_bind.mpr (ensures_get.mpr ?_)
  split
  · trivial
  · simp only [closeTag, ensures_bind, ensures_modify, ensures_get, ensures_set]
    exact ofHardware_settles

/-- The text by which an authenticated session turns a handshake down is not the one by which it
reports that the tag has ended it. -/
theorem not_isFatal_turnedDown : ¬ (TagError.auth "session already ran its handshake").IsFatal := by
  generalize same : TagError.auth "session already ran its handshake" = error
  rintro (_ | _ | status | _)
  · cases same
  · cases same
  · have heads := congrArg (·.toList.head?) (TagError.auth.inj same)
    simp only [String.toList_append, List.head?_append] at heads
    cases heads
  · cases same

private theorem authenticate_turnedDown (authenticated : session.isAuthenticated = true) (key : AuthKey)
    (slot : KeySlot) (cmac : Bool) : (authenticate key slot cmac).run session =
      (.error (.auth "session already ran its handshake"), session) := by
  obtain ⟨engine, held, _⟩ := isAuthenticated_iff.mp authenticated
  change (do
    if session.engine.isSome then throw (.auth "session already ran its handshake")
    _ : SessionM τ Unit).run session = _
  rw [held]
  rfl

/-- What a call leaves of an authenticated session by failing fatally. A handshake in it, a connection
that is opened and one that is closed do not fail like that. -/
private theorem perform_settles (authenticated : session.isAuthenticated = true) (call : SessionCall)
    {error : TagError} (fatal : error.IsFatal)
    (failed : call.perform.run session = (.error error, after)) : Settles error after := by
  have settled (ensures : Ensures call.perform session (fun _ _ => True) Settles) :
      Settles error after := by
    exact (ensures_of_error failed).mp ensures
  cases plain : call.changesHandshake with
  | false =>
    exact settled ((judges_settles.perform call plain session authenticated).onValue
      fun _ _ _ => trivial)
  | true =>
    cases call with
    | authenticate key slot cmac =>
      have refused := authenticate_turnedDown authenticated key slot cmac
      cases failed.symm.trans refused
      exact absurd fatal not_isFatal_turnedDown
    | reconnect => exact settled reconnect_settles
    | close => exact settled close_settles
    | _ => cases plain

/-- A failure that is fatal ends an authenticated session, and its channel with it, unless the codes
of both sides are in order. Then the session stays authenticated: with a channel that is used up, or
with the channel that has just opened the refusal. -/
theorem fatal_failure_ends_session_unless_in_order (authenticated : session.isAuthenticated = true)
    (call : SessionCall) {error : TagError} (fatal : error.IsFatal)
    (failed : call.perform.run session = (.error error, after)) :
    (after.isAuthenticated = false ∧ after.channel? = none ↔ ¬ error.IsInOrder) ∧
    (error = .protocol .counterExhausted →
      ∃ channel, after.channel? = some channel ∧ channel.counter = SecureChannel.lastCounter) ∧
    ∀ code, error = .protocol (.nak code) →
      ∃ before response channel, SecureChannel.openResponse before response = .ok ([code], channel) ∧
        after.channel? = some channel := by
  have settles := perform_settles authenticated call fatal failed
  have goesOn {channel : SecureChannel} (inOrder : error.IsInOrder)
      (active : after.channel? = some channel) :
      after.isAuthenticated = false ∧ after.channel? = none ↔ ¬ error.IsInOrder := by
    refine iff_of_false (fun ended => ?_) (not_not_intro inOrder)
    rw [ended.2] at active
    cases active
  have stops (outOfOrder : ¬ error.IsInOrder) (barred : after.IsBarred) :
      after.isAuthenticated = false ∧ after.channel? = none ↔ ¬ error.IsInOrder :=
    iff_of_true ⟨barred.not_authenticated, barred.channel?_eq_none⟩ outOfOrder
  cases fatal with
  | mismatch | ended =>
    exact ⟨stops (by rintro (same | ⟨_, same⟩) <;> cases same) settles, nofun, nofun⟩
  | exhausted =>
    obtain ⟨channel, active, last⟩ := settles
    exact ⟨goesOn (.inl rfl) active, fun _ => ⟨channel, active, last⟩, nofun⟩
  | refused code =>
    obtain ⟨before, response, channel, genuine, active⟩ := settles
    refine ⟨goesOn (.inr ⟨code, rfl⟩) active, nofun, ?_⟩
    rintro _ ⟨⟩
    exact ⟨before, response, channel, genuine, active⟩

/-- The tag uses no codes, so it refuses a command that has one, and says so without a code. -/
theorem refusal_in_the_clear_ends_session :
    let plain := zeroKeyTag.withCmac false
    let session := (opened plain plain.family ⟨fun _ => 0, 0⟩).afterCalls
      [.authenticate zeroKey .dataProtection true]
    let last := (SessionCall.readPage 0x04).perform.run session
    session.isAuthenticated = true ∧ session.channel?.isSome = true ∧
      last.1 = .error (.auth "tag ended the authenticated session with NAK 0x00") ∧
      last.2.isAuthenticated = false ∧ last.2.channel? = none := by
  intro plain session last
  have uncoded : plain.cmacEnabled = false := by decide +kernel
  have stored : plain.keyAt (Layout.aesDataKeyPage + 0 * 4) = List.replicate 16 0 := by
    decide +kernel
  have held : plain.Holds zeroKey .dataProtection := stored
  have mismatch : true ≠ plain.cmacEnabled := by
    rw [uncoded]
    decide
  obtain ⟨final, ran, recognised, estranged, theirs⟩ :=
    (opened_isFresh rfl rfl ⟨fun _ => 0, 0⟩).held_estranged rfl held mismatch
  have reached : session = final := (afterCalls_singleton _ _).trans (congrArg Prod.snd ran)
  have coded : final.channel?.isSome = true := by
    rw [theirs, uncoded] at estranged
    exact eq_true_of_ne_false estranged
  have known : (0x04 : UInt8) < final.family.pageCount := by
    rw [recognised.family]
    decide
  have ends := readPage_fails recognised.standing (Frame.read_ok known)
    (recognised.exchange_estranged estranged (.read 0x04))
  have complaint : final.tag.complaint = SimulatedTag.nakRefused := by
    rw [SimulatedTag.complaint, theirs, uncoded]
    rfl
  rw [complaint] at ends
  have discarded : Ensures (SessionCall.readPage 0x04).perform final (fun _ _ => False)
      (EndedWith plain SimulatedTag.nakRefused) := ends.abort
  obtain ⟨error, after, failed, ended⟩ := discarded.fails
  obtain rfl := ended.error
  have main := (fatal_failure_ends_session_unless_in_order recognised.standing _
    (.ended SimulatedTag.nakRefused) failed).1.mpr (by rintro (same | ⟨_, same⟩) <;> cases same)
  rw [← reached] at failed recognised coded
  have seen : last = (.error _, after) := failed
  rw [seen]
  exact ⟨recognised.standing, coded, rfl, main⟩

structure Counts (image : SimulatedTag) (spent : Nat) (session : Session SimulatedTag) : Prop
    extends Converses image true spent session where
  exact : ∃ channel, session.channel? = some channel ∧ channel.counter.toNat = spent

namespace Counts

variable {image : SimulatedTag} {spent : Nat} {session : Session SimulatedTag} {page : UInt8}

private theorem readPage (counts : session.Counts image spent) (whole : image.IsWhole)
    (room : spent < 65535) (known : page < image.family.pageCount) :
    Ensures (readPage page) session (fun _ => Counts image (spent + 1)) (fun _ _ => False) := by
  obtain ⟨channel, active, counted⟩ := counts.exact
  have fresh : channel.counter ≠ SecureChannel.lastCounter := by
    intro last
    rw [last] at counted
    exact Nat.ne_of_lt room counted.symm
  have advanced : Ensures (readBlock [CommandCode.read.code, page]) session
      (fun _ after => after.channel? = some channel.advanced) (fun _ _ => True) := by
    have sent : Ensures (exchange [CommandCode.read.code, page]) session
        (fun _ after => after.channel? = some channel.advanced) (fun _ _ => True) :=
      ensures_exchange (fun _ _ exchanged => exchanged.advanced active) fun _ _ _ => trivial
    exact sent.bind fun _ => Leads.ofProtocol fun _ _ => trivial
  have block := (counts.toConverses.readBlock whole room known (.inl rfl)).and advanced
  refine ensures_bind.mpr (ensures_get.mpr ?_)
  rw [counts.family, Frame.read_ok known]
  refine (ensureAccess_authenticated counts.standing page .read).bind ?_
  rintro _ _ rfl
  refine (block.onError fun _ _ left => left.1).bind ?_
  rintro _ after ⟨⟨rfl, converses⟩, moved⟩
  rw [Response.requestedPage_ofBytes (image.length_readBlock whole page)]
  exact ⟨converses, channel.advanced, moved, by rw [SecureChannel.counter_advanced fresh, counted]⟩

private theorem afterReads (counts : session.Counts image spent) (whole : image.IsWhole)
    (known : page < image.family.pageCount) (reads : Nat) (room : spent + reads ≤ 65535) :
    (session.afterCalls (List.replicate reads (.readPage page))).Counts image (spent + reads) := by
  induction reads generalizing session spent with
  | zero => exact counts
  | succ reads ih =>
    have first : Ensures (SessionCall.readPage page).perform session
        (fun _ => Counts image (spent + 1)) (fun _ _ => False) :=
      (counts.readPage whole (by omega) known).discard
    rw [List.replicate_succ, afterCalls_cons, Nat.add_comm reads, ← Nat.add_assoc]
    exact ih first.total.after (by omega)

/-- A session whose channel is used up refuses to read, and is left as it is. -/
theorem readPage_exhausted (counts : session.Counts image 65535)
    (known : page < image.family.pageCount) :
    (SessionCall.readPage page).perform.run session =
      (.error (.protocol .counterExhausted), session) := by
  obtain ⟨channel, active, counted⟩ := counts.exact
  have last : channel.counter = SecureChannel.lastCounter := UInt16.toNat.inj counted
  have refused := SecureChannel.sealCommand_exhausted last [CommandCode.read.code, page]
  have fails : Ensures (exchange [CommandCode.read.code, page]) session (fun _ _ => False)
      (fun error after => error = .protocol .counterExhausted ∧ after = session) := by
    exact (ensures_of_error (run_exchange_exhausted active refused)).mpr ⟨rfl, rfl⟩
  have made : Frame.read session.family page = .ok [CommandCode.read.code, page] := by
    rw [counts.family]
    exact Frame.read_ok known
  have ends : Ensures (SessionCall.readPage page).perform session (fun _ _ => False)
      (fun error after => error = .protocol .counterExhausted ∧ after = session) :=
    (readPage_fails counts.standing made fails).abort
  obtain ⟨error, after, ran, rfl, rfl⟩ := ends.fails
  exact ran

end Counts

/-- After 65535 reads the channel is used up. The next read fails for that, but the session goes on as
authenticated, with its channel. -/
theorem exhausted_session_stays_authenticated :
    let start := opened zeroKeyTag zeroKeyTag.family ⟨fun _ => 0, 0⟩
    let session := start.afterCalls
      (.authenticate zeroKey .dataProtection true :: List.replicate 65535 (.readPage 0x04))
    openOn zeroKeyTag zeroKeyTag.family ⟨fun _ => 0, 0⟩ = .ok start ∧
      (SessionCall.readPage 0x04).perform.run session =
        (.error (.protocol .counterExhausted), session) ∧
      session.isAuthenticated = true ∧
      ∃ channel, session.channel? = some channel ∧ channel.counter = SecureChannel.lastCounter := by
  intro start session
  have whole : zeroKeyTag.IsWhole := (SimulatedTag.isWhole_ultralightAes _ _).withCmac true
  have asks : zeroKeyTag.cmacEnabled = true := by decide +kernel
  have known : (0x04 : UInt8) < zeroKeyTag.family.pageCount := by decide
  obtain ⟨first, ran, recognised, coded, _, shared⟩ :=
    opened_held rfl rfl ⟨fun _ => 0, 0⟩ holds_zeroKey true
  obtain ⟨channel, active⟩ := Option.isSome_iff_exists.mp coded
  have fresh : first.Counts zeroKeyTag 0 :=
    ⟨recognised.converses (shared rfl asks), channel, active, by rw [recognised.unused channel active]; rfl⟩
  have reached : session = first.afterCalls (List.replicate 65535 (.readPage 0x04)) := by
    have second : ((SessionCall.authenticate zeroKey .dataProtection true).perform.run start).2 = first :=
      congrArg Prod.snd ran
    rw [← second]
    exact afterCalls_cons _ _ _
  have counts : session.Counts zeroKeyTag 65535 := by
    rw [reached]
    exact fresh.afterReads whole known 65535 (by decide)
  obtain ⟨last, held, counted⟩ := counts.exact
  exact ⟨openOn_eq_opened rfl _ _, counts.readPage_exhausted known, counts.standing, last, held,
    UInt16.toNat.inj counted⟩

end Session
end Wristband
