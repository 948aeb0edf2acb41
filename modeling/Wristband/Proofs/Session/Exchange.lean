import Wristband.Proofs.Handshake.Channel
import Wristband.Proofs.Session.Logic

/-! What one exchange with the tag can do to a session. A session sends at most one frame for
a command, and its handshake survives the exchange unless the exchange is what ends it. -/

namespace Wristband

/-- The frame went out with a handshake that is not complete, or no longer. -/
def Transmission.IsBarred {τ : Type} (sent : Transmission τ) : Prop :=
  ∃ engine, sent.engine = some engine ∧ engine.isAuthenticated = false

def Transmission.IsAuthenticated {τ : Type} (sent : Transmission τ) : Prop :=
  ∃ engine, sent.engine = some engine ∧ engine.isAuthenticated = true

namespace Session

variable {τ : Type} {session after : Session τ}

/-- The session ran a handshake that failed, or that the tag has ended. -/
def IsBarred (session : Session τ) : Prop :=
  ∃ engine, session.engine = some engine ∧ engine.isAuthenticated = false

theorem isAuthenticated_iff : session.isAuthenticated = true ↔
    ∃ engine, session.engine = some engine ∧ engine.isAuthenticated = true := by
  unfold isAuthenticated
  cases session.engine <;> simp

theorem channel?_eq_some {channel : SecureChannel} : session.channel? = some channel ↔
    ∃ engine, session.engine = some engine ∧ engine.channel? = some channel :=
  Option.bind_eq_some_iff

theorem isAuthenticated_of_channel? {channel : SecureChannel}
    (active : session.channel? = some channel) : session.isAuthenticated = true := by
  obtain ⟨engine, held, active⟩ := channel?_eq_some.mp active
  exact isAuthenticated_iff.mpr ⟨engine, held, Engine.isAuthenticated_of_channel? active⟩

theorem not_isBarred_iff : ¬ session.IsBarred ↔
    session.engine = none ∨ session.isAuthenticated = true := by
  unfold IsBarred isAuthenticated
  cases session.engine <;> simp

theorem isBarred_invalidated {engine : Engine} (held : session.engine = some engine) :
    session.dropAuthentication.IsBarred := by
  refine ⟨engine.invalidate, ?_, engine.not_authenticated_invalidate⟩
  rw [dropAuthentication, held, Option.map_some]

theorem IsBarred.not_authenticated (barred : session.IsBarred) :
    session.isAuthenticated = false := by
  obtain ⟨engine, held, failed⟩ := barred
  simp only [isAuthenticated, held, failed]

theorem IsBarred.channel?_eq_none (barred : session.IsBarred) : session.channel? = none := by
  cases active : session.channel? with
  | none => rfl
  | some channel =>
    have authenticated := isAuthenticated_of_channel? active
    rw [barred.not_authenticated] at authenticated
    cases authenticated

def SameStanding (before after : Session τ) : Prop :=
  after.engine.map Engine.isAuthenticated = before.engine.map Engine.isAuthenticated

theorem SameStanding.isBarred (same : SameStanding session after) :
    after.IsBarred ↔ session.IsBarred := by
  unfold SameStanding at same
  unfold IsBarred
  cases held : session.engine <;> cases kept : after.engine <;> simp_all

theorem SameStanding.isAuthenticated (same : SameStanding session after) :
    after.isAuthenticated = session.isAuthenticated := by
  unfold SameStanding at same
  unfold Session.isAuthenticated
  cases held : session.engine <;> cases kept : after.engine <;> simp_all

variable [NfcTag τ]

def sending (session : Session τ) (command frame : Bytes) : Session τ :=
  { session with
    tag := (NfcTag.transceive session.tag frame).2
    transcript := session.transcript ++ [⟨session.tag, session.engine, command, frame⟩] }

def Carries (session : Session τ) (command frame : Bytes) : Prop :=
  match session.channel? with
  | none => frame = command
  | some channel => channel.sealCommand command = .ok frame

omit [NfcTag τ] in
/-- The frame begins with its command, and what may follow is a code. -/
theorem Carries.exists_code {command frame : Bytes} (carries : session.Carries command frame) :
    ∃ code, frame = command ++ code := by
  unfold Carries at carries
  split at carries
  · exact ⟨[], carries.trans (List.append_nil _).symm⟩
  · exact ⟨_, SecureChannel.sealCommand_eq_ok carries⟩

inductive Exchanged (session : Session τ) (command : Bytes) :
    Except TagError Bytes → Session τ → Prop where
  | exhausted {channel : SecureChannel} {error : ProtocolError}
      (active : session.channel? = some channel)
      (refused : channel.sealCommand command = .error error) :
      Exchanged session command (.error (.protocol error)) session
  | unanswered {frame : Bytes} {error : HardwareError} (carries : session.Carries command frame)
      (lost : (NfcTag.transceive session.tag frame).1 = .error error) :
      Exchanged session command (.error (.hardware error)) (session.sending command frame)
  | plain {response : Bytes} (open_ : session.channel? = none)
      (heard : (NfcTag.transceive session.tag command).1 = .ok response)
      (accepted : session.isAuthenticated = true → ∀ status, response = [status] →
        status = Layout.ack) :
      Exchanged session command (.ok response) (session.sending command command)
  | ended {frame : Bytes} {status : UInt8} (carries : session.Carries command frame)
      (authenticated : session.isAuthenticated = true)
      (heard : (NfcTag.transceive session.tag frame).1 = .ok [status])
      (refusal : session.channel? = none → status ≠ Layout.ack) :
      Exchanged session command
        (.error (.auth ("tag ended the authenticated session with NAK " ++ Hex.marked status)))
        (session.sending command frame).dropAuthentication
  | opened {channel next : SecureChannel} {frame response payload : Bytes}
      (active : session.channel? = some channel)
      (carries : channel.sealCommand command = .ok frame)
      (heard : (NfcTag.transceive session.tag frame).1 = .ok response)
      (genuine : channel.openResponse response = .ok (payload, next)) :
      Exchanged session command (.ok payload) ((session.sending command frame).setChannel next)
  | spoilt {channel : SecureChannel} {frame response : Bytes} {error : ProtocolError}
      (active : session.channel? = some channel)
      (carries : channel.sealCommand command = .ok frame)
      (heard : (NfcTag.transceive session.tag frame).1 = .ok response)
      (refused : channel.openResponse response = .error error) :
      Exchanged session command (.error (.protocol error))
        (session.sending command frame).dropAuthentication

private theorem ensures_transmit {command frame : Bytes} {done : Bytes → Session τ → Prop}
    {failed : TagError → Session τ → Prop} :
    Ensures (transmit command frame) session done failed ↔
      match (NfcTag.transceive session.tag frame).1 with
      | .ok response => done response (session.sending command frame)
      | .error error => failed (.hardware error) (session.sending command frame) := by
  unfold transmit
  simp only [ensures_bind, ensures_get, ensures_set, ensures_ofHardware]
  cases (NfcTag.transceive session.tag frame).1 <;> rfl

omit [NfcTag τ] in
private theorem ensures_endAuthentication {status : UInt8} {done : Bytes → Session τ → Prop}
    {failed : TagError → Session τ → Prop} :
    Ensures (endAuthentication status) session done failed ↔
      failed (.auth ("tag ended the authenticated session with NAK " ++ Hex.marked status))
        session.dropAuthentication := by
  unfold endAuthentication
  simp only [ensures_bind, ensures_modify, ensures_throw]

private theorem exchangePlain_exchanged (open_ : session.channel? = none) (command : Bytes) :
    Ensures (exchangePlain command) session
      (fun response after => Exchanged session command (.ok response) after)
      (fun error after => Exchanged session command (.error error) after) := by
  have carries : session.Carries command command := by simp only [Carries, open_]
  unfold exchangePlain
  rw [ensures_bind, ensures_transmit]
  cases heard : (NfcTag.transceive session.tag command).1 with
  | error error => exact .unanswered carries heard
  | ok response =>
    dsimp only
    split
    next status =>
      simp only [ensures_bind, ensures_get]
      split
      next refused =>
        exact ensures_endAuthentication.mpr
          (.ended carries refused.1 heard fun _ => refused.2)
      next accepted =>
        refine .plain open_ heard fun authenticated other same => ?_
        obtain rfl : status = other := List.singleton_inj.mp same
        exact Decidable.not_not.mp fun different => accepted ⟨authenticated, different⟩
    next several =>
      exact .plain open_ heard fun _ status same => absurd same (several status)

private theorem exchangeSealed_exchanged {channel : SecureChannel}
    (active : session.channel? = some channel) (command : Bytes) :
    Ensures (exchangeSealed channel command) session
      (fun response after => Exchanged session command (.ok response) after)
      (fun error after => Exchanged session command (.error error) after) := by
  unfold exchangeSealed
  rw [ensures_bind, ensures_ofProtocol]
  cases carried : channel.sealCommand command with
  | error error => exact .exhausted active carried
  | ok frame =>
    have carries : session.Carries command frame := by simpa only [Carries, active] using carried
    dsimp only
    rw [ensures_bind, ensures_transmit]
    cases heard : (NfcTag.transceive session.tag frame).1 with
    | error error => exact .unanswered carries heard
    | ok response =>
      dsimp only
      split
      next status =>
        refine ensures_endAuthentication.mpr
          (.ended carries (isAuthenticated_of_channel? active) heard fun open_ => ?_)
        rw [open_] at active
        cases active
      next =>
        cases genuine : channel.openResponse response with
        | error error =>
          simp only [ensures_bind, ensures_modify, ensures_throw]
          exact .spoilt active carried heard genuine
        | ok opened =>
          simp only [ensures_bind, ensures_modify, ensures_pure]
          exact .opened active carried heard genuine

theorem exchange_exchanged (session : Session τ) (command : Bytes) :
    Ensures (exchange command) session
      (fun response after => Exchanged session command (.ok response) after)
      (fun error after => Exchanged session command (.error error) after) := by
  unfold exchange
  rw [ensures_bind, ensures_get]
  cases found : session.channel? with
  | none => exact exchangePlain_exchanged found command
  | some channel => exact exchangeSealed_exchanged found command

theorem ensures_exchange {command : Bytes} {done : Bytes → Session τ → Prop}
    {failed : TagError → Session τ → Prop}
    (onValue : ∀ response after, Exchanged session command (.ok response) after →
      done response after)
    (onError : ∀ error after, Exchanged session command (.error error) after →
      failed error after) :
    Ensures (exchange command) session done failed :=
  (exchange_exchanged session command).weaken onValue onError

theorem exchange_leaves {command : Bytes} {kept : Session τ → Prop}
    (each : ∀ result after, Exchanged session command result after → kept after) :
    Ensures (exchange command) session (fun _ => kept) (fun _ => kept) :=
  ensures_exchange (fun _ => each _) fun _ => each _

theorem run_transmit (session : Session τ) (command frame : Bytes) :
    (transmit command frame).run session =
      ((NfcTag.transceive session.tag frame).1.mapError .hardware,
        session.sending command frame) := by
  unfold transmit
  rw [run_bind]
  change (Session.ofHardware (NfcTag.transceive session.tag frame).1).run _ = _
  cases (NfcTag.transceive session.tag frame).1 <;> rfl

def received (session : Session τ) (channel : SecureChannel) :
    Bytes → Except TagError Bytes × Session τ
  | [status] =>
    (.error (.auth ("tag ended the authenticated session with NAK " ++ Hex.marked status)),
      session.dropAuthentication)
  | response =>
    match channel.openResponse response with
    | .ok (payload, next) => (.ok payload, session.setChannel next)
    | .error error => (.error (.protocol error), session.dropAuthentication)

theorem run_exchange_sealed {channel : SecureChannel} {command frame response : Bytes}
    (active : session.channel? = some channel) (sealed_ : channel.sealCommand command = .ok frame)
    (heard : (NfcTag.transceive session.tag frame).1 = .ok response) :
    (exchange command).run session =
      (session.sending command frame).received channel response := by
  have sent : (exchange command).run session = (exchangeSealed channel command).run session := by
    change (match session.channel? with
      | none => exchangePlain command
      | some channel => exchangeSealed channel command).run session = _
    rw [active]
  rw [sent, exchangeSealed, sealed_]
  change (transmit command frame >>= _ : SessionM τ Bytes).run session = _
  have taken : Except.mapError TagError.hardware (.ok response) = .ok response := rfl
  rw [run_bind, run_transmit, heard, taken]
  dsimp only
  rcases response with _ | ⟨status, _ | ⟨second, rest⟩⟩
  · dsimp only [received]
    rcases channel.openResponse [] with _ | ⟨_, _⟩ <;> rfl
  · rfl
  · dsimp only [received]
    rcases channel.openResponse (status :: second :: rest) with _ | ⟨_, _⟩ <;> rfl

theorem run_exchange_exhausted {channel : SecureChannel} {command : Bytes} {error : ProtocolError}
    (active : session.channel? = some channel)
    (refused : channel.sealCommand command = .error error) :
    (exchange command).run session = (.error (.protocol error), session) := by
  change (match session.channel? with
    | none => exchangePlain command
    | some channel => exchangeSealed channel command).run session = _
  rw [active]
  dsimp only
  rw [exchangeSealed, refused]
  rfl

/-- A refusal ends an authenticated session, with a secure channel and without. -/
theorem exchange_ended {command frame : Bytes} {status : UInt8}
    (authenticated : session.isAuthenticated = true) (carries : session.Carries command frame)
    (heard : (NfcTag.transceive session.tag frame).1 = .ok [status]) (refusal : status ≠ Layout.ack) :
    Ensures (exchange command) session (fun _ _ => False) (fun error after =>
      error = .auth ("tag ended the authenticated session with NAK " ++ Hex.marked status) ∧
        after = (session.sending command frame).dropAuthentication) := by
  unfold exchange
  rw [ensures_bind, ensures_get]
  cases active : session.channel? with
  | none =>
    obtain rfl : frame = command := by simpa only [Carries, active] using carries
    have standing : (session.sending frame frame).isAuthenticated = true := authenticated
    unfold exchangePlain
    rw [ensures_bind, ensures_transmit, heard]
    dsimp only
    rw [ensures_bind, ensures_get, if_pos ⟨standing, refusal⟩, ensures_endAuthentication]
    exact ⟨rfl, rfl⟩
  | some channel =>
    have sealed_ : channel.sealCommand command = .ok frame := by
      simpa only [Carries, active] using carries
    unfold exchangeSealed
    rw [ensures_bind, ensures_ofProtocol, sealed_]
    dsimp only
    rw [ensures_bind, ensures_transmit, heard]
    exact ensures_endAuthentication.mpr ⟨rfl, rfl⟩

/-- Without an authenticated handshake a command goes out as it is, and its answer comes back as
it is. -/
theorem exchange_unauthenticated (waiting : session.isAuthenticated = false) (command : Bytes) :
    Ensures (exchange command) session
      (fun response after => (NfcTag.transceive session.tag command).1 = .ok response ∧
        after = session.sending command command)
      (fun _ after => (∃ error, (NfcTag.transceive session.tag command).1 = .error error) ∧
        after = session.sending command command) := by
  have open_ : session.channel? = none := by
    cases active : session.channel? with
    | none => rfl
    | some channel =>
      have authenticated := isAuthenticated_of_channel? active
      rw [waiting] at authenticated
      cases authenticated
  have bare {frame : Bytes} (carries : session.Carries command frame) : frame = command := by
    simpa only [Carries, open_] using carries
  apply ensures_exchange
  · intro response after exchanged
    cases exchanged with
    | plain _ heard => exact ⟨heard, rfl⟩
    | opened active =>
      rw [open_] at active
      cases active
  · intro error after exchanged
    cases exchanged with
    | unanswered carries lost =>
      obtain rfl := bare carries
      exact ⟨⟨_, lost⟩, rfl⟩
    | ended _ authenticated =>
      rw [waiting] at authenticated
      cases authenticated
    | exhausted active | spoilt active =>
      rw [open_] at active
      cases active

variable {command : Bytes} {result : Except TagError Bytes}

theorem Exchanged.sameStanding {response : Bytes}
    (exchanged : Exchanged session command (.ok response) after) : SameStanding session after := by
  cases exchanged with
  | plain => rfl
  | opened =>
    unfold SameStanding setChannel sending
    cases session.engine <;> simp

theorem Exchanged.family (exchanged : Exchanged session command result after) :
    after.family = session.family := by
  cases exchanged <;> rfl

theorem Exchanged.auth0 (exchanged : Exchanged session command result after) :
    after.auth0 = session.auth0 := by
  cases exchanged <;> rfl

theorem Exchanged.engine_eq_none (exchanged : Exchanged session command result after) :
    after.engine = none ↔ session.engine = none := by
  cases exchanged with
  | ended | spoilt | opened => exact Option.map_eq_none_iff
  | _ => exact Iff.rfl

/-- At most one frame goes out, for the command and under the handshake that the session had. -/
theorem Exchanged.transmission (exchanged : Exchanged session command result after) :
    after.tag = session.tag ∧ after.transcript = session.transcript ∨
      ∃ frame, session.Carries command frame ∧
        after.tag = (NfcTag.transceive session.tag frame).2 ∧
        after.transcript = session.transcript ++
          [⟨session.tag, session.engine, command, frame⟩] := by
  cases exchanged with
  | exhausted => exact .inl ⟨rfl, rfl⟩
  | unanswered carries => exact .inr ⟨_, carries, rfl, rfl⟩
  | plain open_ => exact .inr ⟨_, by simp only [Carries, open_], rfl, rfl⟩
  | ended carries => exact .inr ⟨_, carries, rfl, rfl⟩
  | opened active carries =>
    exact .inr ⟨_, by simpa only [Carries, active] using carries, rfl, rfl⟩
  | spoilt active carries =>
    exact .inr ⟨_, by simpa only [Carries, active] using carries, rfl, rfl⟩

theorem Exchanged.mem_transcript (exchanged : Exchanged session command result after)
    {sent : Transmission τ} (listed : sent ∈ after.transcript) : sent ∈ session.transcript ∨
      ∃ frame, session.Carries command frame ∧
        sent = ⟨session.tag, session.engine, command, frame⟩ := by
  obtain ⟨_, same⟩ | ⟨frame, carries, _, grown⟩ := exchanged.transmission
  · exact .inl (same ▸ listed)
  · rw [grown] at listed
    obtain old | new := List.mem_append.mp listed
    · exact .inl old
    · exact .inr ⟨frame, carries, List.mem_singleton.mp new⟩

theorem Exchanged.transcript_prefix (exchanged : Exchanged session command result after) :
    session.transcript <+: after.transcript := by
  obtain ⟨_, same⟩ | ⟨_, _, _, grown⟩ := exchanged.transmission
  · exact same ▸ List.prefix_rfl
  · rw [grown]
    exact List.prefix_append _ _

theorem Exchanged.transcript_plain (exchanged : Exchanged session command result after)
    (open_ : session.channel? = none) : after.transcript =
      session.transcript ++ [⟨session.tag, session.engine, command, command⟩] := by
  have bare {frame : Bytes} (carries : session.Carries command frame) : frame = command := by
    simpa only [Carries, open_] using carries
  have closed {channel : SecureChannel} (active : session.channel? = some channel) : False := by
    rw [open_] at active
    cases active
  cases exchanged with
  | exhausted active => exact (closed active).elim
  | unanswered carries => obtain rfl := bare carries; rfl
  | plain => rfl
  | ended carries => obtain rfl := bare carries; rfl
  | opened active => exact (closed active).elim
  | spoilt active => exact (closed active).elim

end Session
end Wristband
