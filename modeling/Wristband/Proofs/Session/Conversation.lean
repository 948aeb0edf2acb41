import Wristband.Proofs.Session.Effects
import Wristband.Proofs.Tag.Ready

/-! A session and a tag without faults that take each other for the same: both for strangers, or both
for authenticated, with one channel or with none. Every command that the tag carries out is answered
then, and they still take each other for the same. -/

namespace Wristband

namespace SimulatedTag

/-- A tag like the image carries a command out, and is like another image then. -/
def Carries (image : SimulatedTag) (authenticated : Bool) (command payload : Bytes)
    (next : SimulatedTag) : Prop :=
  next.chip = image.chip ∧ ∀ tag : SimulatedTag, tag.Resembles image →
    tag.isAuthenticated = authenticated →
      (tag.execute command).1 = .data payload ∧ (tag.execute command).2.memory = next.memory

end SimulatedTag

namespace Session

section

variable {τ : Type} [NfcTag τ] {session : Session τ} {command response : Bytes} {left : τ}

/-- An answer that is known, to a command without a code. -/
theorem exchange_plain (open_ : session.channel? = none)
    (answered : NfcTag.transceive session.tag command = (.ok response, left))
    (accepted : session.isAuthenticated = true → ∀ status, response = [status] →
      status = Layout.ack) :
    Ensures (exchange command) session
      (fun value after => value = response ∧ after = session.sending command command ∧
        Exchanged session command (.ok response) after)
      (fun _ _ => False) := by
  have bare {frame : Bytes} (carries : session.Carries command frame) : frame = command := by
    simpa only [Session.Carries, open_] using carries
  refine ensures_exchange (fun value after exchanged => ?_) fun error after exchanged => ?_
  · cases exchanged with
    | plain _ heard =>
      rw [answered] at heard
      cases heard
      exact ⟨rfl, rfl, .plain open_ (by rw [answered]) accepted⟩
    | opened active =>
      rw [open_] at active
      cases active
  · cases exchanged with
    | exhausted active | spoilt active =>
      rw [open_] at active
      cases active
    | unanswered carries lost =>
      obtain rfl := bare carries
      rw [answered] at lost
      cases lost
    | ended carries authenticated heard refusal =>
      obtain rfl := bare carries
      rw [answered] at heard
      cases heard
      exact refusal open_ (accepted authenticated _ rfl)

/-- An answer that is known, to a command with a code. -/
theorem exchange_sealed {channel : SecureChannel} (active : session.channel? = some channel)
    (fresh : channel.counter ≠ SecureChannel.lastCounter) (sized : channel.sessionKey.length = 16)
    (answered : NfcTag.transceive session.tag (command ++ channel.code channel.counter command) =
      (.ok (response ++ channel.code (channel.counter + 1) response), left)) :
    Ensures (exchange command) session
      (fun value after => value = response ∧
        after = (session.sending command (command ++ channel.code channel.counter command)).setChannel
          channel.advanced ∧
        Exchanged session command (.ok response) after)
      (fun _ _ => False) := by
  have sent := SecureChannel.sealCommand_ok fresh command
  have opens := SecureChannel.openResponse_ok fresh sized response
  have only {other : SecureChannel} (active_ : session.channel? = some other) : other = channel :=
    Option.some.inj (active_.symm.trans active)
  have carried {frame : Bytes} (carries : session.Carries command frame) :
      frame = command ++ channel.code channel.counter command := by
    simp only [Session.Carries, active, sent] at carries
    exact (Except.ok.inj carries).symm
  refine ensures_exchange (fun value after exchanged => ?_) fun error after exchanged => ?_
  · cases exchanged with
    | plain open_ =>
      rw [open_] at active
      cases active
    | opened active_ carries heard genuine =>
      obtain rfl := only active_
      rw [sent] at carries
      cases carries
      rw [answered] at heard
      cases heard
      rw [opens] at genuine
      cases genuine
      exact ⟨rfl, rfl, .opened active sent (by rw [answered]) opens⟩
  · cases exchanged with
    | exhausted active_ refused =>
      obtain rfl := only active_
      rw [sent] at refused
      cases refused
    | unanswered carries lost =>
      obtain rfl := carried carries
      rw [answered] at lost
      cases lost
    | ended carries _ heard =>
      obtain rfl := carried carries
      rw [answered] at heard
      have short := congrArg List.length (Except.ok.inj heard)
      rw [List.length_append, channel.length_code sized] at short
      have long : 1 < 8 := by decide
      exact absurd short (Nat.ne_of_gt (Nat.lt_of_lt_of_le long (Nat.le_add_left _ _)))
    | spoilt active_ carries heard refused =>
      obtain rfl := only active_
      rw [sent] at carries
      cases carries
      rw [answered] at heard
      cases heard
      rw [opens] at refused
      cases refused

end

variable {image next : SimulatedTag} {authenticated : Bool} {spent : Nat}
  {session after : Session SimulatedTag} {command payload : Bytes} {page : UInt8}
  {result : Except TagError Bytes}

theorem Exchanged.ready (exchanged : Exchanged session command result after)
    (ready : session.tag.Ready) : after.tag.Ready := by
  obtain ⟨sameTag, _⟩ | ⟨frame, _, sameTag, _⟩ := exchanged.transmission
  · rw [sameTag]
    exact ready
  · rw [sameTag]
    exact ready.transceive frame

/-- A tag that is there is there again on a new connection, and neither side knows the other. -/
theorem ensures_reconnect (ready : session.tag.Ready) :
    Ensures reconnect session
      (fun _ after => after = { session with
        tag := { session.tag.unauthenticated with
          connected := true
          connects := session.tag.connects + 1
          closes := session.tag.closes + 1 }
        engine := none
        auth0 := none })
      (fun _ _ => False) := by
  have present : session.tag.lost = false := ready.present
  have closes : (NfcTag.close session.tag).1 = .ok () := rfl
  have connects : NfcTag.connect (NfcTag.close session.tag).2 =
      (.ok (), { session.tag.unauthenticated with
        connected := true
        connects := session.tag.connects + 1
        closes := session.tag.closes + 1 }) := by
    have here : ¬ (NfcTag.close session.tag).2.lost = true := by
      change ¬ session.tag.lost = true
      rw [present]
      exact Bool.false_ne_true
    exact if_neg here
  simp only [reconnect, closeTag, connectTag, ensures_bind, ensures_modify, ensures_get,
    ensures_set, ensures_ofHardware, closes, connects]

/-- The session and its tag agree on everything, and so many exchanges have been counted at most. -/
structure Converses (image : SimulatedTag) (authenticated : Bool) (spent : Nat)
    (session : Session SimulatedTag) : Prop extends WorksOn image session where
  ready : session.tag.Ready
  learned : ∀ auth0, session.auth0 = some auth0 → auth0 = image.auth0
  standing : session.isAuthenticated = authenticated
  free : authenticated = false → session.engine = none
  alike : session.tag.isAuthenticated = authenticated
  channels : session.tag.channel? = session.channel?
  counted : ∀ channel, session.channel? = some channel → channel.counter.toNat ≤ spent

namespace Converses

variable (converses : session.Converses image authenticated spent)
include converses

theorem mono {more : Nat} (enough : spent ≤ more) : session.Converses image authenticated more :=
  { converses with
    counted := fun channel active => Nat.le_trans (converses.counted channel active) enough }

private theorem heard (frame : Bytes) : (session.tag.heard frame).Resembles image :=
  ⟨converses.resembles.chip, converses.resembles.memory⟩

private theorem afterExchange {response : Bytes}
    (exchanged : Exchanged session command (.ok response) after)
    (resembles : after.tag.Resembles next) (sameAuth0 : next.auth0 = image.auth0)
    (alike : after.tag.isAuthenticated = authenticated)
    (channels : after.tag.channel? = after.channel?)
    (counted : ∀ channel, after.channel? = some channel → channel.counter.toNat ≤ spent + 1) :
    after.Converses next authenticated (spent + 1) where
  family := by
    rw [exchanged.family, converses.family, ← resembles.family]
    exact (congrArg Chip.family (exchanged.chip.trans converses.resembles.chip)).symm
  resembles := resembles
  sized := exchanged.hasSizedCodes converses.sized
  ready := exchanged.ready converses.ready
  learned auth0 cached := by
    rw [exchanged.auth0] at cached
    exact (converses.learned auth0 cached).trans sameAuth0.symm
  standing := exchanged.sameStanding.isAuthenticated.trans converses.standing
  free strange := exchanged.engine_eq_none.mpr (converses.free strange)
  alike := alike
  channels := channels
  counted := counted

/-- What is carried out is answered. Unless it changes AUTH0, both sides go on as before. -/
theorem exchange (room : spent < 65535) (request : Frame.IsRequest command)
    (accepted : ∀ status, payload = [status] → status = Layout.ack)
    (carries : image.Carries authenticated command payload next) :
    Ensures (exchange command) session
      (fun response after => response = payload ∧ after.tag.Resembles next ∧
        (next.auth0 = image.auth0 → after.Converses next authenticated (spent + 1)))
      (fun _ _ => False) := by
  obtain ⟨sameChip, carries⟩ := carries
  have data (frame : Bytes) := carries _ (converses.heard frame) converses.alike
  have resembles {response : Bytes} {after : Session SimulatedTag}
      (exchanged : Exchanged session command (.ok response) after)
      (memory : after.tag.memory = next.memory) : after.tag.Resembles next :=
    ⟨(exchanged.chip.trans converses.resembles.chip).trans sameChip.symm, memory⟩
  cases active : session.channel? with
  | none =>
    have closed : session.tag.channel? = none := converses.channels.trans active
    obtain ⟨left, answered, kept, memory⟩ :=
      converses.ready.answers_plain closed request (data command).1
    refine (exchange_plain active answered fun _ => accepted).onValue ?_
    rintro _ _ ⟨rfl, rfl, exchanged⟩
    have leftTag : (session.sending command command).tag = left := congrArg Prod.snd answered
    have same := resembles exchanged ((congrArg _ leftTag).trans (memory.trans (data command).2))
    refine ⟨rfl, same, fun sameAuth0 => converses.afterExchange exchanged same sameAuth0 ?_ ?_ ?_⟩
    · rw [leftTag, SimulatedTag.isAuthenticated, kept]
      exact converses.alike
    · rw [leftTag, SimulatedTag.channel?_congr kept]
      exact converses.channels
    · exact fun channel active => Nat.le_succ_of_le (converses.counted channel active)
  | some channel =>
    have activeTag : session.tag.channel? = some channel := converses.channels.trans active
    have below := converses.counted channel active
    have fresh : channel.counter ≠ SecureChannel.lastCounter := by
      intro last
      rw [last] at below
      exact absurd room (Nat.not_lt.mpr below)
    have sized := converses.sized channel active
    obtain ⟨left, answered, kept, memory⟩ := converses.ready.answers_sealed activeTag fresh sized
      request rfl (data _).1
    refine (exchange_sealed active fresh sized answered).onValue ?_
    rintro _ _ ⟨rfl, rfl, exchanged⟩
    have leftTag : ((session.sending command (command ++ channel.code channel.counter command)).setChannel
      channel.advanced).tag = left := congrArg Prod.snd answered
    have moved : ((session.sending command (command ++ channel.code channel.counter command)).setChannel
      channel.advanced).channel? = some channel.advanced := channel?_setChannel active _
    have same := resembles exchanged ((congrArg _ leftTag).trans (memory.trans (data _).2))
    refine ⟨rfl, same, fun sameAuth0 => converses.afterExchange exchanged same sameAuth0 ?_ ?_ ?_⟩
    · rw [leftTag, SimulatedTag.isAuthenticated, kept]
      exact (isAuthenticated_of_channel? active).symm.trans converses.standing
    · rw [leftTag, moved, SimulatedTag.channel?, kept]
    · intro next active_
      rw [moved] at active_
      cases active_
      rw [SecureChannel.counter_advanced fresh]
      exact Nat.succ_le_succ below

/-- A stranger is refused in the clear. -/
theorem exchange_refused (strange : authenticated = false) (nothing : Frame.StoresNothing command)
    (refuses : ∀ tag : SimulatedTag, tag.Resembles image → tag.isAuthenticated = false →
      (tag.execute command).1 = SimulatedTag.refused) :
    Ensures (Session.exchange command) session
      (fun response after => response = [SimulatedTag.nakRefused] ∧ after.tag.Resembles image)
      (fun _ _ => False) := by
  subst strange
  have open_ : session.channel? = none := by
    rw [channel?, converses.free rfl]
    rfl
  have closed : session.tag.channel? = none := converses.channels.trans open_
  have nak := refuses _ (converses.heard command) converses.alike
  obtain ⟨left, answered, _⟩ := converses.ready.refuses_plain closed nak
  refine (exchange_plain open_ answered fun authenticated => ?_).onValue ?_
  · rw [converses.standing] at authenticated
    cases authenticated
  · rintro _ _ ⟨rfl, rfl, exchanged⟩
    exact ⟨rfl, (converses.toIsOn.exchanged nothing exchanged).resembles⟩

end Converses
end Session
end Wristband
