import Wristband.Proofs.Session.Calls

/-! Sessions whose handshake failed or was ended. Such a session refuses the operations that go
through the access check, but the look-ups of the identifier and of AUTH0 do not. -/

namespace Wristband

variable {τ : Type}

def Frame.AccessesMemory (command : Bytes) : Prop :=
  command.head? = some CommandCode.read.code ∨ command.head? = some CommandCode.write.code

theorem Frame.IsHandshake.not_accessesMemory {command : Bytes}
    (step : Frame.IsHandshake command) : ¬ Frame.AccessesMemory command := by
  unfold Frame.AccessesMemory
  obtain first | second := step
  · rw [first]
    decide
  · rw [second]
    decide

/-- Memory was accessed with a handshake that is not complete. -/
def Transmission.IsUnguarded (sent : Transmission τ) : Prop :=
  sent.IsBarred ∧ Frame.AccessesMemory sent.command

namespace Session

def Spares (exempt : List Bytes) (session : Session τ) : Prop :=
  ∀ sent ∈ session.transcript, sent.IsUnguarded → sent.command ∈ exempt

def IsGuarded (session : Session τ) : Prop :=
  ∀ sent ∈ session.transcript, ¬ sent.IsUnguarded

private theorem spares_nil {session : Session τ} : session.Spares [] ↔ session.IsGuarded :=
  forall₂_congr fun _ _ => imp_congr_right fun _ => by simp

end Session

/-- The call sends a command that accesses memory without asking whether it may. -/
def SessionCall.SkipsCheck (call : SessionCall) (session : Session τ) : Prop :=
  match call with
  | readUid => True
  | auth0 | isProtected => session.auth0 = none
  | readUserMemory page =>
    session.auth0 = none ∧ ∃ pages, userRange page Layout.pageSize = .ok pages
  | _ => False

namespace Session

variable [NfcTag τ] {session : Session τ} {exempt : List Bytes}

theorem exchange_spares {command : Bytes} (spared : session.Spares exempt)
    (allowed : session.IsBarred → Frame.AccessesMemory command → command ∈ exempt) :
    Ensures (exchange command) session
      (fun _ after => after.Spares exempt ∧ (after.IsBarred ↔ session.IsBarred))
      (fun _ after => after.Spares exempt) := by
  have kept {result : Except TagError Bytes} {after : Session τ}
      (exchanged : Exchanged session command result after) : after.Spares exempt := by
    intro sent listed unguarded
    obtain old | ⟨frame, _, rfl⟩ := exchanged.mem_transcript listed
    · exact spared sent old unguarded
    · exact allowed unguarded.1 unguarded.2
  exact ensures_exchange (fun _ _ exchanged => ⟨kept exchanged, exchanged.sameStanding.isBarred⟩)
    fun _ _ exchanged => kept exchanged

/-- While no handshake is incomplete, nothing that a session does is an unguarded access. -/
theorem spares_outlasts (exempt : List Bytes) :
    Outlasts (fun session : Session τ => session.Spares exempt ∧ ¬ session.IsBarred)
      (fun session => session.Spares exempt) where
  weaken _ := And.left
  exchange _ _ holds :=
    (exchange_spares holds.1 fun barred => absurd barred holds.2).onValue
      fun _ _ kept => ⟨kept.1, fun barred => holds.2 (kept.2.mp barred)⟩
  learn _ _ holds := holds

omit [NfcTag τ] in
theorem spares_ofTranscript (exempt : List Bytes) :
    OfTranscript (fun session : Session τ => session.Spares exempt) :=
  fun _ _ same spared sent listed => spared sent (same ▸ listed)

theorem spares_handshakes (exempt : List Bytes) :
    Handshakes (fun session : Session τ => session.Spares exempt) where
  engine _ _ holds := holds
  random _ _ holds := holds
  step _ step _ holds :=
    (exchange_spares holds fun _ access => absurd access step.not_accessesMemory).onValue
      fun _ _ kept => kept.1

private theorem leaked_outlasts :
    Outlasts (fun session : Session τ => ¬ session.IsGuarded)
      (fun session => ¬ session.IsGuarded) where
  weaken _ holds := holds
  exchange _ _ holds := exchange_leaves fun _ _ exchanged guarded =>
    holds fun sent listed => guarded sent (exchanged.transcript_prefix.subset listed)
  learn _ _ holds := holds

omit [NfcTag τ] in
private theorem leaked_ofTranscript : OfTranscript (fun session : Session τ => ¬ session.IsGuarded) :=
  fun _ _ same leaked guarded => leaked fun sent listed => guarded sent (same ▸ listed)

private theorem leaked_handshakes : Handshakes (fun session : Session τ => ¬ session.IsGuarded) where
  engine _ _ holds := holds
  random _ _ holds := holds
  step _ _ := leaked_outlasts.exchange _

private theorem barred_outlasts : Outlasts (fun session : Session τ => session.IsBarred)
    (fun session => session.IsBarred) where
  weaken _ holds := holds
  exchange _ session barred := exchange_leaves fun _ after exchanged => by
    have open_ := barred.channel?_eq_none
    cases exchanged with
    | ended =>
      obtain ⟨engine, held, _⟩ := barred
      exact isBarred_invalidated held
    | opened active | spoilt active => rw [open_] at active; cases active
    | _ => exact barred
  learn _ _ holds := holds

namespace IsBarred

variable (barred : session.IsBarred)
include barred

private theorem ensureAccess_refuses (page : UInt8) (access : Access) :
    session.Refuses (ensureAccess page access) := by
  obtain ⟨engine, held, failed⟩ := barred
  unfold Refuses ensureAccess
  rw [ensures_bind, ensures_get]
  simp only [held, failed, Bool.not_false, if_true]
  exact ensures_throw.mpr rfl

private theorem checkedRead_refuses {α : Type} {next : Bytes → SessionM τ α} (page : UInt8) :
    session.Refuses (do
      let frame ← ofProtocol (Frame.read (← get).family page)
      ensureAccess page .read
      let block ← readBlock frame
      next block) := by
  refine ensures_bind.mpr (ensures_get.mpr (ensures_bind.mpr (ensures_ofProtocol.mpr ?_)))
  cases Frame.read session.family page with
  | error => rfl
  | ok frame => exact (barred.ensureAccess_refuses page .read).bind

private theorem readPage_refuses (page : UInt8) : session.Refuses (readPage page) :=
  barred.checkedRead_refuses page

private theorem readStep_refuses (step : ReadStep) : session.Refuses (readStep step) :=
  barred.checkedRead_refuses step.page

private theorem writePage_refuses (page : UInt8) (data : Bytes) :
    session.Refuses (writePage page data) := by
  refine ensures_bind.mpr (ensures_get.mpr (ensures_bind.mpr (ensures_ofProtocol.mpr ?_)))
  cases Frame.write session.family page data with
  | error => rfl
  | ok frame => exact (barred.ensureAccess_refuses page .write).bind

private theorem setAuth0_refuses (auth0 : UInt8) : session.Refuses (setAuth0 auth0) :=
  ensures_bind.mpr (ensures_get.mpr (barred.readPage_refuses _).bind)

theorem configuration_refuses {α : Type} {next : Bytes → SessionM τ α} (purpose : String)
    (page : UInt8) : session.Refuses (do
      requireAes purpose
      let config ← readPage page
      next config) := by
  refine ensures_bind.mpr (ensures_bind.mpr (ensures_get.mpr ?_))
  split
  · exact ensures_throw.mpr rfl
  · exact ensures_pure.mpr (barred.readPage_refuses page).bind

private theorem writePages_leaves (first : UInt8) (chunks : List Bytes) :
    Keeps (· = session) (· = session) (writePages first chunks) :=
  Keeps.forM _ fun _ _ => (barred.writePage_refuses _ _).leaves

private theorem writeKey_leaves (key : AuthKey) : Keeps (· = session) (· = session) (writeKey key) :=
  Leads.get fun now holds => by
    split
    · exact barred.writePages_leaves _ _ now holds
    · exact (barred.writePages_leaves _ _).bind (fun _ => barred.writePages_leaves _ _) now holds
    · exact ensures_throw.mpr holds

private theorem auth0Page_leaves {auth0 : UInt8} (cached : session.auth0 = some auth0) :
    Keeps (· = session) (· = session) (auth0Page (τ := τ)) := by
  rintro now rfl
  refine ensures_bind.mpr (ensures_get.mpr ?_)
  rw [cached]
  exact ensures_pure.mpr rfl

private theorem readUserMemory_leaves (page : UInt8) (known : ¬ (session.auth0 = none ∧
      ∃ pages, userRange page Layout.pageSize = .ok pages)) :
    Keeps (· = session) (· = session) (readUserMemory page) := by
  rintro _ rfl
  refine ensures_readUserMemory (fun _ same => same) (fun _ _ => rfl) (fun pages fits => ?_)
    fun step => (barred.readStep_refuses step).leaves
  obtain ⟨auth0, cached⟩ := Option.ne_none_iff_exists'.mp fun unknown =>
    known ⟨unknown, pages, fits⟩
  refine ensures_bind.mpr (ensures_get.mpr ?_)
  rw [if_neg (by rw [barred.not_authenticated]; exact Bool.false_ne_true)]
  exact (barred.auth0Page_leaves cached _ rfl).bind fun _ => Leads.pure fun _ kept => kept

private theorem authenticate_refuses (key : AuthKey) (slot : KeySlot) (cmac : Bool) :
    session.Refuses (authenticate key slot cmac) := by
  obtain ⟨engine, held, _⟩ := barred
  refine ensures_bind.mpr (ensures_get.mpr ?_)
  simp only [held, Option.isSome_some, if_true]
  exact ensures_throw.mpr rfl

/-- A call that does not skip the check leaves the session as it is, unless it is about the
connection and not about memory. -/
theorem perform_leaves {call : SessionCall} (checked : ¬ call.SkipsCheck session)
    (memory : call ∉ [.getVersion, .reconnect, .close]) :
    (call.perform.run session).2 = session := by
  have leaves : Keeps (· = session) (· = session) call.perform := by
    cases call with
    | getVersion | reconnect | close => exact absurd (by simp) memory
    | readUid => exact absurd trivial checked
    | authenticate key slot cmac => exact (barred.authenticate_refuses key slot cmac).leaves
    | readPage page => exact (barred.readPage_refuses page).leaves.discard
    | writePage page data => exact (barred.writePage_refuses page data).leaves
    | auth0 =>
      obtain ⟨auth0, cached⟩ := Option.ne_none_iff_exists'.mp checked
      exact (barred.auth0Page_leaves cached).discard
    | setAuth0 page => exact (barred.setAuth0_refuses page).leaves
    | isProtected =>
      obtain ⟨auth0, cached⟩ := Option.ne_none_iff_exists'.mp checked
      exact ((barred.auth0Page_leaves cached).bind fun _ =>
        Leads.get fun _ same => ensures_pure.mpr same).discard
    | cmacRequired => exact (barred.configuration_refuses _ _).leaves.discard
    | setCmac enabled => exact (barred.configuration_refuses _ _).leaves
    | readUserMemory page => exact (barred.readUserMemory_leaves page checked).discard
    | writeUserMemory page data =>
      exact (Leads.ofData fun _ same => same).bind fun _ => barred.writePages_leaves _ _
    | writeKey key => exact barred.writeKey_leaves key
  exact (leaves session rfl).after

private theorem exchange_leaks {command : Bytes} (access : Frame.AccessesMemory command) :
    Ensures (exchange command) session (fun _ after => ¬ after.IsGuarded)
      (fun _ after => ¬ after.IsGuarded) :=
  exchange_leaves fun _ after exchanged guarded => by
    refine guarded ⟨session.tag, session.engine, command, command⟩ ?_ ⟨barred, access⟩
    rw [exchanged.transcript_plain barred.channel?_eq_none]
    exact List.mem_append_right _ (List.mem_singleton_self _)

private theorem auth0Page_leaks (unknown : session.auth0 = none) :
    Ensures auth0Page session (fun _ after => ¬ after.IsGuarded)
      (fun _ after => ¬ after.IsGuarded) :=
  ensures_auth0Page leaked_outlasts.weaken leaked_outlasts.learn unknown
    (barred.exchange_leaks (.inl rfl))

theorem perform_leaks {call : SessionCall} (skips : call.SkipsCheck session) :
    ¬ (call.perform.run session).2.IsGuarded := by
  have leaks : Ensures call.perform session (fun _ after => ¬ after.IsGuarded)
      (fun _ after => ¬ after.IsGuarded) := by
    cases call with
    | readUid =>
      refine Ensures.discard (ensures_bind.mpr (ensures_get.mpr ?_))
      rw [Frame.read_header]
      exact ((barred.exchange_leaks (.inl rfl)).bind fun _ =>
        Leads.ofProtocol fun _ kept => kept).bind fun _ => Leads.ofProtocol fun _ kept => kept
    | auth0 => exact (barred.auth0Page_leaks skips).discard
    | isProtected =>
      exact ((barred.auth0Page_leaks skips).bind fun _ =>
        Leads.get fun _ kept => ensures_pure.mpr kept).discard
    | readUserMemory page =>
      obtain ⟨unknown, pages, fits⟩ := skips
      refine Ensures.discard (ensures_readUserMemory (fun _ kept => kept)
        (fun error fails => nomatch fits.symm.trans fails) (fun _ _ => ?_)
        leaked_outlasts.endures.reads.readStep)
      refine ensures_bind.mpr (ensures_get.mpr ?_)
      rw [if_neg (by rw [barred.not_authenticated]; exact Bool.false_ne_true)]
      exact (barred.auth0Page_leaks unknown).bind fun _ => Leads.pure fun _ kept => kept
    | _ => exact skips.elim
  exact leaks.after

end IsBarred

theorem getVersion_spares : Keeps (fun session : Session τ => session.Spares exempt)
    (fun session => session.Spares exempt) getVersion :=
  fun _ spared => (exchange_spares spared fun _ access => by
    rcases access with wrong | wrong <;> cases wrong).bind
      fun _ => fun after kept => (Leads.ofProtocol fun _ same => same) after kept.1

private theorem isGuarded_perform (session : Session τ) (call : SessionCall) :
    IsGuarded (call.perform.run session).2 ↔
      session.IsGuarded ∧ (session.IsBarred → ¬ call.SkipsCheck session) := by
  constructor
  · intro guarded
    refine ⟨?_, fun barred skips => barred.perform_leaks skips guarded⟩
    have leads := leaked_outlasts.leads_perform (τ := τ) leaked_handshakes leaked_ofTranscript call
    exact Classical.byContradiction fun leaked => (leads session leaked).after guarded
  · rintro ⟨guarded, checked⟩
    rw [← spares_nil] at guarded ⊢
    by_cases barred : session.IsBarred
    · by_cases memory : call ∈ [.getVersion, .reconnect, .close]
      · have harmless : Keeps (fun session : Session τ => session.Spares [])
            (fun session => session.Spares []) call.perform := by
          simp only [List.mem_cons, List.not_mem_nil, or_false] at memory
          obtain rfl | rfl | rfl := memory
          · exact getVersion_spares.discard
          · exact reconnect_keeps (spares_ofTranscript [])
          · exact close_keeps (spares_ofTranscript [])
        exact (harmless session guarded).after
      · rwa [barred.perform_leaves (checked barred) memory]
    · have leads := (spares_outlasts []).leads_perform (τ := τ) (spares_handshakes [])
        (spares_ofTranscript []) call
      exact (leads session ⟨guarded, barred⟩).after

/-- The first call that skips the check of a barred session is what makes a run leak. -/
theorem isGuarded_afterCalls (session : Session τ) (calls : List SessionCall) :
    (session.afterCalls calls).IsGuarded ↔ session.IsGuarded ∧
      ∀ before call after, calls = before ++ call :: after →
        (session.afterCalls before).IsBarred → ¬ call.SkipsCheck (session.afterCalls before) := by
  induction calls generalizing session with
  | nil =>
    refine ⟨fun guarded => ⟨guarded, fun before call after split => ?_⟩, And.left⟩
    exact absurd split.symm (by simp)
  | cons first rest ih =>
    rw [afterCalls_cons, ih, isGuarded_perform, and_assoc]
    refine and_congr_right fun _ => ⟨?_, fun checked => ⟨checked [] first rest rfl, ?_⟩⟩
    · rintro ⟨now, later⟩ before call after split
      cases before with
      | nil =>
        obtain ⟨rfl, rfl⟩ := List.cons.inj split
        exact now
      | cons head before =>
        obtain ⟨rfl, remaining⟩ := List.cons.inj split
        exact later before call after remaining
    · intro before call after split
      exact checked (first :: before) call after (congrArg (first :: ·) split)

theorem IsBarred.afterCalls {calls : List SessionCall} (barred : session.IsBarred)
    (connected : .reconnect ∉ calls) (open_ : .close ∉ calls) :
    (session.afterCalls calls).IsBarred := by
  induction calls generalizing session with
  | nil => exact barred
  | cons call calls ih =>
    rw [List.mem_cons, not_or] at connected open_
    refine ih ?_ connected.2 open_.2
    cases plain : call.changesHandshake with
    | false => exact (barred_outlasts.endures.perform call plain session barred).after
    | true =>
      cases call with
      | authenticate key slot cmac =>
        have same := ((barred.authenticate_refuses key slot cmac).leaves session rfl).after
        change IsBarred ((authenticate key slot cmac).run session).2
        rwa [same]
      | reconnect => exact absurd rfl connected.1
      | close => exact absurd rfl open_.1
      | _ => cases plain

end Session
end Wristband
