import Wristband.Broker.Dispatch
import Wristband.Proofs.Session.Calls

/-! What requests leave to an argument about sessions. Every request but a diagnosis stops at
its first error, and another key is only tried on a new connection. A diagnosis goes on, so
what is kept there has to be kept by errors as well. -/

namespace Wristband

def ScanRequest.IsKeyless : ScanRequest → Prop
  | read _ none _ | write _ _ none _ | writeKey none _ _ | writeProtect none _ _
  | writeCmac none _ _ => True
  | _ => False

namespace Scan

open Session

variable {τ : Type} [NfcTag τ] {α : Type}
  {start during afterwards kept known : Session τ → Prop}

/-- What properties of sessions have to survive for the sake of the requests that only read and stop
at their first error: one until a handshake succeeds, another from then on, and the last one after an
error. -/
structure Retrieves (start during afterwards : Session τ → Prop) : Prop extends
    Reads during afterwards where
  begun : ∀ session, start session → afterwards session
  authenticate : ∀ key slot cmac, Leads start during afterwards (authenticate key slot cmac)
  reconnect : Leads afterwards start afterwards reconnect

structure Serves (start during afterwards : Session τ → Prop) : Prop extends
    Writes during afterwards where
  begun : ∀ session, start session → afterwards session
  authenticate : ∀ key slot cmac, Leads start during afterwards (authenticate key slot cmac)
  setAuth0 : ∀ page, Leads during afterwards afterwards (setAuth0 page)
  setCmac : ∀ enabled, Leads during afterwards afterwards (setCmac enabled)
  reconnect : Leads afterwards start afterwards reconnect

/-- A session without a handshake, or with a complete one, is all that a request needs. -/
theorem serves_of_outlasts (outlasts : Outlasts during afterwards)
    (handshakes : Handshakes afterwards) (decided : OfTranscript afterwards)
    (ready : ∀ session, afterwards session →
      session.engine = none ∨ session.isAuthenticated = true → during session) :
    Serves during during afterwards where
  toWrites := outlasts.endures.writes
  begun := outlasts.weaken
  authenticate key slot cmac session holds :=
    (handshakes.authenticate key slot cmac session (outlasts.weaken session holds)).onValue
      fun _ after left => ready after left.1 (.inr left.2)
  setAuth0 page := (outlasts.endures.setAuth0 page).onValue outlasts.weaken
  setCmac enabled := (outlasts.endures.setCmac enabled).onValue outlasts.weaken
  reconnect := (reconnect_leads decided).onValue
    fun session left => ready session left.1 (.inl left.2)

/-- A key that was refused leaves what an error leaves. -/
theorem ensures_tryKey {key : AuthKey} {cmac : Bool} {session : Session τ}
    (tried : Ensures (Session.authenticate key .dataProtection cmac) session (fun _ => during)
      (fun _ => afterwards)) :
    Ensures (tryKey key cmac) session
      (fun accepted after => if accepted then during after else afterwards after)
      (fun _ => afterwards) := by
  refine ensures_tryCatch.mpr ?_
  refine (tried.bind fun _ after kept => ensures_pure.mpr kept).onError fun error after left => ?_
  split
  · exact ensures_pure.mpr left
  · exact ensures_throw.mpr left

theorem keeps_readFrom (reads : Reads during afterwards) (page : UInt8) :
    Keeps during afterwards (readFrom (τ := τ) page) :=
  reads.readUid.bind fun _ => reads.isProtected.bind fun _ =>
    (reads.readUserMemory page).bind fun _ => Leads.pure fun _ holds => holds

namespace Retrieves

variable (retrieves : Retrieves start during afterwards)
include retrieves

private theorem authenticateWith {key : Option AuthKey}
    (keyless : key = none → ∀ session, start session → during session) (cmac : Bool) :
    Leads start during afterwards (authenticateWith (τ := τ) key cmac) := by
  cases key with
  | none => exact Leads.pure (keyless rfl)
  | some key => exact retrieves.authenticate key .dataProtection cmac

private theorem readWithKeys (page : UInt8) (cmac : Bool) (keys : List AuthKey) :
    Leads start afterwards afterwards (readWithKeys (τ := τ) page cmac false keys) ∧
      Leads afterwards afterwards afterwards (readWithKeys (τ := τ) page cmac true keys) := by
  induction keys with
  | nil => exact ⟨Leads.throw retrieves.begun, Leads.throw fun _ left => left⟩
  | cons key keys ih =>
    have attempt : Leads start afterwards afterwards (do
        if ← Scan.tryKey (τ := τ) key cmac then Scan.readFrom page
        else Scan.readWithKeys page cmac true keys) := by
      intro session holds
      refine (ensures_tryKey (retrieves.authenticate key .dataProtection cmac session holds)).bind
        fun accepted after left => ?_
      cases accepted with
      | true =>
        exact (keeps_readFrom retrieves.toReads page after left).onValue fun _ => retrieves.weaken
      | false => exact ih.2 after left
    exact ⟨attempt, retrieves.reconnect.bind fun _ => attempt⟩

theorem execute {request : ScanRequest} (readOnly : request.isWrite = false)
    (stops : ∀ key0 key1, request ≠ .test key0 key1)
    (keyless : request.IsKeyless → ∀ session, start session → during session) :
    Leads start afterwards afterwards (execute (τ := τ) request) := by
  refine Leads.get fun session holds => ?_
  cases request with
  | fastRead =>
    exact (Leads.ofData retrieves.begun).bind (fun _ => Leads.pure retrieves.begun) session holds
  | read page key cmac =>
    have allowed : Leads start during afterwards (Scan.authenticateWith (τ := τ) key cmac) :=
      retrieves.authenticateWith (fun none_ => keyless (by rw [none_]; trivial)) cmac
    have content := (keeps_readFrom retrieves.toReads page).onValue retrieves.weaken
    exact (Leads.ofData retrieves.begun).bind (fun _ => allowed.bind fun _ => content) session holds
  | readMultiKey page keys cmac =>
    exact (Leads.ofData retrieves.begun).bind
      (fun _ => (retrieves.readWithKeys page cmac keys).1) session holds
  | write | writeKey | writeProtect | writeCmac => cases readOnly
  | test key0 key1 => exact absurd rfl (stops key0 key1)

end Retrieves

namespace Serves

variable (serves : Serves start during afterwards)
include serves

private theorem retrieves : Retrieves start during afterwards where
  toReads := serves.toReads
  begun := serves.begun
  authenticate := serves.authenticate
  reconnect := serves.reconnect

theorem execute {request : ScanRequest} (stops : ∀ key0 key1, request ≠ .test key0 key1)
    (keyless : request.IsKeyless → ∀ session, start session → during session) :
    Leads start afterwards afterwards (execute (τ := τ) request) := by
  have done {action : SessionM τ Unit} {result : ScanResult}
      (leads : Leads during afterwards afterwards action) :
      Leads during afterwards afterwards (do action; return result) :=
    leads.bind fun _ => Leads.pure fun _ left => left
  have ends {α : Type} {action : SessionM τ α} (keeps : Keeps during afterwards action) :
      Leads during afterwards afterwards action :=
    keeps.onValue serves.weaken
  have passes (key : Option AuthKey) (cmac : Bool) (asked : key = none → request.IsKeyless) :
      Leads start during afterwards (Scan.authenticateWith (τ := τ) key cmac) :=
    serves.retrieves.authenticateWith (fun none_ => keyless (asked none_)) cmac
  by_cases readOnly : request.isWrite = false
  · exact serves.retrieves.execute readOnly stops keyless
  refine Leads.get fun session holds => ?_
  cases request with
  | fastRead | read | readMultiKey | test => exact absurd rfl readOnly
  | write page data key cmac =>
    have allowed := passes key cmac fun none_ => none_ ▸ trivial
    exact (Leads.ofData serves.begun).bind
      (fun _ => allowed.bind fun _ => done (ends (serves.writeUserMemory page data))) session holds
  | writeKey key newKey cmac =>
    have stored : Leads start afterwards afterwards (do
        Scan.authenticateWith (τ := τ) key cmac
        writeKey newKey
        return ScanResult.write) :=
      (passes key cmac fun none_ => none_ ▸ trivial).bind fun _ =>
        done (ends (serves.writeKey newKey))
    dsimp only
    split
    · exact ensures_throw.mpr (serves.begun session holds)
    · exact stored session holds
  | writeProtect key enable cmac =>
    exact ((passes key cmac fun none_ => none_ ▸ trivial).bind
      fun _ => done (serves.setAuth0 _)) session holds
  | writeCmac key enable cmac =>
    dsimp only
    split
    · exact ensures_throw.mpr (serves.begun session holds)
    · exact ((passes key cmac fun none_ => none_ ▸ trivial).bind
        fun _ => done (serves.setCmac enable)) session holds

end Serves

/-- What properties of sessions have to survive for the sake of a diagnosis: one throughout, and
another from a handshake that succeeds to the next connection. -/
structure Diagnoses (kept known : Session τ → Prop) : Prop where
  weaken : ∀ session, known session → kept session
  version : Keeps kept kept getVersion
  authenticate : ∀ key slot cmac,
    Leads kept (fun session => known session ∧ session.isAuthenticated = true) kept
      (authenticate key slot cmac)
  lookUp : Leads (fun session => known session ∧ session.isAuthenticated = true) known known
    auth0Page
  cmac : Keeps known known cmacRequired
  uid : Keeps known known readUid
  reconnect : Keeps kept kept reconnect

namespace Diagnoses

omit [NfcTag τ] in
private theorem logged {action : SessionM τ α} {onResult : α → String}
    {onError : TagError → String} (leads : Leads start kept kept action) :
    Leads start kept kept (logged action onResult onError) :=
  (leads.bind fun _ => Leads.pure fun _ holds => holds).tryCatch fun error => by
    split
    · exact Leads.throw fun _ holds => holds
    · exact Leads.pure fun _ holds => holds

variable (diagnoses : Diagnoses kept known)
include diagnoses

private theorem inspectCmac : Keeps known known (inspectCmac (τ := τ)) :=
  Leads.get fun session holds => by
    split
    · exact ensures_pure.mpr holds
    · exact ((logged diagnoses.cmac).bind fun _ => Leads.pure fun _ left => left) session holds

private theorem inspect : Leads (fun session => known session ∧ session.isAuthenticated = true) known known
    (inspect (τ := τ)) :=
  (logged diagnoses.lookUp).bind fun _ => diagnoses.inspectCmac.bind fun _ =>
    (logged diagnoses.uid).bind fun _ => Leads.pure fun _ holds => holds

private theorem diagnoseKey (index : Nat) (key : AuthKey) (slot : KeySlot) :
    Keeps kept kept (diagnoseKey (τ := τ) index key slot) := by
  intro session holds
  have attempt : Ensures (tryCatch (do Session.authenticate key slot false; return none) fun error =>
        if error.isLost then throw error else return some error : SessionM τ (Option TagError))
      session
      (fun error after => kept after ∧
        (error = none → known after ∧ after.isAuthenticated = true))
      (fun _ => kept) := by
    refine ensures_tryCatch.mpr ?_
    refine ((diagnoses.authenticate key slot false session holds).bind
      fun _ after left => ensures_pure.mpr ⟨diagnoses.weaken after left.1, fun _ => left⟩).onError
      fun error after left => ?_
    split
    · exact ensures_throw.mpr left
    · exact ensures_pure.mpr ⟨left, nofun⟩
  refine attempt.bind fun error after left => ?_
  cases error with
  | some error => exact ensures_pure.mpr left.1
  | none =>
    have inspected := (diagnoses.inspect after (left.2 rfl)).weaken
      (fun _ => diagnoses.weaken) fun _ => diagnoses.weaken
    exact inspected.bind fun _ => Leads.pure fun _ holds => holds

private theorem diagnose (key0 key1 : AuthKey) : Keeps kept kept (diagnose (τ := τ) key0 key1) :=
  Leads.get fun session holds =>
    ((logged diagnoses.version).bind fun _ => (diagnoses.diagnoseKey 0 key0 _).bind fun _ =>
      diagnoses.reconnect.bind fun _ => (diagnoses.diagnoseKey 1 key1 _).bind fun _ =>
        Leads.pure fun _ left => left) session holds

theorem execute (key0 key1 : AuthKey) :
    Keeps kept kept (execute (τ := τ) (.test key0 key1)) :=
  Leads.get fun session holds => diagnoses.diagnose key0 key1 session holds

end Diagnoses
end Scan
end Wristband
