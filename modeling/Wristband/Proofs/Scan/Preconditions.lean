import Wristband.Proofs.Session.Preconditions
import Wristband.Tag.Simulated.Build

/-! A request judges its own parameters before its first step. What it judges once more while it
runs has passed already, so a caller that is blamed is blamed before anything was sent. -/

namespace Wristband

open Session

variable {τ : Type} [NfcTag τ] {α : Type} {family : ChipFamily} {session after : Session τ}

namespace Session.Commits

private theorem authenticateWith (key : Option AuthKey) (cmac : Bool) :
    Commits (τ := τ) family (Scan.authenticateWith key cmac) fun _ => True := by
  cases key with
  | none => exact pure trivial
  | some key => exact authenticate key .dataProtection cmac

private theorem readFrom {page count : UInt8} (fits : userRange page Layout.pageSize = .ok count) :
    Commits (τ := τ) family (Scan.readFrom page) fun _ => True :=
  readUid.bind fun _ _ => isProtected.bind fun _ _ => (readUserMemory fits).bind fun _ _ =>
    pure trivial

private theorem tryKey (key : AuthKey) (cmac : Bool) :
    Commits (τ := τ) family (Scan.tryKey key cmac) fun _ => True :=
  ((authenticate key .dataProtection cmac).bind fun _ _ => pure trivial).tryCatch fun _ late =>
    ite (fun _ => pure trivial) fun _ => throw late

private theorem readWithKeys {page count : UInt8} (fits : userRange page Layout.pageSize = .ok count)
    (cmac reconnecting : Bool) (keys : List AuthKey) :
    Commits (τ := τ) family (Scan.readWithKeys page cmac reconnecting keys) fun _ => True := by
  induction keys generalizing reconnecting with
  | nil => exact throw rfl
  | cons key keys ih =>
    have attempt : Commits (τ := τ) family (do
        if ← Scan.tryKey key cmac then Scan.readFrom page
        else Scan.readWithKeys page cmac true keys) fun _ => True :=
      (tryKey key cmac).bind fun _ _ => ite (fun _ => readFrom fits) fun _ => ih true
    cases reconnecting with
    | true => exact reconnect.bind fun _ _ => attempt
    | false => exact attempt

omit [NfcTag τ] in
private theorem logged {action : SessionM τ α} {onResult : α → String} {onError : TagError → String}
    (commits : Commits family action fun _ => True) :
    Commits family (Scan.logged action onResult onError) fun _ => True :=
  (commits.bind fun _ _ => pure trivial).tryCatch fun _ late =>
    ite (fun _ => throw late) fun _ => pure trivial

private theorem inspectCmac : Commits (τ := τ) family Scan.inspectCmac fun _ => True :=
  get fun _ _ => ite (fun _ => pure trivial) fun _ => (logged cmacRequired).bind fun _ _ =>
    pure trivial

private theorem inspect : Commits (τ := τ) family Scan.inspect fun _ => True :=
  (logged auth0Page).bind fun _ _ => inspectCmac.bind fun _ _ => (logged readUid).bind fun _ _ =>
    pure trivial

private theorem diagnoseKey (index : Nat) (key : AuthKey) (slot : KeySlot) :
    Commits (τ := τ) family (Scan.diagnoseKey index key slot) fun _ => True := by
  refine bind (tryCatch ((authenticate key slot false).bind fun _ _ => pure trivial) fun _ late =>
    ite (fun _ => throw late) fun _ => pure trivial) fun accepted (_ : True) => ?_
  cases accepted with
  | some error => exact pure trivial
  | none => exact inspect.bind fun _ _ => pure trivial

private theorem diagnose (key0 key1 : AuthKey) :
    Commits (τ := τ) family (Scan.diagnose key0 key1) fun _ => True :=
  get fun _ _ => (logged getVersion).bind fun _ _ => (diagnoseKey 0 key0 _).bind fun _ _ =>
    reconnect.bind fun _ _ => (diagnoseKey 1 key1 _).bind fun _ _ => pure trivial

end Session.Commits

inductive Operation where
  | request (request : ScanRequest)
  | call (call : SessionCall)
deriving DecidableEq

def Operation.perform : Operation → SessionM τ Unit
  | .request asked => do let _ ← Scan.execute asked
  | .call asked => asked.perform

namespace Session.Guarded

private theorem execute (request : ScanRequest) : session.Guarded (Scan.execute request) := by
  have done {action : SessionM τ Unit} (commits : Commits session.family action fun _ => True) :
      Commits session.family (do action; return ScanResult.write) fun _ => True :=
    commits.bind fun _ _ => .pure trivial
  refine ensures_bind.mpr (ensures_get.mpr ?_)
  cases request with
  | fastRead => exact ofData fun _ _ => .pure trivial
  | read page key cmac =>
    exact ofData fun _ fits => (Commits.authenticateWith key cmac).bind fun _ _ => .readFrom fits
  | readMultiKey page keys cmac => exact ofData fun _ fits => .readWithKeys fits cmac false keys
  | write page data key cmac =>
    exact ofData fun _ fits => (Commits.authenticateWith key cmac).bind fun _ _ =>
      done (.writeUserMemory fits)
  | writeKey key newKey cmac =>
    exact (Commits.ite (fun _ => .throw rfl) fun _ =>
      (Commits.authenticateWith key cmac).bind fun _ _ => done (.writeKey newKey)).guarded
  | writeProtect key enable cmac =>
    exact ((Commits.authenticateWith key cmac).bind fun _ _ => done (.setAuth0 _)).guarded
  | writeCmac key enable cmac =>
    exact (Commits.ite (fun _ => .throw rfl) fun _ =>
      (Commits.authenticateWith key cmac).bind fun _ _ => done (.setCmac enable)).guarded
  | test key0 key1 => exact (Commits.diagnose key0 key1).guarded

end Session.Guarded

/-- An operation that blames its caller leaves its session as it was, so it has sent nothing: the
tag, and the list of frames that were sent, are the same as before. -/
theorem blamed_operation_sends_nothing (operation : Operation) {error : TagError}
    (failed : operation.perform.run session = (.error error, after))
    (blamed : error.isPrecondition = true) : after = session := by
  have guarded : session.Guarded operation.perform := by
    cases operation with
    | request asked => exact Guarded.discard (Guarded.execute asked)
    | call asked => exact Guarded.perform asked
  unfold Guarded Ensures at guarded
  rw [failed] at guarded
  exact guarded blamed

/-- Data that reaches one page too far is not sent, not even the part of it that fits. -/
theorem overlong_write_sends_nothing :
    ∃ session after : Session SimulatedTag, ∃ error : TagError,
      openOn (SimulatedTag.ultralight [0x04, 0x11, 0x22, 0x33, 0x44, 0x55, 0x66]) .ultralight
        ⟨fun _ => 0, 0⟩ = .ok session ∧
      (Operation.request (.write 0x27 [1, 2, 3, 4, 5] none false)).perform.run session =
        (.error error, after) ∧
      error.isPrecondition = true ∧ after = session := by
  obtain ⟨session, opened⟩ : ∃ session, openOn (SimulatedTag.ultralight
      [0x04, 0x11, 0x22, 0x33, 0x44, 0x55, 0x66]) .ultralight ⟨fun _ => 0, 0⟩ = .ok session := ⟨_, rfl⟩
  have failed : (Operation.request (.write 0x27 [1, 2, 3, 4, 5] none false)).perform.run session =
      (.error (.data (.invalidPageRange _)), _) := rfl
  exact ⟨session, _, _, opened, failed, rfl, blamed_operation_sends_nothing _ failed rfl⟩

end Wristband
