import Wristband.Proofs.Scan.Requests

/-! A presence from its opening to its end. A request never closes its session for good, so the
connection that it ends with is the one that is closed. -/

namespace Wristband

open Session

variable {τ : Type} [NfcTag τ]

/-- A property of sessions that outlasts whatever is done without storing anything. -/
structure Withstands (kept : Session τ → Prop) : Prop where
  exchange : ∀ command, Frame.StoresNothing command → Keeps kept kept (exchange command)
  engine : ∀ session engine, kept session → kept { session with engine := some engine }
  learn : ∀ session auth0, kept session → kept { session with auth0 := some auth0 }
  random : ∀ session random, kept session → kept { session with random := random }
  reconnect : Keeps kept kept reconnect

namespace Withstands

variable {kept : Session τ → Prop} (withstands : Withstands kept)
include withstands

theorem handshakes : Handshakes kept where
  engine := withstands.engine
  random := withstands.random
  step command handshake := withstands.exchange command handshake.storesNothing

private theorem read (page : UInt8) : Keeps kept kept (Session.exchange [CommandCode.read.code, page]) :=
  withstands.exchange _ (Frame.storesNothing_read page)

private theorem reads : Reads kept kept where
  weaken _ holds := holds
  version := withstands.exchange _ Frame.storesNothing_getVersion
  lookUp := auth0Page_keeps (fun _ holds => holds) withstands.learn withstands.read
  uid := withstands.read 0
  page page session holds := withstands.read page session holds.1

private theorem retrieves : Scan.Retrieves kept kept kept where
  toReads := withstands.reads
  begun _ holds := holds
  authenticate key slot cmac :=
    (withstands.handshakes.authenticate key slot cmac).onValue fun _ left => left.1
  reconnect := withstands.reconnect

private theorem diagnoses : Scan.Diagnoses kept kept where
  weaken _ holds := holds
  version := withstands.reads.getVersion
  authenticate := withstands.handshakes.authenticate
  lookUp session holds := withstands.reads.lookUp session holds.1
  cmac := withstands.reads.cmacRequired
  uid := withstands.reads.readUid
  reconnect := withstands.reconnect

theorem execute {request : ScanRequest} (readOnly : request.isWrite = false) :
    Keeps kept kept (Scan.execute request) := by
  cases request with
  | test key0 key1 => exact withstands.diagnoses.execute key0 key1
  | _ => exact withstands.retrieves.execute readOnly nofun fun _ _ holds => holds

end Withstands

structure Persists (kept : Session τ → Prop) : Prop where
  exchange : ∀ command, Keeps kept kept (exchange command)
  engine : ∀ session engine, kept session → kept { session with engine := some engine }
  learn : ∀ session auth0, kept session → kept { session with auth0 := some auth0 }
  random : ∀ session random, kept session → kept { session with random := random }
  reconnect : Keeps kept kept reconnect

namespace Persists

variable {kept : Session τ → Prop} (persists : Persists kept)
include persists

theorem withstands : Withstands kept where
  exchange command _ := persists.exchange command
  engine := persists.engine
  learn := persists.learn
  random := persists.random
  reconnect := persists.reconnect

theorem endures : Endures kept kept where
  weaken _ holds := holds
  request command _ := persists.exchange command
  learn := persists.learn

private theorem serves : Scan.Serves kept kept kept where
  toWrites := persists.endures.writes
  begun _ holds := holds
  authenticate := persists.withstands.retrieves.authenticate
  setAuth0 := persists.endures.setAuth0
  setCmac := persists.endures.setCmac
  reconnect := persists.reconnect

theorem execute (request : ScanRequest) : Keeps kept kept (Scan.execute request) := by
  cases request with
  | fastRead | read | readMultiKey | write | writeKey | writeProtect | writeCmac =>
    exact persists.serves.execute nofun fun _ _ holds => holds
  | test key0 key1 => exact persists.withstands.execute rfl

end Persists

namespace Session

variable {session after : Session τ} {command : Bytes} {result : Except TagError Bytes}

theorem Exchanged.closed (exchanged : Exchanged session command result after) :
    after.closed = session.closed := by
  cases exchanged <;> rfl

theorem persists_open : Persists fun session : Session τ => session.closed = false where
  exchange _ _ open_ := exchange_leaves fun _ _ exchanged => exchanged.closed.trans open_
  engine _ _ open_ := open_
  learn _ _ open_ := open_
  random _ _ open_ := open_
  reconnect _ open_ := reconnect_leaves (fun _ _ => open_) open_

theorem openOn_unclosed {tag : τ} {family : ChipFamily} {random : RandomSource}
    (opened : openOn tag family random = .ok session) : session.closed = false := by
  unfold openOn at opened
  split at opened <;> cases opened
  rfl

theorem run_close (open_ : session.closed = false) :
    (close.run session).2 =
      { session with tag := (NfcTag.close session.tag).2, closed := true, engine := none } := by
  have closes : Ensures close session
      (fun _ final => final =
        { session with tag := (NfcTag.close session.tag).2, closed := true, engine := none })
      (fun _ final => final =
        { session with tag := (NfcTag.close session.tag).2, closed := true, engine := none }) := by
    refine ensures_bind.mpr (ensures_get.mpr ?_)
    simp only [open_, Bool.false_eq_true, if_false, closeTag, ensures_bind, ensures_modify,
      ensures_get, ensures_set, ensures_ofHardware]
    split <;> trivial
  exact closes.after

end Session

omit [NfcTag τ] in
/-- A result and an error may come to the same for the caller. -/
theorem resultOf_of_ensures {action : SessionM τ ScanResult} {session : Session τ}
    {expected : ScanResult} (ensures : Ensures action session (fun result _ => result = expected)
      (fun error _ => .fail error.toFailure = expected)) :
    resultOf (action.run session).1 = expected := by
  unfold Ensures at ensures
  rcases ran : action.run session with ⟨_ | _, after⟩ <;> rw [ran] at ensures <;> exact ensures

/-- What is served is what the request does on an open connection, which is closed then. -/
theorem serve_opened {tag : τ} {family : ChipFamily} {random : RandomSource} {session : Session τ}
    (opened : openOn tag family random = .ok session) (request : ScanRequest) :
    serve tag family random request =
      (resultOf ((Scan.execute request).run session).1,
        ⟨(NfcTag.close ((Scan.execute request).run session).2.tag).2,
          ((Scan.execute request).run session).2.random,
          ((Scan.execute request).run session).2.transcript⟩) := by
  have open_ := (persists_open.execute request session (openOn_unclosed opened)).after
  have served : serve tag family random request =
      (resultOf ((Scan.execute request).run session).1,
        ⟨(close.run ((Scan.execute request).run session).2).2.tag,
          (close.run ((Scan.execute request).run session).2).2.random,
          (close.run ((Scan.execute request).run session).2).2.transcript⟩) := by
    unfold serve
    rw [opened]
    rfl
  rw [served, run_close open_]

end Wristband
