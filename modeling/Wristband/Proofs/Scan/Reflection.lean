import Wristband.Proofs.Scan.FailedWrites
import Wristband.Proofs.Session.Reflection

/-! What requests leave to an argument about two runs. A request with at most one key stops at its
first error, whatever it is. The others go on after some errors, but not when the tag is lost. -/

namespace Wristband

def ScanRequest.StopsAtErrors : ScanRequest → Prop
  | .readMultiKey .. | .test .. => False
  | _ => True

namespace Scan

open Session

variable {τ σ α : Type} [NfcTag τ] [NfcTag σ] {image : τ → σ} {parted : Parting τ σ}
  {start during afterwards kept : Session τ → Prop}

private theorem mirrors_readFrom (reflects : Reflects image parted during afterwards) (page : UInt8) :
    Mirrors image parted during afterwards afterwards (readFrom page) (readFrom page) :=
  reflects.readUid.bind fun _ => reflects.isProtected.bind fun _ =>
    (reflects.readUserMemory page).bind fun _ => .pure reflects.weaken

private theorem mirrors_fastRead (sameId : ∀ tag : τ, NfcTag.id (image tag) = NfcTag.id tag)
    (weaken : ∀ session, start session → afterwards session) :
    Mirrors image parted start afterwards afterwards (execute .fastRead) (execute .fastRead) := by
  refine .get fun session => ?_
  have same : NfcTag.id (session.map image).tag = NfcTag.id session.tag := sameId session.tag
  dsimp only
  rw [same]
  exact (Mirrors.ofData weaken).bind fun _ => .pure weaken

/-- What comes before the memory is accessed may need more than the access. -/
theorem mirrors_execute (reflects : Reflects image parted during afterwards)
    (sameId : ∀ tag : τ, NfcTag.id (image tag) = NfcTag.id tag) {request : ScanRequest}
    (stops : request.StopsAtErrors) (weaken : ∀ session, start session → afterwards session)
    (opens : ∀ key cmac, request.credentials = key.map (·, cmac) →
      Mirrors image parted start during afterwards (authenticateWith key cmac)
        (authenticateWith key cmac)) :
    Mirrors image parted start afterwards afterwards (execute request) (execute request) := by
  have done {action : SessionM τ Unit} {other : SessionM σ Unit} {result : ScanResult}
      (mirrors : Mirrors image parted during during afterwards action other) :
      Mirrors image parted during afterwards afterwards (do action; return result)
        (do other; return result) :=
    mirrors.bind fun _ => .pure reflects.weaken
  cases request with
  | fastRead => exact mirrors_fastRead sameId weaken
  | read page key cmac =>
    exact .get fun _ => (Mirrors.ofData weaken).bind fun _ => (opens key cmac rfl).bind fun _ =>
      mirrors_readFrom reflects page
  | write page data key cmac =>
    exact .get fun _ => (Mirrors.ofData weaken).bind fun _ => (opens key cmac rfl).bind fun _ =>
      done (reflects.writeUserMemory page data)
  | writeKey key newKey cmac =>
    exact .get fun _ => .ite (fun _ => .throw weaken) fun _ => (opens key cmac rfl).bind fun _ =>
      done (reflects.writeKey newKey)
  | writeProtect key enable cmac =>
    exact .get fun _ => (opens key cmac rfl).bind fun _ => done (reflects.setAuth0 _)
  | writeCmac key enable cmac =>
    exact .get fun _ => .ite (fun _ => .throw weaken) fun _ => (opens key cmac rfl).bind fun _ =>
      done (reflects.setCmac enable)
  | readMultiKey | test => exact stops.elim

/-- What two runs have to keep up for the sake of all requests. They only part because the tag is
lost, so no request goes on then. -/
structure ReflectsRequests (image : τ → σ) (parted : Parting τ σ) (kept : Session τ → Prop) : Prop
    extends Reflects image parted kept kept where
  authenticate : ∀ key slot cmac, Mirrors image parted kept kept kept (authenticate key slot cmac)
    (authenticate key slot cmac)
  reconnect : Mirrors image parted kept kept kept reconnect reconnect
  lost : ∀ tag transcript error rest, parted tag transcript error rest → error.isLost = true
  sameId : ∀ tag, NfcTag.id (image tag) = NfcTag.id tag

namespace ReflectsRequests

variable (reflects : ReflectsRequests image parted kept)
include reflects

private theorem authenticateWith (key : Option AuthKey) (cmac : Bool) :
    Mirrors image parted kept kept kept (authenticateWith key cmac)
      (authenticateWith key cmac) := by
  cases key with
  | none => exact .pure fun _ holds => holds
  | some key => exact reflects.authenticate key .dataProtection cmac

private theorem tryKey (key : AuthKey) (cmac : Bool) :
    Mirrors image parted kept kept kept (tryKey key cmac) (tryKey key cmac) := by
  refine ((reflects.authenticate key .dataProtection cmac).bind fun _ =>
    .pure fun _ holds => holds).tryCatch (fun error => ?_) fun tag transcript error rest apart => ?_
  · exact .ite (fun _ => .pure fun _ holds => holds) fun _ => .throw fun _ holds => holds
  · have lost := reflects.lost tag transcript error rest.tag apart
    have passes : isRejection error = false := by
      cases error with
      | hardware => rfl
      | protocol | data | auth | notAuthenticated | incompatible => cases lost
    refine ⟨rest, ?_, rfl⟩
    rw [passes]
    rfl

private theorem readWithKeys (page : UInt8) (cmac reconnecting : Bool) (keys : List AuthKey) :
    Mirrors image parted kept kept kept (readWithKeys page cmac reconnecting keys)
      (readWithKeys page cmac reconnecting keys) := by
  induction keys generalizing reconnecting with
  | nil => exact .throw fun _ holds => holds
  | cons key keys ih =>
    have attempt : Mirrors image parted kept kept kept
        (do if ← Scan.tryKey (τ := τ) key cmac then readFrom page
            else Scan.readWithKeys page cmac true keys)
        (do if ← Scan.tryKey (τ := σ) key cmac then readFrom page
            else Scan.readWithKeys page cmac true keys) :=
      (reflects.tryKey key cmac).bind fun accepted =>
        .ite (fun _ => mirrors_readFrom reflects.toReflects page) fun _ => ih true
    cases reconnecting with
    | true => exact reflects.reconnect.bind fun _ => attempt
    | false => exact attempt

private theorem passed {action : SessionM τ α} {other : SessionM σ α} {onError : TagError → α}
    (mirrors : Mirrors image parted kept kept kept action other) :
    Mirrors image parted kept kept kept
      (tryCatch action fun error => if error.isLost then throw error else return onError error)
      (tryCatch other fun error => if error.isLost then throw error else return onError error) := by
  refine mirrors.tryCatch (fun error => ?_) fun tag transcript error rest apart => ?_
  · exact .ite (fun _ => .throw fun _ holds => holds) fun _ => .pure fun _ holds => holds
  · refine ⟨rest, ?_, rfl⟩
    rw [if_pos (reflects.lost tag transcript error rest.tag apart)]
    rfl

private theorem logged {action : SessionM τ α} {other : SessionM σ α} {onResult : α → String}
    {onError : TagError → String} (mirrors : Mirrors image parted kept kept kept action other) :
    Mirrors image parted kept kept kept (logged action onResult onError)
      (logged other onResult onError) :=
  reflects.passed (mirrors.bind fun _ => .pure fun _ holds => holds)

private theorem inspectCmac : Mirrors image parted kept kept kept inspectCmac inspectCmac :=
  .get fun _ => .ite (fun _ => .pure fun _ holds => holds) fun _ =>
    (reflects.logged reflects.cmacRequired).bind fun _ => .pure fun _ holds => holds

private theorem inspect : Mirrors image parted kept kept kept inspect inspect :=
  (reflects.logged reflects.auth0Page).bind fun _ => reflects.inspectCmac.bind fun _ =>
    (reflects.logged reflects.readUid).bind fun _ => .pure fun _ holds => holds

private theorem diagnoseKey (index : Nat) (key : AuthKey) (slot : KeySlot) :
    Mirrors image parted kept kept kept (diagnoseKey index key slot)
      (diagnoseKey index key slot) := by
  refine (reflects.passed ((reflects.authenticate key slot false).bind fun _ =>
    .pure fun _ holds => holds)).bind fun accepted => ?_
  cases accepted with
  | some error => exact .pure fun _ holds => holds
  | none => exact reflects.inspect.bind fun _ => .pure fun _ holds => holds

private theorem diagnose (key0 key1 : AuthKey) :
    Mirrors image parted kept kept kept (diagnose key0 key1) (diagnose key0 key1) := by
  refine .get fun session => ?_
  have same : NfcTag.id (session.map image).tag = NfcTag.id session.tag :=
    reflects.sameId session.tag
  rw [same]
  exact (reflects.logged reflects.getVersion).bind fun _ =>
    (reflects.diagnoseKey 0 key0 _).bind fun _ => reflects.reconnect.bind fun _ =>
      (reflects.diagnoseKey 1 key1 _).bind fun _ => .pure fun _ holds => holds

theorem execute (request : ScanRequest) :
    Mirrors image parted kept kept kept (execute request) (execute request) := by
  have single (stops : request.StopsAtErrors) :
      Mirrors image parted kept kept kept (Scan.execute request) (Scan.execute request) :=
    mirrors_execute reflects.toReflects reflects.sameId stops (fun _ holds => holds)
      fun key cmac _ => reflects.authenticateWith key cmac
  cases request with
  | fastRead | read | write | writeKey | writeProtect | writeCmac => exact single trivial
  | readMultiKey page keys cmac =>
    exact .get fun _ => (Mirrors.ofData fun _ holds => holds).bind fun _ =>
      reflects.readWithKeys page cmac false keys
  | test key0 key1 => exact .get fun _ => reflects.diagnose key0 key1

end ReflectsRequests
end Scan
end Wristband
