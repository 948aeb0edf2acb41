import Wristband.Proofs.Session.Calls
import Wristband.Scan.Execute

/-! A request does nothing that its session could not be told to do in single calls. Which calls
these are depends on the answers of the tag. -/

namespace Wristband

open Session

variable {τ : Type} [NfcTag τ] {α β : Type}

namespace Session

/-- From every session the action ends where some calls would. -/
def MadeOfCalls (action : SessionM τ α) : Prop :=
  ∀ session : Session τ, ∃ calls, (action.run session).2 = session.afterCalls calls

namespace MadeOfCalls

variable {action : SessionM τ α}

private theorem pure {value : α} : MadeOfCalls (Pure.pure value : SessionM τ α) :=
  fun _ => ⟨[], rfl⟩

private theorem throw {error : TagError} : MadeOfCalls (MonadExcept.throw error : SessionM τ α) :=
  fun _ => ⟨[], rfl⟩

private theorem ofData {result : Except DataError α} :
    MadeOfCalls (Session.ofData result : SessionM τ α) := by
  cases result with
  | ok => exact pure
  | error => exact throw

private theorem bind {next : α → SessionM τ β} (first : MadeOfCalls action)
    (rest : ∀ value, MadeOfCalls (next value)) : MadeOfCalls (action >>= next) := by
  intro session
  obtain ⟨calls, reached⟩ := first session
  rw [run_bind]
  rcases ran : action.run session with ⟨error | value, middle⟩ <;> rw [ran] at reached
  · exact ⟨calls, reached⟩
  · obtain ⟨more, ended⟩ := rest value middle
    exact ⟨calls ++ more, by rw [afterCalls_append, ← reached, ← ended]⟩

private theorem get {next : Session τ → SessionM τ β} (rest : ∀ session, MadeOfCalls (next session)) :
    MadeOfCalls (MonadState.get >>= next) :=
  fun session => rest session session

private theorem tryCatch {handler : TagError → SessionM τ α} (attempt : MadeOfCalls action)
    (handled : ∀ error, MadeOfCalls (handler error)) :
    MadeOfCalls (MonadExcept.tryCatch action handler) := by
  intro session
  obtain ⟨calls, reached⟩ := attempt session
  change ∃ calls, ((tryCatchThe TagError action handler).run session).2 = _
  rw [show (tryCatchThe TagError action handler).run session = _ from
    run_tryCatch action handler session]
  rcases ran : action.run session with ⟨error | value, middle⟩ <;> rw [ran] at reached
  · obtain ⟨more, ended⟩ := handled error middle
    exact ⟨calls ++ more, by rw [afterCalls_append, ← reached, ← ended]⟩
  · exact ⟨calls, reached⟩

private theorem perform (call : SessionCall) : MadeOfCalls (call.perform (τ := τ)) :=
  fun _ => ⟨[call], rfl⟩

private theorem value (call : SessionCall) (performed : call.perform = do let _ ← action) :
    MadeOfCalls action := by
  intro session
  refine ⟨[call], ?_⟩
  change _ = (call.perform.run session).2
  rw [performed, run_bind]
  rcases action.run session with ⟨_ | _, _⟩ <;> rfl

end MadeOfCalls
end Session

namespace Scan

private theorem authenticateWith_madeOfCalls (key : Option AuthKey) (cmac : Bool) :
    MadeOfCalls (authenticateWith (τ := τ) key cmac) := by
  cases key with
  | none => exact .pure
  | some key => exact .perform (.authenticate key .dataProtection cmac)

private theorem readFrom_madeOfCalls (page : UInt8) : MadeOfCalls (readFrom (τ := τ) page) :=
  (MadeOfCalls.value .readUid rfl).bind fun _ => (MadeOfCalls.value .isProtected rfl).bind fun _ =>
    (MadeOfCalls.value (.readUserMemory page) rfl).bind fun _ => .pure

private theorem tryKey_madeOfCalls (key : AuthKey) (cmac : Bool) :
    MadeOfCalls (tryKey (τ := τ) key cmac) := by
  refine ((MadeOfCalls.perform (.authenticate key .dataProtection cmac)).bind fun _ =>
    .pure).tryCatch fun error => ?_
  split
  · exact .pure
  · exact .throw

private theorem readWithKeys_madeOfCalls (page : UInt8) (cmac reconnecting : Bool) (keys : List AuthKey) :
    MadeOfCalls (readWithKeys (τ := τ) page cmac reconnecting keys) := by
  induction keys generalizing reconnecting with
  | nil => exact .throw
  | cons key keys ih =>
    have attempt : MadeOfCalls (do
        if ← tryKey (τ := τ) key cmac then readFrom page
        else readWithKeys page cmac true keys) := by
      refine (tryKey_madeOfCalls key cmac).bind fun accepted => ?_
      cases accepted with
      | true => exact readFrom_madeOfCalls page
      | false => exact ih true
    cases reconnecting with
    | true => exact (MadeOfCalls.perform .reconnect).bind fun _ => attempt
    | false => exact attempt

private theorem logged_madeOfCalls {action : SessionM τ α} {onResult : α → String}
    {onError : TagError → String} (made : MadeOfCalls action) :
    MadeOfCalls (logged action onResult onError) := by
  refine (made.bind fun _ => .pure).tryCatch fun error => ?_
  split
  · exact .throw
  · exact .pure

private theorem inspect_madeOfCalls : MadeOfCalls (inspect (τ := τ)) := by
  have cmac : MadeOfCalls (inspectCmac (τ := τ)) := by
    refine .get fun session => ?_
    split
    · exact .pure
    · exact (logged_madeOfCalls (.value .cmacRequired rfl)).bind fun _ => .pure
  exact (logged_madeOfCalls (.value .auth0 rfl)).bind fun _ => cmac.bind fun _ =>
    (logged_madeOfCalls (.value .readUid rfl)).bind fun _ => .pure

private theorem diagnoseKey_madeOfCalls (index : Nat) (key : AuthKey) (slot : KeySlot) :
    MadeOfCalls (diagnoseKey (τ := τ) index key slot) := by
  refine (((MadeOfCalls.perform (.authenticate key slot false)).bind fun _ => .pure).tryCatch
    fun error => ?_).bind fun accepted => ?_
  · split
    · exact .throw
    · exact .pure
  · cases accepted with
    | some error => exact .pure
    | none => exact inspect_madeOfCalls.bind fun _ => .pure

private theorem diagnose_madeOfCalls (key0 key1 : AuthKey) :
    MadeOfCalls (diagnose (τ := τ) key0 key1) :=
  .get fun _ => (logged_madeOfCalls (.value .getVersion rfl)).bind fun _ =>
    (diagnoseKey_madeOfCalls 0 key0 _).bind fun _ => (MadeOfCalls.perform .reconnect).bind fun _ =>
      (diagnoseKey_madeOfCalls 1 key1 _).bind fun _ => .pure

theorem execute_madeOfCalls (request : ScanRequest) : MadeOfCalls (execute (τ := τ) request) := by
  refine .get fun session => ?_
  cases request with
  | fastRead => exact MadeOfCalls.ofData.bind fun _ => .pure
  | read page key cmac =>
    exact MadeOfCalls.ofData.bind fun _ => (authenticateWith_madeOfCalls key cmac).bind fun _ =>
      readFrom_madeOfCalls page
  | readMultiKey page keys cmac =>
    exact MadeOfCalls.ofData.bind fun _ => readWithKeys_madeOfCalls page cmac false keys
  | write page data key cmac =>
    exact MadeOfCalls.ofData.bind fun _ => (authenticateWith_madeOfCalls key cmac).bind fun _ =>
      (MadeOfCalls.perform (.writeUserMemory page data)).bind fun _ => .pure
  | writeKey key newKey cmac =>
    dsimp only
    split
    · exact .throw
    · exact (authenticateWith_madeOfCalls key cmac).bind fun _ =>
        (MadeOfCalls.perform (.writeKey newKey)).bind fun _ => .pure
  | writeProtect key enable cmac =>
    exact (authenticateWith_madeOfCalls key cmac).bind fun _ =>
      (MadeOfCalls.perform (.setAuth0 _)).bind fun _ => .pure
  | writeCmac key enable cmac =>
    dsimp only
    split
    · exact .throw
    · exact (authenticateWith_madeOfCalls key cmac).bind fun _ =>
        (MadeOfCalls.perform (.setCmac enable)).bind fun _ => .pure
  | test key0 key1 => exact diagnose_madeOfCalls key0 key1

end Scan
end Wristband
