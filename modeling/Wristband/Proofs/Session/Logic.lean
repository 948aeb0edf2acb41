import Wristband.Session.Authenticate
import Wristband.Session.Memory

/-! Assertions for session actions. An action ends with a value or with an error, and both
ends leave a session behind, so both have a condition of their own. -/

namespace Wristband.Session

variable {τ α β : Type} {session : Session τ}

theorem run_bind (action : SessionM τ α) (next : α → SessionM τ β) (session : Session τ) :
    (action >>= next).run session = match action.run session with
      | (.ok value, after) => (next value).run after
      | (.error error, after) => (.error error, after) := by
  change (match action.run session with
    | (result, after) => ExceptT.bindCont next result after) = _
  rcases action.run session with ⟨_ | _, _⟩ <;> rfl

theorem run_tryCatch (action : SessionM τ α) (handler : TagError → SessionM τ α)
    (session : Session τ) :
    (tryCatch action handler).run session = match action.run session with
      | (.ok value, after) => (.ok value, after)
      | (.error error, after) => (handler error).run after := by
  change ExceptT.tryCatch action handler session = _
  simp only [ExceptT.tryCatch, ExceptT.mk, bind, StateT.bind, ExceptT.run]
  rcases action session with ⟨_ | _, _⟩ <;> rfl

/-- What holds where an action ends that starts in a session. -/
def Ensures (action : SessionM τ α) (session : Session τ) (done : α → Session τ → Prop)
    (failed : TagError → Session τ → Prop) : Prop :=
  match action.run session with
  | (.ok value, after) => done value after
  | (.error error, after) => failed error after

variable {done : α → Session τ → Prop} {failed : TagError → Session τ → Prop}

@[simp] theorem ensures_pure {value : α} :
    Ensures (pure value) session done failed ↔ done value session := Iff.rfl

@[simp] theorem ensures_throw {error : TagError} :
    Ensures (throw error) session done failed ↔ failed error session := Iff.rfl

@[simp] theorem ensures_get {done : Session τ → Session τ → Prop} :
    Ensures get session done failed ↔ done session session := Iff.rfl

@[simp] theorem ensures_set {after : Session τ} {done : PUnit → Session τ → Prop} :
    Ensures (set after) session done failed ↔ done ⟨⟩ after := Iff.rfl

@[simp] theorem ensures_modify {change : Session τ → Session τ}
    {done : PUnit → Session τ → Prop} :
    Ensures (modify change) session done failed ↔ done ⟨⟩ (change session) := Iff.rfl

@[simp] theorem ensures_bind {action : SessionM τ α} {next : α → SessionM τ β}
    {done : β → Session τ → Prop} :
    Ensures (action >>= next) session done failed ↔
      Ensures action session (fun value after => Ensures (next value) after done failed) failed := by
  unfold Ensures
  rw [run_bind]
  rcases action.run session with ⟨_ | _, _⟩ <;> rfl

@[simp] theorem ensures_tryCatch {action : SessionM τ α} {handler : TagError → SessionM τ α} :
    Ensures (tryCatch action handler) session done failed ↔
      Ensures action session done
        (fun error after => Ensures (handler error) after done failed) := by
  unfold Ensures
  rw [run_tryCatch]
  rcases action.run session with ⟨_ | _, _⟩ <;> rfl

theorem Ensures.weaken {action : SessionM τ α} {done' : α → Session τ → Prop}
    {failed' : TagError → Session τ → Prop} (ensures : Ensures action session done failed)
    (onValue : ∀ value after, done value after → done' value after)
    (onError : ∀ error after, failed error after → failed' error after) :
    Ensures action session done' failed' := by
  unfold Ensures at *
  rcases seen : action.run session with ⟨_ | _, after⟩ <;> rw [seen] at ensures
  · exact onError _ after ensures
  · exact onValue _ after ensures

theorem Ensures.onValue {action : SessionM τ α} {done' : α → Session τ → Prop}
    (ensures : Ensures action session done failed)
    (implied : ∀ value after, done value after → done' value after) :
    Ensures action session done' failed :=
  ensures.weaken implied fun _ _ kept => kept

theorem Ensures.onError {action : SessionM τ α} {failed' : TagError → Session τ → Prop}
    (ensures : Ensures action session done failed)
    (implied : ∀ error after, failed error after → failed' error after) :
    Ensures action session done failed' :=
  ensures.weaken (fun _ _ kept => kept) implied

/-- An action that never fails ensures anything of its errors. -/
theorem Ensures.total {action : SessionM τ α} (ensures : Ensures action session done fun _ _ => False) :
    Ensures action session done failed :=
  ensures.onError fun _ _ never => never.elim

/-- Nothing is done after an action that never succeeds. -/
theorem Ensures.abort {action : SessionM τ α} {next : α → SessionM τ β}
    {done' : β → Session τ → Prop} (fails : Ensures action session (fun _ _ => False) failed) :
    Ensures (action >>= next) session done' failed :=
  ensures_bind.mpr (fails.onValue fun _ _ never => never.elim)

theorem Ensures.bind {action : SessionM τ α} {next : α → SessionM τ β}
    {done' : β → Session τ → Prop} (first : Ensures action session done failed)
    (rest : ∀ value after, done value after → Ensures (next value) after done' failed) :
    Ensures (action >>= next) session done' failed :=
  ensures_bind.mpr (first.onValue rest)

theorem Ensures.discard {action : SessionM τ α} {finish : Session τ → Prop}
    (ensures : Ensures action session (fun _ => finish) failed) :
    Ensures (do let _ ← action) session (fun _ => finish) failed :=
  ensures.bind fun _ _ kept => ensures_pure.mpr kept

theorem ensures_ofProtocol {result : Except ProtocolError α} :
    Ensures (ofProtocol result) session done failed ↔
      match result with
      | .ok value => done value session
      | .error error => failed (.protocol error) session := by
  cases result <;> rfl

theorem ensures_ofData {result : Except DataError α} :
    Ensures (ofData result) session done failed ↔
      match result with
      | .ok value => done value session
      | .error error => failed (.data error) session := by
  cases result <;> rfl

theorem ensures_ofHardware {result : Except HardwareError α} :
    Ensures (ofHardware result) session done failed ↔
      match result with
      | .ok value => done value session
      | .error error => failed (.hardware error) session := by
  cases result <;> rfl

/-- An action has one end, so what two arguments say of it holds together. -/
theorem Ensures.and {action : SessionM τ α} {done' : α → Session τ → Prop}
    {failed' : TagError → Session τ → Prop} (first : Ensures action session done failed)
    (second : Ensures action session done' failed') :
    Ensures action session (fun value after => done value after ∧ done' value after)
      (fun error after => failed error after ∧ failed' error after) := by
  unfold Ensures at *
  rcases seen : action.run session with ⟨_ | _, after⟩ <;> rw [seen] at first second <;>
    exact ⟨first, second⟩

theorem Ensures.after {action : SessionM τ α} {kept : Session τ → Prop}
    (ensures : Ensures action session (fun _ => kept) (fun _ => kept)) :
    kept (action.run session).2 := by
  unfold Ensures at ensures
  rcases seen : action.run session with ⟨_ | _, after⟩ <;> rw [seen] at ensures <;> exact ensures

theorem Ensures.fails {action : SessionM τ α}
    (ensures : Ensures action session (fun _ _ => False) failed) :
    ∃ error after, action.run session = (.error error, after) ∧ failed error after := by
  unfold Ensures at ensures
  rcases seen : action.run session with ⟨error | _, after⟩ <;> rw [seen] at ensures
  · exact ⟨error, after, rfl, ensures⟩
  · exact ensures.elim

theorem Ensures.succeeds {action : SessionM τ α}
    (ensures : Ensures action session done (fun _ _ => False)) :
    ∃ value after, action.run session = (.ok value, after) ∧ done value after := by
  unfold Ensures at ensures
  rcases seen : action.run session with ⟨_ | value, after⟩ <;> rw [seen] at ensures
  · exact ensures.elim
  · exact ⟨value, after, rfl, ensures⟩

/-- Where it is known how an action ends, that is all there is to ensure. -/
theorem ensures_of_ok {action : SessionM τ α} {value : α} {after : Session τ}
    (ran : action.run session = (.ok value, after)) :
    Ensures action session done failed ↔ done value after := by
  unfold Ensures
  rw [ran]

theorem ensures_of_error {action : SessionM τ α} {error : TagError} {after : Session τ}
    (ran : action.run session = (.error error, after)) :
    Ensures action session done failed ↔ failed error after := by
  unfold Ensures
  rw [ran]

theorem ensures_congr {action other : SessionM τ α} {after : Session τ}
    (same : action.run session = other.run after) :
    Ensures action session done failed ↔ Ensures other after done failed := by
  unfold Ensures
  rw [same]

/-- An action takes every session with one property to a session with another, or to one with
a third if it fails. -/
def Leads (start finish failed : Session τ → Prop) (action : SessionM τ α) : Prop :=
  ∀ session, start session → Ensures action session (fun _ => finish) (fun _ => failed)

/-- An action keeps a property, and something is left of it after an error. -/
abbrev Keeps (during afterwards : Session τ → Prop) (action : SessionM τ α) : Prop :=
  Leads during during afterwards action

variable {start middle finish lost : Session τ → Prop}

theorem Leads.weaken {finish' lost' : Session τ → Prop} {action : SessionM τ α}
    (leads : Leads start finish lost action) (onValue : ∀ session, finish session → finish' session)
    (onError : ∀ session, lost session → lost' session) : Leads start finish' lost' action :=
  fun session holds =>
    (leads session holds).weaken (fun _ => onValue) (fun _ => onError)

theorem Leads.onValue {finish' : Session τ → Prop} {action : SessionM τ α}
    (leads : Leads start finish lost action)
    (implied : ∀ session, finish session → finish' session) : Leads start finish' lost action :=
  leads.weaken implied fun _ kept => kept

theorem Leads.onError {lost' : Session τ → Prop} {action : SessionM τ α}
    (leads : Leads start finish lost action)
    (implied : ∀ session, lost session → lost' session) : Leads start finish lost' action :=
  leads.weaken (fun _ kept => kept) implied

theorem Leads.bind {action : SessionM τ α} {next : α → SessionM τ β}
    (first : Leads start middle lost action) (rest : ∀ value, Leads middle finish lost (next value)) :
    Leads start finish lost (action >>= next) :=
  fun session holds => (first session holds).bind fun value after => rest value after

theorem Leads.discard {action : SessionM τ α} (leads : Leads start finish lost action) :
    Leads start finish lost (do let _ ← action) :=
  fun session holds => (leads session holds).discard

theorem Leads.pure {value : α} (implied : ∀ session, start session → finish session) :
    Leads start finish lost (pure value : SessionM τ α) :=
  fun session holds => ensures_pure.mpr (implied session holds)

theorem Leads.throw {error : TagError} (implied : ∀ session, start session → lost session) :
    Leads start finish lost (throw error : SessionM τ α) :=
  fun session holds => ensures_throw.mpr (implied session holds)

theorem Leads.get {next : Session τ → SessionM τ β}
    (rest : ∀ session, start session →
      Ensures (next session) session (fun _ => finish) (fun _ => lost)) :
    Leads start finish lost (get >>= next) :=
  fun session holds => ensures_bind.mpr (ensures_get.mpr (rest session holds))

theorem Leads.ofProtocol {result : Except ProtocolError α}
    (implied : ∀ session, start session → lost session) :
    Leads start start lost (ofProtocol result) := by
  cases result with
  | ok => exact Leads.pure fun _ holds => holds
  | error => exact Leads.throw implied

theorem Leads.ofData {result : Except DataError α}
    (implied : ∀ session, start session → lost session) :
    Leads start start lost (ofData result) := by
  cases result with
  | ok => exact Leads.pure fun _ holds => holds
  | error => exact Leads.throw implied

theorem Leads.tryCatch {action : SessionM τ α} {handler : TagError → SessionM τ α}
    {caught : Session τ → Prop} (attempt : Leads start finish caught action)
    (handled : ∀ error, Leads caught finish lost (handler error)) :
    Leads start finish lost (tryCatch action handler) :=
  fun session holds => ensures_tryCatch.mpr
    ((attempt session holds).onError fun error after => handled error after)

def Refuses (session : Session τ) (action : SessionM τ α) : Prop :=
  Ensures action session (fun _ _ => False) (fun _ after => after = session)

theorem Refuses.bind {action : SessionM τ α} {next : α → SessionM τ β}
    (refuses : session.Refuses action) : session.Refuses (action >>= next) :=
  Ensures.bind refuses fun _ _ never => never.elim

theorem Refuses.leaves {action : SessionM τ α} (refuses : session.Refuses action) :
    Keeps (· = session) (· = session) action := by
  rintro _ rfl
  exact refuses.weaken (fun _ _ never => never.elim) fun _ _ same => same

theorem Keeps.forM {action : α → SessionM τ PUnit} (items : List α)
    (each : ∀ item ∈ items, Keeps start lost (action item)) :
    Keeps start lost (items.forM action) := by
  induction items with
  | nil => exact Leads.pure fun _ holds => holds
  | cons item items ih =>
    change Keeps start lost (action item >>= fun _ => items.forM action)
    exact (each item List.mem_cons_self).bind fun _ =>
      ih fun other listed => each other (List.mem_cons_of_mem item listed)

theorem Keeps.mapM {action : α → SessionM τ β} (items : List α)
    (each : ∀ item ∈ items, Keeps start lost (action item)) :
    Keeps start lost (items.mapM action) := by
  induction items with
  | nil => exact Leads.pure fun _ holds => holds
  | cons item items ih =>
    rw [List.mapM_cons]
    exact (each item List.mem_cons_self).bind fun _ =>
      (ih fun other listed => each other (List.mem_cons_of_mem item listed)).bind fun _ =>
        Leads.pure fun _ holds => holds

end Wristband.Session
