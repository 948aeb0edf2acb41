import Wristband.Proofs.Session.Calls

/-! Verdicts on how operations fail. A verdict is about an error and the session that it leaves. It
holds of all operations on the memory if it holds of every exchange, of every refusal that comes back
as an answer, and of what a session finds wrong by itself. -/

namespace Wristband

/-- The terminal finds the error by itself. It is no refusal of the tag, and nothing is wrong with
the codes. -/
def TagError.IsOwn : TagError → Prop
  | .hardware _ | .auth _ => False
  | .protocol error =>
    (∀ code, error ≠ .nak code) ∧ error ≠ .cmacMismatch ∧ error ≠ .counterExhausted
  | .data _ | .notAuthenticated _ | .incompatible _ => True

def HasOwnErrors {α : Type} (result : Except ProtocolError α) : Prop :=
  ∀ error, result = .error error → (TagError.protocol error).IsOwn

namespace HasOwnErrors

variable {α β : Type}

private theorem ok {value : α} : HasOwnErrors (.ok value) := nofun

private theorem error {error : ProtocolError} (own : (TagError.protocol error).IsOwn) :
    HasOwnErrors (.error error : Except ProtocolError α) := by
  rintro _ ⟨⟩
  exact own

private theorem mapError_data (result : Except DataError α) : HasOwnErrors (result.mapError .data) := by
  cases result with
  | error => exact error ⟨nofun, nofun, nofun⟩
  | ok => exact ok

end HasOwnErrors

private theorem Frame.read_hasOwnErrors (family : ChipFamily) (page : UInt8) :
    HasOwnErrors (Frame.read family page) := by
  unfold Frame.read checkPage
  split
  · exact .error ⟨nofun, nofun, nofun⟩
  · exact .ok

private theorem Frame.write_hasOwnErrors (family : ChipFamily) (page : UInt8) (data : Bytes) :
    HasOwnErrors (Frame.write family page data) := by
  unfold Frame.write checkPage
  split
  · exact .error ⟨nofun, nofun, nofun⟩
  · by_cases sized : data.length = Layout.pageSize
    · simp only [sized, ne_eq, not_true_eq_false, if_false]
      exact .ok
    · simp only [ne_eq, sized, not_false_eq_true, if_true]
      exact .error ⟨nofun, nofun, nofun⟩

namespace Response

def Explains {α : Type} (response : Bytes) (result : Except ProtocolError α) : Prop :=
  ∀ error, result = .error error →
    (∃ code, nak? response = some code ∧ error = .nak code) ∨ (TagError.protocol error).IsOwn

variable {α : Type} {response : Bytes}

private theorem Explains.of_own {result : Except ProtocolError α} (own : HasOwnErrors result) :
    Explains response result :=
  fun error failed => .inr (own error failed)

private theorem Explains.checked {rest : Except ProtocolError α} (own : HasOwnErrors rest) :
    Explains response (do checkNak response; rest) := by
  unfold checkNak
  cases refused : nak? response with
  | some code =>
    rintro _ ⟨⟩
    exact .inl ⟨code, refused, rfl⟩
  | none => exact .of_own own

private theorem version_explains (response : Bytes) : Explains response (version response) := by
  refine .checked ?_
  by_cases empty : response.isEmpty = true
  · rw [if_pos empty]
    exact .error ⟨nofun, nofun, nofun⟩
  · rw [if_neg empty]
    exact .ok

private theorem block_explains (response : Bytes) : Explains response (block response) := by
  refine .checked ?_
  by_cases sized : response.length = Layout.readLength
  · simp only [sized, ne_eq, not_true_eq_false, if_false]
    exact .ok
  · simp only [ne_eq, sized, not_false_eq_true, if_true]
    exact .error ⟨nofun, nofun, nofun⟩

private theorem acknowledgement_explains (response : Bytes) :
    Explains response (acknowledgement response) := by
  unfold acknowledgement
  split
  next code =>
    by_cases accepted : code = Layout.ack
    · rw [if_pos accepted]
      exact .of_own .ok
    · rw [if_neg accepted]
      by_cases small : code ≤ Layout.nakMax
      · rw [if_pos small]
        rintro _ ⟨⟩
        exact .inl ⟨code, if_pos ⟨accepted, small⟩, rfl⟩
      · rw [if_neg small]
        exact .of_own (.error ⟨nofun, nofun, nofun⟩)
  next => exact .of_own (.error ⟨nofun, nofun, nofun⟩)

private theorem requestedPage_hasOwnErrors (block : BitVector) : HasOwnErrors (requestedPage block) := by
  unfold requestedPage
  split
  · exact .error ⟨nofun, nofun, nofun⟩
  · exact .mapError_data _

private theorem uid_hasOwnErrors (block : Bytes) : HasOwnErrors (uid block) := by
  unfold uid
  split
  · dsimp only
    split
    · exact .error ⟨nofun, nofun, nofun⟩
    · exact .mapError_data _
  · exact .error ⟨nofun, nofun, nofun⟩

end Response

namespace Session

variable {τ α β : Type} {during : Session τ → Prop} {verdict : TagError → Session τ → Prop}

def Meets (during : Session τ → Prop) (verdict : TagError → Session τ → Prop)
    (action : SessionM τ α) : Prop :=
  ∀ session, during session → Ensures action session (fun _ => during) verdict

namespace Meets

theorem pure {value : α} : Meets during verdict (pure value : SessionM τ α) :=
  fun _ holds => ensures_pure.mpr holds

theorem bind {action : SessionM τ α} {next : α → SessionM τ β} (first : Meets during verdict action)
    (rest : ∀ value, Meets during verdict (next value)) : Meets during verdict (action >>= next) :=
  fun session holds => (first session holds).bind fun value after => rest value after

private theorem discard {action : SessionM τ α} (meets : Meets during verdict action) :
    Meets during verdict (do let _ ← action) :=
  meets.bind fun _ => pure

theorem get {next : Session τ → SessionM τ β}
    (rest : ∀ session, Meets during verdict (next session)) :
    Meets during verdict (get >>= next) :=
  fun session holds => ensures_bind.mpr (ensures_get.mpr (rest session session holds))

private theorem forM {action : α → SessionM τ PUnit} (items : List α)
    (each : ∀ item, Meets during verdict (action item)) :
    Meets during verdict (items.forM action) := by
  induction items with
  | nil => exact pure
  | cons item items ih => exact (each item).bind fun _ => ih

private theorem mapM {action : α → SessionM τ β} (items : List α)
    (each : ∀ item, Meets during verdict (action item)) :
    Meets during verdict (items.mapM action) := by
  induction items with
  | nil => exact pure
  | cons item items ih =>
    rw [List.mapM_cons]
    exact (each item).bind fun _ => ih.bind fun _ => pure

end Meets

variable [NfcTag τ]

structure Judges (during : Session τ → Prop) (verdict : TagError → Session τ → Prop) : Prop where
  request : ∀ command, Frame.IsRequest command → ∀ session, during session →
    Ensures (exchange command) session
      (fun response after => during after ∧
        ∀ code, Response.nak? response = some code → verdict (.protocol (.nak code)) after)
      verdict
  learn : ∀ session auth0, during session → during { session with auth0 := some auth0 }
  own : ∀ session error, during session → error.IsOwn → verdict error session

namespace Judges

variable (judges : Judges during verdict)
include judges

private theorem throw {error : TagError} (own : error.IsOwn) :
    Meets during verdict (throw error : SessionM τ α) :=
  fun session holds => ensures_throw.mpr (judges.own session error holds own)

private theorem ofProtocol {result : Except ProtocolError α} (own : HasOwnErrors result) :
    Meets during verdict (ofProtocol result : SessionM τ α) := by
  cases result with
  | ok => exact .pure
  | error error => exact judges.throw (own error rfl)

private theorem ofData {result : Except DataError α} :
    Meets during verdict (ofData result : SessionM τ α) := by
  cases result with
  | ok => exact .pure
  | error => exact judges.throw trivial

private theorem asked {command : Bytes} (request : Frame.IsRequest command)
    {interpret : Bytes → Except ProtocolError α}
    (explains : ∀ response, Response.Explains response (interpret response)) :
    Meets during verdict (do Session.ofProtocol (interpret (← exchange command))) := by
  refine fun session holds => (judges.request command request session holds).bind ?_
  rintro response after ⟨left, refusal⟩
  rw [ensures_ofProtocol]
  cases made : interpret response with
  | ok => exact left
  | error error =>
    obtain ⟨code, refused, rfl⟩ | own := explains response error made
    · exact refusal code refused
    · exact judges.own after _ left own

private theorem getVersion : Meets during verdict (getVersion (τ := τ)) :=
  judges.asked Frame.isRequest_getVersion Response.version_explains

private theorem readBlock (page : UInt8) :
    Meets during verdict (readBlock (τ := τ) [CommandCode.read.code, page]) :=
  judges.asked (Frame.isRequest_read page) Response.block_explains

private theorem auth0Page : Meets during verdict (auth0Page (τ := τ)) :=
  .get fun session => by
    cases session.auth0 with
    | some auth0 => exact .pure
    | none =>
      dsimp only
      rw [Frame.read_auth0Page]
      refine (judges.readBlock _).bind fun block => ?_
      refine (judges.ofProtocol (Response.requestedPage_hasOwnErrors _)).bind fun page => ?_
      exact fun after holds => ensures_bind.mpr (ensures_modify.mpr (judges.learn after _ holds))

private theorem ensureAccess (page : UInt8) (access : Access) :
    Meets during verdict (ensureAccess (τ := τ) page access) :=
  .get fun session => by
    cases session.engine with
    | some engine =>
      dsimp only
      split
      · exact judges.throw trivial
      · exact .pure
    | none =>
      refine judges.auth0Page.bind fun auth0 => ?_
      split
      · exact judges.throw trivial
      · exact .pure

private theorem checkedRead {next : Bytes → SessionM τ α} (page : UInt8)
    (rest : ∀ block, Meets during verdict (next block)) :
    Meets during verdict (do
      let frame ← Session.ofProtocol (Frame.read (← get).family page)
      Session.ensureAccess page .read
      let block ← Session.readBlock frame
      next block) :=
  fun session holds => by
    refine ensures_bind.mpr (ensures_get.mpr ?_)
    cases made : Frame.read session.family page with
    | error error => exact judges.own session _ holds (Frame.read_hasOwnErrors _ _ _ made)
    | ok frame =>
      obtain rfl := Frame.read_eq_ok made
      exact ((judges.ensureAccess page .read).bind fun _ => (judges.readBlock page).bind rest)
        session holds

private theorem readPage (page : UInt8) : Meets during verdict (readPage (τ := τ) page) :=
  judges.checkedRead page fun _ => judges.ofProtocol (Response.requestedPage_hasOwnErrors _)

private theorem readStep (step : ReadStep) : Meets during verdict (readStep (τ := τ) step) :=
  judges.checkedRead step.page fun _ => .pure

private theorem readUid : Meets during verdict (readUid (τ := τ)) :=
  .get fun session => by
    rw [Frame.read_header]
    exact (judges.readBlock 0).bind fun block => judges.ofProtocol (Response.uid_hasOwnErrors block)

private theorem writePage (page : UInt8) (data : Bytes) :
    Meets during verdict (writePage (τ := τ) page data) :=
  fun session holds => by
    refine ensures_bind.mpr (ensures_get.mpr ?_)
    cases made : Frame.write session.family page data with
    | error error => exact judges.own session _ holds (Frame.write_hasOwnErrors _ _ _ _ made)
    | ok frame =>
      obtain ⟨rfl, _⟩ := Frame.write_eq_ok made
      exact ((judges.ensureAccess page .write).bind fun _ => judges.asked
        (Frame.isRequest_write page data) Response.acknowledgement_explains) session holds

private theorem setAuth0 (auth0 : UInt8) : Meets during verdict (setAuth0 (τ := τ) auth0) :=
  .get fun _ => (judges.readPage _).bind fun _ => (judges.writePage _ _).bind fun _ session holds =>
    ensures_modify.mpr (judges.learn session auth0 holds)

private theorem isProtected : Meets during verdict (isProtected (τ := τ)) :=
  judges.auth0Page.bind fun _ => .get fun _ => .pure

private theorem requireAes (purpose : String) : Meets during verdict (requireAes (τ := τ) purpose) :=
  .get fun _ => by
    split
    · exact judges.throw trivial
    · exact .pure

private theorem cmacRequired : Meets during verdict (cmacRequired (τ := τ)) :=
  (judges.requireAes _).bind fun _ => (judges.readPage _).bind fun _ => .pure

private theorem setCmac (enabled : Bool) : Meets during verdict (setCmac (τ := τ) enabled) :=
  (judges.requireAes _).bind fun _ => (judges.readPage _).bind fun _ => judges.writePage _ _

private theorem readLimit : Meets during verdict (readLimit (τ := τ)) :=
  .get fun _ => by
    split
    · exact .pure
    · exact judges.auth0Page.bind fun _ => .pure

private theorem readUserMemory (page : UInt8) : Meets during verdict (readUserMemory (τ := τ) page) := by
  refine judges.ofData.bind fun _ => judges.readLimit.bind fun limit => ?_
  have content : Meets during verdict (do
      let parts ← (readPlan page limit).mapM (Session.readStep (τ := τ))
      return parts.flatten) :=
    (Meets.mapM _ judges.readStep).bind fun _ => .pure
  split
  · refine Meets.bind (judges.throw ?_) fun _ => content
    trivial
  · exact content

private theorem writePages (first : UInt8) (chunks : List Bytes) :
    Meets during verdict (writePages (τ := τ) first chunks) :=
  Meets.forM _ fun _ => judges.writePage _ _

private theorem writeUserMemory (page : UInt8) (data : Bytes) :
    Meets during verdict (writeUserMemory (τ := τ) page data) :=
  judges.ofData.bind fun _ => judges.writePages _ _

private theorem writeKey (key : AuthKey) : Meets during verdict (writeKey (τ := τ) key) :=
  .get fun _ => by
    split
    · exact judges.writePages _ _
    · exact (judges.writePages _ _).bind fun _ => judges.writePages _ _
    · exact judges.throw trivial

theorem perform (call : SessionCall) (plain : call.changesHandshake = false) :
    Meets during verdict (call.perform (τ := τ)) := by
  cases call with
  | authenticate | reconnect | close => cases plain
  | getVersion => exact judges.getVersion.discard
  | readPage page => exact (judges.readPage page).discard
  | writePage page data => exact judges.writePage page data
  | readUid => exact judges.readUid.discard
  | auth0 => exact judges.auth0Page.discard
  | setAuth0 page => exact judges.setAuth0 page
  | isProtected => exact judges.isProtected.discard
  | cmacRequired => exact judges.cmacRequired.discard
  | setCmac enabled => exact judges.setCmac enabled
  | readUserMemory page => exact (judges.readUserMemory page).discard
  | writeUserMemory page data => exact judges.writeUserMemory page data
  | writeKey key => exact judges.writeKey key

end Judges
end Session
end Wristband
