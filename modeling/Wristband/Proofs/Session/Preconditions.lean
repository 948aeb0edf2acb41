import Wristband.Proofs.Scan.Closing
import Wristband.Proofs.Session.Protection
import Wristband.Proofs.Session.Writing

/-! Which errors blame the caller. Arguments are judged before anything is sent, and nothing that
is judged later, neither an answer nor a frame that a session makes for itself, is blamed on them.
So an operation that blames its caller has not done anything. -/

namespace Wristband

def Blameless {α : Type} (result : Except ProtocolError α) : Prop :=
  ∀ error, result = .error error → error.isPrecondition = false

namespace Blameless

variable {α β : Type}

private theorem ok {value : α} : Blameless (.ok value) := nofun

private theorem error {error : ProtocolError} (late : error.isPrecondition = false) :
    Blameless (.error error : Except ProtocolError α) := by
  rintro _ ⟨⟩
  exact late

private theorem bind {first : Except ProtocolError α} {next : α → Except ProtocolError β}
    (blameless : Blameless first) (rest : ∀ value, Blameless (next value)) :
    Blameless (first >>= next) := by
  cases first with
  | error cause => exact error (blameless cause rfl)
  | ok value => exact rest value

private theorem mapError_data (result : Except DataError α) : Blameless (result.mapError .data) := by
  cases result with
  | error => exact error rfl
  | ok => exact ok

end Blameless

namespace Response

private theorem checkNak_blameless (response : Bytes) : Blameless (checkNak response) := by
  unfold checkNak
  split
  · exact .error rfl
  · exact .ok

private theorem version_blameless (response : Bytes) : Blameless (version response) := by
  refine (checkNak_blameless response).bind fun _ => ?_
  dsimp only
  split
  · exact .error rfl
  · exact .ok

private theorem block_blameless (response : Bytes) : Blameless (block response) := by
  refine (checkNak_blameless response).bind fun _ => ?_
  dsimp only
  split
  · exact .error rfl
  · exact .ok

private theorem acknowledgement_blameless (response : Bytes) : Blameless (acknowledgement response) := by
  unfold acknowledgement
  split
  · split
    · exact .ok
    · split <;> exact .error rfl
  · exact .error rfl

private theorem uid_blameless (block : Bytes) : Blameless (uid block) := by
  unfold uid
  split
  · dsimp only
    split
    · exact .error rfl
    · exact .mapError_data _
  · exact .error rfl

end Response

namespace SecureChannel

variable (channel : SecureChannel)

private theorem checkCounter_blameless : Blameless channel.checkCounter := by
  unfold checkCounter
  split
  · exact .error rfl
  · exact .ok

private theorem verify_blameless (counter : UInt16) (frame : Bytes) :
    Blameless (channel.verify counter frame) := by
  unfold verify
  dsimp only
  split
  · exact .error rfl
  · split
    · exact .ok
    · exact .error rfl

private theorem sealCommand_blameless (command : Bytes) : Blameless (channel.sealCommand command) :=
  channel.checkCounter_blameless.bind fun _ => .ok

private theorem openResponse_blameless (response : Bytes) : Blameless (channel.openResponse response) :=
  channel.checkCounter_blameless.bind fun _ => (channel.verify_blameless _ response).bind fun _ => .ok

end SecureChannel

theorem Frame.lt_pageCount_of_checkPage {family : ChipFamily} {page : UInt8}
    (checked : Frame.checkPage family page = .ok ()) : page < family.pageCount := by
  unfold checkPage at checked
  split at checked
  · cases checked
  next known => exact UInt8.not_le.mp known

namespace Session

variable {τ α β : Type} {family : ChipFamily} {session : Session τ}

def Commits (family : ChipFamily) (action : SessionM τ α) (good : α → Prop) : Prop :=
  ∀ session, session.family = family →
    Ensures action session (fun value after => good value ∧ after.family = family)
      (fun error after => error.isPrecondition = false ∧ after.family = family)

/-- If the action blames its caller, it has not done anything. -/
def Guarded (session : Session τ) (action : SessionM τ α) : Prop :=
  Ensures action session (fun _ _ => True)
    (fun error after => error.isPrecondition = true → after = session)

private theorem handshakeError_late (error : TagError) : (handshakeError error).isPrecondition = false := by
  unfold handshakeError
  split
  next lost =>
    cases error with
    | hardware => rfl
    | _ => cases lost
  next => rfl

private theorem handshakes_family [NfcTag τ] : Handshakes (τ := τ) (·.family = family) where
  engine _ _ own := own
  random _ _ own := own
  step _ _ _ own := exchange_leaves fun _ _ exchanged => exchanged.family.trans own

namespace Commits

variable {action : SessionM τ α} {good : α → Prop} {good' : β → Prop}

private theorem onValue {implied : α → Prop} (commits : Commits family action good)
    (weaken : ∀ value, good value → implied value) : Commits family action implied :=
  fun session own => (commits session own).onValue fun value _ kept => ⟨weaken value kept.1, kept.2⟩

private theorem done (commits : Commits family action good) : Commits family action fun _ => True :=
  commits.onValue fun _ _ => trivial

theorem pure {value : α} (holds : good value) : Commits family (pure value : SessionM τ α) good :=
  fun _ own => ensures_pure.mpr ⟨holds, own⟩

theorem throw {error : TagError} (late : error.isPrecondition = false) :
    Commits family (throw error : SessionM τ α) good :=
  fun _ own => ensures_throw.mpr ⟨late, own⟩

theorem bind {next : α → SessionM τ β} (first : Commits family action good)
    (rest : ∀ value, good value → Commits family (next value) good') :
    Commits family (action >>= next) good' :=
  fun session own => (first session own).bind fun value after kept => rest value kept.1 after kept.2

theorem get {next : Session τ → SessionM τ β}
    (rest : ∀ session, session.family = family → Commits family (next session) good') :
    Commits family (get >>= next) good' :=
  fun session own => ensures_bind.mpr (ensures_get.mpr (rest session own session own))

private theorem modify {change : Session τ → Session τ} {next : PUnit → SessionM τ β}
    (same : ∀ session, (change session).family = session.family)
    (rest : Commits family (next ⟨⟩) good') : Commits family (modify change >>= next) good' :=
  fun session own => ensures_bind.mpr (ensures_modify.mpr (rest _ ((same session).trans own)))

private theorem set {after : Session τ} {next : PUnit → SessionM τ β} (own : after.family = family)
    (rest : Commits family (next ⟨⟩) good') : Commits family (set after >>= next) good' :=
  fun _ _ => ensures_bind.mpr (ensures_set.mpr (rest after own))

private theorem ofProtocol {result : Except ProtocolError α} (blameless : Blameless result) :
    Commits (τ := τ) family (ofProtocol result) (result = .ok ·) := by
  intro session own
  rw [ensures_ofProtocol]
  cases result with
  | error error => exact ⟨blameless error rfl, own⟩
  | ok => exact ⟨rfl, own⟩

theorem tryCatch {handler : TagError → SessionM τ α} (attempt : Commits family action good)
    (handled : ∀ error, error.isPrecondition = false → Commits family (handler error) good) :
    Commits family (tryCatch action handler) good :=
  fun session own => ensures_tryCatch.mpr
    ((attempt session own).onError fun error after kept => handled error kept.1 after kept.2)

theorem ite {condition : Prop} [Decidable condition] {yes no : SessionM τ α}
    (taken : condition → Commits family yes good) (other : ¬ condition → Commits family no good) :
    Commits family (if condition then yes else no) good := by
  split
  next holds => exact taken holds
  next fails => exact other fails

private theorem ofData {result : Except DataError α} {value : α} {next : α → SessionM τ β}
    (passed : result = .ok value) (rest : Commits family (next value) good') :
    Commits family (ofData result >>= next) good' := by
  subst passed
  exact rest

private theorem ofHardware {result : Except HardwareError α} :
    Commits (τ := τ) family (ofHardware result) fun _ => True := by
  intro session own
  rw [ensures_ofHardware]
  cases result with
  | error => exact ⟨rfl, own⟩
  | ok => exact ⟨trivial, own⟩

private theorem forM {action : α → SessionM τ PUnit} (items : List α)
    (each : ∀ item ∈ items, Commits family (action item) fun _ => True) :
    Commits family (items.forM action) fun _ => True := by
  induction items with
  | nil => exact pure trivial
  | cons item items ih =>
    change Commits family (action item >>= fun _ => items.forM action) _
    exact (each item List.mem_cons_self).bind fun _ _ =>
      ih fun other listed => each other (List.mem_cons_of_mem item listed)

private theorem mapM {action : α → SessionM τ β} (items : List α)
    (each : ∀ item ∈ items, Commits family (action item) fun _ => True) :
    Commits family (items.mapM action) fun _ => True := by
  induction items with
  | nil => exact pure trivial
  | cons item items ih =>
    rw [List.mapM_cons]
    exact (each item List.mem_cons_self).bind fun _ _ =>
      (ih fun other listed => each other (List.mem_cons_of_mem item listed)).bind fun _ _ =>
        pure trivial

theorem guarded (commits : Commits session.family action good) : session.Guarded action :=
  (commits session rfl).weaken (fun _ _ _ => trivial) fun _ _ kept blamed => by
    rw [kept.1] at blamed
    cases blamed

private theorem requireAes (purpose : String) :
    Commits (τ := τ) family (requireAes purpose) fun _ => family = .ultralightAes :=
  get fun _ own => ite (fun _ => throw rfl) fun same =>
    pure (own.symm.trans (Decidable.not_not.mp same))

private theorem requestedPage {block : Bytes} (sized : block.length = Layout.readLength) :
    Commits (τ := τ) family (Session.ofProtocol (Response.requestedPage (.ofBytes block)))
      (·.length = Layout.pageSize) := by
  rw [Response.requestedPage_ofBytes sized]
  refine pure ?_
  rw [List.length_take, sized]
  rfl

variable [NfcTag τ]

private theorem exchange (command : Bytes) :
    Commits (τ := τ) family (exchange command) fun _ => True := fun session own => by
  refine ensures_exchange (fun _ _ exchanged => ⟨trivial, exchanged.family.trans own⟩)
    fun error after exchanged => ⟨?_, exchanged.family.trans own⟩
  cases exchanged with
  | exhausted _ refused => exact SecureChannel.sealCommand_blameless _ _ _ refused
  | spoilt _ _ _ refused => exact SecureChannel.openResponse_blameless _ _ _ refused
  | unanswered | ended => rfl

theorem getVersion : Commits (τ := τ) family getVersion fun _ => True :=
  (exchange _).bind fun response _ => (ofProtocol (Response.version_blameless response)).done

private theorem readBlock (frame : Bytes) :
    Commits (τ := τ) family (readBlock frame) (·.length = Layout.readLength) :=
  (exchange frame).bind fun response _ =>
    (ofProtocol (Response.block_blameless response)).onValue fun _ accepted => by
      obtain ⟨rfl, sized⟩ := Response.block_eq_ok accepted
      exact sized

theorem auth0Page : Commits (τ := τ) family auth0Page fun _ => True :=
  get fun session own => by
    cases session.auth0 with
    | some auth0 => exact pure trivial
    | none =>
      dsimp only
      rw [own, Frame.read_auth0Page]
      exact (readBlock _).bind fun _ sized => (requestedPage sized).bind fun _ _ =>
        modify (fun _ => rfl) (pure trivial)

private theorem ensureAccess (page : UInt8) (access : Access) :
    Commits (τ := τ) family (ensureAccess page access) fun _ => True :=
  get fun session _ => by
    cases session.engine with
    | some engine => exact ite (fun _ => throw rfl) fun _ => pure trivial
    | none => exact auth0Page.bind fun _ _ => ite (fun _ => throw rfl) fun _ => pure trivial

private theorem readPage {page : UInt8} (known : page < family.pageCount) :
    Commits (τ := τ) family (readPage page) (·.length = Layout.pageSize) :=
  get fun session own => by
    rw [own, Frame.read_ok known]
    exact (ensureAccess page .read).bind fun _ _ => (readBlock _).bind fun _ sized =>
      requestedPage sized

private theorem readStep {step : ReadStep} (known : step.page < family.pageCount) :
    Commits (τ := τ) family (readStep step) fun _ => True :=
  get fun session own => by
    rw [own, Frame.read_ok known]
    exact (ensureAccess step.page .read).bind fun _ _ => (readBlock _).bind fun _ _ => pure trivial

private theorem writePage {page : UInt8} {data : Bytes} (known : page < family.pageCount)
    (sized : data.length = Layout.pageSize) :
    Commits (τ := τ) family (writePage page data) fun _ => True :=
  get fun session own => by
    rw [own, Frame.write_ok known sized]
    exact (ensureAccess page .write).bind fun _ _ => (exchange _).bind fun response _ =>
      (ofProtocol (Response.acknowledgement_blameless response)).done

theorem readUid : Commits (τ := τ) family readUid fun _ => True :=
  get fun _ _ => by
    rw [Frame.read_header]
    exact (readBlock _).bind fun block _ => (ofProtocol (Response.uid_blameless block)).done

theorem isProtected : Commits (τ := τ) family isProtected fun _ => True :=
  auth0Page.bind fun _ _ => get fun _ _ => pure trivial

theorem setAuth0 (auth0 : UInt8) : Commits (τ := τ) family (setAuth0 auth0) fun _ => True :=
  get fun session own => by
    dsimp only
    rw [own]
    have known := auth0Page_lt_pageCount family
    exact (readPage known).bind fun config sized =>
      (writePage known ((List.length_set ..).trans sized)).bind fun _ _ =>
        fun _ own => ensures_modify.mpr ⟨trivial, own⟩

theorem cmacRequired : Commits (τ := τ) family cmacRequired fun _ => True :=
  (requireAes _).bind fun _ aes => by
    subst aes
    exact (readPage (by decide)).bind fun _ _ => pure trivial

theorem setCmac (enabled : Bool) : Commits (τ := τ) family (setCmac enabled) fun _ => True :=
  (requireAes _).bind fun _ aes => by
    subst aes
    exact (readPage (by decide)).bind fun _ sized =>
      writePage (by decide) ((List.length_set ..).trans sized)

private theorem readLimit : Commits (τ := τ) family readLimit (· ≤ Layout.userEnd) :=
  get fun _ _ => ite (fun _ => pure (UInt8.le_refl _)) fun _ =>
    auth0Page.bind fun _ _ => pure Std.min_le_right

theorem readUserMemory {page count : UInt8} (fits : userRange page Layout.pageSize = .ok count) :
    Commits (τ := τ) family (readUserMemory page) fun _ => True := by
  refine ofData fits (readLimit.bind fun limit user => ?_)
  have content : Commits (τ := τ) family (do
      let parts ← (readPlan page limit).mapM Session.readStep
      return parts.flatten) fun _ => True :=
    (mapM _ fun step listed => readStep (UInt8.lt_trans
      (Std.lt_of_lt_of_le (mem_readPlan listed).2 user) (userEnd_lt_pageCount family))).bind
        fun _ _ => pure trivial
  exact ite (fun _ => throw rfl) fun _ => content

private theorem writePages {first : UInt8} {data : Bytes} (whole : data.length % Layout.pageSize = 0)
    (inside : first.toNat + data.length / Layout.pageSize ≤ family.pageCount.toNat) :
    Commits (τ := τ) family (writePages first (pieces Layout.pageSize data)) fun _ => True := by
  have positive : 0 < Layout.pageSize := by decide
  refine forM _ fun chunk listed => ?_
  have index := List.snd_lt_of_mem_zipIdx listed
  rw [length_pieces positive] at index
  have low := pageCount_le family
  have known : first + UInt8.ofNat chunk.2 < family.pageCount := by
    simp only [Layout.pageSize] at *
    rw [UInt8.lt_iff_toNat_lt, toNat_pageAfter (by omega)]
    omega
  exact writePage known
    (length_of_mem_pieces positive whole (List.fst_mem_of_mem_zipIdx listed))

theorem writeUserMemory {page count : UInt8} {data : Bytes}
    (fits : userRange page data.length = .ok count) :
    Commits (τ := τ) family (writeUserMemory page data) fun _ => True := by
  rw [writeUserMemory_eq]
  have ends := (userRange_eq_ok fits).2
  have user := UInt8.lt_iff_toNat_lt.mp (userEnd_lt_pageCount family)
  have whole := Bytes.length_padded data
  refine ofData fits (writePages ?_ ?_)
  · rw [whole]
    exact Nat.mul_mod_left _ _
  · rw [whole, Nat.mul_div_cancel _ (by decide)]
    omega

theorem writeKey (key : AuthKey) : Commits (τ := τ) family (writeKey key) fun _ => True :=
  get fun _ own => by
    rw [own]
    cases family <;> cases key
    next => exact writePages (AuthKey.length_stored (.tdes _)) (by rw [length_deriveTdesKey]; decide)
    next => exact throw rfl
    next => exact throw rfl
    next key =>
      have whole : key.val.length % Layout.pageSize = 0 := by rw [key.property]; rfl
      exact (writePages whole (by rw [key.property]; decide)).bind fun _ _ =>
        writePages whole (by rw [key.property]; decide)

private theorem closeTag : Commits (τ := τ) family closeTag fun _ => True :=
  get fun _ own => set own ofHardware

private theorem connectTag : Commits (τ := τ) family connectTag fun _ => True :=
  get fun _ own => set own ofHardware

theorem reconnect : Commits (τ := τ) family reconnect fun _ => True :=
  modify (fun _ => rfl) (closeTag.bind fun _ _ => connectTag)

private theorem close : Commits (τ := τ) family close fun _ => True :=
  get fun _ _ => ite (fun _ => pure trivial) fun _ => modify (fun _ => rfl) closeTag

/-- Whatever a handshake fails for, its caller is told that the authentication failed or that the
tag is lost. -/
theorem authenticate (key : AuthKey) (slot : KeySlot) (cmac : Bool) :
    Commits (τ := τ) family (authenticate key slot cmac) fun _ => True :=
  get fun session own => by
    refine ite (fun _ => throw rfl) fun _ => ?_
    cases Engine.new session.family key slot cmac with
    | error error => exact throw rfl
    | ok engine =>
      exact fun _ own => ensures_tryCatch.mpr
        ((handshakes_family.handshake engine _ own).weaken (fun _ _ kept => ⟨trivial, kept.1⟩)
          fun error _ own => ensures_bind.mpr
            (ensures_modify.mpr (ensures_throw.mpr ⟨handshakeError_late error, own⟩)))

end Commits

namespace Guarded

private theorem checked {result : Except DataError α} {next : α → SessionM τ β}
    (passed : ∀ value, result = .ok value → session.Guarded (ofData result >>= next)) :
    session.Guarded (ofData result >>= next) := by
  cases result with
  | error => exact ensures_bind.mpr (ensures_ofData.mpr fun _ => rfl)
  | ok value => exact passed value rfl

theorem ofData {result : Except DataError α} {next : α → SessionM τ β}
    (rest : ∀ value, result = .ok value → Commits session.family (next value) fun _ => True) :
    session.Guarded (Session.ofData result >>= next) :=
  checked fun value passed => (Commits.ofData passed (rest value passed)).guarded

private theorem ofProtocol {result : Except ProtocolError α} {next : α → SessionM τ β}
    (rest : ∀ value, result = .ok value → session.Guarded (next value)) :
    session.Guarded (ofProtocol result >>= next) := by
  refine ensures_bind.mpr (ensures_ofProtocol.mpr ?_)
  cases result with
  | error => exact fun _ => rfl
  | ok value => exact rest value rfl

theorem discard {action : SessionM τ α} (guarded : session.Guarded action) :
    session.Guarded (do let _ ← action) :=
  Ensures.bind guarded fun _ _ _ => ensures_pure.mpr trivial

variable [NfcTag τ]

private theorem readPage (page : UInt8) : session.Guarded (readPage page) := by
  by_cases known : page < session.family.pageCount
  · exact (Commits.readPage known).guarded
  · refine ensures_bind.mpr (ensures_get.mpr (ofProtocol fun frame made => ?_))
    obtain ⟨_, checked, _⟩ := Except.bind_eq_ok.mp made
    exact absurd (Frame.lt_pageCount_of_checkPage checked) known

private theorem writePage (page : UInt8) (data : Bytes) : session.Guarded (writePage page data) := by
  by_cases fits : page < session.family.pageCount ∧ data.length = Layout.pageSize
  · exact (Commits.writePage fits.1 fits.2).guarded
  · refine ensures_bind.mpr (ensures_get.mpr (ofProtocol fun frame made => ?_))
    obtain ⟨_, checked, _⟩ := Except.bind_eq_ok.mp made
    exact absurd ⟨Frame.lt_pageCount_of_checkPage checked, (Frame.write_eq_ok made).2⟩ fits

private theorem readUserMemory (page : UInt8) : session.Guarded (readUserMemory page) :=
  checked fun _ fits => (Commits.readUserMemory fits).guarded

private theorem writeUserMemory (page : UInt8) (data : Bytes) :
    session.Guarded (writeUserMemory page data) :=
  checked fun _ fits => (Commits.writeUserMemory fits).guarded

theorem perform (call : SessionCall) : session.Guarded call.perform := by
  cases call with
  | authenticate key slot cmac => exact (Commits.authenticate key slot cmac).guarded
  | getVersion => exact Commits.getVersion.guarded.discard
  | readPage page => exact (readPage page).discard
  | writePage page data => exact writePage page data
  | readUid => exact Commits.readUid.guarded.discard
  | auth0 => exact Commits.auth0Page.guarded.discard
  | setAuth0 page => exact (Commits.setAuth0 page).guarded
  | isProtected => exact Commits.isProtected.guarded.discard
  | cmacRequired => exact Commits.cmacRequired.guarded.discard
  | setCmac enabled => exact (Commits.setCmac enabled).guarded
  | readUserMemory page => exact (readUserMemory page).discard
  | writeUserMemory page data => exact writeUserMemory page data
  | writeKey key => exact (Commits.writeKey key).guarded
  | reconnect => exact Commits.reconnect.guarded
  | close => exact Commits.close.guarded

end Guarded
end Session
end Wristband
