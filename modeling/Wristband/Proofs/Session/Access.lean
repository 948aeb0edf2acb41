import Wristband.Proofs.Bytes.Pieces
import Wristband.Proofs.Session.Exchange

/-! What the access check leaves to an argument about sessions. A property that survives the
commands that the check lets through survives every operation on the memory. -/

namespace Wristband

theorem Frame.read_eq_ok {family : ChipFamily} {page : UInt8} {frame : Bytes}
    (made : Frame.read family page = .ok frame) : frame = [CommandCode.read.code, page] := by
  unfold Frame.read checkPage at made
  split at made <;> cases made
  rfl

theorem Frame.write_eq_ok {family : ChipFamily} {page : UInt8} {data frame : Bytes}
    (made : Frame.write family page data = .ok frame) :
    frame = CommandCode.write.code :: page :: data ∧ data.length = Layout.pageSize := by
  unfold Frame.write checkPage at made
  split at made
  · cases made
  · by_cases sized : data.length = Layout.pageSize
    · simp only [sized, ne_eq, not_true_eq_false, if_false] at made
      cases made
      exact ⟨rfl, sized⟩
    · simp only [ne_eq, sized, not_false_eq_true, if_true] at made
      cases made

theorem Frame.read_header (family : ChipFamily) :
    Frame.read family 0 = .ok [CommandCode.read.code, 0] := by
  cases family <;> rfl

theorem Frame.read_auth0Page (family : ChipFamily) :
    Frame.read family family.auth0Page = .ok [CommandCode.read.code, family.auth0Page] := by
  cases family <;> rfl

theorem userRange_eq_ok {page count : UInt8} {length : Nat}
    (fits : userRange page length = .ok count) : Layout.userStart ≤ page ∧
      page.toNat + (length + Layout.pageSize - 1) / Layout.pageSize ≤ Layout.userEnd.toNat := by
  unfold userRange at fits
  simp only at fits
  split at fits
  next => cases fits
  next inside =>
    obtain ⟨notBefore, notBehind⟩ := not_or.mp inside
    exact ⟨UInt8.not_lt.mp notBefore, Nat.not_lt.mp notBehind⟩

theorem lt_userEnd_of_userRange {page count : UInt8} {length : Nat} (some_ : 0 < length)
    (fits : userRange page length = .ok count) : page < Layout.userEnd := by
  have ends := (userRange_eq_ok fits).2
  rw [UInt8.lt_iff_toNat_lt]
  simp only [Layout.pageSize] at ends
  omega

theorem toNat_pageAfter {first : UInt8} {index : Nat} (inside : first.toNat + index < 256) :
    (first + UInt8.ofNat index).toNat = first.toNat + index := by
  rw [UInt8.toNat_add, UInt8.toNat_ofNat', Nat.mod_eq_of_lt (by omega : index < 2 ^ 8)]
  exact Nat.mod_eq_of_lt inside

theorem userEnd_lt_auth0Page (family : ChipFamily) : Layout.userEnd < family.auth0Page := by
  cases family <;> decide

theorem auth0Page_lt_keyPage (family : ChipFamily) : family.auth0Page < Layout.tdesKeyPage := by
  cases family <;> decide

theorem keyPage_lt_pageCount (family : ChipFamily) : Layout.tdesKeyPage < family.pageCount := by
  cases family <;> decide

theorem pageCount_le (family : ChipFamily) : family.pageCount.toNat ≤ 60 := by
  cases family <;> decide

theorem auth0Page_lt_pageCount (family : ChipFamily) : family.auth0Page < family.pageCount :=
  UInt8.lt_trans (auth0Page_lt_keyPage family) (keyPage_lt_pageCount family)

theorem userEnd_lt_pageCount (family : ChipFamily) : Layout.userEnd < family.pageCount :=
  UInt8.lt_trans (userEnd_lt_auth0Page family) (auth0Page_lt_pageCount family)

private theorem length_deriveTdesKey_le (secret : Bytes) :
    (deriveTdesKey secret).length ≤ Layout.tdesKeyLength :=
  List.length_take_le _ _

namespace Session

variable {τ : Type} [NfcTag τ] {α : Type} {session : Session τ}

def Admits (session : Session τ) (access : Access) (page : UInt8) : Prop :=
  session.isAuthenticated = true ∨ session.engine = none ∧
    ∃ auth0, session.auth0 = some auth0 ∧ access.isProtected auth0 page = false

/-- What a property of sessions has to survive for the sake of the operations that only read.
The two commands for the identifier and for AUTH0 go out without a check. -/
structure Reads (during afterwards : Session τ → Prop) : Prop where
  weaken : ∀ session, during session → afterwards session
  version : Keeps during afterwards (exchange Frame.getVersion)
  lookUp : Keeps during afterwards auth0Page
  uid : Keeps during afterwards (exchange [CommandCode.read.code, 0])
  page : ∀ page, Leads (fun session => during session ∧ session.Admits .read page)
    during afterwards (exchange [CommandCode.read.code, page])

variable {during afterwards finish failed : Session τ → Prop}

private theorem auth0Page_known (free : session.engine = none) :
    Ensures auth0Page session
      (fun auth0 after => after.engine = none ∧ after.auth0 = some auth0) (fun _ _ => True) := by
  unfold auth0Page
  rw [ensures_bind, ensures_get]
  cases cached : session.auth0 with
  | some auth0 => exact ensures_pure.mpr ⟨free, cached⟩
  | none =>
    have answered : Ensures (readBlock (τ := τ) [CommandCode.read.code, session.family.auth0Page])
        session (fun _ after => after.engine = none) (fun _ _ => True) := by
      have sent : Ensures (exchange [CommandCode.read.code, session.family.auth0Page]) session
          (fun _ after => after.engine = none) (fun _ _ => True) := by
        refine ensures_exchange (fun _ after exchanged => ?_) fun _ _ _ => trivial
        have same := exchanged.sameStanding
        rw [SameStanding, free, Option.map_none, Option.map_eq_none_iff] at same
        exact same
      refine sent.bind fun block after kept => ?_
      rw [ensures_ofProtocol]
      cases Response.block block with
      | ok => exact kept
      | error => trivial
    dsimp only
    rw [Frame.read_auth0Page]
    refine answered.bind fun block after kept => ?_
    rw [ensures_bind, ensures_ofProtocol]
    cases Response.requestedPage (.ofBytes block) with
    | error => trivial
    | ok page => exact ⟨kept, rfl⟩

/-- Looking AUTH0 up is one exchange, and what follows it is learned. -/
theorem ensures_auth0Page (weaken : ∀ session, during session → afterwards session)
    (learn : ∀ session auth0, during session → during { session with auth0 := some auth0 })
    (unknown : session.auth0 = none)
    (sent : Ensures (exchange [CommandCode.read.code, session.family.auth0Page]) session
      (fun _ => during) (fun _ => afterwards)) :
    Ensures auth0Page session (fun _ => during) (fun _ => afterwards) := by
  refine ensures_bind.mpr (ensures_get.mpr ?_)
  rw [unknown]
  dsimp only
  rw [Frame.read_auth0Page]
  refine (sent.bind fun _ => Leads.ofProtocol weaken).bind fun block => ?_
  refine (Leads.ofProtocol weaken).bind fun page after holds => ?_
  exact ensures_bind.mpr (ensures_modify.mpr (learn after _ holds))

theorem auth0Page_keeps (weaken : ∀ session, during session → afterwards session)
    (learn : ∀ session auth0, during session → during { session with auth0 := some auth0 })
    (read : ∀ page, Keeps during afterwards (exchange [CommandCode.read.code, page])) :
    Keeps during afterwards (auth0Page (τ := τ)) := by
  intro session holds
  cases cached : session.auth0 with
  | none => exact ensures_auth0Page weaken learn cached (read _ session holds)
  | some auth0 =>
    refine ensures_bind.mpr (ensures_get.mpr ?_)
    rw [cached]
    exact ensures_pure.mpr holds

/-- An authenticated session passes the access check, and nothing is sent for it. -/
theorem ensureAccess_authenticated (standing : session.isAuthenticated = true) (page : UInt8)
    (access : Access) :
    Ensures (ensureAccess page access) session (fun _ after => after = session)
      (fun _ _ => False) := by
  obtain ⟨engine, held, complete⟩ := isAuthenticated_iff.mp standing
  refine ensures_bind.mpr (ensures_get.mpr ?_)
  rw [held]
  dsimp only
  rw [complete]
  exact ensures_pure.mpr rfl

section

variable {ends : TagError → Session τ → Prop} {frame : Bytes} {page : UInt8}
  (standing : session.isAuthenticated = true)
include standing

private theorem fails_checked {action : SessionM τ α}
    (fails : Ensures action session (fun _ _ => False) ends) (kind : Access) :
    Ensures (do
      Session.ensureAccess page kind
      action) session (fun _ _ => False) ends := by
  refine (ensureAccess_authenticated standing page kind).total.bind ?_
  rintro _ _ rfl
  exact fails

theorem readPage_fails (made : Frame.read session.family page = .ok frame)
    (fails : Ensures (exchange frame) session (fun _ _ => False) ends) :
    Ensures (readPage page) session (fun _ _ => False) ends := by
  refine ensures_bind.mpr (ensures_get.mpr (ensures_bind.mpr (ensures_ofProtocol.mpr ?_)))
  rw [made]
  exact fails_checked standing fails.abort.abort .read

theorem writePage_fails {data : Bytes} (made : Frame.write session.family page data = .ok frame)
    (fails : Ensures (exchange frame) session (fun _ _ => False) ends) :
    Ensures (writePage page data) session (fun _ _ => False) ends := by
  refine ensures_bind.mpr (ensures_get.mpr (ensures_bind.mpr (ensures_ofProtocol.mpr ?_)))
  rw [made]
  exact fails_checked standing fails.abort .write

end

theorem ensures_readUserMemory {page : UInt8}
    (weaken : ∀ session, during session → afterwards session)
    (outside : ∀ error, userRange page Layout.pageSize = .error error → afterwards session)
    (limit : ∀ pages, userRange page Layout.pageSize = .ok pages →
      Ensures readLimit session (fun _ => during) (fun _ => afterwards))
    (step : ∀ step, Keeps during afterwards (readStep (τ := τ) step)) :
    Ensures (readUserMemory page) session (fun _ => during) (fun _ => afterwards) := by
  refine ensures_bind.mpr (ensures_ofData.mpr ?_)
  cases fits : userRange page Layout.pageSize with
  | error error => exact outside error fits
  | ok pages =>
    refine (limit pages fits).bind fun last => ?_
    have content : Keeps during afterwards (do
        let parts ← (readPlan page last).mapM (readStep (τ := τ))
        return parts.flatten) :=
      (Keeps.mapM _ fun part _ => step part).bind fun _ => Leads.pure fun _ holds => holds
    split
    · exact (Leads.throw weaken).bind fun _ => content
    · exact content

namespace Reads

variable (reads : Reads during afterwards)
include reads

theorem ensureAccess (page : UInt8) (access : Access) :
    Leads during (fun session => during session ∧ session.Admits access page) afterwards
      (ensureAccess page access) := by
  refine Leads.get fun session holds => ?_
  cases held : session.engine with
  | some engine =>
    dsimp only
    split
    next => exact ensures_throw.mpr (reads.weaken session holds)
    next authenticated =>
      refine ensures_pure.mpr ⟨holds, .inl (isAuthenticated_iff.mpr ⟨engine, held, ?_⟩)⟩
      simpa using authenticated
  | none =>
    refine ((reads.lookUp session holds).and (auth0Page_known held)).bind
      (fun auth0 after known => ?_) |>.onError fun _ _ kept => kept.1
    obtain ⟨kept, free, cached⟩ := known
    split
    next => exact ensures_throw.mpr ⟨reads.weaken after kept, trivial⟩
    next public_ =>
      exact ensures_pure.mpr ⟨kept, .inr ⟨free, auth0, cached, Bool.eq_false_iff.mpr public_⟩⟩

private theorem readBlock {start : Session τ → Prop} {frame : Bytes}
    (sent : Leads start during afterwards (exchange frame)) :
    Leads start during afterwards (readBlock frame) :=
  sent.bind fun _ => Leads.ofProtocol reads.weaken

theorem getVersion : Keeps during afterwards (getVersion (τ := τ)) :=
  reads.version.bind fun _ => Leads.ofProtocol reads.weaken

theorem readUid : Keeps during afterwards (readUid (τ := τ)) :=
  Leads.get fun session => by
    rw [Frame.read_header]
    exact (reads.readBlock reads.uid).bind (fun _ => Leads.ofProtocol reads.weaken) session

private theorem checkedRead {next : Bytes → SessionM τ α} (page : UInt8)
    (rest : ∀ block, Keeps during afterwards (next block)) :
    Keeps during afterwards (do
      let frame ← ofProtocol (Frame.read (← get).family page)
      Session.ensureAccess page .read
      let block ← Session.readBlock frame
      next block) :=
  Leads.get fun session holds => by
    cases made : Frame.read session.family page with
    | error error => exact ensures_throw.mpr (reads.weaken session holds)
    | ok frame =>
      obtain rfl := Frame.read_eq_ok made
      exact (reads.ensureAccess page .read).bind
        (fun _ => (reads.readBlock (reads.page page)).bind rest) session holds

theorem readPage (page : UInt8) : Keeps during afterwards (readPage (τ := τ) page) :=
  reads.checkedRead page fun _ => Leads.ofProtocol reads.weaken

theorem readStep (step : ReadStep) : Keeps during afterwards (readStep (τ := τ) step) :=
  reads.checkedRead step.page fun _ => Leads.pure fun _ holds => holds

theorem isProtected : Keeps during afterwards (isProtected (τ := τ)) :=
  reads.lookUp.bind fun _ => Leads.get fun _ holds => ensures_pure.mpr holds

theorem requireAes (purpose : String) : Keeps during afterwards (requireAes (τ := τ) purpose) :=
  Leads.get fun session holds => by
    split
    · exact ensures_throw.mpr (reads.weaken session holds)
    · exact ensures_pure.mpr holds

theorem cmacRequired : Keeps during afterwards (cmacRequired (τ := τ)) :=
  (reads.requireAes _).bind fun _ => (reads.readPage _).bind fun _ => Leads.pure fun _ holds => holds

private theorem readLimit : Keeps during afterwards (readLimit (τ := τ)) :=
  Leads.get fun session holds => by
    split
    · exact ensures_pure.mpr holds
    · exact reads.lookUp.bind (fun _ => Leads.pure fun _ kept => kept) session holds

theorem readUserMemory (page : UInt8) :
    Keeps during afterwards (readUserMemory (τ := τ) page) :=
  fun session holds => ensures_readUserMemory reads.weaken (fun _ _ => reads.weaken session holds)
    (fun _ _ => reads.readLimit session holds) reads.readStep

theorem writePage {page : UInt8} {data : Bytes}
    (write : data.length = Layout.pageSize →
      Leads (fun session => during session ∧ session.Admits .write page) finish failed
        (exchange (CommandCode.write.code :: page :: data)))
    (lost : ∀ session, afterwards session → failed session)
    (spent : ∀ session, finish session → failed session) :
    Leads during finish failed (writePage (τ := τ) page data) :=
  Leads.get fun session holds => by
    cases made : Frame.write session.family page data with
    | error error => exact ensures_throw.mpr (lost session (reads.weaken session holds))
    | ok frame =>
      obtain ⟨rfl, sized⟩ := Frame.write_eq_ok made
      exact ((reads.ensureAccess page .write).onError lost).bind
        (fun _ => (write sized).bind fun _ => Leads.ofProtocol spent) session holds

theorem relax {later : Session τ → Prop} (implied : ∀ session, afterwards session → later session) :
    Reads during later where
  weaken session holds := implied session (reads.weaken session holds)
  version := reads.version.onError implied
  lookUp := reads.lookUp.onError implied
  uid := reads.uid.onError implied
  page page := (reads.page page).onError implied

end Reads

structure Writes (during afterwards : Session τ → Prop) : Prop extends Reads during afterwards where
  write : ∀ page data, (∀ family : ChipFamily, page ≠ family.auth0Page) →
    data.length = Layout.pageSize →
      Leads (fun session => during session ∧ session.Admits .write page) during afterwards
        (exchange (CommandCode.write.code :: page :: data))

namespace Writes

variable (writes : Writes during afterwards)
include writes

private theorem writePage {page : UInt8} (data : Bytes)
    (apart : ∀ family : ChipFamily, page ≠ family.auth0Page) :
    Keeps during afterwards (writePage (τ := τ) page data) :=
  writes.toReads.writePage (writes.write page data apart) (fun _ kept => kept) writes.weaken

private theorem writePages {first : UInt8} {chunks : List Bytes}
    (apart : ∀ index < chunks.length, ∀ family : ChipFamily,
      first + UInt8.ofNat index ≠ family.auth0Page) :
    Keeps during afterwards (writePages (τ := τ) first chunks) :=
  Keeps.forM _ fun chunk listed =>
    writes.writePage chunk.1 (apart chunk.2 (List.snd_lt_of_mem_zipIdx listed))

/-- Data that fits into user memory does not reach the configuration. -/
theorem writeUserMemory (page : UInt8) (data : Bytes) :
    Keeps during afterwards (writeUserMemory (τ := τ) page data) := by
  intro session holds
  refine ensures_bind.mpr (ensures_ofData.mpr ?_)
  cases fits : userRange page data.length with
  | error error => exact writes.weaken session holds
  | ok pages =>
    obtain ⟨_, ends⟩ := userRange_eq_ok fits
    refine writes.writePages (fun index inside family reached => ?_) session holds
    rw [List.length_map, length_pieces (by decide)] at inside
    have position := congrArg UInt8.toNat reached
    have behind := UInt8.lt_iff_toNat_lt.mp (userEnd_lt_auth0Page family)
    have last : page.toNat + index < Layout.userEnd.toNat := by omega
    rw [toNat_pageAfter (Nat.lt_trans last (by decide))] at position
    omega

private theorem writeKeyPages {first : UInt8} {key : Bytes} (sized : key.length ≤ 16)
    (behind : Layout.tdesKeyPage ≤ first) (below : first < 0xF0) :
    Keeps during afterwards (Session.writePages (τ := τ) first (pieces Layout.pageSize key)) := by
  refine writes.writePages fun index inside family reached => ?_
  rw [length_pieces (by decide)] at inside
  have few : index < 4 := by simp only [Layout.pageSize] at inside; omega
  have position := congrArg UInt8.toNat reached
  have early := UInt8.lt_iff_toNat_lt.mp (auth0Page_lt_keyPage family)
  have middle := UInt8.le_iff_toNat_le.mp behind
  have late : first.toNat < 240 := UInt8.lt_iff_toNat_lt.mp below
  rw [toNat_pageAfter (by omega)] at position
  omega

theorem writeKey (key : AuthKey) : Keeps during afterwards (writeKey (τ := τ) key) :=
  Leads.get fun session holds => by
    split
    next secret _ =>
      exact writes.writeKeyPages (length_deriveTdesKey_le _) (by decide) (by decide) session holds
    next key _ =>
      have sized := Nat.le_of_eq key.property
      exact ((writes.writeKeyPages sized (by decide) (by decide)).bind
        fun _ => writes.writeKeyPages sized (by decide) (by decide)) session holds
    next => exact ensures_throw.mpr (writes.weaken session holds)

theorem relax {later : Session τ → Prop} (implied : ∀ session, afterwards session → later session) :
    Writes during later where
  toReads := writes.toReads.relax implied
  write page data apart sized := (writes.write page data apart sized).onError implied

end Writes
end Session
end Wristband
