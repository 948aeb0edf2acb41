import Wristband.Proofs.Session.Conversation

/-! What a session reads from a tag that it agrees with. The blocks of a plan overlap the next ones
and the protected pages, and what counts of them is joined to one stretch of user memory. A stranger
reads up to AUTH0 only, whatever the blocks show. -/

namespace Wristband

theorem Response.block_ok {response : Bytes} (sized : response.length = Layout.readLength) :
    Response.block response = .ok response := by
  have several : Response.nak? response = none := by
    unfold nak?
    split
    · cases sized
    · rfl
  simp only [Response.block, checkNak, several, bind, Except.bind, sized, ne_eq, not_true_eq_false,
    if_false, pure, Except.pure]

theorem Frame.read_ok {family : ChipFamily} {page : UInt8} (known : page < family.pageCount) :
    Frame.read family page = .ok [CommandCode.read.code, page] := by
  rw [Frame.read, Frame.checkPage, if_neg (UInt8.not_le.mpr known)]
  rfl

theorem length_stretch {tag : SimulatedTag} (whole : tag.IsWhole) {first last : UInt8}
    (inside : last ≤ tag.family.pageCount) :
    (tag.stretch first last).length = (last.toNat - first.toNat) * Layout.pageSize := by
  have bound := UInt8.le_iff_toNat_le.mp inside
  rw [SimulatedTag.stretch, List.length_take, List.length_drop, whole]
  simp only [SimulatedTag.pageStart, Layout.pageSize]
  omega

theorem mem_readPlan {first limit : UInt8} {step : ReadStep} (listed : step ∈ readPlan first limit) :
    first ≤ step.page ∧ step.page < limit := by
  obtain ⟨index, inside, rfl⟩ := List.mem_map.mp listed
  have count := List.mem_range.mp inside
  have low := limit.toNat_lt
  simp only [Layout.readPages] at count ⊢
  rw [UInt8.le_iff_toNat_le, UInt8.lt_iff_toNat_lt, toNat_pageAfter (by omega)]
  omega

private theorem length_readPlan (first limit : UInt8) :
    (readPlan first limit).length = (limit.toNat - first.toNat + 3) / 4 := by
  rw [readPlan, List.length_map, List.length_range]
  rfl

/-- What the reads of a plan contribute is the stretch that it covers. -/
theorem flatten_readPlan {tag : SimulatedTag} (whole : tag.IsWhole) {first limit : UInt8}
    (user : limit ≤ Layout.userEnd) :
    ((readPlan first limit).map fun step =>
      (tag.readBlock step.page).take (step.pages * Layout.pageSize)).flatten =
        tag.stretch first limit := by
  have all := UInt8.le_of_lt (userEnd_lt_pageCount tag.family)
  have sized : (tag.stretch first limit).length = _ := length_stretch whole (UInt8.le_trans user all)
  have low : limit.toNat ≤ 40 := UInt8.le_iff_toNat_le.mp user
  have positive : 0 < Layout.readLength := by decide
  rw [← flatten_pieces positive (tag.stretch first limit), pieces_eq_map_range positive, sized,
    readPlan, List.map_map]
  have counts : ((limit.toNat - first.toNat) * Layout.pageSize + Layout.readLength - 1) /
      Layout.readLength = (limit.toNat - first.toNat + Layout.readPages - 1) / Layout.readPages := by
    simp only [Layout.readLength, Layout.pageSize, Layout.readPages]
    omega
  rw [counts]
  refine congrArg List.flatten (List.map_congr_left fun index inside => ?_)
  have before : index * 4 < limit.toNat - first.toNat := by
    have listed := List.mem_range.mp inside
    simp only [Layout.readPages] at listed
    omega
  have position : (first + UInt8.ofNat (index * Layout.readPages)).toNat = first.toNat + index * 4 :=
    toNat_pageAfter (by simp only [Layout.readPages]; omega)
  have key : Layout.tdesKeyPage.toNat = 44 := rfl
  have start : SimulatedTag.pageStart (first + UInt8.ofNat (index * Layout.readPages)) =
      SimulatedTag.pageStart first + index * Layout.readLength := by
    rw [SimulatedTag.pageStart, position, SimulatedTag.pageStart]
    simp only [Layout.pageSize, Layout.readLength, Layout.readPages]
    omega
  simp only [Function.comp_apply]
  rw [SimulatedTag.readBlock_of_low (by omega), start, SimulatedTag.stretch, List.take_take,
    List.drop_take, List.drop_drop, List.take_take]
  congr 1
  simp only [SimulatedTag.pageStart, Layout.readLength, Layout.readPages, Layout.pageSize]
  omega

namespace SimulatedTag

variable {tag image : SimulatedTag} {page : UInt8} {authenticated : Bool}

/-- One past the last user page that is shown to a terminal. -/
def readEnd (tag : SimulatedTag) (authenticated : Bool) : UInt8 :=
  if authenticated then Layout.userEnd else min tag.auth0 Layout.userEnd

theorem readEnd_le (tag : SimulatedTag) (authenticated : Bool) :
    tag.readEnd authenticated ≤ Layout.userEnd := by
  unfold readEnd
  split
  · exact UInt8.le_refl _
  · exact Std.min_le_right

theorem lt_readEnd_iff (user : page < Layout.userEnd) :
    page < tag.readEnd false ↔ page < tag.auth0 := by
  constructor
  · intro before
    exact Std.lt_of_lt_of_le before Std.min_le_left
  · intro before
    change page < if tag.auth0 ≤ Layout.userEnd then tag.auth0 else Layout.userEnd
    split
    · exact before
    · exact user

theorem readEnd_of_open (open_ : Layout.userEnd ≤ tag.auth0) (authenticated : Bool) :
    tag.readEnd authenticated = Layout.userEnd := by
  cases authenticated with
  | true => rfl
  | false =>
    change (if tag.auth0 ≤ Layout.userEnd then tag.auth0 else Layout.userEnd) = _
    split
    next low => exact UInt8.le_antisymm low open_
    next => rfl

def Shows (tag : SimulatedTag) (authenticated : Bool) (page : UInt8) : Prop :=
  authenticated = true ∨ page < tag.auth0 ∨ Layout.userEnd ≤ page

private theorem shows_of_lt_readEnd (before : page < tag.readEnd authenticated) :
    tag.Shows authenticated page := by
  cases authenticated with
  | true => exact .inl rfl
  | false => exact .inr (.inl (Std.lt_of_lt_of_le before Std.min_le_left))

theorem read_shown (known : page < tag.family.pageCount)
    (shown : tag.Shows tag.isAuthenticated page) : tag.read page = .data (tag.readBlock page) := by
  have refused_ : ¬ (!tag.isAuthenticated ∧ tag.auth0 ≤ page ∧ page < Layout.userEnd) := by
    rintro ⟨strange, behind, user⟩
    obtain authenticated | before | outside := shown
    · rw [authenticated] at strange
      cases strange
    · exact absurd behind (UInt8.not_le.mpr before)
    · exact absurd user (UInt8.not_lt.mpr outside)
  rw [read, if_neg (UInt8.not_le.mpr known), if_neg refused_]

theorem read_hidden (hidden : ¬ tag.Shows tag.isAuthenticated page) : tag.read page = refused := by
  obtain ⟨strange, covered⟩ := not_or.mp hidden
  obtain ⟨behind, user⟩ := not_or.mp covered
  unfold SimulatedTag.read
  split
  · rfl
  · refine if_pos ⟨?_, UInt8.not_lt.mp behind, UInt8.not_le.mp user⟩
    rw [eq_false_of_ne_true strange]
    rfl

private theorem carries_read (known : page < image.family.pageCount)
    (shown : image.Shows authenticated page) :
    image.Carries authenticated [CommandCode.read.code, page] (image.readBlock page) image := by
  refine ⟨rfl, fun tag resembles standing => ?_⟩
  rw [execute_read]
  subst standing
  rw [← resembles.family] at known
  unfold Shows at shown
  rw [← resembles.auth0] at shown
  exact ⟨(read_shown known shown).trans (congrArg Reply.data (resembles.readBlock page)),
    resembles.memory⟩

end SimulatedTag

namespace Session.Converses

variable {image : SimulatedTag} {authenticated : Bool} {spent : Nat}
  {session : Session SimulatedTag} (converses : session.Converses image authenticated spent)
include converses

theorem readBlock (whole : image.IsWhole) (room : spent < 65535) {page : UInt8}
    (known : page < image.family.pageCount) (shown : image.Shows authenticated page) :
    Ensures (readBlock [CommandCode.read.code, page]) session
      (fun block after => block = image.readBlock page ∧
        after.Converses image authenticated (spent + 1))
      (fun _ _ => False) := by
  have sized := image.length_readBlock whole page
  have several : ∀ status, image.readBlock page = [status] → status = Layout.ack := by
    intro status single
    rw [single] at sized
    cases sized
  refine (converses.exchange room (Frame.isRequest_read page) several
    (SimulatedTag.carries_read known shown)).bind ?_
  rintro _ after ⟨rfl, _, converses⟩
  rw [ensures_ofProtocol, Response.block_ok sized]
  exact ⟨rfl, converses rfl⟩

private theorem auth0Page (whole : image.IsWhole) (room : spent < 65535) :
    Ensures auth0Page session
      (fun auth0 after => auth0 = image.auth0 ∧ after.Converses image authenticated (spent + 1))
      (fun _ _ => False) := by
  refine ensures_bind.mpr (ensures_get.mpr ?_)
  cases cached : session.auth0 with
  | some auth0 => exact ⟨converses.learned auth0 cached, converses.mono (Nat.le_succ _)⟩
  | none =>
    have public_ : image.Shows authenticated image.family.auth0Page :=
      .inr (.inr (UInt8.le_of_lt (userEnd_lt_auth0Page _)))
    have sized := image.length_readBlock whole image.family.auth0Page
    have known := auth0Page_lt_pageCount image.family
    dsimp only
    rw [Frame.read_auth0Page, converses.family]
    refine (converses.readBlock whole room known public_).bind ?_
    rintro _ after ⟨rfl, left⟩
    rw [Response.requestedPage_ofBytes sized, SimulatedTag.take_readBlock known sized]
    have right := image.auth0_of_shownPage
    exact ⟨right, { left with learned := fun _ same => (Option.some.inj same).symm.trans right }⟩

/-- The check is about AUTH0 as the tag has it. -/
theorem ensureAccess (whole : image.IsWhole) (room : spent < 65535) (page : UInt8)
    (access : Access) :
    Ensures (ensureAccess page access) session
      (fun _ after => (authenticated = true ∨ access.isProtected image.auth0 page = false) ∧
        after.Converses image authenticated (spent + 1))
      (fun error after => authenticated = false ∧ access.isProtected image.auth0 page = true ∧
        error = .notAuthenticated (access.describe page) ∧ after.tag.Resembles image) := by
  refine ensures_bind.mpr (ensures_get.mpr ?_)
  cases held : session.engine with
  | some engine =>
    have known : authenticated = true := by
      apply eq_true_of_ne_false
      intro strange
      rw [converses.free strange] at held
      cases held
    have complete : engine.isAuthenticated = true := by
      have standing := converses.standing.trans known
      rwa [isAuthenticated, held] at standing
    dsimp only
    rw [complete]
    exact ensures_pure.mpr ⟨.inl known, converses.mono (Nat.le_succ _)⟩
  | none =>
    have strange : authenticated = false := by
      rw [← converses.standing, isAuthenticated, held]
    refine ((converses.auth0Page whole room).total).bind ?_
    rintro _ after ⟨rfl, left⟩
    cases protected_ : access.isProtected image.auth0 page with
    | true => exact ⟨strange, rfl, rfl, left.resembles⟩
    | false => exact ⟨.inr rfl, left⟩

private theorem readStep (whole : image.IsWhole) (room : spent + 2 ≤ 65535) (step : ReadStep)
    (user : step.page < Layout.userEnd) (before : step.page < image.readEnd authenticated) :
    Ensures (readStep step) session
      (fun part after => part = (image.readBlock step.page).take (step.pages * Layout.pageSize) ∧
        after.Converses image authenticated (spent + 2))
      (fun _ _ => False) := by
  have known := UInt8.lt_trans user (userEnd_lt_pageCount image.family)
  have shown := SimulatedTag.shows_of_lt_readEnd before
  have made : Frame.read session.family step.page = .ok [CommandCode.read.code, step.page] := by
    rw [converses.family]
    exact Frame.read_ok known
  refine ensures_bind.mpr (ensures_get.mpr ?_)
  rw [made]
  refine ((converses.ensureAccess whole (by omega) step.page .read).onError ?_).bind ?_
  · rintro error after ⟨strange, protected_, _⟩
    obtain authenticated | open_ | outside := shown
    · rw [strange] at authenticated
      cases authenticated
    · simp only [Access.isProtected, UInt8.not_le.mpr open_, decide_false, Bool.false_and] at protected_
      cases protected_
    · exact absurd user (UInt8.not_lt.mpr outside)
  · rintro _ middle ⟨_, checked⟩
    refine (checked.readBlock whole (by omega) known shown).bind ?_
    rintro _ after ⟨rfl, left⟩
    exact ⟨rfl, left⟩

private theorem readSteps (whole : image.IsWhole) {steps : List ReadStep}
    (room : spent + 2 * steps.length ≤ 65535)
    (before : ∀ step ∈ steps, step.page < image.readEnd authenticated) :
    Ensures (steps.mapM Session.readStep) session
      (fun parts after =>
        parts = steps.map (fun step =>
          (image.readBlock step.page).take (step.pages * Layout.pageSize)) ∧
        after.Converses image authenticated (spent + 2 * steps.length))
      (fun _ _ => False) := by
  induction steps generalizing session spent with
  | nil => exact ⟨rfl, converses⟩
  | cons step steps ih =>
    rw [List.length_cons] at room
    have here := before step List.mem_cons_self
    have user := Std.lt_of_lt_of_le here (image.readEnd_le authenticated)
    rw [List.mapM_cons]
    refine (converses.readStep whole (by omega) step user here).bind ?_
    rintro _ middle ⟨rfl, going⟩
    refine (ih going (by omega) fun other listed =>
      before other (List.mem_cons_of_mem _ listed)).bind ?_
    rintro _ after ⟨rfl, left⟩
    have total : spent + 2 + 2 * steps.length = spent + 2 * (step :: steps).length := by
      rw [List.length_cons]
      omega
    exact ⟨rfl, total ▸ left⟩

private theorem readLimit (whole : image.IsWhole) (room : spent < 65535) :
    Ensures readLimit session
      (fun limit after => limit = image.readEnd authenticated ∧
        after.Converses image authenticated (spent + 1))
      (fun _ _ => False) := by
  refine ensures_bind.mpr (ensures_get.mpr ?_)
  rw [converses.standing]
  cases authenticated with
  | true => exact ⟨rfl, converses.mono (Nat.le_succ _)⟩
  | false =>
    refine (converses.auth0Page whole room).bind ?_
    rintro _ after ⟨rfl, left⟩
    exact ⟨rfl, left⟩

/-- User memory comes back byte for byte, up to where the terminal may read. -/
theorem readUserMemory (whole : image.IsWhole) (room : spent + 20 ≤ 65535) {page count : UInt8}
    (fits : userRange page Layout.pageSize = .ok count) :
    Ensures (readUserMemory page) session
      (fun content _ => page < image.readEnd authenticated ∧
        content = image.stretch page (image.readEnd authenticated))
      (fun error _ => image.readEnd authenticated ≤ page ∧
        error = .notAuthenticated (Access.describe .read page)) := by
  refine ensures_bind.mpr (ensures_ofData.mpr ?_)
  rw [fits]
  refine ((converses.readLimit whole (by omega)).total).bind ?_
  rintro _ middle ⟨rfl, going⟩
  split
  next outside => exact ⟨outside, rfl⟩
  next inside =>
    have user := image.readEnd_le authenticated
    have steps : (readPlan page (image.readEnd authenticated)).length ≤ 9 := by
      have first := UInt8.le_iff_toNat_le.mp (userRange_eq_ok fits).1
      have last := UInt8.le_iff_toNat_le.mp user
      rw [length_readPlan]
      simp only [Layout.userStart, Layout.userEnd, UInt8.reduceToNat] at first last
      omega
    refine ((going.readSteps whole (by omega) fun step listed => (mem_readPlan listed).2).total).bind ?_
    rintro _ after ⟨rfl, _⟩
    exact ⟨UInt8.not_le.mp inside, flatten_readPlan whole user⟩

theorem isProtected (whole : image.IsWhole) (room : spent < 65535) :
    Ensures isProtected session
      (fun isProtected after => isProtected = decide (image.auth0 < image.family.pageCount) ∧
        after.Converses image authenticated (spent + 1))
      (fun _ _ => False) := by
  refine (converses.auth0Page whole room).bind ?_
  rintro _ after ⟨rfl, left⟩
  refine ensures_bind.mpr (ensures_get.mpr ?_)
  rw [left.family]
  exact ⟨rfl, left⟩

/-- The identifier is what the header comes to, if the header is shown at all. -/
theorem readHeader (whole : image.IsWhole) (room : spent < 65535)
    (shown : image.Shows authenticated 0) :
    Ensures readUid session
      (fun uid after => Response.uid (image.readBlock 0) = .ok uid ∧
        after.Converses image authenticated (spent + 1))
      (fun error _ => ∃ cause, Response.uid (image.readBlock 0) = .error cause ∧
        error = .protocol cause) := by
  have known : 0 < image.family.pageCount :=
    UInt8.lt_trans (by decide) (userEnd_lt_pageCount image.family)
  refine ensures_bind.mpr (ensures_get.mpr ?_)
  rw [Frame.read_header]
  refine ((converses.readBlock whole room known shown).total).bind ?_
  rintro _ after ⟨rfl, left⟩
  rw [ensures_ofProtocol]
  cases header : Response.uid (image.readBlock 0) with
  | error cause => exact ⟨cause, rfl, rfl⟩
  | ok uid => exact ⟨rfl, left⟩

/-- A header that is not shown is not guarded by the session, so it is the tag that refuses it. -/
theorem readUid_refused (hidden : ¬ image.Shows authenticated 0) :
    Ensures readUid session (fun _ _ => False)
      (fun error _ => authenticated = false ∧ image.auth0 = 0 ∧
        error = .protocol (.nak SimulatedTag.nakRefused)) := by
  have strange : authenticated = false := eq_false_of_ne_true (not_or.mp hidden).1
  have first : image.auth0 = 0 :=
    UInt8.le_zero_iff.mp (UInt8.not_lt.mp (not_or.mp (not_or.mp hidden).2).1)
  have refuses (tag : SimulatedTag) (resembles : tag.Resembles image)
      (alone : tag.isAuthenticated = false) :
      (tag.execute [CommandCode.read.code, 0]).1 = SimulatedTag.refused := by
    rw [SimulatedTag.execute_read]
    apply SimulatedTag.read_hidden
    rwa [alone, ← strange, SimulatedTag.Shows, resembles.auth0]
  have refusal := converses.exchange_refused strange (Frame.storesNothing_read 0) refuses
  have block : Ensures (Session.readBlock [CommandCode.read.code, 0]) session (fun _ _ => False)
      (fun error _ => error = .protocol (.nak SimulatedTag.nakRefused)) := by
    refine refusal.total.bind ?_
    rintro _ after ⟨rfl, _⟩
    exact rfl
  refine ensures_bind.mpr (ensures_get.mpr ?_)
  rw [Frame.read_header]
  exact (block.onError fun _ _ same => ⟨strange, first, same⟩).bind fun _ _ never => never.elim

/-- With AUTH0 at the very first page not even the header is shown to a stranger. -/
theorem readUid (whole : image.IsWhole) (valid : image.HasValidUid) (room : spent < 65535) :
    Ensures readUid session
      (fun uid after => image.Shows authenticated 0 ∧ uid = image.uid ∧
        after.Converses image authenticated (spent + 1))
      (fun error _ => authenticated = false ∧ image.auth0 = 0 ∧
        error = .protocol (.nak SimulatedTag.nakRefused)) := by
  by_cases shown : image.Shows authenticated 0
  · have header := SimulatedTag.uid_of_header whole valid
    refine (converses.readHeader whole room shown).weaken ?_ ?_
    · rintro uid after ⟨same, left⟩
      exact ⟨shown, Except.ok.inj (same.symm.trans header), left⟩
    · rintro _ _ ⟨cause, failed, _⟩
      cases failed.symm.trans header
  · exact (converses.readUid_refused shown).weaken (fun _ _ never => never.elim)
      fun _ _ refused => refused

end Session.Converses
end Wristband
