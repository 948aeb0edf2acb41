import Wristband.Proofs.Session.Reading
import Wristband.Proofs.Tag.Protection

/-! What a session stores on a tag that it agrees with. Pages go out one by one and each is checked
against AUTH0 on its own, so a stretch that reaches AUTH0 is cut off there when the session is a
stranger: what comes before it is stored, and the rest is not. -/

namespace Wristband

theorem Frame.write_ok {family : ChipFamily} {page : UInt8} {data : Bytes}
    (known : page < family.pageCount) (sized : data.length = Layout.pageSize) :
    Frame.write family page data = .ok (CommandCode.write.code :: page :: data) := by
  rw [Frame.write, Frame.checkPage, if_neg (UInt8.not_le.mpr known), sized]
  rfl

namespace SimulatedTag

variable {tag image : SimulatedTag} {page first : UInt8} {authenticated : Bool}
  {data content : Bytes}

private theorem carries_write (user : Layout.userStart ≤ page) (known : page < image.family.pageCount)
    (allowed : authenticated = true ∨ page < image.auth0) (sized : data.length = Layout.pageSize) :
    image.Carries authenticated (CommandCode.write.code :: page :: data) [Layout.ack]
      (image.store page data) := by
  refine ⟨rfl, fun tag resembles standing => ?_⟩
  have permits : tag.Permits page := by
    refine ⟨user, ?_⟩
    rw [standing, resembles.auth0]
    exact allowed.symm
  rw [← resembles.family] at known
  rw [execute_write _ _ sized, write_of_permits known permits]
  exact ⟨rfl, (resembles.store page data).memory⟩

def SparesAuth0 (tag : SimulatedTag) (first : UInt8) (content : Bytes) : Prop :=
  pageStart tag.family.auth0Page + Layout.pageSize ≤ pageStart first ∨
    pageStart first + content.length ≤ pageStart tag.family.auth0Page

private theorem SparesAuth0.auth0 (spares : tag.SparesAuth0 first content) :
    (tag.store first content).auth0 = tag.auth0 := by
  have place := auth0Byte_lt tag.family
  refine Bytes.getD_overwrite_of_outside _ _ _ ?_
  change pageStart tag.family.auth0Page + tag.family.auth0Byte < pageStart first ∨
    pageStart first + content.length ≤ pageStart tag.family.auth0Page + tag.family.auth0Byte
  unfold SparesAuth0 at spares
  omega

private theorem SparesAuth0.rest (spares : tag.SparesAuth0 first content)
    (split : tag.FirstPage first content) :
    tag.SparesAuth0 first (content.take Layout.pageSize) ∧
      (tag.store first (content.take Layout.pageSize)).SparesAuth0 (first + 1)
        (content.drop Layout.pageSize) := by
  have total := split.total
  have sized := split.sized
  unfold SparesAuth0 at *
  rw [pageStart_after split.low]
  change (_ ∨ _) ∧ (pageStart tag.family.auth0Page + _ ≤ _ ∨ _ ≤ pageStart tag.family.auth0Page)
  omega

/-- How many bytes from a page on a stranger may write. -/
def openLength (tag : SimulatedTag) (first : UInt8) : Nat := pageStart tag.auth0 - pageStart first

theorem openLength_of_le (behind : tag.auth0 ≤ first) : tag.openLength first = 0 :=
  Nat.sub_eq_zero_of_le (Nat.mul_le_mul_right _ (UInt8.le_iff_toNat_le.mp behind))

private theorem openLength_after {next : SimulatedTag} (sameAuth0 : next.auth0 = tag.auth0)
    (low : first.toNat + 1 < 256) (before : first < tag.auth0) :
    tag.openLength first = Layout.pageSize + next.openLength (first + 1) := by
  have distance := UInt8.lt_iff_toNat_lt.mp before
  rw [openLength, openLength, sameAuth0, pageStart_after low]
  simp only [pageStart, Layout.pageSize]
  omega

end SimulatedTag

namespace Session.Converses

variable {image : SimulatedTag} {authenticated : Bool} {spent : Nat}
  {session : Session SimulatedTag} (converses : session.Converses image authenticated spent)
include converses

private theorem writePage (whole : image.IsWhole) (room : spent + 2 ≤ 65535) {page : UInt8} {data : Bytes}
    (user : Layout.userStart ≤ page) (known : page < image.family.pageCount)
    (sized : data.length = Layout.pageSize) :
    Ensures (writePage page data) session
      (fun _ after => (authenticated = true ∨ page < image.auth0) ∧
        after.tag.Resembles (image.store page data) ∧
        ((image.store page data).auth0 = image.auth0 →
          after.Converses (image.store page data) authenticated (spent + 2)))
      (fun error after => authenticated = false ∧ image.auth0 ≤ page ∧
        error = .notAuthenticated (Access.describe .write page) ∧ after.tag.Resembles image) := by
  have made : Frame.write session.family page data =
      .ok (CommandCode.write.code :: page :: data) := by
    rw [converses.family]
    exact Frame.write_ok known sized
  refine ensures_bind.mpr (ensures_get.mpr ?_)
  rw [made]
  refine ((converses.ensureAccess whole (by omega) page .write).onError ?_).bind ?_
  · rintro error after ⟨strange, protected_, same, resembles⟩
    exact ⟨strange, of_decide_eq_true protected_, same, resembles⟩
  · rintro _ middle ⟨admitted, going⟩
    have allowed : authenticated = true ∨ page < image.auth0 :=
      admitted.imp_right fun public_ => UInt8.not_le.mp (of_decide_eq_false public_)
    have single : ∀ status, [Layout.ack] = [status] → status = Layout.ack :=
      fun _ same => (List.singleton_inj.mp same).symm
    have sent := going.exchange (by omega) (Frame.isRequest_write page data) single
      (SimulatedTag.carries_write user known allowed sized)
    refine sent.total.bind ?_
    rintro _ after ⟨rfl, resembles, left⟩
    exact ⟨allowed, resembles, left⟩

/-- The pages of a stretch are stored up to the first one that the session may not write. -/
theorem writePages {first : UInt8} {content : Bytes} (whole : image.IsWhole)
    (room : spent + content.length ≤ 65535) (full : content.length % Layout.pageSize = 0)
    (user : Layout.userStart ≤ first)
    (fits : SimulatedTag.pageStart first + content.length ≤ image.memory.length)
    (spares : image.SparesAuth0 first content) :
    Ensures (writePages first (pieces Layout.pageSize content)) session
      (fun _ _ => authenticated = true ∨ content.length ≤ image.openLength first)
      (fun error after => authenticated = false ∧ image.openLength first < content.length ∧
        error = .notAuthenticated (Access.describe .write
          (if first < image.auth0 then image.auth0 else first)) ∧
        after.tag.Resembles (image.store first (content.take (image.openLength first)))) := by
  have positive : 0 < Layout.pageSize := by decide
  induction content using pieces_induction positive generalizing first image session spent with
  | nil => exact .inr (Nat.zero_le _)
  | step content some_ ih =>
    have split := whole.firstPage full some_ fits
    have total := split.total
    obtain ⟨sparesHere, sparesRest⟩ := spares.rest split
    have sameAuth0 := sparesHere.auth0
    rw [pieces_eq positive some_, writePages_cons]
    have enough : spent + 2 ≤ 65535 := by
      simp only [Layout.pageSize] at total
      omega
    refine ((converses.writePage whole enough user split.known split.sized).onError ?_).bind ?_
    · rintro error after ⟨strange, behind, same, resembles⟩
      have nothing : image.store first (content.take 0) = image := by
        rw [List.take_zero, SimulatedTag.store, Bytes.overwrite_nil]
      rw [SimulatedTag.openLength_of_le behind, if_neg (UInt8.not_lt.mpr behind), nothing]
      exact ⟨strange, List.length_pos_iff.mpr some_, same, resembles⟩
    · rintro _ middle ⟨allowed, _, going⟩
      have later : Layout.userStart ≤ first + 1 := by
        have position : (first + 1).toNat = first.toNat + 1 := toNat_pageAfter split.low
        rw [UInt8.le_iff_toNat_le] at user ⊢
        omega
      refine (ih (going sameAuth0) (whole.store _ _) (by
        simp only [Layout.pageSize] at total ⊢
        omega) split.full later split.fits sparesRest).weaken ?_ ?_
      · rintro _ after (known | open_)
        · exact .inl known
        · refine allowed.imp_right fun before => ?_
          rw [SimulatedTag.openLength_after sameAuth0 split.low before, total]
          exact Nat.add_le_add_left open_ _
      · rintro error after ⟨strange, cut, same, resembles⟩
        have before : first < image.auth0 := allowed.resolve_left fun known => by
          rw [strange] at known
          cases known
        have here : (if first + 1 < image.auth0 then image.auth0 else first + 1) = image.auth0 := by
          split
          · rfl
          next notBefore =>
            have position : (first + 1).toNat = first.toNat + 1 := toNat_pageAfter split.low
            rw [UInt8.lt_iff_toNat_lt] at before notBefore
            exact UInt8.toNat_inj.mp (by omega)
        rw [SimulatedTag.openLength_after sameAuth0 split.low before, if_pos before]
        refine ⟨strange, ?_, ?_, ?_⟩
        · rw [total]
          exact Nat.add_lt_add_left cut _
        · rw [sameAuth0, here] at same
          exact same
        · have room : SimulatedTag.pageStart first + (content.take Layout.pageSize).length +
              ((content.drop Layout.pageSize).take
                ((image.store first (content.take Layout.pageSize)).openLength (first + 1))).length ≤
              image.memory.length := by
            rw [split.sized, List.length_take]
            omega
          rwa [image.store_store split.sized room split.low, ← List.take_add] at resembles

private theorem readPage (whole : image.IsWhole) (room : spent + 2 ≤ 65535) {page : UInt8}
    (behind : Layout.userEnd ≤ page) (known : page < image.family.pageCount) :
    Ensures (readPage page) session
      (fun content after => content.length = Layout.pageSize ∧
        after.Converses image authenticated (spent + 2))
      (fun _ _ => False) := by
  have sized := image.length_readBlock whole page
  refine ensures_bind.mpr (ensures_get.mpr ?_)
  rw [converses.family, Frame.read_ok known]
  refine ((converses.ensureAccess whole (by omega) page .read).onError ?_).bind ?_
  · rintro error after ⟨_, protected_, _⟩
    have user : (decide (page < Layout.userEnd)) = true := (Bool.and_eq_true_iff.mp protected_).2
    exact UInt8.not_lt.mpr behind (of_decide_eq_true user)
  · rintro _ middle ⟨_, checked⟩
    refine (checked.readBlock whole (by omega) known (.inr (.inr behind))).bind ?_
    rintro _ after ⟨rfl, left⟩
    rw [Response.requestedPage_ofBytes sized, SimulatedTag.take_readBlock known sized]
    exact ⟨SimulatedTag.length_shownPage known whole, left⟩

private theorem changePage (whole : image.IsWhole) (room : spent + 4 ≤ 65535) {page : UInt8}
    (behind : Layout.userEnd ≤ page) (known : page < image.family.pageCount)
    {change : Bytes → Bytes} (sized : ∀ config, (change config).length = config.length) :
    Ensures (do
      let config ← Session.readPage page
      Session.writePage page (change config)) session
      (fun _ _ => True) (fun _ after => after.tag.Resembles image) := by
  have user : Layout.userStart ≤ page := UInt8.le_trans (by decide) behind
  refine (converses.readPage whole (by omega) behind known).total.bind ?_
  rintro config middle ⟨whole_, going⟩
  exact (going.writePage whole (by omega) user known ((sized config).trans whole_)).weaken
    (fun _ _ _ => trivial) fun _ _ refused_ => refused_.2.2.2

theorem setAuth0 (whole : image.IsWhole) (room : spent + 4 ≤ 65535) (auth0 : UInt8) :
    Ensures (setAuth0 auth0) session (fun _ _ => True)
      (fun _ after => after.tag.Resembles image) := by
  have behind := UInt8.le_of_lt (userEnd_lt_auth0Page image.family)
  refine ensures_bind.mpr (ensures_get.mpr ?_)
  dsimp only
  rw [converses.family]
  have changed := converses.changePage whole room behind (auth0Page_lt_pageCount _)
    fun config => config.length_set (i := image.family.auth0Byte) (a := auth0)
  refine (ensures_bind.mp changed).bind fun config middle wrote => ?_
  exact wrote.bind fun _ _ _ => ensures_modify.mpr trivial

theorem setCmac (whole : image.IsWhole) (room : spent + 4 ≤ 65535) (enabled : Bool) :
    Ensures (setCmac enabled) session (fun _ _ => True)
      (fun _ after => after.tag.Resembles image) := by
  refine ensures_bind.mpr (ensures_bind.mpr (ensures_get.mpr ?_))
  split
  · exact converses.resembles
  next own =>
    have family : image.family = .ultralightAes :=
      converses.family.symm.trans (Classical.not_not.mp own)
    have known : Layout.aesConfigPage < image.family.pageCount := by
      rw [family]
      decide
    have sized (config : Bytes) : (withCmacFlag config enabled).length = config.length :=
      List.length_set
    exact ensures_pure.mpr (converses.changePage whole room (by decide) known sized)

end Session.Converses
end Wristband
