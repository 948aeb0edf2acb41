import Wristband.Proofs.Session.Codes
import Wristband.Proofs.Session.Protection
import Wristband.Proofs.Session.Stretch
import Wristband.Proofs.Tag.Configuration

/-! What a session does to the memory of its tag, whatever faults the tag shows. Only a WRITE changes
anything, and one that is acknowledged has stored its page. What is read is what the tag has in its
memory at that moment. -/

namespace Wristband

private theorem Response.acknowledgement_eq_ok {response : Bytes}
    (accepted : Response.acknowledgement response = .ok ()) : response = [Layout.ack] := by
  unfold Response.acknowledgement at accepted
  split at accepted
  · split at accepted
    next same => rw [same]
    next => split at accepted <;> cases accepted
  · cases accepted

namespace SimulatedTag

variable {tag image : SimulatedTag}

theorem resembles_transceive {frame : Bytes} (nothing : Frame.StoresNothing frame) :
    (tag.transceive frame).2.Resembles tag where
  chip := tag.chip_transceive frame
  memory := by
    obtain ⟨command, within, same | ⟨page, data, _, rfl, _⟩⟩ := tag.memory_transceive frame
    · exact same
    · obtain ⟨rest, rfl⟩ := within
      exact absurd rfl nothing.2

theorem resembles_connect (tag : SimulatedTag) : tag.connect.2.Resembles tag := by
  unfold connect
  split <;> exact ⟨rfl, rfl⟩

theorem Resembles.trans {other : SimulatedTag} (first : tag.Resembles other)
    (second : other.Resembles image) : tag.Resembles image :=
  ⟨first.chip.trans second.chip, first.memory.trans second.memory⟩

theorem pageStart_after {first : UInt8} (low : first.toNat + 1 < 256) :
    pageStart (first + 1) = pageStart first + Layout.pageSize := by
  have position : (first + 1).toNat = first.toNat + 1 := toNat_pageAfter low
  rw [pageStart, position, Nat.succ_mul, pageStart]

/-- Storing the pages of a stretch one after another is storing the stretch. -/
theorem store_store (tag : SimulatedTag) {first rest : Bytes} {page : UInt8}
    (sized : first.length = Layout.pageSize)
    (fits : pageStart page + first.length + rest.length ≤ tag.memory.length)
    (low : page.toNat + 1 < 256) :
    (tag.store page first).store (page + 1) rest = tag.store page (first ++ rest) := by
  have next : pageStart (page + 1) = pageStart page + first.length := by
    rw [pageStart_after low, sized]
  simp only [store, next, Bytes.overwrite_append _ _ fits]

structure FirstPage (tag : SimulatedTag) (first : UInt8) (content : Bytes) : Prop where
  sized : (content.take Layout.pageSize).length = Layout.pageSize
  total : content.length = Layout.pageSize + (content.drop Layout.pageSize).length
  full : (content.drop Layout.pageSize).length % Layout.pageSize = 0
  known : first < tag.family.pageCount
  low : first.toNat + 1 < 256
  fits : pageStart (first + 1) + (content.drop Layout.pageSize).length ≤
    (tag.store first (content.take Layout.pageSize)).memory.length

theorem IsWhole.firstPage {first : UInt8} {content : Bytes} (whole : tag.IsWhole)
    (full : content.length % Layout.pageSize = 0) (some_ : content ≠ [])
    (fits : pageStart first + content.length ≤ tag.memory.length) :
    tag.FirstPage first content := by
  have several : Layout.pageSize ≤ content.length :=
    Nat.le_of_dvd (List.length_pos_iff.mpr some_) (Nat.dvd_of_mod_eq_zero full)
  have rest : (content.drop Layout.pageSize).length = content.length - Layout.pageSize :=
    List.length_drop
  have known : first.toNat < tag.family.pageCount.toNat := by
    simp only [IsWhole, pageStart, Layout.pageSize] at *
    omega
  have count := pageCount_le tag.family
  have low : first.toNat + 1 < 256 := by omega
  refine ⟨List.length_take_of_le several, by omega, ?_, UInt8.lt_iff_toNat_lt.mpr known, low, ?_⟩
  · rw [rest, ← Nat.mod_eq_sub_mod several]
    exact full
  · rw [pageStart_after low, SimulatedTag.store, Bytes.length_overwrite]
    omega

private theorem FirstPage.store_rest {first : UInt8} {content : Bytes} (split : tag.FirstPage first content) :
    (tag.store first (content.take Layout.pageSize)).store (first + 1)
      (content.drop Layout.pageSize) = tag.store first content := by
  have fits := split.fits
  rw [pageStart_after split.low, SimulatedTag.store, Bytes.length_overwrite] at fits
  rw [store_store tag split.sized (by rw [split.sized]; exact fits) split.low,
    List.take_append_drop]

end SimulatedTag

namespace Session

variable {image : SimulatedTag} {session after : Session SimulatedTag} {page : UInt8}
  {command data : Bytes} {result : Except TagError Bytes}

theorem Exchanged.chip (exchanged : Exchanged session command result after) :
    after.tag.chip = session.tag.chip := by
  obtain ⟨sameTag, _⟩ | ⟨frame, _, sameTag, _⟩ := exchanged.transmission
  · rw [sameTag]
  · rw [sameTag]
    exact session.tag.chip_transceive frame

theorem Carries.storesNothing {frame : Bytes} (carries : session.Carries command frame)
    (nothing : Frame.StoresNothing command) : Frame.StoresNothing frame := by
  obtain ⟨code, rfl⟩ := carries.exists_code
  exact nothing.append code

/-- The session takes its tag for what it is, and the tag is like the image. -/
structure IsOn (image : SimulatedTag) (session : Session SimulatedTag) : Prop where
  family : session.family = image.family
  resembles : session.tag.Resembles image

theorem IsOn.exchanged (isOn : session.IsOn image) (nothing : Frame.StoresNothing command)
    (exchanged : Exchanged session command result after) : after.IsOn image where
  family := exchanged.family.trans isOn.family
  resembles := by
    obtain ⟨sameTag, _⟩ | ⟨frame, carries, sameTag, _⟩ := exchanged.transmission
    · rw [sameTag]
      exact isOn.resembles
    · rw [sameTag]
      exact (SimulatedTag.resembles_transceive (carries.storesNothing nothing)).trans
        isOn.resembles

theorem isOn_handshakes (image : SimulatedTag) : Handshakes (IsOn image) where
  engine _ _ isOn := ⟨isOn.family, isOn.resembles⟩
  random _ _ isOn := ⟨isOn.family, isOn.resembles⟩
  step _ step _ isOn := exchange_leaves fun _ _ exchanged => isOn.exchanged step.storesNothing exchanged

structure WorksOn (image : SimulatedTag) (session : Session SimulatedTag) : Prop extends
    IsOn image session where
  sized : session.HasSizedCodes

private theorem WorksOn.exchange (works : session.WorksOn image) (nothing : Frame.StoresNothing command) :
    Ensures (exchange command) session (fun _ => WorksOn image) (fun _ => WorksOn image) :=
  exchange_leaves fun _ _ exchanged =>
    ⟨works.toIsOn.exchanged nothing exchanged, exchanged.hasSizedCodes works.sized⟩

/-- A block that is accepted is the one of the tag. -/
theorem WorksOn.readBlock (works : session.WorksOn image) (whole : image.IsWhole) (page : UInt8) :
    Ensures (readBlock [CommandCode.read.code, page]) session
      (fun block after => block = image.readBlock page ∧ page < image.family.pageCount ∧
        after.WorksOn image)
      (fun _ => WorksOn image) := by
  have sent := (works.exchange (Frame.storesNothing_read page)).and (exchange_exchanged session _)
  refine (sent.onError fun _ _ left => left.1).bind ?_
  rintro response after ⟨left, exchanged⟩
  rw [ensures_ofProtocol]
  cases accepted : Response.block response with
  | error => exact left
  | ok block =>
    obtain ⟨rfl, long⟩ := Response.block_eq_ok accepted
    obtain ⟨status, rfl, _⟩ | ⟨frame, payload, rest, data, _, shown⟩ :=
      exchanged.taken (.read page) works.sized
    · exact absurd long (by decide : ¬ 1 = 16)
    · have heard : (session.tag.heard frame).Resembles image :=
        ⟨works.resembles.chip, works.resembles.memory⟩
      rw [SimulatedTag.execute_read] at data
      obtain refusal | ⟨known, answered⟩ := (session.tag.heard frame).read_cases page
      · rw [refusal] at data
        cases data
      · rw [answered] at data
        cases data
        rw [heard.readBlock] at shown
        rw [heard.family] at known
        have sized := image.length_readBlock whole page
        have same := List.prefix_of_prefix_length_le shown (List.prefix_append _ rest)
          (Nat.le_of_eq (long.trans sized.symm))
        exact ⟨same.eq_of_length (long.trans sized.symm), known, left⟩

theorem worksOn_reads (whole : image.IsWhole) : Reads (WorksOn image) (WorksOn image) where
  weaken _ works := works
  version _ works := works.exchange Frame.storesNothing_getVersion
  uid _ works := works.exchange (Frame.storesNothing_read 0)
  page page _ holds := holds.1.exchange (Frame.storesNothing_read page)
  lookUp := Leads.get fun session works => by
    have learn {after : Session SimulatedTag} (left : after.WorksOn image) (auth0 : UInt8) :
        WorksOn image { after with auth0 := some auth0 } :=
      ⟨⟨left.family, left.resembles⟩, left.sized⟩
    cases session.auth0 with
    | some auth0 => exact ensures_pure.mpr works
    | none =>
      dsimp only
      rw [Frame.read_auth0Page]
      refine (works.readBlock whole _).bind fun block after found => ?_
      refine ensures_bind.mpr (ensures_ofProtocol.mpr ?_)
      split
      · exact ensures_bind.mpr (ensures_modify.mpr (learn found.2.2 _))
      · exact found.2.2

theorem WorksOn.readPage (works : session.WorksOn image) (whole : image.IsWhole) (page : UInt8) :
    Ensures (readPage page) session
      (fun content after => content = image.shownPage page ∧ after.WorksOn image)
      (fun _ => WorksOn image) := by
  refine ensures_bind.mpr (ensures_get.mpr (ensures_bind.mpr (ensures_ofProtocol.mpr ?_)))
  cases made : Frame.read session.family page with
  | error => exact works
  | ok frame =>
    obtain rfl := Frame.read_eq_ok made
    refine ((worksOn_reads whole).ensureAccess page .read session works).bind fun _ middle ready => ?_
    refine (ready.1.readBlock whole page).bind ?_
    rintro block after ⟨rfl, known, left⟩
    have sized := image.length_readBlock whole page
    rw [Response.requestedPage_ofBytes sized, SimulatedTag.take_readBlock known sized]
    exact ensures_ofProtocol.mpr ⟨rfl, left⟩

/-- A page whose WRITE is acknowledged has been stored. -/
theorem WorksOn.writePage (works : session.WorksOn image) (whole : image.IsWhole) (page : UInt8)
    (data : Bytes) :
    Ensures (writePage page data) session
      (fun _ after => data.length = Layout.pageSize ∧ after.WorksOn (image.store page data))
      (fun _ _ => True) := by
  refine ensures_bind.mpr (ensures_get.mpr (ensures_bind.mpr (ensures_ofProtocol.mpr ?_)))
  cases made : Frame.write session.family page data with
  | error => trivial
  | ok frame =>
    obtain ⟨rfl, sized⟩ := Frame.write_eq_ok made
    refine (((worksOn_reads whole).ensureAccess page .write session works).onError
      fun _ _ _ => trivial).bind fun _ middle ready => ?_
    refine ensures_bind.mpr (ensures_exchange (fun response after exchanged => ?_)
      fun _ _ _ => trivial)
    rw [ensures_ofProtocol]
    cases accepted : Response.acknowledgement response with
    | error => trivial
    | ok =>
      obtain rfl := Response.acknowledgement_eq_ok accepted
      obtain ⟨status, same, refusal⟩ | ⟨frame, payload, rest, stored, same, _⟩ :=
        exchanged.taken (.write page sized) ready.1.sized
      · exact absurd (List.singleton_inj.mp same).symm refusal
      · rw [SimulatedTag.execute_write _ _ sized] at stored same
        rw [SimulatedTag.write_eq_data stored] at same
        have memory : after.tag.memory = (image.store page data).memory :=
          same.trans (ready.1.resembles.store page data).memory
        exact ⟨sized, ⟨exchanged.family.trans ready.1.family,
          exchanged.chip.trans ready.1.resembles.chip, memory⟩,
          exchanged.hasSizedCodes ready.1.sized⟩

/-- Pages that are written one after another end up as one stretch. -/
theorem WorksOn.writePages {first : UInt8} {content : Bytes} (works : session.WorksOn image)
    (whole : image.IsWhole) (full : content.length % Layout.pageSize = 0)
    (fits : SimulatedTag.pageStart first + content.length ≤ image.memory.length) :
    Ensures (writePages first (pieces Layout.pageSize content)) session
      (fun _ after => after.WorksOn (image.store first content)) (fun _ _ => True) := by
  have positive : 0 < Layout.pageSize := by decide
  induction content using pieces_induction positive generalizing first image session with
  | nil =>
    have same : image.store first [] = image := by
      rw [SimulatedTag.store, Bytes.overwrite_nil]
    rw [same]
    exact works
  | step content some_ ih =>
    have split := whole.firstPage full some_ fits
    rw [pieces_eq positive some_, writePages_cons]
    refine (works.writePage whole first _).bind fun _ middle left => ?_
    have going := ih left.2 (whole.store _ _) split.full split.fits
    rwa [split.store_rest] at going

theorem WorksOn.setAuth0 (works : session.WorksOn image) (whole : image.IsWhole) (auth0 : UInt8) :
    Ensures (setAuth0 auth0) session (fun _ => WorksOn (image.withAuth0 auth0))
      (fun _ _ => True) := by
  refine ensures_bind.mpr (ensures_get.mpr ?_)
  dsimp only
  rw [works.family]
  refine ((works.readPage whole image.family.auth0Page).onError fun _ _ _ => trivial).bind ?_
  rintro _ middle ⟨rfl, left⟩
  refine (left.writePage whole _ _).bind fun _ after stored => ensures_modify.mpr ?_
  rw [SimulatedTag.shownPage_of_low (auth0Page_lt_keyPage _),
    SimulatedTag.store_page_set whole (auth0Page_lt_pageCount _)
      (SimulatedTag.auth0Byte_lt _)] at stored
  exact ⟨⟨stored.2.family, stored.2.resembles⟩, stored.2.sized⟩

theorem WorksOn.setCmac (works : session.WorksOn image) (whole : image.IsWhole) (enabled : Bool) :
    Ensures (setCmac enabled) session
      (fun _ after => image.chip = .ultralightAes ∧ after.WorksOn (image.withCmac enabled))
      (fun _ _ => True) := by
  refine ensures_bind.mpr (ensures_bind.mpr (ensures_get.mpr ?_))
  split
  · trivial
  next own =>
    have family : image.family = .ultralightAes :=
      works.family.symm.trans (Classical.not_not.mp own)
    have chip : image.chip = .ultralightAes := by
      cases held : image.chip <;> rw [SimulatedTag.family, held] at family <;> cases family
    have low : Layout.aesConfigPage < Layout.tdesKeyPage := by decide
    have known : Layout.aesConfigPage < image.family.pageCount := by
      rw [family]
      decide
    refine ((works.readPage whole Layout.aesConfigPage).onError fun _ _ _ => trivial).bind ?_
    rintro _ middle ⟨rfl, left⟩
    refine (left.writePage whole _ _).onValue fun _ after stored => ?_
    rw [SimulatedTag.shownPage_of_low low, withCmacFlag, image.getD_page _ (by decide),
      SimulatedTag.store_page_set whole known (by decide)] at stored
    rw [SimulatedTag.withCmac, if_pos chip]
    exact ⟨chip, stored.2⟩

/-- The session that is opened on a tag that is there. -/
def opened (tag : SimulatedTag) (family : ChipFamily) (random : RandomSource) :
    Session SimulatedTag where
  tag := { tag.unauthenticated with connected := true, connects := tag.connects + 1 }
  family := family
  engine := none
  auth0 := none
  closed := false
  random := random
  transcript := []

theorem openOn_eq_opened {tag : SimulatedTag} (present : tag.lost = false) (family : ChipFamily)
    (random : RandomSource) : openOn tag family random = .ok (opened tag family random) :=
  openOn_present present family random

theorem eq_opened_of_openOn {tag : SimulatedTag} {family : ChipFamily} {random : RandomSource}
    {session : Session SimulatedTag} (succeeded : openOn tag family random = .ok session) :
    session = opened tag family random ∧ tag.lost = false := by
  cases lost : tag.lost with
  | true =>
    have gone : NfcTag.connect tag = (.error SimulatedTag.leftField, tag) := if_pos lost
    rw [openOn, gone] at succeeded
    cases succeeded
  | false =>
    rw [openOn_eq_opened lost] at succeeded
    exact ⟨(Except.ok.inj succeeded).symm, rfl⟩

theorem opened_worksOn (tag : SimulatedTag) (random : RandomSource) :
    (opened tag tag.family random).WorksOn tag where
  family := rfl
  resembles := ⟨rfl, rfl⟩
  sized := hasSizedCodes_of_open rfl

end Session
end Wristband
