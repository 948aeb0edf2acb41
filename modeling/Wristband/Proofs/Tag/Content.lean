import Wristband.Proofs.Frame.Header
import Wristband.Proofs.Session.Access
import Wristband.Proofs.Tag.Auth0
import Wristband.Tag.Simulated.Build

/-! What a tag shows of its memory. A chip has as many bytes as its pages take, so every READ
returns a whole block, and as far as user memory goes the block is the memory itself. -/

namespace Wristband.SimulatedTag

variable {tag : SimulatedTag} {page : UInt8}

/-- The memory is as long as the pages of the chip. -/
def IsWhole (tag : SimulatedTag) : Prop :=
  tag.memory.length = tag.family.pageCount.toNat * Layout.pageSize

theorem IsWhole.store (whole : tag.IsWhole) (page : UInt8) (data : Bytes) :
    (tag.store page data).IsWhole :=
  (Bytes.length_overwrite _ _ _).trans whole

theorem IsWhole.withAuth0 (whole : tag.IsWhole) (auth0 : UInt8) : (tag.withAuth0 auth0).IsWhole :=
  List.length_set.trans whole

theorem IsWhole.withCmac (whole : tag.IsWhole) (enabled : Bool) :
    (tag.withCmac enabled).IsWhole := by
  unfold SimulatedTag.withCmac
  split
  · exact List.length_set.trans whole
  · exact whole

private theorem isWhole_blank (chip : Chip) (id : Bytes) : (blank chip id).IsWhole := by
  have long : chip.family.pageCount.toNat * Layout.pageSize ≤
      (header id ++ zeros (chip.family.pageCount.toNat * Layout.pageSize)).length := by
    rw [List.length_append, zeros, List.length_replicate]
    exact Nat.le_add_left _ _
  exact List.length_set.trans (List.length_take_of_le long)

theorem isWhole_ultralight (id : Bytes) : (ultralight id).IsWhole := isWhole_blank .ultralight id

theorem isWhole_ultralightC (id secret : Bytes) : (ultralightC id secret).IsWhole :=
  (isWhole_blank .ultralightC id).store _ _

theorem isWhole_ultralightAes (id key : Bytes) : (ultralightAes id key).IsWhole :=
  (((isWhole_blank .ultralightAes id).store _ _).store _ _).store _ _

theorem pageStart_lt (known : page < tag.family.pageCount) (whole : tag.IsWhole) :
    pageStart page + Layout.pageSize ≤ tag.memory.length := by
  have below := UInt8.lt_iff_toNat_lt.mp known
  rw [whole, pageStart, ← Nat.succ_mul]
  exact Nat.mul_le_mul_right Layout.pageSize below

theorem length_shownPage (known : page < tag.family.pageCount) (whole : tag.IsWhole) :
    (tag.shownPage page).length = Layout.pageSize := by
  have inside := pageStart_lt known whole
  unfold shownPage
  split
  · exact List.length_replicate
  · apply List.length_take_of_le
    rw [List.length_drop]
    omega

/-- Pages past the last one are the first ones again. -/
theorem length_readBlock (whole : tag.IsWhole) (page : UInt8) :
    (tag.readBlock page).length = Layout.readLength := by
  have some_ : 0 < tag.family.pageCount :=
    UInt8.lt_trans (by decide) (userEnd_lt_pageCount tag.family)
  have each (offset : Nat) :
      (tag.shownPage ((page + UInt8.ofNat offset) % tag.family.pageCount)).length =
        Layout.pageSize :=
    length_shownPage (UInt8.mod_lt _ some_) whole
  have offsets : List.range Layout.readPages = [0, 1, 2, 3] := rfl
  simp only [readBlock, offsets, List.flatMap_cons, List.flatMap_nil, List.length_append, each]
  rfl

theorem isKeyPage_of_low (low : page < Layout.tdesKeyPage) : tag.isKeyPage page = false := by
  have below := UInt8.not_le.mpr low
  have belowAes : ¬ Layout.aesDataKeyPage ≤ page :=
    UInt8.not_le.mpr (UInt8.lt_trans low (by decide))
  unfold isKeyPage
  cases tag.family <;> simp [below, belowAes]

theorem shownPage_of_low (low : page < Layout.tdesKeyPage) : tag.shownPage page = tag.page page := by
  rw [shownPage, isKeyPage_of_low low]
  rfl

theorem toNat_pageShown {offset : Nat} (inside : page.toNat + offset < tag.family.pageCount.toNat) :
    ((page + UInt8.ofNat offset) % tag.family.pageCount).toNat = page.toNat + offset := by
  have count := pageCount_le tag.family
  rw [UInt8.toNat_mod, toNat_pageAfter (by omega), Nat.mod_eq_of_lt inside]

private theorem page_after (page : UInt8) (offset : Nat)
    (low : page.toNat + offset < Layout.tdesKeyPage.toNat) :
    tag.shownPage ((page + UInt8.ofNat offset) % tag.family.pageCount) =
      (tag.memory.drop (pageStart page + offset * Layout.pageSize)).take Layout.pageSize := by
  have count := UInt8.lt_iff_toNat_lt.mp (keyPage_lt_pageCount tag.family)
  have position := toNat_pageShown (Nat.lt_trans low count)
  rw [shownPage_of_low (UInt8.lt_iff_toNat_lt.mpr (by rwa [position])), SimulatedTag.page, pageStart,
    position, Nat.add_mul]
  rfl

/-- No page from the header to the configuration is a part of a key. -/
theorem readBlock_of_low (low : page.toNat + 3 < Layout.tdesKeyPage.toNat) :
    tag.readBlock page = (tag.memory.drop (pageStart page)).take Layout.readLength := by
  have offsets : List.range Layout.readPages = [0, 1, 2, 3] := rfl
  have each (offset : Nat) (inside : offset ≤ 3) := tag.page_after page offset (by omega)
  have pages : Layout.readLength = Layout.pageSize + (Layout.pageSize + (Layout.pageSize +
      Layout.pageSize)) := rfl
  rw [pages, List.take_add, List.take_add, List.take_add, List.drop_drop, List.drop_drop,
    List.drop_drop, readBlock, offsets]
  simp only [List.flatMap_cons, List.flatMap_nil, List.append_nil, each 0 (by decide),
    each 1 (by decide), each 2 (by decide), each 3 (by decide)]
  rfl

/-- The bytes of the pages from the first one up to the last one, without it. -/
def stretch (tag : SimulatedTag) (first last : UInt8) : Bytes :=
  (tag.memory.drop (pageStart first)).take (pageStart last - pageStart first)

def uidBytes (tag : SimulatedTag) : Bytes := tag.memory.take 3 ++ (tag.memory.drop 4).take 4

/-- The check bytes in the header are those of the identifier. -/
def HasValidUid (tag : SimulatedTag) : Prop :=
  Response.uidCheckBytes tag.uidBytes = (tag.memory.getD 3 0, tag.memory.getD 8 0)

def uid (tag : SimulatedTag) : Uid := ⟨UInt64.ofNat (Bytes.foldBigEndian tag.uidBytes)⟩

private theorem readLength_le (whole : tag.IsWhole) : Layout.readLength ≤ tag.memory.length := by
  have user := pageStart_lt (userEnd_lt_pageCount tag.family) whole
  exact Nat.le_trans (by decide) user

private theorem exists_header (whole : tag.IsWhole) : ∃ b0 b1 b2 b3 b4 b5 b6 b7 b8 rest,
    tag.memory = b0 :: b1 :: b2 :: b3 :: b4 :: b5 :: b6 :: b7 :: b8 :: rest := by
  have long : 16 ≤ tag.memory.length := readLength_le whole
  exact Response.exists_header (Nat.le_trans (by decide) long)

private theorem readBlock_header (tag : SimulatedTag) :
    tag.readBlock 0 = tag.memory.take Layout.readLength :=
  readBlock_of_low (by decide)

theorem uid_of_header (whole : tag.IsWhole) (valid : tag.HasValidUid) :
    Response.uid (tag.readBlock 0) = .ok tag.uid := by
  unfold HasValidUid uidBytes at valid
  rw [readBlock_header, uid, uidBytes]
  obtain ⟨b0, b1, b2, b3, b4, b5, b6, b7, b8, rest, shape⟩ := exists_header whole
  rw [shape] at valid ⊢
  exact if_neg (not_not_intro valid)

theorem uid_of_spoilt_header (whole : tag.IsWhole) (spoilt : ¬ tag.HasValidUid) :
    Response.uid (tag.readBlock 0) = .error (.invalidData "UID check bytes do not match") := by
  unfold HasValidUid uidBytes at spoilt
  rw [readBlock_header]
  obtain ⟨b0, b1, b2, b3, b4, b5, b6, b7, b8, rest, shape⟩ := exists_header whole
  rw [shape] at spoilt ⊢
  exact if_pos spoilt

/-- A header that was not changed holds the identifier of the tag. -/
theorem uidBytes_of_header (seven : tag.id.length = 7)
    (unchanged : (header tag.id).take 8 <+: tag.memory) : tag.uidBytes = tag.id := by
  obtain ⟨u0, u1, u2, u3, u4, u5, u6, shape⟩ : ∃ u0 u1 u2 u3 u4 u5 u6,
      tag.id = [u0, u1, u2, u3, u4, u5, u6] := by
    match tag.id, seven with
    | [u0, u1, u2, u3, u4, u5, u6], _ => exact ⟨u0, u1, u2, u3, u4, u5, u6, rfl⟩
  obtain ⟨rest, memory⟩ := unchanged
  rw [uidBytes, ← memory, shape]
  rfl

structure Resembles (tag image : SimulatedTag) : Prop where
  chip : tag.chip = image.chip
  memory : tag.memory = image.memory

namespace Resembles

variable {image : SimulatedTag} (resembles : tag.Resembles image)
include resembles

theorem family : tag.family = image.family := congrArg Chip.family resembles.chip

theorem isWhole (whole : image.IsWhole) : tag.IsWhole := by
  rw [IsWhole, resembles.memory, resembles.family]
  exact whole

theorem auth0 : tag.auth0 = image.auth0 := by
  unfold SimulatedTag.auth0 pageByte
  rw [resembles.family, resembles.memory]

theorem cmacEnabled : tag.cmacEnabled = image.cmacEnabled := by
  unfold SimulatedTag.cmacEnabled pageByte
  rw [resembles.chip, resembles.memory]

private theorem shownPage (page : UInt8) : tag.shownPage page = image.shownPage page := by
  unfold SimulatedTag.shownPage isKeyPage SimulatedTag.page
  rw [resembles.family, resembles.memory]

theorem readBlock (page : UInt8) : tag.readBlock page = image.readBlock page := by
  unfold SimulatedTag.readBlock
  simp only [resembles.family, resembles.shownPage]

theorem store (page : UInt8) (data : Bytes) :
    (tag.store page data).Resembles (image.store page data) where
  chip := resembles.chip
  memory := congrArg (fun memory : Bytes => memory.overwrite (pageStart page) data)
    resembles.memory

end Resembles

end Wristband.SimulatedTag
