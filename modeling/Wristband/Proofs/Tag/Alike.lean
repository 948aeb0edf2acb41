import Wristband.Proofs.Tag.Configuration
import Wristband.Proofs.Tag.Calls

/-! Two simulated tags that differ in the content of some pages only. As long as neither a READ nor a
handshake brings such a page to light, they answer alike and go on to differ in these pages only. -/

namespace Wristband

def SimulatedTag.Covers (page : UInt8) (place : Nat) : Prop :=
  pageStart page ≤ place ∧ place < pageStart page + Layout.pageSize

namespace SimulatedTag

def withMemory (tag : SimulatedTag) (memory : Bytes) : SimulatedTag := { tag with memory := memory }

/-- The other tag is this one, but for the content of some pages. -/
structure SameOutside (pages : UInt8 → Prop) (tag other : SimulatedTag) : Prop where
  rest : other = tag.withMemory other.memory
  sized : other.memory.length = tag.memory.length
  elsewhere : ∀ place, (∀ page, pages page → ¬ Covers page place) →
    other.memory[place]? = tag.memory[place]?

theorem covers_of_lt {place : Nat} (low : place < 256 * Layout.pageSize) :
    Covers (UInt8.ofNat (place / Layout.pageSize)) place := by
  simp only [Layout.pageSize] at low
  have page : (UInt8.ofNat (place / 4)).toNat = place / 4 :=
    UInt8.toNat_ofNat_of_lt' (show place / 4 < 256 by omega)
  simp only [Covers, pageStart, Layout.pageSize, page]
  omega

private theorem pageStart_congr_of_covers {page other : UInt8} {place : Nat} (covers : Covers page place)
    (again : Covers other place) : page = other := by
  simp only [Covers, pageStart, Layout.pageSize] at covers again
  exact UInt8.toNat_inj.mp (by omega)

variable {pages : UInt8 → Prop} {tag other : SimulatedTag}

/-- Storing in some of the pages changes these only. -/
theorem sameOutside_store {first : UInt8} {data : Bytes}
    (inside : ∀ place, pageStart first ≤ place → place < pageStart first + data.length →
      ∃ page, pages page ∧ Covers page place) :
    tag.SameOutside pages (tag.store first data) where
  rest := rfl
  sized := Bytes.length_overwrite _ _ _
  elsewhere place away := by
    refine Bytes.getElem?_overwrite_of_outside _ _ _ ?_
    by_cases behind : pageStart first ≤ place
    · refine .inr (Nat.not_lt.mp fun before => ?_)
      obtain ⟨page, within, covers⟩ := inside place behind before
      exact away page within covers
    · exact .inl (Nat.not_le.mp behind)

theorem sameOutside_store_page {page : UInt8} {data : Bytes} (within : pages page)
    (sized : data.length = Layout.pageSize) : tag.SameOutside pages (tag.store page data) :=
  sameOutside_store fun _ behind before => ⟨page, within, behind, by rwa [sized] at before⟩

namespace SameOutside

variable (same : tag.SameOutside pages other)
include same

private theorem chip : other.chip = tag.chip := by
  rw [same.rest]
  rfl

theorem family : other.family = tag.family := congrArg Chip.family same.chip

theorem isKeyPage (page : UInt8) : other.isKeyPage page = tag.isKeyPage page := by
  rw [SimulatedTag.isKeyPage, SimulatedTag.isKeyPage, same.family]

private theorem authentication : other.authentication = tag.authentication := by
  rw [same.rest]
  rfl

private theorem getElem? {page : UInt8} (apart : ¬ pages page) {place : Nat} (covers : Covers page place) :
    other.memory[place]? = tag.memory[place]? := by
  refine same.elsewhere place fun another within again => ?_
  rw [pageStart_congr_of_covers covers again] at apart
  exact apart within

theorem page {page : UInt8} (apart : ¬ pages page) : other.page page = tag.page page :=
  Bytes.take_drop_congr _ _ fun _ behind before => same.getElem? apart ⟨behind, before⟩

private theorem pageByte {page : UInt8} (apart : ¬ pages page) {place : Nat}
    (inside : place < Layout.pageSize) : other.pageByte page place = tag.pageByte page place := by
  rw [← getD_page _ _ inside, ← getD_page _ _ inside, same.page apart]

theorem auth0 (apart : ¬ pages tag.family.auth0Page) : other.auth0 = tag.auth0 := by
  rw [SimulatedTag.auth0, SimulatedTag.auth0, same.family]
  exact same.pageByte apart (auth0Byte_lt tag.family)

private theorem cmacEnabled (apart : ¬ pages tag.family.auth0Page) : other.cmacEnabled = tag.cmacEnabled := by
  rw [SimulatedTag.cmacEnabled, SimulatedTag.cmacEnabled, same.chip]
  cases chip : tag.chip with
  | ultralight | ultralightC => rfl
  | ultralightAes =>
    have family : tag.family = .ultralightAes := congrArg Chip.family chip
    have config : ¬ pages Layout.aesConfigPage := by rwa [family] at apart
    rw [same.pageByte config (by decide : 0 < Layout.pageSize)]

theorem isAuthenticated : other.isAuthenticated = tag.isAuthenticated := by
  rw [SimulatedTag.isAuthenticated, SimulatedTag.isAuthenticated, same.authentication]

private theorem channel? : other.channel? = tag.channel? := channel?_congr same.authentication

private theorem keyAt {first : UInt8} (low : first.toNat + 3 < 256)
    (apart : ∀ page, first ≤ page → page.toNat ≤ first.toNat + 3 → ¬ pages page) :
    other.keyAt first = tag.keyAt first := by
  refine Bytes.take_drop_congr _ _ fun place behind before => ?_
  have short : place < 256 * Layout.pageSize := by
    simp only [pageStart, Layout.pageSize] at *
    omega
  have covers := covers_of_lt short
  refine same.getElem? (apart _ ?_ ?_) covers
  · simp only [UInt8.le_iff_toNat_le, Covers, pageStart, Layout.pageSize] at *
    omega
  · simp only [Covers, pageStart, Layout.pageSize] at *
    omega

private theorem store (page : UInt8) (data : Bytes) :
    (tag.store page data).SameOutside pages (other.store page data) where
  rest := by
    rw [same.rest]
    rfl
  sized := by
    rw [SimulatedTag.store, SimulatedTag.store, Bytes.length_overwrite, Bytes.length_overwrite,
      same.sized]
  elsewhere place away :=
    Bytes.getElem?_overwrite_congr _ _ _ same.sized fun _ => same.elsewhere place away

end SameOutside

section
variable {memory : Bytes}

private theorem sealReply_withMemory (tag : SimulatedTag) (memory payload : Bytes) :
    (tag.withMemory memory).sealReply payload =
      ((tag.sealReply payload).1, (tag.sealReply payload).2.withMemory memory) := by
  have active : (tag.withMemory memory).channel? = tag.channel? := rfl
  unfold sealReply
  rw [active]
  split
  · rfl
  · split
    · rfl
    · dsimp only [withMemory]
      split
      next spoilt => exact if_pos spoilt
      next genuine => exact if_neg genuine

private theorem continueAuthentication_withMemory
    (flag : (tag.withMemory memory).cmacEnabled = tag.cmacEnabled) (message : Bytes) :
    (tag.withMemory memory).continueAuthentication message =
      ((tag.continueAuthentication message).1,
        (tag.continueAuthentication message).2.withMemory memory) := by
  have held : (tag.withMemory memory).authentication = tag.authentication := rfl
  have faults : (tag.withMemory memory).faults = tag.faults := rfl
  simp only [continueAuthentication, flag, held, faults]
  split
  · rfl
  · split
    · split <;> rfl
    · split <;> rfl
    · rfl

private theorem authenticate_withMemory {slot : UInt8}
    (tdes : tag.chip = .ultralightC →
      (tag.withMemory memory).keyAt Layout.tdesKeyPage = tag.keyAt Layout.tdesKeyPage)
    (aes : tag.chip = .ultralightAes → slot ≤ 2 →
      (tag.withMemory memory).keyAt (Layout.aesDataKeyPage + slot * 4) =
        tag.keyAt (Layout.aesDataKeyPage + slot * 4)) :
    (tag.withMemory memory).authenticate slot =
      ((tag.authenticate slot).1, (tag.authenticate slot).2.withMemory memory) := by
  simp only [authenticate, unauthenticated, withMemory, keyAt] at tdes aes ⊢
  cases chip : tag.chip with
  | ultralight => rfl
  | ultralightC =>
    dsimp only
    split
    · rfl
    · rw [tdes chip]
      split <;> rfl
  | ultralightAes =>
    dsimp only
    split
    · rfl
    next known =>
      rw [aes chip (UInt8.not_lt.mp known)]
      split <;> rfl

end

private theorem transceive_withMemory_of_silent (silent : tag.responds = false) (memory frame : Bytes) :
    (tag.withMemory memory).transceive frame =
      ((tag.transceive frame).1, (tag.transceive frame).2.withMemory memory) := by
  have same : (tag.withMemory memory).transceive frame =
      if tag.lost then (.error leftField, tag.withMemory memory)
      else if !tag.connected then (.error .notConnected, tag.withMemory memory)
      else if exceeds tag.faults.loseAfter (tag.frames ++ [frame]).length then
        (.error leftField, (tag.heard frame).remove.withMemory memory)
      else if exceeds tag.faults.timeOutAfter (tag.frames ++ [frame]).length then
        (.error (.timeout silence), (tag.heard frame).withMemory memory)
      else ((tag.heard frame).withMemory memory).answerFrame frame := rfl
  rw [same, transceive]
  split
  · rfl
  next present =>
    split
    · rfl
    next connected =>
      dsimp only
      split
      · rfl
      next stays =>
        split
        · rfl
        next speaks => exact (not_silent silent present connected stays speaks).elim

section
variable {page slot : UInt8}

private theorem isKeyPage_tdes (chip : tag.chip = .ultralightC) (behind : Layout.tdesKeyPage ≤ page)
    (before : page.toNat ≤ Layout.tdesKeyPage.toNat + 3) : tag.isKeyPage page = true := by
  have family : tag.family = .ultralight := congrArg Chip.family chip
  have below : page < Layout.tdesKeyPage + 4 := UInt8.lt_iff_toNat_lt.mpr (Nat.lt_succ_of_le before)
  simp only [isKeyPage, family, behind, below, decide_true, Bool.and_self]

private theorem toNat_aesKey (known : slot ≤ 2) :
    (Layout.aesDataKeyPage + slot * 4).toNat = Layout.aesDataKeyPage.toNat + slot.toNat * 4 := by
  have small : slot.toNat ≤ 2 := UInt8.le_iff_toNat_le.mp known
  rw [UInt8.toNat_add, UInt8.toNat_mul]
  simp only [Layout.aesDataKeyPage, UInt8.reduceToNat]
  omega

private theorem isKeyPage_aes (chip : tag.chip = .ultralightAes) (known : slot ≤ 2)
    (behind : Layout.aesDataKeyPage + slot * 4 ≤ page)
    (before : page.toNat ≤ (Layout.aesDataKeyPage + slot * 4).toNat + 3) :
    tag.isKeyPage page = true := by
  have family : tag.family = .ultralightAes := congrArg Chip.family chip
  have small : slot.toNat ≤ 2 := UInt8.le_iff_toNat_le.mp known
  have first : Layout.aesDataKeyPage.toNat = 0x30 := rfl
  have last : (Layout.aesOriginalityKeyPage + 4).toNat = 0x3C := rfl
  have position := toNat_aesKey known
  rw [position] at before
  rw [UInt8.le_iff_toNat_le, position] at behind
  have behindFirst : Layout.aesDataKeyPage ≤ page := by
    rw [UInt8.le_iff_toNat_le]
    omega
  have below : page < Layout.aesOriginalityKeyPage + 4 := by
    rw [UInt8.lt_iff_toNat_lt]
    omega
  simp only [isKeyPage, family, behindFirst, below, decide_true, Bool.and_self]

end

namespace SameOutside

variable (same : tag.SameOutside pages other)
include same

private theorem carried {next : SimulatedTag} (kept : next.memory = tag.memory) :
    next.SameOutside pages (next.withMemory other.memory) where
  rest := rfl
  sized := by
    rw [kept]
    exact same.sized
  elsewhere := by
    rw [kept]
    exact same.elsewhere

private theorem write (config : ¬ pages tag.family.auth0Page) (page : UInt8) (data : Bytes) :
    (other.write page data).1 = (tag.write page data).1 ∧
      (tag.write page data).2.SameOutside pages (other.write page data).2 := by
  unfold SimulatedTag.write
  rw [same.family, same.isAuthenticated, same.auth0 config]
  split
  · exact ⟨rfl, same⟩
  · split
    · exact ⟨rfl, same⟩
    · exact ⟨rfl, same.store page data⟩

private theorem authenticate (keys : ∀ page, pages page → tag.isKeyPage page = false) (slot : UInt8) :
    (other.authenticate slot).1 = (tag.authenticate slot).1 ∧
      (tag.authenticate slot).2.SameOutside pages (other.authenticate slot).2 := by
  have key {first : UInt8} (low : first.toNat + 3 < 256)
      (hidden : ∀ page : UInt8, first ≤ page → page.toNat ≤ first.toNat + 3 →
        tag.isKeyPage page = true) :
      (tag.withMemory other.memory).keyAt first = tag.keyAt first := by
    rw [← same.rest]
    refine same.keyAt low fun page behind before within => ?_
    exact Bool.false_ne_true ((keys page within).symm.trans (hidden page behind before))
  have executed : other.authenticate slot =
      ((tag.authenticate slot).1, (tag.authenticate slot).2.withMemory other.memory) := by
    rw [same.rest]
    refine authenticate_withMemory
      (fun chip => key (by decide) fun page behind before => isKeyPage_tdes chip behind before)
      fun chip known => key ?_ fun page behind before => isKeyPage_aes chip known behind before
    have small : slot.toNat ≤ 2 := UInt8.le_iff_toNat_le.mp known
    have first : Layout.aesDataKeyPage.toNat = 0x30 := rfl
    rw [toNat_aesKey known]
    omega
  rw [executed]
  exact ⟨rfl, same.carried (tag.authenticate_evolves slot).2⟩

private theorem continueAuthentication (config : ¬ pages tag.family.auth0Page) (message : Bytes) :
    (other.continueAuthentication message).1 = (tag.continueAuthentication message).1 ∧
      (tag.continueAuthentication message).2.SameOutside pages
        (other.continueAuthentication message).2 := by
  have flag : (tag.withMemory other.memory).cmacEnabled = tag.cmacEnabled := by
    rw [← same.rest]
    exact same.cmacEnabled config
  rw [same.rest, continueAuthentication_withMemory flag]
  exact ⟨rfl, same.carried (tag.continueAuthentication_evolves message).2⟩

private theorem execute (config : ¬ pages tag.family.auth0Page) {command : Bytes}
    (reads : ∀ page, TagCommand.ofFrame command = .read page → other.read page = tag.read page)
    (keys : ∀ slot, TagCommand.ofFrame command = .authenticate slot →
      ∀ page, pages page → tag.isKeyPage page = false) :
    (other.execute command).1 = (tag.execute command).1 ∧
      (tag.execute command).2.SameOutside pages (other.execute command).2 := by
  unfold SimulatedTag.execute
  cases means : TagCommand.ofFrame command with
  | getVersion => exact ⟨by rw [same.chip], same⟩
  | read page => exact ⟨reads page means, same⟩
  | write page data => exact same.write config page data
  | authenticate slot => exact same.authenticate (keys slot means) slot
  | continueAuthentication message => exact same.continueAuthentication config message
  | unknown => exact ⟨rfl, same⟩

private theorem sealReply (payload : Bytes) : (other.sealReply payload).1 = (tag.sealReply payload).1 ∧
    (tag.sealReply payload).2.SameOutside pages (other.sealReply payload).2 := by
  rw [same.rest, sealReply_withMemory]
  exact ⟨rfl, same.carried (tag.sealReply_evolves payload).2⟩

private theorem unauthenticated : tag.unauthenticated.SameOutside pages other.unauthenticated := by
  rw [same.rest]
  exact same.carried rfl

private theorem heard (frame : Bytes) : (tag.heard frame).SameOutside pages (other.heard frame) := by
  rw [same.rest]
  exact same.carried rfl

private theorem answerCommand (config : ¬ pages tag.family.auth0Page) (viaChannel : Bool) {command : Bytes}
    (reads : ∀ page, TagCommand.ofFrame command = .read page → other.read page = tag.read page)
    (keys : ∀ slot, TagCommand.ofFrame command = .authenticate slot →
      ∀ page, pages page → tag.isKeyPage page = false) :
    (other.answerCommand viaChannel command).1 = (tag.answerCommand viaChannel command).1 ∧
      (tag.answerCommand viaChannel command).2.SameOutside pages
        (other.answerCommand viaChannel command).2 := by
  obtain ⟨replied, next⟩ := same.execute config reads keys
  unfold SimulatedTag.answerCommand
  rcases executed : tag.execute command with ⟨reply, after⟩
  rcases executedOther : other.execute command with ⟨replyOther, afterOther⟩
  rw [executed, executedOther] at replied next
  cases replied
  cases reply with
  | nak code => exact ⟨rfl, next.unauthenticated⟩
  | data payload =>
    cases viaChannel with
    | true => exact next.sealReply payload
    | false => exact ⟨rfl, next⟩

private theorem received? (frame : Bytes) : other.received? frame = tag.received? frame := by
  rw [same.rest]
  rfl

theorem taken? (call : TagCall) : other.taken? call = tag.taken? call := by
  rw [same.rest]
  cases call <;> rfl

private theorem responds : other.responds = tag.responds := by
  rw [same.rest]
  rfl

/-- A frame is answered alike by both tags, and leaves them alike, if a READ in it shows the same of both
and a handshake uses keys that both have. -/
theorem transceive (config : ¬ pages tag.family.auth0Page) {frame : Bytes}
    (reads : ∀ page, tag.taken? (.transceive frame) = some (.read page) →
      other.read page = tag.read page)
    (keys : ∀ slot, tag.taken? (.transceive frame) = some (.authenticate slot) →
      ∀ page, pages page → tag.isKeyPage page = false) :
    (other.transceive frame).1 = (tag.transceive frame).1 ∧
      (tag.transceive frame).2.SameOutside pages (other.transceive frame).2 := by
  cases responds : tag.responds with
  | false =>
    obtain ⟨error, missed, unanswered, kept, _⟩ := transceive_unanswered responds frame
    rw [same.rest, transceive_withMemory_of_silent responds, unanswered]
    exact ⟨rfl, same.carried kept⟩
  | true =>
    have respondsOther := same.responds.trans responds
    cases reached : tag.received? frame with
    | none =>
      rw [transceive_rejected responds reached,
        transceive_rejected respondsOther ((same.received? frame).trans reached)]
      exact ⟨rfl, (same.heard frame).unauthenticated⟩
    | some received =>
      rw [taken?_of_received reached] at reads keys
      rw [transceive_received reached, transceive_received ((same.received? frame).trans reached),
        same.channel?]
      exact (same.heard frame).answerCommand config _ (fun page means => reads page (congrArg some means))
        fun slot means => keys slot (congrArg some means)

theorem perform (config : ¬ pages tag.family.auth0Page) {call : TagCall}
    (reads : ∀ page, tag.taken? call = some (.read page) → other.read page = tag.read page)
    (keys : ∀ slot, tag.taken? call = some (.authenticate slot) →
      ∀ page, pages page → tag.isKeyPage page = false) :
    (other.perform call).1 = (tag.perform call).1 ∧
      (tag.perform call).2.SameOutside pages (other.perform call).2 := by
  cases call with
  | connect =>
    have sameLost : other.lost = tag.lost := by
      rw [same.rest]
      rfl
    cases lost : tag.lost with
    | true =>
      rw [perform_connect_of_lost lost, perform_connect_of_lost (sameLost.trans lost)]
      exact ⟨rfl, same⟩
    | false =>
      rw [perform_connect_of_present lost, perform_connect_of_present (sameLost.trans lost), same.rest]
      exact ⟨rfl, same.carried rfl⟩
  | close =>
    rw [same.rest]
    exact ⟨rfl, same.carried rfl⟩
  | transceive frame => exact same.transceive config reads keys

end SameOutside
end SimulatedTag
end Wristband
