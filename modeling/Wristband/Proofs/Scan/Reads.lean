import Wristband.Proofs.Scan.Served
import Wristband.Proofs.Session.Recognised

/-! What a read request returns from a tag without faults. With the key of the tag it is all that
follows in user memory. Without a key it is what precedes AUTH0, so what lies behind AUTH0 has no
influence on the result. -/

namespace Wristband

open Session

namespace SimulatedTag

def refusal (tag : SimulatedTag) (page : UInt8) : TagError :=
  if tag.auth0 = 0 then .protocol (.nak nakRefused)
  else .notAuthenticated (Access.describe .read page)

/-- What a read request returns. -/
def readResult (tag : SimulatedTag) (authenticated : Bool) (page : UInt8) : ScanResult :=
  if page < tag.readEnd authenticated then
    .read (decide (tag.auth0 < tag.family.pageCount)) tag.uid
      (tag.stretch page (tag.readEnd authenticated))
  else .fail (tag.refusal page).toFailure

end SimulatedTag

variable {tag image : SimulatedTag} {random : RandomSource} {page : UInt8}

theorem userRange_ok (first : Layout.userStart ≤ page) (last : page < Layout.userEnd) :
    ∃ count, userRange page Layout.pageSize = .ok count := by
  have inside : ¬ (page < Layout.userStart ∨ Layout.userEnd.toNat <
      page.toNat + (Layout.pageSize + Layout.pageSize - 1) / Layout.pageSize) := by
    refine not_or.mpr ⟨UInt8.not_lt.mpr first, ?_⟩
    have below := UInt8.lt_iff_toNat_lt.mp last
    simp only [Layout.pageSize]
    omega
  exact ⟨_, if_neg inside⟩

namespace Scan

variable {authenticated : Bool} {session : Session SimulatedTag}

/-- What a read does once it has the identifier. -/
theorem readBehindHeader {spent : Nat} (converses : session.Converses image authenticated spent)
    (whole : image.IsWhole) (room : spent + 21 ≤ 65535) (first : Layout.userStart ≤ page)
    (last : page < Layout.userEnd) (uid : Uid) :
    Ensures (do
      let isProtected ← isProtected
      let content ← readUserMemory page
      return ScanResult.read isProtected uid content) session
      (fun result _ => page < image.readEnd authenticated ∧
        result = .read (decide (image.auth0 < image.family.pageCount)) uid
          (image.stretch page (image.readEnd authenticated)))
      (fun error _ => image.readEnd authenticated ≤ page ∧
        error = .notAuthenticated (Access.describe .read page)) := by
  obtain ⟨count, fits⟩ := userRange_ok first last
  refine (converses.isProtected whole (by omega)).total.bind ?_
  rintro _ _ ⟨rfl, going⟩
  refine (going.readUserMemory whole (by omega) fits).bind ?_
  rintro _ _ ⟨inside, rfl⟩
  exact ensures_pure.mpr ⟨inside, rfl⟩

private theorem readFrom_result (converses : session.Converses image authenticated 0)
    (whole : image.IsWhole) (valid : image.HasValidUid) (first : Layout.userStart ≤ page)
    (last : page < Layout.userEnd) :
    Ensures (readFrom page) session
      (fun result _ => result = image.readResult authenticated page)
      (fun error _ => .fail error.toFailure = image.readResult authenticated page) := by
  have stranger_refused (strange : authenticated = false) (behind : image.auth0 ≤ page) :
      image.readResult authenticated page = .fail (image.refusal page).toFailure := by
    have outside : image.readEnd false ≤ page := Std.le_trans Std.min_le_left behind
    rw [SimulatedTag.readResult, strange, if_neg (UInt8.not_lt.mpr outside)]
  refine ((converses.readUid whole valid (by decide)).onError ?_).bind ?_
  · rintro _ _ ⟨strange, hidden, rfl⟩
    rw [stranger_refused strange (hidden ▸ UInt8.zero_le), SimulatedTag.refusal, if_pos hidden]
  · rintro _ _ ⟨shown, rfl, converses⟩
    refine (readBehindHeader converses whole (by decide) first last image.uid).weaken ?_ ?_
    · rintro _ _ ⟨inside, rfl⟩
      rw [SimulatedTag.readResult, if_pos inside]
    · rintro _ _ ⟨outside, rfl⟩
      cases authenticated with
      | true => exact absurd last (UInt8.not_lt.mpr outside)
      | false =>
        have behind : image.auth0 ≤ page := by
          rw [← UInt8.not_lt] at outside ⊢
          exact fun before => outside ((SimulatedTag.lt_readEnd_iff last).mpr before)
        have shownHeader : image.auth0 ≠ 0 := by
          intro hidden
          obtain known | before | user := shown
          · cases known
          · rw [hidden] at before
            exact absurd before (by decide)
          · exact absurd user (by decide)
        rw [stranger_refused rfl behind, SimulatedTag.refusal, if_neg shownHeader]

end Scan

private theorem serve_read_keyless (present : tag.lost = false) (faultless : tag.faults = .none)
    (whole : tag.IsWhole) (valid : tag.HasValidUid) (random : RandomSource)
    (first : Layout.userStart ≤ page) (last : page < Layout.userEnd) (cmac : Bool) :
    (serve tag tag.family random (.read page none cmac)).1 = tag.readResult false page := by
  obtain ⟨count, fits⟩ := userRange_ok first last
  have reads := Scan.readFrom_result (opened_converses present faultless random) whole valid
    first last
  refine serve_ensures present (fun result _ => result = tag.readResult false page) ?_
  refine ensures_bind.mpr (ensures_get.mpr (ensures_bind.mpr (ensures_ofData.mpr ?_)))
  rw [fits]
  exact reads.weaken (fun _ _ same _ _ => same) fun _ _ same _ _ => same

/-- A request that carries the key of the tag, and asks for codes just as the tag does, reads user
memory to its end. The identifier that comes with it is the one that is reported without reading, on
a tag whose header was not changed. -/
theorem read_with_held_key_returns_memory (present : tag.lost = false)
    (faultless : tag.faults = .none) (whole : tag.IsWhole) (valid : tag.HasValidUid)
    {key : AuthKey} (held : tag.Holds key .dataProtection) {cmac : Bool}
    (codes : tag.chip = .ultralightAes → cmac = tag.cmacEnabled) (random : RandomSource)
    (first : Layout.userStart ≤ page) (last : page < Layout.userEnd) :
    (serve tag tag.family random (.read page (some key) cmac)).1 =
        .read (decide (tag.auth0 < tag.family.pageCount)) tag.uid
          (tag.stretch page Layout.userEnd) ∧
      (tag.id.length = 7 → (SimulatedTag.header tag.id).take 8 <+: tag.memory →
        (serve tag tag.family random .fastRead).1 = .fastRead tag.uid) := by
  constructor
  · obtain ⟨count, fits⟩ := userRange_ok first last
    have all : tag.readResult true page =
        .read (decide (tag.auth0 < tag.family.pageCount)) tag.uid
          (tag.stretch page Layout.userEnd) := if_pos last
    rw [← all]
    refine serve_ensures present (fun result _ => result = tag.readResult true page) ?_
    refine ensures_bind.mpr (ensures_get.mpr (ensures_bind.mpr (ensures_ofData.mpr ?_)))
    rw [fits]
    refine ((opened_isFresh present faultless random).held_converses held codes).total.bind ?_
    intro _ after converses
    have reads := Scan.readFrom_result converses whole valid first last
    exact reads.weaken (fun _ _ same _ _ => same) fun _ _ same _ _ => same
  · intro seven header
    have same : tag.uidBytes = tag.id := SimulatedTag.uidBytes_of_header seven header
    have known : Uid.ofBytes (NfcTag.id (opened tag tag.family random).tag) = .ok tag.uid := by
      change Uid.ofBytes tag.id = .ok tag.uid
      rw [SimulatedTag.uid, same]
      have sized : ¬ (tag.id.isEmpty = true ∨ 8 < tag.id.length) := by
        rw [List.isEmpty_iff_length_eq_zero, seven]
        decide
      exact if_neg sized
    refine serve_ensures present (fun result _ => result = .fastRead tag.uid) ?_
    refine ensures_bind.mpr (ensures_get.mpr (ensures_bind.mpr (ensures_ofData.mpr ?_)))
    rw [known]
    exact fun _ _ => rfl

/-- A tag that uses codes is read with its key, across AUTH0 and from the middle of a block. -/
theorem zeroKey_reads_protected_memory :
    let tag := (zeroKeyTag.withAuth0 0x10).store 0x26 [1, 2, 3, 4, 5, 6, 7, 8]
    tag.IsWhole ∧ tag.HasValidUid ∧ tag.Holds zeroKey .dataProtection ∧ tag.cmacEnabled = true ∧
      (serve tag tag.family ⟨fun _ => 0, 0⟩ (.read 0x25 (some zeroKey) true)).1 =
        .read true ⟨0x04112233445566⟩ [0, 0, 0, 0, 1, 2, 3, 4, 5, 6, 7, 8] ∧
      (serve tag tag.family ⟨fun _ => 0, 0⟩ .fastRead).1 = .fastRead ⟨0x04112233445566⟩ := by
  intro tag
  have blank : zeroKeyTag.IsWhole := (SimulatedTag.isWhole_ultralightAes _ _).withCmac true
  have whole : tag.IsWhole := (blank.withAuth0 0x10).store _ _
  have valid : tag.HasValidUid := by
    unfold SimulatedTag.HasValidUid
    decide +kernel
  have stored : tag.keyAt (Layout.aesDataKeyPage + 0 * 4) = List.replicate 16 0 := by
    decide +kernel
  have held : tag.Holds zeroKey .dataProtection := stored
  have asks : tag.cmacEnabled = true := by decide +kernel
  have uid : tag.uid = ⟨0x04112233445566⟩ := by decide +kernel
  have read := read_with_held_key_returns_memory rfl rfl whole valid held (fun _ => asks.symm)
    ⟨fun _ => 0, 0⟩ (by decide : Layout.userStart ≤ 0x25) (by decide)
  have content : tag.stretch 0x25 Layout.userEnd = [0, 0, 0, 0, 1, 2, 3, 4, 5, 6, 7, 8] := by
    decide +kernel
  have protected_ : decide (tag.auth0 < tag.family.pageCount) = true := by decide +kernel
  rw [uid, content, protected_] at read
  exact ⟨whole, valid, held, asks, read.1, read.2 rfl (by decide +kernel)⟩

namespace SimulatedTag

/-- Two tags differ in protected user pages only. -/
structure SamePublic (tag other : SimulatedTag) : Prop where
  chip : other.chip = tag.chip
  memory : ∀ place, place < pageStart Layout.userStart ∨ place < pageStart tag.auth0 ∨
    pageStart Layout.userEnd ≤ place → other.memory[place]? = tag.memory[place]?

private theorem samePublic_store {data : Bytes} (user : Layout.userStart ≤ page) (behind : tag.auth0 ≤ page)
    (fits : pageStart page + data.length ≤ pageStart Layout.userEnd) :
    tag.SamePublic (tag.store page data) where
  chip := rfl
  memory place public_ := by
    have first : pageStart Layout.userStart ≤ pageStart page :=
      Nat.mul_le_mul_right _ (UInt8.le_iff_toNat_le.mp user)
    have protected_ : pageStart tag.auth0 ≤ pageStart page :=
      Nat.mul_le_mul_right _ (UInt8.le_iff_toNat_le.mp behind)
    exact Bytes.getElem?_overwrite_of_outside _ _ _ (by omega)

namespace SamePublic

variable {other : SimulatedTag} (same : tag.SamePublic other)
include same

private theorem family : other.family = tag.family := congrArg Chip.family same.chip

private theorem isWhole (whole : tag.IsWhole) : other.IsWhole := by
  have user : pageStart Layout.userEnd < tag.memory.length :=
    Nat.lt_of_add_right_lt (pageStart_lt (userEnd_lt_pageCount tag.family) whole)
  have none_ := same.memory tag.memory.length (.inr (.inr (Nat.le_of_lt user)))
  rw [List.getElem?_eq_none (Nat.le_refl _), List.getElem?_eq_none_iff] at none_
  have last := same.memory (tag.memory.length - 1) (.inr (.inr (by omega)))
  rw [List.getElem?_eq_getElem (by omega : tag.memory.length - 1 < tag.memory.length)] at last
  obtain ⟨inside, _⟩ := List.getElem?_eq_some_iff.mp last
  rw [IsWhole, same.family, ← whole]
  omega

private theorem auth0 : other.auth0 = tag.auth0 := by
  have behind : pageStart Layout.userEnd ≤
      pageStart tag.family.auth0Page + tag.family.auth0Byte :=
    Nat.le_add_right_of_le (Nat.mul_le_mul_right _
      (UInt8.le_iff_toNat_le.mp (UInt8.le_of_lt (userEnd_lt_auth0Page _))))
  simp only [SimulatedTag.auth0, pageByte, same.family, List.getD_eq_getElem?_getD,
    same.memory _ (.inr (.inr behind))]

private theorem slice {start count : Nat}
    (public_ : start + count ≤ pageStart Layout.userStart ∨
      start + count ≤ pageStart tag.auth0) :
    (other.memory.drop start).take count = (tag.memory.drop start).take count :=
  Bytes.take_drop_congr _ _ fun place _ before => same.memory _ (by omega)

private theorem uidBytes : other.uidBytes = tag.uidBytes := by
  have first : other.memory.take 3 = tag.memory.take 3 := same.slice (.inl (by decide : 0 + 3 ≤ 16))
  have second : (other.memory.drop 4).take 4 = (tag.memory.drop 4).take 4 :=
    same.slice (.inl (by decide : 4 + 4 ≤ 16))
  rw [SimulatedTag.uidBytes, SimulatedTag.uidBytes, first, second]

private theorem hasValidUid (valid : tag.HasValidUid) : other.HasValidUid := by
  have check (place : Nat) (header : place < 16) :
      other.memory.getD place 0 = tag.memory.getD place 0 := by
    rw [List.getD_eq_getElem?_getD, List.getD_eq_getElem?_getD, same.memory place (.inl header)]
  rw [HasValidUid, same.uidBytes, check 3 (by decide), check 8 (by decide)]
  exact valid

private theorem readResult (page : UInt8) : other.readResult false page = tag.readResult false page := by
  have ends : other.readEnd false = tag.readEnd false := by
    rw [readEnd, readEnd, same.auth0]
  have before : pageStart (tag.readEnd false) ≤ pageStart tag.auth0 :=
    Nat.mul_le_mul_right _ (UInt8.le_iff_toNat_le.mp Std.min_le_left)
  by_cases inside : page < tag.readEnd false
  · have content : other.stretch page (tag.readEnd false) = tag.stretch page (tag.readEnd false) := by
      have start : pageStart page ≤ pageStart (tag.readEnd false) :=
        Nat.mul_le_mul_right _ (UInt8.le_iff_toNat_le.mp (UInt8.le_of_lt inside))
      exact same.slice (.inr (by omega))
    simp only [SimulatedTag.readResult, ends, same.auth0, same.family, SimulatedTag.uid,
      same.uidBytes, content, if_pos inside]
  · simp only [SimulatedTag.readResult, ends, if_neg inside, refusal, same.auth0]

end SamePublic
end SimulatedTag

/-- Without a key a page can be read exactly if it precedes AUTH0, and what is returned is the memory
up to AUTH0. Whatever stands in protected user pages, the result is the same. -/
theorem keyless_read_ends_at_auth0 (present : tag.lost = false) (faultless : tag.faults = .none)
    (whole : tag.IsWhole) (valid : tag.HasValidUid) (random : RandomSource)
    (first : Layout.userStart ≤ page) (last : page < Layout.userEnd) (cmac : Bool) :
    let result := (serve tag tag.family random (.read page none cmac)).1
    (result.isFail = false ↔ page < tag.auth0) ∧
      (page < tag.auth0 → result = .read (decide (tag.auth0 < tag.family.pageCount)) tag.uid
        (tag.stretch page (min tag.auth0 Layout.userEnd))) ∧
      ∀ other : SimulatedTag, other.lost = false → other.faults = .none → tag.SamePublic other →
        ∀ source : RandomSource,
          (serve other other.family source (.read page none cmac)).1 = result := by
  have read := serve_read_keyless present faultless whole valid random first last cmac
  dsimp only
  rw [read]
  have order := tag.lt_readEnd_iff last
  refine ⟨?_, ?_, ?_⟩
  · rw [← order, SimulatedTag.readResult]
    split
    next inside => exact iff_of_true rfl inside
    next outside => exact iff_of_false nofun outside
  · intro before
    exact if_pos (order.mpr before)
  · intro other here reliable same source
    rw [serve_read_keyless here reliable (same.isWhole whole) (same.hasValidUid valid) source first
      last]
    exact same.readResult page

/-- The block that is read shows three protected pages as well, and none of them is returned. -/
theorem keyless_read_hides_rest_of_block :
    let tag := ((SimulatedTag.ultralight [0x04, 0x11, 0x22, 0x33, 0x44, 0x55, 0x66]).withAuth0
      0x06).store 0x04 [1, 2, 3, 4, 5, 6, 7, 8, 9, 10, 11, 12]
    let other := tag.store 0x06 [0xFF, 0xFF, 0xFF, 0xFF]
    let read := fun (tag : SimulatedTag) (page : UInt8) =>
      (serve tag tag.family ⟨fun _ => 0, 0⟩ (.read page none true)).1
    tag.IsWhole ∧ tag.HasValidUid ∧ tag.SamePublic other ∧
      tag.readBlock 0x05 = [5, 6, 7, 8, 9, 10, 11, 12, 0, 0, 0, 0, 0, 0, 0, 0] ∧
      read tag 0x05 = .read true ⟨0x04112233445566⟩ [5, 6, 7, 8] ∧
      read other 0x05 = read tag 0x05 ∧ (read tag 0x06).isFail = true := by
  intro tag other read
  have whole : tag.IsWhole := ((SimulatedTag.isWhole_ultralight _).withAuth0 0x06).store _ _
  have valid : tag.HasValidUid := by
    unfold SimulatedTag.HasValidUid
    decide +kernel
  have auth0 : tag.auth0 = 0x06 := by decide +kernel
  have same : tag.SamePublic other :=
    SimulatedTag.samePublic_store (by decide) (by rw [auth0]; decide) (by decide)
  have block : tag.readBlock 0x05 = [5, 6, 7, 8, 9, 10, 11, 12, 0, 0, 0, 0, 0, 0, 0, 0] := by
    decide +kernel
  have uid : tag.uid = ⟨0x04112233445566⟩ := by decide +kernel
  have content : tag.stretch 0x05 (min tag.auth0 Layout.userEnd) = [5, 6, 7, 8] := by decide +kernel
  have protected_ : decide (tag.auth0 < tag.family.pageCount) = true := by decide +kernel
  obtain ⟨_, shown, alike⟩ := keyless_read_ends_at_auth0 rfl rfl whole valid ⟨fun _ => 0, 0⟩
    (by decide : Layout.userStart ≤ 0x05) (by decide) true
  obtain ⟨allowed, _⟩ := keyless_read_ends_at_auth0 rfl rfl whole valid ⟨fun _ => 0, 0⟩
    (by decide : Layout.userStart ≤ 0x06) (by decide) true
  have before : (0x05 : UInt8) < tag.auth0 := by rw [auth0]; decide
  have behind : ¬ (0x06 : UInt8) < tag.auth0 := by rw [auth0]; decide
  rw [uid, content, protected_] at shown
  refine ⟨whole, valid, same, block, shown before, alike other rfl rfl same _, ?_⟩
  exact eq_true_of_ne_false fun succeeded => behind (allowed.mp succeeded)

end Wristband
