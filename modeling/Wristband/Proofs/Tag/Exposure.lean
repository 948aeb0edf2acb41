import Wristband.Proofs.Tag.Alike
import Wristband.Proofs.Tag.Protection

/-! What a terminal that is never authenticated can learn of protected user pages. A simulated tag looks
only at the page that a READ names, so what it answers to a READ of the last open pages shows the first
protected ones as well. Nothing else shows any. -/

namespace Wristband.SimulatedTag

variable {tag other : SimulatedTag} {first page : UInt8} {call : TagCall}

structure Shields (tag : SimulatedTag) (page : UInt8) : Prop where
  behind : tag.auth0 ≤ page
  user : Layout.userStart ≤ page
  before : page < Layout.userEnd

/-- A READ of an open page goes on to a protected one in which the tags differ. -/
def Exposes (tag other : SimulatedTag) (first : UInt8) : Prop :=
  first < tag.auth0 ∧ ∃ page, tag.Shields page ∧ first ≤ page ∧ page.toNat ≤ first.toNat + 3 ∧
    other.page page ≠ tag.page page

private theorem not_shields_auth0Page (tag : SimulatedTag) : ¬ tag.Shields tag.family.auth0Page :=
  fun shields => UInt8.lt_asymm shields.before (userEnd_lt_auth0Page _)

private theorem Shields.known (shields : tag.Shields page) : page < tag.family.pageCount :=
  UInt8.lt_trans shields.before (userEnd_lt_pageCount _)

private theorem Shields.low (shields : tag.Shields page) : page < Layout.tdesKeyPage :=
  UInt8.lt_trans shields.before (by decide)

private theorem shields_congr {next : SimulatedTag} (auth0 : next.auth0 = tag.auth0) :
    next.Shields = tag.Shields := by
  refine funext fun page => propext ⟨fun shields => ?_, fun shields => ?_⟩
  · exact ⟨auth0 ▸ shields.behind, shields.user, shields.before⟩
  · exact ⟨auth0 ▸ shields.behind, shields.user, shields.before⟩

private theorem exposes_congr {next nextOther : SimulatedTag} (auth0 : next.auth0 = tag.auth0)
    (kept : ∀ page, tag.Shields page → next.page page = tag.page page)
    (keptOther : ∀ page, tag.Shields page → nextOther.page page = other.page page) :
    next.Exposes nextOther = tag.Exposes other := by
  funext first
  unfold Exposes
  rw [auth0, shields_congr auth0]
  refine propext (and_congr_right fun _ => exists_congr fun page => and_congr_right fun shields => ?_)
  rw [kept page shields, keptOther page shields]

private theorem flatMap_eq_iff {α β : Type} {shown shownOther : α → List β} {items : List α}
    (sized : ∀ item ∈ items, (shownOther item).length = (shown item).length) :
    items.flatMap shownOther = items.flatMap shown ↔ ∀ item ∈ items, shownOther item = shown item := by
  induction items with
  | nil => exact ⟨fun _ => nofun, fun _ => rfl⟩
  | cons item items ih =>
    obtain ⟨own, rest⟩ := List.forall_mem_cons.mp sized
    rw [List.flatMap_cons, List.flatMap_cons, List.forall_mem_cons, ← ih rest]
    exact ⟨fun same => List.append_inj same own, fun ⟨same, others⟩ => by rw [same, others]⟩

private theorem toNat_pageShown_wrapped (known : first < tag.family.pageCount) {offset : Nat} (few : offset < 4)
    (beyond : tag.family.pageCount.toNat ≤ first.toNat + offset) :
    ((first + UInt8.ofNat offset) % tag.family.pageCount).toNat < Layout.userStart.toNat := by
  have count := pageCount_le tag.family
  have many : 0x28 < tag.family.pageCount.toNat := UInt8.lt_iff_toNat_lt.mp (userEnd_lt_pageCount _)
  have below := UInt8.lt_iff_toNat_lt.mp known
  have start : Layout.userStart.toNat = 4 := rfl
  rw [UInt8.toNat_mod, toNat_pageAfter (by omega), Nat.mod_eq_sub_mod beyond,
    Nat.mod_eq_of_lt (by omega)]
  omega

private theorem Shields.toNat_pageShown {offset : Nat} (known : first < tag.family.pageCount)
    (few : offset < 4) (shields : tag.Shields ((first + UInt8.ofNat offset) % tag.family.pageCount)) :
    ((first + UInt8.ofNat offset) % tag.family.pageCount).toNat = first.toNat + offset := by
  refine SimulatedTag.toNat_pageShown (Nat.not_le.mp fun beyond => ?_)
  have user := UInt8.le_iff_toNat_le.mp shields.user
  exact Nat.not_lt.mpr user (toNat_pageShown_wrapped known few beyond)

private theorem Exposes.known (exposes : tag.Exposes other first) : first < tag.family.pageCount := by
  obtain ⟨_, page, shields, from_, _⟩ := exposes
  exact UInt8.lt_of_le_of_lt from_ shields.known

private theorem read_of_open (open_ : first < tag.auth0) (known : first < tag.family.pageCount) :
    tag.read first = .data (tag.readBlock first) := by
  rw [read, if_neg (UInt8.not_le.mpr known), if_neg fun shut => UInt8.not_lt.mpr shut.2.1 open_]

private theorem perform_read (unknown : tag.isAuthenticated = false)
    (taken : tag.taken? call = some (.read first)) {block : Bytes}
    (shown : tag.read first = .data block) : (tag.perform call).1 = .ok block := by
  obtain ⟨frame, received, rfl, reached, means⟩ := taken?_eq_some taken
  have executed : ((tag.heard frame).execute received).1 = .data block := by
    rw [execute, means]
    exact shown
  have unsealed (viaChannel : tag.channel?.isSome = true) :
      ((tag.heard frame).execute received).2.channel? = none := by
    rw [channel?_of_unknown unknown] at viaChannel
    cases viaChannel
  rw [perform, transceive_received reached, answerCommand_unsealed executed unsealed]

namespace SameOutside

variable (same : tag.SameOutside tag.Shields other)
include same

private theorem length_shownPage (page : UInt8) :
    (other.shownPage page).length = (tag.shownPage page).length := by
  rw [shownPage, shownPage, same.isKeyPage]
  split
  · rfl
  · simp only [SimulatedTag.page, List.length_take, List.length_drop, same.sized]

private theorem readBlock_eq_iff (first : UInt8) : other.readBlock first = tag.readBlock first ↔
    ∀ offset < 4, other.shownPage ((first + UInt8.ofNat offset) % tag.family.pageCount) =
      tag.shownPage ((first + UInt8.ofNat offset) % tag.family.pageCount) := by
  rw [readBlock, readBlock, same.family,
    flatMap_eq_iff fun offset _ => same.length_shownPage _]
  exact forall_congr' fun offset => imp_congr_left List.mem_range

private theorem shownPage_of_apart (apart : ¬ tag.Shields page) :
    other.shownPage page = tag.shownPage page := by
  rw [shownPage, shownPage, same.isKeyPage, same.page apart]

private theorem readBlock_ne (exposes : tag.Exposes other first) :
    other.readBlock first ≠ tag.readBlock first := by
  intro equal
  obtain ⟨_, page, shields, from_, to_, differ⟩ := exposes
  have behind := UInt8.le_iff_toNat_le.mp from_
  have inside := UInt8.lt_iff_toNat_lt.mp shields.known
  have shown : (first + UInt8.ofNat (page.toNat - first.toNat)) % tag.family.pageCount = page := by
    apply UInt8.toNat_inj.mp
    rw [toNat_pageShown (by omega)]
    omega
  have agree := (same.readBlock_eq_iff first).mp equal (page.toNat - first.toNat) (by omega)
  rw [shown, shownPage_of_low shields.low, shownPage_of_low shields.low] at agree
  exact differ agree

private theorem read_of_unexposed (unknown : tag.isAuthenticated = false)
    (unexposed : ¬ tag.Exposes other first) : other.read first = tag.read first := by
  rw [SimulatedTag.read, SimulatedTag.read, same.family, same.isAuthenticated,
    same.auth0 tag.not_shields_auth0Page]
  split
  · rfl
  next inside =>
    split
    · rfl
    next allowed =>
      rw [Reply.data.injEq, same.readBlock_eq_iff]
      intro offset few
      by_cases shields : tag.Shields ((first + UInt8.ofNat offset) % tag.family.pageCount)
      · have place := shields.toNat_pageShown (UInt8.not_le.mp inside) few
        have from_ : first ≤ (first + UInt8.ofNat offset) % tag.family.pageCount := by
          rw [UInt8.le_iff_toNat_le, place]
          exact Nat.le_add_right _ _
        have open_ : first < tag.auth0 := by
          refine UInt8.not_le.mp fun behind => allowed ⟨?_, behind, ?_⟩
          · rw [unknown]
            rfl
          · exact UInt8.lt_of_le_of_lt from_ shields.before
        rw [shownPage_of_low shields.low, shownPage_of_low shields.low]
        apply Classical.byContradiction
        intro differ
        exact unexposed ⟨open_, _, shields, from_, by omega, differ⟩
      · exact same.shownPage_of_apart shields

/-- One call of a terminal that is not authenticated is answered alike by both tags, unless it is a READ
that exposes a difference. -/
theorem perform_of_unexposed (unknown : tag.isAuthenticated = false)
    (unexposed : ∀ first, tag.taken? call = some (.read first) → ¬ tag.Exposes other first) :
    (other.perform call).1 = (tag.perform call).1 ∧
      (tag.perform call).2.SameOutside tag.Shields (other.perform call).2 :=
  same.perform tag.not_shields_auth0Page
    (fun first taken => same.read_of_unexposed unknown (unexposed first taken))
    fun _ _ _ shields => isKeyPage_of_low shields.low

private theorem not_exposes_of_answered (unknown : tag.isAuthenticated = false)
    (answered : (other.perform call).1 = (tag.perform call).1)
    (taken : tag.taken? call = some (.read first)) : ¬ tag.Exposes other first := by
  intro exposes
  have auth0 := same.auth0 tag.not_shields_auth0Page
  have shown := read_of_open exposes.1 exposes.known
  have shownOther : other.read first = .data (other.readBlock first) := by
    refine read_of_open ?_ ?_
    · rw [auth0]
      exact exposes.1
    · rw [same.family]
      exact exposes.known
  rw [perform_read unknown taken shown, perform_read (same.isAuthenticated.trans unknown)
    ((same.taken? call).trans taken) shownOther] at answered
  exact same.readBlock_ne exposes (Except.ok.inj answered)

private theorem answers_iff (closed : tag.auth0 ≤ tag.family.auth0Page) {calls : List TagCall}
    (foreign : tag.StaysForeign calls) : other.answers calls = tag.answers calls ↔
      Throughout (fun current call => ∀ first, current.taken? call = some (.read first) →
        ¬ tag.Exposes other first) tag calls := by
  induction calls generalizing tag other with
  | nil => exact ⟨fun _ => trivial, fun _ => rfl⟩
  | cons call calls ih =>
    have unknown : tag.isAuthenticated = false := foreign [] List.nil_prefix
    have unknownOther := same.isAuthenticated.trans unknown
    have sameAuth0 := same.auth0 tag.not_shields_auth0Page
    have auth0 := auth0_perform_of_closed unknown closed call
    have exposes : (tag.perform call).2.Exposes (other.perform call).2 = tag.Exposes other :=
      exposes_congr auth0 (fun page shields => page_perform_of_behind unknown shields.behind call)
        fun page shields => page_perform_of_behind unknownOther (sameAuth0 ▸ shields.behind) call
    rw [answers, answers, List.cons_eq_cons, Throughout]
    have head : (other.perform call).1 = (tag.perform call).1 ↔
        ∀ first, tag.taken? call = some (.read first) → ¬ tag.Exposes other first :=
      ⟨fun answered first taken => same.not_exposes_of_answered unknown answered taken,
        fun unexposed => (same.perform_of_unexposed unknown unexposed).1⟩
    rw [head]
    refine and_congr_right fun unexposed => ?_
    rw [← exposes]
    refine ih ?_ ?_ fun before starts => foreign (call :: before) ?_
    · rw [shields_congr auth0]
      exact (same.perform_of_unexposed unknown unexposed).2
    · rw [auth0, SimulatedTag.family, chip_perform]
      exact closed
    · exact List.cons_prefix_cons.mpr ⟨rfl, starts⟩

end SameOutside

private theorem throughout_of_forall {holds : SimulatedTag → TagCall → Prop}
    (always : ∀ tag call, holds tag call) (tag : SimulatedTag) (calls : List TagCall) :
    Throughout holds tag calls := by
  induction calls generalizing tag with
  | nil => trivial
  | cons call calls ih => exact ⟨always tag call, ih _⟩

private theorem not_shields_of_lt (behind : tag.family.auth0Page < tag.auth0) (page : UInt8) :
    ¬ tag.Shields page := fun shields =>
  UInt8.lt_asymm (UInt8.lt_of_lt_of_le behind shields.behind)
    (UInt8.lt_trans shields.before (userEnd_lt_auth0Page _))

/-- A terminal that is never authenticated can tell two tags that differ in protected user pages apart
only by a READ that begins with an open page and goes on to a page in which they differ. -/
theorem foreign_answers_same_unless_exposed (same : tag.SameOutside tag.Shields other)
    {calls : List TagCall} (foreign : tag.StaysForeign calls) :
    other.answers calls = tag.answers calls ↔
      Throughout (fun current call => ∀ first, current.taken? call = some (.read first) →
        ¬ tag.Exposes other first) tag calls := by
  by_cases closed : tag.auth0 ≤ tag.family.auth0Page
  · exact same.answers_iff closed foreign
  · have none_ := not_shields_of_lt (UInt8.not_le.mp closed)
    have memory : other.memory = tag.memory :=
      List.ext_getElem? fun place => same.elsewhere place fun page shields => (none_ page shields).elim
    have equal : other = tag := by
      rw [same.rest, memory]
      rfl
    refine ⟨fun _ => throughout_of_forall (fun _ _ first _ exposes => ?_) _ _, fun _ => by rw [equal]⟩
    obtain ⟨_, page, shields, _⟩ := exposes
    exact none_ page shields

private theorem guardedTag_shields_five : guardedTag.Shields 5 :=
  ⟨by decide +kernel, by decide, by decide⟩

private theorem guardedTag_shields_six : guardedTag.Shields 6 :=
  ⟨by decide +kernel, by decide, by decide⟩

/-- READs that end before page 6, begin with protected pages and go on at page 0, and writes to an open and
to a protected page. -/
def distantReads : List TagCall :=
  [.connect, .transceive [0x30, 0x02], .transceive [0x30, 0x05], .transceive [0xA2, 0x04, 1, 2, 3, 4],
    .transceive [0xA2, 0x06, 1, 2, 3, 4], .transceive [0x30, 0x2F], .close]

theorem distantReads_hide_page_six :
    let other := guardedTag.store 6 [0xDE, 0xAD, 0xBE, 0xEF]
    guardedTag.SameOutside guardedTag.Shields other ∧ guardedTag.StaysForeign distantReads ∧
      other.answers distantReads = guardedTag.answers distantReads := by
  intro other
  have same : guardedTag.SameOutside guardedTag.Shields other :=
    sameOutside_store_page guardedTag_shields_six rfl
  have foreign : guardedTag.StaysForeign distantReads := staysForeign_iff.mpr (by decide +kernel)
  have auth0 : guardedTag.auth0 = 5 := by decide +kernel
  have short {first : UInt8} (ends : first.toNat + 3 < 6) : ¬ guardedTag.Exposes other first := by
    rintro ⟨_, page, _, _, to_, differ⟩
    refine differ (page_store_of_ne rfl fun six => ?_)
    rw [six] at to_
    exact Nat.not_le.mpr ends to_
  have refused {first : UInt8} (behind : 5 ≤ first) : ¬ guardedTag.Exposes other first := by
    rintro ⟨open_, _⟩
    rw [auth0] at open_
    exact UInt8.not_lt.mpr behind open_
  have unexposed : Throughout (fun current call => ∀ first, current.taken? call = some (.read first) →
      ¬ guardedTag.Exposes other first) guardedTag distantReads := by
    refine ⟨nofun, fun first taken => ?_, fun first taken => ?_, nofun, nofun, fun first taken => ?_,
      nofun, trivial⟩
    · cases taken.symm.trans (by decide +kernel : _ = some (TagCommand.read 0x02))
      exact short (by decide)
    · cases taken.symm.trans (by decide +kernel : _ = some (TagCommand.read 0x05))
      exact refused (by decide)
    · cases taken.symm.trans (by decide +kernel : _ = some (TagCommand.read 0x2F))
      exact refused (by decide)
  exact ⟨same, foreign, (foreign_answers_same_unless_exposed same foreign).mpr unexposed⟩

/-- A READ of page 4, the last open page, shows page 5. -/
theorem open_page_read_shows_protected_one :
    let other := guardedTag.store 5 [0xDE, 0xAD, 0xBE, 0xEF]
    let calls := [TagCall.connect, .transceive [0x30, 0x04]]
    guardedTag.SameOutside guardedTag.Shields other ∧ guardedTag.StaysForeign calls ∧
      Throughout (fun current call => ∀ data,
        current.taken? call ≠ some (.write current.family.auth0Page data)) guardedTag calls ∧
      guardedTag.answers calls = [.ok [], .ok [0, 0, 0, 0, 0, 0, 0, 0, 0, 0, 0, 0, 0, 0, 0, 0]] ∧
      other.answers calls =
        [.ok [], .ok [0, 0, 0, 0, 0xDE, 0xAD, 0xBE, 0xEF, 0, 0, 0, 0, 0, 0, 0, 0]] :=
  ⟨sameOutside_store_page guardedTag_shields_five rfl, staysForeign_iff.mpr (by decide +kernel),
    ⟨nofun, nofun, trivial⟩, by decide +kernel, by decide +kernel⟩

end Wristband.SimulatedTag
