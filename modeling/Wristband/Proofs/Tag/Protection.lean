import Mathlib.Data.List.Infix
import Wristband.Proofs.Tag.Configuration
import Wristband.Proofs.Tag.Recognition

/-! What a simulated tag lets be changed. From AUTH0 on nothing is stored unless the terminal is
authenticated, and as AUTH0 itself lies there, a terminal that never is cannot move it either. -/

namespace Wristband.SimulatedTag

variable {tag : SimulatedTag} {page : UInt8}

theorem page_store_of_ne {data : Bytes} (sized : data.length = Layout.pageSize) {other : UInt8}
    (apart : other ≠ page) : (tag.store page data).page other = tag.page other := by
  have different : other.toNat ≠ page.toNat := fun same => apart (UInt8.toNat_inj.mp same)
  refine Bytes.take_drop_congr _ _ fun place behind before => ?_
  refine Bytes.getElem?_overwrite_of_outside _ _ _ ?_
  simp only [pageStart, Layout.pageSize, sized] at *
  omega

structure Permits (tag : SimulatedTag) (page : UInt8) : Prop where
  user : Layout.userStart ≤ page
  open_ : page < tag.auth0 ∨ tag.isAuthenticated = true

theorem write_of_permits {data : Bytes} (known : page < tag.family.pageCount) (permits : tag.Permits page) :
    tag.write page data = (.data [Layout.ack], tag.store page data) := by
  have inside : ¬ (page < Layout.userStart ∨ tag.family.pageCount ≤ page) :=
    not_or.mpr ⟨UInt8.not_lt.mpr permits.user, UInt8.not_le.mpr known⟩
  rw [write, if_neg inside, if_neg]
  rintro ⟨strange, behind⟩
  obtain before | authenticated := permits.open_
  · exact UInt8.not_le.mpr before behind
  · rw [authenticated] at strange
    cases strange

private theorem write_permitted (tag : SimulatedTag) (page : UInt8) (data : Bytes) :
    (tag.write page data).2 = tag ∨
      (tag.write page data).2 = tag.store page data ∧ tag.Permits page := by
  unfold write
  split
  · exact .inl rfl
  next inside =>
    split
    · exact .inl rfl
    next allowed =>
      refine .inr ⟨rfl, UInt8.not_lt.mp fun below => inside (.inl below), ?_⟩
      cases known : tag.isAuthenticated with
      | true => exact .inr rfl
      | false =>
        refine .inl (UInt8.not_le.mp fun behind => allowed ⟨?_, behind⟩)
        rw [known]
        rfl

private theorem memory_answerCommand (tag : SimulatedTag) (viaChannel : Bool) (command : Bytes) :
    (tag.answerCommand viaChannel command).2.memory = (tag.execute command).2.memory := by
  unfold answerCommand
  rcases tag.execute command with ⟨payload | code, after⟩
  · cases viaChannel with
    | true => exact (after.sealReply_evolves payload).2
    | false => rfl
  · rfl

/-- A call leaves the memory as it is, or it is a WRITE to a page that the tag lets be written. -/
theorem memory_perform (tag : SimulatedTag) (call : TagCall) :
    (tag.perform call).2.memory = tag.memory ∨ ∃ page data,
      tag.taken? call = some (.write page data) ∧ data.length = Layout.pageSize ∧
        tag.Permits page ∧ (tag.perform call).2.memory = (tag.store page data).memory := by
  cases call with
  | connect =>
    refine .inl ?_
    rw [perform, connect]
    split <;> rfl
  | close => exact .inl rfl
  | transceive frame =>
    rw [perform]
    have delivered := tag.transceive_delivered frame
    generalize tag.transceive frame = result at delivered ⊢
    cases delivered with
    | missed silent memory => exact .inl memory
    | rejected => exact .inl rfl
    | @answered received reached =>
      rw [memory_answerCommand, taken?_of_received reached, execute]
      cases means : TagCommand.ofFrame received with
      | getVersion | read | unknown => exact .inl rfl
      | authenticate slot => exact .inl ((tag.heard frame).authenticate_evolves slot).2
      | continueAuthentication message =>
        exact .inl ((tag.heard frame).continueAuthentication_evolves message).2
      | write page data =>
        obtain kept | ⟨stored, permits⟩ := (tag.heard frame).write_permitted page data
        · refine .inl ?_
          dsimp only
          rw [kept]
          rfl
        · refine .inr ⟨page, data, rfl, (TagCommand.isReadFrom means).2,
            ⟨permits.user, permits.open_⟩, ?_⟩
          dsimp only
          rw [stored]
          rfl

private theorem page_congr {other : SimulatedTag} (same : other.memory = tag.memory) (page : UInt8) :
    other.page page = tag.page page := by
  rw [SimulatedTag.page, SimulatedTag.page, same]

private theorem permits_of_changed {call : TagCall} (changed : (tag.perform call).2.page page ≠ tag.page page) :
    ∃ data, tag.taken? call = some (.write page data) ∧ tag.Permits page := by
  obtain same | ⟨written, data, taken, sized, permits, stored⟩ := tag.memory_perform call
  · exact absurd (page_congr same page) changed
  · have named : page = written := by
      apply Classical.byContradiction
      intro apart
      exact changed ((page_congr stored page).trans (page_store_of_ne sized apart))
    subst named
    exact ⟨data, taken, permits⟩

private theorem auth0_congr {other : SimulatedTag} (sameChip : other.chip = tag.chip)
    (same : other.page tag.family.auth0Page = tag.page tag.family.auth0Page) :
    other.auth0 = tag.auth0 := by
  have place := auth0Byte_lt tag.family
  have family : other.family = tag.family := congrArg Chip.family sameChip
  rw [SimulatedTag.auth0, SimulatedTag.auth0, family, ← getD_page _ _ place, ← getD_page _ _ place,
    same]

theorem page_perform_of_behind (unknown : tag.isAuthenticated = false) (behind : tag.auth0 ≤ page)
    (call : TagCall) : (tag.perform call).2.page page = tag.page page := by
  apply Classical.byContradiction
  intro changed
  obtain ⟨_, _, permits⟩ := permits_of_changed changed
  obtain below | known := permits.open_
  · exact UInt8.not_lt.mpr behind below
  · exact Bool.false_ne_true (unknown.symm.trans known)

theorem auth0_perform_of_closed (unknown : tag.isAuthenticated = false)
    (closed : tag.auth0 ≤ tag.family.auth0Page) (call : TagCall) :
    (tag.perform call).2.auth0 = tag.auth0 :=
  auth0_congr (tag.chip_perform call) (page_perform_of_behind unknown closed call)

/-- The terminal is not authenticated at any time. -/
def StaysForeign (tag : SimulatedTag) (calls : List TagCall) : Prop :=
  ∀ before, before <+: calls → (tag.after before).isAuthenticated = false

theorem staysForeign_iff {calls : List TagCall} : tag.StaysForeign calls ↔
    ∀ before ∈ calls.inits, (tag.after before).isAuthenticated = false :=
  forall_congr' fun before => imp_congr_left (List.mem_inits before calls).symm

/-- Pages from AUTH0 on, and AUTH0 among them, stay as they are without an authentication. -/
theorem frozen (closed : tag.auth0 ≤ tag.family.auth0Page) {calls : List TagCall}
    (foreign : tag.StaysForeign calls) : (tag.after calls).auth0 = tag.auth0 ∧
      ∀ page, tag.auth0 ≤ page → (tag.after calls).page page = tag.page page := by
  induction calls using List.reverseRecOn with
  | nil => exact ⟨rfl, fun _ _ => rfl⟩
  | append_singleton calls call ih =>
    obtain ⟨sameAuth0, same⟩ := ih fun before starts => foreign before (starts.trans (List.prefix_append _ _))
    have unknown := foreign calls (List.prefix_append _ _)
    have family : (tag.after calls).family = tag.family := congrArg Chip.family (tag.chip_after calls)
    rw [after_concat]
    refine ⟨?_, fun page behind => ?_⟩
    · rw [auth0_perform_of_closed unknown (by rwa [sameAuth0, family]), sameAuth0]
    · rw [page_perform_of_behind unknown (by rwa [sameAuth0]), same page behind]

private theorem isAuthenticated_of_ends {call : TagCall} (ends : tag.Ends call) :
    (tag.perform call).2.isAuthenticated = false := by
  have turns := tag.perform_turns call
  unfold isAuthenticated
  generalize (tag.perform call).2.authentication = next at turns ⊢
  cases turns with
  | kept lasts | counted lasts | recognised lasts => exact absurd ends lasts
  | ended => rfl
  | challenged _ _ challenges =>
    cases challenges.isChallenge with
    | tdes | aes => rfl

/-- A new tag changes a page only by a WRITE that it permits. It takes the terminal for authenticated
from the return of its last challenge on to whatever ends that. So without a handshake that comes to its
end, all pages from AUTH0 on stay as they are, if AUTH0 is one of them. -/
theorem pages_guarded_by_recognition (new : tag.authentication = .none) (calls : List TagCall) :
    (∀ call page, ((tag.after calls).perform call).2.page page ≠ (tag.after calls).page page →
      ∃ data, (tag.after calls).taken? call = some (.write page data) ∧
        (tag.after calls).Permits page) ∧
    ((tag.after calls).isAuthenticated = true ↔ tag.Recognised calls) ∧
    (∀ call, (tag.after calls).Ends call →
      ((tag.after calls).perform call).2.isAuthenticated = false) ∧
    (tag.auth0 ≤ tag.family.auth0Page → (∀ before, before <+: calls → ¬ tag.Recognised before) →
      (tag.after calls).auth0 = tag.auth0 ∧
        ∀ page, tag.auth0 ≤ page → (tag.after calls).page page = tag.page page) := by
  refine ⟨fun call page changed => permits_of_changed changed,
    isAuthenticated_iff_recognised new calls, fun call ends => isAuthenticated_of_ends ends,
    fun closed unrecognised => frozen closed fun before starts => ?_⟩
  apply Bool.eq_false_iff.mpr
  intro known
  exact unrecognised before starts ((isAuthenticated_iff_recognised new before).mp known)

def guardedTag : SimulatedTag :=
  (ultralight [0x04, 0x11, 0x22, 0x33, 0x44, 0x55, 0x66]).withAuth0 5

def keylessWrites : List TagCall :=
  [.connect, .transceive [0xA2, 0x04, 1, 2, 3, 4], .transceive [0xA2, 0x05, 1, 2, 3, 4],
    .transceive [0xA2, 0x2A, 0x30, 0, 0, 0], .transceive [0x1A, 0x00], .close]

theorem guardedTag_takes_only_open_page :
    guardedTag.authentication = .none ∧ guardedTag.auth0 ≤ guardedTag.family.auth0Page ∧
      (guardedTag.after keylessWrites).page 4 = [1, 2, 3, 4] ∧
      (guardedTag.after keylessWrites).auth0 = guardedTag.auth0 ∧
      ∀ page, guardedTag.auth0 ≤ page →
        (guardedTag.after keylessWrites).page page = guardedTag.page page := by
  have closed : guardedTag.auth0 ≤ guardedTag.family.auth0Page := by decide +kernel
  have foreign : guardedTag.StaysForeign keylessWrites := staysForeign_iff.mpr (by decide +kernel)
  have unrecognised (before : List TagCall) (starts : before <+: keylessWrites) :
      ¬ guardedTag.Recognised before := by
    intro recognised
    have known := (pages_guarded_by_recognition rfl before).2.1.mpr recognised
    exact Bool.false_ne_true ((foreign before starts).symm.trans known)
  have same := (pages_guarded_by_recognition rfl keylessWrites).2.2.2 closed unrecognised
  exact ⟨rfl, closed, by decide +kernel, same.1, same.2⟩

/-- A tag with keys of zeros, whose numbers are zeros too. It falls silent after two frames and leaves
the field after three. -/
def fadingTag : SimulatedTag :=
  { ultralightAes [0x04, 0x11, 0x22, 0x33, 0x44, 0x55, 0x66] (List.replicate 16 0) with
    random := ⟨fun _ => 0, 0⟩
    faults := { Faults.none with timeOutAfter := some 2, loseAfter := some 3 } }

def zeroHandshake : List TagCall :=
  [.connect, .transceive [0x1A, 0x00], .transceive
    [0xAF, 0x66, 0xE9, 0x4B, 0xD4, 0xEF, 0x8A, 0x2C, 0x3B, 0x88, 0x4C, 0xFA, 0x59, 0xCA, 0x34, 0x2B,
      0x2E, 0xF7, 0x95, 0xBD, 0x4A, 0x52, 0xE2, 0x9E, 0xD7, 0x13, 0xD3, 0x13, 0xFA, 0x20, 0xE9, 0x8D,
      0xBC]]

/-- A tag that falls silent does not notice a new handshake, and one that has left the field cannot be
connected, so both go on to take the terminal for authenticated. -/
theorem lost_tag_stays_authenticated :
    let recognised := fadingTag.after zeroHandshake
    recognised.isAuthenticated = true ∧
      (recognised.after [.transceive [0x1A, 0x00]]).isAuthenticated = true ∧
      (recognised.after [.transceive [0x1A, 0x00], .transceive [0x30, 0x04], .connect]).isAuthenticated =
        true := by
  decide +kernel

end Wristband.SimulatedTag
