import Wristband.Proofs.Tag.Alike
import Wristband.Tag.Simulated.Build

/-! Stored keys stay with the tag. Apart from a handshake nothing that a simulated tag answers depends on
them, however its READs lie over the key pages. -/

namespace Wristband.SimulatedTag

variable {pages : UInt8 → Prop} {tag other : SimulatedTag}

private theorem config_of_hidden (hidden : ∀ page, pages page → tag.isKeyPage page = true) :
    ¬ pages tag.family.auth0Page := fun within =>
  Bool.false_ne_true (tag.isKeyPage_auth0Page.symm.trans (hidden _ within))

namespace SameOutside

variable (same : tag.SameOutside pages other)
include same

private theorem read_of_hidden (hidden : ∀ page, pages page → tag.isKeyPage page = true) (page : UInt8) :
    other.read page = tag.read page := by
  have shown (page : UInt8) : other.shownPage page = tag.shownPage page := by
    rw [shownPage, shownPage, same.isKeyPage]
    cases key : tag.isKeyPage page with
    | true => rfl
    | false => exact same.page fun within => Bool.false_ne_true (key.symm.trans (hidden page within))
  simp only [SimulatedTag.read, readBlock, same.family, same.isAuthenticated,
    same.auth0 (config_of_hidden hidden), shown]

private theorem answers_of_hidden (hidden : ∀ page, pages page → tag.isKeyPage page = true)
    {calls : List TagCall} (unasked : Throughout
      (fun current call => ∀ slot, current.taken? call ≠ some (.authenticate slot)) tag calls) :
    other.answers calls = tag.answers calls ∧
      (tag.after calls).SameOutside pages (other.after calls) := by
  induction calls generalizing tag other with
  | nil => exact ⟨rfl, same⟩
  | cons call calls ih =>
    obtain ⟨answered, next⟩ := same.perform (config_of_hidden hidden)
      (fun page _ => same.read_of_hidden hidden page) fun slot taken => absurd taken (unasked.1 slot)
    have hiddenNext (page : UInt8) (within : pages page) :
        (tag.perform call).2.isKeyPage page = true := by
      have family : (tag.perform call).2.family = tag.family :=
        congrArg Chip.family (tag.chip_perform call)
      rw [SimulatedTag.isKeyPage, family]
      exact hidden page within
    obtain ⟨rest, finally_⟩ := ih next hiddenNext unasked.2
    exact ⟨List.cons_eq_cons.mpr ⟨answered, rest⟩, finally_⟩

end SameOutside

/-- Two tags that differ in stored keys only cannot be told apart without a handshake, authenticated or
not, and go on to differ in nothing else. -/
theorem responses_hide_stored_keys
    (same : tag.SameOutside (fun page => tag.isKeyPage page = true) other) {calls : List TagCall}
    (unasked : Throughout
      (fun current call => ∀ slot, current.taken? call ≠ some (.authenticate slot)) tag calls) :
    other.answers calls = tag.answers calls ∧
      (tag.after calls).SameOutside (fun page => tag.isKeyPage page = true) (other.after calls) :=
  same.answers_of_hidden (fun _ hidden => hidden) unasked

def zerosTag : SimulatedTag :=
  ultralightAes [0x04, 0x11, 0x22, 0x33, 0x44, 0x55, 0x66] (List.replicate 16 0)

def onesTag : SimulatedTag := zerosTag.store Layout.aesDataKeyPage (List.replicate 16 1)

/-- READs that end, lie and begin in key pages, the last of them going on at page 0, and a WRITE over a
part of the key. -/
def keyReads : List TagCall :=
  [.connect, .transceive [0x30, 0x2E], .transceive [0x30, 0x31],
    .transceive [0xA2, 0x30, 1, 2, 3, 4], .transceive [0x30, 0x3B], .close]

theorem onesTag_reads_as_zerosTag :
    zerosTag.SameOutside (fun page => zerosTag.isKeyPage page = true) onesTag ∧
      onesTag.keyAt Layout.aesDataKeyPage ≠ zerosTag.keyAt Layout.aesDataKeyPage ∧
      Throughout (fun current call => ∀ slot, current.taken? call ≠ some (.authenticate slot))
        zerosTag keyReads ∧
      onesTag.answers keyReads = zerosTag.answers keyReads := by
  have same : zerosTag.SameOutside (fun page => zerosTag.isKeyPage page = true) onesTag := by
    have key : ∀ place < 208, 192 ≤ place →
        zerosTag.isKeyPage (UInt8.ofNat (place / Layout.pageSize)) = true := by decide +kernel
    refine sameOutside_store fun place behind before => ⟨_, key place before behind, ?_⟩
    exact covers_of_lt (Nat.lt_trans before (by decide))
  have unasked : Throughout (fun current call => ∀ slot, current.taken? call ≠ some (.authenticate slot))
      zerosTag keyReads := by
    refine ⟨?_, ?_, ?_, ?_, ?_, ?_, trivial⟩ <;> exact nofun
  exact ⟨same, by decide +kernel, unasked, (responses_hide_stored_keys same unasked).1⟩

end Wristband.SimulatedTag
