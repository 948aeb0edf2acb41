import Wristband.Proofs.Bits.Packing
import Wristband.Proofs.Tag.Answer

/-! The first protected page of a simulated tag: what changes it, and how a terminal that reads
its page learns it. -/

namespace Wristband

theorem Response.requestedPage_ofBytes {block : Bytes} (sized : block.length = Layout.readLength) :
    Response.requestedPage (.ofBytes block) = .ok (block.take Layout.pageSize) := by
  have start : BitVector.bitPosition 0 = 0 := rfl
  have count : BitVector.bitPosition Layout.pageSize = 32 := rfl
  have long : (BitVector.ofBytes block).length = 128 := congrArg (· * 8) sized
  unfold requestedPage BitVector.sliceBytes BitVector.slice
  rw [start, count, long, if_neg (by decide), if_neg (by decide), if_pos (by decide)]
  dsimp only
  rw [BitVector.toBytes_ofBytes]
  rfl

namespace SimulatedTag

variable {tag : SimulatedTag}

theorem auth0Byte_lt (family : ChipFamily) : family.auth0Byte < Layout.pageSize := by
  cases family <;> decide

theorem auth0_of_stores {after : SimulatedTag} {command : Bytes} (sameChip : after.chip = tag.chip)
    (stores : tag.Stores after command)
    (apart : ∀ page data, command = CommandCode.write.code :: page :: data →
      page ≠ tag.family.auth0Page) : after.auth0 = tag.auth0 := by
  have sameFamily : after.family = tag.family := congrArg Chip.family sameChip
  unfold auth0 pageByte
  rw [sameFamily]
  obtain same | ⟨page, data, sized, shape, stored⟩ := stores
  · rw [same]
  · rw [stored]
    refine Bytes.getD_overwrite_of_outside _ _ _ ?_
    have different : page.toNat ≠ tag.family.auth0Page.toNat := fun same =>
      apart page data shape (UInt8.toNat_inj.mp same)
    have place := auth0Byte_lt tag.family
    unfold pageStart
    rw [sized]
    simp only [Layout.pageSize] at *
    omega

theorem auth0_transceive {frame : Bytes}
    (apart : ∀ page data, CommandCode.write.code :: page :: data <+: frame →
      page ≠ tag.family.auth0Page) : (tag.transceive frame).2.auth0 = tag.auth0 := by
  obtain ⟨command, within, stores⟩ := tag.memory_transceive frame
  refine auth0_of_stores (tag.chip_transceive frame) stores fun page data shape => ?_
  exact apart page data (shape ▸ within)

private theorem length_shownPage_le (page : UInt8) : (tag.shownPage page).length ≤ Layout.pageSize := by
  unfold shownPage
  split
  · exact Nat.le_of_eq List.length_replicate
  · exact List.length_take_le _ _

private theorem readBlock_eq {page : UInt8} (known : page < tag.family.pageCount) :
    ∃ second third fourth : UInt8, tag.readBlock page =
      tag.shownPage page ++ (tag.shownPage second ++ (tag.shownPage third ++
        tag.shownPage fourth)) := by
  have first : (page + UInt8.ofNat 0) % tag.family.pageCount = page := by
    have below := UInt8.lt_iff_toNat_lt.mp known
    change (page + 0) % tag.family.pageCount = page
    rw [UInt8.add_zero]
    exact UInt8.toNat_inj.mp (Nat.mod_eq_of_lt below)
  refine ⟨(page + UInt8.ofNat 1) % tag.family.pageCount,
    (page + UInt8.ofNat 2) % tag.family.pageCount,
    (page + UInt8.ofNat 3) % tag.family.pageCount, ?_⟩
  have offsets : List.range Layout.readPages = [0, 1, 2, 3] := rfl
  unfold readBlock
  simp only [offsets, List.flatMap_cons, List.flatMap_nil, List.append_nil, first]

theorem take_readBlock {page : UInt8} (known : page < tag.family.pageCount)
    (whole : (tag.readBlock page).length = Layout.readLength) :
    (tag.readBlock page).take Layout.pageSize = tag.shownPage page := by
  obtain ⟨second, third, fourth, shape⟩ := readBlock_eq known
  have bounds := fun other => tag.length_shownPage_le other
  have one := bounds page
  have two := bounds second
  have three := bounds third
  have four := bounds fourth
  rw [shape] at whole ⊢
  simp only [List.length_append, Layout.readLength, Layout.readPages, Layout.pageSize] at *
  exact List.take_left' (by omega)

theorem read_cases (tag : SimulatedTag) (page : UInt8) : tag.read page = refused ∨
    page < tag.family.pageCount ∧ tag.read page = .data (tag.readBlock page) := by
  unfold read
  split
  · exact .inl rfl
  next known =>
    split
    · exact .inl rfl
    · exact .inr ⟨UInt8.not_le.mp known, rfl⟩

/-- A block that is sent back for a READ is the one that the tag shows at that page. Refusals
are too short for one. -/
theorem block_of_transceive {page : UInt8} {response : Bytes}
    (answered : (tag.transceive [CommandCode.read.code, page]).1 = .ok response)
    (whole : response.length = Layout.readLength) :
    page < tag.family.pageCount ∧ response = tag.readBlock page := by
  have short {code : UInt8} (refusal : (Except.ok [code] : Except HardwareError Bytes) = .ok response) :
      False := by
    cases refusal
    cases whole
  cases near : tag.hears with
  | false =>
    obtain ⟨_, unheard⟩ := transceive_unheard near [CommandCode.read.code, page]
    rw [unheard] at answered
    cases answered
  | true =>
    obtain left | silent | executed := transceive_heard near [CommandCode.read.code, page]
    · rw [left] at answered
      cases answered
    · rw [silent] at answered
      cases answered
    · rw [executed] at answered
      unfold answerFrame at answered
      split at answered
      · have asked : (tag.heard [CommandCode.read.code, page]).execute
            [CommandCode.read.code, page] = (tag.read page, tag.heard _) := rfl
        unfold answerCommand at answered
        rw [asked] at answered
        obtain refusal | ⟨known, shown⟩ := tag.read_cases page
        · rw [refusal] at answered
          exact (short answered).elim
        · rw [shown] at answered
          exact ⟨known, (Except.ok.inj answered).symm⟩
      · split at answered
        · exact (short answered).elim
        next opened =>
          have tooShort : ¬ SecureChannel.codeLength ≤ [CommandCode.read.code, page].length :=
            show ¬ 8 ≤ 2 by decide
          exact absurd (SecureChannel.openCommand_eq_ok opened).1 tooShort

theorem isKeyPage_auth0Page (tag : SimulatedTag) :
    tag.isKeyPage tag.family.auth0Page = false := by
  unfold isKeyPage
  cases tag.family <;> rfl

theorem auth0_of_shownPage :
    (tag.shownPage tag.family.auth0Page).getD tag.family.auth0Byte 0 = tag.auth0 := by
  unfold shownPage page auth0 pageByte
  rw [isKeyPage_auth0Page]
  simp only [Bool.false_eq_true, if_false, List.getD_eq_getElem?_getD,
    List.getElem?_take_of_lt (auth0Byte_lt _), List.getElem?_drop]

end SimulatedTag
end Wristband
