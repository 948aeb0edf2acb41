import Wristband.Proofs.Tag.Content

/-! The configuration of a tag. AUTH0 and the flag for codes can stand in one page, and each of them
is changed without the other. Nothing but a WRITE to its page changes AUTH0. -/

namespace Wristband.SimulatedTag

variable {tag : SimulatedTag}

theorem getD_page (tag : SimulatedTag) (page : UInt8) {place : Nat}
    (inside : place < Layout.pageSize) :
    (tag.page page).getD place 0 = tag.pageByte page place := by
  simp only [SimulatedTag.page, pageByte, List.getD_eq_getElem?_getD,
    List.getElem?_take_of_lt inside, List.getElem?_drop]

/-- A page that is stored with one byte changed changes that byte only. -/
theorem store_page_set (whole : tag.IsWhole) {page : UInt8} (known : page < tag.family.pageCount)
    {place : Nat} (inside : place < Layout.pageSize) (value : UInt8) :
    tag.store page ((tag.page page).set place value) = tag.storeByte page place value := by
  rw [store, storeByte, SimulatedTag.page,
    Bytes.overwrite_set (pageStart_lt known whole) inside]

theorem auth0_withAuth0 (whole : tag.IsWhole) (auth0 : UInt8) :
    (tag.withAuth0 auth0).auth0 = auth0 := by
  have inside := pageStart_lt (auth0Page_lt_pageCount tag.family) whole
  have place := auth0Byte_lt tag.family
  exact Bytes.getD_set_self auth0 (by omega)

theorem IsWhole.transceive (whole : tag.IsWhole) (frame : Bytes) :
    (tag.transceive frame).2.IsWhole := by
  have sameFamily : (tag.transceive frame).2.family = tag.family :=
    congrArg Chip.family (tag.chip_transceive frame)
  obtain ⟨command, _, same | ⟨page, data, _, _, stored⟩⟩ := tag.memory_transceive frame
  · rw [IsWhole, same, sameFamily]
    exact whole
  · rw [IsWhole, stored, Bytes.length_overwrite, sameFamily]
    exact whole

private theorem auth0_store (whole : tag.IsWhole) {data : Bytes} (sized : data.length = Layout.pageSize) :
    (tag.store tag.family.auth0Page data).auth0 = data.getD tag.family.auth0Byte 0 := by
  have inside := pageStart_lt (auth0Page_lt_pageCount tag.family) whole
  have place := auth0Byte_lt tag.family
  have stored : (tag.store tag.family.auth0Page data).page tag.family.auth0Page = data := by
    rw [page, store, ← sized]
    exact Bytes.take_drop_overwrite (by rw [sized]; exact inside)
  change (tag.store tag.family.auth0Page data).pageByte tag.family.auth0Page tag.family.auth0Byte = _
  rw [← getD_page _ _ place, stored]

/-- A frame that begins with a WRITE stores what the WRITE says, or nothing. -/
theorem auth0_transceive_write (whole : tag.IsWhole) (page : UInt8) {data : Bytes}
    (sized : data.length = Layout.pageSize) (rest : Bytes) :
    (tag.transceive (CommandCode.write.code :: page :: data ++ rest)).2.auth0 = tag.auth0 ∨
      page = tag.family.auth0Page ∧
        (tag.transceive (CommandCode.write.code :: page :: data ++ rest)).2.auth0 =
          data.getD tag.family.auth0Byte 0 := by
  have sameChip := tag.chip_transceive (CommandCode.write.code :: page :: data ++ rest)
  obtain ⟨command, within, stores⟩ :=
    tag.memory_transceive (CommandCode.write.code :: page :: data ++ rest)
  obtain same | ⟨other, content, long, rfl, stored⟩ := stores
  · exact .inl (Resembles.auth0 ⟨sameChip, same⟩)
  · rw [List.cons_append, List.cons_append] at within
    obtain ⟨_, addressed⟩ := List.cons_prefix_cons.mp within
    obtain ⟨rfl, begins⟩ := List.cons_prefix_cons.mp addressed
    have same : content = data := by
      have both := List.prefix_of_prefix_length_le begins (List.prefix_append data rest)
        (Nat.le_of_eq (long.trans sized.symm))
      exact both.eq_of_length (long.trans sized.symm)
    subst same
    have left : (tag.transceive (CommandCode.write.code :: other :: content ++ rest)).2.Resembles
        (tag.store other content) := ⟨sameChip, stored⟩
    by_cases here : other = tag.family.auth0Page
    · refine .inr ⟨here, left.auth0.trans ?_⟩
      rw [here]
      exact auth0_store whole sized
    · refine .inl (auth0_of_stores sameChip (.inr ⟨other, content, sized, rfl, stored⟩) ?_)
      rintro _ _ ⟨⟩
      exact here

end Wristband.SimulatedTag
