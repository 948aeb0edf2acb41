import Wristband.Proofs.Bytes.Overwrite
import Wristband.Proofs.Session.Access

/-! The pages that are written one after another. Data in user memory, and a key in all its slots,
take one stretch of pages each, so a single argument about stretches serves every write. -/

namespace Wristband

namespace Bytes

def padded (data : Bytes) : Bytes :=
  data ++ List.replicate ((Layout.pageSize - data.length % Layout.pageSize) % Layout.pageSize) 0

theorem length_padded (data : Bytes) : (padded data).length =
    (data.length + Layout.pageSize - 1) / Layout.pageSize * Layout.pageSize := by
  simp only [padded, List.length_append, List.length_replicate, Layout.pageSize]
  omega

private theorem padded_of_short {data : Bytes} (some_ : data ≠ []) (short : data.length ≤ Layout.pageSize) :
    padded data = padPage data := by
  have count : (Layout.pageSize - data.length % Layout.pageSize) % Layout.pageSize =
      Layout.pageSize - data.length := by
    have positive := List.length_pos_iff.mpr some_
    simp only [Layout.pageSize] at *
    omega
  rw [padded, padPage, count]

private theorem padded_append {first : Bytes} (rest : Bytes) (sized : first.length = Layout.pageSize) :
    padded (first ++ rest) = first ++ padded rest := by
  rw [padded, padded, List.length_append, sized, Nat.add_mod_left, List.append_assoc]

private theorem pieces_padded (data : Bytes) :
    pieces Layout.pageSize (padded data) = (pieces Layout.pageSize data).map padPage := by
  have positive : 0 < Layout.pageSize := by decide
  induction data using pieces_induction positive with
  | nil => rfl
  | step data some_ ih =>
    rw [pieces_eq positive some_, List.map_cons, ← ih]
    by_cases several : Layout.pageSize ≤ data.length
    · have sized : (data.take Layout.pageSize).length = Layout.pageSize :=
        List.length_take_of_le several
      have split : padded data = data.take Layout.pageSize ++ padded (data.drop Layout.pageSize) := by
        rw [← padded_append _ sized, List.take_append_drop]
      have full : padPage (data.take Layout.pageSize) = data.take Layout.pageSize := by
        rw [padPage, sized, Nat.sub_self, List.replicate_zero, List.append_nil]
      rw [split, pieces_append positive _ sized, full]
    · have short : data.length ≤ Layout.pageSize := Nat.le_of_not_le several
      have sized : (padPage data).length = Layout.pageSize := by
        rw [padPage, List.length_append, List.length_replicate]
        omega
      rw [padded_of_short some_ short, List.take_of_length_le short, List.drop_of_length_le short]
      exact (congrArg _ (List.append_nil _).symm).trans (pieces_append positive [] sized)

end Bytes

theorem length_deriveTdesKey (secret : Bytes) :
    (deriveTdesKey secret).length = Layout.tdesKeyLength := by
  have digest (words : Sha256.Words) : (words.toList.flatMap Sha256.bytesOfWord).length = 32 := rfl
  apply List.length_take_of_le
  rw [Sha256.digest, digest]
  decide

namespace AuthKey

def home : AuthKey → UInt8
  | tdes _ => Layout.tdesKeyPage
  | aes _ => Layout.aesDataKeyPage

/-- What is stored from there on. An AES key goes to two slots, of which the second follows the
first. -/
def stored : AuthKey → Bytes
  | tdes secret => deriveTdesKey secret.val
  | aes key => key.val ++ key.val

theorem length_stored (key : AuthKey) : key.stored.length % Layout.pageSize = 0 := by
  cases key with
  | tdes secret =>
    rw [stored, length_deriveTdesKey]
    rfl
  | aes key =>
    rw [stored, List.length_append, key.property]
    rfl

theorem stored_ne_nil (key : AuthKey) : key.stored ≠ [] := by
  intro none_
  have empty := congrArg List.length none_
  cases key with
  | tdes secret =>
    rw [stored, length_deriveTdesKey] at empty
    cases empty
  | aes key =>
    rw [stored, List.length_append, key.property] at empty
    cases empty

theorem home_lt_pageCount (key : AuthKey) : key.home < key.family.pageCount := by
  cases key with
  | tdes => exact (by decide : Layout.tdesKeyPage < ChipFamily.ultralight.pageCount)
  | aes => exact (by decide : Layout.aesDataKeyPage < ChipFamily.ultralightAes.pageCount)

end AuthKey

namespace Session

variable {τ : Type} [NfcTag τ]

private theorem writePages_nil (first : UInt8) : writePages (τ := τ) first [] = pure () := rfl

theorem writePages_cons (first : UInt8) (chunk : Bytes) (chunks : List Bytes) :
    writePages (τ := τ) first (chunk :: chunks) = (do
      writePage first chunk
      writePages (first + 1) chunks) := by
  have behind (index : Nat) : first + UInt8.ofNat (index + 1) = first + 1 + UInt8.ofNat index := by
    rw [UInt8.ofNat_add, UInt8.add_comm (UInt8.ofNat index), ← UInt8.add_assoc]
    rfl
  have here : first + UInt8.ofNat 0 = first := UInt8.add_zero first
  simp only [writePages, List.zipIdx_cons, List.zipIdx_succ, List.forM_eq_forM, List.forM_cons,
    List.forM_map, behind, here]

private theorem writePages_append (first : UInt8) (before behind : List Bytes) :
    writePages (τ := τ) first (before ++ behind) = (do
      writePages first before
      writePages (first + UInt8.ofNat before.length) behind) := by
  induction before generalizing first with
  | nil =>
    have here : first + UInt8.ofNat 0 = first := UInt8.add_zero first
    simp only [List.nil_append, List.length_nil, writePages_nil, pure_bind, here]
  | cons chunk before ih =>
    have next : first + 1 + UInt8.ofNat before.length = first + UInt8.ofNat (before.length + 1) := by
      rw [UInt8.ofNat_add, UInt8.add_comm (UInt8.ofNat before.length), ← UInt8.add_assoc]
      rfl
    simp only [List.cons_append, writePages_cons, ih, bind_assoc, List.length_cons, next]

theorem writeUserMemory_eq (page : UInt8) (data : Bytes) :
    writeUserMemory (τ := τ) page data = (do
      let _ ← ofData (userRange page data.length)
      writePages page (pieces Layout.pageSize (Bytes.padded data))) := by
  rw [writeUserMemory, Bytes.pieces_padded]

/-- A key of the right family is stored as one stretch. -/
theorem ensures_writeKey {session : Session τ} {key : AuthKey}
    (own : key.family = session.family) {done : PUnit → Session τ → Prop}
    {failed : TagError → Session τ → Prop} :
    Ensures (writeKey key) session done failed ↔
      Ensures (writePages key.home (pieces Layout.pageSize key.stored)) session done failed := by
  rw [writeKey, ensures_bind, ensures_get, ← own]
  cases key with
  | tdes secret => rfl
  | aes key =>
    have positive : 0 < Layout.pageSize := by decide
    have whole : key.val.length % Layout.pageSize = 0 := by rw [key.property]; rfl
    have count : (pieces Layout.pageSize key.val).length = 4 := by
      rw [length_pieces positive, key.property]
      rfl
    rw [AuthKey.stored, pieces_append_pieces positive _ whole, writePages_append, count]
    rfl

end Session
end Wristband
