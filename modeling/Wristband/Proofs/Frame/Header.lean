import Wristband.Frame.Response
import Wristband.Proofs.Bytes.BigEndian

/-! The identifier in the header of a tag. Its seven bytes stand in two parts, and behind each part
stands a check byte. So the header falls into two pieces whose bytes have a fixed exclusive or, and
each of its nine bytes is in one of them: no byte can change alone without being noticed. -/

namespace Wristband

namespace Bytes

def xorAll (bytes : Bytes) : UInt8 := bytes.foldr (· ^^^ ·) 0

private theorem foldl_xor (start : UInt8) (bytes : Bytes) :
    bytes.foldl (· ^^^ ·) start = start ^^^ xorAll bytes := by
  induction bytes generalizing start with
  | nil => exact (UInt8.xor_zero).symm
  | cons byte rest ih =>
    rw [List.foldl_cons, ih, UInt8.xor_assoc]
    rfl

private theorem xorAll_append (left right : Bytes) :
    xorAll (left ++ right) = xorAll left ^^^ xorAll right := by
  induction left with
  | nil => exact (UInt8.zero_xor).symm
  | cons byte rest ih =>
    change byte ^^^ xorAll (rest ++ right) = byte ^^^ xorAll rest ^^^ xorAll right
    rw [ih, UInt8.xor_assoc]

private theorem foldl_xor_eq_iff {start check : UInt8} {bytes : Bytes} :
    bytes.foldl (· ^^^ ·) start = check ↔ xorAll (bytes ++ [check]) = start := by
  have last : xorAll [check] = check := UInt8.xor_zero
  rw [foldl_xor, xorAll_append, last]
  constructor
  · rintro rfl
    rw [UInt8.xor_comm start, ← UInt8.xor_assoc, UInt8.xor_self, UInt8.zero_xor]
  · rintro rfl
    rw [UInt8.xor_comm, ← UInt8.xor_assoc, UInt8.xor_self, UInt8.zero_xor]

structure DifferAt (left right : Bytes) (place : Nat) : Prop where
  differ : left[place]? ≠ right[place]?
  same : ∀ index, index ≠ place → left[index]? = right[index]?

private theorem DifferAt.xorAll_ne {left right : Bytes} {place : Nat} (alone : DifferAt left right place)
    (sized : left.length = right.length) : xorAll left ≠ xorAll right := by
  induction left generalizing right place with
  | nil =>
    obtain rfl := List.eq_nil_of_length_eq_zero sized.symm
    exact absurd rfl alone.differ
  | cons byte rest ih =>
    obtain ⟨other, behind, rfl⟩ : ∃ other behind, right = other :: behind :=
      List.exists_cons_of_length_eq_add_one sized.symm
    change byte ^^^ xorAll rest ≠ other ^^^ xorAll behind
    cases place with
    | zero =>
      have tails : rest = behind := by
        apply List.ext_getElem?
        intro index
        exact alone.same (index + 1) (Nat.succ_ne_zero index)
      have heads : byte ≠ other := fun equal => alone.differ (congrArg some equal)
      rw [tails]
      exact fun equal => heads ((UInt8.xor_left_inj _).mp equal)
    | succ place =>
      have heads : byte = other := Option.some.inj (alone.same 0 (Nat.succ_ne_zero place).symm)
      have tails : DifferAt rest behind place := by
        refine ⟨alone.differ, fun index elsewhere => ?_⟩
        exact alone.same (index + 1) fun equal => elsewhere (Nat.succ.inj equal)
      rw [heads]
      exact fun equal => ih tails (Nat.succ.inj sized) ((UInt8.xor_right_inj _).mp equal)

private theorem differAt_stretch {left right : Bytes} {start count place : Nat}
    (behind : start ≤ place) (before : place < start + count)
    (differ : left[place]? ≠ right[place]?)
    (same : ∀ index < start + count, index ≠ place → left[index]? = right[index]?) :
    DifferAt ((left.drop start).take count) ((right.drop start).take count) (place - start) where
  differ := by
    rw [List.getElem?_take_of_lt (by omega), List.getElem?_take_of_lt (by omega),
      List.getElem?_drop, List.getElem?_drop, Nat.add_sub_cancel' behind]
    exact differ
  same := by
    intro index elsewhere
    rw [List.getElem?_take, List.getElem?_take, List.getElem?_drop, List.getElem?_drop]
    split
    next inside => exact same _ (by omega) (by omega)
    next => rfl

end Bytes

namespace Response

variable {block : Bytes}

/-- The header with an identifier: either part of it and its check byte. -/
def uidHeader (uid : Bytes) : Bytes :=
  uid.take 3 ++ [(uidCheckBytes uid).1] ++ uid.drop 3 ++ [(uidCheckBytes uid).2]

/-- The exclusive or of the piece of a header that begins with the identifier, and of the piece behind
it, have the values that the check bytes are for. -/
def IsChecked (block : Bytes) : Prop :=
  Bytes.xorAll ((block.drop 0).take 4) = Layout.cascadeTag ∧ Bytes.xorAll ((block.drop 4).take 5) = 0

theorem exists_header (long : 9 ≤ block.length) : ∃ u0 u1 u2 check0 u3 u4 u5 u6 check1 rest,
    block = u0 :: u1 :: u2 :: check0 :: u3 :: u4 :: u5 :: u6 :: check1 :: rest := by
  match block, long with
  | u0 :: u1 :: u2 :: check0 :: u3 :: u4 :: u5 :: u6 :: check1 :: rest, _ =>
    exact ⟨u0, u1, u2, check0, u3, u4, u5, u6, check1, rest, rfl⟩

private theorem length_of_uid {found : Uid} (read : uid block = .ok found) : 9 ≤ block.length := by
  unfold uid at read
  split at read
  · exact Nat.le_add_left _ _
  · cases read

private theorem checkBytes_eq_iff {u0 u1 u2 check0 u3 u4 u5 u6 check1 : UInt8} {rest : Bytes} :
    uidCheckBytes [u0, u1, u2, u3, u4, u5, u6] = (check0, check1) ↔
      IsChecked (u0 :: u1 :: u2 :: check0 :: u3 :: u4 :: u5 :: u6 :: check1 :: rest) := by
  rw [uidCheckBytes, Prod.mk.injEq]
  exact and_congr Bytes.foldl_xor_eq_iff Bytes.foldl_xor_eq_iff

private theorem isChecked_of_uid {found : Uid} (read : uid block = .ok found) : IsChecked block := by
  obtain ⟨_, _, _, _, _, _, _, _, _, _, rfl⟩ := exists_header (length_of_uid read)
  apply checkBytes_eq_iff.mp
  by_contra wrong
  cases (if_pos wrong).symm.trans read

private theorem uid_of_not_isChecked (long : 9 ≤ block.length) (wrong : ¬ IsChecked block) :
    uid block = .error (.invalidData "UID check bytes do not match") := by
  obtain ⟨_, _, _, _, _, _, _, _, _, _, rfl⟩ := exists_header long
  exact if_pos fun right => wrong (checkBytes_eq_iff.mp right)

private theorem uid_of_header {identifier : Bytes} (seven : identifier.length = Layout.uidLength)
    (carried : uidHeader identifier <+: block) :
    uid block = .ok ⟨UInt64.ofNat (Bytes.foldBigEndian identifier)⟩ := by
  obtain ⟨rest, rfl⟩ := carried
  match identifier, seven with
  | [u0, u1, u2, u3, u4, u5, u6], _ => exact if_neg (not_not_intro rfl)

def SpoilsHeader (block other : Bytes) : Prop :=
  ∃ place < 9, block[place]? ≠ other[place]? ∧
    ∀ index < 9, index ≠ place → block[index]? = other[index]?

/-- A byte that is changed alone is in one of the two pieces, which no longer has its value. -/
theorem not_isChecked_of_spoilsHeader {other : Bytes} (checked : IsChecked block)
    (long : 9 ≤ block.length) (longOther : 9 ≤ other.length) (spoils : SpoilsHeader block other) :
    ¬ IsChecked other := by
  obtain ⟨place, inside, differ, same⟩ := spoils
  have sized (start count : Nat) (within : start + count ≤ 9) :
      ((block.drop start).take count).length = ((other.drop start).take count).length := by
    simp only [List.length_take, List.length_drop]
    omega
  rintro ⟨first, second⟩
  by_cases early : place < 4
  · have alone := Bytes.differAt_stretch (Nat.zero_le place) (by omega : place < 0 + 4) differ
      fun index within => same index (by omega)
    exact alone.xorAll_ne (sized 0 4 (by decide)) (checked.1.trans first.symm)
  · have alone := Bytes.differAt_stretch (Nat.not_lt.mp early) (by omega : place < 4 + 5) differ
      fun index within => same index (by omega)
    exact alone.xorAll_ne (sized 4 5 (by decide)) (checked.2.trans second.symm)

/-- A block that carries an identifier with its check bytes is read as that identifier, folded most
significant byte first, on the chips of either family. A header that is read is read no more when one
of its nine bytes is changed: it is refused, and never taken for another identifier. -/
theorem header_tells_uid :
    (∀ identifier block : Bytes, identifier.length = Layout.uidLength →
      uidHeader identifier <+: block →
      ∃ found, uid block = .ok found ∧ found.value.toNat = Bytes.foldBigEndian identifier) ∧
    (∀ block other found, uid block = .ok found → 9 ≤ other.length → SpoilsHeader block other →
      uid other = .error (.invalidData "UID check bytes do not match")) := by
  constructor
  · intro identifier block seven carried
    exact ⟨_, uid_of_header seven carried, Bytes.toNat_foldBigEndian (by rw [seven]; decide)⟩
  · intro block other found read longOther spoils
    apply uid_of_not_isChecked longOther
    exact not_isChecked_of_spoilsHeader (isChecked_of_uid read) (length_of_uid read) longOther spoils

/-- A changed check byte leaves the identifier as it is, and the header is refused all the same. -/
theorem header_without_last_check_byte_refused :
    uidHeader [0x04, 0x11, 0x22, 0x33, 0x44, 0x55, 0x66] <+:
      uidHeader [0x04, 0x11, 0x22, 0x33, 0x44, 0x55, 0x66] ++ List.replicate 7 0 ∧
    (∃ found, uid (uidHeader [0x04, 0x11, 0x22, 0x33, 0x44, 0x55, 0x66] ++ List.replicate 7 0) =
      .ok found ∧ found.value.toNat = 0x04112233445566) ∧
    SpoilsHeader (uidHeader [0x04, 0x11, 0x22, 0x33, 0x44, 0x55, 0x66] ++ List.replicate 7 0)
      ((uidHeader [0x04, 0x11, 0x22, 0x33, 0x44, 0x55, 0x66] ++ List.replicate 7 0).set 8 0xBB) ∧
    uid ((uidHeader [0x04, 0x11, 0x22, 0x33, 0x44, 0x55, 0x66] ++ List.replicate 7 0).set 8 0xBB) =
      .error (.invalidData "UID check bytes do not match") := by
  have carried := List.prefix_append (uidHeader [0x04, 0x11, 0x22, 0x33, 0x44, 0x55, 0x66])
    (List.replicate 7 0)
  have spoils : SpoilsHeader
      (uidHeader [0x04, 0x11, 0x22, 0x33, 0x44, 0x55, 0x66] ++ List.replicate 7 0)
      ((uidHeader [0x04, 0x11, 0x22, 0x33, 0x44, 0x55, 0x66] ++ List.replicate 7 0).set 8 0xBB) :=
    ⟨8, by decide, by decide, by decide⟩
  obtain ⟨found, read, value⟩ := header_tells_uid.1 _ _ rfl carried
  exact ⟨carried, ⟨found, read, value⟩, spoils, header_tells_uid.2 _ _ found read (by decide) spoils⟩

end Response
end Wristband
