import Wristband.Proofs.Scan.FailedWrites
import Wristband.Proofs.Scan.Reads

/-! How a request without a key is refused that begins with a protected page. The session refuses the
page itself for want of authentication. But a read looks at the header first, which the session does
not guard, and what goes wrong there has another kind. -/

namespace Wristband

open Session

/-- The first page of user memory that a valid request without a key reads or stores. -/
inductive ScanRequest.BeginsKeyless : ScanRequest → UInt8 → Prop where
  | read {page count : UInt8} {cmac : Bool} (fits : userRange page Layout.pageSize = .ok count) :
      BeginsKeyless (.read page none cmac) page
  | write {page count : UInt8} {data : Bytes} {cmac : Bool} (some_ : data ≠ [])
      (fits : userRange page data.length = .ok count) :
      BeginsKeyless (.write page data none cmac) page

inductive SimulatedTag.RefusesKeyless (tag : SimulatedTag) (page : UInt8) :
    ScanRequest → TagError → Prop where
  | write {data : Bytes} {cmac : Bool} :
      RefusesKeyless tag page (.write page data none cmac)
        (.notAuthenticated (Access.describe .write page))
  | header {cmac : Bool} (hidden : tag.auth0 = 0) :
      RefusesKeyless tag page (.read page none cmac) (.protocol (.nak nakRefused))
  | uid {cmac : Bool} (shown : tag.auth0 ≠ 0) (spoilt : ¬ tag.HasValidUid) :
      RefusesKeyless tag page (.read page none cmac)
        (.protocol (.invalidData "UID check bytes do not match"))
  | read {cmac : Bool} (shown : tag.auth0 ≠ 0) (valid : tag.HasValidUid) :
      RefusesKeyless tag page (.read page none cmac)
        (.notAuthenticated (Access.describe .read page))

variable {tag image : SimulatedTag} {random : RandomSource} {request : ScanRequest} {page : UInt8}
  {error : TagError}

/-- Only what goes wrong with the header is not a matter of authentication. -/
theorem SimulatedTag.RefusesKeyless.kind_iff (refuses : tag.RefusesKeyless page request error) :
    error.toFailure.kind = .auth ↔
      request.isWrite = true ∨ tag.auth0 ≠ 0 ∧ tag.HasValidUid := by
  cases refuses with
  | write => exact iff_of_true rfl (.inl rfl)
  | header hidden =>
    refine iff_of_false nofun ?_
    rintro (writes | ⟨shown, _⟩)
    · cases writes
    · exact shown hidden
  | uid shown spoilt =>
    refine iff_of_false nofun ?_
    rintro (writes | ⟨_, valid⟩)
    · cases writes
    · exact spoilt valid
  | read shown valid => exact iff_of_true rfl (.inr ⟨shown, valid⟩)

namespace Scan

variable {session : Session SimulatedTag}

private theorem readFrom_refused (converses : session.Converses image false 0) (whole : image.IsWhole)
    (first : Layout.userStart ≤ page) (last : page < Layout.userEnd) (behind : image.auth0 ≤ page)
    (cmac : Bool) :
    Ensures (readFrom page) session (fun _ _ => False)
      (fun error _ => image.RefusesKeyless page (.read page none cmac) error) := by
  by_cases shown : image.Shows false 0
  · have before : image.auth0 ≠ 0 := by
      intro hidden
      obtain known | before | user := shown
      · cases known
      · exact absurd before (by rw [hidden]; decide)
      · exact absurd user (by decide)
    refine ((converses.readHeader whole (by decide) shown).onError ?_).bind ?_
    · rintro _ _ ⟨cause, failed, rfl⟩
      by_cases valid : image.HasValidUid
      · cases (SimulatedTag.uid_of_header whole valid).symm.trans failed
      · obtain rfl := Except.error.inj
          ((SimulatedTag.uid_of_spoilt_header whole valid).symm.trans failed)
        exact .uid before valid
    · rintro uid _ ⟨read, left⟩
      have valid : image.HasValidUid := by
        apply Classical.byContradiction
        intro spoilt
        cases (SimulatedTag.uid_of_spoilt_header whole spoilt).symm.trans read
      refine (readBehindHeader left whole (by decide) first last uid).weaken ?_ ?_
      · rintro _ _ ⟨inside, _⟩
        exact UInt8.not_le.mpr ((SimulatedTag.lt_readEnd_iff last).mp inside) behind
      · rintro _ _ ⟨_, rfl⟩
        exact .read before valid
  · refine ((converses.readUid_refused shown).onError ?_).bind fun _ _ never => never.elim
    rintro _ _ ⟨_, hidden, rfl⟩
    exact .header hidden

private theorem writePages_refused (converses : session.Converses image false 0) (whole : image.IsWhole)
    {data : Bytes} {count : UInt8} (some_ : data ≠ [])
    (fits : userRange page data.length = .ok count) (behind : image.auth0 ≤ page) (cmac : Bool) :
    Ensures (writePages page (pieces Layout.pageSize (Bytes.padded data))) session
      (fun _ _ => False)
      (fun error _ => image.RefusesKeyless page (.write page data none cmac) error) := by
  have stores : (ScanRequest.write page data none cmac).Stores image.family page _ := .data fits
  obtain ⟨user, full, room⟩ := SimulatedTag.stretch_of_stores whole stores
  have few := SimulatedTag.length_memory_le whole
  have nothing := SimulatedTag.openLength_of_le behind
  have much : 0 < (Bytes.padded data).length := by
    have positive := List.length_pos_iff.mpr some_
    rw [Bytes.length_padded]
    simp only [Layout.pageSize]
    omega
  refine (converses.writePages whole (by omega) full user room
    (SimulatedTag.sparesAuth0_of_stores stores)).weaken ?_ ?_
  · rintro _ _ (known | short)
    · cases known
    · omega
  · rintro _ _ ⟨_, _, rfl, _⟩
    rw [if_neg (UInt8.not_lt.mpr behind)]
    exact .write

private theorem execute_refused (present : tag.lost = false) (faultless : tag.faults = .none)
    (whole : tag.IsWhole) (random : RandomSource) (begins : request.BeginsKeyless page)
    (behind : tag.auth0 ≤ page) :
    Ensures (execute request) (opened tag tag.family random) (fun _ _ => False)
      (fun error _ => tag.RefusesKeyless page request error) := by
  have converses := opened_converses present faultless random
  refine ensures_bind.mpr (ensures_get.mpr ?_)
  cases begins with
  | read fits =>
    refine ensures_bind.mpr (ensures_ofData.mpr ?_)
    rw [fits]
    have last := lt_userEnd_of_userRange (by decide) fits
    exact readFrom_refused converses whole (userRange_eq_ok fits).1 last behind _
  | write some_ fits =>
    refine ensures_bind.mpr (ensures_ofData.mpr ?_)
    rw [writeUserMemory_eq, fits]
    exact (writePages_refused converses whole some_ fits behind _).bind fun _ _ never => never.elim

end Scan

/-- On a tag without faults a request without a key fails when it begins with a protected page. It is
told that authentication is missing, unless it is a read and the header cannot be read: the tag does
not show it when AUTH0 is the very first page, and it may not hold its own check bytes. -/
theorem keyless_refusal_is_auth_unless_header_fails (present : tag.lost = false)
    (faultless : tag.faults = .none) (whole : tag.IsWhole) (random : RandomSource)
    (begins : request.BeginsKeyless page) (behind : tag.auth0 ≤ page) :
    ∃ error, (serve tag tag.family random request).1 = .fail error.toFailure ∧
      tag.RefusesKeyless page request error ∧
      (error.toFailure.kind = .auth ↔
        request.isWrite = true ∨ tag.auth0 ≠ 0 ∧ tag.HasValidUid) := by
  have ends := Scan.execute_refused present faultless whole random begins behind
  obtain ⟨error, failed, refuses⟩ := serve_ensures present (fun result _ =>
    ∃ error, result = .fail error.toFailure ∧ tag.RefusesKeyless page request error)
    (ends.weaken (fun _ _ never => never.elim) fun error _ refuses _ _ => ⟨error, rfl, refuses⟩)
  exact ⟨error, failed, refuses, refuses.kind_iff⟩

/-- With AUTH0 at page 1 the header is still shown, and a read is told what a write is told. -/
theorem keyless_requests_lack_authentication :
    let tag := (SimulatedTag.ultralight [0x04, 0x11, 0x22, 0x33, 0x44, 0x55, 0x66]).withAuth0 1
    tag.IsWhole ∧ tag.HasValidUid ∧ (ScanRequest.read 4 none true).BeginsKeyless 4 ∧
      (ScanRequest.write 4 [1] none true).BeginsKeyless 4 ∧ tag.auth0 ≤ 4 ∧
      (serve tag tag.family ⟨fun _ => 0, 0⟩ (.read 4 none true)).1 =
        .fail ⟨.auth, "READ 0x04 needs an authenticated session"⟩ ∧
      (serve tag tag.family ⟨fun _ => 0, 0⟩ (.write 4 [1] none true)).1 =
        .fail ⟨.auth, "WRITE 0x04 needs an authenticated session"⟩ := by
  intro tag
  have whole : tag.IsWhole := (SimulatedTag.isWhole_ultralight _).withAuth0 1
  have valid : tag.HasValidUid := by
    unfold SimulatedTag.HasValidUid
    decide +kernel
  have shown : tag.auth0 ≠ 0 := by decide +kernel
  have behind : tag.auth0 ≤ 4 := by decide +kernel
  have reads : (ScanRequest.read 4 none true).BeginsKeyless 4 := .read rfl
  have writes : (ScanRequest.write 4 [1] none true).BeginsKeyless 4 := .write nofun rfl
  obtain ⟨_, read, refusesRead, _⟩ := keyless_refusal_is_auth_unless_header_fails rfl rfl whole
    ⟨fun _ => 0, 0⟩ reads behind
  obtain ⟨_, written, refusesWrite, _⟩ := keyless_refusal_is_auth_unless_header_fails rfl rfl whole
    ⟨fun _ => 0, 0⟩ writes behind
  refine ⟨whole, valid, reads, writes, behind, ?_, ?_⟩
  · cases refusesRead with
    | header hidden => exact absurd hidden shown
    | uid _ spoilt => exact absurd valid spoilt
    | read => exact read.trans (congrArg ScanResult.fail (by decide +kernel))
  · cases refusesWrite
    exact written.trans (congrArg ScanResult.fail (by decide +kernel))

/-- With AUTH0 at the header itself the refusal of the tag comes through as it is. A write to the same
page never looks at the header. -/
theorem keyless_read_behind_hidden_header :
    let tag := (SimulatedTag.ultralight [0x04, 0x11, 0x22, 0x33, 0x44, 0x55, 0x66]).withAuth0 0
    tag.lost = false ∧ tag.faults = .none ∧ tag.auth0 ≤ 4 ∧
      userRange 4 Layout.pageSize = .ok 1 ∧
      (serve tag tag.family ⟨fun _ => 0, 0⟩ (.read 4 none true)).1 =
        .fail ⟨.other, "Tag answered NAK 0x0"⟩ ∧
      (serve tag tag.family ⟨fun _ => 0, 0⟩ (.write 4 [1] none true)).1 =
        .fail ⟨.auth, "WRITE 0x04 needs an authenticated session"⟩ := by
  refine ⟨rfl, rfl, ?_, rfl, ?_, ?_⟩ <;> decide +kernel

end Wristband
