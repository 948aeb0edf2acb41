import Wristband.Proofs.Scan.Served
import Wristband.Proofs.Tag.Configuration

/-! What a write request leaves on a tag when it reports success: what was asked for, and nothing
else. No fault of the tag makes a request report a success that is not one. -/

namespace Wristband

open Session

namespace SimulatedTag

/-- The tag with what a request asks for in its memory. -/
def written (tag : SimulatedTag) : ScanRequest → SimulatedTag
  | .write page data _ _ => tag.store page (Bytes.padded data)
  | .writeKey _ key _ => tag.store key.home key.stored
  | .writeProtect _ enable _ =>
    tag.withAuth0 (if enable then Layout.protectUserMemory else tag.family.auth0Disabled)
  | .writeCmac _ enable _ => tag.withCmac enable
  | _ => tag

/-- The chip can do what a request asks for, and a stretch to be stored lies in its memory. -/
def CanServe (tag : SimulatedTag) : ScanRequest → Prop
  | .write page data _ _ => pageStart page + (Bytes.padded data).length ≤ tag.memory.length
  | .writeKey _ key _ =>
    key.family = tag.family ∧ pageStart key.home + key.stored.length ≤ tag.memory.length
  | .writeCmac .. => tag.chip = .ultralightAes
  | _ => True

theorem stretch_of_userRange {tag : SimulatedTag} (whole : tag.IsWhole) {page count : UInt8}
    {data : Bytes} (fits : userRange page data.length = .ok count) :
    pageStart page + (Bytes.padded data).length ≤ tag.memory.length := by
  obtain ⟨_, inside⟩ := userRange_eq_ok fits
  have all := UInt8.lt_iff_toNat_lt.mp (userEnd_lt_pageCount tag.family)
  rw [Bytes.length_padded, whole, pageStart, ← Nat.add_mul]
  exact Nat.mul_le_mul_right _ (Nat.le_trans inside (Nat.le_of_lt all))

theorem stretch_of_family {tag : SimulatedTag} (whole : tag.IsWhole) {key : AuthKey}
    (own : key.family = tag.family) :
    pageStart key.home + key.stored.length ≤ tag.memory.length := by
  rw [whole, ← own]
  cases key with
  | tdes secret =>
    rw [AuthKey.stored, length_deriveTdesKey]
    exact (by decide : 44 * 4 + 16 ≤ 48 * 4)
  | aes key =>
    rw [AuthKey.stored, List.length_append, key.property]
    exact (by decide : 48 * 4 + (16 + 16) ≤ 60 * 4)

end SimulatedTag

namespace Scan

variable {image : SimulatedTag} {session : Session SimulatedTag}

private theorem authenticateWith_worksOn (works : session.WorksOn image) (key : Option AuthKey)
    (cmac : Bool) : Ensures (authenticateWith key cmac) session (fun _ => WorksOn image)
      (fun _ => IsOn image) := by
  cases key with
  | none => exact works
  | some key =>
    have kept := (isOn_handshakes image).authenticate key .dataProtection cmac session works.toIsOn
    exact (kept.and (authenticate_channel key .dataProtection cmac)).weaken
      (fun _ _ left => ⟨left.1.1, left.2.2.2.1⟩) fun _ _ left => left.1

private theorem readFrom_reads (page : UInt8) : Ensures (readFrom page) session
    (fun result _ => result ≠ .write) (fun _ _ => True) :=
  ensures_true.bind fun _ _ _ => ensures_true.bind fun _ _ _ => ensures_true.bind fun _ _ _ => nofun

private theorem readWithKeys_reads (page : UInt8) (cmac : Bool) (reconnecting : Bool) (keys : List AuthKey) :
    Ensures (readWithKeys page cmac reconnecting keys) session
      (fun result _ => result ≠ .write) (fun _ _ => True) := by
  induction keys generalizing session reconnecting with
  | nil => trivial
  | cons key keys ih =>
    have attempt (session : Session SimulatedTag) : Ensures (do
        if ← tryKey key cmac then readFrom page else readWithKeys page cmac true keys) session
        (fun result _ => result ≠ .write) (fun _ _ => True) := by
      refine ensures_true.bind fun accepted after _ => ?_
      cases accepted with
      | true => exact readFrom_reads page
      | false => exact ih true
    cases reconnecting with
    | true => exact ensures_true.bind fun _ after _ => attempt after
    | false => exact attempt session

/-- Whatever comes before it, a success is reported after the last WRITE only, and never by what reads or
inspects. -/
theorem execute_written (works : session.WorksOn image) (whole : image.IsWhole)
    (request : ScanRequest) :
    Ensures (execute request) session
      (fun result after => result = .write →
        after.WorksOn (image.written request) ∧ image.CanServe request)
      (fun _ _ => True) := by
  have authenticated (key : Option AuthKey) (cmac : Bool) :=
    (authenticateWith_worksOn works key cmac).onError fun _ _ _ => trivial
  have done {action : SessionM SimulatedTag Unit} {after : Session SimulatedTag}
      (ensures : Ensures action after
        (fun _ final => image.CanServe request ∧ final.WorksOn (image.written request))
        (fun _ _ => True)) :
      Ensures (do action; return ScanResult.write) after
        (fun result final => result = .write →
          final.WorksOn (image.written request) ∧ image.CanServe request)
        (fun _ _ => True) :=
    ensures.bind fun _ _ left _ => ⟨left.2, left.1⟩
  refine ensures_bind.mpr (ensures_get.mpr ?_)
  cases request with
  | fastRead => exact ensures_true.bind fun _ _ _ => nofun
  | read page key cmac =>
    refine ensures_true.bind fun _ _ _ => ensures_true.bind fun _ _ _ => ?_
    exact (readFrom_reads page).onValue fun _ _ other same => absurd same other
  | readMultiKey page keys cmac =>
    refine ensures_true.bind fun _ _ _ => ?_
    exact (readWithKeys_reads page cmac false keys).onValue fun _ _ other same => absurd same other
  | test key0 key1 =>
    refine ensures_bind.mpr (ensures_get.mpr ?_)
    refine ensures_true.bind fun _ _ _ => ensures_true.bind fun _ _ _ => ?_
    exact ensures_true.bind fun _ _ _ => ensures_true.bind fun _ _ _ => nofun
  | write page data key cmac =>
    refine ensures_bind.mpr (ensures_ofData.mpr ?_)
    cases fits : userRange page data.length with
    | error => trivial
    | ok count =>
      have room := SimulatedTag.stretch_of_userRange whole fits
      have full : (Bytes.padded data).length % Layout.pageSize = 0 := by
        rw [Bytes.length_padded, Nat.mul_mod_left]
      refine (authenticated key cmac).bind fun _ after left => done ?_
      rw [writeUserMemory_eq, fits]
      exact (left.writePages whole full room).onValue fun _ _ stored => ⟨room, stored⟩
  | writeKey key newKey cmac =>
    dsimp only
    split
    · trivial
    next fitting =>
      have own : newKey.family = session.family := Classical.not_not.mp fitting
      have room := SimulatedTag.stretch_of_family whole (own.trans works.family)
      refine (authenticated key cmac).bind fun _ after left => done ?_
      have same : newKey.family = after.family := own.trans (works.family.trans left.family.symm)
      refine (ensures_writeKey same).mpr ?_
      exact (left.writePages whole newKey.length_stored room).onValue
        fun _ _ stored => ⟨⟨own.trans works.family, room⟩, stored⟩
  | writeProtect key enable cmac =>
    refine (authenticated key cmac).bind fun _ after left => done ?_
    rw [works.family]
    exact (left.setAuth0 whole _).onValue fun _ _ stored => ⟨trivial, stored⟩
  | writeCmac key enable cmac =>
    dsimp only
    split
    · trivial
    · exact (authenticated key cmac).bind fun _ after left => done (left.setCmac whole enable)

end Scan

theorem serve_written {tag : SimulatedTag} (whole : tag.IsWhole) {random : RandomSource}
    {request : ScanRequest} (done : (serve tag tag.family random request).1 = .write) :
    (serve tag tag.family random request).2.tag.Resembles (tag.written request) ∧
      tag.CanServe request := by
  have executed := Scan.execute_written (opened_worksOn tag random) whole request
  refine serve_succeeds (fun result left => result = .write →
    left.Resembles (tag.written request) ∧ tag.CanServe request) ?_ (by rw [done]; rfl) done
  exact executed.onValue fun _ _ written _ same wrote =>
    ⟨same.trans (written wrote).1.resembles, (written wrote).2⟩

end Wristband
