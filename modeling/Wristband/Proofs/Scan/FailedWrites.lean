import Wristband.Proofs.Scan.Written
import Wristband.Proofs.Session.Recognised

/-! What a write request leaves on a tag without faults when it fails. Almost always that is nothing.
But the pages of a stretch are checked one by one, so a request without a key that begins before AUTH0
and ends behind it stores its first pages, and only then fails. -/

namespace Wristband

open Session

namespace ScanRequest

inductive Stores (family : ChipFamily) : ScanRequest → UInt8 → Bytes → Prop where
  | data {page count : UInt8} {data : Bytes} {key : Option AuthKey} {cmac : Bool}
      (fits : userRange page data.length = .ok count) :
      Stores family (.write page data key cmac) page (Bytes.padded data)
  | key {key : Option AuthKey} {newKey : AuthKey} {cmac : Bool} (own : newKey.family = family) :
      Stores family (.writeKey key newKey cmac) newKey.home newKey.stored

private theorem Stores.unique {family : ChipFamily} {request : ScanRequest} {first other : UInt8}
    {content rest : Bytes} (stores : request.Stores family first content)
    (again : request.Stores family other rest) : other = first ∧ rest = content := by
  cases stores <;> cases again <;> exact ⟨rfl, rfl⟩

def credentials : ScanRequest → Option (AuthKey × Bool)
  | .read _ key cmac | .write _ _ key cmac | .writeKey key _ cmac | .writeProtect key _ cmac
  | .writeCmac key _ cmac => key.map (·, cmac)
  | .fastRead | .readMultiKey .. | .test .. => none

end ScanRequest

namespace SimulatedTag

variable {tag : SimulatedTag} {request : ScanRequest} {first other : UInt8} {content rest : Bytes}

/-- If a handshake succeeds that ends with a channel on both sides, it is the same one. For the key
that the tag holds that is so. -/
def SharesChannel (tag : SimulatedTag) (random : RandomSource) (key : AuthKey) (cmac : Bool) : Prop :=
  ∀ final, (Session.authenticate key .dataProtection cmac).run (opened tag tag.family random) =
    (.ok (), final) → ∀ own theirs, final.channel? = some own → final.tag.channel? = some theirs →
      own = theirs

private theorem sharesChannel_of_holds (present : tag.lost = false) (faultless : tag.faults = .none)
    {key : AuthKey} (held : tag.Holds key .dataProtection) (random : RandomSource) (cmac : Bool) :
    tag.SharesChannel random key cmac := by
  intro other ran own theirs active activeTag
  obtain ⟨final, ran_, _, asked, uncoded, shared⟩ :=
    opened_held present faultless random held cmac
  rw [ran] at ran_
  cases ran_
  have wanted : cmac = true := by
    rw [active] at asked
    exact (Bool.and_eq_true_iff.mp asked.symm).2
  have enabled : tag.cmacEnabled = true := by
    apply eq_true_of_ne_false
    intro disabled
    rw [uncoded disabled] at activeTag
    cases activeTag
  have same := shared wanted enabled
  rw [active, activeTag] at same
  exact (Option.some.inj same).symm

/-- AUTH0 cuts what a request without a key is to store: some pages precede it, and some do not. -/
structure Splits (tag : SimulatedTag) (request : ScanRequest) (first : UInt8) (content : Bytes) :
    Prop where
  stores : request.Stores tag.family first content
  keyless : request.credentials = none
  before : first < tag.auth0
  behind : pageStart tag.auth0 < pageStart first + content.length

theorem sparesAuth0_of_stores (stores : request.Stores tag.family first content) :
    tag.SparesAuth0 first content := by
  cases stores with
  | data fits =>
    have ends := (userRange_eq_ok fits).2
    have user := UInt8.lt_iff_toNat_lt.mp (userEnd_lt_auth0Page tag.family)
    refine .inr ?_
    rw [Bytes.length_padded, pageStart, pageStart, ← Nat.add_mul]
    exact Nat.mul_le_mul_right _ (by omega)
  | @key _ newKey _ own =>
    refine .inl ?_
    rw [← own]
    cases newKey with
    | tdes => exact (by decide : 42 * 4 + 4 ≤ 44 * 4)
    | aes => exact (by decide : 41 * 4 + 4 ≤ 48 * 4)

theorem stretch_of_stores (whole : tag.IsWhole) (stores : request.Stores tag.family first content) :
    Layout.userStart ≤ first ∧ content.length % Layout.pageSize = 0 ∧
      pageStart first + content.length ≤ tag.memory.length := by
  cases stores with
  | data fits =>
    refine ⟨(userRange_eq_ok fits).1, ?_, stretch_of_userRange whole fits⟩
    rw [Bytes.length_padded, Nat.mul_mod_left]
  | @key _ newKey _ own =>
    refine ⟨?_, newKey.length_stored, stretch_of_family whole own⟩
    cases newKey with
    | tdes => exact (by decide : Layout.userStart ≤ Layout.tdesKeyPage)
    | aes => exact (by decide : Layout.userStart ≤ Layout.aesDataKeyPage)

theorem length_memory_le (whole : tag.IsWhole) : tag.memory.length ≤ 240 := by
  rw [whole]
  exact Nat.mul_le_mul_right Layout.pageSize (pageCount_le tag.family)

end SimulatedTag

variable {tag : SimulatedTag} {random : RandomSource} {request : ScanRequest}

/-- What a request leaves when it fails: all as before, or the pages before AUTH0 if it is cut. -/
inductive LeftBy (tag : SimulatedTag) (request : ScanRequest) (error : TagError)
    (after : SimulatedTag) : Prop where
  | same (uncut : ∀ first content, ¬ tag.Splits request first content) (kept : after.Resembles tag)
  | cut {first : UInt8} {content : Bytes} (splits : tag.Splits request first content)
      (reason : error = .notAuthenticated (Access.describe .write tag.auth0))
      (stored : after.Resembles (tag.store first (content.take (tag.openLength first))))

namespace Scan

private theorem authenticateWith_bind {α : Type} {key : Option AuthKey} {cmac : Bool}
    {next : SessionM SimulatedTag α} {done : α → Session SimulatedTag → Prop}
    {failed : TagError → Session SimulatedTag → Prop}
    (present : tag.lost = false) (faultless : tag.faults = .none)
    (shares : ∀ held, key = some held → tag.SharesChannel random held cmac)
    (rejected : ∀ error after, key ≠ none → after.tag.Resembles tag → failed error after)
    (together : ∀ after authenticated, (authenticated = true ↔ key ≠ none) →
      after.Converses tag authenticated 0 → Ensures next after done failed)
    (estranged : ∀ after : Session SimulatedTag, key ≠ none → after.Recognised tag →
      after.channel?.isSome ≠ after.tag.channel?.isSome → Ensures next after done failed) :
    Ensures (do
      authenticateWith key cmac
      next) (opened tag tag.family random) done failed := by
  cases key with
  | none =>
    exact together _ false (iff_of_false nofun (not_not_intro rfl))
      (opened_converses present faultless random)
  | some key =>
    have ends := opened_recognised present faultless random key .dataProtection cmac
    refine ensures_bind.mpr ?_
    unfold authenticateWith Ensures at *
    rcases ran : (authenticate key .dataProtection cmac).run (opened tag tag.family random) with
      ⟨error | ⟨⟩, after⟩ <;> rw [ran] at ends
    · exact rejected error after nofun ends
    · have recognised := ends.1
      have agree (channels : after.tag.channel? = after.channel?) : Ensures next after done failed :=
        together after true (iff_of_true rfl nofun) (recognised.converses channels)
      have apart (different : after.channel?.isSome ≠ after.tag.channel?.isSome) :
          Ensures next after done failed := estranged after nofun recognised different
      cases own : after.channel? with
      | none =>
        cases theirs : after.tag.channel? with
        | none => exact agree (theirs.trans own.symm)
        | some channel =>
          refine apart ?_
          rw [own, theirs]
          exact nofun
      | some channel =>
        cases theirs : after.tag.channel? with
        | none =>
          refine apart ?_
          rw [own, theirs]
          exact nofun
        | some other =>
          have same := shares key rfl after ran channel other own theirs
          exact agree (theirs.trans ((congrArg some same.symm).trans own.symm))

private theorem writePages_leaves {key : Option AuthKey} {cmac authenticated : Bool}
    {session : Session SimulatedTag} {first : UInt8} {content : Bytes} (whole : tag.IsWhole)
    (converses : session.Converses tag authenticated 0)
    (asked : request.credentials = key.map (·, cmac)) (known : authenticated = true ↔ key ≠ none)
    (stores : request.Stores tag.family first content) :
    Ensures (writePages first (pieces Layout.pageSize content)) session
      (fun _ _ => ∀ first content, ¬ tag.Splits request first content)
      (fun error after => LeftBy tag request error after.tag) := by
  obtain ⟨user, full, fits⟩ := SimulatedTag.stretch_of_stores whole stores
  have few := SimulatedTag.length_memory_le whole
  have keyless : request.credentials = none ↔ authenticated = false := by
    rw [asked, Option.map_eq_none_iff, ← Bool.not_eq_true, known, Classical.not_not]
  refine (converses.writePages whole (by omega) full user fits
    (SimulatedTag.sparesAuth0_of_stores stores)).weaken ?_ ?_
  · rintro _ after written first_ content_ splits
    obtain ⟨rfl, rfl⟩ := stores.unique splits.stores
    have before := UInt8.lt_iff_toNat_lt.mp splits.before
    have behind := splits.behind
    obtain authenticated_ | short := written
    · rw [keyless.mp splits.keyless] at authenticated_
      cases authenticated_
    · simp only [SimulatedTag.openLength, SimulatedTag.pageStart, Layout.pageSize] at short behind
      omega
  · rintro error after ⟨strange, cut, reason, stored⟩
    by_cases before : first < tag.auth0
    · rw [if_pos before] at reason
      refine .cut ⟨stores, keyless.mpr strange, before, ?_⟩ reason stored
      have order := UInt8.lt_iff_toNat_lt.mp before
      simp only [SimulatedTag.openLength, SimulatedTag.pageStart, Layout.pageSize] at cut ⊢
      omega
    · rw [SimulatedTag.openLength_of_le (UInt8.not_lt.mp before), List.take_zero, SimulatedTag.store,
        Bytes.overwrite_nil] at stored
      refine .same (fun first_ content_ splits => before ?_) stored
      obtain ⟨rfl, _⟩ := stores.unique splits.stores
      exact splits.before

/-- A request with a key is not cut, so what it does after a handshake that only one side takes for
a success has to leave the tag alone. -/
private theorem authenticated_leaves {key : Option AuthKey} {cmac : Bool} {body : SessionM SimulatedTag Unit}
    (present : tag.lost = false) (faultless : tag.faults = .none)
    (shares : ∀ key cmac, request.credentials = some (key, cmac) →
      tag.SharesChannel random key cmac)
    (asked : request.credentials = key.map (·, cmac))
    (together : ∀ after authenticated, (authenticated = true ↔ key ≠ none) →
      after.Converses tag authenticated 0 → Ensures body after
        (fun _ _ => ∀ first content, ¬ tag.Splits request first content)
        (fun error after => LeftBy tag request error after.tag))
    (estranged : ∀ after : Session SimulatedTag, after.Recognised tag →
      after.channel?.isSome ≠ after.tag.channel?.isSome →
        Ensures body after (fun _ _ => True) (fun _ after => after.tag.Resembles tag)) :
    Ensures (do
      authenticateWith key cmac
      body
      return ScanResult.write) (opened tag tag.family random)
      (fun result _ => result.isFail = false ∧ ∀ first content, ¬ tag.Splits request first content)
      (fun error after => LeftBy tag request error after.tag) := by
  have uncut (some_ : key ≠ none) (first : UInt8) (content : Bytes) :
      ¬ tag.Splits request first content := by
    intro splits
    rw [splits.keyless] at asked
    exact some_ (Option.map_eq_none_iff.mp asked.symm)
  have alike (held : AuthKey) (same : key = some held) : tag.SharesChannel random held cmac := by
    apply shares held cmac
    rw [asked, same]
    rfl
  apply authenticateWith_bind present faultless alike
  · intro error after some_ kept
    exact .same (uncut some_) kept
  · intro after authenticated known converses
    exact (together after authenticated known converses).bind fun _ _ ends => ⟨rfl, ends⟩
  · intro after some_ recognised apart
    refine ((estranged after recognised apart).onError fun _ _ kept =>
      .same (uncut some_) kept).bind fun _ _ _ => ⟨rfl, uncut some_⟩

private theorem execute_leaves (present : tag.lost = false) (faultless : tag.faults = .none)
    (whole : tag.IsWhole) (random : RandomSource) (writes : request.isWrite = true)
    (shares : ∀ key cmac, request.credentials = some (key, cmac) →
      tag.SharesChannel random key cmac) :
    Ensures (execute request) (opened tag tag.family random)
      (fun result _ => result.isFail = false ∧ ∀ first content, ¬ tag.Splits request first content)
      (fun error after => LeftBy tag request error after.tag) := by
  have opens := (opened_worksOn tag random).resembles
  refine ensures_bind.mpr (ensures_get.mpr ?_)
  cases request with
  | fastRead | read | readMultiKey | test => cases writes
  | write page data key cmac =>
    refine ensures_bind.mpr (ensures_ofData.mpr ?_)
    cases fits : userRange page data.length with
    | error =>
      refine .same (fun first content splits => ?_) opens
      cases splits.stores with
      | data fits_ =>
        rw [fits] at fits_
        cases fits_
    | ok count =>
      have stores : (ScanRequest.write page data key cmac).Stores tag.family page _ := .data fits
      rw [writeUserMemory_eq, fits]
      apply authenticated_leaves present faultless shares rfl
      · intro after authenticated known converses
        exact writePages_leaves whole converses rfl known stores
      · intro after recognised apart
        exact recognised.writePages_estranged apart page _
  | writeKey key newKey cmac =>
    dsimp only
    split
    next foreign =>
      refine .same (fun first content splits => ?_) opens
      cases splits.stores with
      | key own => exact foreign own
    next own =>
      have own : newKey.family = tag.family := Classical.not_not.mp own
      have stores : (ScanRequest.writeKey key newKey cmac).Stores tag.family newKey.home _ := .key own
      apply authenticated_leaves present faultless shares rfl
      · intro after authenticated known converses
        refine (ensures_writeKey (own.trans converses.family.symm)).mpr ?_
        exact writePages_leaves whole converses rfl known stores
      · intro after recognised apart
        refine (ensures_writeKey (own.trans recognised.family.symm)).mpr ?_
        exact recognised.writePages_estranged apart _ _
  | writeProtect key enable cmac =>
    have uncut (first : UInt8) (content : Bytes) :
        ¬ tag.Splits (.writeProtect key enable cmac) first content := by
      intro splits
      cases splits.stores
    apply authenticated_leaves present faultless shares rfl
    · intro after authenticated _ converses
      exact (converses.setAuth0 whole (by decide) _).weaken (fun _ _ _ => uncut)
        fun _ _ kept => .same uncut kept
    · intro after recognised apart
      exact (recognised.setAuth0_estranged apart _).onValue fun _ _ never => never.elim
  | writeCmac key enable cmac =>
    have uncut (first : UInt8) (content : Bytes) :
        ¬ tag.Splits (.writeCmac key enable cmac) first content := by
      intro splits
      cases splits.stores
    dsimp only
    split
    · exact .same uncut opens
    · apply authenticated_leaves present faultless shares rfl
      · intro after authenticated _ converses
        exact (converses.setCmac whole (by decide) _).weaken (fun _ _ _ => uncut)
          fun _ _ kept => .same uncut kept
      · intro after recognised apart
        exact (recognised.setCmac_estranged apart _).onValue fun _ _ never => never.elim

end Scan

private theorem LeftBy.trans {error : TagError} {middle after : SimulatedTag}
    (same : after.Resembles middle) (left : LeftBy tag request error middle) :
    LeftBy tag request error after := by
  cases left with
  | same uncut kept => exact .same uncut (same.trans kept)
  | cut splits reason stored => exact .cut splits reason (same.trans stored)

private theorem serve_leaves (present : tag.lost = false) (faultless : tag.faults = .none)
    (whole : tag.IsWhole) (random : RandomSource) (writes : request.isWrite = true)
    (shares : ∀ key cmac, request.credentials = some (key, cmac) →
      tag.SharesChannel random key cmac) :
    let served := serve tag tag.family random request
    (served.1.isFail = false ∧ ∀ first content, ¬ tag.Splits request first content) ∨
      ∃ error, served.1 = .fail error.toFailure ∧ LeftBy tag request error served.2.tag := by
  have ends := Scan.execute_leaves present faultless whole random writes shares
  refine serve_ensures present (fun result left =>
    (result.isFail = false ∧ ∀ first content, ¬ tag.Splits request first content) ∨
      ∃ error, result = .fail error.toFailure ∧ LeftBy tag request error left) (ends.weaken ?_ ?_)
  · intro result after succeeded left same
    exact .inl succeeded
  · intro error after leaves left same
    exact .inr ⟨error, rfl, leaves.trans same⟩

/-- A write request that fails has changed nothing, unless it has no key and AUTH0 cuts what it is to
store. Then it fails at AUTH0, and the pages before it have been stored. -/
theorem failed_write_changes_nothing_unless_split {tag : SimulatedTag} (faultless : tag.faults = .none)
    (whole : tag.IsWhole) {random : RandomSource} {request : ScanRequest}
    (writes : request.isWrite = true)
    (shares : ∀ key cmac, request.credentials = some (key, cmac) →
      tag.SharesChannel random key cmac) :
    let served := serve tag tag.family random request
    ((∀ first content, ¬ tag.Splits request first content) → served.1.isFail = true →
      served.2.tag.memory = tag.memory) ∧
    ∀ first content, tag.Splits request first content → tag.lost = false →
      served.1 = .fail ⟨.auth, "WRITE " ++ Hex.marked tag.auth0 ++ " needs an authenticated session"⟩ ∧
      served.2.tag.memory = tag.memory.overwrite (SimulatedTag.pageStart first)
        (content.take (tag.openLength first)) ∧
      (served.2.tag.memory = tag.memory ↔
        (tag.memory.drop (SimulatedTag.pageStart first)).take (tag.openLength first) =
          content.take (tag.openLength first)) := by
  have left (present : tag.lost = false) :=
    serve_leaves present faultless whole random writes shares
  dsimp only at left ⊢
  constructor
  · intro uncut failed
    cases lost : tag.lost with
    | true =>
      obtain ⟨_, _, kept⟩ := serve_lost lost
      exact kept.memory
    | false =>
      obtain ⟨succeeded, _⟩ | ⟨error, _, leaves⟩ := left lost
      · rw [failed] at succeeded
        cases succeeded
      · cases leaves with
        | same _ kept => exact kept.memory
        | cut splits => exact absurd splits (uncut _ _)
  · intro first content splits present
    obtain ⟨_, uncut⟩ | ⟨error, failed, leaves⟩ := left present
    · exact absurd splits (uncut first content)
    · cases leaves with
      | same uncut => exact absurd splits (uncut first content)
      | cut again reason stored =>
        obtain ⟨rfl, rfl⟩ := again.stores.unique splits.stores
        have behind := splits.behind
        obtain ⟨_, _, fits⟩ := SimulatedTag.stretch_of_stores whole splits.stores
        have shorter : tag.openLength first ≤ content.length := by
          unfold SimulatedTag.openLength
          omega
        have sized : (content.take (tag.openLength first)).length = tag.openLength first :=
          List.length_take_of_le shorter
        have memory := stored.memory
        rw [SimulatedTag.store] at memory
        refine ⟨by rw [failed, reason]; rfl, memory, ?_⟩
        rw [memory, Bytes.overwrite_eq_self_iff (by rw [sized]; omega), sized]

/-- A page that is protected from the start is not begun, and the key of a tag is never half
replaced by one who has it. -/
theorem protected_page_is_not_begun :
    let tag := (SimulatedTag.ultralight [0x04, 0x11, 0x22, 0x33, 0x44, 0x55, 0x66]).withAuth0 0x04
    let data : Bytes := [1, 2, 3, 4, 5, 6, 7, 8]
    let served := serve tag tag.family ⟨fun _ => 0, 0⟩ (.write 0x04 data none true)
    tag.IsWhole ∧ (∀ first content, ¬ tag.Splits (.write 0x04 data none true) first content) ∧
      served.1 = .fail ⟨.auth, "WRITE 0x04 needs an authenticated session"⟩ ∧
      served.2.tag.memory = tag.memory ∧
      zeroKeyTag.SharesChannel ⟨fun _ => 0, 0⟩ zeroKey true ∧
      ∀ newKey, (serve zeroKeyTag zeroKeyTag.family ⟨fun _ => 0, 0⟩
          (.writeKey (some zeroKey) newKey true)).1.isFail = true →
        (serve zeroKeyTag zeroKeyTag.family ⟨fun _ => 0, 0⟩
          (.writeKey (some zeroKey) newKey true)).2.tag.memory = zeroKeyTag.memory := by
  intro tag data served
  have whole : tag.IsWhole := (SimulatedTag.isWhole_ultralight _).withAuth0 0x04
  have uncut (first : UInt8) (content : Bytes) :
      ¬ tag.Splits (.write 0x04 data none true) first content := by
    intro splits
    have before := splits.before
    cases splits.stores
    exact absurd before (by decide +kernel)
  have failed : served.1 = .fail ⟨.auth, "WRITE 0x04 needs an authenticated session"⟩ := by
    decide +kernel
  have unasked (key : AuthKey) (cmac : Bool)
      (asked : (ScanRequest.write 0x04 data none true).credentials = some (key, cmac)) :
      tag.SharesChannel ⟨fun _ => 0, 0⟩ key cmac := nomatch asked
  have faultless : tag.faults = .none := rfl
  have kept := (failed_write_changes_nothing_unless_split faultless whole rfl unasked).1 uncut
    (congrArg ScanResult.isFail failed)
  have blank : zeroKeyTag.IsWhole := (SimulatedTag.isWhole_ultralightAes _ _).withCmac true
  have shares : zeroKeyTag.SharesChannel ⟨fun _ => 0, 0⟩ zeroKey true :=
    SimulatedTag.sharesChannel_of_holds rfl rfl holds_zeroKey _ true
  refine ⟨whole, uncut, failed, kept, shares, fun newKey => ?_⟩
  have asked (key : AuthKey) (cmac : Bool)
      (asked : (ScanRequest.writeKey (some zeroKey) newKey true).credentials = some (key, cmac)) :
      zeroKeyTag.SharesChannel ⟨fun _ => 0, 0⟩ key cmac := by
    cases asked
    exact shares
  exact (failed_write_changes_nothing_unless_split rfl blank rfl asked).1 fun _ _ splits =>
    nomatch splits.keyless

/-- Eight bytes are to be stored from the last public page on. The first four are, and then the
request fails. -/
theorem failed_write_leaves_first_page :
    let tag := (SimulatedTag.ultralight [0x04, 0x11, 0x22, 0x33, 0x44, 0x55, 0x66]).withAuth0 0x05
    let served := serve tag tag.family ⟨fun _ => 0, 0⟩ (.write 0x04 [1, 2, 3, 4, 5, 6, 7, 8] none true)
    served.1 = .fail ⟨.auth, "WRITE 0x05 needs an authenticated session"⟩ ∧
      served.2.tag.memory = tag.memory.overwrite 16 [1, 2, 3, 4] ∧
      served.2.tag.memory ≠ tag.memory := by
  decide +kernel

end Wristband
