import Wristband.Proofs.Scan.Mismatch
import Wristband.Proofs.Scan.Reads
import Wristband.Proofs.Session.Trials

/-! A read that tries several keys. A key that is not accepted costs a connection and leaves nothing
else behind, so the request comes to what it would be with the first key that is accepted alone. If no
key is, nothing of the memory has been asked for. -/

namespace Wristband

open Session

/-- What a read with the key of the tag comes to. If one side alone uses codes, the tag ends it. -/
def SimulatedTag.keyedResult (tag : SimulatedTag) (page : UInt8) (cmac : Bool) : ScanResult :=
  if tag.chip = .ultralightAes ∧ cmac ≠ tag.cmacEnabled then
    .fail ⟨.auth, "tag ended the authenticated session with NAK " ++
      Hex.marked (if tag.cmacEnabled then nakIntegrity else nakRefused)⟩
  else
    match Response.uid (tag.readBlock 0) with
    | .error cause => .fail (TagError.protocol cause).toFailure
    | .ok uid => .read (decide (tag.auth0 < tag.family.pageCount)) uid
        (tag.stretch page Layout.userEnd)

namespace Session

variable {τ : Type} [NfcTag τ]

def afterTrial (session : Session τ) (key : AuthKey) (cmac : Bool) : Session τ :=
  (reconnect.run ((authenticate key .dataProtection cmac).run session).2).2

/-- No handshake completes with any of the keys, each of which is tried on a connection of its own. -/
def RejectsAll (cmac : Bool) : List AuthKey → Session τ → Prop
  | [], _ => True
  | key :: keys, session =>
    ((authenticate key .dataProtection cmac).run session).1.isOk = false ∧
      RejectsAll cmac keys (session.afterTrial key cmac)

instance decidableRejectsAll (cmac : Bool) : (keys : List AuthKey) → (session : Session τ) →
    Decidable (session.RejectsAll cmac keys)
  | [], _ => .isTrue trivial
  | key :: keys, session =>
    let _ := decidableRejectsAll cmac keys (session.afterTrial key cmac)
    inferInstanceAs (Decidable (_ ∧ _))

end Session

namespace Scan

variable {τ : Type} [NfcTag τ] {session after : Session τ} {key : AuthKey} {keys : List AuthKey}
  {page : UInt8} {cmac : Bool} {error : TagError}

private theorem run_tryKey_accepted
    (ran : (authenticate key .dataProtection cmac).run session = (.ok (), after)) :
    (tryKey key cmac).run session = (.ok true, after) := by
  rw [tryKey, run_tryCatch, run_bind, ran]
  rfl

private theorem run_tryKey_rejected
    (ran : (authenticate key .dataProtection cmac).run session = (.error error, after))
    (rejection : isRejection error = true) :
    (tryKey key cmac).run session = (.ok false, after) := by
  rw [tryKey, run_tryCatch, run_bind, ran]
  dsimp only
  rw [if_pos rejection]
  rfl

private theorem run_readWithKeys_accepted
    (ran : (authenticate key .dataProtection cmac).run session = (.ok (), after)) :
    (readWithKeys page cmac false (key :: keys)).run session = (readFrom page).run after := by
  change (tryKey key cmac >>= fun accepted =>
    if accepted then readFrom page else readWithKeys page cmac true keys).run session = _
  rw [run_bind, run_tryKey_accepted ran]
  rfl

private theorem run_readWithKeys_rejected
    (ran : (authenticate key .dataProtection cmac).run session = (.error error, after))
    (rejection : isRejection error = true) :
    (readWithKeys page cmac false (key :: keys)).run session =
      (readWithKeys page cmac true keys).run after := by
  change (tryKey key cmac >>= fun accepted =>
    if accepted then readFrom page else readWithKeys page cmac true keys).run session = _
  rw [run_bind, run_tryKey_rejected ran rejection]
  rfl

private theorem run_readWithKeys_reconnecting (some_ : keys ≠ [])
    (ran : reconnect.run session = (.ok (), after)) :
    (readWithKeys page cmac true keys).run session =
      (readWithKeys page cmac false keys).run after := by
  obtain ⟨key, keys, rfl⟩ := List.exists_cons_of_ne_nil some_
  change (reconnect >>= fun _ => readWithKeys page cmac false (key :: keys)).run session = _
  rw [run_bind, ran]

end Scan

namespace Session

open Scan

variable {image : SimulatedTag} {connects : Nat} {session : Session SimulatedTag} {key : AuthKey}
  {page : UInt8} {cmac : Bool}

namespace Tries

variable (tries : session.Tries image connects)
include tries

private theorem rejected
    (rejected : ((authenticate key .dataProtection cmac).run session).1.isOk = false) :
    ∃ error after,
      (authenticate key .dataProtection cmac).run session = (.error error, after) ∧
      isRejection error = true ∧ after.Tries image connects := by
  have ends := (authenticate_refused tries.ready key .dataProtection cmac).and
    ((tries_handshakes image connects).authenticate key .dataProtection cmac session tries)
  rcases ran : (authenticate key .dataProtection cmac).run session with ⟨error | ⟨⟩, after⟩
  · obtain ⟨⟨reason, refused⟩, left⟩ := (ensures_of_error ran).mp ends
    refine ⟨error, after, rfl, ?_, left⟩
    obtain rfl | rfl := refused <;> rfl
  · rw [ran] at rejected
    cases rejected

private theorem passes
    (rejected : ((authenticate key .dataProtection cmac).run session).1.isOk = false) :
    (session.afterTrial key cmac).IsFresh image ∧
      (session.afterTrial key cmac).Tries image (connects + 1) ∧
      ∀ page keys, keys ≠ [] → (readWithKeys page cmac false (key :: keys)).run session =
        (readWithKeys page cmac false keys).run (session.afterTrial key cmac) := by
  obtain ⟨error, after, ran, rejection, left⟩ := tries.rejected rejected
  obtain ⟨next, reconnects, fresh, again⟩ := left.reconnect
  have same : session.afterTrial key cmac = next := by
    rw [afterTrial, ran, reconnects]
  rw [same]
  refine ⟨fresh, again, fun page keys some_ => ?_⟩
  rw [run_readWithKeys_rejected ran rejection, run_readWithKeys_reconnecting some_ reconnects]

private theorem reaches {before : List AuthKey} (fresh : session.IsFresh image)
    (rejected : session.RejectsAll cmac before) :
    ∃ next : Session SimulatedTag, next.IsFresh image ∧
      next.Tries image (connects + before.length) ∧
      ∀ page key behind, (readWithKeys page cmac false (before ++ key :: behind)).run session =
        (readWithKeys page cmac false (key :: behind)).run next := by
  induction before generalizing session connects with
  | nil => exact ⟨session, fresh, tries, fun _ _ _ => rfl⟩
  | cons first before ih =>
    obtain ⟨again, left, passes⟩ := tries.passes rejected.1
    obtain ⟨next, atLast, there, same⟩ := ih left again rejected.2
    refine ⟨next, atLast, ?_, fun page key behind => ?_⟩
    · rwa [List.length_cons, Nat.add_comm before.length, ← Nat.add_assoc]
    · have some_ : before ++ key :: behind ≠ [] :=
        List.append_ne_nil_of_right_ne_nil _ (List.cons_ne_nil _ _)
      exact (passes page _ some_).trans (same page key behind)

private theorem exhausts {keys : List AuthKey} (page : UInt8) (rejected : session.RejectsAll cmac keys) :
    Ensures (readWithKeys page cmac false keys) session (fun _ _ => False)
      (fun error after => error = .auth "none of the keys worked" ∧
        after.Tries image (connects + (keys.length - 1))) := by
  induction keys generalizing session connects with
  | nil => exact ⟨rfl, tries⟩
  | cons key keys ih =>
    cases keys with
    | nil =>
      obtain ⟨error, after, ran, rejection, left⟩ := tries.rejected rejected.1
      exact (ensures_congr (run_readWithKeys_rejected ran rejection)).mpr ⟨rfl, left⟩
    | cons other keys =>
      obtain ⟨_, left, passes⟩ := tries.passes rejected.1
      have rest := ih left rejected.2
      have total : connects + 1 + ((other :: keys).length - 1) =
          connects + ((key :: other :: keys).length - 1) := by
        simp only [List.length_cons]
        omega
      rw [total] at rest
      exact (ensures_congr (passes page _ (List.cons_ne_nil _ _))).mpr rest

end Tries

private theorem IsFresh.accepts (fresh : session.IsFresh image) (held : image.Holds key .dataProtection)
    (whole : image.IsWhole) (first : Layout.userStart ≤ page) (last : page < Layout.userEnd)
    (cmac : Bool) :
    ∃ final, (authenticate key .dataProtection cmac).run session = (.ok (), final) ∧
      Ensures (readFrom page) final (fun result _ => result = image.keyedResult page cmac)
        (fun error _ => .fail error.toFailure = image.keyedResult page cmac) := by
  unfold SimulatedTag.keyedResult
  by_cases mismatch : image.chip = .ultralightAes ∧ cmac ≠ image.cmacEnabled
  · obtain ⟨final, ran, recognised, estranged, theirs⟩ :=
      fresh.held_estranged mismatch.1 held mismatch.2
    refine ⟨final, ran, (readFrom_ends recognised estranged).weaken (fun _ _ => False.elim) ?_⟩
    intro error after ended
    rw [if_pos mismatch, ended.error, SimulatedTag.complaint, theirs]
    rfl
  · have codes (chip : image.chip = .ultralightAes) : cmac = image.cmacEnabled :=
      Classical.not_not.mp (not_and.mp mismatch chip)
    obtain ⟨⟨⟩, final, ran, converses⟩ := (fresh.held_converses held codes).succeeds
    refine ⟨final, ran, ?_⟩
    rw [if_neg mismatch]
    refine ((converses.readHeader whole (by decide) (.inl rfl)).onError ?_).bind ?_
    · rintro _ _ ⟨cause, header, rfl⟩
      rw [header]
    · rintro uid middle ⟨header, going⟩
      rw [header]
      refine (readBehindHeader going whole (by decide) first last uid).weaken ?_ ?_
      · rintro _ _ ⟨_, rfl⟩
        rfl
      · rintro _ _ ⟨outside, _⟩
        exact absurd last (UInt8.not_lt.mpr outside)

private theorem connects_outlasts (connects : Nat) :
    Outlasts (fun session : Session SimulatedTag => session.tag.connects = connects)
      (fun session => session.tag.connects = connects) where
  weaken _ same := same
  exchange _ _ same := exchange_leaves fun _ _ exchanged => exchanged.connects.trans same
  learn _ _ same := same

private theorem readFrom_connects (session : Session SimulatedTag) (page : UInt8) :
    ((readFrom page).run session).2.tag.connects = session.tag.connects :=
  (keeps_readFrom (connects_outlasts _).endures.reads page session rfl).after

end Session

variable {tag : SimulatedTag} {random : RandomSource} {page : UInt8} {key : AuthKey} {cmac : Bool}

private theorem serve_read_held (present : tag.lost = false) (faultless : tag.faults = .none)
    (whole : tag.IsWhole) (random : RandomSource) (held : tag.Holds key .dataProtection)
    (first : Layout.userStart ≤ page) (last : page < Layout.userEnd) (cmac : Bool) :
    (serve tag tag.family random (.read page (some key) cmac)).1 = tag.keyedResult page cmac := by
  obtain ⟨count, fits⟩ := userRange_ok first last
  obtain ⟨final, ran, reads⟩ :=
    (opened_isFresh present faultless random).accepts held whole first last cmac
  rw [serve_opened (openOn_eq_opened present tag.family random)]
  refine resultOf_of_ensures (ensures_bind.mpr (ensures_get.mpr
    (ensures_bind.mpr (ensures_ofData.mpr ?_))))
  rw [fits]
  refine ensures_bind.mpr ?_
  exact (ensures_of_ok (show (Scan.authenticateWith (some key) cmac).run _ = _ from ran)).mpr reads

private theorem serve_readMultiKey (present : tag.lost = false) (first : Layout.userStart ≤ page)
    (last : page < Layout.userEnd) (keys : List AuthKey) :
    let ended := (Scan.readWithKeys page cmac false keys).run (opened tag tag.family random)
    serve tag tag.family random (.readMultiKey page keys cmac) =
      (resultOf ended.1,
        ⟨(NfcTag.close ended.2.tag).2, ended.2.random, ended.2.transcript⟩) := by
  intro ended
  obtain ⟨count, fits⟩ := userRange_ok first last
  have executed : (Scan.execute (.readMultiKey page keys cmac)).run (opened tag tag.family random) =
      ended := by
    change (ofData (userRange page Layout.pageSize) >>= fun _ =>
      Scan.readWithKeys page cmac false keys).run (opened tag tag.family random) = _
    rw [fits]
    rfl
  rw [serve_opened (openOn_eq_opened present tag.family random), executed]

/-- A read with several keys comes to what the read with the first key that is accepted comes to, if
that is the key of the tag. The keys before it, whether they are wrong or do not fit the family, cost
one connection each. If no key is accepted the request fails, and nothing in memory was asked for. -/
theorem multi_key_read_is_read_with_accepted_key (present : tag.lost = false)
    (faultless : tag.faults = .none) (whole : tag.IsWhole) (random : RandomSource)
    (first : Layout.userStart ≤ page) (last : page < Layout.userEnd) (keys : List AuthKey)
    (cmac : Bool) :
    let session := opened tag tag.family random
    let served := serve tag tag.family random (.readMultiKey page keys cmac)
    (∀ before key behind, keys = before ++ key :: behind → tag.Holds key .dataProtection →
      session.RejectsAll cmac before →
        (∀ other, served.1 = (serve tag tag.family other (.read page (some key) cmac)).1) ∧
          served.2.tag.connects = tag.connects + (before.length + 1)) ∧
      (session.RejectsAll cmac keys →
        served.1 = .fail ⟨.auth, "none of the keys worked"⟩ ∧
          served.2.tag.connects = tag.connects + max 1 keys.length ∧
          ∀ sent ∈ served.2.transcript,
            ¬ Frame.AccessesMemory sent.command ∧ ¬ Frame.AccessesMemory sent.frame) := by
  intro session served
  have fresh : session.IsFresh tag := opened_isFresh present faultless random
  have tries : session.Tries tag (tag.connects + 1) := opened_tries present faultless random
  refine ⟨?_, fun rejected => ?_⟩
  · rintro before key behind rfl held rejected
    obtain ⟨next, atKey, there, same⟩ := tries.reaches fresh rejected
    obtain ⟨final, ran, reads⟩ := atKey.accepts held whole first last cmac
    have counted := ((ensures_of_ok ran).mp ((tries_handshakes tag _).authenticate key
      .dataProtection cmac next there)).1.connects
    have read : (Scan.readWithKeys page cmac false (before ++ key :: behind)).run session =
        (Scan.readFrom page).run final :=
      (same page key behind).trans (Scan.run_readWithKeys_accepted ran)
    have ends : served = _ := serve_readMultiKey present first last _
    rw [read] at ends
    refine ⟨fun other => ?_, ?_⟩
    · rw [serve_read_held present faultless whole other held first last cmac]
      exact (congrArg Prod.fst ends).trans (resultOf_of_ensures reads)
    · have kept : served.2.tag.connects = final.tag.connects :=
        (congrArg (·.2.tag.connects) ends).trans (readFrom_connects final page)
      rw [kept, counted]
      omega
  · obtain ⟨error, after, ran, rfl, left⟩ := (tries.exhausts page rejected).fails
    have ends : served = _ := serve_readMultiKey present first last keys
    rw [ran] at ends
    refine ⟨congrArg Prod.fst ends, ?_, ?_⟩
    · have kept : served.2.tag.connects = after.tag.connects := congrArg (·.2.tag.connects) ends
      rw [kept, left.connects]
      omega
    · rw [show served.2.transcript = after.transcript from congrArg (·.2.transcript) ends]
      exact left.unread

/-- The key of zeros comes behind one of the other family. A tag that cannot authenticate refuses the one
that is of its own family, so it rejects both. -/
theorem zeroKey_is_found_behind_other_key :
    let tdesKey := AuthKey.tdes ⟨List.replicate 6 1, rfl⟩
    let plain := SimulatedTag.ultralight [0x04, 0x11, 0x22, 0x33, 0x44, 0x55, 0x66]
    (opened zeroKeyTag zeroKeyTag.family ⟨fun _ => 0, 0⟩).RejectsAll true [tdesKey] ∧
      (serve zeroKeyTag zeroKeyTag.family ⟨fun _ => 0, 0⟩
          (.readMultiKey 0x04 [tdesKey, zeroKey] true)).1 =
        (serve zeroKeyTag zeroKeyTag.family ⟨fun _ => 0, 0⟩ (.read 0x04 (some zeroKey) true)).1 ∧
      (serve zeroKeyTag zeroKeyTag.family ⟨fun _ => 0, 0⟩
        (.readMultiKey 0x04 [tdesKey, zeroKey] true)).2.tag.connects = 2 ∧
      (opened plain plain.family ⟨fun _ => 0, 0⟩).RejectsAll true [zeroKey, tdesKey, tdesKey] ∧
      (serve plain plain.family ⟨fun _ => 0, 0⟩
        (.readMultiKey 0x04 [zeroKey, tdesKey, tdesKey] true)).1 =
          .fail ⟨.auth, "none of the keys worked"⟩ ∧
      (serve plain plain.family ⟨fun _ => 0, 0⟩
        (.readMultiKey 0x04 [zeroKey, tdesKey, tdesKey] true)).2.tag.connects = 3 := by
  intro tdesKey plain
  have whole : zeroKeyTag.IsWhole := (SimulatedTag.isWhole_ultralightAes _ _).withCmac true
  have wholePlain : plain.IsWhole := SimulatedTag.isWhole_ultralight _
  have rejected : (opened zeroKeyTag zeroKeyTag.family ⟨fun _ => 0, 0⟩).RejectsAll true [tdesKey] := by
    decide +kernel
  have rejectedAll : (opened plain plain.family ⟨fun _ => 0, 0⟩).RejectsAll true
      [zeroKey, tdesKey, tdesKey] := by
    decide +kernel
  obtain ⟨same, connects⟩ := (multi_key_read_is_read_with_accepted_key rfl rfl whole
    ⟨fun _ => 0, 0⟩ (by decide : Layout.userStart ≤ 0x04) (by decide) [tdesKey, zeroKey] true).1
    [tdesKey] zeroKey [] rfl holds_zeroKey rejected
  obtain ⟨failed, attempts, _⟩ := (multi_key_read_is_read_with_accepted_key rfl rfl wholePlain
    ⟨fun _ => 0, 0⟩ (by decide : Layout.userStart ≤ 0x04) (by decide) [zeroKey, tdesKey, tdesKey]
    true).2 rejectedAll
  exact ⟨rejected, same _, connects, rejectedAll, failed, attempts⟩

end Wristband
