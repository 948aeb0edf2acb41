import Wristband.Proofs.Session.Acknowledged
import Wristband.Proofs.Session.Contents

/-! What a session remembers of AUTH0. Every operation but two leaves it right: a WRITE that the user
sends to the page of AUTH0 does not tell the session of it, and neither does a change of AUTH0 that
fails after the tag has carried it out. -/

namespace Wristband

namespace Session

def IsCurrent (session : Session SimulatedTag) : Prop :=
  ∀ auth0, session.auth0 = some auth0 → session.tag.auth0 = auth0

structure Recalls (start : SimulatedTag) (auth0 : UInt8) (session : Session SimulatedTag) : Prop
    extends Watched start.family start.frames session where
  sameFaults : session.tag.faults = start.faults
  whole : session.tag.IsWhole
  sized : session.HasSizedCodes
  recalled : ∀ cached, session.auth0 = some cached → cached = auth0

def Tracks (start : SimulatedTag) (session : Session SimulatedTag) : Prop :=
  session.Recalls start session.tag.auth0

variable {start : SimulatedTag} {auth0 : UInt8} {image : SimulatedTag}
  {session after : Session SimulatedTag} {command : Bytes} {result : Except TagError Bytes}

namespace Recalls

private theorem tracks (recalls : session.Recalls start auth0) (same : session.tag.auth0 = auth0) :
    session.Tracks start := by
  unfold Tracks
  rw [same]
  exact recalls

private theorem exchanged (recalls : session.Recalls start auth0)
    (allowed : session.tag.Protects command → session.isAuthenticated = true)
    (exchanged : Exchanged session command result after) : after.Recalls start auth0 where
  toWatched := recalls.toWatched.exchanged allowed exchanged
  sameFaults := exchanged.faults.trans recalls.sameFaults
  whole := by
    obtain ⟨sameTag, _⟩ | ⟨frame, _, sameTag, _⟩ := exchanged.transmission
    · rw [sameTag]
      exact recalls.whole
    · rw [sameTag]
      exact recalls.whole.transceive frame
  sized := exchanged.hasSizedCodes recalls.sized
  recalled cached same := recalls.recalled cached (exchanged.auth0 ▸ same)

private theorem learn (recalls : session.Recalls start auth0) (value : UInt8) :
    Recalls start value { session with auth0 := some value } where
  toWatched := recalls.toWatched.retag rfl rfl _ _ _
  sameFaults := recalls.sameFaults
  whole := recalls.whole
  sized := recalls.sized
  recalled _ same := (Option.some.inj same).symm

private theorem retag (recalls : session.Recalls start auth0) {tag : SimulatedTag}
    (resembles : tag.Resembles session.tag) (sameFrames : tag.frames = session.tag.frames)
    (sameFaults : tag.faults = session.tag.faults) {cached : Option UInt8}
    (known : cached = session.auth0 ∨ cached = none) (closed : Bool) :
    Recalls start auth0 { session with
      tag := tag, engine := none, auth0 := cached, closed := closed } where
  toWatched := recalls.toWatched.retag resembles.chip sameFrames none cached closed
  sameFaults := sameFaults.trans recalls.sameFaults
  whole := resembles.isWhole recalls.whole
  sized := hasSizedCodes_of_open rfl
  recalled value same := by
    change cached = some value at same
    obtain rfl | rfl := known
    · exact recalls.recalled value same
    · cases same

end Recalls

namespace Tracks

variable (tracks : session.Tracks start)
include tracks

private theorem isCurrent : session.IsCurrent := fun auth0 same => (tracks.recalled auth0 same).symm

private theorem informed : Informed start.family start.frames session where
  toWatched := tracks.toWatched
  known _ := tracks.isCurrent

private theorem worksOn : session.WorksOn session.tag where
  family := tracks.sameFamily.trans tracks.ownFamily.symm
  resembles := ⟨rfl, rfl⟩
  sized := tracks.sized

private theorem exchanged (allowed : session.tag.Protects command → session.isAuthenticated = true)
    (exchanged : Exchanged session command result after) (same : after.tag.auth0 = session.tag.auth0) :
    after.Tracks start :=
  (Recalls.exchanged tracks allowed exchanged).tracks same

private theorem exchange (allowed : session.tag.Protects command → session.isAuthenticated = true)
    (nothing : Frame.StoresNothing command) :
    Ensures (exchange command) session (fun _ => Tracks start)
      (fun _ => Tracks start) :=
  exchange_leaves fun _ _ exchanged => tracks.exchanged allowed exchanged
    (tracks.worksOn.toIsOn.exchanged nothing exchanged).resembles.auth0

private theorem exchange_write {page : UInt8} {data : Bytes} (admits : session.Admits .write page)
    (sized : data.length = Layout.pageSize)
    (same : page = start.family.auth0Page → data.getD start.family.auth0Byte 0 = session.tag.auth0) :
    Ensures (Session.exchange (CommandCode.write.code :: page :: data)) session
      (fun _ => Tracks start) (fun _ => Tracks start) := by
  refine exchange_leaves fun _ after exchanged =>
    tracks.exchanged (tracks.informed.write_allowed admits) exchanged ?_
  obtain ⟨sameTag, _⟩ | ⟨frame, carries, sameTag, _⟩ := exchanged.transmission
  · rw [sameTag]
  · obtain ⟨rest, rfl⟩ := carries.exists_code
    rw [sameTag]
    obtain kept | ⟨here, stored⟩ :=
      SimulatedTag.auth0_transceive_write tracks.whole page sized rest
    · exact kept
    · rw [tracks.ownFamily] at here stored
      exact stored.trans (same here)

end Tracks

private theorem tracks_lookUp : Keeps (Tracks start) (Tracks start)
    (auth0Page (τ := SimulatedTag)) := by
  refine Leads.get fun session tracks => ?_
  cases session.auth0 with
  | some auth0 => exact ensures_pure.mpr tracks
  | none =>
    dsimp only
    rw [Frame.read_auth0Page]
    have kept : Ensures (readBlock [CommandCode.read.code, session.family.auth0Page]) session
        (fun _ => Tracks start) (fun _ => Tracks start) :=
      (tracks.exchange (fun covered => absurd covered (session.tag.not_protects_auth0Page _))
        (Frame.storesNothing_read _)).bind fun _ => Leads.ofProtocol fun _ same => same
    refine ((kept.and (tracks.worksOn.readBlock tracks.whole _)).onError
      fun _ _ left => left.1).bind ?_
    rintro _ after ⟨left, rfl, known, works⟩
    have long := session.tag.length_readBlock tracks.whole session.family.auth0Page
    have shown : ((session.tag.readBlock session.family.auth0Page).take Layout.pageSize).getD
        session.family.auth0Byte 0 = after.tag.auth0 := by
      rw [SimulatedTag.take_readBlock known long, tracks.worksOn.family,
        SimulatedTag.auth0_of_shownPage]
      exact works.resembles.auth0.symm
    rw [Response.requestedPage_ofBytes long]
    refine ensures_bind.mpr (ensures_ofProtocol.mpr (ensures_bind.mpr (ensures_modify.mpr ?_)))
    exact (Recalls.learn left _).tracks shown.symm

private theorem tracks_reads : Reads (Tracks start) (Tracks start) where
  weaken _ tracks := tracks
  version _ tracks := tracks.exchange False.elim Frame.storesNothing_getVersion
  lookUp := tracks_lookUp
  uid session tracks := tracks.exchange
    (fun covered => absurd covered session.tag.not_protects_header) (Frame.storesNothing_read 0)
  page page session holds := holds.1.exchange
    (fun covered => holds.1.informed.authenticated_of_admits holds.2 (by
      obtain ⟨_, user, behind⟩ := covered
      simp only [Access.isProtected, behind, user, decide_true, Bool.and_self]))
    (Frame.storesNothing_read page)

private theorem tracks_writes : Writes (Tracks start) (Tracks start) where
  toReads := tracks_reads
  write _ _ apart sized _ holds :=
    holds.1.exchange_write holds.2 sized fun here => absurd here (apart start.family)

private theorem tracks_reads_on (whole : image.IsWhole) :
    Reads (fun session => session.Tracks start ∧ session.WorksOn image)
      (fun session => session.Tracks start ∧ session.WorksOn image) :=
  tracks_reads.and (worksOn_reads whole)

private theorem Tracks.recalls (tracks : session.Tracks start) (works : session.WorksOn image) :
    session.Recalls start image.auth0 := by
  unfold Tracks at tracks
  rwa [works.resembles.auth0] at tracks

private theorem Tracks.readPage (tracks : session.Tracks start) (page : UInt8) :
    Ensures (readPage page) session
      (fun content after => content = session.tag.shownPage page ∧ after.Tracks start ∧
        after.WorksOn session.tag)
      (fun _ after => after.Tracks start ∧ after.WorksOn session.tag) :=
  ((tracks_reads.readPage page session tracks).and
    (tracks.worksOn.readPage tracks.whole page)).onValue
      fun _ _ left => ⟨left.2.1, left.1, left.2.2⟩

private theorem tracks_setCmac (enabled : Bool) : Keeps (Tracks start) (Tracks start)
    (setCmac (τ := SimulatedTag) enabled) := by
  intro session tracks
  refine ensures_bind.mpr (ensures_bind.mpr (ensures_get.mpr ?_))
  split
  · exact tracks
  next own =>
    have own : session.family = .ultralightAes := Classical.not_not.mp own
    refine ((tracks.readPage Layout.aesConfigPage).onError fun _ _ left => left.1).bind ?_
    rintro _ middle ⟨rfl, left⟩
    refine (tracks_reads_on tracks.whole).writePage (fun sized now holds => ?_)
      (fun _ left => left.1) (fun _ left => left) middle left
    obtain ⟨⟨tracksNow, works⟩, admits⟩ := holds
    refine tracksNow.exchange_write admits sized fun _ => ?_
    have ownFamily : start.family = .ultralightAes := tracks.sameFamily.symm.trans own
    have tagFamily : session.tag.family = .ultralightAes := tracks.worksOn.family.symm.trans own
    have apart : (0 : Nat) ≠ Layout.aesAuth0Byte := by decide
    rw [works.resembles.auth0, ← SimulatedTag.auth0_of_shownPage, tagFamily, ownFamily]
    exact Bytes.getD_set_of_ne _ apart

private theorem Tracks.writePage (tracks : session.Tracks start) (works : session.WorksOn image)
    (whole : image.IsWhole) (page : UInt8) (data : Bytes) :
    Ensures (writePage page data) session (fun _ => Recalls start image.auth0)
      (fun _ => Recalls start image.auth0) :=
  (tracks_reads_on whole).writePage
    (fun _ _ holds => exchange_leaves fun _ _ exchanged => (holds.1.1.recalls holds.1.2).exchanged
      (holds.1.1.informed.write_allowed holds.2) exchanged)
    (fun _ left => left.1.recalls left.2) (fun _ left => left) session ⟨tracks, works⟩

private theorem Tracks.setAuth0 (tracks : session.Tracks start) (auth0 : UInt8) :
    Ensures (setAuth0 auth0) session (fun _ => Tracks start)
      (fun _ => Recalls start session.tag.auth0) := by
  have noted : Ensures (Session.setAuth0 auth0) session (fun _ => Recalls start auth0)
      (fun _ => Recalls start session.tag.auth0) := by
    refine ensures_bind.mpr (ensures_get.mpr ?_)
    refine ((tracks.readPage _).onError fun _ _ left => left.1.recalls left.2).bind
      fun config middle left => ?_
    refine (left.2.1.writePage left.2.2 tracks.whole _ _).bind fun _ _ written => ?_
    exact ensures_modify.mpr (written.learn auth0)
  have stored := tracks.worksOn.setAuth0 tracks.whole auth0
  refine (noted.and stored).weaken (fun _ after left => ?_) fun _ _ left => left.1
  exact left.1.tracks (left.2.resembles.auth0.trans (SimulatedTag.auth0_withAuth0 tracks.whole auth0))

private theorem faults_handshakes (faults : Faults) :
    Handshakes fun session : Session SimulatedTag => session.tag.faults = faults where
  engine _ _ same := same
  random _ _ same := same
  step _ _ _ same := exchange_leaves fun _ _ exchanged => exchanged.faults.trans same

private theorem tracks_authenticate (key : AuthKey) (slot : KeySlot) (cmac : Bool) :
    Keeps (Tracks start) (Tracks start) (authenticate (τ := SimulatedTag) key slot cmac) := by
  intro session tracks
  have informed := informed_handshakes.authenticate key slot cmac session tracks.informed
  have faults := (faults_handshakes start.faults).authenticate key slot cmac session tracks.sameFaults
  have knows := (knows_handshakes session.tag).authenticate key slot cmac session
    ⟨tracks.worksOn.toIsOn, tracks.recalled⟩
  have sized := authenticate_hasSizedCodes key slot cmac session tracks.sized
  have tracked {after : Session SimulatedTag} (informed : Informed start.family start.frames after)
      (faults : after.tag.faults = start.faults) (knows : after.Knows session.tag)
      (sized : after.HasSizedCodes) : after.Tracks start :=
    Recalls.tracks ⟨informed.toWatched, faults, knows.resembles.isWhole tracks.whole, sized,
      knows.learned⟩ knows.resembles.auth0
  exact (((informed.and faults).and knows).and sized).weaken
    (fun _ _ left => tracked left.1.1.1.1 left.1.1.2.1 left.1.2.1 left.2)
    fun _ _ left => tracked left.1.1.1 left.1.1.2 left.1.2 left.2

private theorem Tracks.retag (tracks : session.Tracks start) {tag : SimulatedTag}
    (resembles : tag.Resembles session.tag) (sameFrames : tag.frames = session.tag.frames)
    (sameFaults : tag.faults = session.tag.faults) {cached : Option UInt8}
    (known : cached = session.auth0 ∨ cached = none) (closed : Bool) :
    Tracks start { session with tag := tag, engine := none, auth0 := cached, closed := closed } :=
  (Recalls.retag tracks resembles sameFrames sameFaults known closed).tracks resembles.auth0

private theorem tracks_reconnect : Keeps (Tracks start) (Tracks start)
    (reconnect (τ := SimulatedTag)) := by
  intro session tracks
  have faults (tag : SimulatedTag) : tag.connect.2.faults = tag.faults := by
    unfold SimulatedTag.connect
    split <;> rfl
  have resembles := SimulatedTag.resembles_connect (NfcTag.close session.tag).2
  exact reconnect_leaves nofun (tracks.retag ⟨resembles.chip, resembles.memory⟩
    (NfcTag.close session.tag).2.frames_connect (faults _) (.inr rfl) session.closed)

private theorem tracks_close : Keeps (Tracks start) (Tracks start) (close (τ := SimulatedTag)) := by
  refine Leads.get fun session tracks => ?_
  split
  · exact tracks
  · have closes : (NfcTag.close session.tag).1 = .ok () := rfl
    simp only [closeTag, ensures_bind, ensures_modify, ensures_get, ensures_set,
      ensures_ofHardware, closes]
    have left : (NfcTag.close session.tag).2.Resembles session.tag := ⟨rfl, rfl⟩
    exact tracks.retag left rfl rfl (.inl rfl) true

private theorem openOn_tracks (whole : start.IsWhole) {random : RandomSource}
    (succeeded : openOn start start.family random = .ok session) : session.Tracks start := by
  obtain ⟨rfl, _⟩ := eq_opened_of_openOn succeeded
  refine Recalls.tracks ⟨(openOn_informed rfl succeeded).toWatched, rfl, whole, ?_, ?_⟩ rfl
  · exact hasSizedCodes_of_open rfl
  · exact fun _ same => nomatch same

end Session

open Session

/-- The call may change AUTH0 in the tag without the session taking note of it. -/
def SessionCall.PassesBy (call : SessionCall) (session : Session SimulatedTag) : Prop :=
  match call with
  | writePage page _ => page = session.family.auth0Page
  | setAuth0 _ => ∃ error, (call.perform.run session).1 = .error error
  | _ => False

/-- The call changes AUTH0 in the tag, and the session goes on with what it remembered. -/
def SessionCall.Outdates (call : SessionCall) (session : Session SimulatedTag) : Prop :=
  call.PassesBy session ∧ (call.perform.run session).2.tag.auth0 ≠ session.tag.auth0 ∧
    (call.perform.run session).2.auth0 ≠ none

namespace Session

variable {start : SimulatedTag} {session : Session SimulatedTag} {call : SessionCall}

private theorem Tracks.perform (tracks : session.Tracks start) (noted : ¬ call.PassesBy session) :
    Tracks start (call.perform.run session).2 := by
  cases call with
  | authenticate key slot cmac => exact (tracks_authenticate key slot cmac session tracks).after
  | getVersion => exact (tracks_reads.getVersion.discard session tracks).after
  | readPage page => exact ((tracks_reads.readPage page).discard session tracks).after
  | writePage page data =>
    have keeps : Ensures (Session.writePage page data) session (fun _ => Tracks start)
        (fun _ => Tracks start) := by
      refine tracks_reads.writePage (fun sized now holds => ?_) (fun _ left => left)
        (fun _ left => left) session tracks
      refine holds.1.exchange_write holds.2 sized fun here => absurd here ?_
      rw [← tracks.sameFamily]
      exact noted
    exact keeps.after
  | readUid => exact (tracks_reads.readUid.discard session tracks).after
  | auth0 => exact (tracks_lookUp.discard session tracks).after
  | setAuth0 auth0 =>
    have ends := tracks.setAuth0 auth0
    unfold Ensures at ends
    change ¬ ∃ error, ((Session.setAuth0 auth0).run session).1 = .error error at noted
    change Tracks start ((Session.setAuth0 auth0).run session).2
    rcases ran : (Session.setAuth0 auth0).run session with ⟨error | _, after⟩
    · rw [ran] at noted
      exact absurd ⟨error, rfl⟩ noted
    · rw [ran] at ends
      exact ends
  | isProtected => exact (tracks_reads.isProtected.discard session tracks).after
  | cmacRequired => exact (tracks_reads.cmacRequired.discard session tracks).after
  | setCmac enabled => exact (tracks_setCmac enabled session tracks).after
  | readUserMemory page => exact ((tracks_reads.readUserMemory page).discard session tracks).after
  | writeUserMemory page data =>
    exact (tracks_writes.writeUserMemory page data session tracks).after
  | writeKey key => exact (tracks_writes.writeKey key session tracks).after
  | reconnect => exact (tracks_reconnect session tracks).after
  | close => exact (tracks_close session tracks).after

private theorem Tracks.recalls_perform (tracks : session.Tracks start) (passes : call.PassesBy session) :
    Recalls start session.tag.auth0 (call.perform.run session).2 := by
  cases call with
  | writePage page data => exact (tracks.writePage tracks.worksOn tracks.whole page data).after
  | setAuth0 auth0 =>
    have ends := tracks.setAuth0 auth0
    obtain ⟨error, failed⟩ := passes
    unfold Ensures at ends
    change ((Session.setAuth0 auth0).run session).1 = .error error at failed
    change Recalls start session.tag.auth0 ((Session.setAuth0 auth0).run session).2
    rcases ran : (Session.setAuth0 auth0).run session with ⟨_ | _, after⟩ <;>
      rw [ran] at ends failed
    · exact ends
    · cases failed
  | _ => exact passes.elim

/-- What is remembered stays right exactly as long as no call outdates it. -/
theorem Tracks.perform_iff (tracks : session.Tracks start) :
    (¬ call.Outdates session → Tracks start (call.perform.run session).2) ∧
      (call.Outdates session → ¬ IsCurrent (call.perform.run session).2) := by
  constructor
  · intro current
    by_cases passes : call.PassesBy session
    · have recalls := tracks.recalls_perform passes
      by_cases same : (call.perform.run session).2.tag.auth0 = session.tag.auth0
      · exact recalls.tracks same
      · have forgotten : (call.perform.run session).2.auth0 = none :=
          Classical.byContradiction fun known => current ⟨passes, same, known⟩
        refine ⟨recalls.toWatched, recalls.sameFaults, recalls.whole, recalls.sized, ?_⟩
        intro cached known
        rw [forgotten] at known
        cases known
    · exact tracks.perform passes
  · rintro ⟨passes, changed, known⟩ current
    obtain ⟨cached, held⟩ := Option.ne_none_iff_exists'.mp known
    exact changed ((current cached held).trans
      ((tracks.recalls_perform passes).recalled cached held))

def NothingOutdates (session : Session SimulatedTag) (calls : List SessionCall) : Prop :=
  ∀ before call rest, calls = before ++ call :: rest → ¬ call.Outdates (session.afterCalls before)

private theorem nothingOutdates_cons {calls : List SessionCall} : session.NothingOutdates (call :: calls) ↔
    ¬ call.Outdates session ∧ NothingOutdates (call.perform.run session).2 calls := by
  constructor
  · intro nothing
    refine ⟨nothing [] call calls rfl, fun before next rest split => ?_⟩
    exact nothing (call :: before) next rest (congrArg (call :: ·) split)
  · rintro ⟨now, later⟩ before next rest split
    cases before with
    | nil =>
      obtain ⟨rfl, rfl⟩ := List.cons.inj split
      exact now
    | cons first before =>
      obtain ⟨rfl, remaining⟩ := List.cons.inj split
      exact later before next rest remaining

private theorem Tracks.afterCalls {calls : List SessionCall} (tracks : session.Tracks start)
    (nothing : session.NothingOutdates calls) : (session.afterCalls calls).Tracks start := by
  induction calls generalizing session with
  | nil => exact tracks
  | cons call calls ih =>
    obtain ⟨now, later⟩ := nothingOutdates_cons.mp nothing
    exact ih (tracks.perform_iff.1 now) later

private theorem Tracks.isCurrent_afterCalls {calls : List SessionCall} (tracks : session.Tracks start) :
    (∀ before, before <+: calls → (session.afterCalls before).IsCurrent) ↔
      session.NothingOutdates calls := by
  constructor
  · intro current
    induction calls generalizing session with
    | nil => exact fun before call rest split => absurd split.symm (by simp)
    | cons call calls ih =>
      have now : ¬ call.Outdates session := fun outdates =>
        tracks.perform_iff.2 outdates (current [call] (List.prefix_append [call] calls))
      refine nothingOutdates_cons.mpr ⟨now, ih (tracks.perform_iff.1 now) fun before starts => ?_⟩
      exact current (call :: before) (List.cons_prefix_cons.mpr ⟨rfl, starts⟩)
  · rintro nothing before ⟨rest, rfl⟩
    refine (tracks.afterCalls fun first call second split => ?_).isCurrent
    exact nothing first call (second ++ rest) (by rw [split, List.append_assoc]; rfl)

/-- On a tag without faults only two channels that differ can make a change of AUTH0 go unnoticed. -/
theorem Tracks.not_outdated_by_setAuth0 (tracks : session.Tracks start)
    (faultless : start.faults = .none) (one : session.HasOneChannel) (auth0 : UInt8) :
    ¬ (SessionCall.setAuth0 auth0).Outdates session := by
  rintro ⟨⟨error, failed⟩, changed, _⟩
  have attuned : session.Attuned session.tag :=
    ⟨⟨tracks.sameFaults.trans faultless, one⟩, tracks.worksOn⟩
  have ends := attuned.setAuth0 tracks.whole auth0
  unfold Ensures at ends
  change ((Session.setAuth0 auth0).run session).1 = .error error at failed
  change ((Session.setAuth0 auth0).run session).2.tag.auth0 ≠ session.tag.auth0 at changed
  rcases ran : (Session.setAuth0 auth0).run session with ⟨_ | _, after⟩ <;>
    rw [ran] at ends failed changed
  · exact changed ends.auth0
  · cases failed

/-- A session remembers the AUTH0 of its tag as long as no call outdates it, and then no command goes
out to a protected page unless the session is authenticated. On a tag without faults a call outdates
it by storing the page of AUTH0 directly, unless both sides have a channel and not the same. -/
theorem remembered_auth0_is_current_unless_outdated {tag : SimulatedTag} (whole : tag.IsWhole)
    {random : RandomSource} (succeeded : openOn tag tag.family random = .ok session)
    (calls : List SessionCall) :
    ((∀ before, before <+: calls → (session.afterCalls before).IsCurrent) ↔
      session.NothingOutdates calls) ∧
    (session.NothingOutdates calls →
      (∀ sent ∈ (session.afterCalls calls).transcript,
        sent.AccessesProtected → sent.IsAuthenticated) ∧
      ∀ call : SessionCall, call.Outdates (session.afterCalls calls) → tag.faults = .none →
        (∃ data, call = .writePage tag.family.auth0Page data) ∨
          ∃ own theirs, (session.afterCalls calls).channel? = some own ∧
            (session.afterCalls calls).tag.channel? = some theirs ∧ own ≠ theirs) := by
  have tracks := openOn_tracks whole succeeded
  refine ⟨tracks.isCurrent_afterCalls, fun nothing => ?_⟩
  have after := tracks.afterCalls nothing
  refine ⟨after.authenticated, fun call outdates faultless => ?_⟩
  cases call with
  | writePage page data =>
    have here : page = (session.afterCalls calls).family.auth0Page := outdates.1
    rw [after.sameFamily] at here
    exact .inl ⟨data, by rw [here]⟩
  | setAuth0 auth0 =>
    refine .inr (Classical.byContradiction fun none_ => ?_)
    refine after.not_outdated_by_setAuth0 faultless (fun own theirs active activeTag => ?_) auth0 outdates
    exact Classical.byContradiction fun different => none_ ⟨own, theirs, active, activeTag, different⟩
  | _ => exact outdates.1.elim

/-- Data in user memory does not outdate anything, and what would reach behind AUTH0 is not sent. -/
theorem user_data_outdates_nothing :
    let tag := (SimulatedTag.ultralight [0x04, 0x11, 0x22, 0x33, 0x44, 0x55, 0x66]).withAuth0 0x10
    let calls := [SessionCall.writeUserMemory 0x04 [1, 2, 3, 4], .writeUserMemory 0x20 [1, 2, 3, 4]]
    let session := (opened tag tag.family ⟨fun _ => 0, 0⟩).afterCalls calls
    tag.IsWhole ∧ session.auth0 = some 0x10 ∧ session.tag.auth0 = 0x10 ∧
      session.transcript.map (·.command) = [[0x30, 0x2A], [0xA2, 0x04, 1, 2, 3, 4]] ∧
      ∀ sent ∈ session.transcript, sent.AccessesProtected → sent.IsAuthenticated := by
  intro tag calls session
  have whole : tag.IsWhole := (SimulatedTag.isWhole_ultralight _).withAuth0 0x10
  have main := remembered_auth0_is_current_unless_outdated whole
    (openOn_eq_opened rfl tag.family ⟨fun _ => 0, 0⟩) calls
  have nothing : (opened tag tag.family ⟨fun _ => 0, 0⟩).NothingOutdates calls := by
    refine nothingOutdates_cons.mpr ⟨And.left, nothingOutdates_cons.mpr ⟨And.left, ?_⟩⟩
    exact fun before call rest split => absurd split.symm (by simp)
  have cached : session.auth0 = some 0x10 := by decide +kernel
  have current := main.1.mpr nothing calls List.prefix_rfl
  exact ⟨whole, cached, current 0x10 cached, by decide +kernel, (main.2 nothing).1⟩

/-- The page of AUTH0 is written directly. The session does not notice, and sends a READ for a page
that the tag does not show to strangers any more. -/
theorem auth0_page_written_unnoticed :
    let tag := SimulatedTag.ultralight [0x04, 0x11, 0x22, 0x33, 0x44, 0x55, 0x66]
    let start := opened tag tag.family ⟨fun _ => 0, 0⟩
    let written := start.afterCalls [.writePage 0x2A [0x05, 0, 0, 0]]
    let last := (readPage 0x05).run written
    openOn tag tag.family ⟨fun _ => 0, 0⟩ = .ok start ∧ tag.faults = .none ∧
      written.auth0 = some 0x30 ∧ written.tag.auth0 = 0x05 ∧ last.1.toOption = none ∧
      ∃ sent ∈ last.2.transcript, sent.AccessesProtected ∧ sent.engine = none ∧
        (sent.tag.transceive sent.frame).1.toOption = some [0x00] := by
  intro tag start written last
  have seen : last.2.transcript.map (fun sent => (sent.command, sent.tag.auth0, sent.engine,
      (sent.tag.transceive sent.frame).1.toOption)) =
      [([0x30, 0x2A], 0x30, none, some [0x30, 0, 0, 0, 0, 0, 0, 0, 0, 0, 0, 0, 0, 0, 0, 0]),
        ([0xA2, 0x2A, 0x05, 0, 0, 0], 0x30, none, some [0x0A]),
        ([0x30, 0x05], 0x05, none, some [0x00])] := by
    decide +kernel
  obtain ⟨sent, listed, same⟩ : ∃ sent ∈ last.2.transcript,
      (sent.command, sent.tag.auth0, sent.engine,
        (sent.tag.transceive sent.frame).1.toOption) = ([0x30, 0x05], 0x05, none, some [0x00]) := by
    apply List.mem_map.mp
    rw [seen]
    simp
  obtain ⟨command, rest⟩ := Prod.mk.inj same
  obtain ⟨auth0, rest⟩ := Prod.mk.inj rest
  obtain ⟨free, refused⟩ := Prod.mk.inj rest
  refine ⟨openOn_eq_opened rfl _ _, rfl, by decide +kernel, by decide +kernel, by decide +kernel,
    sent, listed, ?_, free, refused⟩
  rw [Transmission.AccessesProtected, command]
  refine ⟨by decide, by decide, ?_⟩
  rw [auth0]
  exact UInt8.le_refl 0x05

end Session
end Wristband
