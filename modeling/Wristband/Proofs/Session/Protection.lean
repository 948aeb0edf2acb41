import Wristband.Broker.Call
import Wristband.Proofs.Broker.Presence
import Wristband.Proofs.Scan.Requests
import Wristband.Proofs.Tag.Auth0
import Wristband.Tag.Simulated.Build

/-! Protected pages of a tag that is served as its own family. What the session remembers of
AUTH0 is right as long as it decides anything, so the access check lets a command through to a
protected page only when the handshake is complete. -/

namespace Wristband

open Session Scan

def SimulatedTag.Protects (tag : SimulatedTag) (command : Bytes) : Prop :=
  match TagCommand.ofFrame command with
  | .read page => Layout.userStart ≤ page ∧ page < Layout.userEnd ∧ tag.auth0 ≤ page
  | .write page _ => tag.auth0 ≤ page
  | _ => False

/-- The command was for a page that the tag protected at that moment. -/
def Transmission.AccessesProtected (sent : Transmission SimulatedTag) : Prop :=
  sent.tag.Protects sent.command

def Transmission.CarriesCommand (sent : Transmission SimulatedTag) : Prop :=
  match sent.engine.bind Engine.channel? with
  | none => sent.frame = sent.command
  | some channel => channel.sealCommand sent.command = .ok sent.frame

theorem SimulatedTag.not_protects_header (tag : SimulatedTag) :
    ¬ tag.Protects [CommandCode.read.code, 0] := by
  rintro ⟨user, _⟩
  exact absurd user (by decide)

theorem SimulatedTag.not_protects_auth0Page (tag : SimulatedTag) (family : ChipFamily) :
    ¬ tag.Protects [CommandCode.read.code, family.auth0Page] := by
  rintro ⟨_, user, _⟩
  exact absurd user (UInt8.not_lt.mpr (UInt8.le_of_lt (userEnd_lt_auth0Page family)))

private theorem Frame.IsHandshake.not_prefix_write {command data : Bytes} {page : UInt8}
    (step : Frame.IsHandshake command) :
    ¬ CommandCode.write.code :: page :: data <+: command := by
  rintro ⟨rest, rfl⟩
  obtain first | second := step
  · exact absurd (Option.some.inj first) (by decide)
  · exact absurd (Option.some.inj second) (by decide)

private theorem SimulatedTag.not_protects_handshake (tag : SimulatedTag) {command : Bytes}
    (step : Frame.IsHandshake command) : ¬ tag.Protects command := by
  unfold Protects
  split
  next means =>
    obtain rfl := TagCommand.isReadFrom means
    obtain first | second := step
    · exact absurd (Option.some.inj first) (by decide)
    · exact absurd (Option.some.inj second) (by decide)
  next means =>
    obtain rfl := (TagCommand.isReadFrom means).1
    exact absurd List.prefix_rfl step.not_prefix_write
  next => exact not_false

/-- What a session was seen to do: it works on a tag of its family, the tag has heard the frames
that it was there for, and protected pages were addressed with a complete handshake only. -/
structure Watched (family : ChipFamily) (frames : List Bytes)
    (session : Session SimulatedTag) : Prop where
  sameFamily : session.family = family
  ownFamily : session.tag.family = family
  heard : session.tag.frames =
    frames ++ (session.transcript.filter (·.tag.hears)).map (·.frame)
  carried : ∀ sent ∈ session.transcript, sent.CarriesCommand
  authenticated : ∀ sent ∈ session.transcript, sent.AccessesProtected → sent.IsAuthenticated

structure Informed (family : ChipFamily) (frames : List Bytes)
    (session : Session SimulatedTag) : Prop extends Watched family frames session where
  known : session.engine = none → ∀ auth0, session.auth0 = some auth0 → session.tag.auth0 = auth0

variable {family : ChipFamily} {frames : List Bytes} {session after : Session SimulatedTag}
  {command : Bytes} {result : Except TagError Bytes}

theorem Watched.retag (watched : Watched family frames session) {tag : SimulatedTag}
    (sameChip : tag.chip = session.tag.chip) (sameFrames : tag.frames = session.tag.frames)
    (engine : Option Engine) (auth0 : Option UInt8) (closed : Bool) :
    Watched family frames { session with
      tag := tag, engine := engine, auth0 := auth0, closed := closed } where
  sameFamily := watched.sameFamily
  ownFamily := (congrArg Chip.family sameChip).trans watched.ownFamily
  heard := sameFrames.trans watched.heard
  carried := watched.carried
  authenticated := watched.authenticated

theorem Watched.exchanged (watched : Watched family frames session)
    (allowed : session.tag.Protects command → session.isAuthenticated = true)
    (exchanged : Exchanged session command result after) : Watched family frames after where
  sameFamily := exchanged.family.trans watched.sameFamily
  ownFamily := by
    obtain ⟨sameTag, _⟩ | ⟨frame, _, tagAfter, _⟩ := exchanged.transmission
    · rw [sameTag]
      exact watched.ownFamily
    · rw [tagAfter]
      exact (congrArg Chip.family (session.tag.chip_transceive frame)).trans watched.ownFamily
  heard := by
    obtain ⟨sameTag, same⟩ | ⟨frame, _, tagAfter, grown⟩ := exchanged.transmission
    · rw [sameTag, same]
      exact watched.heard
    · rw [tagAfter, grown]
      refine (session.tag.frames_transceive frame).trans ?_
      rw [watched.heard, List.filter_append, List.map_append, ← List.append_assoc]
      cases near : session.tag.hears <;> simp [near]
  carried sent listed := by
    obtain old | ⟨frame, carries, rfl⟩ := exchanged.mem_transcript listed
    · exact watched.carried sent old
    · exact carries
  authenticated sent listed covered := by
    obtain old | ⟨frame, _, rfl⟩ := exchanged.mem_transcript listed
    · exact watched.authenticated sent old covered
    · exact isAuthenticated_iff.mp (allowed covered)

private theorem Informed.exchanged (informed : Informed family frames session)
    (allowed : session.tag.Protects command → session.isAuthenticated = true)
    (apart : ∀ page data, CommandCode.write.code :: page :: data <+: command →
      page ≠ family.auth0Page)
    (exchanged : Exchanged session command result after) : Informed family frames after where
  toWatched := informed.toWatched.exchanged allowed exchanged
  known free auth0 cached := by
    have before := exchanged.engine_eq_none.mp free
    have right := informed.known before auth0 (exchanged.auth0 ▸ cached)
    obtain ⟨sameTag, _⟩ | ⟨frame, carries, tagAfter, _⟩ := exchanged.transmission
    · rw [sameTag]
      exact right
    · have bare : frame = command := by
        simpa only [Carries, channel?, before, Option.bind_none] using carries
      rw [tagAfter, bare]
      refine (SimulatedTag.auth0_transceive fun page data within => ?_).trans right
      rw [informed.ownFamily]
      exact apart page data within

/-- The access check lets nothing through to a protected page without authentication. -/
theorem Informed.authenticated_of_admits (informed : Informed family frames session)
    {access : Access} {page : UInt8} (admits : session.Admits access page)
    (covered : access.isProtected session.tag.auth0 page = true) :
    session.isAuthenticated = true := by
  obtain authenticated | ⟨free, auth0, cached, public_⟩ := admits
  · exact authenticated
  · rw [informed.known free auth0 cached, public_] at covered
    cases covered

private theorem not_prefix_write_read {page other : UInt8} {data : Bytes} :
    ¬ CommandCode.write.code :: other :: data <+: [CommandCode.read.code, page] := by
  intro within
  exact absurd (List.cons_prefix_cons.mp within).1 (by decide)

private theorem Informed.exchange_leaves (informed : Informed family frames session)
    (allowed : session.tag.Protects command → session.isAuthenticated = true)
    (apart : ∀ page data, CommandCode.write.code :: page :: data <+: command →
      page ≠ family.auth0Page) :
    Ensures (exchange command) session (fun _ => Informed family frames)
      (fun _ => Informed family frames) :=
  Session.exchange_leaves fun _ _ exchanged => informed.exchanged allowed apart exchanged

theorem Response.block_eq_ok {response block : Bytes} (whole : Response.block response = .ok block) :
    block = response ∧ response.length = Layout.readLength := by
  unfold Response.block at whole
  obtain ⟨_, _, rest⟩ := Except.bind_eq_ok.mp whole
  by_cases sized : response.length = Layout.readLength
  · simp only [sized, ne_eq, not_true_eq_false, if_false] at rest
    cases rest
    exact ⟨rfl, sized⟩
  · simp only [ne_eq, sized, not_false_eq_true, if_true] at rest
    cases rest

private theorem Informed.readBlock_auth0Page (informed : Informed family frames session) :
    Ensures (readBlock [CommandCode.read.code, family.auth0Page]) session
      (fun block after => block.length = Layout.readLength ∧ Informed family frames after ∧
        (after.engine = none →
          (block.take Layout.pageSize).getD family.auth0Byte 0 = after.tag.auth0))
      (fun _ => Informed family frames) := by
  have kept {result : Except TagError Bytes} {after : Session SimulatedTag}
      (exchanged : Exchanged session [CommandCode.read.code, family.auth0Page] result after) :
      Informed family frames after :=
    informed.exchanged
      (fun covered => absurd covered (session.tag.not_protects_auth0Page family))
      (fun _ _ within => absurd within not_prefix_write_read) exchanged
  refine (ensures_exchange (fun response after exchanged => And.intro (kept exchanged) exchanged)
    fun _ _ exchanged => kept exchanged).bind fun response after heard => ?_
  rw [ensures_ofProtocol]
  cases whole : Response.block response with
  | error => exact heard.1
  | ok block =>
    obtain ⟨rfl, sized⟩ := Response.block_eq_ok whole
    refine ⟨sized, heard.1, fun free => ?_⟩
    obtain rfl := informed.ownFamily
    cases heard.2 with
    | opened active =>
      obtain ⟨_, held, _⟩ := channel?_eq_some.mp active
      rw [heard.2.engine_eq_none.mp free] at held
      cases held
    | plain _ answered =>
      obtain ⟨known, rfl⟩ := SimulatedTag.block_of_transceive answered sized
      rw [SimulatedTag.take_readBlock known sized, SimulatedTag.auth0_of_shownPage]
      exact (SimulatedTag.auth0_transceive fun _ _ within =>
        absurd within not_prefix_write_read).symm

private theorem Informed.auth0Page_leaves (informed : Informed family frames session) :
    Ensures auth0Page session (fun _ => Informed family frames)
      (fun _ => Informed family frames) := by
  refine ensures_bind.mpr (ensures_get.mpr ?_)
  cases cached : session.auth0 with
  | some auth0 => exact ensures_pure.mpr informed
  | none =>
    dsimp only
    rw [Frame.read_auth0Page, informed.sameFamily]
    refine informed.readBlock_auth0Page.bind fun block after found => ?_
    obtain ⟨sized, kept, right⟩ := found
    rw [Response.requestedPage_ofBytes sized]
    refine ensures_bind.mpr (ensures_ofProtocol.mpr (ensures_bind.mpr (ensures_modify.mpr ?_)))
    refine ⟨kept.toWatched.retag rfl rfl _ _ _, fun free auth0 same => ?_⟩
    exact (right free).symm.trans (Option.some.inj same)

private theorem informed_reads : Reads (Informed family frames) (Informed family frames) where
  weaken _ informed := informed
  version session informed := informed.exchange_leaves False.elim fun _ _ within =>
    absurd (List.cons_prefix_cons.mp within).1 (by decide)
  lookUp _ informed := informed.auth0Page_leaves
  uid session informed := informed.exchange_leaves
    (fun covered => absurd covered session.tag.not_protects_header)
    fun _ _ within => absurd within not_prefix_write_read
  page page session holds := holds.1.exchange_leaves
    (fun covered => holds.1.authenticated_of_admits holds.2 (by
      obtain ⟨_, user, behind⟩ := covered
      simp only [Access.isProtected, behind, user, decide_true, Bool.and_self]))
    fun _ _ within => absurd within not_prefix_write_read

private theorem protects_write {tag : SimulatedTag} {page : UInt8} {data : Bytes}
    (covered : tag.Protects (CommandCode.write.code :: page :: data)) : tag.auth0 ≤ page := by
  unfold SimulatedTag.Protects at covered
  split at covered
  next means => cases TagCommand.isReadFrom means
  next means =>
    cases (TagCommand.isReadFrom means).1
    exact covered
  next => exact covered.elim

theorem Informed.write_allowed (informed : Informed family frames session) {page : UInt8}
    {data : Bytes} (admits : session.Admits .write page)
    (covered : session.tag.Protects (CommandCode.write.code :: page :: data)) :
    session.isAuthenticated = true :=
  informed.authenticated_of_admits admits (decide_eq_true (protects_write covered))

private theorem informed_writes : Writes (Informed family frames) (Informed family frames) where
  toReads := informed_reads
  write page data apart _ session holds :=
    holds.1.exchange_leaves (holds.1.write_allowed holds.2) fun other _ within => by
      obtain ⟨_, rest⟩ := List.cons_prefix_cons.mp within
      obtain ⟨rfl, _⟩ := List.cons_prefix_cons.mp rest
      exact apart family

theorem informed_handshakes : Handshakes (Informed family frames) where
  engine _ _ informed := ⟨informed.toWatched.retag rfl rfl _ _ _, nofun⟩
  random _ _ informed := ⟨⟨informed.sameFamily, informed.ownFamily, informed.heard,
    informed.carried, informed.authenticated⟩, informed.known⟩
  step _ step session informed := informed.exchange_leaves
    (fun covered => absurd covered (session.tag.not_protects_handshake step))
    fun _ _ within => absurd within step.not_prefix_write

private theorem SimulatedTag.chip_connect (tag : SimulatedTag) : tag.connect.2.chip = tag.chip := by
  unfold connect
  split <;> rfl

theorem SimulatedTag.frames_connect (tag : SimulatedTag) :
    tag.connect.2.frames = tag.frames := by
  unfold connect
  split <;> rfl

private theorem watched_reconnect : Leads (Watched family frames) (Informed family frames)
    (Informed family frames) (reconnect (τ := SimulatedTag)) := by
  intro session watched
  have forgotten {tag : SimulatedTag} (sameChip : tag.chip = session.tag.chip)
      (sameFrames : tag.frames = session.tag.frames) : Informed family frames
        { session with tag := tag, engine := none, auth0 := none } :=
    ⟨watched.retag sameChip sameFrames none none session.closed, fun _ _ same => nomatch same⟩
  exact reconnect_leaves nofun (forgotten (NfcTag.close session.tag).2.chip_connect
    (NfcTag.close session.tag).2.frames_connect)

private theorem watched_writePage (page : UInt8) (data : Bytes) :
    Leads (Informed family frames) (Watched family frames) (Watched family frames)
      (writePage (τ := SimulatedTag) page data) :=
  informed_reads.writePage
    (fun _ _ holds => Session.exchange_leaves fun _ _ exchanged =>
      holds.1.toWatched.exchanged (holds.1.write_allowed holds.2) exchanged)
    (fun _ informed => informed.toWatched) fun _ watched => watched

private theorem informed_reads_last : Reads (Informed family frames) (Watched family frames) :=
  informed_reads.relax fun _ informed => informed.toWatched

private theorem informed_serves :
    Serves (Informed family frames) (Informed family frames) (Watched family frames) where
  toWrites := informed_writes.relax fun _ informed => informed.toWatched
  begun _ informed := informed.toWatched
  authenticate key slot cmac := (informed_handshakes.authenticate key slot cmac).weaken
    (fun _ left => left.1) fun _ informed => informed.toWatched
  setAuth0 _ := Leads.get fun session informed =>
    ((informed_reads_last.readPage _).bind fun _ => (watched_writePage _ _).bind
      fun _ _ watched => ensures_modify.mpr (watched.retag rfl rfl _ _ _)) session informed
  setCmac _ := (informed_reads_last.requireAes _).bind fun _ =>
    (informed_reads_last.readPage _).bind fun _ => watched_writePage _ _
  reconnect := watched_reconnect.onError fun _ informed => informed.toWatched

private theorem informed_diagnoses : Diagnoses (Informed family frames) (Informed family frames) where
  weaken _ informed := informed
  version := informed_reads.getVersion
  authenticate := informed_handshakes.authenticate
  lookUp session holds := informed_reads.lookUp session holds.1
  cmac := informed_reads.cmacRequired
  uid := informed_reads.readUid
  reconnect session informed := watched_reconnect session informed.toWatched

private theorem watched_execute (request : ScanRequest) : Leads (Informed family frames)
    (Watched family frames) (Watched family frames) (execute (τ := SimulatedTag) request) := by
  by_cases diagnosed : ∃ key0 key1, request = .test key0 key1
  · obtain ⟨key0, key1, rfl⟩ := diagnosed
    exact (informed_diagnoses.execute key0 key1).weaken (fun _ informed => informed.toWatched)
      fun _ informed => informed.toWatched
  · exact informed_serves.execute (fun key0 key1 request => diagnosed ⟨key0, key1, request⟩)
      fun _ _ informed => informed

private theorem watched_close : Keeps (Watched family frames) (Watched family frames)
    (close (τ := SimulatedTag)) := by
  refine Leads.get fun session watched => ?_
  split
  · exact watched
  · have closes : (NfcTag.close session.tag).1 = .ok () := rfl
    simp only [closeTag, ensures_bind, ensures_modify, ensures_get, ensures_set,
      ensures_ofHardware, closes]
    have sameChip : (NfcTag.close session.tag).2.chip = session.tag.chip := rfl
    exact watched.retag sameChip rfl none session.auth0 true

theorem openOn_informed {tag : SimulatedTag} {random : RandomSource}
    (own : tag.family = family) (opened : Session.openOn tag family random = .ok session) :
    Informed family tag.frames session := by
  unfold Session.openOn at opened
  split at opened
  · cases opened
  next after connected =>
    cases opened
    have sameTag : after = tag.connect.2 := (congrArg Prod.snd connected).symm
    have sameFrames : after.frames = tag.frames := sameTag ▸ tag.frames_connect
    have sameChip : after.chip = tag.chip := sameTag ▸ tag.chip_connect
    refine ⟨⟨rfl, (congrArg Chip.family sameChip).trans own, ?_, ?_, ?_⟩, ?_⟩
    · exact sameFrames.trans (List.append_nil _).symm
    · exact fun _ listed => nomatch listed
    · exact fun _ listed => nomatch listed
    · exact fun _ _ same => nomatch same

private theorem Presence.watched {broker : Broker} {tag : SimulatedTag} {random : RandomSource}
    {served : Served SimulatedTag} (presence : Presence broker tag random served)
    (own : Technology.family? tag.technologies = some tag.family) :
    served.tag.frames =
        tag.frames ++ (served.transcript.filter (·.tag.hears)).map (·.frame) ∧
      ∀ sent ∈ served.transcript, sent.CarriesCommand ∧
        (sent.AccessesProtected → sent.IsAuthenticated) := by
  have quiet : (probe tag).frames = tag.frames ++ [] :=
    tag.frames_connect.trans (List.append_nil _).symm
  cases presence with
  | untouched => exact ⟨(List.append_nil _).symm, fun _ listed => nomatch listed⟩
  | probed => exact ⟨quiet, fun _ listed => nomatch listed⟩
  | @served family scan _ known taken by_ =>
    cases by_ with
    | unconnected => exact ⟨quiet, fun _ listed => nomatch listed⟩
    | @executed session opened =>
      have same : tag.family = family := Option.some.inj (own.symm.trans known)
      have watched := (watched_execute scan.request session (openOn_informed same opened)).after
      have left := (watched_close _ watched).after
      exact ⟨left.heard, fun sent listed =>
        ⟨left.carried sent listed, left.authenticated sent listed⟩⟩

/-- A tag that is served as its own family hears what the session sends, and a command for a page
that it protects at that moment is sent by an authenticated session only. -/
theorem protected_access_is_authenticated (broker : Broker) (tag : SimulatedTag)
    (random : RandomSource) (own : Technology.family? tag.technologies = some tag.family) :
    let served := (broker.handleTag tag random).2
    served.tag.frames =
        tag.frames ++ (served.transcript.filter (·.tag.hears)).map (·.frame) ∧
      ∀ sent ∈ served.transcript, sent.CarriesCommand ∧
        (sent.AccessesProtected → sent.IsAuthenticated) :=
  (handleTag_presence broker tag random).watched own

/-- Without a key a request to write behind AUTH0 gets no further than to look AUTH0 up. -/
theorem keyless_write_stops_at_auth0 :
    let tag := (SimulatedTag.ultralight [0x04, 0x11, 0x22, 0x33, 0x44, 0x55, 0x66]).withAuth0 0x10
    let broker := (Broker.new.poll (.created (.write 0x20 [1, 2, 3, 4] none false))).2
    let served := (broker.handleTag tag ⟨fun _ => 0, 0⟩).2
    Technology.family? tag.technologies = some tag.family ∧
      served.transcript.map (·.command) = [[0x30, 0x2A]] ∧ served.tag.frames = [[0x30, 0x2A]] ∧
      ∀ sent ∈ served.transcript, sent.AccessesProtected → sent.IsAuthenticated := by
  refine ⟨rfl, by decide +kernel, by decide +kernel, fun sent listed => ?_⟩
  exact ((protected_access_is_authenticated _ _ _ rfl).2 sent listed).2

end Wristband
