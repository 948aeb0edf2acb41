import Wristband.Proofs.Scan.Corrupted
import Wristband.Proofs.Scan.Reads

/-! Requests with a key and codes, on a tag that spoils one of its responses. There are such responses:
whatever is read with the key of a tag that uses codes comes with one. -/

namespace Wristband

namespace Session

variable {session : Session SimulatedTag} {command : Bytes}

private theorem persists_count (least : Nat) :
    Persists fun session : Session SimulatedTag => least ≤ session.tag.sealedResponses where
  exchange command session enough := exchange_leaves fun _ after exchanged => by
    obtain ⟨sameTag, _⟩ | ⟨frame, _, sameTag, _⟩ := exchanged.transmission
    · rw [sameTag]
      exact enough
    · rw [sameTag]
      exact Nat.le_trans enough (session.tag.sealedResponses_transceive frame)
  engine _ _ enough := enough
  learn _ _ enough := enough
  random _ _ enough := enough
  reconnect session enough := by
    refine reconnect_leaves nofun ?_
    change least ≤ session.tag.close.2.connect.2.sealedResponses
    unfold SimulatedTag.connect
    split <;> exact enough

private theorem exchange_counts {channel : SecureChannel} (ready : session.tag.Ready)
    (active : session.channel? = some channel) (alike : session.tag.channel? = some channel)
    (sized : channel.sessionKey.length = 16) (request : Frame.IsRequest command) :
    Ensures (exchange command) session
      (fun _ after => session.tag.sealedResponses < after.tag.sealedResponses)
      (fun _ _ => True) := by
  refine ensures_exchange (fun payload after exchanged => ?_) fun _ _ _ => trivial
  cases exchanged with
  | plain open_ =>
    rw [open_] at active
    cases active
  | @opened _ _ frame response _ active_ carries heard genuine =>
    obtain rfl := Option.some.inj (active.symm.trans active_)
    have fresh : channel.counter ≠ SecureChannel.lastCounter := by
      intro last
      rw [SecureChannel.sealCommand_exhausted last] at carries
      cases carries
    obtain rfl := SecureChannel.sealCommand_eq_ok carries
    have coded := ready.answers_coded alike fresh sized request 0
    generalize command ++ channel.code channel.counter command = frame at coded heard ⊢
    change (session.tag.transceive frame).1 = _ at heard
    change _ < (session.tag.transceive frame).2.sealedResponses
    generalize session.tag.transceive frame = own,
      (session.tag.withFaults (.spoiling 0)).transceive frame = other at coded heard ⊢
    cases coded with
    | refused =>
      cases heard
      exact absurd (SecureChannel.openResponse_eq_ok genuine).1 (by decide : ¬ 8 ≤ 1)
    | answered count | spoilt count => exact Nat.lt_of_lt_of_eq (Nat.lt_succ_self _) count.symm

private theorem readUid_counts {channel : SecureChannel} (ready : session.tag.Ready)
    (active : session.channel? = some channel) (alike : session.tag.channel? = some channel)
    (sized : channel.sessionKey.length = 16) :
    Ensures readUid session
      (fun _ after => session.tag.sealedResponses < after.tag.sealedResponses)
      (fun _ _ => True) := by
  refine ensures_bind.mpr (ensures_get.mpr ?_)
  rw [Frame.read_header]
  refine ensures_bind.mpr (ensures_ofProtocol.mpr (ensures_bind.mpr (ensures_bind.mpr ?_)))
  refine (exchange_counts ready active alike sized (Frame.isRequest_read 0)).onValue
    fun block after more => ?_
  refine ensures_ofProtocol.mpr ?_
  cases Response.block block with
  | error => trivial
  | ok content =>
    refine ensures_ofProtocol.mpr ?_
    cases Response.uid content with
    | error => trivial
    | ok => exact more

end Session

/-- What is served of a request that a spoilt code ends, next to the whole of it. -/
structure EndedBySpoiltCode (tag : SimulatedTag) (response : Nat)
    (whole ended : ScanResult × Served SimulatedTag) : Prop where
  result : ended.1 = .fail ⟨.auth, "CMAC verification failed"⟩
  last : ∃ sent ∈ whole.2.transcript, sent.tag.sealedResponses + 1 = response ∧
    (sent.tag.transceive sent.frame).2.sealedResponses = response ∧
    ended.2.tag.frames = sent.tag.frames ++ [sent.frame] ∧
    ended.2.tag.memory = (sent.tag.transceive sent.frame).2.memory
  frames : ended.2.tag.frames <+: whole.2.tag.frames
  connects : ended.2.tag.connects = tag.connects + 1
  closes : ended.2.tag.closes = tag.closes + 1
  disconnected : ended.2.tag.connected = false

open Session

variable {tag : SimulatedTag} {request : ScanRequest} {response : Nat} {key : AuthKey}

private theorem ScanRequest.stopsAtErrors_of_credentials {credentials : AuthKey × Bool}
    (asks : request.credentials = some credentials) : request.StopsAtErrors := by
  cases request with
  | readMultiKey | test => cases asks
  | _ => trivial

private theorem serve_spoilt (faultless : tag.faults = .none) (coded : tag.cmacEnabled = true)
    (held : tag.Holds key .dataProtection) (asks : request.credentials = some (key, true))
    (early : tag.sealedResponses < response) (random : RandomSource) :
    let whole := serve tag tag.family random request
    let ended := serve (tag.withFaults (.spoiling response)) tag.family random request
    whole.2.tag.sealedResponses < response ∧ ended.1 = whole.1 ∧
        ended.2.tag = whole.2.tag.withFaults (.spoiling response) ∨
      response ≤ whole.2.tag.sealedResponses ∧ EndedBySpoiltCode tag response whole ended := by
  dsimp only
  cases lost : tag.lost with
  | true =>
    have lost' : (tag.withFaults (.spoiling response)).lost = true := lost
    rw [serve_absent lost, serve_absent lost']
    exact .inl ⟨early, rfl, rfl⟩
  | false =>
    have mirrors : Mirrors (·.withFaults (.spoiling response)) (PartedAt (SpoiltAt tag response))
        (· = opened tag tag.family random) (Awaits tag response) (Awaits tag response)
        (Scan.execute request) (Scan.execute request) := by
      refine Scan.mirrors_execute reflects_shared (fun _ => rfl)
        (ScanRequest.stopsAtErrors_of_credentials asks) ?_ fun named codes asked => ?_
      · rintro _ rfl
        exact ⟨early, rfl, rfl⟩
      · rw [asks] at asked
        cases named with
        | none => cases asked
        | some named =>
          cases asked
          exact mirrors_held lost faultless coded held early random
    obtain ⟨after, awaits, left, result, same⟩ | ⟨error, rest, parted, result, left⟩ :=
      serve_mirrored mirrors lost rfl
    · exact .inl ⟨left ▸ awaits.fewer, result, same⟩
    · obtain ⟨⟨sent, listed, spoilt, last⟩, begun, counted⟩ := parted
      have count : rest.sealedResponses = response := by
        rw [spoilt.left]
        exact spoilt.counted
      refine .inr ⟨count ▸ counted, ?_⟩
      constructor
      · rw [result, spoilt.error]
        rfl
      · refine ⟨sent, listed, spoilt.before, spoilt.counted, ?_, ?_⟩
        · rw [left]
          exact last
        · rw [left, spoilt.left]
          rfl
      · rw [left]
        exact begun
      · rw [left]
        exact spoilt.connects
      · rw [left]
        exact congrArg (· + 1) spoilt.closes
      · rw [left]
        rfl

/-- Whichever response comes with a spoilt code: if the request needs fewer responses, nothing is
different. Otherwise the caller is told about the code, the command that was answered is the last one
that is sent, and what the tag did for it is the last thing that it did. -/
theorem spoilt_code_ends_request (tag : SimulatedTag) (random : RandomSource)
    (request : ScanRequest) (key : AuthKey) (response : Nat) (faultless : tag.faults = .none)
    (coded : tag.cmacEnabled = true) (held : tag.Holds key .dataProtection)
    (asks : request.credentials = some (key, true)) (early : tag.sealedResponses < response) :
    let spoiling := tag.withFaults (.spoiling response)
    let whole := serve tag tag.family random request
    let ended := serve spoiling spoiling.family random request
    (whole.2.tag.sealedResponses < response → ended.1 = whole.1 ∧
        ended.2.tag.frames = whole.2.tag.frames ∧ ended.2.tag.memory = whole.2.tag.memory) ∧
      (response ≤ whole.2.tag.sealedResponses → EndedBySpoiltCode tag response whole ended) := by
  intro spoiling whole ended
  obtain ⟨fewer, result, same⟩ | ⟨enough, ended⟩ :=
    serve_spoilt faultless coded held asks early random
  · refine ⟨fun _ => ⟨result, ?_, ?_⟩, fun enough => absurd fewer (Nat.not_lt.mpr enough)⟩
    · exact (congrArg SimulatedTag.frames same).trans rfl
    · exact (congrArg SimulatedTag.memory same).trans rfl
  · exact ⟨fun fewer => absurd fewer (Nat.not_lt.mpr enough), fun _ => ended⟩

/-- What is read with the key of a tag that uses codes comes with codes. -/
theorem read_is_coded (present : tag.lost = false) (faultless : tag.faults = .none)
    (whole : tag.IsWhole) (valid : tag.HasValidUid) (coded : tag.cmacEnabled = true)
    (held : tag.Holds key .dataProtection) (random : RandomSource) {page : UInt8}
    (first : Layout.userStart ≤ page) (last : page < Layout.userEnd) :
    tag.sealedResponses <
      (serve tag tag.family random (.read page (some key) true)).2.tag.sealedResponses := by
  obtain ⟨final, ran, recognised, asked, _, shared⟩ :=
    opened_held present faultless random held true
  have converses := recognised.converses (shared rfl coded)
  rw [SimulatedTag.family, SimulatedTag.chip_of_cmacEnabled coded] at asked
  obtain ⟨channel, active⟩ := Option.isSome_iff_exists.mp asked
  have early : tag.sealedResponses ≤ final.tag.sealedResponses := by
    have kept := (persists_count tag.sealedResponses).withstands.handshakes.authenticate key .dataProtection
      true (opened tag tag.family random) (Nat.le_refl _)
    exact ((ensures_of_ok ran).mp kept).1
  have later := persists_count (tag.sealedResponses + 1)
  have counted := readUid_counts recognised.ready active ((shared rfl coded).trans active)
    (recognised.sized channel active)
  have identified : Ensures readUid final
      (fun _ after => tag.sealedResponses < after.tag.sealedResponses) (fun _ _ => False) :=
    ((converses.readUid whole valid (by decide)).and counted).weaken
      (fun _ _ both => Nat.lt_of_le_of_lt early both.2) fun _ _ both => Bool.noConfusion both.1.1
  have reads : Ensures (Scan.execute (.read page (some key) true)) (opened tag tag.family random)
      (fun _ after => tag.sealedResponses < after.tag.sealedResponses)
      (fun _ after => tag.sealedResponses < after.tag.sealedResponses) := by
    refine ensures_bind.mpr (ensures_get.mpr (ensures_bind.mpr (ensures_ofData.mpr ?_)))
    obtain ⟨count, fits⟩ := userRange_ok first last
    rw [fits]
    have authenticated : Ensures (Scan.authenticateWith (some key) true)
        (opened tag tag.family random) (fun _ after => after = final) (fun _ _ => False) :=
      (ensures_of_ok (show (Scan.authenticateWith (some key) true).run _ = _ from ran)).mpr rfl
    refine authenticated.total.bind ?_
    rintro _ _ rfl
    exact identified.total.bind fun _ => later.endures.reads.isProtected.bind fun _ =>
      (later.endures.reads.readUserMemory page).bind fun _ => Leads.pure fun _ kept => kept
  rw [serve_opened (openOn_eq_opened present tag.family random)]
  exact reads.after

/-- A tag that spoils the first response ends a read with the frame that asks for the identifier. -/
theorem spoilt_code_ends_first_read :
    let spoiling := zeroKeyTag.withFaults (.spoiling 1)
    zeroKeyTag.Holds zeroKey .dataProtection ∧ zeroKeyTag.cmacEnabled = true ∧
      (serve spoiling spoiling.family ⟨fun _ => 0, 0⟩ (.read 0x04 (some zeroKey) true)).1 =
        .fail ⟨.auth, "CMAC verification failed"⟩ := by
  intro spoiling
  have whole : zeroKeyTag.IsWhole := (SimulatedTag.isWhole_ultralightAes _ _).withCmac true
  have valid : zeroKeyTag.HasValidUid := by
    unfold SimulatedTag.HasValidUid
    decide +kernel
  have coded : zeroKeyTag.cmacEnabled = true := by decide +kernel
  have counted := read_is_coded rfl rfl whole valid coded holds_zeroKey ⟨fun _ => 0, 0⟩
    (by decide : Layout.userStart ≤ 0x04) (by decide)
  exact ⟨holds_zeroKey, coded, ((spoilt_code_ends_request zeroKeyTag ⟨fun _ => 0, 0⟩
    (.read 0x04 (some zeroKey) true) zeroKey 1 rfl coded holds_zeroKey rfl Nat.one_pos).2
    counted).result⟩

end Wristband
