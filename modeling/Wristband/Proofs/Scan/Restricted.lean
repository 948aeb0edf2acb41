import Wristband.Proofs.Scan.Closing
import Wristband.Proofs.Session.Recognised
import Wristband.Proofs.Session.Vouched
import Wristband.Scan.Policy

/-! What a restricted policy leads to. It has a key, so each of its requests either gets along without
the memory or carries a key, and a request that carries a key begins every connection with a
handshake. -/

namespace Wristband

namespace ScanPolicy

inductive Builds (policy : ScanPolicy) : ScanRequest → Prop where
  | fastRead : Builds policy policy.fastRead
  | read (page : UInt8) : Builds policy (policy.read page)
  | write (page : UInt8) (data : Bytes) : Builds policy (policy.write page data)
  | protect (enable : Bool) : Builds policy (policy.protect enable)
  | switchCmac (enable : Bool) : Builds policy (policy.switchCmac enable)
  | rekey (newKey : AuthKey) : Builds policy (policy.rekey newKey)
  | test {request : ScanRequest} (made : policy.test = .ok request) : Builds policy request

variable {policy : ScanPolicy} {text : String} {request : ScanRequest}

private theorem key_of_ofJson (loaded : ofJson text = .ok policy) (restricted : policy.restricted = true) :
    ∃ key, policy.dataProtectionKey = some key := by
  unfold ofJson at loaded
  split at loaded
  · cases loaded
  · unfold check at loaded
    split at loaded
    · cases loaded
    next keyed =>
      cases loaded
      exact Option.ne_none_iff_exists'.mp fun none_ => keyed ⟨restricted, none_⟩

/-- A policy with a key puts a key into every request that has use for one. -/
theorem Builds.not_isKeyless {key : AuthKey} (keyed : policy.dataProtectionKey = some key)
    (built : policy.Builds request) : ¬ request.IsKeyless := by
  intro keyless
  cases built with
  | fastRead => exact keyless
  | read page =>
    have keys : policy.readKeys = key :: policy.fallbackKeys := by
      rw [readKeys, keyed]
      rfl
    rw [ScanPolicy.read, keys] at keyless
    cases fallback : policy.fallbackKeys <;> rw [fallback] at keyless <;> exact keyless
  | write | protect | switchCmac | rekey =>
    simp only [ScanPolicy.write, ScanPolicy.protect, ScanPolicy.switchCmac, ScanPolicy.rekey,
      keyed] at keyless
    exact keyless
  | test made =>
    unfold ScanPolicy.test at made
    split at made <;> cases made
    exact keyless

end ScanPolicy

namespace Scan

open Session

variable {request : ScanRequest}

private theorem handshake_serves : Serves HandshakesFirst
    (fun session => session.HandshakesFirst ∧ session.IsVouched) HandshakesFirst where
  toWrites := vouched_outlasts.endures.writes.relax fun _ holds => holds.1
  begun _ first := first
  authenticate key slot cmac session first :=
    ((handshakesFirst_handshakes.authenticate key slot cmac session first).and
      (authenticate_vouched key slot cmac)).weaken (fun _ _ left => ⟨left.1.1, left.2⟩)
        fun _ _ left => left.1
  setAuth0 page := (vouched_outlasts.endures.setAuth0 page).weaken (fun _ left => left.1)
    fun _ left => left.1
  setCmac enabled := (vouched_outlasts.endures.setCmac enabled).weaken (fun _ left => left.1)
    fun _ left => left.1
  reconnect := reconnect_keeps handshakesFirst_ofTranscript

private theorem handshake_diagnoses : Diagnoses HandshakesFirst
    (fun session => session.HandshakesFirst ∧ session.IsVouched) where
  weaken _ holds := holds.1
  version _ first := (exchange_leaves fun _ _ exchanged =>
    first.exchanged (fun access => absurd access (by rintro (⟨⟨⟩⟩ | ⟨⟨⟩⟩))) exchanged).bind
      fun _ => Leads.ofProtocol fun _ left => left
  authenticate key slot cmac session first :=
    ((handshakesFirst_handshakes.authenticate key slot cmac session first).and
      (authenticate_vouched key slot cmac)).weaken (fun _ _ left => ⟨⟨left.1.1, left.2⟩, left.1.2⟩)
        fun _ _ left => left.1
  lookUp session holds := vouched_outlasts.endures.reads.lookUp session holds.1
  cmac := vouched_outlasts.endures.reads.cmacRequired
  uid := vouched_outlasts.endures.reads.readUid
  reconnect := reconnect_keeps handshakesFirst_ofTranscript

private theorem execute_handshakesFirst (keyed : ¬ request.IsKeyless) :
    Keeps HandshakesFirst HandshakesFirst (execute request) := by
  by_cases diagnosed : ∃ key0 key1, request = .test key0 key1
  · obtain ⟨key0, key1, rfl⟩ := diagnosed
    exact handshake_diagnoses.execute key0 key1
  · exact handshake_serves.execute (fun key0 key1 same => diagnosed ⟨key0, key1, same⟩)
      fun keyless => absurd keyless keyed

end Scan

open Session

private theorem serve_handshakesFirst {request : ScanRequest} (keyed : ¬ request.IsKeyless)
    (tag : SimulatedTag) (family : ChipFamily) (random : RandomSource) :
    ∀ before sent, before ++ [sent] <+: (serve tag family random request).2.transcript →
      Frame.AccessesMemory sent.command → VouchedFor sent.tag.connects before := by
  unfold serve
  cases opens : openOn tag family random with
  | error =>
    intro before sent starts
    have short := starts.length_le
    rw [List.length_append] at short
    cases short
  | ok session =>
    have fresh : session.HandshakesFirst := by
      intro before sent starts
      rw [(openOn_fresh opens).2] at starts
      have short := starts.length_le
      rw [List.length_append] at short
      cases short
    have executed := (Scan.execute_handshakesFirst keyed session fresh).after
    exact (close_keeps handshakesFirst_ofTranscript _ executed).after

/-- Whatever a restricted policy asks of a tag, a READ or a WRITE goes out only after a handshake has
convinced both sides on the same connection. -/
theorem restricted_policy_handshakes_before_access {text : String} {policy : ScanPolicy}
    (loaded : ScanPolicy.ofJson text = .ok policy) (restricted : policy.restricted = true)
    {request : ScanRequest} (built : policy.Builds request) (tag : SimulatedTag)
    (family : ChipFamily) (random : RandomSource) :
    ∀ before sent, before ++ [sent] <+: (serve tag family random request).2.transcript →
      Frame.AccessesMemory sent.command →
        ∃ earlier ∈ before, earlier.tag.connects = sent.tag.connects ∧
          earlier.CompletesHandshake := by
  obtain ⟨key, keyed⟩ := ScanPolicy.key_of_ofJson loaded restricted
  exact serve_handshakesFirst (built.not_isKeyless keyed) tag family random

namespace Session

variable {session after : Session SimulatedTag} {command : Bytes}

def Sent (command : Bytes) (session : Session SimulatedTag) : Prop :=
  ∃ sent ∈ session.transcript, sent.command = command

private theorem persists_sent (command : Bytes) : Persists (Sent command) where
  exchange _ _ gone := exchange_leaves fun _ _ exchanged =>
    gone.imp fun _ found => ⟨exchanged.transcript_prefix.subset found.1, found.2⟩
  engine _ _ gone := gone
  learn _ _ gone := gone
  random _ _ gone := gone
  reconnect := reconnect_keeps fun _ _ same gone =>
    gone.imp fun _ found => ⟨same ▸ found.1, found.2⟩

private theorem Exchanged.sent {response : Bytes}
    (exchanged : Exchanged session command (.ok response) after) : after.Sent command := by
  cases exchanged with
  | plain | opened => exact ⟨_, List.mem_append_right _ (List.mem_singleton_self _), rfl⟩

private theorem Converses.readFrom_sent {image : SimulatedTag} {spent : Nat}
    (converses : session.Converses image true spent) (room : spent < 65535) (whole : image.IsWhole)
    (page : UInt8) :
    Ensures (Scan.readFrom page) session (fun _ => Sent [CommandCode.read.code, 0])
      (fun _ => Sent [CommandCode.read.code, 0]) := by
  have persists := persists_sent [CommandCode.read.code, 0]
  have known : (0 : UInt8) < image.family.pageCount :=
    UInt8.lt_trans (by decide) (userEnd_lt_pageCount image.family)
  have answered := converses.readBlock whole room known (.inl rfl)
  have asked : Ensures (Session.readBlock [CommandCode.read.code, 0]) session
      (fun _ => Sent [CommandCode.read.code, 0]) (fun _ _ => True) := by
    refine ((exchange_exchanged session _).weaken (fun _ _ exchanged => exchanged.sent)
      fun _ _ _ => trivial).bind fun _ _ gone => ensures_ofProtocol.mpr ?_
    split
    · exact gone
    · trivial
  have reads := persists.endures.reads
  have identified : Ensures Session.readUid session (fun _ => Sent [CommandCode.read.code, 0])
      (fun _ => Sent [CommandCode.read.code, 0]) := by
    refine ensures_bind.mpr (ensures_get.mpr ?_)
    rw [Frame.read_header]
    refine (asked.and answered).onError (fun _ _ never => never.2.elim) |>.bind
      fun _ _ left => ensures_ofProtocol.mpr ?_
    split <;> exact left.1
  exact identified.bind fun _ after gone =>
    (reads.isProtected after gone).bind fun _ final left =>
      (reads.readUserMemory page final left).bind fun _ _ kept => kept

end Session

/-- What goes out while a request is executed is in the transcript of what is served. -/
theorem serve_sent {tag : SimulatedTag} {random : RandomSource} {request : ScanRequest}
    {command : Bytes} (present : tag.lost = false)
    (sends : Ensures (Scan.execute request) (opened tag tag.family random)
      (fun _ => Sent command) (fun _ => Sent command)) :
    ∃ before sent, before ++ [sent] <+: (serve tag tag.family random request).2.transcript ∧
      sent.command = command := by
  obtain ⟨sent, listed, same⟩ := sends.after
  rw [serve_opened (openOn_eq_opened present tag.family random)]
  obtain ⟨before, behind, split⟩ := List.append_of_mem listed
  exact ⟨before, sent, ⟨behind, by rw [List.append_assoc]; exact split.symm⟩, same⟩

/-- A policy that is restricted has a key, and a read with it asks for the identifier only after the
handshake. -/
theorem restricted_policy_reads_after_handshake :
    let text := "\x7b\"restricted\": true, " ++
      "\"data_protection_key\": \"00000000000000000000000000000000\"\x7d"
    let policy : ScanPolicy := ⟨some zeroKey, none, [], true, true⟩
    let transcript := (serve zeroKeyTag zeroKeyTag.family ⟨fun _ => 0, 0⟩
      (policy.read 0x04)).2.transcript
    ScanPolicy.ofJson text = .ok policy ∧
      ∃ before sent, before ++ [sent] <+: transcript ∧ sent.command = [CommandCode.read.code, 0] ∧
        ∃ earlier ∈ before, earlier.tag.connects = sent.tag.connects ∧
          earlier.CompletesHandshake := by
  intro text policy transcript
  have read : (ScanPolicy.ofJson text).toOption = some policy := by decide +kernel
  have loaded : ScanPolicy.ofJson text = .ok policy := by
    cases loads : ScanPolicy.ofJson text with
    | error =>
      rw [loads] at read
      cases read
    | ok other =>
      rw [loads] at read
      exact congrArg _ (Option.some.inj read)
  have whole : zeroKeyTag.IsWhole := (SimulatedTag.isWhole_ultralightAes _ _).withCmac true
  have asks : zeroKeyTag.cmacEnabled = true := by decide +kernel
  have executed : Ensures (Scan.execute (policy.read 0x04))
      (opened zeroKeyTag zeroKeyTag.family ⟨fun _ => 0, 0⟩)
      (fun _ => Sent [CommandCode.read.code, 0]) (fun _ => Sent [CommandCode.read.code, 0]) := by
    refine ensures_bind.mpr (ensures_get.mpr (ensures_bind.mpr (ensures_ofData.mpr ?_)))
    refine ((opened_isFresh rfl rfl _).held_converses holds_zeroKey fun _ => asks.symm).total.bind ?_
    intro _ after converses
    exact converses.readFrom_sent (by decide) whole 0x04
  obtain ⟨before, sent, starts, command⟩ := serve_sent rfl executed
  have access : Frame.AccessesMemory sent.command := by
    rw [command]
    exact .inl rfl
  exact ⟨loaded, before, sent, starts, command,
    restricted_policy_handshakes_before_access loaded rfl (.read 0x04) zeroKeyTag
      zeroKeyTag.family _ before sent starts access⟩

end Wristband
