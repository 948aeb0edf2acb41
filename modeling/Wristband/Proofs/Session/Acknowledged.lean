import Wristband.Proofs.Session.Conversation

/-! Writing to a tag without faults. If the tag and the session agree on the channel that they use,
or if one of them uses none, then a WRITE that is carried out is acknowledged, so an operation that
fails at its only WRITE has changed nothing. -/

namespace Wristband

namespace SimulatedTag

variable {tag : SimulatedTag} {result : Except HardwareError Bytes × SimulatedTag}

private theorem write_of_refused {page : UInt8} {data : Bytes}
    (refusal : (tag.write page data).1 = refused) : (tag.write page data).2 = tag := by
  unfold write at refusal ⊢
  split
  · rfl
  next inside =>
    rw [if_neg inside] at refusal
    split
    · rfl
    next allowed =>
      rw [if_neg allowed] at refusal
      cases refusal

private theorem faults_transceive (tag : SimulatedTag) (frame : Bytes) :
    (tag.transceive frame).2.faults = tag.faults := by
  cases near : tag.hears with
  | false =>
    obtain ⟨_, unheard⟩ := transceive_unheard near frame
    rw [unheard]
  | true =>
    obtain left | silent | answered := transceive_heard near frame
    · rw [left]
      rfl
    · rw [silent]
      rfl
    · rw [answered, (answerFrame_evolves frame).1.faults]
      rfl

private theorem Heard.channel?_of_lost {error : HardwareError} (heard : tag.Heard result)
    (lost : result.1 = .error error) : result.2.channel? = tag.channel? := by
  cases heard with
  | silent same => exact channel?_congr same
  | refused | plain | counted => cases lost

private theorem Heard.channel?_of_long {response : Bytes} (heard : tag.Heard result)
    (received : result.1 = .ok response) (long : 1 < response.length) :
    result.2.channel? = tag.channel?.map SecureChannel.advanced := by
  cases heard with
  | silent => cases received
  | refused =>
    cases received
    exact absurd long (Nat.lt_irrefl 1)
  | plain open_ same => rw [channel?_congr same, open_, Option.map_none]
  | counted active advanced => rw [active, channel?, advanced, Option.map_some]

variable {page : UInt8} {data : Bytes} {channel : SecureChannel}

private theorem write_acknowledged_or_spared (tag : SimulatedTag) (page : UInt8)
    (sized : data.length = Layout.pageSize) :
    (tag.execute (CommandCode.write.code :: page :: data)).1 = .data [Layout.ack] ∨
      (tag.execute (CommandCode.write.code :: page :: data)).1 = refused ∧
        (tag.execute (CommandCode.write.code :: page :: data)).2 = tag := by
  obtain nak | ⟨payload, answered⟩ := tag.execute_reply (CommandCode.write.code :: page :: data)
  · rw [tag.execute_write page sized] at nak ⊢
    exact .inr ⟨nak, write_of_refused nak⟩
  · rw [tag.execute_write page sized] at answered ⊢
    exact .inl (congrArg Prod.fst (write_eq_data answered))

private theorem Ready.takes_bare_write (ready : tag.Ready) (page : UInt8)
    (sized : data.length = Layout.pageSize) :
    (tag.transceive (CommandCode.write.code :: page :: data)).2.memory = tag.memory ∨
      ∃ after, tag.transceive (CommandCode.write.code :: page :: data) =
        (.ok [Layout.ack], after) := by
  have access : Frame.IsAccess (CommandCode.write.code :: page :: data) := .write page sized
  cases active : tag.channel? with
  | some channel =>
    have activeHeard : (tag.heard (CommandCode.write.code :: page :: data)).channel? =
        some channel := active
    refine .inl ?_
    rw [transceive_faultless ready.near ready.faultless, answerFrame_short activeHeard access.short]
    rfl
  | none =>
    obtain data_ | ⟨nak, same⟩ :=
      (tag.heard (CommandCode.write.code :: page :: data)).write_acknowledged_or_spared page sized
    · obtain ⟨after, answered, _⟩ :=
        ready.answers_plain active (Frame.isRequest_write page data) data_
      exact .inr ⟨after, answered⟩
    · refine .inl ?_
      rw [ready.transceive_plain active, answerCommand_refused nak, same]
      rfl

private theorem Ready.takes_coded_write (ready : tag.Ready)
    (fresh : channel.counter ≠ SecureChannel.lastCounter) (long : channel.sessionKey.length = 16)
    (one : ∀ theirs, tag.channel? = some theirs → channel = theirs) (page : UInt8)
    (sized : data.length = Layout.pageSize) {frame : Bytes}
    (sealed_ : channel.sealCommand (CommandCode.write.code :: page :: data) = .ok frame) :
    (tag.transceive frame).2.memory = tag.memory ∨
      ∃ after, tag.transceive frame =
        (.ok ([Layout.ack] ++ channel.code (channel.counter + 1) [Layout.ack]), after) := by
  have access : Frame.IsAccess (CommandCode.write.code :: page :: data) := .write page sized
  have coded := SecureChannel.sealCommand_eq_ok sealed_
  cases active : tag.channel? with
  | none =>
    have closed : (tag.heard frame).channel? = none := active
    refine .inl ?_
    rw [transceive_faultless ready.near ready.faultless, coded,
      answerFrame_unasked (coded ▸ closed) access.known (SecureChannel.length_code long _ _)]
    rfl
  | some theirs =>
    obtain rfl := one theirs active
    have activeHeard : (tag.heard frame).channel? = some channel := active
    obtain data_ | ⟨nak, same⟩ := (tag.heard frame).write_acknowledged_or_spared page sized
    · obtain ⟨after, answered, _⟩ := ready.answers_sealed active fresh long
        (Frame.isRequest_write page data) coded data_
      exact .inr ⟨after, answered⟩
    · have opens : channel.openCommand frame = .ok (CommandCode.write.code :: page :: data) := by
        rw [coded]
        exact SecureChannel.openCommand_ok fresh long _
      refine .inl ?_
      rw [transceive_faultless ready.near ready.faultless, answerFrame, activeHeard]
      dsimp only
      rw [opens]
      dsimp only
      rw [answerCommand_refused nak, same]
      rfl

end SimulatedTag

/-- Two properties that each survive the operations that only read survive them together. -/
theorem Session.Reads.and {τ : Type} [NfcTag τ] {during during' afterwards afterwards' : Session τ → Prop}
    (first : Reads during afterwards) (second : Reads during' afterwards') :
    Reads (fun session => during session ∧ during' session)
      (fun session => afterwards session ∧ afterwards' session) where
  weaken session holds := ⟨first.weaken session holds.1, second.weaken session holds.2⟩
  version session holds := (first.version session holds.1).and (second.version session holds.2)
  lookUp session holds := (first.lookUp session holds.1).and (second.lookUp session holds.2)
  uid session holds := (first.uid session holds.1).and (second.uid session holds.2)
  page page session holds := (first.page page session ⟨holds.1.1, holds.2⟩).and
    (second.page page session ⟨holds.1.2, holds.2⟩)

namespace Session

variable {image : SimulatedTag} {session after : Session SimulatedTag}

/-- If the session and its tag have a channel each, it is the same one. -/
def HasOneChannel (session : Session SimulatedTag) : Prop :=
  ∀ own theirs, session.channel? = some own → session.tag.channel? = some theirs → own = theirs

private theorem hasOneChannel_of_open (open_ : session.channel? = none) : session.HasOneChannel := by
  intro own theirs active
  rw [open_] at active
  cases active

theorem Exchanged.faults {command : Bytes} {result : Except TagError Bytes}
    (exchanged : Exchanged session command result after) :
    after.tag.faults = session.tag.faults := by
  obtain ⟨sameTag, _⟩ | ⟨frame, _, sameTag, _⟩ := exchanged.transmission
  · rw [sameTag]
  · rw [sameTag]
    exact session.tag.faults_transceive frame

private theorem HasOneChannel.exchanged {command : Bytes} {result : Except TagError Bytes}
    (one : session.HasOneChannel) (request : Frame.IsRequest command)
    (exchanged : Exchanged session command result after) : after.HasOneChannel := by
  have heard {frame : Bytes} (carries : session.Carries command frame) :
      session.tag.Heard (NfcTag.transceive session.tag frame) :=
    SimulatedTag.transceive_request (carries.not_isHandshake request)
  cases exchanged with
  | exhausted => exact one
  | unanswered carries lost =>
    intro own theirs active activeTag
    exact one own theirs active (((heard carries).channel?_of_lost lost).symm.trans activeTag)
  | plain open_ => exact hasOneChannel_of_open open_
  | ended | spoilt => exact hasOneChannel_of_open (channel?_dropAuthentication _)
  | @opened channel _ frame _ _ active carried received genuine =>
    have carries : session.Carries command frame := by simpa only [Carries, active] using carried
    obtain ⟨long, _, rfl⟩ := SecureChannel.openResponse_eq_ok genuine
    have counted := (heard carries).channel?_of_long received (Nat.lt_of_lt_of_le (by decide) long)
    have sending : (session.sending command frame).channel? = some channel := active
    have moved := channel?_setChannel sending channel.advanced
    intro own theirs ownHeld theirsHeld
    obtain rfl := Option.some.inj (moved.symm.trans ownHeld)
    obtain ⟨before, activeTag, rfl⟩ := Option.map_eq_some_iff.mp (counted.symm.trans theirsHeld)
    rw [one channel before active activeTag]

def Attuned (image : SimulatedTag) (session : Session SimulatedTag) : Prop :=
  (session.tag.faults = .none ∧ session.HasOneChannel) ∧ session.WorksOn image

private theorem attuned_reads (whole : image.IsWhole) : Reads (Attuned image) (Attuned image) := by
  have together : Endures (τ := SimulatedTag)
      (fun session => session.tag.faults = .none ∧ session.HasOneChannel)
      (fun session => session.tag.faults = .none ∧ session.HasOneChannel) :=
    { weaken := fun _ holds => holds
      request := fun _ request _ holds => exchange_leaves fun _ _ exchanged =>
        ⟨exchanged.faults.trans holds.1, holds.2.exchanged request exchanged⟩
      learn := fun _ _ holds => holds }
  exact together.reads.and (worksOn_reads whole)

private theorem WorksOn.exchange_spared {command : Bytes} (works : session.WorksOn image)
    (spared : ∀ frame, session.Carries command frame →
      (session.tag.transceive frame).2.memory = session.tag.memory) :
    Ensures (Session.exchange command) session (fun _ after => after.tag.Resembles image)
      (fun _ after => after.tag.Resembles image) := by
  refine exchange_leaves fun _ after exchanged => ?_
  refine ⟨exchanged.chip.trans works.resembles.chip, ?_⟩
  obtain ⟨sameTag, _⟩ | ⟨frame, carries, sameTag, _⟩ := exchanged.transmission
  · rw [sameTag]
    exact works.resembles.memory
  · rw [sameTag]
    exact (spared frame carries).trans works.resembles.memory

private theorem WorksOn.exchange_write (works : session.WorksOn image)
    (faultless : session.tag.faults = .none) (one : session.HasOneChannel) (page : UInt8)
    {data : Bytes} (sized : data.length = Layout.pageSize) :
    Ensures (Session.exchange (CommandCode.write.code :: page :: data)) session
      (fun response after => response = [Layout.ack] ∨ after.tag.Resembles image)
      (fun _ after => after.tag.Resembles image) := by
  have spared (kept : ∀ frame, session.Carries (CommandCode.write.code :: page :: data) frame →
      (session.tag.transceive frame).2.memory = session.tag.memory) :=
    (works.exchange_spared kept).onValue fun response _ same =>
      Or.inr (a := response = [Layout.ack]) same
  cases near : session.tag.hears with
  | false =>
    refine spared fun frame _ => ?_
    obtain ⟨_, unheard⟩ := SimulatedTag.transceive_unheard near frame
    rw [unheard]
  | true =>
    have ready : session.tag.Ready := ⟨near, faultless⟩
    cases active : session.channel? with
    | none =>
      obtain same | ⟨left, answered⟩ := ready.takes_bare_write page sized
      · refine spared fun frame carries => ?_
        obtain rfl : frame = CommandCode.write.code :: page :: data := by
          simpa only [Carries, active] using carries
        exact same
      · refine (exchange_plain active answered fun _ _ same => ?_).total.onValue ?_
        · exact (List.singleton_inj.mp same).symm
        · exact fun _ _ known => .inl known.1
    | some channel =>
      have long := works.sized channel active
      by_cases used : channel.counter = SecureChannel.lastCounter
      · refine spared fun frame carries => ?_
        simp only [Carries, active, SecureChannel.sealCommand_exhausted used] at carries
        cases carries
      · have sealed_ := SecureChannel.sealCommand_ok used (CommandCode.write.code :: page :: data)
        obtain same | ⟨left, answered⟩ := ready.takes_coded_write used long
          (fun theirs => one channel theirs active) page sized sealed_
        · refine spared fun frame carries => ?_
          simp only [Carries, active, sealed_] at carries
          cases carries
          exact same
        · exact (exchange_sealed active used long answered).total.onValue
            fun _ _ known => .inl known.1

namespace Attuned

variable (attuned : session.Attuned image) (whole : image.IsWhole)
include attuned whole

private theorem writePage (page : UInt8) (data : Bytes) :
    Ensures (Session.writePage page data) session (fun _ _ => True)
      (fun _ after => after.tag.Resembles image) := by
  refine ensures_bind.mpr (ensures_get.mpr (ensures_bind.mpr (ensures_ofProtocol.mpr ?_)))
  cases made : Frame.write session.family page data with
  | error => exact attuned.2.resembles
  | ok frame =>
    obtain ⟨rfl, sized⟩ := Frame.write_eq_ok made
    refine (((attuned_reads whole).ensureAccess page .write session attuned).onError
      fun _ _ left => left.2.resembles).bind fun _ middle ready => ?_
    obtain ⟨⟨⟨faultless, one⟩, works⟩, _⟩ := ready
    refine (works.exchange_write faultless one page sized).bind fun response after taken => ?_
    rw [ensures_ofProtocol]
    obtain rfl | same := taken
    · trivial
    · cases Response.acknowledgement response with
      | ok => trivial
      | error => exact same

/-- If AUTH0 cannot be set, the tag still has the one that it had. -/
theorem setAuth0 (auth0 : UInt8) :
    Ensures (Session.setAuth0 auth0) session (fun _ _ => True)
      (fun _ after => after.tag.Resembles image) := by
  refine ensures_bind.mpr (ensures_get.mpr ?_)
  refine (((attuned_reads whole).readPage session.family.auth0Page session attuned).onError
    fun _ _ left => left.2.resembles).bind fun config middle left => ?_
  exact (Attuned.writePage left whole _ _).bind fun _ _ _ => trivial

end Attuned
end Session
end Wristband
