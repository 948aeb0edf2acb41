import Wristband.Proofs.Scan.Closing
import Wristband.Proofs.Scan.Served
import Wristband.Proofs.Session.Mirror
import Wristband.Proofs.Tag.Faults

/-! Runs on a tag and on the same tag with other faults. They part at a frame that both have sent, and
what is known of that frame stays known, because frames are only ever added to what was sent. -/

namespace Wristband

open Session

/-- The second run has ended at a frame that both have sent, and heard of it something else than the
first one. -/
structure PartedAt (how : Transmission SimulatedTag → TagError → SimulatedTag → Prop)
    (tag : SimulatedTag) (transcript : List (Transmission SimulatedTag)) (error : TagError)
    (rest : SimulatedTag) : Prop where
  ending : ∃ sent ∈ transcript, how sent error rest ∧ rest.frames = sent.tag.frames ++ [sent.frame]
  begun : rest.frames <+: tag.frames
  counted : rest.sealedResponses ≤ tag.sealedResponses

variable {how : Transmission SimulatedTag → TagError → SimulatedTag → Prop} {faults : Faults}
  {start finish failed : Session SimulatedTag → Prop} {session after : Session SimulatedTag}
  {command frame : Bytes} {error : TagError} {rest : SimulatedTag} {result : Except TagError Bytes}

namespace PartedAt

/-- The frame at which the runs part is the last one of the second run. -/
theorem now (near : session.tag.hears = true)
    (known : how ⟨session.tag, session.engine, command, frame⟩ error rest)
    (last : rest.frames = session.tag.frames ++ [frame])
    (counted : rest.sealedResponses ≤ (session.sending command frame).tag.sealedResponses) :
    PartedAt how (session.sending command frame).tag (session.sending command frame).transcript
      error rest where
  ending := ⟨_, List.mem_append_right _ (List.mem_singleton_self _), known, last⟩
  begun := by
    have alike : (session.tag.transceive frame).2.frames = rest.frames := by
      rw [SimulatedTag.frames_transceive, if_pos near, last]
    exact alike ▸ List.prefix_rfl
  counted := counted

theorem sending (parted : PartedAt how session.tag session.transcript error rest)
    (command frame : Bytes) :
    PartedAt how (session.sending command frame).tag (session.sending command frame).transcript
      error rest where
  ending := by
    obtain ⟨sent, listed, known⟩ := parted.ending
    exact ⟨sent, List.mem_append_left _ listed, known⟩
  begun := by
    refine parted.begun.trans ?_
    change session.tag.frames <+: (session.tag.transceive frame).2.frames
    rw [SimulatedTag.frames_transceive]
    split
    · exact List.prefix_append _ _
    · exact List.prefix_rfl
  counted := Nat.le_trans parted.counted (session.tag.sealedResponses_transceive frame)

theorem exchanged (parted : PartedAt how session.tag session.transcript error rest)
    (exchanged : Exchanged session command result after) :
    PartedAt how after.tag after.transcript error rest := by
  obtain ⟨sameTag, sameTranscript⟩ | ⟨frame, _, sameTag, grown⟩ := exchanged.transmission
  · rw [sameTag, sameTranscript]
    exact parted
  · rw [sameTag, grown]
    exact parted.sending command frame

private theorem connection {transcript : List (Transmission SimulatedTag)} {tag other : SimulatedTag}
    (parted : PartedAt how tag transcript error rest) (same : other.frames = tag.frames)
    (count : other.sealedResponses = tag.sealedResponses) :
    PartedAt how other transcript error rest :=
  ⟨parted.ending, same ▸ parted.begun, count ▸ parted.counted⟩

end PartedAt

namespace Session

theorem mirrors_closeTag (kept : ∀ session, start session →
      finish { session with tag := session.tag.close.2 }) :
    Mirrors (·.withFaults faults) (PartedAt how) start finish failed
      (closeTag (τ := SimulatedTag)) closeTag where
  run session holds := .done (kept session holds)
  steady _ _ _ apart := apart.connection rfl rfl

private theorem run_connectTag {τ : Type} [NfcTag τ] (session : Session τ) :
    connectTag.run session = ((NfcTag.connect session.tag).1.mapError .hardware,
      { session with tag := (NfcTag.connect session.tag).2 }) := by
  change (ofHardware (NfcTag.connect session.tag).1).run _ = _
  cases (NfcTag.connect session.tag).1 <;> rfl

theorem mirrors_connectTag
    (kept : ∀ session, start session → session.tag.lost = false ∧
      finish { session with tag := session.tag.connect.2 }) :
    Mirrors (·.withFaults faults) (PartedAt how) start finish failed
      (connectTag (τ := SimulatedTag)) connectTag where
  run session holds := by
    obtain ⟨present, left⟩ := kept session holds
    have own : NfcTag.connect session.tag = (.ok (), session.tag.connect.2) := by
      change session.tag.connect = _
      simp only [SimulatedTag.connect, present, Bool.false_eq_true, if_false]
    have other : NfcTag.connect (session.map (·.withFaults faults)).tag =
        (.ok (), session.tag.connect.2.withFaults faults) := by
      change (session.tag.withFaults faults).connect = _
      have present' : (session.tag.withFaults faults).lost = false := present
      simp only [SimulatedTag.connect, present, present', Bool.false_eq_true, if_false]
      rfl
    rw [run_connectTag, run_connectTag, own, other]
    exact .done left
  steady session _ _ apart := by
    rw [run_connectTag]
    apply apart.connection
    · change (SimulatedTag.connect session.tag).2.frames = _
      unfold SimulatedTag.connect
      split <;> rfl
    · change (SimulatedTag.connect session.tag).2.sealedResponses = _
      unfold SimulatedTag.connect
      split <;> rfl

end Session

variable {tag : SimulatedTag} {family : ChipFamily} {random : RandomSource} {request : ScanRequest}

/-- A tag that has left the field answers every request in the same way. -/
theorem serve_absent (lost : tag.lost = true) :
    serve tag family random request =
      (.fail (TagError.hardware SimulatedTag.leftField).toFailure,
        ⟨tag.close.2, random, []⟩) := by
  have gone : NfcTag.connect tag = (.error SimulatedTag.leftField, tag) := if_pos lost
  simp only [serve, openOn, gone]
  rfl

/-- Where the runs of a request stay together so does all that is served, and where they part the
second one is closed as it was left. -/
theorem serve_mirrored
    (mirrors : Mirrors (·.withFaults faults) (PartedAt how) start finish finish
      (Scan.execute request) (Scan.execute request))
    (present : tag.lost = false) (holds : start (opened tag family random)) :
    (∃ after, finish after ∧ (serve tag family random request).2.tag = after.tag.close.2 ∧
        (serve (tag.withFaults faults) family random request).1 =
          (serve tag family random request).1 ∧
        (serve (tag.withFaults faults) family random request).2.tag =
          (serve tag family random request).2.tag.withFaults faults) ∨
      ∃ error rest, PartedAt how (serve tag family random request).2.tag
          (serve tag family random request).2.transcript error rest ∧
        (serve (tag.withFaults faults) family random request).1 = .fail error.toFailure ∧
        (serve (tag.withFaults faults) family random request).2.tag = rest.close.2 := by
  have present' : (tag.withFaults faults).lost = false := present
  have ends := mirrors.run _ holds
  rw [serve_opened (openOn_eq_opened present family random),
    serve_opened (openOn_eq_opened present' family random)]
  have same : opened (tag.withFaults faults) family random =
      (opened tag family random).map (·.withFaults faults) := rfl
  rw [same]
  generalize (Scan.execute request).run (opened tag family random) = result,
    (Scan.execute request).run ((opened tag family random).map (·.withFaults faults)) = result'
    at ends ⊢
  cases ends with
  | done kept => exact .inl ⟨_, kept, rfl, rfl, rfl⟩
  | failed left => exact .inl ⟨_, left, rfl, rfl, rfl⟩
  | parted apart => exact .inr ⟨_, _, apart.connection rfl rfl, rfl, rfl⟩

end Wristband
