import Wristband.Proofs.Scan.Parted
import Wristband.Proofs.Session.Effects
import Wristband.Proofs.Session.Verdicts

/-! Requests that are not to change the memory of a tag. Whatever the tag does meanwhile, no WRITE
goes out, and so its memory stays as it was. A diagnosis writes everything that goes wrong into its
log, unless the tag is lost. -/

namespace Wristband

open Session

namespace Session

structure Unwritten (image : SimulatedTag) (session : Session SimulatedTag) : Prop where
  memory : session.tag.memory = image.memory
  received : ∃ frames, session.tag.frames = image.frames ++ frames ∧
    ∀ frame ∈ frames, Frame.StoresNothing frame
  sent : ∀ sent ∈ session.transcript,
    Frame.StoresNothing sent.command ∧ Frame.StoresNothing sent.frame

variable {image : SimulatedTag} {session after : Session SimulatedTag} {command : Bytes}
  {result : Except TagError Bytes}

private theorem Unwritten.exchanged (unwritten : session.Unwritten image)
    (nothing : Frame.StoresNothing command) (exchanged : Exchanged session command result after) :
    after.Unwritten image := by
  obtain ⟨sameTag, same⟩ | ⟨frame, carries, sameTag, grown⟩ := exchanged.transmission
  · exact ⟨sameTag ▸ unwritten.memory, sameTag ▸ unwritten.received, same ▸ unwritten.sent⟩
  have harmless := carries.storesNothing nothing
  have heard : after.tag.frames =
      if session.tag.hears then session.tag.frames ++ [frame] else session.tag.frames := by
    rw [sameTag]
    exact session.tag.frames_transceive frame
  refine ⟨?_, ?_, fun sent listed => ?_⟩
  · rw [sameTag]
    exact (SimulatedTag.resembles_transceive harmless).memory.trans unwritten.memory
  · obtain ⟨frames, received, each⟩ := unwritten.received
    rw [heard]
    split
    · refine ⟨frames ++ [frame], by rw [received, List.append_assoc], fun other listed => ?_⟩
      obtain old | new := List.mem_append.mp listed
      · exact each other old
      · exact List.mem_singleton.mp new ▸ harmless
    · exact ⟨frames, received, each⟩
  · rw [grown] at listed
    obtain old | new := List.mem_append.mp listed
    · exact unwritten.sent sent old
    · obtain rfl := List.mem_singleton.mp new
      exact ⟨nothing, harmless⟩

private theorem unwritten_withstands (image : SimulatedTag) : Withstands (Unwritten image) where
  exchange _ nothing _ unwritten :=
    exchange_leaves fun _ _ exchanged => unwritten.exchanged nothing exchanged
  engine _ _ unwritten := ⟨unwritten.memory, unwritten.received, unwritten.sent⟩
  learn _ _ unwritten := ⟨unwritten.memory, unwritten.received, unwritten.sent⟩
  random _ _ unwritten := ⟨unwritten.memory, unwritten.received, unwritten.sent⟩
  reconnect session unwritten := by
    have resembles := SimulatedTag.resembles_connect (NfcTag.close session.tag).2
    have frames := (NfcTag.close session.tag).2.frames_connect
    refine reconnect_leaves nofun ⟨resembles.memory.trans unwritten.memory, ?_, unwritten.sent⟩
    obtain ⟨received, same, each⟩ := unwritten.received
    exact ⟨received, frames.trans same, each⟩

private theorem opened_unwritten (tag : SimulatedTag) (family : ChipFamily) (random : RandomSource) :
    (opened tag family random).Unwritten tag where
  memory := rfl
  received := ⟨[], (List.append_nil _).symm, fun _ listed => absurd listed List.not_mem_nil⟩
  sent _ listed := absurd listed List.not_mem_nil

end Session

private theorem SimulatedTag.connect_eq_error {tag : SimulatedTag} {error : HardwareError}
    (failed : (NfcTag.connect tag).1 = .error error) : error = leftField := by
  change tag.connect.1 = .error error at failed
  unfold connect at failed
  split at failed <;> cases failed
  rfl

namespace Scan

variable {τ α : Type}

abbrev FailsLost (action : SessionM τ α) : Prop :=
  Meets (fun _ => True) (fun error _ => error.isLost = true) action

private theorem failsLost_of_rethrown {action : SessionM τ α} {handler : TagError → SessionM τ α}
    (handled : ∀ error, FailsLost (handler error)) : FailsLost (tryCatch action handler) := by
  intro session _
  exact ensures_tryCatch.mpr (ensures_true.onError fun error after _ => handled error after trivial)

private theorem failsLost_logged (action : SessionM τ α) (onResult : α → String)
    (onError : TagError → String) : FailsLost (logged action onResult onError) :=
  failsLost_of_rethrown fun error => by
    split
    next lost => exact fun _ _ => ensures_throw.mpr lost
    next => exact .pure

variable [NfcTag τ]

private theorem failsLost_inspectCmac : FailsLost (inspectCmac (τ := τ)) :=
  .get fun _ => by
    split
    · exact .pure
    · exact (failsLost_logged _ _ _).bind fun _ => .pure

private theorem failsLost_inspect : FailsLost (inspect (τ := τ)) :=
  (failsLost_logged _ _ _).bind fun _ => failsLost_inspectCmac.bind fun _ =>
    (failsLost_logged _ _ _).bind fun _ => .pure

private theorem failsLost_diagnoseKey (index : Nat) (key : AuthKey) (slot : KeySlot) :
    FailsLost (diagnoseKey (τ := τ) index key slot) := by
  refine Meets.bind (failsLost_of_rethrown fun error => ?_) fun rejected => ?_
  · split
    next lost => exact fun _ _ => ensures_throw.mpr lost
    next => exact .pure
  · cases rejected with
    | some error => exact .pure
    | none => exact failsLost_inspect.bind fun _ => .pure

private theorem failsLost_reconnect : FailsLost (reconnect (τ := SimulatedTag)) := by
  intro session _
  have closes : (NfcTag.close session.tag).1 = .ok () := rfl
  simp only [reconnect, closeTag, connectTag, ensures_bind, ensures_modify, ensures_get,
    ensures_set, ensures_ofHardware, closes]
  split
  next => trivial
  next error failed =>
    rw [SimulatedTag.connect_eq_error failed]
    rfl

/-- Whatever happens in a diagnosis goes into its log, as long as the tag is there. -/
theorem ensures_diagnose (key0 key1 : AuthKey) (session : Session SimulatedTag) :
    Ensures (diagnose key0 key1) session (fun result _ => ∃ log, result = .test log)
      (fun error _ => error.isLost = true) := by
  refine ensures_bind.mpr (ensures_get.mpr ?_)
  refine (failsLost_logged _ _ _ session trivial).bind fun version first _ => ?_
  refine (failsLost_diagnoseKey 0 key0 _ first trivial).bind fun lines0 second _ => ?_
  refine (failsLost_reconnect second trivial).bind fun _ third _ => ?_
  refine (failsLost_diagnoseKey 1 key1 _ third trivial).bind fun lines1 last _ => ?_
  exact ensures_pure.mpr ⟨_, rfl⟩

end Scan

private theorem TagError.toFailure_of_isLost {error : TagError} (lost : error.isLost = true) :
    ∃ reason, error.toFailure = ⟨.lost, reason⟩ := by
  cases error with
  | hardware cause =>
    refine ⟨cause.message, ?_⟩
    cases cause with
    | tagLost | notConnected | security | timeout => rfl
    | unsupported | readerModeDisabled | other => cases lost
  | protocol | data | auth | notAuthenticated | incompatible => cases lost

/-- The result of a diagnosis is its log, or that the tag was lost. -/
theorem serve_test (tag : SimulatedTag) (family : ChipFamily) (random : RandomSource)
    (key0 key1 : AuthKey) :
    (∃ log, (serve tag family random (.test key0 key1)).1 = .test log) ∨
      ∃ reason, (serve tag family random (.test key0 key1)).1 = .fail ⟨.lost, reason⟩ := by
  cases lost : tag.lost with
  | true =>
    rw [serve_absent lost]
    exact .inr ⟨_, rfl⟩
  | false =>
    rw [serve_opened (openOn_eq_opened lost family random)]
    have ends : Ensures (Scan.execute (.test key0 key1)) (opened tag family random)
        (fun result _ => ∃ log, result = .test log) (fun error _ => error.isLost = true) :=
      ensures_bind.mpr (ensures_get.mpr (Scan.ensures_diagnose key0 key1 _))
    unfold Ensures at ends
    rcases ran : (Scan.execute (.test key0 key1)).run (opened tag family random) with
      ⟨error | result, after⟩ <;> rw [ran] at ends
    · obtain ⟨reason, failure⟩ := TagError.toFailure_of_isLost ends
      exact .inr ⟨reason, congrArg ScanResult.fail failure⟩
    · exact .inl ends

/-- A request that is no write sends no WRITE, whatever faults the tag shows and whatever it is taken
for, and so the tag has its memory as before. If the request is a diagnosis it ends with its log, or
because the tag is lost. -/
theorem read_only_request_stores_nothing (tag : SimulatedTag) (family : ChipFamily)
    (random : RandomSource) {request : ScanRequest} (readOnly : request.isWrite = false) :
    let served := serve tag family random request
    (∀ sent ∈ served.2.transcript,
        Frame.StoresNothing sent.command ∧ Frame.StoresNothing sent.frame) ∧
      (∃ frames, served.2.tag.frames = tag.frames ++ frames ∧
        ∀ frame ∈ frames, Frame.StoresNothing frame) ∧
      served.2.tag.memory = tag.memory ∧
      ∀ key0 key1, request = .test key0 key1 →
        (∃ log, served.1 = .test log) ∨ ∃ reason, served.1 = .fail ⟨.lost, reason⟩ := by
  have unwritten : (∀ sent ∈ (serve tag family random request).2.transcript,
        Frame.StoresNothing sent.command ∧ Frame.StoresNothing sent.frame) ∧
      (∃ frames, (serve tag family random request).2.tag.frames = tag.frames ++ frames ∧
        ∀ frame ∈ frames, Frame.StoresNothing frame) ∧
      (serve tag family random request).2.tag.memory = tag.memory := by
    cases lost : tag.lost with
    | true =>
      rw [serve_absent lost]
      exact ⟨fun _ listed => absurd listed List.not_mem_nil, ⟨[], (List.append_nil _).symm,
        fun _ listed => absurd listed List.not_mem_nil⟩, rfl⟩
    | false =>
      have left := ((unwritten_withstands tag).execute readOnly _
        (opened_unwritten tag family random)).after
      rw [serve_opened (openOn_eq_opened lost family random)]
      exact ⟨left.sent, left.received, left.memory⟩
  refine ⟨unwritten.1, unwritten.2.1, unwritten.2.2, ?_⟩
  rintro key0 key1 rfl
  exact serve_test tag family random key0 key1

/-- A tag that leaves the field as a diagnosis begins, and is taken for one of the other family. -/
theorem interrupted_diagnosis_stores_nothing :
    let tag := zeroKeyTag.withFaults ⟨some 0, none, none, false⟩
    let served := serve tag .ultralight ⟨fun _ => 0, 0⟩ (.test zeroKey zeroKey)
    (ScanRequest.test zeroKey zeroKey).isWrite = false ∧ served.2.transcript.length = 1 ∧
      (∀ sent ∈ served.2.transcript,
        Frame.StoresNothing sent.command ∧ Frame.StoresNothing sent.frame) ∧
      served.2.tag.memory = tag.memory ∧ ∃ reason, served.1 = .fail ⟨.lost, reason⟩ := by
  intro tag served
  have main := read_only_request_stores_nothing tag .ultralight ⟨fun _ => 0, 0⟩
    (rfl : (ScanRequest.test zeroKey zeroKey).isWrite = false)
  have failed : served.1.isFail = true := by decide +kernel
  refine ⟨rfl, by decide +kernel, main.1, main.2.2.1, ?_⟩
  refine (main.2.2.2 zeroKey zeroKey rfl).resolve_left ?_
  rintro ⟨log, logged⟩
  rw [logged] at failed
  cases failed

end Wristband
