import Wristband.Broker.Dispatch
import Wristband.Proofs.Session.Logic

/-! What can happen to a tag that comes into the field: nothing, a probe, or one request in one
session that is closed in the end. -/

namespace Wristband

variable {τ : Type} [NfcTag τ]

def Session.served (session : Session τ) : Served τ :=
  let closed := (Session.close.run session).2
  ⟨closed.tag, closed.random, closed.transcript⟩

inductive ServedBy (tag : τ) (family : ChipFamily) (random : RandomSource)
    (request : ScanRequest) : Served τ → Prop where
  | unconnected {error : HardwareError} (failed : (NfcTag.connect tag).1 = .error error) :
      ServedBy tag family random request ⟨probe tag, random, []⟩
  | executed {session : Session τ} (opened : Session.openOn tag family random = .ok session) :
      ServedBy tag family random request ((Scan.execute request).run session).2.served

private theorem serve_servedBy (tag : τ) (family : ChipFamily) (random : RandomSource)
    (request : ScanRequest) :
    ServedBy tag family random request (serve tag family random request).2 := by
  cases connected : NfcTag.connect tag with
  | mk result after =>
    cases result with
    | error error =>
      have failed : (NfcTag.connect tag).1 = .error error := by rw [connected]
      have left : (serve tag family random request).2 = ⟨probe tag, random, []⟩ := by
        unfold serve Session.openOn probe
        rw [connected]
      rw [left]
      exact .unconnected failed
    | ok =>
      have opened : Session.openOn tag family random = .ok ⟨after, family, none, none, false,
          random, []⟩ := by
        unfold Session.openOn
        rw [connected]
      have left : (serve tag family random request).2 = ((Scan.execute request).run
          ⟨after, family, none, none, false, random, []⟩).2.served := by
        unfold serve
        rw [opened]
        rfl
      rw [left]
      exact .executed opened

inductive Presence (broker : Broker) (tag : τ) (random : RandomSource) : Served τ → Prop where
  | untouched : Presence broker tag random ⟨tag, random, []⟩
  | probed : Presence broker tag random ⟨probe tag, random, []⟩
  | served {family : ChipFamily} {scan : PendingScan} {served : Served τ}
      (known : Technology.family? (NfcTag.technologies tag) = some family)
      (taken : broker.takeRequest.1 = some scan)
      (by_ : ServedBy tag family random scan.request served) : Presence broker tag random served

theorem handleTag_presence (broker : Broker) (tag : τ) (random : RandomSource) :
    Presence broker tag random (broker.handleTag tag random).2 := by
  unfold Broker.handleTag
  dsimp only
  split
  · exact .untouched
  · cases known : Technology.family? (NfcTag.technologies tag) with
    | none => exact .untouched
    | some family =>
      cases taken : broker.takeRequest with
      | mk pending after =>
        cases pending with
        | none => exact .probed
        | some scan =>
          exact .served known (congrArg Prod.fst taken) (serve_servedBy tag family random _)

end Wristband
