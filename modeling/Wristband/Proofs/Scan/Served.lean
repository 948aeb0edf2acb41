import Wristband.Broker.Dispatch
import Wristband.Proofs.Session.Effects

/-! A request that is served to a simulated tag. The tag is connected before and closed afterwards,
and neither changes its memory, so what is served is what the session does in between. -/

namespace Wristband

open Session

variable {tag : SimulatedTag} {family : ChipFamily} {random : RandomSource}
  {request : ScanRequest}

private theorem close_resembles (session : Session SimulatedTag) :
    (close.run session).2.tag.Resembles session.tag := by
  have closes : Keeps (fun after => after.tag.Resembles session.tag)
      (fun after => after.tag.Resembles session.tag) (close (τ := SimulatedTag)) := by
    refine Leads.get fun now same => ?_
    split
    · exact same
    · have closed : (NfcTag.close now.tag).1 = .ok () := rfl
      simp only [closeTag, ensures_bind, ensures_modify, ensures_get, ensures_set,
        ensures_ofHardware, closed]
      exact ⟨same.chip, same.memory⟩
  exact (closes session ⟨rfl, rfl⟩).after

/-- A tag that has left the field is not served. -/
theorem serve_lost (lost : tag.lost = true) : ∃ failure,
    (serve tag family random request).1 = .fail failure ∧
      (serve tag family random request).2.tag.Resembles tag := by
  have gone : NfcTag.connect tag = (.error SimulatedTag.leftField, tag) := if_pos lost
  refine ⟨TagError.toFailure (.hardware SimulatedTag.leftField), ?_⟩
  simp only [serve, openOn, gone]
  exact ⟨trivial, rfl, rfl⟩

/-- What a request ensures of its session holds of what is served. -/
theorem serve_ensures (present : tag.lost = false) (done : ScanResult → SimulatedTag → Prop)
    (ensures : Ensures (Scan.execute request) (opened tag family random)
      (fun result after => ∀ left : SimulatedTag, left.Resembles after.tag → done result left)
      (fun error after => ∀ left : SimulatedTag, left.Resembles after.tag →
        done (.fail error.toFailure) left)) :
    done (serve tag family random request).1 (serve tag family random request).2.tag := by
  unfold serve
  rw [openOn_eq_opened present]
  unfold Ensures at ensures
  dsimp only
  rcases ran : (Scan.execute request).run (opened tag family random) with ⟨error | result, after⟩ <;>
    rw [ran] at ensures <;> exact ensures _ (close_resembles after)

theorem present_of_served (succeeded : (serve tag family random request).1.isFail = false) :
    tag.lost = false := by
  apply Bool.eq_false_iff.mpr
  intro lost
  obtain ⟨failure, failed, _⟩ := serve_lost lost
  rw [failed] at succeeded
  cases succeeded

/-- What a request ensures in case it succeeds holds of what was served with success. -/
theorem serve_succeeds (done : ScanResult → SimulatedTag → Prop)
    (ensures : Ensures (Scan.execute request) (opened tag family random)
      (fun result after => ∀ left : SimulatedTag, left.Resembles after.tag → done result left)
      (fun _ _ => True))
    (succeeded : (serve tag family random request).1.isFail = false) :
    done (serve tag family random request).1 (serve tag family random request).2.tag := by
  exact serve_ensures (present_of_served succeeded) (fun result left => result.isFail = false → done result left)
    (ensures.weaken (fun _ _ holds left same _ => holds left same) fun _ _ _ _ _ => nofun) succeeded

end Wristband
