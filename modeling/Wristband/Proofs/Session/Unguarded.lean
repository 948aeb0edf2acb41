import Wristband.Proofs.Broker.Presence
import Wristband.Proofs.Scan.Calls
import Wristband.Proofs.Scan.Requests
import Wristband.Proofs.Session.Barred
import Wristband.Tag.Simulated.Build

/-! Where memory is accessed with an incomplete handshake. A failed handshake bars a session
from every operation that goes through the access check, but not from looking up the
identifier or AUTH0, so a diagnosis that goes on after an error still reads the identifier. -/

namespace Wristband

variable {τ : Type} [NfcTag τ]

namespace Scan

open Session

def uidCommand : Bytes := [CommandCode.read.code, 0]

private theorem guarded_serves : Serves
    (fun session : Session τ => session.Spares [] ∧ ¬ session.IsBarred)
    (fun session => session.Spares [] ∧ ¬ session.IsBarred) (fun session => session.Spares []) :=
  serves_of_outlasts (spares_outlasts []) (spares_handshakes []) (spares_ofTranscript [])
    fun _ left ready => ⟨left, not_isBarred_iff.mpr ready⟩

private theorem spares_diagnoses : Diagnoses (fun session : Session τ => session.Spares [uidCommand])
    (fun session => session.Spares [uidCommand]) where
  weaken _ spared := spared
  version := getVersion_spares
  authenticate := (spares_handshakes [uidCommand]).authenticate
  lookUp session holds :=
    ((spares_outlasts [uidCommand]).endures.reads.lookUp session
      ⟨holds.1, not_isBarred_iff.mpr (.inr holds.2)⟩).onValue fun _ _ left => left.1
  cmac session spared := by
    by_cases barred : session.IsBarred
    · exact (barred.configuration_refuses _ _).weaken (fun _ _ never => never.elim)
        fun _ after same => same ▸ spared
    · exact ((spares_outlasts [uidCommand]).endures.reads.cmacRequired session ⟨spared, barred⟩).onValue
        fun _ _ left => left.1
  uid session spared := by
    refine ensures_bind.mpr (ensures_get.mpr ?_)
    rw [Frame.read_header]
    exact (((exchange_spares spared fun _ _ => List.mem_singleton_self _).onValue
      fun _ _ left => left.1).bind fun _ =>
        Leads.ofProtocol fun _ left => left).bind fun _ => Leads.ofProtocol fun _ left => left
  reconnect := reconnect_keeps (spares_ofTranscript [uidCommand])

end Scan

private theorem Session.served_spares {session : Session τ} {exempt : List Bytes}
    (spared : session.Spares exempt) {sent : Transmission τ}
    (listed : sent ∈ session.served.transcript) (unguarded : sent.IsUnguarded) :
    sent.command ∈ exempt :=
  (close_keeps (spares_ofTranscript exempt) session spared).after sent listed unguarded

/-- What the dispatcher sends with an incomplete handshake is sent for a diagnosis, and it is the
READ for the identifier. -/
theorem handleTag_unguarded (broker : Broker) (tag : τ) (random : RandomSource)
    {sent : Transmission τ} (listed : sent ∈ (broker.handleTag tag random).2.transcript)
    (unguarded : sent.IsUnguarded) : sent.command = Scan.uidCommand ∧
      ∃ scan key0 key1, broker.takeRequest.1 = some scan ∧ scan.request = .test key0 key1 := by
  have presence := handleTag_presence broker tag random
  generalize (broker.handleTag tag random).2 = served at presence listed
  cases presence with
  | untouched | probed => cases listed
  | @served _ scan _ _ taken by_ =>
    cases by_ with
    | unconnected => cases listed
    | @executed session opened =>
      obtain ⟨free, empty⟩ := Session.openOn_fresh opened
      have fresh (exempt : List Bytes) : session.Spares exempt := by
        unfold Session.Spares
        rw [empty]
        exact nofun
      by_cases diagnosed : ∃ key0 key1, scan.request = .test key0 key1
      · obtain ⟨key0, key1, request⟩ := diagnosed
        have spared := (Scan.spares_diagnoses.execute key0 key1 session (fresh _)).after
        rw [request] at listed
        exact ⟨List.mem_singleton.mp (Session.served_spares spared listed unguarded), scan, key0,
          key1, taken, request⟩
      · have stops : ∀ key0 key1, scan.request ≠ .test key0 key1 :=
          fun key0 key1 request => diagnosed ⟨key0, key1, request⟩
        have ready := Session.not_isBarred_iff.mpr (.inl free)
        have spared := (Scan.guarded_serves.execute stops (fun _ _ holds => holds) session
          ⟨fresh [], ready⟩).after
        exact absurd (Session.served_spares spared listed unguarded) List.not_mem_nil

namespace Session

/-- Memory is accessed with an incomplete handshake exactly by the calls that skip the check, and
such a handshake lasts until the next connection. Every other call on memory is refused without
a trace. Requests are lists of calls, and among them only a diagnosis skips the check. -/
theorem access_guarded_unless_check_skipped :
    (∀ (session : Session τ) (calls : List SessionCall),
      (session.afterCalls calls).IsGuarded ↔ session.IsGuarded ∧
        ∀ before call after, calls = before ++ call :: after →
          (session.afterCalls before).IsBarred →
            ¬ call.SkipsCheck (session.afterCalls before)) ∧
    (∀ (session : Session τ) (call : SessionCall), session.IsBarred → ¬ call.SkipsCheck session →
      call ∉ [.getVersion, .reconnect, .close] → (call.perform.run session).2 = session) ∧
    (∀ (session : Session τ) (calls : List SessionCall), session.IsBarred →
      .reconnect ∉ calls → .close ∉ calls → (session.afterCalls calls).IsBarred) ∧
    (∀ request, MadeOfCalls (Scan.execute (τ := τ) request)) ∧
    ∀ (broker : Broker) (tag : τ) (random : RandomSource),
      ∀ sent ∈ (broker.handleTag tag random).2.transcript, sent.IsUnguarded →
        sent.command = Scan.uidCommand ∧ ∃ scan key0 key1,
          broker.takeRequest.1 = some scan ∧ scan.request = .test key0 key1 :=
  ⟨isGuarded_afterCalls, fun _ _ barred checked memory => barred.perform_leaves checked memory,
    fun _ _ barred connected open_ => barred.afterCalls connected open_,
    Scan.execute_madeOfCalls,
    fun broker tag random _ listed => handleTag_unguarded broker tag random listed⟩

/-- A tag without authentication refuses the handshake, and the session still reads and returns
its identifier. -/
theorem identifier_read_after_failed_handshake :
    ∃ session : Session SimulatedTag, ∃ key : AuthKey,
      openOn (SimulatedTag.ultralight [0x04, 0x11, 0x22, 0x33, 0x44, 0x55, 0x66]) .ultralight
        ⟨fun _ => 0, 0⟩ = .ok session ∧
      (session.afterCalls [.authenticate key .dataProtection false]).IsBarred ∧
      ¬ (session.afterCalls [.authenticate key .dataProtection false, .readUid]).IsGuarded ∧
      (readUid.run (session.afterCalls [.authenticate key .dataProtection false])).1 =
        .ok ⟨0x04112233445566⟩ := by
  refine ⟨_, .tdes ⟨List.replicate 6 0, rfl⟩, rfl, ?_, ?_, ?_⟩
  · exact ⟨_, rfl, rfl⟩
  · have skips (session : Session SimulatedTag) : SessionCall.SkipsCheck .readUid session := trivial
    exact IsBarred.perform_leaks ⟨_, rfl, rfl⟩ (skips _)
  · rfl

end Session
end Wristband
