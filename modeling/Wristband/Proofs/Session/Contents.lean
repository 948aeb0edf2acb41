import Wristband.Proofs.Session.Effects
import Wristband.Proofs.Session.Reading

/-! What a session reads that may fail at any point. Whatever faults the tag shows, a read that
succeeds returns user memory as the tag has it, up to where the terminal may read. -/

namespace Wristband.Session

variable {image : SimulatedTag} {authenticated : Bool} {session after : Session SimulatedTag}
  {command : Bytes} {result : Except TagError Bytes}

structure Knows (image : SimulatedTag) (session : Session SimulatedTag) : Prop extends
    IsOn image session where
  learned : ∀ auth0, session.auth0 = some auth0 → auth0 = image.auth0

private theorem Knows.exchanged (knows : session.Knows image) (nothing : Frame.StoresNothing command)
    (exchanged : Exchanged session command result after) : after.Knows image where
  toIsOn := knows.toIsOn.exchanged nothing exchanged
  learned auth0 cached := knows.learned auth0 (exchanged.auth0 ▸ cached)

theorem knows_handshakes (image : SimulatedTag) : Handshakes (Knows image) where
  engine _ _ knows := ⟨⟨knows.family, knows.resembles⟩, knows.learned⟩
  random _ _ knows := ⟨⟨knows.family, knows.resembles⟩, knows.learned⟩
  step _ step _ knows := exchange_leaves fun _ _ exchanged =>
    knows.exchanged step.storesNothing exchanged

/-- The session knows its tag and stands where it says. Its commands reach the tag unharmed. -/
structure Sees (image : SimulatedTag) (authenticated : Bool) (session : Session SimulatedTag) : Prop
    extends Knows image session where
  sized : session.HasSizedCodes
  standing : session.isAuthenticated = authenticated

theorem opened_sees (tag : SimulatedTag) (random : RandomSource) :
    (opened tag tag.family random).Sees tag false where
  family := rfl
  resembles := ⟨rfl, rfl⟩
  learned := nofun
  sized := hasSizedCodes_of_open rfl
  standing := rfl

theorem authenticate_sees (knows : session.Knows image) (key : AuthKey) (slot : KeySlot)
    (cmac : Bool) :
    Ensures (authenticate key slot cmac) session (fun _ => Sees image true)
      (fun _ => Knows image) :=
  (((knows_handshakes image).authenticate key slot cmac session knows).and
    (authenticate_channel key slot cmac)).weaken
      (fun _ _ left => ⟨left.1.1, left.2.2.2.1, left.1.2⟩) fun _ _ left => left.1

/-- A new connection is to the same tag. -/
theorem knows_reconnect (image : SimulatedTag) : Keeps (Knows image) (Knows image)
    (reconnect (τ := SimulatedTag)) := by
  intro session knows
  have resembles := SimulatedTag.resembles_connect (NfcTag.close session.tag).2
  exact reconnect_leaves nofun ⟨⟨knows.family, resembles.chip.trans knows.resembles.chip,
    resembles.memory.trans knows.resembles.memory⟩, nofun⟩

namespace Sees

private theorem worksOn (sees : session.Sees image authenticated) : session.WorksOn image :=
  ⟨sees.toIsOn, sees.sized⟩

private theorem exchange (sees : session.Sees image authenticated) (nothing : Frame.StoresNothing command) :
    Ensures (exchange command) session (fun _ => Sees image authenticated) (fun _ => Knows image) :=
  ensures_exchange
    (fun _ _ exchanged => ⟨sees.toKnows.exchanged nothing exchanged,
      exchanged.hasSizedCodes sees.sized,
      exchanged.sameStanding.isAuthenticated.trans sees.standing⟩)
    fun _ _ exchanged => sees.toKnows.exchanged nothing exchanged

private theorem readBlock (sees : session.Sees image authenticated) (whole : image.IsWhole) (page : UInt8) :
    Ensures (readBlock [CommandCode.read.code, page]) session
      (fun block after => block = image.readBlock page ∧ page < image.family.pageCount ∧
        after.Sees image authenticated)
      (fun _ => Knows image) := by
  have kept : Ensures (Session.readBlock [CommandCode.read.code, page]) session
      (fun _ => Sees image authenticated) (fun _ => Knows image) :=
    (sees.exchange (Frame.storesNothing_read page)).bind fun _ _ left => by
      rw [ensures_ofProtocol]
      split
      · exact left
      · exact left.toKnows
  exact ((sees.worksOn.readBlock whole page).and kept).weaken
    (fun _ _ left => ⟨left.1.1, left.1.2.1, left.2⟩) fun _ _ left => left.2

private theorem auth0Page (sees : session.Sees image authenticated) (whole : image.IsWhole) :
    Ensures auth0Page session
      (fun auth0 after => auth0 = image.auth0 ∧ after.Sees image authenticated)
      (fun _ => Knows image) := by
  refine ensures_bind.mpr (ensures_get.mpr ?_)
  cases cached : session.auth0 with
  | some auth0 => exact ⟨sees.learned auth0 cached, sees⟩
  | none =>
    dsimp only
    rw [Frame.read_auth0Page, sees.family]
    refine (sees.readBlock whole _).bind ?_
    rintro _ after ⟨rfl, known, left⟩
    have sized := image.length_readBlock whole image.family.auth0Page
    rw [Response.requestedPage_ofBytes sized, SimulatedTag.take_readBlock known sized]
    have right := image.auth0_of_shownPage
    exact ⟨right, { left with learned := fun _ same => (Option.some.inj same).symm.trans right }⟩

theorem reads (whole : image.IsWhole) : Reads (Sees image authenticated) (Knows image) where
  weaken _ sees := sees.toKnows
  version _ sees := sees.exchange ⟨nofun, fun same => absurd (Option.some.inj same) (by decide)⟩
  lookUp _ sees := (sees.auth0Page whole).onValue fun _ _ left => left.2
  uid _ sees := sees.exchange (Frame.storesNothing_read 0)
  page page _ holds := holds.1.exchange (Frame.storesNothing_read page)

private theorem readStep (sees : session.Sees image authenticated) (whole : image.IsWhole)
    (step : ReadStep) :
    Ensures (readStep step) session
      (fun part after => part = (image.readBlock step.page).take (step.pages * Layout.pageSize) ∧
        after.Sees image authenticated)
      (fun _ => Knows image) := by
  refine ensures_bind.mpr (ensures_get.mpr (ensures_bind.mpr (ensures_ofProtocol.mpr ?_)))
  cases made : Frame.read session.family step.page with
  | error => exact sees.toKnows
  | ok frame =>
    obtain rfl := Frame.read_eq_ok made
    refine ((reads whole).ensureAccess step.page .read session sees).bind fun _ middle ready => ?_
    refine (ready.1.readBlock whole step.page).bind ?_
    rintro _ after ⟨rfl, _, left⟩
    exact ⟨rfl, left⟩

private theorem readSteps (sees : session.Sees image authenticated) (whole : image.IsWhole)
    (steps : List ReadStep) :
    Ensures (steps.mapM Session.readStep) session
      (fun parts after =>
        parts = steps.map (fun step =>
          (image.readBlock step.page).take (step.pages * Layout.pageSize)) ∧
        after.Sees image authenticated)
      (fun _ => Knows image) := by
  induction steps generalizing session with
  | nil => exact ⟨rfl, sees⟩
  | cons step steps ih =>
    rw [List.mapM_cons]
    refine (sees.readStep whole step).bind ?_
    rintro _ middle ⟨rfl, going⟩
    refine (ih going).bind ?_
    rintro _ after ⟨rfl, left⟩
    exact ⟨rfl, left⟩

private theorem readLimit (sees : session.Sees image authenticated) (whole : image.IsWhole) :
    Ensures readLimit session
      (fun limit after => limit = image.readEnd authenticated ∧ after.Sees image authenticated)
      (fun _ => Knows image) := by
  refine ensures_bind.mpr (ensures_get.mpr ?_)
  rw [sees.standing]
  cases authenticated with
  | true => exact ⟨rfl, sees⟩
  | false =>
    refine (sees.auth0Page whole).bind ?_
    rintro _ after ⟨rfl, left⟩
    exact ⟨rfl, left⟩

/-- User memory comes back byte for byte, if it comes back. -/
theorem readUserMemory (sees : session.Sees image authenticated) (whole : image.IsWhole)
    (page : UInt8) :
    Ensures (readUserMemory page) session
      (fun content _ => content = image.stretch page (image.readEnd authenticated))
      (fun _ _ => True) := by
  refine ensures_bind.mpr (ensures_ofData.mpr ?_)
  split
  next =>
    refine ((sees.readLimit whole).onError fun _ _ _ => trivial).bind ?_
    rintro _ middle ⟨rfl, going⟩
    split
    · trivial
    · refine ((going.readSteps whole _).onError fun _ _ _ => trivial).bind ?_
      rintro _ after ⟨rfl, _⟩
      exact flatten_readPlan whole (image.readEnd_le authenticated)
  next => trivial

end Sees
end Wristband.Session
