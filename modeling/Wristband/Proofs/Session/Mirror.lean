import Wristband.Proofs.Session.Exchange

/-! Two runs of one action, on a tag and on an image of it. The second run does what the first one
does until it fails where the first one goes on. From then on the two have parted: the second run is
over, and whatever the first one still does is of no concern to it. -/

namespace Wristband

variable {τ σ : Type} {image : τ → σ}

def Transmission.map (image : τ → σ) (sent : Transmission τ) : Transmission σ :=
  ⟨image sent.tag, sent.engine, sent.command, sent.frame⟩

/-- What is known once two runs have parted: of the tag of the first one and what it has sent, and of
the error and the tag that the second one has ended with. -/
abbrev Parting (τ σ : Type) := τ → List (Transmission τ) → TagError → σ → Prop

def Parting.never : Parting τ σ := fun _ _ _ _ => False

namespace Session

variable {α β : Type} {parted : Parting τ σ} {session after : Session τ}
  {start middle finish failed : Session τ → Prop}

/-- The session with the image of its tag, as if it had never seen another. -/
def map (image : τ → σ) (session : Session τ) : Session σ :=
  { tag := image session.tag, family := session.family, engine := session.engine,
    auth0 := session.auth0, closed := session.closed, random := session.random,
    transcript := session.transcript.map (.map image) }

inductive Mirrored (image : τ → σ) (parted : Parting τ σ) (finish failed : Session τ → Prop) :
    Except TagError α × Session τ → Except TagError α × Session σ → Prop where
  | done {value : α} {after : Session τ} (kept : finish after) :
      Mirrored image parted finish failed (.ok value, after) (.ok value, after.map image)
  | failed {error : TagError} {after : Session τ} (left : failed after) :
      Mirrored image parted finish failed (.error error, after) (.error error, after.map image)
  | parted {result : Except TagError α} {after : Session τ} {error : TagError} {other : Session σ}
      (apart : parted after.tag after.transcript error other.tag) :
      Mirrored image parted finish failed (result, after) (.error error, other)

/-- From sessions with one property the two runs end together in sessions with another, or with a
third if they fail, unless they part. Runs that have parted before stay apart. -/
structure Mirrors (image : τ → σ) (parted : Parting τ σ) (start finish failed : Session τ → Prop)
    (action : SessionM τ α) (other : SessionM σ α) : Prop where
  run : ∀ session, start session →
    Mirrored image parted finish failed (action.run session) (other.run (session.map image))
  steady : ∀ session error rest, parted session.tag session.transcript error rest →
    parted (action.run session).2.tag (action.run session).2.transcript error rest

namespace Mirrors

private theorem weaken {start' finish' failed' : Session τ → Prop} {action : SessionM τ α}
    {other : SessionM σ α} (mirrors : Mirrors image parted start finish failed action other)
    (onStart : ∀ session, start' session → start session)
    (onValue : ∀ session, finish session → finish' session)
    (onError : ∀ session, failed session → failed' session) :
    Mirrors image parted start' finish' failed' action other where
  run session holds := by
    have ends := mirrors.run session (onStart session holds)
    generalize action.run session = result, other.run (session.map image) = result' at ends ⊢
    cases ends with
    | done kept => exact .done (onValue _ kept)
    | failed left => exact .failed (onError _ left)
    | parted apart => exact .parted apart
  steady := mirrors.steady

theorem onStart {start' : Session τ → Prop} {action : SessionM τ α} {other : SessionM σ α}
    (mirrors : Mirrors image parted start finish failed action other)
    (implied : ∀ session, start' session → start session) :
    Mirrors image parted start' finish failed action other :=
  mirrors.weaken implied (fun _ kept => kept) fun _ left => left

theorem pure {value : α} (implied : ∀ session, start session → finish session) :
    Mirrors image parted start finish failed (pure value) (pure value) where
  run session holds := .done (implied session holds)
  steady _ _ _ apart := apart

theorem throw {error : TagError} (implied : ∀ session, start session → failed session) :
    Mirrors image parted start finish failed (throw error : SessionM τ α) (throw error) where
  run session holds := .failed (implied session holds)
  steady _ _ _ apart := apart

/-- A change that concerns neither the tag nor what was sent. -/
theorem modify {change : Session τ → Session τ} {change' : Session σ → Session σ}
    (alike : ∀ session : Session τ, change' (session.map image) = (change session).map image)
    (sameTag : ∀ session, (change session).tag = session.tag)
    (sameTranscript : ∀ session, (change session).transcript = session.transcript)
    (kept : ∀ session, start session → finish (change session)) :
    Mirrors image parted start finish failed (modify change : SessionM τ PUnit)
      (modify change' : SessionM σ PUnit) where
  run session holds := by
    change Mirrored image parted finish failed (.ok PUnit.unit, change session)
      (.ok PUnit.unit, change' (session.map image))
    rw [alike]
    exact .done (kept session holds)
  steady session error rest apart := by
    change parted (change session).tag (change session).transcript error rest
    rw [sameTag, sameTranscript]
    exact apart

private theorem known {next : Session τ → SessionM τ α} {next' : Session σ → SessionM σ α}
    (rest : ∀ session, Mirrors image parted (fun now => start now ∧ now = session) finish failed
      (next session) (next' (session.map image))) :
    Mirrors image parted start finish failed (get >>= next) (get >>= next') where
  run session holds := (rest session).run session ⟨holds, rfl⟩
  steady session := (rest session).steady session

theorem get {next : Session τ → SessionM τ α} {next' : Session σ → SessionM σ α}
    (rest : ∀ session, Mirrors image parted start finish failed (next session)
      (next' (session.map image))) :
    Mirrors image parted start finish failed (get >>= next) (get >>= next') :=
  known fun session => (rest session).onStart fun _ holds => holds.1

theorem bind {action : SessionM τ α} {other : SessionM σ α} {next : α → SessionM τ β}
    {next' : α → SessionM σ β} (first : Mirrors image parted start middle failed action other)
    (rest : ∀ value, Mirrors image parted middle finish failed (next value) (next' value)) :
    Mirrors image parted start finish failed (action >>= next) (other >>= next') where
  run session holds := by
    have ends := first.run session holds
    rw [run_bind, run_bind]
    generalize action.run session = result, other.run (session.map image) = result' at ends ⊢
    cases ends with
    | done kept => exact (rest _).run _ kept
    | failed left => exact .failed left
    | @parted result after error other apart =>
      cases result with
      | error => exact .parted apart
      | ok value => exact .parted ((rest value).steady after error other.tag apart)
  steady session error other apart := by
    have steady := first.steady session error other apart
    rw [run_bind]
    generalize action.run session = result at steady ⊢
    obtain ⟨_ | value, after⟩ := result
    · exact steady
    · exact (rest value).steady after error other steady

/-- An error at which the runs part has to be passed on. -/
theorem tryCatch {caught : Session τ → Prop} {action : SessionM τ α} {other : SessionM σ α}
    {handler : TagError → SessionM τ α} {handler' : TagError → SessionM σ α}
    (attempt : Mirrors image parted start finish caught action other)
    (handled : ∀ error,
      Mirrors image parted caught finish failed (handler error) (handler' error))
    (passed : ∀ tag transcript error (rest : Session σ), parted tag transcript error rest.tag →
      ∃ final, (handler' error).run rest = (.error error, final) ∧ final.tag = rest.tag) :
    Mirrors image parted start finish failed (tryCatch action handler)
      (tryCatch other handler') where
  run session holds := by
    have ends := attempt.run session holds
    rw [run_tryCatch, run_tryCatch]
    generalize action.run session = result, other.run (session.map image) = result' at ends ⊢
    cases ends with
    | done kept => exact .done kept
    | failed left => exact (handled _).run _ left
    | @parted result after error other apart =>
      obtain ⟨final, ends, sameTag⟩ := passed _ _ _ _ apart
      dsimp only
      rw [ends]
      cases result with
      | ok => exact .parted (sameTag ▸ apart)
      | error own => exact .parted (sameTag ▸ (handled own).steady after error other.tag apart)
  steady session error other apart := by
    have steady := attempt.steady session error other apart
    rw [run_tryCatch]
    generalize action.run session = result at steady ⊢
    obtain ⟨own | _, after⟩ := result
    · exact (handled own).steady after error other steady
    · exact steady

theorem ite {condition : Prop} [Decidable condition] {yes no : SessionM τ α}
    {yes' no' : SessionM σ α}
    (positive : condition → Mirrors image parted start finish failed yes yes')
    (negative : ¬ condition → Mirrors image parted start finish failed no no') :
    Mirrors image parted start finish failed (if condition then yes else no)
      (if condition then yes' else no') := by
  split
  next holds => exact positive holds
  next fails => exact negative fails

theorem ofProtocol {result : Except ProtocolError α}
    (implied : ∀ session, start session → failed session) :
    Mirrors image parted start start failed (ofProtocol result) (ofProtocol result) := by
  cases result with
  | ok => exact pure fun _ holds => holds
  | error => exact throw implied

/-- Where a frame is built, what follows is about the frame that was built. -/
theorem ofProtocol_bind {result : Except ProtocolError α} {next : α → SessionM τ β}
    {next' : α → SessionM σ β} (implied : ∀ session, start session → failed session)
    (rest : ∀ value, result = .ok value →
      Mirrors image parted start finish failed (next value) (next' value)) :
    Mirrors image parted start finish failed (Session.ofProtocol result >>= next)
      (Session.ofProtocol result >>= next') := by
  cases result with
  | ok value => exact rest value rfl
  | error error => exact throw implied

theorem ofData {result : Except DataError α}
    (implied : ∀ session, start session → failed session) :
    Mirrors image parted start start failed (ofData result) (ofData result) := by
  cases result with
  | ok => exact pure fun _ holds => holds
  | error => exact throw implied

theorem forM {action : α → SessionM τ PUnit} {other : α → SessionM σ PUnit} (items : List α)
    (each : ∀ item, Mirrors image parted start start failed (action item) (other item)) :
    Mirrors image parted start start failed (items.forM action) (items.forM other) := by
  induction items with
  | nil => exact pure fun _ holds => holds
  | cons item items ih => exact (each item).bind fun _ => ih

theorem mapM {action : α → SessionM τ β} {other : α → SessionM σ β} (items : List α)
    (each : ∀ item, Mirrors image parted start start failed (action item) (other item)) :
    Mirrors image parted start start failed (items.mapM action) (items.mapM other) := by
  induction items with
  | nil => exact pure fun _ holds => holds
  | cons item items ih =>
    rw [List.mapM_cons, List.mapM_cons]
    exact (each item).bind fun _ => ih.bind fun _ => pure fun _ holds => holds

end Mirrors

theorem mirrors_dropAuthentication (engine : ∀ session engine, start session →
    finish { session with engine := engine }) :
    Mirrors image parted start finish failed (modify dropAuthentication : SessionM τ PUnit)
      (modify dropAuthentication : SessionM σ PUnit) :=
  .modify (fun _ => rfl) (fun _ => rfl) (fun _ => rfl) fun session => engine session _

section

variable [NfcTag τ] [NfcTag σ] {command frame : Bytes}

def Agrees (image : τ → σ) (tag : τ) (frame : Bytes) : Prop :=
  NfcTag.transceive (image tag) frame =
    ((NfcTag.transceive tag frame).1, image (NfcTag.transceive tag frame).2)

theorem sending_map (left : (NfcTag.transceive (image session.tag) frame).2 =
      image (NfcTag.transceive session.tag frame).2) (command : Bytes) :
    (session.map image).sending command frame = (session.sending command frame).map image := by
  unfold sending map
  simp only [left, List.map_append]
  rfl

theorem run_transmit_map (agrees : Agrees image session.tag frame) (command : Bytes) :
    (transmit command frame).run (session.map image) =
      (((transmit command frame).run session).1,
        ((transmit command frame).run session).2.map image) := by
  unfold Agrees at agrees
  have heard : (NfcTag.transceive (session.map image).tag frame).1 =
      (NfcTag.transceive session.tag frame).1 := congrArg Prod.fst agrees
  have left : (NfcTag.transceive (image session.tag) frame).2 =
      image (NfcTag.transceive session.tag frame).2 := congrArg Prod.snd agrees
  rw [run_transmit, run_transmit, sending_map left, heard]

theorem mirrors_transmit (agrees : ∀ session, start session → Agrees image session.tag frame)
    (kept : ∀ session, start session →
      finish (session.sending command frame) ∧ failed (session.sending command frame)) :
    Mirrors image .never start finish failed (transmit command frame)
      (transmit command frame) where
  run session holds := by
    rw [run_transmit_map (agrees session holds), run_transmit]
    cases (NfcTag.transceive session.tag frame).1 with
    | ok => exact .done (kept session holds).1
    | error => exact .failed (kept session holds).2
  steady _ _ _ apart := apart.elim

/-- If the frame of a command does not make the runs part then the rest of the exchange does not. -/
theorem mirrors_exchange (weaken : ∀ session, start session → failed session)
    (sent : ∀ frame, Mirrors image parted
      (fun session => start session ∧ session.Carries command frame) finish failed
      (transmit command frame) (transmit command frame))
    (engine : ∀ session engine, finish session →
      finish { session with engine := engine } ∧ failed { session with engine := engine }) :
    Mirrors image parted start finish failed (exchange command) (exchange command) := by
  have fails (error : TagError) : Mirrors image parted finish finish failed
      (do modify dropAuthentication; throw error : SessionM τ Bytes)
      (do modify dropAuthentication; throw error : SessionM σ Bytes) :=
    (mirrors_dropAuthentication fun session held holds => (engine session held holds).2).bind
      fun _ => .throw fun _ left => left
  refine .known fun session => ?_
  have carried {frame : Bytes} (carries : session.Carries command frame) : Mirrors image parted
      (fun now => start now ∧ now = session) finish failed (transmit command frame)
      (transmit command frame) :=
    (sent frame).onStart fun now holds => ⟨holds.1, holds.2 ▸ carries⟩
  have alike : (session.map image).channel? = session.channel? := rfl
  rw [alike]
  cases active : session.channel? with
  | none =>
    refine (carried (by simp only [Carries, active])).bind fun response => ?_
    split
    · refine .known fun now => .ite (fun _ => ?_) fun _ => .pure fun _ holds => holds.1
      exact (fails _).onStart fun _ holds => holds.1
    · exact .pure fun _ kept => kept
  | some channel =>
    refine .ofProtocol_bind (fun now holds => weaken now holds.1) fun frame sealed_ => ?_
    refine (carried (by simpa only [Carries, active] using sealed_)).bind fun response => ?_
    split
    · exact fails _
    · split
      · have moved (next : SecureChannel) : Mirrors image parted finish finish failed
            (modify (setChannel · next) : SessionM τ PUnit)
            (modify (setChannel · next) : SessionM σ PUnit) :=
          .modify (fun _ => rfl) (fun _ => rfl) (fun _ => rfl) fun session holds =>
            (engine session _ holds).1
        exact (moved _).bind fun _ => .pure fun _ kept => kept
      · exact fails _

end

end Session
end Wristband
