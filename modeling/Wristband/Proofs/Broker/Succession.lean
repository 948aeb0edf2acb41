import Mathlib.Data.List.Forall2
import Wristband.Proofs.Broker.Release

/-! Scans, one after the other, through one broker. A scan that has ended leaves nothing that a later
one could find, so each is answered as if it were the first. -/

namespace Wristband

structure Desk where
  broker : Broker
  random : RandomSource

structure Scanned (τ : Type) where
  answer : ScanPoll
  served : Served τ
  others : List (Served τ)

/-- A scan may be given up before any tag has come, or after some. -/
inductive Visit (τ : Type) where
  | scan (request : ScanRequest) (tag : τ) (others : List τ)
  | dropped (request : ScanRequest) (tags : List τ)
  | stray (tag : τ)

namespace Desk

def new (random : RandomSource) : Desk := ⟨.new, random⟩

variable {τ : Type} [NfcTag τ]

def present (desk : Desk) (tag : τ) : Served τ × Desk :=
  let handled := desk.broker.handleTag tag desk.random
  (handled.2, ⟨handled.1, handled.2.random⟩)

def presentAll (desk : Desk) : List τ → List (Served τ) × Desk
  | [] => ([], desk)
  | tag :: tags =>
    let first := desk.present tag
    let rest := first.2.presentAll tags
    (first.1 :: rest.1, rest.2)

/-- While a scan waits its tag comes, perhaps others come as well, and the scan is polled again. -/
def attend (desk : Desk) (ticket : Ticket) (tag : τ) (others : List τ) : Scanned τ × Desk :=
  let served := desk.present tag
  let strays := served.2.presentAll others
  let polled := strays.2.broker.poll (.waiting ticket)
  (⟨polled.1, served.1, strays.1⟩, { strays.2 with broker := polled.2 })

def scan (desk : Desk) (request : ScanRequest) (tag : τ) (others : List τ) : Scanned τ × Desk :=
  match desk.broker.poll (.created request) with
  | (.ready outcome, broker) =>
    (⟨.ready outcome, ⟨tag, desk.random, []⟩, []⟩, { desk with broker := broker })
  | (.pending ticket, broker) => { desk with broker := broker }.attend ticket tag others

/-- A scan is polled until it waits, and given up. -/
def giveUp (desk : Desk) (request : ScanRequest) (tags : List τ) : Desk :=
  match desk.broker.poll (.created request) with
  | (.ready _, broker) => { desk with broker := broker }
  | (.pending ticket, broker) =>
    let left := ({ desk with broker := broker }.presentAll tags).2
    { left with broker := left.broker.drop (.waiting ticket) }

def visit (desk : Desk) : Visit τ → Desk
  | .scan request tag others => (desk.scan request tag others).2
  | .dropped request tags => desk.giveUp request tags
  | .stray tag => (desk.present tag).2

def after (desk : Desk) (visits : List (Visit τ)) : Desk := visits.foldl visit desk

end Desk

/-- What a tag makes of a request, whatever broker the request went through. -/
def answerTo {τ : Type} [NfcTag τ] (tag : τ) (random : RandomSource) (request : ScanRequest) :
    ScanResult × Served τ :=
  if Technology.nfcA ∉ NfcTag.technologies tag then (noNfcA, ⟨tag, random, []⟩)
  else
    match Technology.family? (NfcTag.technologies tag) with
    | none => (notSupported, ⟨tag, random, []⟩)
    | some family => serve tag family random request

section
variable {τ : Type} [NfcTag τ] {tag : τ} {family : ChipFamily}

private theorem answerTo_servable (near : Technology.nfcA ∈ NfcTag.technologies tag)
    (known : Technology.family? (NfcTag.technologies tag) = some family) (random : RandomSource)
    (request : ScanRequest) : answerTo tag random request = serve tag family random request := by
  rw [answerTo, if_neg (Classical.not_not.mpr near), known]

private theorem handleTag_foreign (foreign : ¬ IsServable (NfcTag.technologies tag))
    (random : RandomSource) :
    ∃ result, (∀ request, answerTo tag random request = (result, ⟨tag, random, []⟩)) ∧
      ∀ broker : Broker, broker.handleTag tag random =
        (broker.publishResult result, ⟨tag, random, []⟩) := by
  by_cases near : Technology.nfcA ∈ NfcTag.technologies tag
  · have unknown : Technology.family? (NfcTag.technologies tag) = none := by
      cases known : Technology.family? (NfcTag.technologies tag) with
      | none => rfl
      | some family => exact absurd ⟨near, Option.isSome_iff_exists.mpr ⟨family, known⟩⟩ foreign
    refine ⟨notSupported, fun request => ?_, fun broker => ?_⟩
    · rw [answerTo, if_neg (Classical.not_not.mpr near), unknown]
    · unfold Broker.handleTag
      dsimp only
      rw [if_neg (Classical.not_not.mpr near), unknown]
  · exact ⟨noNfcA, fun _ => if_pos near, fun _ => if_pos near⟩

end

def ScanStage.IsSettled : ScanStage → Prop
  | free | answered .. => True
  | queued _ | taken _ => False

namespace Broker

variable {τ : Type} [NfcTag τ] {broker : Broker} {stage : ScanStage}

private theorem At.poll_queues (free : broker.At .free) (request : ScanRequest) :
    ∃ ticket after, broker.poll (.created request) = (.pending ticket, after) ∧
      after.At (.queued ⟨ticket, request⟩) := by
  obtain ⟨waits, _, queued⟩ := free.poll_created_free request
  exact ⟨_, _, Prod.ext waits rfl, queued⟩

private theorem takeRequest_idle (idle : broker.request = none) : broker.takeRequest = (none, broker) := by
  have same : { broker with request := none } = broker := by rw [← idle]
  rw [takeRequest, idle, same]

private theorem At.handleTag_queued {scan : PendingScan} (at_ : broker.At (.queued scan)) (tag : τ)
    (random : RandomSource) :
    (broker.handleTag tag random).1.At
        (.answered scan.ticket (answerTo tag random scan.request).1) ∧
      (broker.handleTag tag random).2 = (answerTo tag random scan.request).2 := by
  by_cases servable : IsServable (NfcTag.technologies tag)
  · obtain ⟨near, known⟩ := servable
    obtain ⟨family, known⟩ := Option.isSome_iff_exists.mp known
    rw [handleTag_busy near known at_.request, answerTo_servable near known]
    have completed := at_.takeRequest.2.complete scan.ticket
      (serve tag family random scan.request).1
    unfold ScanStage.afterTake ScanStage.afterComplete at completed
    rw [ScanStage.ticket?, if_pos rfl] at completed
    exact ⟨completed, rfl⟩
  · obtain ⟨result, answers, handles⟩ := handleTag_foreign servable random
    rw [handles, answers]
    exact ⟨at_.publishResult result, rfl⟩

/-- Once nobody waits for a tag, no tag changes that. -/
theorem At.handleTag_settled (at_ : broker.At stage) (settled : stage.IsSettled) (tag : τ)
    (random : RandomSource) :
    ∃ next, (broker.handleTag tag random).1.At next ∧ next.IsSettled ∧
      next.ticket? = stage.ticket? := by
  by_cases servable : IsServable (NfcTag.technologies tag)
  · obtain ⟨near, known⟩ := servable
    obtain ⟨family, known⟩ := Option.isSome_iff_exists.mp known
    have idle : broker.request = none := by
      rw [at_.request]
      cases stage with
      | free | answered => rfl
      | queued | taken => exact settled.elim
    rw [handleTag_idle near known idle, takeRequest_idle idle]
    exact ⟨stage, at_, settled, rfl⟩
  · obtain ⟨result, _, handles⟩ := handleTag_foreign servable random
    rw [handles]
    refine ⟨_, at_.publishResult result, ?_, stage.afterPublish_ticket? result⟩
    cases stage with
    | free | answered => trivial
    | queued | taken => exact settled.elim

end Broker

/-- The tag was connected once and closed once, and nothing was sent to it. -/
structure Probed {σ : Type} (stray : RecordedTag σ) (served : Served (RecordedTag σ)) : Prop where
  unsent : served.transcript = []
  linked : ∃ connected closed,
    served.tag.events = stray.events ++ [.connect connected, .close closed]
  counted : served.tag.connects = stray.connects + 1 ∧ served.tag.closes = stray.closes + 1 ∧
    served.tag.exchanges = stray.exchanges

private theorem probed_probe {σ : Type} [NfcTag σ] (stray : RecordedTag σ) (random : RandomSource) :
    Probed stray ⟨probe stray, random, []⟩ :=
  ⟨rfl, ⟨_, _, List.append_assoc _ _ _⟩, rfl, rfl, rfl⟩

namespace Desk

variable {τ : Type} [NfcTag τ] {desk : Desk} {stage : ScanStage}

private theorem present_idle (desk : Desk) (idle : desk.broker.request = none) {tag : τ}
    (servable : IsServable (NfcTag.technologies tag)) :
    desk.present tag = (⟨probe tag, desk.random, []⟩, desk) := by
  obtain ⟨near, known⟩ := servable
  obtain ⟨family, known⟩ := Option.isSome_iff_exists.mp known
  rw [present, handleTag_idle near known idle, Broker.takeRequest_idle idle]

private theorem presentAll_idle (desk : Desk) (idle : desk.broker.request = none) {tags : List τ}
    (servable : ∀ tag ∈ tags, IsServable (NfcTag.technologies tag)) :
    desk.presentAll tags = (tags.map fun tag => ⟨probe tag, desk.random, []⟩, desk) := by
  induction tags with
  | nil => rfl
  | cons tag tags ih =>
    have first := present_idle desk idle (servable tag List.mem_cons_self)
    have rest := ih fun other listed => servable other (List.mem_cons_of_mem tag listed)
    rw [presentAll, first, rest]
    rfl

private theorem presentAll_settled (desk : Desk) (at_ : desk.broker.At stage) (settled : stage.IsSettled)
    (tags : List τ) : ∃ next, (desk.presentAll tags).2.broker.At next ∧ next.IsSettled ∧
      next.ticket? = stage.ticket? := by
  induction tags generalizing desk stage with
  | nil => exact ⟨stage, at_, settled, rfl⟩
  | cons tag tags ih =>
    obtain ⟨next, reached, settled, same⟩ := at_.handleTag_settled settled tag desk.random
    obtain ⟨last, reached, settled, kept⟩ := ih (desk.present tag).2 reached settled
    exact ⟨last, reached, settled, kept.trans same⟩

private theorem presentAll_queued (desk : Desk) {pending : PendingScan}
    (at_ : desk.broker.At (.queued pending)) (tag : τ) (tags : List τ) :
    ∃ result, ((desk.present tag).2.presentAll tags).2.broker.At
      (.answered pending.ticket result) := by
  obtain ⟨answered, _⟩ := at_.handleTag_queued tag desk.random
  obtain ⟨next, reached, settled, same⟩ :=
    presentAll_settled (desk.present tag).2 answered trivial tags
  cases next with
  | answered ticket result =>
    cases same
    exact ⟨result, reached⟩
  | free => cases same
  | queued | taken => exact settled.elim

private theorem giveUp_free (free : desk.broker.At .free) (request : ScanRequest) (tags : List τ) :
    (desk.giveUp request tags).broker.At .free := by
  obtain ⟨ticket, broker, polled, queued⟩ := free.poll_queues request
  rw [giveUp, polled]
  cases tags with
  | nil => exact queued.drop_waiting rfl
  | cons tag tags =>
    obtain ⟨result, answered⟩ := presentAll_queued { desk with broker := broker } queued tag tags
    exact answered.drop_waiting rfl

private theorem scan_free (free : desk.broker.At .free) (request : ScanRequest) (tag : τ)
    (others : List τ) : (desk.scan request tag others).2.broker.At .free := by
  obtain ⟨ticket, broker, polled, queued⟩ := free.poll_queues request
  rw [scan, polled]
  obtain ⟨result, answered⟩ := presentAll_queued { desk with broker := broker } queued tag others
  exact answered.poll_waiting_answered.2.2

private theorem visit_free (free : desk.broker.At .free) (visit : Visit τ) :
    (desk.visit visit).broker.At .free := by
  cases visit with
  | scan request tag others => exact scan_free free request tag others
  | dropped request tags => exact giveUp_free free request tags
  | stray tag =>
    obtain ⟨next, reached, settled, same⟩ := free.handleTag_settled trivial tag desk.random
    cases next with
    | free => exact reached
    | answered => cases same
    | queued | taken => exact settled.elim

/-- Between two visits nothing is left in the broker, however many there were. -/
theorem after_free (free : desk.broker.At .free) (visits : List (Visit τ)) :
    (desk.after visits).broker.At .free := by
  induction visits generalizing desk with
  | nil => exact free
  | cons visit visits ih => exact ih (visit_free free visit)

/-- A scan at a desk where nothing is left over depends on its tag and on the random bytes only. -/
theorem scan_answer (desk : Desk) (free : desk.broker.At .free) (request : ScanRequest) (tag : τ)
    {others : List τ} (servable : ∀ other ∈ others, IsServable (NfcTag.technologies other)) :
    let answer := answerTo tag desk.random request
    (desk.scan request tag others).1 = ⟨.ready (.ok answer.1), answer.2,
      others.map fun other => ⟨probe other, answer.2.random, []⟩⟩ ∧
    (desk.scan request tag others).2.random = answer.2.random := by
  obtain ⟨ticket, broker, polled, queued⟩ := free.poll_queues request
  rw [scan, polled]
  obtain ⟨answered, served⟩ := queued.handleTag_queued tag desk.random
  have probed := presentAll_idle (present { desk with broker := broker } tag).2 answered.request
    servable
  dsimp only [attend]
  rw [probed]
  refine ⟨?_, congrArg Served.random served⟩
  rw [Scanned.mk.injEq]
  refine ⟨answered.poll_waiting_answered.1, served, ?_⟩
  exact congrArg (fun left : Served τ =>
    others.map fun other => (⟨probe other, left.random, []⟩ : Served τ)) served

/-- However many scans, abandoned scans and strays there were before, a scan gets what its request
yields on its tag alone, with a new broker and the same random bytes, and its tag is treated alike.
Tags that can be served and come while no request is left, before the scan looks for its answer or
between two scans, are connected, closed and sent nothing. -/
theorem scan_answered_as_alone {σ : Type} [NfcTag σ] (random : RandomSource)
    (visits : List (Visit (RecordedTag σ))) (request : ScanRequest) (tag : RecordedTag σ)
    (others : List (RecordedTag σ))
    (servable : ∀ other ∈ others, IsServable (NfcTag.technologies other)) :
    let desk := (new random).after visits
    let scanned := desk.scan request tag others
    let alone := (new desk.random).scan request tag []
    (∃ result, alone.1.answer = .ready (.ok result) ∧ scanned.1.answer = .ready (.ok result)) ∧
      scanned.1.served = alone.1.served ∧ scanned.2.random = alone.2.random ∧
      List.Forall₂ Probed others scanned.1.others ∧
      ∀ stray : RecordedTag σ, IsServable (NfcTag.technologies stray) →
        Probed stray (desk.present stray).1 ∧ (desk.present stray).2 = desk := by
  intro desk scanned alone
  have free : desk.broker.At .free := after_free Broker.new_at visits
  obtain ⟨here, drawn⟩ := scan_answer desk free request tag servable
  obtain ⟨there, drawnAlone⟩ :=
    scan_answer (new desk.random) Broker.new_at request tag (List.forall_mem_nil _)
  refine ⟨⟨_, congrArg Scanned.answer there, congrArg Scanned.answer here⟩,
    (congrArg Scanned.served here).trans (congrArg Scanned.served there).symm,
    drawn.trans drawnAlone.symm, ?_, fun stray able => ?_⟩
  · rw [congrArg Scanned.others here, List.forall₂_map_right_iff, List.forall₂_same]
    exact fun other _ => probed_probe other _
  · rw [present_idle desk free.request able]
    exact ⟨probed_probe stray _, rfl⟩

/-- An answer that nobody fetched rings for the next caller as well. It still gets its own tag. -/
theorem abandoned_answer_is_not_found :
    let stray := RecordedTag.ofTag (SimulatedTag.ultralight [0x04, 0x01, 0x02, 0x03])
    let tag := RecordedTag.ofTag (SimulatedTag.ultralight [0x04, 0x11, 0x22, 0x33])
    let desk := (new ⟨fun _ => 0, 0⟩).after [.stray stray, .dropped .fastRead [stray]]
    let scanned := desk.scan .fastRead tag [stray]
    desk.broker.bell.permit = true ∧
      scanned.1.answer = .ready (.ok (.fastRead ⟨0x04112233⟩)) ∧
      List.Forall₂ Probed [stray] scanned.1.others := by
  intro stray tag desk scanned
  have servable : ∀ other ∈ [stray], IsServable (NfcTag.technologies other) := by
    intro other listed
    rw [List.mem_singleton.mp listed]
    exact ⟨by decide, by decide⟩
  obtain ⟨⟨result, alone, got⟩, _, _, probed, _⟩ := scan_answered_as_alone ⟨fun _ => 0, 0⟩
    [.stray stray, .dropped .fastRead [stray]] .fastRead tag [stray] servable
  cases alone
  exact ⟨rfl, got, probed⟩

end Desk
end Wristband
