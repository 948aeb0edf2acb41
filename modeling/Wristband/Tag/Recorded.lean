import Wristband.Tag.NfcTag

/-! A tag behind a link that records what passes and can disturb it. Disturbances are
tied to the number of a connect, a close or a frame, each counted from zero. -/

namespace Wristband

/-- What happens to a frame or to its answer. -/
inductive Disturbance where
  /-- The frame is answered by something else than the tag. -/
  | reply (answer : Bytes)
  /-- The frame is lost before it reaches the tag. -/
  | fail (error : HardwareError)
  /-- The answer of the tag is changed: a bit flipped, cut off, and extended. -/
  | edit (flipped cut : Option Nat) (appended : Bytes)
deriving DecidableEq, Repr

/-- What passed over a link. -/
inductive LinkEvent where
  | connect (outcome : Except HardwareError Unit)
  | close (outcome : Except HardwareError Unit)
  | exchange (frame : Bytes) (outcome : Except HardwareError Bytes)

structure RecordedTag (τ : Type) where
  tag : τ
  connectErrors : List (Nat × HardwareError)
  closeErrors : List (Nat × HardwareError)
  disturbances : List (Nat × Disturbance)
  connects : Nat
  closes : Nat
  exchanges : Nat
  events : List LinkEvent

namespace RecordedTag

variable {τ : Type}

/-- A link that is not disturbed. -/
def ofTag (tag : τ) : RecordedTag τ :=
  { tag := tag, connectErrors := [], closeErrors := [], disturbances := [],
    connects := 0, closes := 0, exchanges := 0, events := [] }

def editAnswer (flipped cut : Option Nat) (appended answer : Bytes) : Bytes :=
  let answer := match flipped with
    | some index => answer.flipAt index
    | none => answer
  let answer := match cut with
    | some length => answer.take length
    | none => answer
  answer ++ appended

variable [NfcTag τ]

def connect (link : RecordedTag τ) : Except HardwareError Unit × RecordedTag τ :=
  let step : Except HardwareError Unit × τ :=
    match link.connectErrors.lookup link.connects with
    | some error => (.error error, link.tag)
    | none => NfcTag.connect link.tag
  (step.1, { link with
    tag := step.2, connects := link.connects + 1, events := link.events ++ [.connect step.1] })

def close (link : RecordedTag τ) : Except HardwareError Unit × RecordedTag τ :=
  let step : Except HardwareError Unit × τ :=
    match link.closeErrors.lookup link.closes with
    | some error => (.error error, link.tag)
    | none => NfcTag.close link.tag
  (step.1, { link with
    tag := step.2, closes := link.closes + 1, events := link.events ++ [.close step.1] })

def transceive (link : RecordedTag τ) (frame : Bytes) :
    Except HardwareError Bytes × RecordedTag τ :=
  let step : Except HardwareError Bytes × τ :=
    match link.disturbances.lookup link.exchanges with
    | none => NfcTag.transceive link.tag frame
    | some (.reply answer) => (.ok answer, link.tag)
    | some (.fail error) => (.error error, link.tag)
    | some (.edit flipped cut appended) =>
      let answered := NfcTag.transceive link.tag frame
      (answered.1.map (editAnswer flipped cut appended), answered.2)
  (step.1, { link with
    tag := step.2
    exchanges := link.exchanges + 1
    events := link.events ++ [.exchange frame step.1] })

instance : NfcTag (RecordedTag τ) where
  id link := NfcTag.id link.tag
  technologies link := NfcTag.technologies link.tag
  connect := connect
  close := close
  transceive := transceive

end RecordedTag
end Wristband
