import Wristband.Broker.Basic
import Wristband.Scan.Execute

/-! What happens to a tag that comes into the field. A tag that cannot be served answers
the outstanding request without being touched. Otherwise the request is taken and run,
and the connection is closed whatever comes of it. -/

namespace Wristband

variable {τ : Type} [NfcTag τ]

/-- The tag and the random source after something was done with the tag, and the frames
that were sent to it, the first one first. -/
structure Served (τ : Type) where
  tag : τ
  random : RandomSource
  transcript : List (Transmission τ)

/-- Connects and closes, to see whether the tag is alive. -/
def probe (tag : τ) : τ := (NfcTag.close (NfcTag.connect tag).2).2

def resultOf : Except TagError ScanResult → ScanResult
  | .ok result => result
  | .error error => .fail error.toFailure

/-- Runs a request on a tag of a family. -/
def serve (tag : τ) (family : ChipFamily) (random : RandomSource) (request : ScanRequest) :
    ScanResult × Served τ :=
  match Session.openOn tag family random with
  | .error (error, tag) => (.fail error.toFailure, ⟨tag, random, []⟩)
  | .ok session =>
    let (outcome, session) := (Scan.execute request).run session
    let (_, session) := Session.close.run session
    (resultOf outcome, ⟨session.tag, session.random, session.transcript⟩)

def noNfcA : ScanResult := .fail ⟨.incompatible, "device has no NfcA support"⟩

def notSupported : ScanResult := .fail ⟨.incompatible, "tag not supported"⟩

namespace Broker

/-- Handles one presence of a tag. -/
def handleTag (broker : Broker) (tag : τ) (random : RandomSource) : Broker × Served τ :=
  let technologies := NfcTag.technologies tag
  if Technology.nfcA ∉ technologies then (broker.publishResult noNfcA, ⟨tag, random, []⟩)
  else
    match Technology.family? technologies with
    | none => (broker.publishResult notSupported, ⟨tag, random, []⟩)
    | some family =>
      match broker.takeRequest with
      | (none, broker) => (broker, ⟨probe tag, random, []⟩)
      | (some scan, broker) =>
        let (result, served) := serve tag family random scan.request
        (broker.complete scan.ticket result, served)

end Broker
end Wristband
