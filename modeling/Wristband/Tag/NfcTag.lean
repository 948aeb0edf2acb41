import Wristband.Tag.HardwareError
import Wristband.Tag.Technology

/-! What a terminal can do with a tag in its field. Every operation may change the tag,
whether it succeeds or not. -/

namespace Wristband

class NfcTag (τ : Type) where
  /-- The identifier from the collision avoidance. -/
  id : τ → Bytes
  technologies : τ → List Technology
  connect : τ → Except HardwareError Unit × τ
  close : τ → Except HardwareError Unit × τ
  /-- Sends a frame and waits for its answer. -/
  transceive : τ → Bytes → Except HardwareError Bytes × τ

end Wristband
