import Wristband.Tag.NfcTag

/-! Tags with a name, which stays with them whatever is done. -/

namespace Wristband

structure NamedTag (τ : Type) where
  name : String
  tag : τ

variable {τ : Type} [NfcTag τ]

instance : NfcTag (NamedTag τ) where
  id named := NfcTag.id named.tag
  technologies named := NfcTag.technologies named.tag
  connect named := (NfcTag.connect named.tag).map id ({ named with tag := · })
  close named := (NfcTag.close named.tag).map id ({ named with tag := · })
  transceive named frame := (NfcTag.transceive named.tag frame).map id ({ named with tag := · })

end Wristband
