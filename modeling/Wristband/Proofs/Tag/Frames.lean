import Wristband.Proofs.Session.Preconditions
import Wristband.Proofs.Tag.Protection

/-! Frames between the codec of a family and its tags. The terminal makes READ and WRITE frames and
understands what comes back, the tag takes the frames apart on its own, and both have to mean the
same pages, also past the last page and where keys are hidden. -/

namespace Wristband

section

variable {family : ChipFamily} {page : UInt8} {data : Bytes}

end

namespace SimulatedTag

variable {tag : SimulatedTag} {page other : UInt8} {data frame : Bytes}

namespace Ready

variable (ready : tag.Ready) (open_ : tag.channel? = none)
include ready open_

end Ready

end SimulatedTag
end Wristband
