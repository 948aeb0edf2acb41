import Wristband.Json.Record
import Wristband.Reader.Options

/-! Reading the configuration of a reader. Every field may be missing. -/

namespace Wristband.ReaderConfig

open Json

def readField (field : Nat) (config : ReaderConfig) : Reading ReaderConfig := do
  if field = 0 then
    let delay ← readNatural UInt64.size
    return { config with presenceCheckDelay := UInt64.ofNat delay }
  else
    let sounds ← readBool
    return { config with platformSounds := sounds }

def ofJson (text : String) : Except ReadError ReaderConfig :=
  readAll (readRecord ["presence_check_delay_ms", "platform_sounds"] readField .default) text

end Wristband.ReaderConfig
