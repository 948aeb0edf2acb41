/-! The key slots of a tag, as numbered in the first message of a handshake. -/

namespace Wristband

inductive KeySlot where
  | dataProtection
  | uidRetrieval
  | originality
deriving DecidableEq, Repr

namespace KeySlot

def code : KeySlot → UInt8
  | dataProtection => 0
  | uidRetrieval => 1
  | originality => 2

def ofCode? (code : UInt8) : Option KeySlot :=
  if code = 0 then some dataProtection
  else if code = 1 then some uidRetrieval
  else if code = 2 then some originality
  else none

def name : KeySlot → String
  | dataProtection => "DataProtKey"
  | uidRetrieval => "UidRetrKey"
  | originality => "OriginalityKey"

/-- The slot that is used when none is asked for. -/
instance : Inhabited KeySlot := ⟨dataProtection⟩

end KeySlot
end Wristband
