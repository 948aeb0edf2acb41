import Wristband.Bytes.Hex
import Wristband.DataError

/-! The identifier that a tag reports, folded into a 64-bit number. -/

namespace Wristband

structure Uid where
  value : UInt64
deriving DecidableEq, Repr

namespace Uid

/-- Folds one to eight bytes, most significant first. -/
def ofBytes (bytes : Bytes) : Except DataError Uid :=
  if bytes.isEmpty ∨ 8 < bytes.length then .error (.invalidUidLength bytes.length)
  else .ok ⟨UInt64.ofNat (Bytes.foldBigEndian bytes)⟩

/-- The number in upper-case hexadecimal with an even number of digits. -/
def text (uid : Uid) : String := String.ofList (Hex.padded (Hex.digits uid.value.toNat))

end Uid
end Wristband
