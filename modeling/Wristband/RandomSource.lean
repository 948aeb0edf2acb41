import Wristband.Bytes.Basic

/-! Sources of random bytes. Whatever draws from a source takes the next bytes of one
unending stream. -/

namespace Wristband

structure RandomSource where
  byteAt : Nat → UInt8
  taken : Nat

namespace RandomSource

/-- The next `count` bytes. -/
def next (source : RandomSource) (count : Nat) : Bytes :=
  (List.range count).map fun offset => source.byteAt (source.taken + offset)

/-- The source after `count` bytes were drawn. -/
def skip (source : RandomSource) (count : Nat) : RandomSource :=
  { source with taken := source.taken + count }

end RandomSource
end Wristband
