/-! What the radio of a terminal is asked to look for. -/

namespace Wristband

structure ReaderFlags where
  nfcA : Bool
  nfcB : Bool
  nfcF : Bool
  nfcV : Bool
  skipNdefCheck : Bool
  noPlatformSounds : Bool
deriving DecidableEq, Repr

structure ReaderOptions where
  flags : ReaderFlags
  /-- Milliseconds between two looks whether the tag is still there. -/
  presenceCheckDelay : UInt64
deriving DecidableEq, Repr

structure ReaderConfig where
  presenceCheckDelay : UInt64
  platformSounds : Bool
deriving DecidableEq, Repr

/-- Half a second and no sounds. -/
def ReaderConfig.default : ReaderConfig := ⟨500, false⟩

/-- Only NFC-A tags are looked for, and none is searched for written records. -/
def ReaderConfig.options (config : ReaderConfig) : ReaderOptions :=
  { flags :=
      { nfcA := true, nfcB := false, nfcF := false, nfcV := false, skipNdefCheck := true,
        noPlatformSounds := !config.platformSounds }
    presenceCheckDelay := config.presenceCheckDelay }

/-- The digits of a number of thousandths, at most three and no zeros at the end. -/
def thousandths (count : Nat) : String :=
  let digits := [count / 100 % 10, count / 10 % 10, count % 10]
  let kept := (digits.reverse.dropWhile (· == 0)).reverse
  String.join (kept.map toString)

/-- Seconds with as many places as they need, or milliseconds below one second. -/
def durationText (milliseconds : UInt64) : String :=
  let seconds := milliseconds.toNat / 1000
  let rest := milliseconds.toNat % 1000
  if seconds = 0 then (if rest = 0 then "0ns" else s!"{rest}ms")
  else if rest = 0 then s!"{seconds}s"
  else s!"{seconds}." ++ thousandths rest ++ "s"

def ReaderFlags.description (flags : ReaderFlags) : String :=
  s!"ReaderFlags \x7b nfc_a: {flags.nfcA}, nfc_b: {flags.nfcB}, nfc_f: {flags.nfcF}, " ++
    s!"nfc_v: {flags.nfcV}, skip_ndef_check: {flags.skipNdefCheck}, " ++
    s!"no_platform_sounds: {flags.noPlatformSounds} \x7d"

def ReaderOptions.description (options : ReaderOptions) : String :=
  "ReaderOptions \x7b flags: " ++ options.flags.description ++ ", presence_check_delay: " ++
    durationText options.presenceCheckDelay ++ " \x7d"

end Wristband
