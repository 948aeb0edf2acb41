import Wristband.Bytes.Basic

/-! UTF-8 in both directions. Reading never fails: every longest start of a character
that does not continue as it should is read as one replacement character. -/

namespace Wristband.Text

def encodeUtf8 (characters : List Char) : Bytes := characters.flatMap String.utf8EncodeChar

def replacement : Char := '\ufffd'

/-- What the bytes after a leading byte must be: the range of the second byte and
the number of bytes after it. -/
def sequenceShape? (lead : UInt8) : Option (UInt8 × UInt8 × Nat) :=
  if 0xC2 ≤ lead && lead ≤ 0xDF then some (0x80, 0xBF, 0)
  else if lead = 0xE0 then some (0xA0, 0xBF, 1)
  else if lead = 0xED then some (0x80, 0x9F, 1)
  else if 0xE1 ≤ lead && lead ≤ 0xEF then some (0x80, 0xBF, 1)
  else if lead = 0xF0 then some (0x90, 0xBF, 2)
  else if 0xF1 ≤ lead && lead ≤ 0xF3 then some (0x80, 0xBF, 2)
  else if lead = 0xF4 then some (0x80, 0x8F, 2)
  else none

def isContinuation (byte : UInt8) : Bool := 0x80 ≤ byte && byte ≤ 0xBF

/-- The payload bits of a leading byte that announces so many further bytes. -/
def leadBits (lead : UInt8) (further : Nat) : Nat := lead.toNat % (1 <<< (6 - further))

/-- One character from the bytes after its leading byte, and how many of them it
takes. -/
def decodeCharacter (lead : UInt8) (rest : Bytes) : Char × Nat :=
  if lead < 0x80 then (Char.ofNat lead.toNat, 0)
  else
    match sequenceShape? lead, rest with
    | some (low, high, further), second :: tail =>
      if low ≤ second && second ≤ high then
        let found := (tail.take further).takeWhile isContinuation
        if found.length = further then
          let value := (second :: found).foldl (fun value byte => value * 64 + byte.toNat % 64)
            (leadBits lead (further + 1))
          (Char.ofNat value, further + 1)
        else (replacement, found.length + 1)
      else (replacement, 0)
    | _, _ => (replacement, 0)

/-- The characters that the bytes spell. -/
def decodeUtf8 : Bytes → List Char
  | [] => []
  | lead :: rest =>
    let decoded := decodeCharacter lead rest
    decoded.1 :: decodeUtf8 (rest.drop decoded.2)
termination_by bytes => bytes.length
decreasing_by
  rw [List.length_drop, List.length_cons]
  omega

end Wristband.Text
