import Wristband.Cipher.Aes

/-! The message authentication code CMAC over AES-128. -/

namespace Wristband.Cmac

/-- The product of a block, read as a field element, with `x`. -/
def doubleBlock (block : Bytes) : Bytes :=
  let shifted := List.zipWith (fun (byte next : UInt8) => (byte <<< 1) ||| (next >>> 7))
    block (block.drop 1 ++ [0])
  let reduction : UInt8 := if (block.getD 0 0) &&& 0x80 = 0 then 0 else 0x87
  Bytes.xor shifted (List.replicate 15 0 ++ [reduction])

/-- The last block of a message with the key that marks whether it was whole. -/
def finalBlock (wholeKey partialKey last : Bytes) : Bytes :=
  if last.length = 16 then Bytes.xor last wholeKey
  else Bytes.xor (last ++ 0x80 :: List.replicate (15 - last.length) 0) partialKey

/-- The sixteen-byte code of a message of any length. -/
def code (key message : Bytes) : Bytes :=
  let cipher := Aes.cipher key
  let wholeKey := doubleBlock (cipher.encrypt (List.replicate 16 0))
  let partialKey := doubleBlock wholeKey
  let blocks := pieces 16 message
  let final := finalBlock wholeKey partialKey (blocks.getLastD [])
  (blocks.dropLast ++ [final]).foldl
    (fun chained block => cipher.encrypt (Bytes.xor block chained))
    (List.replicate 16 0)

end Wristband.Cmac
