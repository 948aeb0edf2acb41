import Wristband.Bytes.Basic

/-! Memory layout of the chips. Memory is addressed in pages of four bytes. The
header and the user memory lie at the same pages on every chip; the configuration
and the keys do not. -/

namespace Wristband.Layout

def pageSize : Nat := 4

/-- Pages that one READ returns. -/
def readPages : Nat := 4

/-- Bytes that one READ returns. -/
def readLength : Nat := pageSize * readPages

/-- Pages of an Ultralight or Ultralight-C chip. -/
def pageCount : UInt8 := 48

/-- Pages of an Ultralight-AES chip. -/
def pageCountAes : UInt8 := 60

/-- First page of user memory. -/
def userStart : UInt8 := 0x04

/-- One past the last page of user memory. -/
def userEnd : UInt8 := 0x28

/-- Bytes of user memory. -/
def userSize : Nat := (userEnd.toNat - userStart.toNat) * pageSize

/-- Bytes of the identifier in pages 0 and 1. -/
def uidLength : Nat := 7

/-- Byte mixed into the first check byte of the identifier. -/
def cascadeTag : UInt8 := 0x88

/-- Ultralight-C page with AUTH0 in its first byte. -/
def tdesAuth0Page : UInt8 := 0x2A

/-- Ultralight-C page with AUTH1 in its first byte. -/
def tdesAuth1Page : UInt8 := 0x2B

/-- First of the four Ultralight-C key pages. -/
def tdesKeyPage : UInt8 := 0x2C

/-- Ultralight-AES page with flags in its first byte and AUTH0 in its last. -/
def aesConfigPage : UInt8 := 0x29

/-- Second configuration page of Ultralight-AES. -/
def aesAccessPage : UInt8 := 0x2A

/-- Place of AUTH0 in `aesConfigPage`. -/
def aesAuth0Byte : Nat := 3

/-- Flag that makes an Ultralight-AES tag ask for authenticated frames. -/
def aesCmacFlag : UInt8 := 0x02

/-- First of the four pages of the data protection key. -/
def aesDataKeyPage : UInt8 := 0x30

/-- First of the four pages of the identifier retrieval key. -/
def aesUidKeyPage : UInt8 := 0x34

/-- First of the four pages of the originality key. -/
def aesOriginalityKeyPage : UInt8 := 0x38

/-- AUTH0 value that protects user memory from its middle on. -/
def protectUserMemory : UInt8 := 0x10

/-- Bytes of a 3DES secret. -/
def tdesSecretLength : Nat := 6

/-- Bytes of a stored 3DES key. -/
def tdesKeyLength : Nat := 16

/-- Bytes of an AES key. -/
def aesKeyLength : Nat := 16

/-- Acknowledgement of a WRITE. -/
def ack : UInt8 := 0x0A

/-- The largest refusal code. Every smaller value but `ack` is one as well. -/
def nakMax : UInt8 := 0x0F

end Wristband.Layout

namespace Wristband

/-- Version of the package. -/
def version : String := "0.1.0"

end Wristband
