import UEnv.Lib.Wire

/-!
# CRC-32

The checksum of IEEE 802.3 on byte lists, with the reflected polynomial.
-/

namespace UEnv.Crc32

open Wire

/-- One bit. -/
def shift (crc : UInt32) : UInt32 :=
  if crc &&& 1 = 1 then (crc >>> 1) ^^^ 0xEDB88320 else crc >>> 1

/-- One byte. -/
def update (crc : UInt32) (byte : UInt8) : UInt32 :=
  shift (shift (shift (shift (shift (shift (shift (shift (crc ^^^ byte.toUInt32))))))))

def checksum (message : Bytes) : UInt32 := ~~~ message.foldl update 0xFFFFFFFF

-- the check value of the standard
example : checksum (utf8 "123456789") = 0xCBF43926 := by decide +kernel

end UEnv.Crc32
