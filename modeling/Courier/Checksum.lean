import Courier.Text.Utf8

/-! The 32-bit cyclic redundancy check of IEEE 802.3, bit by bit: reflected polynomial, register
started and finished with all ones. -/

namespace Courier.Checksum

/-- The reflected generator polynomial. -/
def polynomial : UInt32 := 0xEDB88320

def shift (register : UInt32) : UInt32 :=
  if register &&& 1 = 1 then (register >>> 1) ^^^ polynomial else register >>> 1

def feed (register : UInt32) (byte : UInt8) : UInt32 :=
  let mixed := register ^^^ byte.toUInt32
  shift (shift (shift (shift (shift (shift (shift (shift mixed)))))))

def crc32 (bytes : Bytes) : UInt32 := bytes.foldl feed 0xFFFFFFFF ^^^ 0xFFFFFFFF

end Courier.Checksum
