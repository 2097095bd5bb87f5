import MpegRecorder.Bytes

/-!
The 32 bit cyclic redundancy check that closes a table section: most significant bit first, all ones
to begin with, and no final complement, so that a section with its check has remainder zero.
-/

namespace MpegRecorder.Transport.Crc

def polynomial : UInt32 := 0x04C11DB7

def bitStep (register : UInt32) : UInt32 :=
  if register &&& 0x80000000 ≠ 0 then register <<< 1 ^^^ polynomial else register <<< 1

def byteStep (register : UInt32) (byte : UInt8) : UInt32 :=
  Nat.repeat bitStep 8 (register ^^^ byte.toUInt32 <<< 24)

def checksum (data : Bytes) : UInt32 :=
  data.foldl byteStep 0xFFFFFFFF

theorem checksum_append (front back : Bytes) :
    checksum (front ++ back) = back.foldl byteStep (checksum front) :=
  List.foldl_append

end MpegRecorder.Transport.Crc
