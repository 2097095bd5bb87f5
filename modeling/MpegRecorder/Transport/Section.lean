import MpegRecorder.Malformed
import MpegRecorder.Transport.Crc

/-!
Table sections: a table identifier, a 12 bit length, the body, and a check over all of it. A reader
takes the body of the table that it expects and does not verify the check; a writer appends it.
-/

namespace MpegRecorder.Transport.Section

def checkLength : Nat := 4

/--
The body of a section, check left off. The section must be one of table `table`, in the long form,
at least `least` bytes long after its length field, and wholly present; bytes after it are ignored.
-/
def body (table : UInt8) (least : Nat) (data : Bytes) : Except Malformed Bytes :=
  if data.length < 3 then .error (.tooShort 3 data.length)
  else if data.byteAt 0 ≠ table then .error (.tableId table (data.byteAt 0))
  else if data.byteAt 1 &&& 0x80 = 0 then .error (.shortForm table)
  else
    let length := data.lengthAt 1
    if length < least then .error (.sectionLength length)
    else if data.length < 3 + length then .error (.tooShort (3 + length) data.length)
    else .ok ((data.drop 3).take (length - checkLength))

def build (table : UInt8) (content : Bytes) : Bytes :=
  let length := content.length + checkLength
  let checked : Bytes :=
    table :: (0xB0 ||| UInt8.ofNat (length / 256) &&& 0x0F) :: UInt8.ofNat length :: content
  checked ++ Bytes.ofLongWord (Crc.checksum checked)

/-- The body bytes that every table opens with: its identifier, version, and section numbers. -/
def opening (identifier : UInt16) (version : UInt8) : Bytes :=
  Bytes.ofWord identifier ++ [(0xC1 : UInt8) ||| (version &&& 0x1F) <<< 1, 0x00, 0x00]

def version (content : Bytes) : UInt8 :=
  content.byteAt 2 >>> 1 &&& 0x1F

def pidField (pid : UInt16) : Bytes :=
  Bytes.ofWord (0xE000 ||| pid)

end MpegRecorder.Transport.Section
