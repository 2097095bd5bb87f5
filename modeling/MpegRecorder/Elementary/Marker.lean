import MpegRecorder.Bytes
import MpegRecorder.Elementary.Kind

/-!
Byte patterns that announce a picture which needs no other: where a recording can be cut. They are
found on the elementary stream without decoding it.
-/

namespace MpegRecorder.Elementary

/-- An H.264 access unit delimiter that announces intra slices only. -/
def intraDelimiter : Bytes := [0x00, 0x00, 0x00, 0x01, 0x09, 0x10, 0x00]

def pictureStart : Bytes := [0x00, 0x00, 0x01, 0x00]

def sequenceHeader : Bytes := [0x00, 0x00, 0x01, 0xB3]

def isIntraPicture (view : Bytes) : Bool :=
  match view[5]? with
  | some byte => byte &&& 0x38 == 0x08
  | none => false

namespace Family

def findIntra : Family → Bytes → Option Nat
  | h264, view => view.find intraDelimiter
  | mpeg2, view => view.findWhere pictureStart isIntraPicture

/-- The offset of the first marker that makes a pack a clean entry point. -/
def findEntry : Family → Bytes → Option Nat
  | h264, view => view.find intraDelimiter
  | mpeg2, view => view.find sequenceHeader

end Family

end MpegRecorder.Elementary
