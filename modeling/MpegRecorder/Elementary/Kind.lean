/-!
The kinds of elementary stream that a program map names, and the codec families among them that
splice points are known for.
-/

namespace MpegRecorder.Elementary

inductive Kind where
  | mpeg1Video
  | mpeg2Video
  | mpeg1Audio
  | mpeg2Audio
  | privatePes
  | adtsAac
  | mpeg4Visual
  | latmAac
  | h264
  | h265
  | h266
  | ac3
  | eac3
  | dts
  | digiCipherVideo
  | unknown (code : UInt8)
deriving Repr, DecidableEq, Inhabited

inductive Family where
  | h264
  | mpeg2
deriving Repr, DecidableEq, Inhabited

namespace Kind

def ofCode (code : UInt8) : Kind :=
  match code.toNat with
  | 0x01 => mpeg1Video
  | 0x02 => mpeg2Video
  | 0x03 => mpeg1Audio
  | 0x04 => mpeg2Audio
  | 0x06 => privatePes
  | 0x0F => adtsAac
  | 0x10 => mpeg4Visual
  | 0x11 => latmAac
  | 0x1B => h264
  | 0x24 => h265
  | 0x33 => h266
  | 0x80 => digiCipherVideo
  | 0x81 => ac3
  | 0x82 => dts
  | 0x87 => eac3
  | _ => unknown code

def toCode : Kind → UInt8
  | mpeg1Video => 0x01
  | mpeg2Video => 0x02
  | mpeg1Audio => 0x03
  | mpeg2Audio => 0x04
  | privatePes => 0x06
  | adtsAac => 0x0F
  | mpeg4Visual => 0x10
  | latmAac => 0x11
  | h264 => 0x1B
  | h265 => 0x24
  | h266 => 0x33
  | digiCipherVideo => 0x80
  | ac3 => 0x81
  | dts => 0x82
  | eac3 => 0x87
  | unknown code => code

def isVideo : Kind → Bool
  | mpeg1Video | mpeg2Video | mpeg4Visual | h264 | h265 | h266 | digiCipherVideo => true
  | _ => false

def isAudio : Kind → Bool
  | mpeg1Audio | mpeg2Audio | adtsAac | latmAac | ac3 | eac3 | dts => true
  | _ => false

def name : Kind → String
  | mpeg1Video => "MPEG1-Video"
  | mpeg2Video | digiCipherVideo => "MPEG2-Video"
  | mpeg1Audio => "MPEG1-Audio"
  | mpeg2Audio => "MPEG2-Audio"
  | privatePes => "Private"
  | adtsAac | latmAac => "AAC"
  | mpeg4Visual => "MPEG4-Video"
  | h264 => "H.264"
  | h265 => "H.265"
  | h266 => "H.266"
  | ac3 => "AC3"
  | eac3 => "EAC3"
  | dts => "DTS"
  | unknown _ => "Unknown"

def family? : Kind → Option Family
  | h264 => some .h264
  | mpeg2Video | digiCipherVideo => some .mpeg2
  | _ => none

def fitsProgramStream : Kind → Bool
  | mpeg1Video | mpeg2Video | digiCipherVideo => true
  | _ => false

/-- The codec name that a detected video stream is reported under. -/
def videoName : Kind → String
  | h265 => "HEVC"
  | kind => kind.name

end Kind

end MpegRecorder.Elementary
