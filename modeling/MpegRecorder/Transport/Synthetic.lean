import MpegRecorder.Elementary.Timestamp
import MpegRecorder.Transport.Association
import MpegRecorder.Transport.Packet
import MpegRecorder.Transport.ProgramMap

/-!
Synthetic transport streams, written packet by packet: one program with a video and an audio stream,
enough to exercise detection, switching and program stream output.
-/

namespace MpegRecorder.Transport

structure Synthetic where
  /-- The packets so far, newest first. -/
  packets : List Bytes
  /-- The next continuity count of each packet identifier in use. -/
  continuity : List (UInt16 × UInt8)
  /-- The presentation time of the latest video unit. -/
  time : Nat

namespace Synthetic

def programNumber : UInt16 := 1

def mapPid : UInt16 := 0x1000

def videoPid : UInt16 := 0x0100

def audioPid : UInt16 := 0x0101

/-- The clock travels with the video. -/
def clockPid : UInt16 := videoPid

def empty : Synthetic := ⟨[], [], 0⟩

def bytes (stream : Synthetic) : Bytes :=
  stream.packets.reverse.flatten

def count (stream : Synthetic) (pid : UInt16) : UInt8 :=
  (stream.continuity.lookup pid).getD 0

def packet (stream : Synthetic) (pid : UInt16) (unitStart : Bool) (control : UInt8)
    (content : Bytes) : Synthetic :=
  let count := stream.count pid
  let written := Packet.header pid unitStart control count ++ content
  { stream with
    packets := (written ++ List.replicate (packetSize - written.length) 0xFF) :: stream.packets
    continuity := (pid, (count + 1) &&& 0x0F)
      :: stream.continuity.filter fun entry => entry.1 != pid }

def payload (stream : Synthetic) (pid : UInt16) (unitStart : Bool) (content : Bytes) : Synthetic :=
  stream.packet pid unitStart 0x01 content

def tables (stream : Synthetic) (video : Elementary.Kind) : Synthetic :=
  (stream.payload associationPid true
      (0x00 :: Association.build 1 0 [⟨programNumber, mapPid⟩])).payload mapPid true
    (0x00 :: ProgramMap.build programNumber 0 clockPid
      [⟨video, videoPid⟩, ⟨.mpeg1Audio, audioPid⟩])

def videoPackets (stream : Synthetic) (count : Nat) : Synthetic :=
  Nat.repeat (fun stream => stream.payload videoPid false []) count stream

def stuffing (stream : Synthetic) (count : Nat) : Synthetic :=
  Nat.repeat (fun stream => stream.payload stuffingPid false []) count stream

/-- The start of an unbounded video unit, one frame after the last. -/
def videoStart (stream : Synthetic) (content : Bytes) : Synthetic :=
  let time := stream.time + 3003
  { stream with time }.payload videoPid true
    ([0x00, 0x00, 0x01, 0xE0, 0x00, 0x00, 0x80, 0x80, 0x05]
      ++ Elementary.Timestamp.write 0x2 time ++ content)

def h264Intra (stream : Synthetic) : Synthetic :=
  stream.videoStart [0x00, 0x00, 0x00, 0x01, 0x09, 0x10, 0x00]

def h264Predicted (stream : Synthetic) : Synthetic :=
  stream.videoStart [0x00, 0x00, 0x00, 0x01, 0x09, 0x30, 0x00]

def mpeg2Intra (stream : Synthetic) : Synthetic :=
  stream.videoStart
    [ 0x00, 0x00, 0x01, 0xB3, 0x2D, 0x01, 0xE0, 0x24, 0xFF, 0xFF, 0xE0, 0x18,
      0x00, 0x00, 0x01, 0x00, 0x00, 0x0F, 0xFF, 0xF8 ]

def audio (stream : Synthetic) (length : Nat) : Synthetic :=
  stream.payload audioPid true
    ([0x00, 0x00, 0x01, 0xC0] ++ Bytes.ofWord (UInt16.ofNat (length + 3)) ++ [0x80, 0x00, 0x00]
      ++ List.replicate length 0xAA)

def clock (stream : Synthetic) (base : Nat) : Synthetic :=
  stream.packet clockPid false 0x02
    [ UInt8.ofNat (packetSize - 5), 0x10,
      UInt8.ofNat (base >>> 25), UInt8.ofNat (base >>> 17), UInt8.ofNat (base >>> 9),
      UInt8.ofNat (base / 2), UInt8.ofNat (base % 2 * 0x80 + 0x7E), 0x00 ]

end Synthetic

end MpegRecorder.Transport
