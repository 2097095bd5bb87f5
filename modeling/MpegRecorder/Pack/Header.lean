import MpegRecorder.Bytes
import MpegRecorder.Malformed

/-!
Pack headers of MPEG-2 program streams: a system clock reference and a multiplex rate, both spread
between marker bits over fourteen bytes.
-/

namespace MpegRecorder.Pack

def startCode : Bytes := [0x00, 0x00, 0x01, 0xBA]

def endCode : Bytes := [0x00, 0x00, 0x01, 0xB9]

/-- Bytes of a pack header without stuffing. -/
def headerLength : Nat := 14

def packSize : Nat := 2048

structure Header where
  /-- The system clock reference base in 90 kHz ticks. -/
  clockBase : Nat
  clockExtension : Nat
  /-- The multiplex rate in units of 50 bytes per second. -/
  rate : Nat
  /-- Bytes of the header, stuffing included. -/
  length : Nat
deriving Repr, DecidableEq

def isStart (view : Bytes) : Bool :=
  startCode.isPrefixOf view

namespace Header

/-- A header without stuffing; the clock keeps 33 bits and the rate 22. -/
def new (clockBase rate : Nat) : Header :=
  ⟨clockBase % (1 <<< 33), 0, rate % (1 <<< 22), headerLength⟩

def parse (data : Bytes) : Except Malformed Header :=
  match data with
  | c3 :: c2 :: c1 :: c0 :: b0 :: b1 :: b2 :: b3 :: b4 :: b5 :: b6 :: b7 :: b8 :: b9 :: _ =>
    if [c3, c2, c1, c0] ≠ startCode then .error (.startCode (Bytes.toNat [c3, c2, c1, c0]))
    else if b0 &&& 0xC0 ≠ 0x40 then .error .legacyPack
    else
      .ok {
        clockBase := (b0.toNat / 8 % 8) <<< 30 + (b0.toNat % 4) <<< 28 + b1.toNat <<< 20
          + (b2.toNat / 8) <<< 15 + (b2.toNat % 4) <<< 13 + b3.toNat <<< 5 + b4.toNat / 8
        clockExtension := (b4.toNat % 4) <<< 7 + b5.toNat / 2
        rate := b6.toNat <<< 14 + b7.toNat <<< 6 + b8.toNat / 4
        length := headerLength + b9.toNat % 8 }
  | _ => .error (.tooShort headerLength data.length)

/-- The fourteen bytes of a header; bits beyond the width of a field are lost. -/
def toBytes (header : Header) : Bytes :=
  startCode ++
    [ UInt8.ofNat (0x44 + header.clockBase >>> 30 % 8 * 8 + header.clockBase >>> 28 % 4),
      UInt8.ofNat (header.clockBase >>> 20),
      UInt8.ofNat (0x04 + header.clockBase >>> 15 % 32 * 8 + header.clockBase >>> 13 % 4),
      UInt8.ofNat (header.clockBase >>> 5),
      UInt8.ofNat (header.clockBase % 32 * 8 + 0x04 + header.clockExtension >>> 7 % 4),
      UInt8.ofNat (header.clockExtension % 128 * 2 + 1),
      UInt8.ofNat (header.rate >>> 14),
      UInt8.ofNat (header.rate >>> 6),
      UInt8.ofNat (header.rate % 64 * 4 + 3),
      0xF8 ]

@[simp] theorem length_toBytes (header : Header) : header.toBytes.length = headerLength := rfl

end Header

end MpegRecorder.Pack
