import MpegRecorder.Bytes
import MpegRecorder.Malformed

/-!
Transport stream packets: 188 bytes that open with the sync byte, with an optional adaptation field
and an optional payload behind a four byte header.
-/

namespace MpegRecorder.Transport

def packetSize : Nat := 188

def syncByte : UInt8 := 0x47

def associationPid : UInt16 := 0

def stuffingPid : UInt16 := 0x1FFF

structure Packet where
  transportError : Bool
  unitStart : Bool
  priority : Bool
  pid : UInt16
  scrambling : UInt8
  adaptationControl : UInt8
  continuity : UInt8
  /-- The body of the adaptation field, without its length byte. -/
  adaptation : Option Bytes
  payload : Option Bytes
deriving Repr, DecidableEq

namespace Packet

def splitAdaptation (present : Bool) (body : Bytes) : Except Malformed (Option Bytes × Bytes) :=
  match present, body with
  | false, body => .ok (none, body)
  | true, [] => .error (.tooShort 5 4)
  | true, length :: rest =>
    if rest.length < length.toNat then
      .error (.tooShort (5 + length.toNat) (5 + rest.length))
    else .ok (some (rest.take length.toNat), rest.drop length.toNat)

def parse (data : Bytes) : Except Malformed Packet :=
  if data.length ≠ packetSize then .error (.packetSize packetSize data.length)
  else if data.byteAt 0 ≠ syncByte then .error (.syncByte (data.byteAt 0))
  else
    let control := data.byteAt 3 >>> 4 &&& 0x03
    match splitAdaptation (control &&& 0x02 != 0) (data.drop 4) with
    | .error e => .error e
    | .ok (adaptation, rest) =>
      .ok {
        transportError := data.byteAt 1 &&& 0x80 != 0
        unitStart := data.byteAt 1 &&& 0x40 != 0
        priority := data.byteAt 1 &&& 0x20 != 0
        pid := data.pidAt 1
        scrambling := data.byteAt 3 >>> 6 &&& 0x03
        adaptationControl := control
        continuity := data.byteAt 3 &&& 0x0F
        adaptation := adaptation
        payload := if control &&& 0x01 != 0 && !rest.isEmpty then some rest else none }

/--
The table section that the payload carries. At the start of a unit the first payload byte says how
many bytes precede the section; a section without bytes is none.
-/
def tableSection (packet : Packet) : Option Bytes :=
  match packet.payload with
  | none => none
  | some payload =>
    if packet.unitStart then
      match payload with
      | [] => none
      | pointer :: rest =>
        let content := rest.drop pointer.toNat
        if content.isEmpty then none else some content
    else some payload

/-- The base of the program clock reference in 90 kHz ticks, if the packet carries one. -/
def clockBase (packet : Packet) : Option Nat :=
  match packet.adaptation with
  | none => none
  | some field =>
    if field.length < 7 ∨ field.byteAt 0 &&& 0x10 = 0 then none
    else some ((field.byteAt 1).toNat <<< 25 + (field.byteAt 2).toNat <<< 17
      + (field.byteAt 3).toNat <<< 9 + (field.byteAt 4).toNat <<< 1 + (field.byteAt 5).toNat >>> 7)

/-- The four header bytes of a packet without error or scrambling flags. -/
def header (pid : UInt16) (unitStart : Bool) (adaptationControl continuity : UInt8) : Bytes :=
  [ syncByte,
    (pid >>> 8).toUInt8 &&& 0x1F ||| (if unitStart then 0x40 else 0),
    pid.toUInt8,
    (adaptationControl &&& 0x03) <<< 4 ||| (continuity &&& 0x0F) ]

theorem length_eq_of_parse {data : Bytes} {packet : Packet} (parsed : parse data = .ok packet) :
    data.length = packetSize := by
  unfold parse at parsed
  split at parsed
  · cases parsed
  · omega

end Packet

end MpegRecorder.Transport
