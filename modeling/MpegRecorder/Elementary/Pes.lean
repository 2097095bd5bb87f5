import MpegRecorder.Elementary.Timestamp
import MpegRecorder.Malformed

/-!
The headers of packetized elementary stream packets: a start code, a stream identifier and a length,
and for most streams an optional part with time stamps.
-/

namespace MpegRecorder.Elementary.Pes

/-- Bytes of the fixed part: start code, stream identifier and length. -/
def fixedLength : Nat := 6

/-- Headers are no longer than this: nine bytes, and as many more as a byte can count. -/
def headerLimit : Nat := 9 + 255

structure Header where
  streamId : UInt8
  /-- The length field; zero leaves the packet unbounded. -/
  packetLength : Nat
  /-- Bytes of the whole header, optional part included. -/
  headerLength : Nat
  presentation : Option Nat
  decoding : Option Nat
deriving Repr, DecidableEq

def hasOptionalPart (streamId : UInt8) : Bool :=
  !([0xBC, 0xBE, 0xBF, 0xF0, 0xF1, 0xF2, 0xF8, 0xFF] : Bytes).contains streamId

namespace Header

/--
Reads the optional part, which stands after the fixed one. Its own length must be there in full, and
a bounded packet must be long enough to hold it.
-/
def parseOptional (streamId : UInt8) (packetLength : Nat) (data : Bytes) : Except Malformed Header :=
  match data with
  | _ :: flags :: length :: fields =>
    let headerLength := 9 + length.toNat
    if fields.length < length.toNat then .error (.tooShort headerLength (9 + fields.length))
    else if packetLength ≠ 0 ∧ packetLength < headerLength - fixedLength then
      .error (.pesLength packetLength headerLength)
    else
      .ok {
        streamId, packetLength, headerLength
        presentation :=
          if flags &&& 0x80 ≠ 0 ∧ 14 ≤ headerLength then Timestamp.read? fields else none
        decoding :=
          if flags &&& 0xC0 = 0xC0 ∧ 19 ≤ headerLength then Timestamp.read? (fields.drop 5)
          else none }
  | _ => .error (.tooShort 9 (fixedLength + data.length))

def parse (data : Bytes) : Except Malformed Header :=
  match data with
  | c2 :: c1 :: c0 :: streamId :: l1 :: l0 :: rest =>
    if [c2, c1, c0] ≠ [0x00, 0x00, 0x01] then
      .error (.startCode (Bytes.toNat [c2, c1, c0, streamId]))
    else
      let packetLength := Bytes.toNat [l1, l0]
      if hasOptionalPart streamId then parseOptional streamId packetLength rest
      else .ok ⟨streamId, packetLength, fixedLength, none, none⟩
  | _ => .error (.tooShort fixedLength data.length)

def totalLength (header : Header) : Option Nat :=
  if header.packetLength = 0 then none else some (fixedLength + header.packetLength)

theorem toOption_parseOptional_take {count : Nat} (enough : 258 ≤ count) (streamId : UInt8)
    (packetLength : Nat) (data : Bytes) :
    (parseOptional streamId packetLength (data.take count)).toOption =
      (parseOptional streamId packetLength data).toOption := by
  obtain ⟨more, rfl⟩ := Nat.exists_eq_add_of_le' enough
  match data with
  | [] | [_] | [_, _] => simp [parseOptional, Except.toOption]
  | first :: flags :: length :: fields =>
    have bound := length.toNat_lt
    have short : (fields.take (more + 255)).length < length.toNat ↔ fields.length < length.toNat := by
      simp only [List.length_take]
      omega
    have times : Timestamp.read? ((fields.take (more + 255)).drop 5) =
        Timestamp.read? (fields.drop 5) := by
      rw [List.drop_take]
      exact Timestamp.read?_take (by omega) _
    simp only [List.take_succ_cons, parseOptional, short, times,
      Timestamp.read?_take (show 5 ≤ more + 255 by omega)]
    split <;> rfl

theorem toOption_parse_take {count : Nat} (enough : headerLimit ≤ count) (data : Bytes) :
    (parse (data.take count)).toOption = (parse data).toOption := by
  obtain ⟨more, rfl⟩ := Nat.exists_eq_add_of_le' enough
  match data with
  | [] | [_] | [_, _] | [_, _, _] | [_, _, _, _] | [_, _, _, _, _] =>
    simp [parse, headerLimit, Except.toOption]
  | c2 :: c1 :: c0 :: streamId :: l1 :: l0 :: rest =>
    simp only [headerLimit, Nat.reduceAdd, List.take_succ_cons, parse]
    split
    · rfl
    · split
      · exact toOption_parseOptional_take (by omega) ..
      · rfl

end Header

def fixedPart (streamId : UInt8) (length : Nat) : Bytes :=
  [0x00, 0x00, 0x01, streamId] ++ Bytes.ofWord (UInt16.ofNat length)

/-- The header of a packet that goes on with a unit begun before, without time stamps. -/
def continuation (streamId : UInt8) (payloadLength : Nat) : Bytes :=
  if hasOptionalPart streamId then
    fixedPart streamId (payloadLength + 3) ++ [0x80, 0x00, 0x00]
  else fixedPart streamId payloadLength

def continuationLength (streamId : UInt8) : Nat :=
  if hasOptionalPart streamId then 9 else 6

theorem length_continuation (streamId : UInt8) (payloadLength : Nat) :
    (continuation streamId payloadLength).length = continuationLength streamId := by
  unfold continuation continuationLength
  split <;> rfl

end MpegRecorder.Elementary.Pes
