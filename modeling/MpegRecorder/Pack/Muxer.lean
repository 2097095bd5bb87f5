import MpegRecorder.Elementary.Pes
import MpegRecorder.Pack.Header
import MpegRecorder.Packed
import MpegRecorder.Transport.Packet
import MpegRecorder.Transport.Program

/-!
A muxer rebuilds the packetized units of one program from transport packets and frames each in packs
of a program stream. A bounded unit leaves as soon as it is complete, any other when the next one of
its stream starts, or at the end.
-/

namespace MpegRecorder.Pack

open Elementary Transport

/-- The multiplex rate that packs announce, in units of 50 bytes per second. -/
def announcedRate : Nat := 25200

/-- How far the system clock runs ahead of the decoding time while no clock reference was seen. -/
def clockLead : Nat := 9000

def packRoom : Nat := packSize - headerLength

structure Assembly where
  pid : UInt16
  data : Packed
  /-- Whether the start of a unit was seen; payload before it is ignored. -/
  started : Bool

structure Muxer where
  assemblies : List Assembly
  clockPid : Option UInt16
  clockSeen : Bool
  /-- The system clock that the next pack announces. -/
  clock : Nat

namespace Muxer

def new : Muxer := ⟨[], none, false, 0⟩

/-- Follows the video and audio of a program; units under way in streams that stay are kept. -/
def setProgram (muxer : Muxer) (program : Program) : Muxer :=
  let pids := (program.streams.filter fun stream => stream.kind.isVideo || stream.kind.isAudio).map
    StreamEntry.pid
  let kept := muxer.assemblies.filter fun assembly => pids.contains assembly.pid
  { muxer with
    assemblies := pids.foldl
      (fun assemblies pid =>
        if assemblies.any fun assembly => assembly.pid == pid then assemblies
        else assemblies ++ [⟨pid, .empty, false⟩])
      kept
    clockPid := some program.clockPid }

def pack (clock : Nat) (content : Bytes) : Bytes :=
  (Header.new clock announcedRate).toBytes ++ content

def continuationPacks (clock : Nat) (streamId : UInt8) (payload : Bytes) : Bytes :=
  if _more : payload = [] then []
  else
    let chunk := payload.take (packRoom - Pes.continuationLength streamId)
    pack clock (Pes.continuation streamId chunk.length ++ chunk)
      ++ continuationPacks clock streamId (payload.drop (packRoom - Pes.continuationLength streamId))
termination_by payload.length
decreasing_by
  have := List.length_pos_iff.mpr _more
  simp only [Pes.continuationLength, packRoom, packSize, headerLength, List.length_drop]
  split <;> omega

/--
The packs of one unit. The first keeps the header of the unit but for its length, which counts what
the pack holds; data beyond a bounded unit is left out.
-/
def unitPacks (clock : Nat) (header : Pes.Header) (unit : Bytes) : Bytes :=
  let bounded :=
    match header.totalLength with
    | some total => unit.take total
    | none => unit
  let head := bounded.take header.headerLength
  let payload := bounded.drop header.headerLength
  let room := packRoom - head.length
  let chunk := payload.take room
  pack clock
      (Pes.fixedPart header.streamId (head.length - Pes.fixedLength + chunk.length)
        ++ head.drop Pes.fixedLength ++ chunk)
    ++ continuationPacks clock header.streamId (payload.drop room)

/-- Until a clock reference is seen, the clock follows the time stamps of the units that leave. -/
def clockAt (muxer : Muxer) (header : Pes.Header) : Nat :=
  if muxer.clockSeen then muxer.clock
  else
    match header.decoding <|> header.presentation with
    | some time => max muxer.clock (time - clockLead)
    | none => muxer.clock

/-- Emits one unit. Data without a usable header is dropped. -/
def emit (muxer : Muxer) (unit : Bytes) : Bytes × Muxer :=
  match Pes.Header.parse unit with
  | .error _ => ([], muxer)
  | .ok header =>
    let clock := muxer.clockAt header
    (unitPacks clock header unit, { muxer with clock })

def trackClock (muxer : Muxer) (packet : Packet) : Muxer :=
  if muxer.clockPid = some packet.pid then
    match packet.clockBase with
    | some base => { muxer with clock := max muxer.clock base, clockSeen := true }
    | none => muxer
  else muxer

def assembly? (muxer : Muxer) (pid : UInt16) : Option Assembly :=
  muxer.assemblies.find? fun assembly => assembly.pid == pid

def put (muxer : Muxer) (assembly : Assembly) : Muxer :=
  { muxer with
    assemblies := muxer.assemblies.map fun other =>
      if other.pid == assembly.pid then assembly else other }

def isComplete (data : Packed) : Bool :=
  match Pes.Header.parse (data.take Pes.headerLimit).toList with
  | .error _ => false
  | .ok header =>
    match header.totalLength with
    | some total => total ≤ data.size
    | none => false

/-- The header in front is the one that the data has as a whole. -/
theorem isComplete_eq (data : Packed) :
    isComplete data =
      ((Pes.Header.parse data.toList).toOption.bind Pes.Header.totalLength).any (· ≤ data.size) := by
  rw [← Pes.Header.toOption_parse_take (Nat.le_refl _), isComplete, Packed.toList_take]
  split
  · next e => simp [e, Except.toOption]
  · next header e =>
    simp only [e, Except.toOption, Option.bind_some]
    split <;> simp_all

def emitPending (muxer : Muxer) (data : Packed) : Bytes × Muxer :=
  if data.isEmpty then ([], muxer) else muxer.emit data.toList

def pushPayload (muxer : Muxer) (assembly : Assembly) (unitStart : Bool) (payload : Bytes) :
    Bytes × Muxer :=
  if !unitStart && !assembly.started then ([], muxer)
  else
    let (before, muxer) :=
      if unitStart then muxer.emitPending assembly.data else ([], muxer)
    let data := if unitStart then Packed.ofList payload else assembly.data.append payload
    if isComplete data then
      let (unit, muxer) := muxer.emit data.toList
      (before ++ unit, muxer.put ⟨assembly.pid, .empty, false⟩)
    else (before, muxer.put ⟨assembly.pid, data, true⟩)

def pushPacket (muxer : Muxer) (packet : Packet) : Bytes × Muxer :=
  let muxer := muxer.trackClock packet
  match muxer.assembly? packet.pid, packet.payload with
  | some assembly, some payload => muxer.pushPayload assembly packet.unitStart payload
  | _, _ => ([], muxer)

/-- Emits the units under way, stream by stream, and the code that ends the program stream. -/
def finish (muxer : Muxer) : Bytes × Muxer :=
  let (units, muxer) := muxer.assemblies.foldl
    (fun (units, muxer) assembly =>
      let (unit, muxer) := Muxer.emitPending muxer assembly.data
      (units ++ unit, muxer))
    ([], muxer)
  (units ++ endCode,
    { muxer with assemblies := muxer.assemblies.map fun assembly => ⟨assembly.pid, .empty, false⟩ })

end Muxer

end MpegRecorder.Pack
