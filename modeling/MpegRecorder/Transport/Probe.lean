import MpegRecorder.Transport.Association
import MpegRecorder.Transport.Packet
import MpegRecorder.Transport.Program

/-!
A probe follows the tables of a transport stream and keeps the layout of the selected program.
Sections are expected to fit into one packet.
-/

namespace MpegRecorder.Transport

structure Probe where
  selection : Selection
  /-- The version of the association table in force. -/
  version : Option UInt8
  announced : List ProgramEntry
  /-- The layouts read so far, at most one for each program number. -/
  layouts : List Program
  selected : Option Program
deriving Repr, DecidableEq

namespace Probe

def new (selection : Selection) : Probe :=
  ⟨selection, none, [], [], none⟩

def reset (probe : Probe) : Probe :=
  new probe.selection

def layout? (probe : Probe) (number : UInt16) : Option Program :=
  probe.layouts.find? fun program => program.number == number

def isAnnounced (probe : Probe) (pid : UInt16) : Bool :=
  probe.announced.any fun entry => entry.mapPid == pid

def putLayout (probe : Probe) (program : Program) : Probe :=
  { probe with
    layouts := program :: probe.layouts.filter fun other => other.number != program.number }

/--
The layout that the selection asks for among those known. Without a program with video, the
automatic choice waits until every announced layout is known.
-/
def choose (probe : Probe) : Option Program :=
  match probe.selection with
  | .number number => probe.layout? number
  | .position 0 => none
  | .position (index + 1) =>
    probe.announced[index]?.bind fun entry => probe.layout? entry.number
  | .automatic =>
    let known := probe.announced.filterMap fun entry => probe.layout? entry.number
    match known.find? fun program => program.video?.isSome with
    | some program => some program
    | none =>
      if probe.announced.all fun entry => (probe.layout? entry.number).isSome then
        probe.announced.head?.bind fun entry => probe.layout? entry.number
      else none

/-- A new version of the association table replaces all that is known. -/
def onAssociation (probe : Probe) (data : Bytes) : Probe :=
  match Association.parse data with
  | .error _ => probe
  | .ok table =>
    if probe.version = some table.version then probe
    else { probe with
      version := some table.version, announced := table.programs, layouts := [], selected := none }

/-- A layout that differs from the one known for its program number makes the choice anew. -/
def onProgramMap (probe : Probe) (pid : UInt16) (data : Bytes) : Probe :=
  match ProgramMap.parse data with
  | .error _ => probe
  | .ok table =>
    let program : Program := ⟨table.number, pid, table.clockPid, table.streams⟩
    if probe.layout? program.number = some program then probe
    else
      let probe := probe.putLayout program
      { probe with selected := probe.choose }

def pushPacket (probe : Probe) (packet : Packet) : Probe :=
  if packet.unitStart then
    match packet.tableSection with
    | none => probe
    | some data =>
      if packet.pid = associationPid ∧ data.head? = some Association.tableId then
        probe.onAssociation data
      else if data.head? = some ProgramMap.tableId ∧ probe.isAnnounced packet.pid then
        probe.onProgramMap packet.pid data
      else probe
  else probe

def push (probe : Probe) (data : Bytes) : Probe :=
  (data.wholeChunks packetSize).foldl
    (fun probe chunk =>
      match Packet.parse chunk with
      | .ok packet => probe.pushPacket packet
      | .error _ => probe)
    probe

theorem layout?_putLayout (probe : Probe) (program : Program) (number : UInt16) :
    (probe.putLayout program).layout? number
      = if program.number = number then some program else probe.layout? number := by
  unfold putLayout layout?
  by_cases same : program.number = number
  · simp [same]
  · simp only [List.find?_cons, same, if_false]
    rw [List.find?_filter]
    simp only [show (program.number == number) = false by simpa using same]
    congr 1
    funext other
    by_cases found : other.number = number
    · simp [found, Ne.symm same]
    · simp [found]

end Probe

end MpegRecorder.Transport
