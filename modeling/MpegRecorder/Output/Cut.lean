import MpegRecorder.Container
import MpegRecorder.Elementary.Marker
import MpegRecorder.Pack.Header
import MpegRecorder.Transport.Sync

/-!
Where a recording may be cut, so that the new destination starts with something a player can decode:
an intra picture in a transport stream, a pack with an entry point in a program stream.
-/

namespace MpegRecorder.Output

open Transport

structure CutPolicy where
  output : Container.Kind
  family : Option Elementary.Family
  videoPid : Option UInt16
  /-- How many bytes from the start of a pack are searched for an entry marker. -/
  packWindow : Nat
deriving Repr, DecidableEq

def isEntry (family : Elementary.Family) (videoPid : UInt16) (packet : Packet) : Bool :=
  packet.pid == videoPid && packet.unitStart && !packet.transportError
    && packet.payload.any fun payload => (family.findIntra payload).isSome

/--
Walks a transport stream packet by packet and gives the offset of the first entry. Packets that
cannot be read are passed over; where the sync byte is missing, the walk goes on at the next
confirmed boundary. `offset` counts the bytes before the view.
-/
def walkPackets (family : Elementary.Family) (videoPid : UInt16) (offset : Nat) (view : Bytes) :
    Option Nat :=
  if _short : (view.take packetSize).length < packetSize then none
  else if view.head? ≠ some syncByte then
    match Sync.find packetSize (view.drop 1) with
    | none => none
    | some skip =>
      walkPackets family videoPid (offset + 1 + skip) (view.drop (1 + skip))
  else
    match Packet.parse (view.take packetSize) with
    | .error _ => walkPackets family videoPid (offset + packetSize) (view.drop packetSize)
    | .ok packet =>
      if isEntry family videoPid packet then some offset
      else walkPackets family videoPid (offset + packetSize) (view.drop packetSize)
termination_by view.length
decreasing_by
  all_goals
    simp only [packetSize, List.length_take, List.length_drop] at _short ⊢
    omega

def findPacketCut (family : Elementary.Family) (videoPid : UInt16) (view : Bytes) : Option Nat :=
  match Sync.find packetSize view with
  | none => none
  | some start => walkPackets family videoPid start (view.drop start)

def findPackCut (family : Elementary.Family) (window : Nat) (view : Bytes) : Option Nat :=
  view.findWhere Pack.startCode fun pack => (family.findEntry (pack.take window)).isSome

namespace CutPolicy

def new (output : Container.Kind) (packWindow : Nat) : CutPolicy :=
  ⟨output, none, none, packWindow⟩

/--
The offset in the view at which the new destination should begin. Without a codec to look for, or
a stream to look for it in, any point will do.
-/
def findCut (policy : CutPolicy) (view : Bytes) : Option Nat :=
  match policy.family, policy.output, policy.videoPid with
  | none, _, _ => some 0
  | some _, .transport, none => some 0
  | some family, .transport, some videoPid => findPacketCut family videoPid view
  | some family, .program, _ => findPackCut family policy.packWindow view

end CutPolicy

end MpegRecorder.Output
