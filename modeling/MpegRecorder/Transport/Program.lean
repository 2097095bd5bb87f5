import MpegRecorder.Transport.Packet
import MpegRecorder.Transport.ProgramMap

/-!
The layout of one program of a transport stream, and the choice of a program among several.
-/

namespace MpegRecorder.Transport

structure Program where
  number : UInt16
  mapPid : UInt16
  clockPid : UInt16
  streams : List StreamEntry
deriving Repr, DecidableEq

inductive Selection where
  /-- The first program with video, or the first of all when none has any. -/
  | automatic
  | number (number : UInt16)
  /-- A position in table order, counted from one. -/
  | position (position : Nat)
deriving Repr, DecidableEq

namespace Program

def video? (program : Program) : Option StreamEntry :=
  program.streams.find? fun stream => stream.kind.isVideo

def audio (program : Program) : List StreamEntry :=
  program.streams.filter fun stream => stream.kind.isAudio

/-- Whether packets with this identifier belong to the program, its tables included. -/
def contains (program : Program) (pid : UInt16) : Bool :=
  pid == associationPid || pid == program.mapPid || pid == program.clockPid
    || program.streams.any fun stream => stream.pid == pid

end Program

end MpegRecorder.Transport
