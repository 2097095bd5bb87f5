import MpegRecorder.Transport.Section

/-!
The program association table: which packet identifier carries the map of each program.
-/

namespace MpegRecorder.Transport

structure ProgramEntry where
  number : UInt16
  mapPid : UInt16
deriving Repr, DecidableEq

structure Association where
  streamId : UInt16
  version : UInt8
  current : Bool
  /-- The programs in table order, without the network entry. -/
  programs : List ProgramEntry
deriving Repr, DecidableEq

namespace Association

def tableId : UInt8 := 0x00

def entries : Bytes → List ProgramEntry
  | n1 :: n0 :: p1 :: p0 :: rest =>
    ⟨Bytes.wordAt [n1, n0] 0, Bytes.pidAt [p1, p0] 0⟩ :: entries rest
  | _ => []

/-- Reads a section; the entry with program number zero names the network and is left out. -/
def parse (data : Bytes) : Except Malformed Association :=
  match Section.body tableId 9 data with
  | .error e => .error e
  | .ok content =>
    .ok {
      streamId := content.wordAt 0
      version := Section.version content
      current := content.byteAt 2 &&& 0x01 != 0
      programs := (entries (content.drop 5)).filter fun entry => entry.number != 0 }

def entryBytes (entry : ProgramEntry) : Bytes :=
  Bytes.ofWord entry.number ++ Section.pidField entry.mapPid

def build (streamId : UInt16) (version : UInt8) (programs : List ProgramEntry) : Bytes :=
  Section.build tableId (Section.opening streamId version ++ programs.flatMap entryBytes)

end Association

end MpegRecorder.Transport
