import MpegRecorder.Elementary.Kind
import MpegRecorder.Transport.Section

/-!
The program map table: the elementary streams of one program and the packets that carry its clock.
-/

namespace MpegRecorder.Transport

structure StreamEntry where
  kind : Elementary.Kind
  pid : UInt16
deriving Repr, DecidableEq

structure ProgramMap where
  number : UInt16
  version : UInt8
  clockPid : UInt16
  /-- The stream loop of the table, as it stands there. -/
  streamLoop : Bytes
deriving Repr, DecidableEq

namespace ProgramMap

def tableId : UInt8 := 0x02

/--
Reads a section up to its stream loop. The descriptors of the program come first and must end
inside the section.
-/
def parse (data : Bytes) : Except Malformed ProgramMap :=
  match Section.body tableId 13 data with
  | .error e => .error e
  | .ok content =>
    let descriptors := content.lengthAt 7
    if content.length < 9 + descriptors then
      .error (.tooShort (12 + descriptors) (3 + content.length))
    else
      .ok {
        number := content.wordAt 0
        version := Section.version content
        clockPid := content.pidAt 5
        streamLoop := content.drop (9 + descriptors) }

/--
The entries of a stream loop. One whose descriptors run past the end of the loop is reported and
ends the list; fewer than five bytes at the end are no entry. `offset` counts the bytes before.
-/
def entriesFrom (offset : Nat) (loop : Bytes) : List (Except Malformed StreamEntry) :=
  if loop.length < 5 then []
  else
    let descriptors := loop.lengthAt 3
    if loop.length < 5 + descriptors then
      [.error (.tooShort (offset + 5 + descriptors) (offset + loop.length))]
    else
      .ok ⟨Elementary.Kind.ofCode (loop.byteAt 0), loop.pidAt 1⟩
        :: entriesFrom (offset + 5 + descriptors) (loop.drop (5 + descriptors))
termination_by loop.length
decreasing_by simp only [List.length_drop]; omega

def entries (table : ProgramMap) : List (Except Malformed StreamEntry) :=
  entriesFrom 0 table.streamLoop

def streams (table : ProgramMap) : List StreamEntry :=
  table.entries.filterMap Except.toOption

def entryBytes (entry : StreamEntry) : Bytes :=
  entry.kind.toCode :: Section.pidField entry.pid ++ [0xF0, 0x00]

def build (number : UInt16) (version : UInt8) (clockPid : UInt16) (streams : List StreamEntry) :
    Bytes :=
  Section.build tableId
    (Section.opening number version ++ Section.pidField clockPid ++ [0xF0, 0x00]
      ++ streams.flatMap entryBytes)

end ProgramMap

end MpegRecorder.Transport
