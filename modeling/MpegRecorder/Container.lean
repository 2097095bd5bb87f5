import MpegRecorder.Hex
import MpegRecorder.Transport.Program

/-!
The layout of a recording as an engine reports it: the container, and the streams it carries.
-/

namespace MpegRecorder

inductive Container.Kind where
  | transport
  | program
deriving Repr, DecidableEq, Inhabited

namespace Container.Kind

def name : Kind → String
  | transport => "MPEG2-TS"
  | program => "MPEG2-PS"

end Container.Kind

structure Container where
  kind : Container.Kind
  programNumber : Option UInt16
  video : Option Transport.StreamEntry
  audio : List Transport.StreamEntry
deriving Repr, DecidableEq

namespace Container

def ofProgram (kind : Kind) (program : Transport.Program) : Container :=
  ⟨kind, some program.number, program.video?, program.audio⟩

def family? (container : Container) : Option Elementary.Family :=
  container.video.bind fun stream => stream.kind.family?

/-- Whether there is video that a program stream cannot carry. -/
def needsTransport (container : Container) : Bool :=
  container.video.any fun stream => !stream.kind.fitsProgramStream

def describeStream (role name : String) (pid : UInt16) : String :=
  s!", {role} {name} on PID 0x{Hex.upper 4 pid.toNat}"

def description (container : Container) : String :=
  let program :=
    match container.programNumber with
    | some number => s!" program {number}"
    | none => ""
  let video :=
    match container.video with
    | some stream => describeStream "video" stream.kind.videoName stream.pid
    | none => ""
  let audio := container.audio.map fun stream =>
    describeStream "audio" stream.kind.name stream.pid
  container.kind.name ++ program ++ video ++ String.join audio

end Container

end MpegRecorder
