import MpegRecorder.Command.Args
import MpegRecorder.Command.Error
import MpegRecorder.Number.Size

/-!
A job is what the arguments ask for, with sizes and tuning made out.
-/

namespace MpegRecorder.Command

structure Job where
  args : Args
  chunkSize : Nat
  /-- The length after which the recording wraps; zero for none. -/
  ringSize : Nat
  /-- The length after which the next file is begun; zero for none. -/
  splitSize : Nat
  tuning : Tuning
  capture : CaptureKind
deriving Repr, DecidableEq

namespace Job

def size (text : String) : Except CommandError Nat :=
  (Number.Size.parse text).mapError fun fault => .parse fault.message

/-- A program number goes before a channel. -/
def tuningOf (program channel : Option UInt16) : Tuning :=
  match program, channel with
  | some program, _ => .ofProgram program
  | none, some channel => .ofChannel channel
  | none, none => .automatic

def ofArgs (args : Args) : Except CommandError Job := do
  let chunkSize ← size args.chunkSize
  if chunkSize = 0 then
    throw (.invalidInput "Chunk size must be greater than zero")
  let ringSize ← size args.ringSize
  let splitSize ← size args.splitSize
  return {
    args, chunkSize, ringSize, splitSize
    tuning := tuningOf args.program args.channel
    capture := if args.tv then .tuner else .other }

end Job

end MpegRecorder.Command
