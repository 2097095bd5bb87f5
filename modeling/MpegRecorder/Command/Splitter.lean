import MpegRecorder.Output.Basic
import MpegRecorder.Storage.FileName

/-!
A splitter looks at a recording from time to time and moves it to the next numbered file once the
current one is long enough. It ends with the recording, and when a move is refused or fails.
-/

namespace MpegRecorder.Command

structure Splitter where
  path : String
  /-- The length that calls for the next file. -/
  size : Nat
  token : UInt32
  /-- The files moved to, oldest first. -/
  files : List String
deriving Repr, DecidableEq

namespace Splitter

def next (splitter : Splitter) : String :=
  Storage.Path.numbered splitter.path (splitter.files.length + 1)

/-- One look at a recording. False once there is nothing more to do. -/
def poll (splitter : Splitter) (output : Output) (medium : Medium) :
    Bool × Splitter × Output × Medium :=
  if output.counters.current < splitter.size then (!output.closed, splitter, output, medium)
  else
    match output.startSwitch medium splitter.next splitter.token with
    | (false, output, medium) => (false, splitter, output, medium)
    | (true, output, medium) =>
      match output.awaitSwitch medium with
      | (false, output, medium) => (false, splitter, output, medium)
      | (true, output, medium) =>
        (true, { splitter with files := splitter.files ++ [splitter.next] }, output, medium)

def run (splitter : Splitter) (output : Output) (medium : Medium) : (polls : Nat) →
    Splitter × Output × Medium
  | 0 => (splitter, output, medium)
  | polls + 1 =>
    match splitter.poll output medium with
    | (true, splitter, output, medium) => splitter.run output medium polls
    | (false, rest) => rest

end Splitter

end MpegRecorder.Command
