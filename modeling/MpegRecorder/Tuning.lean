import MpegRecorder.Transport.Program

/-!
What a recording is tuned to. An engine takes a program number or a channel from it; the rest is
passed through.
-/

namespace MpegRecorder

inductive Tuning.Kind where
  /-- A plain channel number. -/
  | channel
  /-- A major channel, a minor channel and a physical one. -/
  | triple
deriving Repr, DecidableEq

structure Tuning where
  kind : Tuning.Kind
  channel : UInt16
  /-- A program number; zero leaves the choice open. -/
  program : UInt16
  major : UInt32
  minor : UInt32
  physical : UInt32
deriving Repr, DecidableEq

inductive CaptureKind where
  | tuner
  | other
deriving Repr, DecidableEq

inductive Standard where
  | atsc
  | dvb
  | free
deriving Repr, DecidableEq

inductive Delivery where
  | unknown
  | terrestrial
  | cable
  | satellite
deriving Repr, DecidableEq

def CaptureKind.standard : CaptureKind → Standard
  | tuner => .atsc
  | other => .free

namespace Tuning

def automatic : Tuning := ⟨.channel, 0, 0, 0, 0, 0⟩

def ofProgram (program : UInt16) : Tuning := { automatic with program }

def ofChannel (channel : UInt16) : Tuning := { automatic with channel }

def isAutomatic (tuning : Tuning) : Bool :=
  tuning == automatic

def description (tuning : Tuning) : String :=
  match tuning.kind with
  | .channel => s!"channel={tuning.channel} program={tuning.program}"
  | .triple => s!"{tuning.major}-{tuning.minor}-{tuning.physical} program={tuning.program}"

/-- The program to select: by number, else by a plain channel, else any. -/
def selection (tuning : Tuning) : Transport.Selection :=
  if tuning.program ≠ 0 then .number tuning.program
  else if tuning.kind = .channel ∧ tuning.channel ≠ 0 then .position tuning.channel.toNat
  else .automatic

theorem selection_automatic : automatic.selection = .automatic := rfl

end Tuning

end MpegRecorder
