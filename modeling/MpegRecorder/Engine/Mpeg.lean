import MpegRecorder.Engine.Basic
import MpegRecorder.Pack.Muxer
import MpegRecorder.Transport.Probe

/-!
The engine for transport stream captures. Transport stream output passes packets through, those of
the selected program only when one was asked for; program stream output goes through the muxer.
-/

namespace MpegRecorder

open Transport

structure MpegEngine where
  output : Container.Kind
  probe : Probe
  /-- Whether only packets of the selected program pass. -/
  filters : Bool
  program : Option Program
  muxer : Pack.Muxer
  closed : Bool

namespace MpegEngine

def new (params : EngineParams) : MpegEngine :=
  let selection := params.tuning.selection
  ⟨params.output, Probe.new selection, selection != .automatic, none, .new, false⟩

def open? (params : EngineParams) : Except RecorderError MpegEngine :=
  match params.input with
  | .transport => .ok (new params)
  | .program => .error (.unsupportedFormat s!"{params.input.name} input is not supported")

/-- Follows the program that the probe has selected; once there is one, it is never given up. -/
def track (engine : MpegEngine) : MpegEngine :=
  match engine.probe.selected with
  | none => engine
  | some program =>
    if engine.program = some program then engine
    else { engine with muxer := engine.muxer.setProgram program, program := some program }

def passes (engine : MpegEngine) (pid : UInt16) : Bool :=
  !engine.filters || engine.program.any fun program => program.contains pid

def analyse (engine : MpegEngine) (data : Bytes) : Bool × MpegEngine :=
  let engine := { engine with probe := engine.probe.push data }.track
  (engine.program.isSome, engine)

def remuxPacket (engine : MpegEngine) (chunk : Bytes) : Bytes × MpegEngine :=
  match Packet.parse chunk with
  | .error _ => ([], engine)
  | .ok packet =>
    let probed := { engine with probe := engine.probe.pushPacket packet }
    let engine := if packet.unitStart then probed.track else probed
    match engine.output with
    | .transport => (if engine.passes packet.pid then chunk else [], engine)
    | .program =>
      let (packs, muxer) := engine.muxer.pushPacket packet
      (packs, { engine with muxer })

def remuxPackets (engine : MpegEngine) : List Bytes → List Bytes × MpegEngine
  | [] => ([], engine)
  | chunk :: rest =>
    let (first, engine) := engine.remuxPacket chunk
    let (later, engine) := engine.remuxPackets rest
    (first :: later, engine)

def emission (data : Bytes) : List Emission :=
  if data.isEmpty then [] else [.write data]

def remux (engine : MpegEngine) (data : Bytes) : List Emission × MpegEngine :=
  if engine.closed then ([], engine)
  else
    let (pieces, engine) := engine.remuxPackets (data.wholeChunks packetSize)
    (emission pieces.flatten, engine)

def container? (engine : MpegEngine) : Option Container :=
  engine.program.map (Container.ofProgram engine.output)

/-- A program stream ends with the units under way and its end code, if a program was found. -/
def close (engine : MpegEngine) : List Emission × MpegEngine :=
  if engine.closed then ([], engine)
  else
    let engine := { engine with closed := true }
    if engine.output = .program ∧ engine.program.isSome then
      let (packs, muxer) := engine.muxer.finish
      (emission packs ++ [.flush], { engine with muxer })
    else ([.flush], engine)

instance : Engine MpegEngine := ⟨analyse, remux, container?, close⟩

end MpegEngine

end MpegRecorder
