import MpegRecorder.Engine.Mpeg
import MpegRecorder.Proofs.Access.Packs
import MpegRecorder.Proofs.Access.Tables

/-!
The engine, with every access that it makes to a capture. Each stream keeps one place in the muxer from its
program on; with that, no access goes wrong, and the answers are those of the engine itself.
-/

namespace MpegRecorder

open Pack Transport

namespace MpegEngine

inductive Call where
  | analyse (data : Bytes)
  | remux (data : Bytes)
  | close

inductive Answer where
  | analysed (done : Bool)
  | emitted (emissions : List Emission)
deriving DecidableEq

def perform (engine : MpegEngine) : Call → Answer × MpegEngine
  | .analyse data => ((.analysed (engine.analyse data).1), (engine.analyse data).2)
  | .remux data => (.emitted (engine.remux data).1, (engine.remux data).2)
  | .close => (.emitted engine.close.1, engine.close.2)

def run (engine : MpegEngine) : List Call → List Answer × MpegEngine
  | [] => ([], engine)
  | call :: calls =>
    let (answer, engine) := engine.perform call
    let (answers, engine) := engine.run calls
    (answer :: answers, engine)

end MpegEngine

namespace Access

def analyse (engine : MpegEngine) (data : Bytes) : Except Fault (Bool × MpegEngine) := do
  let probe ← probeData engine.probe data
  let engine := { engine with probe }.track
  return (engine.program.isSome, engine)

def remuxPacket (engine : MpegEngine) (chunk : Bytes) : Except Fault (Bytes × MpegEngine) := do
  match ← View.parse chunk with
  | .error _ => return ([], engine)
  | .ok view =>
    let probe ← probePacket engine.probe view
    let probed := { engine with probe }
    let engine := if view.unitStart then probed.track else probed
    match engine.output with
    | .transport => return (if engine.passes view.pid then chunk else [], engine)
    | .program =>
      let (packs, muxer) ← pushPacket engine.muxer view
      return (packs, { engine with muxer })

def remuxPackets (engine : MpegEngine) : List Bytes → Except Fault (List Bytes × MpegEngine)
  | [] => return ([], engine)
  | chunk :: rest => do
    let (first, engine) ← remuxPacket engine chunk
    let (later, engine) ← remuxPackets engine rest
    return (first :: later, engine)

def remux (engine : MpegEngine) (data : Bytes) : Except Fault (List Emission × MpegEngine) :=
  if engine.closed then return ([], engine)
  else do
    let chunks ← wholePieces packetSize data
    let (pieces, engine) ← remuxPackets engine chunks
    return (MpegEngine.emission pieces.flatten, engine)

def close (engine : MpegEngine) : Except Fault (List Emission × MpegEngine) :=
  if engine.closed then return ([], engine)
  else
    let engine := { engine with closed := true }
    if engine.output = .program ∧ engine.program.isSome then do
      let (packs, muxer) ← finish engine.muxer
      return (MpegEngine.emission packs ++ [.flush], { engine with muxer })
    else return ([.flush], engine)

def perform (engine : MpegEngine) :
    MpegEngine.Call → Except Fault (MpegEngine.Answer × MpegEngine)
  | .analyse data => do
    let (done, engine) ← analyse engine data
    return (.analysed done, engine)
  | .remux data => do
    let (emissions, engine) ← remux engine data
    return (.emitted emissions, engine)
  | .close => do
    let (emissions, engine) ← close engine
    return (.emitted emissions, engine)

def run (engine : MpegEngine) :
    List MpegEngine.Call → Except Fault (List MpegEngine.Answer × MpegEngine)
  | [] => return ([], engine)
  | call :: calls => do
    let (answer, engine) ← perform engine call
    let (answers, engine) ← run engine calls
    return (answer :: answers, engine)

/-- Each stream that the engine follows has one place in its muxer. -/
def Placed (engine : MpegEngine) : Prop :=
  engine.muxer.pids.Nodup

variable {engine : MpegEngine}

theorem Placed.track (placed : Placed engine) : Placed engine.track := by
  unfold MpegEngine.track
  split
  · exact placed
  · split
    · exact placed
    · exact Muxer.nodup_setProgram placed _

theorem Placed.probing (placed : Placed engine) (probe : Probe) : Placed { engine with probe } :=
  placed

theorem analyse_eq (engine : MpegEngine) (data : Bytes) :
    analyse engine data = .ok (engine.analyse data) := by
  rw [analyse, probeData_eq, ok_bind]
  rfl

theorem remuxPacket_eq (placed : Placed engine) (chunk : Bytes) :
    remuxPacket engine chunk = .ok (engine.remuxPacket chunk)
      ∧ Placed (engine.remuxPacket chunk).2 := by
  obtain ⟨error, refused, read⟩ | ⟨packet, view, parsed, read, shows⟩ := View.parse_sound chunk
  · rw [remuxPacket, read, ok_bind, MpegEngine.remuxPacket, refused]
    exact ⟨rfl, placed⟩
  · have probed : Placed (if packet.unitStart then
        { engine with probe := engine.probe.pushPacket packet }.track
        else { engine with probe := engine.probe.pushPacket packet }) := by
      split
      · exact (placed.probing _).track
      · exact placed
    rw [remuxPacket, read, ok_bind, MpegEngine.remuxPacket, parsed]
    dsimp only
    rw [probePacket_eq engine.probe shows, ok_bind, shows.unitStart, shows.pid]
    generalize (if packet.unitStart then
        { engine with probe := engine.probe.pushPacket packet }.track
        else { engine with probe := engine.probe.pushPacket packet }) = current at probed
    cases current.output with
    | transport => exact ⟨rfl, probed⟩
    | program =>
      dsimp only
      rw [pushPacket_eq probed shows, ok_bind]
      refine ⟨rfl, ?_⟩
      show (current.muxer.pushPacket packet).2.pids.Nodup
      rw [Muxer.pids_pushPacket]
      exact probed

theorem remuxPackets_eq (placed : Placed engine) (chunks : List Bytes) :
    remuxPackets engine chunks = .ok (engine.remuxPackets chunks)
      ∧ Placed (engine.remuxPackets chunks).2 := by
  induction chunks generalizing engine with
  | nil => exact ⟨rfl, placed⟩
  | cons chunk rest ih =>
    obtain ⟨first, still⟩ := remuxPacket_eq placed chunk
    obtain ⟨later, last⟩ := ih still
    rw [remuxPackets, first, ok_bind]
    dsimp only
    rw [later, ok_bind]
    exact ⟨rfl, last⟩

theorem remux_eq (placed : Placed engine) (data : Bytes) :
    remux engine data = .ok (engine.remux data) ∧ Placed (engine.remux data).2 := by
  unfold remux MpegEngine.remux
  split
  · exact ⟨rfl, placed⟩
  · obtain ⟨packets, last⟩ := remuxPackets_eq placed (data.wholeChunks packetSize)
    rw [wholePieces_of_pos (show 0 < packetSize by decide), ok_bind, packets, ok_bind]
    exact ⟨rfl, last⟩

theorem close_eq (placed : Placed engine) :
    close engine = .ok engine.close ∧ Placed engine.close.2 := by
  unfold close MpegEngine.close
  split
  · exact ⟨rfl, placed⟩
  · dsimp only
    split
    · rw [finish_eq, ok_bind]
      refine ⟨rfl, ?_⟩
      show engine.muxer.finish.2.pids.Nodup
      rw [Muxer.pids_finish]
      exact placed
    · exact ⟨rfl, placed⟩

theorem perform_eq (placed : Placed engine) (call : MpegEngine.Call) :
    perform engine call = .ok (engine.perform call) ∧ Placed (engine.perform call).2 := by
  cases call with
  | analyse data =>
    rw [perform, analyse_eq, ok_bind]
    exact ⟨rfl, (placed.probing _).track⟩
  | remux data =>
    obtain ⟨answered, still⟩ := remux_eq placed data
    rw [perform, answered, ok_bind]
    exact ⟨rfl, still⟩
  | close =>
    obtain ⟨answered, still⟩ := close_eq placed
    rw [perform, answered, ok_bind]
    exact ⟨rfl, still⟩

theorem run_eq (placed : Placed engine) (calls : List MpegEngine.Call) :
    run engine calls = .ok (engine.run calls) := by
  induction calls generalizing engine with
  | nil => rfl
  | cons call rest ih =>
    obtain ⟨answered, still⟩ := perform_eq placed call
    rw [run, answered, ok_bind]
    dsimp only
    rw [ih still]
    rfl

/--
Whatever bytes an engine is given, in whatever order it is called, and whatever it is opened for: no read by
offset, no slice and no split goes beyond what is there, no length falls below zero, and no piece is without
length. The answers are those of the engine itself.
-/
theorem capture_never_faults (params : EngineParams) (calls : List MpegEngine.Call) :
    run (.new params) calls = .ok ((MpegEngine.new params).run calls) :=
  run_eq (show Placed (.new params) from List.nodup_nil) calls

end Access

end MpegRecorder
