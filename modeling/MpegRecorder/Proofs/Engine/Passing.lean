import MpegRecorder.Engine.Factory
import MpegRecorder.Proofs.Session.Course

/-!
The engine for transport stream output without a choice of program. It knows its container as soon as its
probe has selected a program once, and lets every packet pass that can be read.
-/

namespace MpegRecorder

open Transport

namespace Transport.Probe

def discovers (probe : Probe) : List Bytes → Bool
  | [] => false
  | chunk :: later => (probe.push chunk).selected.isSome || (probe.push chunk).discovers later

theorem discovers_append (probe : Probe) (chunks more : List Bytes) :
    probe.discovers (chunks ++ more) =
      (probe.discovers chunks || (chunks.foldl push probe).discovers more) := by
  induction chunks generalizing probe with
  | nil => rfl
  | cons chunk later ih =>
    rw [List.cons_append, discovers, ih, discovers, Bool.or_assoc]
    rfl

end Transport.Probe

/-- Engines that write some bytes of each chunk they are given, and nothing more at the end. -/
structure Transparent {ε : Type} [Engine ε] (live : ε → Prop) (kept : Bytes → Bytes) : Prop where
  passes : ∀ {engine} chunk, live engine → live (Engine.remux engine chunk).2 ∧
    Engine.written (Engine.remux engine chunk).1 = kept chunk
  ends : ∀ {engine}, live engine → Engine.written (Engine.close engine).1 = []

def packetsOf (chunk : Bytes) : List Bytes :=
  (chunk.wholeChunks packetSize).filter fun packet => (Packet.parse packet).isOk

namespace MpegEngine

structure Passing (engine : MpegEngine) : Prop where
  running : engine.closed = false
  output : engine.output = .transport
  unfiltered : engine.filters = false

structure Followed (chunks : List Bytes) (engine : MpegEngine) : Prop where
  probed : engine.probe = chunks.foldl Probe.push (.new .automatic)
  found : engine.program.isSome = (Probe.new .automatic).discovers chunks

/-- An engine for the automatic choice of a program that has seen the chunks. -/
structure Saw (chunks : List Bytes) (engine : MpegEngine) : Prop extends Passing engine where
  probed : engine.probe = chunks.foldl Probe.push (.new .automatic)
  found : engine.program.isSome = (Probe.new .automatic).discovers chunks

variable {engine : MpegEngine}

theorem track_probe (engine : MpegEngine) : engine.track.probe = engine.probe := by
  unfold track
  split
  · rfl
  · split <;> rfl

theorem program_track (engine : MpegEngine) :
    engine.track.program.isSome = (engine.probe.selected.isSome || engine.program.isSome) := by
  unfold track
  split
  · next none => rw [none]; rfl
  · next program selected =>
    rw [selected]
    split
    · next same => rw [same]; rfl
    · rfl

theorem Passing.track (passing : engine.Passing) : engine.track.Passing := by
  unfold MpegEngine.track
  split
  · exact passing
  · split
    · exact passing
    · exact ⟨passing.running, passing.output, passing.unfiltered⟩

theorem Passing.probing (passing : engine.Passing) (probe : Probe) :
    { engine with probe }.Passing :=
  ⟨passing.running, passing.output, passing.unfiltered⟩

theorem Followed.analyse {chunks : List Bytes} (followed : engine.Followed chunks) (chunk : Bytes) :
    (engine.analyse chunk).2.Followed (chunks ++ [chunk]) := by
  refine ⟨?_, ?_⟩
  · rw [List.foldl_append]
    exact (track_probe _).trans (congrArg (Probe.push · chunk) followed.probed)
  · rw [Probe.discovers_append, ← followed.probed, ← followed.found]
    rw [Probe.discovers, Probe.discovers, Bool.or_false, Bool.or_comm]
    exact program_track _

theorem Saw.analyse {chunks : List Bytes} (saw : engine.Saw chunks) (chunk : Bytes) :
    (engine.analyse chunk).2.Saw (chunks ++ [chunk]) := by
  have followed : engine.Followed chunks := ⟨saw.probed, saw.found⟩
  obtain ⟨probed, found⟩ := followed.analyse chunk
  exact ⟨(saw.probing _).track, probed, found⟩

theorem analyse_done (engine : MpegEngine) (chunk : Bytes) :
    (engine.analyse chunk).1 = ((engine.analyse chunk).2.container?).isSome := by
  rw [container?, Option.isSome_map]
  rfl

theorem analyse_missed {chunk : Bytes} (done : (engine.analyse chunk).1 = true) :
    (engine.analyse chunk).2.container? ≠ none := by
  intro unknown
  rw [analyse_done, unknown] at done
  cases done

def probed (engine : MpegEngine) (packet : Packet) : MpegEngine :=
  if packet.unitStart then { engine with probe := engine.probe.pushPacket packet }.track
  else { engine with probe := engine.probe.pushPacket packet }

theorem Passing.probed (passing : engine.Passing) (packet : Packet) :
    (engine.probed packet).Passing := by
  unfold MpegEngine.probed
  split
  · exact (passing.probing _).track
  · exact passing.probing _

theorem output_track (engine : MpegEngine) : engine.track.output = engine.output := by
  unfold track
  split
  · rfl
  · split <;> rfl

theorem output_probed (engine : MpegEngine) (packet : Packet) :
    (engine.probed packet).output = engine.output := by
  unfold probed
  split
  · exact output_track _
  · rfl

theorem remuxPacket_of_transport (transport : engine.output = .transport) {chunk : Bytes} {packet : Packet}
    (parsed : Packet.parse chunk = .ok packet) :
    engine.remuxPacket chunk =
      (if (engine.probed packet).passes packet.pid then chunk else [], engine.probed packet) := by
  simp only [MpegEngine.remuxPacket, parsed]
  rw [← MpegEngine.probed, output_probed, transport]

theorem Passing.remuxPacket (passing : engine.Passing) (chunk : Bytes) :
    (engine.remuxPacket chunk).2.Passing ∧
      (engine.remuxPacket chunk).1 = if (Packet.parse chunk).isOk then chunk else [] := by
  cases parsed : Packet.parse chunk with
  | error refused =>
    simp only [MpegEngine.remuxPacket, parsed]
    exact ⟨passing, rfl⟩
  | ok packet =>
    have next := passing.probed packet
    have lets : (engine.probed packet).passes packet.pid = true := by
      rw [passes, next.unfiltered]
      rfl
    rw [remuxPacket_of_transport passing.output parsed, if_pos lets]
    exact ⟨next, rfl⟩

theorem Passing.remuxPackets (passing : engine.Passing) (chunks : List Bytes) :
    (engine.remuxPackets chunks).2.Passing ∧
      (engine.remuxPackets chunks).1.flatten =
        (chunks.filter fun packet => (Packet.parse packet).isOk).flatten := by
  induction chunks generalizing engine with
  | nil => exact ⟨passing, rfl⟩
  | cons chunk rest ih =>
    obtain ⟨still, first⟩ := passing.remuxPacket chunk
    obtain ⟨last, later⟩ := ih still
    refine ⟨last, ?_⟩
    simp only [MpegEngine.remuxPackets, List.flatten_cons, later, first, List.filter_cons]
    split <;> rfl

theorem written_emission (data : Bytes) : Engine.written (emission data) = data := by
  unfold emission
  split
  · next empty =>
    rw [List.isEmpty_iff.mp empty]
    rfl
  · rw [Engine.written, List.flatMap_singleton]

theorem Passing.emits (passing : engine.Passing) (chunk : Bytes) :
    (engine.remux chunk).2.Passing ∧
      (engine.remux chunk).1 = emission (packetsOf chunk).flatten := by
  obtain ⟨still, passed⟩ := passing.remuxPackets (chunk.wholeChunks packetSize)
  unfold MpegEngine.remux
  rw [passing.running, if_neg Bool.false_ne_true]
  exact ⟨still, congrArg emission passed⟩

theorem Passing.remux (passing : engine.Passing) (chunk : Bytes) :
    (engine.remux chunk).2.Passing ∧
      Engine.written (engine.remux chunk).1 = (packetsOf chunk).flatten := by
  obtain ⟨still, emitted⟩ := passing.emits chunk
  rw [emitted, written_emission]
  exact ⟨still, rfl⟩

theorem Passing.close_emits (passing : engine.Passing) : engine.close.1 = [.flush] := by
  have plain : ¬ (engine.output = .program ∧ engine.program.isSome = true) := fun program => by
    rw [passing.output] at program
    cases program.1
  simp only [MpegEngine.close, passing.running, Bool.false_eq_true, if_false, if_neg plain]

theorem Passing.close (passing : engine.Passing) : Engine.written engine.close.1 = [] := by
  rw [passing.close_emits]
  rfl

end MpegEngine

namespace Factory

/-- The plain factory, asked for transport stream output with the automatic choice of a program. -/
structure Plain (factory : Factory) (params : EngineParams) : Prop where
  factory : factory = .mpeg
  input : params.input = .transport
  output : params.output = .transport
  automatic : params.tuning.selection = .automatic

def Saw (chunks : List Bytes) (engine : MpegEngine ⊕ ScriptedEngine) : Prop :=
  ∃ mpeg, engine = .inl mpeg ∧ mpeg.Saw chunks

def Passing (engine : MpegEngine ⊕ ScriptedEngine) : Prop :=
  ∃ mpeg, engine = .inl mpeg ∧ mpeg.Passing

theorem Saw.passing {chunks : List Bytes} {engine : MpegEngine ⊕ ScriptedEngine}
    (saw : Saw chunks engine) : Passing engine := by
  obtain ⟨mpeg, same, saw⟩ := saw
  exact ⟨mpeg, same, saw.toPassing⟩

theorem plain_reliable : Reliable Plain Saw where
  opens := by
    rintro factory params ⟨rfl, input, output, automatic⟩
    refine ⟨.inl (.new params), .mpeg, ?_, ⟨rfl, input, output, automatic⟩, _, rfl, ?_⟩
    · simp only [EngineFactory.openEngine, openEngine, MpegEngine.open?, input]
      rfl
    · refine ⟨⟨rfl, output, ?_⟩, ?_, rfl⟩ <;> simp only [MpegEngine.new, automatic] <;> rfl
  retuned plain := ⟨plain.factory, plain.input, plain.output, Tuning.selection_automatic⟩
  corrected plain := ⟨plain.factory, plain.input, rfl, plain.automatic⟩
  analysed := by
    rintro chunks _ chunk ⟨mpeg, rfl, saw⟩
    exact ⟨_, rfl, saw.analyse chunk⟩
  satisfied := by
    rintro chunks _ chunk ⟨mpeg, rfl, saw⟩ done missed
    exact absurd missed (MpegEngine.analyse_missed done)

def discovers (chunks : List Bytes) : Bool :=
  (Probe.new .automatic).discovers chunks

theorem plain_decisive : Decisive Saw discovers where
  tells := by
    rintro chunks _ ⟨mpeg, rfl, saw⟩
    rw [discovers, ← saw.found]
    exact Option.isSome_map ..
  nothing := rfl
  lasting := by
    rintro front _ ⟨more, rfl⟩ found
    rw [discovers, Probe.discovers_append, ← discovers, found]
    rfl

theorem plain_transparent : Transparent Passing fun chunk => (packetsOf chunk).flatten where
  passes := by
    rintro _ chunk ⟨mpeg, rfl, passing⟩
    obtain ⟨still, passed⟩ := passing.remux chunk
    exact ⟨⟨_, rfl, still⟩, passed⟩
  ends := by
    rintro _ ⟨mpeg, rfl, passing⟩
    exact passing.close

structure Auto (factory : Factory) (params : EngineParams) : Prop where
  factory : factory = .mpeg
  input : params.input = .transport
  automatic : params.tuning.selection = .automatic

def Follows (chunks : List Bytes) (engine : MpegEngine ⊕ ScriptedEngine) : Prop :=
  ∃ mpeg, engine = .inl mpeg ∧ mpeg.Followed chunks

theorem auto_reliable : Reliable Auto Follows where
  opens := by
    rintro factory params ⟨rfl, input, automatic⟩
    refine ⟨.inl (.new params), .mpeg, ?_, ⟨rfl, input, automatic⟩, _, rfl, ?_, rfl⟩
    · simp only [EngineFactory.openEngine, openEngine, MpegEngine.open?, input]
      rfl
    · simp only [MpegEngine.new, automatic]
      rfl
  retuned auto := ⟨auto.factory, auto.input, Tuning.selection_automatic⟩
  corrected auto := ⟨auto.factory, auto.input, auto.automatic⟩
  analysed := by
    rintro chunks _ chunk ⟨mpeg, rfl, followed⟩
    exact ⟨_, rfl, followed.analyse chunk⟩
  satisfied := by
    rintro chunks _ chunk ⟨mpeg, rfl, followed⟩ done missed
    exact absurd missed (MpegEngine.analyse_missed done)

theorem auto_decisive : Decisive Follows discovers where
  tells := by
    rintro chunks _ ⟨mpeg, rfl, followed⟩
    rw [discovers, ← followed.found]
    exact Option.isSome_map ..
  nothing := plain_decisive.nothing
  lasting := plain_decisive.lasting

end Factory

end MpegRecorder
