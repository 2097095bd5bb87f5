import MpegRecorder.Proofs.Access.Engine
import MpegRecorder.Proofs.Engine.Passing
import MpegRecorder.Proofs.Transport.Selected

/-!
The engine for transport stream output of one program that was asked for. The packets that it filters are also
what its probe learns from, so that the filter could change on the way. It does not as long as the tables that
come repeat what is known: no table of programs of another version, and no other layout of the program itself.
Layouts of other programs may come as they like. Then the packets that pass are those of the program, each whole
and in order.
-/

namespace MpegRecorder

open Transport

namespace Transport

/-- A packet that brings no new table of programs, and of the program no layout but the known one. -/
structure Packet.Repeats (packet : Packet) (probe : Probe) (program : Program) : Prop where
  version : ∀ table ∈ packet.association?, probe.version = some table.version
  layout : ∀ other ∈ packet.layout? probe.announced, other.number = program.number → other = program

instance (packet : Packet) (probe : Probe) (program : Program) :
    Decidable (packet.Repeats probe program) :=
  decidable_of_iff
    ((∀ table ∈ packet.association?, probe.version = some table.version) ∧
      ∀ other ∈ packet.layout? probe.announced, other.number = program.number → other = program)
    ⟨fun ⟨version, layout⟩ => ⟨version, layout⟩, fun ⟨version, layout⟩ => ⟨version, layout⟩⟩

namespace Probe

def Settled (probe : Probe) : Prop :=
  probe.selected = probe.choose

theorem settled_new (wanted : Selection) : (new wanted).Settled := by
  rw [Settled, choose_eq]
  exact (wanted.choice_unknown []).symm

variable {probe : Probe}

theorem Settled.pushPacket (settled : probe.Settled) (packet : Packet) :
    (probe.pushPacket packet).Settled := by
  rw [pushPacket_eq]
  unfold take
  split
  · split
    · exact settled
    · rw [Settled, choose_eq]
      exact (probe.selection.choice_unknown _).symm
  · split
    · exact settled
    · rfl
  · exact settled

theorem selection_pushPacket (probe : Probe) (packet : Packet) :
    (probe.pushPacket packet).selection = probe.selection := by
  rw [pushPacket_eq]
  unfold take
  split
  · split <;> rfl
  · split <;> rfl
  · rfl

theorem push_invariant {kept : Probe → Prop} (step : ∀ probe packet, kept probe → kept (probe.pushPacket packet))
    (holds : kept probe) (data : Bytes) : kept (probe.push data) := by
  unfold push
  induction data.wholeChunks packetSize generalizing probe with
  | nil => exact holds
  | cons chunk later ih =>
    rw [List.foldl_cons]
    cases Packet.parse chunk with
    | error refused => exact ih holds
    | ok packet => exact ih (step probe packet holds)

/-- The number of the program that was asked for, as far as the table tells it. -/
def wanted? (probe : Probe) : Option UInt16 :=
  match probe.selection with
  | .number number => some number
  | .position 0 => none
  | .position (index + 1) => probe.announced[index]?.map ProgramEntry.number
  | .automatic => none

theorem choose_of_explicit (explicit : probe.selection ≠ .automatic) :
    probe.choose = probe.wanted?.bind probe.layout? := by
  unfold choose wanted?
  cases selection : probe.selection with
  | number number => rfl
  | position place =>
    cases place with
    | zero => rfl
    | succ index =>
      dsimp only
      rw [Option.bind_map]
      rfl
  | automatic => exact absurd selection explicit

theorem number_of_layout? {number : UInt16} {program : Program}
    (known : probe.layout? number = some program) : program.number = number := by
  have hit := List.find?_some known
  exact beq_iff_eq.mp hit

/-- A probe that has locked onto a program: it was asked for and is known. -/
structure Locked (probe : Probe) (program : Program) : Prop where
  explicit : probe.selection ≠ .automatic
  asked : probe.wanted? = some program.number
  known : probe.layout? program.number = some program
  selected : probe.selected = some program

theorem Settled.locked (settled : probe.Settled) (explicit : probe.selection ≠ .automatic)
    {program : Program} (selected : probe.selected = some program) : probe.Locked program := by
  have chosen := settled.symm.trans selected
  rw [choose_of_explicit explicit] at chosen
  obtain ⟨number, asked, known⟩ := Option.bind_eq_some_iff.mp chosen
  have same := number_of_layout? known
  exact ⟨explicit, same ▸ asked, same ▸ known, selected⟩

theorem Locked.put {program other : Program} (locked : probe.Locked program)
    (different : other.number ≠ program.number) :
    { probe.putLayout other with selected := (probe.putLayout other).choose }.Locked program := by
  have known : (probe.putLayout other).layout? program.number = some program := by
    rw [layout?_putLayout, if_neg different]
    exact locked.known
  have explicit : (probe.putLayout other).selection ≠ .automatic := locked.explicit
  have asked : (probe.putLayout other).wanted? = some program.number := locked.asked
  refine ⟨explicit, asked, known, ?_⟩
  show (probe.putLayout other).choose = some program
  rw [choose_of_explicit explicit, asked, Option.bind_some, known]

theorem Locked.pushPacket {program : Program} (locked : probe.Locked program) {packet : Packet}
    (repeats : packet.Repeats probe program) :
    (probe.pushPacket packet).Locked program ∧
      (probe.pushPacket packet).version = probe.version ∧
      (probe.pushPacket packet).announced = probe.announced := by
  rw [pushPacket_eq]
  unfold take
  cases brings : packet.association? with
  | some table =>
    dsimp only
    rw [if_pos (repeats.version table brings)]
    exact ⟨locked, rfl, rfl⟩
  | none =>
    cases carries : packet.layout? probe.announced with
    | none => exact ⟨locked, rfl, rfl⟩
    | some other =>
      dsimp only
      split
      · exact ⟨locked, rfl, rfl⟩
      · next unknown =>
        refine ⟨locked.put fun same => ?_, rfl, rfl⟩
        rw [repeats.layout other carries same] at unknown
        exact unknown locked.known

end Probe

end Transport

namespace MpegEngine

variable {engine : MpegEngine}

structure Tuned (wanted : Selection) (engine : MpegEngine) : Prop where
  output : engine.output = .transport
  filters : engine.filters = (wanted != .automatic)
  selection : engine.probe.selection = wanted
  settled : engine.probe.Settled

namespace Tuned

variable {wanted : Selection}

theorem new {params : EngineParams} (transport : params.output = .transport) :
    (MpegEngine.new params).Tuned params.tuning.selection :=
  ⟨transport, rfl, rfl, Probe.settled_new _⟩

theorem track (tuned : engine.Tuned wanted) : engine.track.Tuned wanted := by
  unfold MpegEngine.track
  split
  · exact tuned
  · split
    · exact tuned
    · exact ⟨tuned.output, tuned.filters, tuned.selection, tuned.settled⟩

theorem probed (tuned : engine.Tuned wanted) (packet : Packet) : (engine.probed packet).Tuned wanted := by
  have next : { engine with probe := engine.probe.pushPacket packet }.Tuned wanted :=
    ⟨tuned.output, tuned.filters, (Probe.selection_pushPacket ..).trans tuned.selection,
      tuned.settled.pushPacket packet⟩
  unfold MpegEngine.probed
  split
  · exact next.track
  · exact next

theorem analyse (tuned : engine.Tuned wanted) (data : Bytes) : (engine.analyse data).2.Tuned wanted := by
  have kept : (engine.probe.push data).selection = wanted ∧ (engine.probe.push data).Settled :=
    @Probe.push_invariant engine.probe (fun probe => probe.selection = wanted ∧ probe.Settled)
      (fun probe packet ⟨selection, settled⟩ =>
        ⟨(probe.selection_pushPacket packet).trans selection, settled.pushPacket packet⟩)
      ⟨tuned.selection, tuned.settled⟩ data
  have next : { engine with probe := engine.probe.push data }.Tuned wanted :=
    ⟨tuned.output, tuned.filters, kept.1, kept.2⟩
  exact next.track

theorem remuxPackets (tuned : engine.Tuned wanted) (chunks : List Bytes) :
    (engine.remuxPackets chunks).2.Tuned wanted := by
  induction chunks generalizing engine with
  | nil => exact tuned
  | cons chunk later ih =>
    refine ih (?_ : (engine.remuxPacket chunk).2.Tuned wanted)
    cases parsed : Packet.parse chunk with
    | error refused =>
      simp only [MpegEngine.remuxPacket, parsed]
      exact tuned
    | ok packet =>
      rw [remuxPacket_of_transport tuned.output parsed]
      exact tuned.probed packet

theorem perform (tuned : engine.Tuned wanted) (call : Call) : (engine.perform call).2.Tuned wanted := by
  cases call with
  | analyse data => exact tuned.analyse data
  | remux data =>
    show (engine.remux data).2.Tuned wanted
    unfold MpegEngine.remux
    split
    · exact tuned
    · exact tuned.remuxPackets _
  | close =>
    have plain : ¬ (engine.output = .program ∧ engine.program.isSome = true) := fun program => by
      rw [tuned.output] at program
      cases program.1
    show engine.close.2.Tuned wanted
    unfold MpegEngine.close
    split
    · exact tuned
    · rw [if_neg plain]
      exact ⟨tuned.output, tuned.filters, tuned.selection, tuned.settled⟩

theorem run (tuned : engine.Tuned wanted) (calls : List Call) : (engine.run calls).2.Tuned wanted := by
  induction calls generalizing engine with
  | nil => exact tuned
  | cons call later ih => exact ih (tuned.perform call)

end Tuned

def Answer.written : Answer → Bytes
  | .analysed _ => []
  | .emitted emissions => Engine.written emissions

def Belongs (program : Program) (chunk : Bytes) : Bool :=
  (Packet.parse chunk).toOption.any fun packet => program.contains packet.pid

/-- The chunk, if it can be read, is a packet that repeats what the engine knows of the program. -/
def Replays (engine : MpegEngine) (program : Program) (chunk : Bytes) : Prop :=
  ∀ packet ∈ (Packet.parse chunk).toOption, packet.Repeats engine.probe program

instance (engine : MpegEngine) (program : Program) (chunk : Bytes) :
    Decidable (engine.Replays program chunk) := by
  unfold Replays
  infer_instance

structure Filtering (program : Program) (engine : MpegEngine) : Prop where
  running : engine.closed = false
  output : engine.output = .transport
  filters : engine.filters = true
  tracked : engine.program = some program
  locked : engine.probe.Locked program

/-- Engines that know the same table of programs take the same packets for repetitions. -/
structure Alike (engine other : MpegEngine) : Prop where
  version : engine.probe.version = other.probe.version
  announced : engine.probe.announced = other.probe.announced

theorem Alike.replays {other : MpegEngine} (alike : other.Alike engine) {program : Program} {chunk : Bytes}
    (replays : engine.Replays program chunk) : other.Replays program chunk := by
  intro packet parsed
  obtain ⟨version, layout⟩ := replays packet parsed
  exact ⟨fun table brings => alike.version.trans (version table brings),
    fun another brings => layout another (alike.announced ▸ brings)⟩

theorem Alike.trans {first second third : MpegEngine} (left : first.Alike second) (right : second.Alike third) :
    first.Alike third :=
  ⟨left.version.trans right.version, left.announced.trans right.announced⟩

namespace Filtering

variable {program : Program}

theorem probed (filtering : engine.Filtering program) {packet : Packet}
    (repeats : packet.Repeats engine.probe program) :
    (engine.probed packet).Filtering program ∧ (engine.probed packet).Alike engine := by
  obtain ⟨locked, version, announced⟩ := filtering.locked.pushPacket repeats
  have same : engine.probed packet = { engine with probe := engine.probe.pushPacket packet } := by
    unfold MpegEngine.probed MpegEngine.track
    rw [locked.selected]
    simp only [filtering.tracked, if_true, ite_self]
  rw [same]
  exact ⟨⟨filtering.running, filtering.output, filtering.filters, filtering.tracked, locked⟩,
    version, announced⟩

theorem remuxPacket (filtering : engine.Filtering program) {chunk : Bytes}
    (replays : engine.Replays program chunk) :
    (engine.remuxPacket chunk).2.Filtering program ∧ (engine.remuxPacket chunk).2.Alike engine ∧
      (engine.remuxPacket chunk).1 = if Belongs program chunk then chunk else [] := by
  cases parsed : Packet.parse chunk with
  | error refused =>
    simp only [MpegEngine.remuxPacket, parsed, Belongs]
    exact ⟨filtering, ⟨rfl, rfl⟩, rfl⟩
  | ok packet =>
    have repeats : packet.Repeats engine.probe program := replays packet (by rw [parsed]; rfl)
    obtain ⟨next, alike⟩ := filtering.probed repeats
    have lets : (engine.probed packet).passes packet.pid = program.contains packet.pid := by
      rw [passes, next.filters, next.tracked]
      rfl
    have belongs : Belongs program chunk = program.contains packet.pid := by
      rw [Belongs, parsed]
      rfl
    rw [remuxPacket_of_transport filtering.output parsed, lets, belongs]
    exact ⟨next, alike, rfl⟩

theorem remuxPackets (filtering : engine.Filtering program) {chunks : List Bytes}
    (replays : ∀ chunk ∈ chunks, engine.Replays program chunk) :
    (engine.remuxPackets chunks).2.Filtering program ∧ (engine.remuxPackets chunks).2.Alike engine ∧
      (engine.remuxPackets chunks).1.flatten = (chunks.filter (Belongs program)).flatten := by
  induction chunks generalizing engine with
  | nil => exact ⟨filtering, ⟨rfl, rfl⟩, rfl⟩
  | cons chunk rest ih =>
    obtain ⟨here, others⟩ := List.forall_mem_cons.mp replays
    obtain ⟨still, alike, first⟩ := filtering.remuxPacket here
    obtain ⟨last, same, later⟩ := ih still fun other member => alike.replays (others other member)
    refine ⟨last, same.trans alike, ?_⟩
    simp only [MpegEngine.remuxPackets, List.flatten_cons, later, first, List.filter_cons]
    split <;> rfl

theorem remux (filtering : engine.Filtering program) {chunks : List Bytes}
    (sized : ∀ chunk ∈ chunks, chunk.length = packetSize)
    (replays : ∀ chunk ∈ chunks, engine.Replays program chunk) :
    (engine.remux chunks.flatten).2.Filtering program ∧ (engine.remux chunks.flatten).2.Alike engine ∧
      Engine.written (engine.remux chunks.flatten).1 = (chunks.filter (Belongs program)).flatten := by
  obtain ⟨still, alike, passed⟩ := filtering.remuxPackets replays
  have parts : Bytes.wholeChunks packetSize chunks.flatten = chunks :=
    Bytes.wholeChunks_flatten_blocks (by decide) sized
  unfold MpegEngine.remux
  rw [filtering.running, if_neg Bool.false_ne_true, parts]
  refine ⟨still, alike, ?_⟩
  rw [written_emission, passed]

theorem run (filtering : engine.Filtering program) {groups : List (List Bytes)}
    (sized : ∀ chunk ∈ groups.flatten, chunk.length = packetSize)
    (replays : ∀ chunk ∈ groups.flatten, engine.Replays program chunk) :
    (engine.run (groups.map fun group => .remux group.flatten)).2.Filtering program ∧
      (engine.run (groups.map fun group => .remux group.flatten)).1.flatMap Answer.written =
        (groups.flatten.filter (Belongs program)).flatten := by
  induction groups generalizing engine with
  | nil => exact ⟨filtering, rfl⟩
  | cons group later ih =>
    obtain ⟨whole, others⟩ := List.forall_mem_append.mp sized
    obtain ⟨here, behind⟩ := List.forall_mem_append.mp replays
    obtain ⟨still, alike, first⟩ := filtering.remux whole here
    obtain ⟨last, rest⟩ := ih still others fun chunk member => alike.replays (behind chunk member)
    refine ⟨last, ?_⟩
    rw [List.flatten_cons, List.filter_append, List.flatten_append, ← first, ← rest]
    rfl

end Filtering

theorem run_of_closed (closed : engine.closed = true) (groups : List (List Bytes)) :
    engine.run (groups.map fun group => .remux group.flatten) = (groups.map fun _ => .emitted [], engine) := by
  induction groups with
  | nil => rfl
  | cons group later ih =>
    have silent : engine.perform (.remux group.flatten) = (.emitted [], engine) := by
      simp only [MpegEngine.perform, MpegEngine.remux, closed, if_true]
    rw [List.map_cons, MpegEngine.run, silent]
    simp only [ih, List.map_cons]

/--
Whatever was asked of an engine for transport stream output with a choice of a program: once the program that it
follows is the one that its probe has selected, chunks that only repeat what is known of it do not change that.
As long as the engine is not closed, its sink is handed the chunks that are packets of the program, however they
are grouped, each whole and in order; a closed engine hands over nothing.
-/
theorem filter_exact (params : EngineParams) (transport : params.output = .transport)
    (explicit : params.tuning.selection ≠ .automatic) (calls : List Call) (program : Program)
    (tracked : ((new params).run calls).2.program = some program)
    (selected : ((new params).run calls).2.probe.selected = some program) (groups : List (List Bytes))
    (sized : ∀ chunk ∈ groups.flatten, chunk.length = packetSize)
    (replays : ∀ chunk ∈ groups.flatten, ((new params).run calls).2.Replays program chunk) :
    let engine := ((new params).run calls).2
    let pushed := engine.run (groups.map fun group => .remux group.flatten)
    pushed.2.program = some program ∧ pushed.2.probe.selected = some program ∧
      pushed.1.flatMap Answer.written =
        if engine.closed then [] else (groups.flatten.filter (Belongs program)).flatten := by
  have tuned := (Tuned.new transport).run calls
  dsimp only
  generalize ((new params).run calls).2 = engine at *
  cases state : engine.closed with
  | true =>
    rw [run_of_closed state]
    refine ⟨tracked, selected, ?_⟩
    simp only [List.flatMap_map, if_true]
    exact List.flatMap_eq_nil_iff.mpr fun _ _ => rfl
  | false =>
    have filters : engine.filters = true := by
      rw [tuned.filters]
      exact bne_iff_ne.mpr explicit
    have locked := tuned.settled.locked (tuned.selection ▸ explicit) selected
    have filtering : engine.Filtering program := ⟨state, tuned.output, filters, tracked, locked⟩
    obtain ⟨last, passed⟩ := filtering.run sized replays
    exact ⟨last.tracked, last.locked.selected, passed⟩

def mapPacket (program : Program) : Bytes :=
  (Synthetic.empty.payload program.mapPid true
    (0x00 :: ProgramMap.build program.number 0 program.clockPid program.streams)).bytes

def radio : Program := ⟨3, 0x30, 0x31, [⟨.mpeg1Audio, 0x31⟩]⟩

def television : Program := ⟨4, 0x40, 0x41, [⟨.mpeg2Video, 0x41⟩, ⟨.ac3, 0x42⟩]⟩

def listPacket : Bytes :=
  (Synthetic.empty.payload associationPid true
    (0x00 :: Association.build 1 0 [⟨3, 0x30⟩, ⟨4, 0x40⟩])).bytes

def soundPacket : Bytes :=
  (Synthetic.empty.payload 0x42 true []).bytes

def secondChannel : EngineParams :=
  ⟨.transport, .transport, .dvb, .cable, .ofChannel 2⟩

def shown : List Call :=
  [.analyse (listPacket ++ mapPacket television)]

def replayed : List (List Bytes) :=
  [[mapPacket radio, listPacket], [List.replicate packetSize 0, soundPacket, mapPacket television]]

/-- The map of another program is new, the other tables are known, and one chunk is no packet. -/
theorem filter_exact_channel :
    let engine := ((new secondChannel).run shown).2
    engine.program = some television ∧ engine.probe.selected = some television ∧
      (∀ chunk ∈ replayed.flatten, chunk.length = packetSize) ∧
      (∀ chunk ∈ replayed.flatten, engine.Replays television chunk) ∧
      (engine.run (replayed.map fun group => .remux group.flatten)).1.flatMap Answer.written =
        listPacket ++ soundPacket ++ mapPacket television := by
  have tracked : ((new secondChannel).run shown).2.program = some television := by decide +kernel
  have selected : ((new secondChannel).run shown).2.probe.selected = some television := by decide +kernel
  have sized : ∀ chunk ∈ replayed.flatten, chunk.length = packetSize := by decide +kernel
  have replays : ∀ chunk ∈ replayed.flatten, ((new secondChannel).run shown).2.Replays television chunk := by
    decide +kernel
  have passed := filter_exact secondChannel rfl (by decide) shown television tracked selected replayed sized
    replays
  refine ⟨tracked, selected, sized, replays, passed.2.2.trans ?_⟩
  decide +kernel

/-- An engine that was closed still follows its program and hands over nothing of it. -/
theorem silent_once_closed :
    let engine := ((new secondChannel).run (shown ++ [.close])).2
    engine.program = some television ∧ engine.probe.selected = some television ∧
      soundPacket.length = packetSize ∧ engine.Replays television soundPacket ∧
      Belongs television soundPacket = true ∧
      (engine.run [.remux soundPacket]).1.flatMap Answer.written = [] := by
  decide +kernel

end MpegEngine

end MpegRecorder
