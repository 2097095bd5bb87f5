import MpegRecorder.Proofs.Pack.Contents

/-!
The elementary streams in a program stream. What the packets of one stream carry falls into units, each
from a packet at which a unit starts up to the next such packet. However the streams of a program are
interleaved, the packs that a muxer writes for one of them carry the units of that stream that have a
header, each once and in order. A unit that counts its bytes may leave before its last packet is there:
what comes after the bytes that it counts belongs to no pack.
-/

namespace MpegRecorder.Pack

open Elementary Transport

def pieces (pid : UInt16) (packets : List Packet) : List (Bool × Bytes) :=
  packets.filterMap fun packet =>
    if packet.pid = pid then packet.payload.map fun payload => (packet.unitStart, payload) else none

def continued (pieces : List (Bool × Bytes)) : Bytes :=
  (pieces.takeWhile fun piece => !piece.1).flatMap Prod.snd

/-- The units of a stream. What comes before the first start belongs to none. -/
def units : List (Bool × Bytes) → List Bytes
  | [] => []
  | (false, _) :: later => units later
  | (true, payload) :: later => (payload ++ continued later) :: units later

/-- The output is the packs of those units that have a header, unit by unit. -/
inductive Delivers : (output : Bytes) → (units : List Bytes) → Prop where
  | nil : Delivers [] []
  | carried {unit : Bytes} {header : Pes.Header} {packs : List Bytes} {output : Bytes}
      {units : List Bytes} (carries : Carries unit header packs) (rest : Delivers output units) :
      Delivers (packs.flatten ++ output) (unit :: units)
  | dropped {unit : Bytes} {error : Malformed} {output : Bytes} {units : List Bytes}
      (refused : Pes.Header.parse unit = .error error) (rest : Delivers output units) :
      Delivers output (unit :: units)

namespace Delivers

theorem append {first second : Bytes} {units others : List Bytes} (left : Delivers first units)
    (right : Delivers second others) : Delivers (first ++ second) (units ++ others) := by
  induction left with
  | nil => exact right
  | carried carries rest ih =>
    rw [List.append_assoc]
    exact .carried carries ih
  | dropped refused rest ih => exact .dropped refused ih

end Delivers

theorem Carries.append {data : Bytes} {header : Pes.Header} {packs : List Bytes} {total : Nat}
    (carries : Carries data header packs) (bounded : header.totalLength = some total)
    (whole : total ≤ data.length) (more : Bytes) : Carries (data ++ more) header packs := by
  have parsed := Pes.Header.parse_append carries.parsed more
  have same : Muxer.counted header (data ++ more) = Muxer.counted header data := by
    simp only [Muxer.counted, bounded, List.take_append_of_le_length whole]
  refine ⟨parsed, same ▸ carries.chunks, ?_⟩
  rw [Pes.Header.take_of_parse parsed, ← Muxer.take_counted parsed, same,
    Muxer.take_counted carries.parsed, ← Pes.Header.take_of_parse carries.parsed]
  exact carries.first

def Assembly.Sound (assembly : Assembly) : Prop :=
  assembly.started = false → assembly.data = .empty

/-- The units that a stream has yet to deliver, when `pieces` are still to come. -/
def Assembly.due (assembly : Assembly) (pieces : List (Bool × Bytes)) : List Bytes :=
  if assembly.started then (assembly.data.toList ++ continued pieces) :: units pieces
  else units pieces

namespace Muxer

variable (muxer : Muxer)

theorem assemblies_emit (unit : Bytes) : (muxer.emit unit).2.assemblies = muxer.assemblies := by
  unfold emit
  split <;> rfl

theorem assemblies_emitPending (data : Packed) :
    (muxer.emitPending data).2.assemblies = muxer.assemblies := by
  unfold emitPending
  split
  · rfl
  · exact muxer.assemblies_emit _

theorem assemblies_trackClock (packet : Packet) :
    (muxer.trackClock packet).assemblies = muxer.assemblies := by
  unfold trackClock
  split
  · split <;> rfl
  · rfl

theorem carries_emit {unit : Bytes} {header : Pes.Header}
    (parsed : Pes.Header.parse unit = .ok header) :
    ∃ packs, packs.flatten = (muxer.emit unit).1 ∧ Carries unit header packs := by
  obtain ⟨packs, spelled, carries, -⟩ := carries_unitPacks (muxer.clockAt header) parsed
  refine ⟨packs, ?_, carries⟩
  rw [spelled, emit, parsed]

theorem emit_of_refused {unit : Bytes} {error : Malformed}
    (refused : Pes.Header.parse unit = .error error) : muxer.emit unit = ([], muxer) := by
  rw [emit, refused]

theorem delivers_emit (unit : Bytes) : Delivers (muxer.emit unit).1 [unit] := by
  cases parsed : Pes.Header.parse unit with
  | error error =>
    rw [muxer.emit_of_refused parsed]
    exact .dropped parsed .nil
  | ok header =>
    obtain ⟨packs, spelled, carries⟩ := muxer.carries_emit parsed
    rw [← spelled, ← List.append_nil packs.flatten]
    exact .carried carries .nil

theorem delivers_emitPending (data : Packed) :
    Delivers (muxer.emitPending data).1 [data.toList] := by
  unfold emitPending
  split
  · next empty =>
    have nothing : data.toList = [] := by
      rw [← List.length_eq_zero_iff, Packed.length_toList]
      exact beq_iff_eq.mp empty
    rw [nothing]
    exact .dropped rfl .nil
  · exact muxer.delivers_emit _

theorem delivers_complete {data : Packed} (complete : isComplete data = true) (more : Bytes) :
    Delivers (muxer.emit data.toList).1 [data.toList ++ more] := by
  rw [isComplete_eq, Option.any_eq_true] at complete
  obtain ⟨total, read, whole⟩ := complete
  rw [decide_eq_true_eq, ← Packed.length_toList] at whole
  cases parsed : Pes.Header.parse data.toList with
  | error error =>
    rw [parsed] at read
    cases read
  | ok header =>
    rw [parsed] at read
    have bounded : header.totalLength = some total := read
    obtain ⟨packs, spelled, carries⟩ := muxer.carries_emit parsed
    rw [← spelled, ← List.append_nil packs.flatten]
    exact .carried (carries.append bounded whole more) .nil

def pids : List UInt16 :=
  muxer.assemblies.map Assembly.pid

theorem pid_replaced (assembly other : Assembly) :
    (if other.pid == assembly.pid then assembly else other).pid = other.pid := by
  split
  · next same => exact (beq_iff_eq.mp same).symm
  · rfl

theorem pids_put (assembly : Assembly) : (muxer.put assembly).pids = muxer.pids := by
  simp only [pids, put, List.map_map]
  congr 1
  funext other
  exact pid_replaced assembly other

theorem assembly?_put (assembly : Assembly) (pid : UInt16) :
    (muxer.put assembly).assembly? pid = (muxer.assembly? pid).map fun other =>
      if other.pid == assembly.pid then assembly else other := by
  simp only [assembly?, put, List.find?_map]
  congr 2
  funext other
  exact congrArg (· == pid) (pid_replaced assembly other)

theorem pid_of_assembly? {muxer : Muxer} {pid : UInt16} {assembly : Assembly}
    (found : muxer.assembly? pid = some assembly) : assembly.pid = pid := by
  have hit := List.find?_some found
  exact beq_iff_eq.mp hit

structure Follows (before after : Muxer) (next : Assembly) : Prop where
  pids : after.pids = before.pids
  own : after.assembly? next.pid = some next
  others : ∀ pid, pid ≠ next.pid → after.assembly? pid = before.assembly? pid

theorem follows_put {before : Muxer} {assembly : Assembly}
    (found : before.assembly? assembly.pid = some assembly)
    (same : muxer.assemblies = before.assemblies) (data : Packed) (started : Bool) :
    Follows before (muxer.put ⟨assembly.pid, data, started⟩) ⟨assembly.pid, data, started⟩ := by
  have still (pid : UInt16) : muxer.assembly? pid = before.assembly? pid := by
    rw [assembly?, same, assembly?]
  refine ⟨by rw [pids_put, Muxer.pids, same, Muxer.pids], ?_, fun pid other => ?_⟩
  · rw [assembly?_put, still, found, Option.map_some, beq_self_eq_true, if_pos rfl]
  · rw [assembly?_put, still]
    cases there : before.assembly? pid with
    | none => rfl
    | some another =>
      have different : (another.pid == assembly.pid) = false := by
        rw [pid_of_assembly? there]
        exact beq_false_of_ne other
      rw [Option.map_some, different, if_neg Bool.false_ne_true]

/-- The unit that a payload belongs to, as far as it is there with the payload. -/
def joined (assembly : Assembly) (unitStart : Bool) (payload : Bytes) : Packed :=
  if unitStart then Packed.ofList payload else assembly.data.append payload

theorem due_cons (assembly : Assembly) (unitStart : Bool) (payload : Bytes)
    (under : unitStart = true ∨ assembly.started = true) (later : List (Bool × Bytes)) :
    assembly.due ((unitStart, payload) :: later) =
      (if unitStart ∧ assembly.started then [assembly.data.toList] else [])
        ++ ((joined assembly unitStart payload).toList ++ continued later) :: units later := by
  cases unitStart with
  | true =>
    cases started : assembly.started <;>
      simp [Assembly.due, started, joined, units, continued]
  | false =>
    have started : assembly.started = true := under.resolve_left Bool.false_ne_true
    simp [Assembly.due, started, joined, units, continued]

theorem delivers_before {assembly : Assembly} (sound : assembly.Sound) (unitStart : Bool) :
    Delivers (if unitStart then muxer.emitPending assembly.data else ([], muxer)).1
        (if unitStart ∧ assembly.started then [assembly.data.toList] else []) ∧
      (if unitStart then muxer.emitPending assembly.data else ([], muxer)).2.assemblies =
        muxer.assemblies := by
  cases unitStart with
  | false => exact ⟨.nil, rfl⟩
  | true =>
    refine ⟨?_, muxer.assemblies_emitPending _⟩
    cases started : assembly.started with
    | true => simpa using muxer.delivers_emitPending assembly.data
    | false =>
      rw [sound started]
      exact .nil

theorem pushPayload_of_under {assembly : Assembly} {unitStart : Bool}
    (under : unitStart = true ∨ assembly.started = true) (payload : Bytes) :
    muxer.pushPayload assembly unitStart payload =
      let pending := if unitStart then muxer.emitPending assembly.data else ([], muxer)
      let data := joined assembly unitStart payload
      if isComplete data then
        (pending.1 ++ (pending.2.emit data.toList).1,
          (pending.2.emit data.toList).2.put ⟨assembly.pid, .empty, false⟩)
      else (pending.1, pending.2.put ⟨assembly.pid, data, true⟩) := by
  have begins : ¬ (!unitStart && !assembly.started) = true := by
    rcases under with start | started
    · simp [start]
    · simp [started]
  simp only [pushPayload, if_neg begins]
  rfl

theorem delivers_pushPayload {assembly : Assembly}
    (found : muxer.assembly? assembly.pid = some assembly) (sound : assembly.Sound)
    (unitStart : Bool) (payload : Bytes) :
    ∃ next, next.pid = assembly.pid ∧ next.Sound ∧
      Follows muxer (muxer.pushPayload assembly unitStart payload).2 next ∧
      ∀ later output, Delivers output (next.due later) →
        Delivers ((muxer.pushPayload assembly unitStart payload).1 ++ output)
          (assembly.due ((unitStart, payload) :: later)) := by
  by_cases under : unitStart = true ∨ assembly.started = true
  · obtain ⟨sent, same⟩ := muxer.delivers_before sound unitStart
    simp only [due_cons assembly unitStart payload under, muxer.pushPayload_of_under under]
    generalize (if unitStart then muxer.emitPending assembly.data else ([], muxer)) = pending at *
    by_cases complete : isComplete (joined assembly unitStart payload) = true
    · rw [if_pos complete]
      refine ⟨⟨assembly.pid, .empty, false⟩, rfl, fun _ => rfl,
        follows_put _ found ((pending.2.assemblies_emit _).trans same) .empty false, ?_⟩
      intro later output delivered
      have whole := pending.2.delivers_complete complete (continued later)
      rw [List.append_assoc]
      exact sent.append (whole.append delivered)
    · rw [if_neg complete]
      exact ⟨⟨assembly.pid, _, true⟩, rfl, nofun, follows_put _ found same _ true,
        fun later output delivered => sent.append delivered⟩
  · obtain ⟨inside, idle⟩ := not_or.mp under
    rw [Bool.not_eq_true] at inside idle
    have ignored : muxer.pushPayload assembly unitStart payload = ([], muxer) := by
      simp [pushPayload, inside, idle]
    rw [ignored]
    refine ⟨assembly, rfl, sound, ⟨rfl, found, fun _ _ => rfl⟩, fun later output delivered => ?_⟩
    simp only [Assembly.due, idle, Bool.false_eq_true, if_false] at delivered
    simp only [Assembly.due, idle, inside, units, Bool.false_eq_true, if_false, List.nil_append]
    exact delivered

def closing (muxer : Muxer) : List Assembly → List (UInt16 × Bytes)
  | [] => []
  | assembly :: later =>
    (assembly.pid, (muxer.emitPending assembly.data).1)
      :: closing (muxer.emitPending assembly.data).2 later

def trace (muxer : Muxer) : List Packet → List (UInt16 × Bytes)
  | [] => muxer.closing muxer.assemblies
  | packet :: later => (packet.pid, (muxer.pushPacket packet).1) :: trace (muxer.pushPacket packet).2 later

end Muxer

def ofStream (pid : UInt16) (trace : List (UInt16 × Bytes)) : Bytes :=
  trace.flatMap fun entry => if entry.1 = pid then entry.2 else []

namespace Muxer

variable (muxer : Muxer)

theorem finish_closing :
    (muxer.finish).1 = (muxer.closing muxer.assemblies).flatMap Prod.snd ++ endCode := by
  have fold (assemblies : List Assembly) (sent : Bytes) (current : Muxer) :
      (assemblies.foldl
        (fun state assembly =>
          (state.1 ++ (emitPending state.2 assembly.data).1, (emitPending state.2 assembly.data).2))
        (sent, current)).1 = sent ++ (current.closing assemblies).flatMap Prod.snd := by
    induction assemblies generalizing sent current with
    | nil => exact (List.append_nil _).symm
    | cons assembly later ih =>
      rw [List.foldl_cons, ih, closing, List.flatMap_cons, List.append_assoc]
  exact congrArg (· ++ endCode) (fold muxer.assemblies [] muxer)

theorem run_trace (packets : List Packet) :
    (muxer.run (packets.map .pushPacket)).1 ++ ((muxer.run (packets.map .pushPacket)).2.finish).1 =
      (muxer.trace packets).flatMap Prod.snd ++ endCode := by
  induction packets generalizing muxer with
  | nil => exact muxer.finish_closing
  | cons packet later ih =>
    rw [trace, List.flatMap_cons, List.append_assoc, ← ih]
    exact List.append_assoc ..

theorem ofStream_closing_of_absent {pid : UInt16} {assemblies : List Assembly}
    (absent : pid ∉ assemblies.map Assembly.pid) : ofStream pid (muxer.closing assemblies) = [] := by
  induction assemblies generalizing muxer with
  | nil => rfl
  | cons assembly later ih =>
    rw [List.map_cons, List.mem_cons, not_or] at absent
    rw [closing, ofStream, List.flatMap_cons, if_neg (Ne.symm absent.1), List.nil_append]
    exact ih _ absent.2

theorem delivers_closing {assemblies : List Assembly}
    (distinct : (assemblies.map Assembly.pid).Nodup) {assembly : Assembly}
    (member : assembly ∈ assemblies) (sound : assembly.Sound) :
    Delivers (ofStream assembly.pid (muxer.closing assemblies)) (assembly.due []) := by
  induction assemblies generalizing muxer with
  | nil => cases member
  | cons first later ih =>
    rw [List.map_cons, List.nodup_cons] at distinct
    rw [closing, ofStream, List.flatMap_cons]
    rcases List.mem_cons.mp member with rfl | behind
    · have nothing := ofStream_closing_of_absent (muxer.emitPending assembly.data).2 distinct.1
      rw [ofStream] at nothing
      rw [nothing, if_pos rfl, List.append_nil]
      cases started : assembly.started with
      | true =>
        simp only [Assembly.due, started, continued, units, List.takeWhile_nil, List.flatMap_nil,
          List.append_nil, if_true]
        exact muxer.delivers_emitPending assembly.data
      | false =>
        rw [sound started, Assembly.due, started]
        exact .nil
    · have other : first.pid ≠ assembly.pid := by
        intro same
        exact distinct.1 (same ▸ List.mem_map_of_mem behind)
      rw [if_neg other, List.nil_append]
      exact ih _ distinct.2 behind

theorem assembly?_trackClock (packet : Packet) (pid : UInt16) :
    (muxer.trackClock packet).assembly? pid = muxer.assembly? pid := by
  rw [assembly?, assemblies_trackClock, assembly?]

theorem pids_trackClock (packet : Packet) : (muxer.trackClock packet).pids = muxer.pids := by
  rw [pids, assemblies_trackClock, pids]

structure Sound : Prop where
  distinct : muxer.pids.Nodup
  assemblies : ∀ pid assembly, muxer.assembly? pid = some assembly → assembly.Sound

variable {muxer}

theorem Follows.sound {after : Muxer} {next : Assembly} (follows : Follows muxer after next)
    (sound : muxer.Sound) (still : next.Sound) : after.Sound where
  distinct := by
    rw [follows.pids]
    exact sound.distinct
  assemblies pid assembly found := by
    by_cases same : pid = next.pid
    · rw [same, follows.own] at found
      cases found
      exact still
    · rw [follows.others pid same] at found
      exact sound.assemblies pid assembly found

/--
What a packet does: nothing but to the clock if its stream is not followed or it carries no payload, and
otherwise its stream delivers the units that end with it.
-/
theorem Sound.step (sound : muxer.Sound) (packet : Packet) :
    (muxer.assembly? packet.pid = none ∨ packet.payload = none) ∧
        muxer.pushPacket packet = ([], muxer.trackClock packet)
      ∨ ∃ assembly payload next, muxer.assembly? packet.pid = some assembly ∧
        packet.payload = some payload ∧ next.pid = packet.pid ∧ next.Sound ∧
        Follows muxer (muxer.pushPacket packet).2 next ∧
        ∀ later output, Delivers output (next.due later) →
          Delivers ((muxer.pushPacket packet).1 ++ output)
            (assembly.due ((packet.unitStart, payload) :: later)) := by
  unfold pushPacket
  dsimp only
  rw [assembly?_trackClock]
  cases found : muxer.assembly? packet.pid with
  | none => exact .inl ⟨.inl rfl, rfl⟩
  | some assembly =>
    cases carried : packet.payload with
    | none => exact .inl ⟨.inr rfl, rfl⟩
    | some payload =>
      have own := pid_of_assembly? found
      have there : (muxer.trackClock packet).assembly? assembly.pid = some assembly := by
        rw [assembly?_trackClock, own, found]
      obtain ⟨next, same, still, follows, delivers⟩ :=
        (muxer.trackClock packet).delivers_pushPayload there (sound.assemblies _ _ found)
          packet.unitStart payload
      refine .inr ⟨assembly, payload, next, rfl, rfl, same.trans own, still, ?_, delivers⟩
      refine ⟨follows.pids.trans (muxer.pids_trackClock packet), follows.own, fun pid other => ?_⟩
      rw [follows.others pid other, assembly?_trackClock]

theorem Sound.pushPacket (sound : muxer.Sound) (packet : Packet) :
    (muxer.pushPacket packet).2.Sound := by
  rcases sound.step packet with ⟨-, ignored⟩ | ⟨_, _, next, -, -, -, still, follows, -⟩
  · rw [ignored]
    refine ⟨?_, fun pid assembly found => ?_⟩
    · rw [pids_trackClock]
      exact sound.distinct
    · rw [assembly?_trackClock] at found
      exact sound.assemblies pid assembly found
  · exact follows.sound sound still

theorem pieces_of_ignored {packet : Packet} {pid : UInt16}
    (ignored : packet.pid ≠ pid ∨ packet.payload = none) (later : List Packet) :
    pieces pid (packet :: later) = pieces pid later := by
  rcases ignored with other | empty
  · simp [pieces, other]
  · simp [pieces, empty]

theorem Sound.delivers (sound : muxer.Sound) {pid : UInt16} {assembly : Assembly}
    (found : muxer.assembly? pid = some assembly) (packet : Packet) :
    ∃ next, (muxer.pushPacket packet).2.assembly? pid = some next ∧
      ∀ later output, Delivers output (next.due (pieces pid later)) →
        Delivers ((if packet.pid = pid then (muxer.pushPacket packet).1 else []) ++ output)
          (assembly.due (pieces pid (packet :: later))) := by
  rcases sound.step packet with ⟨reason, ignored⟩ | ⟨other, payload, next, there, carried, same, -,
    follows, delivers⟩
  · have skipped : packet.pid ≠ pid ∨ packet.payload = none := by
      refine reason.imp_left fun absent mine => ?_
      rw [mine, found] at absent
      cases absent
    rw [ignored]
    refine ⟨assembly, by rw [assembly?_trackClock, found], fun later output delivered => ?_⟩
    rw [pieces_of_ignored skipped, ite_self]
    exact delivered
  · by_cases mine : packet.pid = pid
    · rw [mine, found] at there
      cases there
      have joins (later : List Packet) :
          pieces pid (packet :: later) = (packet.unitStart, payload) :: pieces pid later := by
        simp [pieces, mine, carried]
      have own : (muxer.pushPacket packet).2.assembly? pid = some next := by
        rw [← mine, ← same]
        exact follows.own
      refine ⟨next, own, fun later output delivered => ?_⟩
      rw [if_pos mine, joins]
      exact delivers _ output delivered
    · have apart : pid ≠ next.pid := by
        rw [same]
        exact Ne.symm mine
      refine ⟨assembly, by rw [follows.others pid apart, found], fun later output delivered => ?_⟩
      rw [if_neg mine, pieces_of_ignored (.inl mine)]
      exact delivered

theorem Sound.delivers_trace (sound : muxer.Sound) {pid : UInt16} {assembly : Assembly}
    (found : muxer.assembly? pid = some assembly) (packets : List Packet) :
    Delivers (ofStream pid (muxer.trace packets)) (assembly.due (pieces pid packets)) := by
  induction packets generalizing muxer assembly with
  | nil =>
    have closes := muxer.delivers_closing sound.distinct (List.mem_of_find?_eq_some found)
      (sound.assemblies pid assembly found)
    rw [pid_of_assembly? found] at closes
    exact closes
  | cons packet later ih =>
    obtain ⟨next, there, delivers⟩ := sound.delivers found packet
    rw [trace, ofStream, List.flatMap_cons]
    exact delivers later _ (ih (sound.pushPacket packet) there)

theorem assembly?_eq_none_iff (muxer : Muxer) (pid : UInt16) :
    muxer.assembly? pid = none ↔ pid ∉ muxer.pids := by
  simp only [assembly?, List.find?_eq_none, beq_iff_eq, pids, List.mem_map, not_exists, not_and]

theorem Sound.ofStream_of_absent (sound : muxer.Sound) {pid : UInt16}
    (absent : muxer.assembly? pid = none) (packets : List Packet) :
    ofStream pid (muxer.trace packets) = [] := by
  induction packets generalizing muxer with
  | nil => exact muxer.ofStream_closing_of_absent ((muxer.assembly?_eq_none_iff pid).mp absent)
  | cons packet later ih =>
    rw [trace, ofStream, List.flatMap_cons]
    rcases sound.step packet with ⟨-, ignored⟩ | ⟨assembly, _, next, there, -, same, still, follows, -⟩
    · have stays : (muxer.trackClock packet).assembly? pid = none := by
        rw [assembly?_trackClock, absent]
      have rest := ih (sound.pushPacket packet)
      rw [ignored] at rest ⊢
      rw [ite_self, List.nil_append]
      exact rest stays
    · have other : packet.pid ≠ pid := by
        rintro rfl
        rw [absent] at there
        cases there
      rw [if_neg other, List.nil_append]
      refine ih (sound.pushPacket packet) ?_
      rw [follows.others pid (by rw [same]; exact Ne.symm other), absent]

def played (program : Program) : List UInt16 :=
  (program.streams.filter fun stream => stream.kind.isVideo || stream.kind.isAudio).map
    StreamEntry.pid

theorem foldl_follow (wanted : List UInt16) (kept : List Assembly)
    (distinct : (kept.map Assembly.pid).Nodup) :
    let followed := wanted.foldl
      (fun assemblies pid =>
        if assemblies.any fun assembly => assembly.pid == pid then assemblies
        else assemblies ++ [⟨pid, .empty, false⟩])
      kept
    (followed.map Assembly.pid).Nodup ∧
      (∀ pid, pid ∈ followed.map Assembly.pid ↔ pid ∈ kept.map Assembly.pid ∨ pid ∈ wanted) ∧
      ∀ assembly ∈ followed, assembly ∈ kept ∨ assembly.started = false ∧ assembly.data = .empty := by
  -- Stream by stream: one is followed already, or goes behind those that are.
  induction wanted generalizing kept with
  | nil => exact ⟨distinct, by simp, fun assembly member => .inl member⟩
  | cons first later ih =>
    rw [List.foldl_cons]
    by_cases there : (kept.any fun assembly => assembly.pid == first) = true
    · rw [if_pos there]
      have known : first ∈ kept.map Assembly.pid := by
        obtain ⟨assembly, member, same⟩ := List.any_eq_true.mp there
        exact List.mem_map.mpr ⟨assembly, member, beq_iff_eq.mp same⟩
      obtain ⟨still, members, others⟩ := ih kept distinct
      refine ⟨still, fun pid => ?_, others⟩
      rw [members, List.mem_cons]
      constructor
      · exact Or.imp_right .inr
      · rintro (before | rfl | after)
        · exact .inl before
        · exact .inl known
        · exact .inr after
    · rw [if_neg there]
      have unknown : first ∉ kept.map Assembly.pid := by
        intro member
        obtain ⟨assembly, inside, same⟩ := List.mem_map.mp member
        exact there (List.any_eq_true.mpr ⟨assembly, inside, beq_iff_eq.mpr same⟩)
      let new : Assembly := ⟨first, .empty, false⟩
      have grown : ((kept ++ [new]).map Assembly.pid).Nodup := by
        rw [List.map_append, List.map_singleton]
        refine List.nodup_append.mpr ⟨distinct, List.pairwise_singleton .., ?_⟩
        intro pid member other last same
        rw [same, List.mem_singleton.mp last] at member
        exact unknown member
      obtain ⟨still, members, others⟩ := ih (kept ++ [new]) grown
      refine ⟨still, fun pid => ?_, fun assembly member => ?_⟩
      · rw [members, List.map_append, List.mem_append, List.map_singleton, List.mem_singleton,
          List.mem_cons, or_assoc]
      · rcases others assembly member with inside | empty
        · rcases List.mem_append.mp inside with before | last
          · exact .inl before
          · rw [List.mem_singleton.mp last]
            exact .inr ⟨rfl, rfl⟩
        · exact .inr empty

theorem new_setProgram (program : Program) :
    (new.setProgram program).Sound ∧
      (∀ pid, pid ∈ (new.setProgram program).pids ↔ pid ∈ played program) ∧
      ∀ pid assembly, (new.setProgram program).assembly? pid = some assembly →
        assembly.started = false := by
  obtain ⟨distinct, members, others⟩ := foldl_follow (played program) [] List.nodup_nil
  have idle (pid : UInt16) (assembly : Assembly)
      (found : (new.setProgram program).assembly? pid = some assembly) :
      assembly.started = false ∧ assembly.data = .empty :=
    (others assembly (List.mem_of_find?_eq_some found)).resolve_left List.not_mem_nil
  refine ⟨⟨distinct, fun pid assembly found _ => (idle pid assembly found).2⟩, fun pid => ?_,
    fun pid assembly found => (idle pid assembly found).1⟩
  exact (members pid).trans (or_iff_right List.not_mem_nil)

/--
Of each video and audio stream of a program, its packs carry the units that have a header, each once and
in order, and nothing else is written.
-/
theorem streams_preserved (program : Program) (packets : List Packet) :
    let muxer := new.setProgram program
    let ended := muxer.run (packets.map .pushPacket)
    ended.1 ++ (ended.2.finish).1 = (muxer.trace packets).flatMap Prod.snd ++ endCode ∧
      ∀ pid,
        (pid ∈ played program →
          Delivers (ofStream pid (muxer.trace packets)) (units (pieces pid packets))) ∧
        (pid ∉ played program → ofStream pid (muxer.trace packets) = []) := by
  obtain ⟨sound, members, idle⟩ := new_setProgram program
  refine ⟨run_trace _ packets, fun pid => ⟨fun wanted => ?_, fun unwanted => ?_⟩⟩
  · have followed : (new.setProgram program).assembly? pid ≠ none := by
      rw [ne_eq, assembly?_eq_none_iff, not_not, members]
      exact wanted
    obtain ⟨assembly, found⟩ := Option.ne_none_iff_exists'.mp followed
    have delivered := sound.delivers_trace found packets
    rw [Assembly.due, idle pid assembly found] at delivered
    exact delivered
  · refine sound.ofStream_of_absent ?_ packets
    rw [assembly?_eq_none_iff, members]
    exact unwanted

def avProgram : Program :=
  ⟨1, 0x30, 0x100, [⟨.h264, 0x100⟩, ⟨.adtsAac, 0x101⟩]⟩

def plain (pid : UInt16) (unitStart : Bool) (payload : Bytes) : Packet :=
  ⟨false, unitStart, false, pid, 0, 1, 0, none, some payload⟩

/--
The header of a counted audio unit comes in two packets, the second of which brings more than the unit
counts, and is followed by a unit that has no header. A video unit begins in between.
-/
def interleaved : List Packet :=
  [plain 0x101 false [9], plain 0x101 true [0, 0, 1, 0xC0, 0, 5, 0x80],
    plain 0x100 true [0, 0, 1, 0xE0, 0, 0, 0x80, 0, 0, 1], plain 0x101 false [0, 0, 2, 3, 4],
    plain 0x101 false [5], plain 0x101 true [6], plain 0x100 false [7]]

theorem streams_preserved_interleaved :
    0x101 ∈ played avProgram ∧ 0x200 ∉ played avProgram ∧
      Delivers (ofStream 0x101 ((new.setProgram avProgram).trace interleaved))
        [[0, 0, 1, 0xC0, 0, 5, 0x80, 0, 0, 2, 3, 4, 5], [6]] ∧
      ofStream 0x200 ((new.setProgram avProgram).trace interleaved) = [] := by
  have preserved := (streams_preserved avProgram interleaved).2
  exact ⟨by decide, by decide, (preserved 0x101).1 (by decide), (preserved 0x200).2 (by decide)⟩

end Muxer

end MpegRecorder.Pack
