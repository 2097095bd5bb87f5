import MpegRecorder.Proofs.Access.Packets
import MpegRecorder.Transport.Probe

/-!
Table sections, read by offset, and the probe that reads them out of packets. The length of a section, the
descriptors of a program and those of each stream all come from the capture; none of them leads a read beyond
the section that was measured.
-/

namespace MpegRecorder.Access

open Transport

/-- Where the body of a section ends and its check begins. -/
def sectionEnd (table : UInt8) (least : Nat) (data : Bytes) : Except Fault (Except Malformed Nat) := do
  if data.length < 3 then return .error (.tooShort 3 data.length)
  let identifier ← index data 0
  if identifier ≠ table then return .error (.tableId table identifier)
  let high ← index data 1
  if high &&& 0x80 = 0 then return .error (.shortForm table)
  let low ← index data 2
  let length := Bytes.lengthAt [high, low] 0
  if length < least then return .error (.sectionLength length)
  if data.length < 3 + length then return .error (.tooShort (3 + length) data.length)
  let stop ← minus (3 + length) Section.checkLength
  return .ok stop

def programEntry (entry : Bytes) : Except Fault ProgramEntry := do
  let n1 ← index entry 0
  let n0 ← index entry 1
  let p1 ← index entry 2
  let p0 ← index entry 3
  return ⟨Bytes.wordAt [n1, n0] 0, Bytes.pidAt [p1, p0] 0⟩

def association (data : Bytes) : Except Fault (Except Malformed Association) := do
  match ← sectionEnd Association.tableId 9 data with
  | .error e => return .error e
  | .ok stop =>
    let programs ← slice data 8 stop
    let i1 ← index data 3
    let i0 ← index data 4
    let version ← index data 5
    let chunks ← wholePieces 4 programs
    let entries ← chunks.mapM programEntry
    return .ok {
      streamId := Bytes.wordAt [i1, i0] 0
      version := version >>> 1 &&& 0x1F
      current := version &&& 0x01 != 0
      programs := entries.filter fun entry => entry.number != 0 }

def programMap (data : Bytes) : Except Fault (Except Malformed ProgramMap) := do
  match ← sectionEnd ProgramMap.tableId 13 data with
  | .error e => return .error e
  | .ok stop =>
    let d1 ← index data 10
    let d0 ← index data 11
    let offset := 12 + Bytes.lengthAt [d1, d0] 0
    if stop < offset then return .error (.tooShort offset stop)
    let streamLoop ← slice data offset stop
    let n1 ← index data 3
    let n0 ← index data 4
    let version ← index data 5
    let c1 ← index data 8
    let c0 ← index data 9
    return .ok ⟨Bytes.wordAt [n1, n0] 0, version >>> 1 &&& 0x1F, Bytes.pidAt [c1, c0] 0, streamLoop⟩

def streamEntry (entry : Bytes) : Except Fault (StreamEntry × Nat) := do
  let kind ← index entry 0
  let p1 ← index entry 1
  let p0 ← index entry 2
  let d1 ← index entry 3
  let d0 ← index entry 4
  return (⟨Elementary.Kind.ofCode kind, Bytes.pidAt [p1, p0] 0⟩, Bytes.lengthAt [d1, d0] 0)

def streamsFrom (streamLoop : Bytes) (offset : Nat) :
    Except Fault (List (Except Malformed StreamEntry)) :=
  if _room : offset + 5 ≤ streamLoop.length then do
    let (entry, descriptors) ← streamEntry ((streamLoop.drop offset).take 5)
    if streamLoop.length < offset + 5 + descriptors then
      return [.error (.tooShort (offset + 5 + descriptors) streamLoop.length)]
    else
      let rest ← streamsFrom streamLoop (offset + 5 + descriptors)
      return .ok entry :: rest
  else return []
termination_by streamLoop.length - offset

def onAssociation (probe : Probe) (data : Bytes) : Except Fault Probe := do
  match ← association data with
  | .error _ => return probe
  | .ok table =>
    if probe.version = some table.version then return probe
    else return { probe with
      version := some table.version, announced := table.programs, layouts := [], selected := none }

def onProgramMap (probe : Probe) (pid : UInt16) (data : Bytes) : Except Fault Probe := do
  match ← programMap data with
  | .error _ => return probe
  | .ok table =>
    let entries ← streamsFrom table.streamLoop 0
    let program : Program := ⟨table.number, pid, table.clockPid, entries.filterMap Except.toOption⟩
    if probe.layout? program.number = some program then return probe
    else
      let probe := probe.putLayout program
      return { probe with selected := probe.choose }

def probePacket (probe : Probe) (view : View) : Except Fault Probe :=
  if view.unitStart then do
    match ← view.tableSection with
    | none => return probe
    | some data =>
      if view.pid = associationPid ∧ data.head? = some Association.tableId then
        onAssociation probe data
      else if data.head? = some ProgramMap.tableId ∧ probe.isAnnounced view.pid then
        onProgramMap probe view.pid data
      else return probe
  else return probe

def probeData (probe : Probe) (data : Bytes) : Except Fault Probe := do
  let chunks ← wholePieces packetSize data
  chunks.foldlM
    (fun probe chunk => do
      match ← View.parse chunk with
      | .ok view => probePacket probe view
      | .error _ => return probe)
    probe

theorem sectionEnd_sound (table : UInt8) {least : Nat} (enough : 4 ≤ least)
    (data : Bytes) :
    (∃ error, Section.body table least data = .error error
        ∧ sectionEnd table least data = .ok (.error error))
      ∨ ∃ stop, Section.body table least data = .ok ((data.take stop).drop 3)
        ∧ sectionEnd table least data = .ok (.ok stop)
        ∧ 3 + least ≤ stop + 4 ∧ stop + 4 ≤ data.length := by
  unfold Section.body sectionEnd Section.checkLength
  by_cases short : data.length < 3
  · simp only [short, if_true]
    exact .inl ⟨_, rfl, rfl⟩
  have given : Bytes.lengthAt [data.byteAt 1, data.byteAt 2] 0 = data.lengthAt 1 := rfl
  simp (disch := omega) only [index_byte, short, if_false, ok_bind, pure_eq_ok, given]
  by_cases other : data.byteAt 0 ≠ table
  · rw [if_pos other, if_pos other]
    exact .inl ⟨_, rfl, rfl⟩
  by_cases form : data.byteAt 1 &&& 0x80 = 0
  · simp only [other, form, if_true, if_false]
    exact .inl ⟨_, rfl, rfl⟩
  by_cases little : data.lengthAt 1 < least
  · simp only [other, form, little, if_true, if_false]
    exact .inl ⟨_, rfl, rfl⟩
  by_cases beyond : data.length < 3 + data.lengthAt 1
  · simp only [other, form, little, beyond, if_true, if_false]
    exact .inl ⟨_, rfl, rfl⟩
  have room : 4 ≤ 3 + data.lengthAt 1 := by omega
  have length : data.lengthAt 1 - 4 = 3 + data.lengthAt 1 - 4 - 3 := by omega
  simp only [other, form, little, beyond, if_false, minus_of_le room, ok_bind]
  refine .inr ⟨3 + data.lengthAt 1 - 4, ?_, rfl, by omega, by omega⟩
  rw [List.drop_take, length]

theorem byteAt_body {data : Bytes} {stop offset : Nat} (inside : 3 + offset < stop) :
    Bytes.byteAt ((data.take stop).drop 3) offset = data.byteAt (3 + offset) := by
  simp only [Bytes.byteAt, List.getD_eq_getElem?_getD, List.getElem?_drop, List.getElem?_take, if_pos inside]

theorem programEntry_of_chunk {chunk : Bytes} (whole : chunk.length = 4) :
    programEntry chunk = .ok ⟨chunk.wordAt 0, chunk.pidAt 2⟩ := by
  simp (disch := omega) only [programEntry, index_byte, ok_bind, pure_eq_ok]
  rfl

theorem entries_eq_map (data : Bytes) :
    Association.entries data =
      (data.wholeChunks 4).map fun chunk => ⟨chunk.wordAt 0, chunk.pidAt 2⟩ := by
  fun_induction Association.entries data with
  | case1 n1 n0 p1 p0 rest ih =>
    rw [Bytes.wholeChunks, dif_neg (by simp), List.map_cons, ih]
    rfl
  | case2 data other =>
    have short : data.length < 4 := by
      rcases data with _ | ⟨_, _ | ⟨_, _ | ⟨_, _ | ⟨_, _⟩⟩⟩⟩
      · exact Nat.zero_lt_succ 3
      · exact Nat.one_lt_succ_succ 2
      · exact Nat.lt_of_sub_pos (Nat.zero_lt_succ 1)
      · exact Nat.lt_succ_self 3
      · exact absurd rfl (other _ _ _ _ _)
    rw [Bytes.wholeChunks, dif_pos (by simp only [List.length_take]; omega), List.map_nil]

theorem association_eq (data : Bytes) : association data = .ok (Association.parse data) := by
  unfold association Association.parse
  obtain ⟨error, refused, measured⟩ | ⟨stop, body, measured, least, within⟩ :=
    sectionEnd_sound Association.tableId (show 4 ≤ 9 by decide) data
  · rw [refused, measured]
    rfl
  · have entries : (Bytes.wholeChunks 4 ((data.take stop).drop 8)).mapM programEntry =
        .ok (Association.entries ((data.take stop).drop 8)) := by
      rw [entries_eq_map]
      exact mapM_ok fun chunk member => programEntry_of_chunk (Bytes.length_of_mem_wholeChunks member)
    rw [body, measured]
    simp (disch := omega) only [ok_bind, pure_eq_ok, slice_of_le, index_byte, wholePieces_of_pos, entries,
      Bytes.wordAt, Section.version, byteAt_body, List.drop_drop]
    rfl

theorem programMap_eq (data : Bytes) : programMap data = .ok (ProgramMap.parse data) := by
  unfold programMap ProgramMap.parse
  obtain ⟨error, refused, measured⟩ | ⟨stop, body, measured, least, within⟩ :=
    sectionEnd_sound ProgramMap.tableId (show 4 ≤ 13 by decide) data
  · rw [refused, measured]
    rfl
  · have length : 3 + ((data.take stop).drop 3).length = stop := by
      rw [List.length_drop, List.length_take]
      omega
    have parts : ((data.take stop).drop 3).length < 9 + data.lengthAt 10 ↔
        stop < 12 + data.lengthAt 10 := by omega
    have descriptors : Bytes.lengthAt ((data.take stop).drop 3) 7 = data.lengthAt 10 := by
      simp (disch := omega) only [Bytes.lengthAt, Bytes.wordAt, byteAt_body]
    have given : Bytes.lengthAt [data.byteAt 10, data.byteAt 11] 0 = data.lengthAt 10 := rfl
    rw [body, measured]
    simp (disch := omega) only [ok_bind, pure_eq_ok, index_byte, given, descriptors, parts, length]
    by_cases beyond : stop < 12 + data.lengthAt 10
    · rw [if_pos beyond, if_pos beyond]
    · have loop : (data.take stop).drop (12 + data.lengthAt 10) =
          ((data.take stop).drop 3).drop (9 + data.lengthAt 10) := by
        rw [List.drop_drop, ← Nat.add_assoc]
      rw [if_neg beyond, if_neg beyond]
      simp (disch := omega) only [ok_bind, slice_of_le, loop, Section.version, Bytes.pidAt, Bytes.wordAt,
        byteAt_body]
      rfl

theorem streamEntry_of_chunk {chunk : Bytes} (whole : chunk.length = 5) :
    streamEntry chunk =
      .ok (⟨Elementary.Kind.ofCode (chunk.byteAt 0), chunk.pidAt 1⟩, chunk.lengthAt 3) := by
  simp (disch := omega) only [streamEntry, index_byte, ok_bind, pure_eq_ok]
  rfl

theorem byteAt_take {data : Bytes} {count offset : Nat} (inside : offset < count) :
    Bytes.byteAt (data.take count) offset = data.byteAt offset := by
  simp only [Bytes.byteAt, List.getD_eq_getElem?_getD, List.getElem?_take, if_pos inside]

/-- A walk by offset finds the entries that are found by cutting one after the other off the loop. -/
theorem streamsFrom_eq (streamLoop : Bytes) {offset : Nat} (inside : offset ≤ streamLoop.length) :
    streamsFrom streamLoop offset =
      .ok (ProgramMap.entriesFrom offset (streamLoop.drop offset)) := by
  induction left : streamLoop.length - offset using Nat.strongRecOn generalizing offset with
  | ind count ih =>
    have rest : (streamLoop.drop offset).length = streamLoop.length - offset := List.length_drop
    rw [streamsFrom, ProgramMap.entriesFrom]
    by_cases room : offset + 5 ≤ streamLoop.length
    · have long : ¬ (streamLoop.drop offset).length < 5 := by omega
      have whole : ((streamLoop.drop offset).take 5).length = 5 := by
        rw [List.length_take]
        omega
      have descriptors : Bytes.lengthAt ((streamLoop.drop offset).take 5) 3 =
          Bytes.lengthAt (streamLoop.drop offset) 3 := by
        simp (disch := omega) only [Bytes.lengthAt, Bytes.wordAt, byteAt_take]
      have pid : Bytes.pidAt ((streamLoop.drop offset).take 5) 1 =
          Bytes.pidAt (streamLoop.drop offset) 1 := by
        simp (disch := omega) only [Bytes.pidAt, Bytes.wordAt, byteAt_take]
      rw [dif_pos room, if_neg long, streamEntry_of_chunk whole, ok_bind, descriptors, pid,
        byteAt_take (Nat.zero_lt_succ 4)]
      dsimp only
      have behind : offset + (streamLoop.drop offset).length = streamLoop.length := by omega
      generalize Bytes.lengthAt (streamLoop.drop offset) 3 = size
      by_cases beyond : streamLoop.length < offset + 5 + size
      · rw [if_pos beyond, if_pos (show _ < 5 + size by omega), behind, pure_eq_ok]
      · rw [if_neg beyond, if_neg (show ¬ _ < 5 + size by omega), List.drop_drop, ← Nat.add_assoc,
          ih (streamLoop.length - (offset + 5 + size)) (by omega) (by omega) rfl, ok_bind, pure_eq_ok]
    · have short : (streamLoop.drop offset).length < 5 := by omega
      rw [dif_neg room, if_pos short, pure_eq_ok]

theorem onAssociation_eq (probe : Probe) (data : Bytes) :
    onAssociation probe data = .ok (probe.onAssociation data) := by
  rw [onAssociation, association_eq, ok_bind, Probe.onAssociation]
  cases Association.parse data with
  | error error => rfl
  | ok table =>
    dsimp only
    split <;> rfl

theorem onProgramMap_eq (probe : Probe) (pid : UInt16) (data : Bytes) :
    onProgramMap probe pid data = .ok (probe.onProgramMap pid data) := by
  rw [onProgramMap, programMap_eq, ok_bind, Probe.onProgramMap]
  cases ProgramMap.parse data with
  | error error => rfl
  | ok table =>
    dsimp only
    rw [streamsFrom_eq _ (Nat.zero_le _), ok_bind]
    change (if probe.layout? table.number = some ⟨table.number, pid, table.clockPid, table.streams⟩ then _
      else _) = _
    split <;> rfl

theorem probePacket_eq (probe : Probe) {view : View} {packet : Packet} (shows : view.Shows packet) :
    probePacket probe view = .ok (probe.pushPacket packet) := by
  simp only [probePacket, Probe.pushPacket, shows.unitStart, shows.pid, shows.tableSection, ok_bind]
  cases packet.unitStart with
  | false => rfl
  | true =>
    simp only [if_true]
    cases packet.tableSection with
    | none => rfl
    | some data =>
      dsimp only
      split
      · exact onAssociation_eq probe data
      · split
        · exact onProgramMap_eq probe packet.pid data
        · rfl

theorem probeData_eq (probe : Probe) (data : Bytes) : probeData probe data = .ok (probe.push data) := by
  rw [probeData, wholePieces_of_pos (show 0 < packetSize by decide), ok_bind]
  apply foldlM_ok
  intro probe chunk _
  obtain ⟨error, refused, read⟩ | ⟨packet, view, parsed, read, shows⟩ := View.parse_sound chunk
  · rw [refused, read]
    rfl
  · rw [parsed, read, ok_bind]
    exact probePacket_eq probe shows

end MpegRecorder.Access
