import MpegRecorder.Transport.Association
import MpegRecorder.Transport.ProgramMap

/-!
Tables that are written read back. A section keeps 12 bits of its length, so this holds for as many programs or
streams as 4095 bytes have room for; versions keep five bits and packet identifiers thirteen, and bytes behind
the section change nothing.
-/

namespace MpegRecorder

namespace Bytes

theorem toNat_joined (high low : UInt8) :
    (high.toUInt16 <<< 8 ||| low.toUInt16).toNat = high.toNat * 256 + low.toNat := by
  have below : low.toNat < 2 ^ 8 := low.toNat_lt
  have above := high.toNat_lt
  have shifted : (high.toNat <<< 8) % 2 ^ 16 = high.toNat <<< 8 := by
    rw [Nat.shiftLeft_eq]
    exact Nat.mod_eq_of_lt (by omega)
  rw [UInt16.toNat_or, UInt16.toNat_shiftLeft, UInt8.toNat_toUInt16, UInt8.toNat_toUInt16]
  show (high.toNat <<< 8) % 2 ^ 16 ||| low.toNat = _
  rw [shifted, ← Nat.shiftLeft_add_eq_or_of_lt below, Nat.shiftLeft_eq]

theorem wordAt_ofWord (word : UInt16) (rest : Bytes) : (ofWord word ++ rest).wordAt 0 = word := by
  apply UInt16.toNat.inj
  show ((word >>> 8).toUInt8.toUInt16 <<< 8 ||| word.toUInt8.toUInt16).toNat = word.toNat
  have bound := word.toNat_lt
  have high : (word >>> 8).toNat = word.toNat / 256 := by
    rw [UInt16.toNat_shiftRight, Nat.shiftRight_eq_div_pow]
    rfl
  rw [toNat_joined, UInt16.toNat_toUInt8, UInt16.toNat_toUInt8, high]
  omega

theorem pidAt_pidField (pid : UInt16) (rest : Bytes) :
    (Transport.Section.pidField pid ++ rest).pidAt 0 = pid % 0x2000 := by
  rw [pidAt, Transport.Section.pidField, wordAt_ofWord]
  apply UInt16.toNat.inj
  rw [UInt16.toNat_and, UInt16.toNat_or, UInt16.toNat_mod]
  show (57344 ||| pid.toNat) &&& (2 ^ 13 - 1) = pid.toNat % 2 ^ 13
  rw [Nat.and_two_pow_sub_one_eq_mod, Nat.or_mod_two_pow]
  simp

theorem length_flatMap_of_length {α : Type} {size : Nat} {entry : α → Bytes}
    (each : ∀ item, (entry item).length = size) (items : List α) :
    (items.flatMap entry).length = size * items.length := by
  rw [List.length_flatMap, List.map_congr_left fun item _ => each item, List.map_const',
    List.sum_replicate_nat, Nat.mul_comm]

theorem lengthAt_bare (rest : Bytes) : lengthAt (0xF0 :: 0x00 :: rest) 0 = 0 := by
  show (((0xF0 : UInt8).toUInt16 <<< 8 ||| (0x00 : UInt8).toUInt16) &&& 0x0FFF).toNat = 0
  decide

end Bytes

namespace Transport

namespace Section

variable {table : UInt8} {least : Nat} {content : Bytes}

theorem upper_flags (length : Nat) :
    (0xB0 ||| UInt8.ofNat (length / 256) &&& 0x0F) &&& 0x80 ≠ 0 ∧
      (0xB0 ||| UInt8.ofNat (length / 256) &&& 0x0F).toNat % 16 = length / 256 % 16 := by
  have bytes : ∀ byte < 256, (0xB0 ||| UInt8.ofNat byte &&& 0x0F) &&& 0x80 ≠ 0 ∧
      (0xB0 ||| UInt8.ofNat byte &&& 0x0F).toNat % 16 = byte % 16 := by
    decide +kernel
  obtain ⟨long, upper⟩ := bytes (length / 256 % 256) (Nat.mod_lt _ (by decide))
  rw [UInt8.ofNat_mod_size] at long upper
  exact ⟨long, by omega⟩

theorem lengthAt_build (fits : content.length + checkLength < 4096) (rest : Bytes) :
    (build table content ++ rest).lengthAt 1 = content.length + checkLength := by
  let length := content.length + checkLength
  show (((0xB0 ||| UInt8.ofNat (length / 256) &&& 0x0F).toUInt16 <<< 8
    ||| (UInt8.ofNat length).toUInt16) &&& 0x0FFF).toNat = length
  have upper := (upper_flags length).2
  have lower : (UInt8.ofNat length).toNat = length % 256 := UInt8.toNat_ofNat'
  rw [UInt16.toNat_and, Bytes.toNat_joined, lower]
  show (_ &&& (2 ^ 12 - 1)) = length
  rw [Nat.and_two_pow_sub_one_eq_mod]
  omega

/-- A reader that expects the table takes back the body that was written, whatever follows the section. -/
theorem body_build (enough : least ≤ content.length + checkLength)
    (fits : content.length + checkLength < 4096) (rest : Bytes) :
    body table least (build table content ++ rest) = .ok content := by
  have length : (build table content ++ rest).length = 3 + content.length + checkLength + rest.length := by
    simp only [build, List.length_append, List.length_cons, Bytes.length_ofLongWord, checkLength]
    omega
  have long : (build table content ++ rest).byteAt 1 &&& 0x80 ≠ 0 := (upper_flags _).1
  have named : (build table content ++ rest).byteAt 0 = table := rfl
  have taken : ((build table content ++ rest).drop 3).take (content.length + checkLength - checkLength) =
      content := by
    rw [Nat.add_sub_cancel]
    simp [build]
  simp only [body, lengthAt_build fits, taken]
  rw [if_neg (by omega), if_neg (not_not_intro named), if_neg long, if_neg (by omega), if_neg (by omega)]

/-- The byte behind the identifier keeps five bits of the version and marks the section as current. -/
theorem opening_flags (version : UInt8) :
    ((0xC1 : UInt8) ||| (version &&& 0x1F) <<< 1) >>> 1 &&& 0x1F = version % 32 ∧
      (((0xC1 : UInt8) ||| (version &&& 0x1F) <<< 1) &&& 0x01 != 0) = true := by
  have bytes : ∀ byte < 256,
      ((0xC1 : UInt8) ||| (UInt8.ofNat byte &&& 0x1F) <<< 1) >>> 1 &&& 0x1F = UInt8.ofNat byte % 32 ∧
        (((0xC1 : UInt8) ||| (UInt8.ofNat byte &&& 0x1F) <<< 1) &&& 0x01 != 0) = true := by
    decide +kernel
  have own := bytes version.toNat version.toNat_lt
  rw [UInt8.ofNat_toNat] at own
  exact own

end Section

namespace Association

theorem entries_flatMap (programs : List ProgramEntry) :
    entries (programs.flatMap entryBytes) =
      programs.map fun entry => ⟨entry.number, entry.mapPid % 0x2000⟩ := by
  induction programs with
  | nil => rfl
  | cons entry later ih =>
    rw [List.flatMap_cons, List.map_cons, ← ih]
    have number := Bytes.wordAt_ofWord entry.number []
    have mapPid := Bytes.pidAt_pidField entry.mapPid []
    show ProgramEntry.mk (Bytes.wordAt (Bytes.ofWord entry.number) 0)
      (Bytes.pidAt (Section.pidField entry.mapPid) 0) :: _ = _
    rw [List.append_nil] at number mapPid
    rw [number, mapPid]
    rfl

section Build

variable (streamId : UInt16) (version : UInt8) {programs : List ProgramEntry}

theorem body_build (few : programs.length ≤ 1021) (rest : Bytes) :
    Section.body tableId 9 (build streamId version programs ++ rest) =
      .ok (Section.opening streamId version ++ programs.flatMap entryBytes) := by
  have counted : (Section.opening streamId version ++ programs.flatMap entryBytes).length =
      5 + 4 * programs.length := by
    have each (entry) : (entryBytes entry).length = 4 := rfl
    rw [List.length_append, Bytes.length_flatMap_of_length each]
    rfl
  apply Section.body_build
  · rw [counted, Section.checkLength]
    omega
  · rw [counted, Section.checkLength]
    omega

theorem parse_build (few : programs.length ≤ 1021) (rest : Bytes) :
    parse (build streamId version programs ++ rest) =
      .ok {
        streamId
        version := version % 32
        current := true
        programs := (programs.filter fun entry => entry.number != 0).map fun entry =>
          ⟨entry.number, entry.mapPid % 0x2000⟩ } := by
  let content := Section.opening streamId version ++ programs.flatMap entryBytes
  have identifier : content.wordAt 0 = streamId := Bytes.wordAt_ofWord streamId _
  obtain ⟨five, marked⟩ := Section.opening_flags version
  have kept : Section.version content = version % 32 := five
  have current : (content.byteAt 2 &&& 0x01 != 0) = true := marked
  have behind : content.drop 5 = programs.flatMap entryBytes := rfl
  rw [parse, body_build streamId version few rest]
  dsimp only
  rw [identifier, kept, current, behind, entries_flatMap, List.filter_map]
  rfl

end Build

end Association

namespace ProgramMap

theorem entriesFrom_flatMap (streams : List StreamEntry) (offset : Nat) :
    entriesFrom offset (streams.flatMap entryBytes) =
      streams.map fun entry => .ok ⟨.ofCode entry.kind.toCode, entry.pid % 0x2000⟩ := by
  induction streams generalizing offset with
  | nil =>
    rw [List.flatMap_nil, entriesFrom]
    rfl
  | cons entry later ih =>
    have long : ¬ (entryBytes entry ++ later.flatMap entryBytes).length < 5 := by
      rw [List.length_append]
      exact Nat.not_lt.mpr (Nat.le_add_right 5 _)
    have bare : (entryBytes entry ++ later.flatMap entryBytes).lengthAt 3 = 0 :=
      Bytes.lengthAt_bare (later.flatMap entryBytes)
    have pid : (entryBytes entry ++ later.flatMap entryBytes).pidAt 1 = entry.pid % 0x2000 :=
      Bytes.pidAt_pidField entry.pid (0xF0 :: 0x00 :: later.flatMap entryBytes)
    have kind : (entryBytes entry ++ later.flatMap entryBytes).byteAt 0 = entry.kind.toCode := rfl
    have behind : (entryBytes entry ++ later.flatMap entryBytes).drop (5 + 0) = later.flatMap entryBytes := rfl
    rw [List.flatMap_cons, List.map_cons, entriesFrom, if_neg long]
    dsimp only
    rw [bare, if_neg (by omega), behind, ih, kind, pid]

section Build

variable (number : UInt16) (version : UInt8) (clockPid : UInt16) {streams : List StreamEntry}

def content (streams : List StreamEntry) : Bytes :=
  Section.opening number version ++ Section.pidField clockPid ++ [0xF0, 0x00] ++ streams.flatMap entryBytes

theorem body_build (few : streams.length ≤ 816) (rest : Bytes) :
    Section.body tableId 13 (build number version clockPid streams ++ rest) =
      .ok (content number version clockPid streams) := by
  have counted : (content number version clockPid streams).length = 9 + 5 * streams.length := by
    have each (entry) : (entryBytes entry).length = 5 := rfl
    rw [content, List.length_append, Bytes.length_flatMap_of_length each]
    rfl
  refine Section.body_build (?_ : 13 ≤ (content number version clockPid streams).length + _)
    (?_ : (content number version clockPid streams).length + _ < 4096) rest
  · rw [counted, Section.checkLength]
    omega
  · rw [counted, Section.checkLength]
    omega

theorem parse_build (few : streams.length ≤ 816) (rest : Bytes) :
    parse (build number version clockPid streams ++ rest) =
      .ok {
        number
        version := version % 32
        clockPid := clockPid % 0x2000
        streamLoop := streams.flatMap entryBytes } := by
  let content := content number version clockPid streams
  have identifier : content.wordAt 0 = number := Bytes.wordAt_ofWord number _
  have kept : Section.version content = version % 32 := (Section.opening_flags version).1
  have clock : content.pidAt 5 = clockPid % 0x2000 :=
    Bytes.pidAt_pidField clockPid (0xF0 :: 0x00 :: streams.flatMap entryBytes)
  have bare : content.lengthAt 7 = 0 := Bytes.lengthAt_bare (streams.flatMap entryBytes)
  have long : ¬ content.length < 9 + 0 := by
    simp only [content, ProgramMap.content, List.length_append, Section.opening, Section.pidField,
      Bytes.length_ofWord, List.length_cons, List.length_nil]
    omega
  have behind : content.drop (9 + 0) = streams.flatMap entryBytes := rfl
  rw [parse, body_build number version clockPid few rest]
  dsimp only
  rw [bare, if_neg long, identifier, kept, clock, behind]

end Build

end ProgramMap

/--
Tables with as many programs or streams as a section has room for read back, whatever follows them. Identifier and
number are kept, of the version five bits and of packet identifiers thirteen. The programs come in their order,
without those of number zero, and so do all the streams, with no error among them.
-/
theorem tables_read_back (streamId : UInt16) (version : UInt8) (programs : List ProgramEntry)
    (few : programs.length ≤ 1021) (number : UInt16) (edition : UInt8) (clockPid : UInt16)
    (streams : List StreamEntry) (short : streams.length ≤ 816) (rest : Bytes) :
    Association.parse (Association.build streamId version programs ++ rest) =
      .ok {
        streamId
        version := version % 32
        current := true
        programs := (programs.filter fun entry => entry.number != 0).map fun entry =>
          ⟨entry.number, entry.mapPid % 0x2000⟩ } ∧
    ∃ table, ProgramMap.parse (ProgramMap.build number edition clockPid streams ++ rest) = .ok table ∧
      table.number = number ∧ table.version = edition % 32 ∧ table.clockPid = clockPid % 0x2000 ∧
      table.entries = streams.map fun entry => .ok ⟨.ofCode entry.kind.toCode, entry.pid % 0x2000⟩ :=
  ⟨Association.parse_build streamId version few rest,
    _, ProgramMap.parse_build number edition clockPid short rest, rfl, rfl, rfl,
    ProgramMap.entriesFrom_flatMap streams 0⟩

/-- The longest tables, with values that are too wide, a code that has a kind of its own, and more bytes behind. -/
theorem tables_read_back_longest :
    Association.parse (Association.build 7 37 (⟨0, 0x10⟩ :: List.replicate 1020 ⟨9, 0xF123⟩) ++ [1, 2, 3]) =
        .ok ⟨7, 5, true, List.replicate 1020 ⟨9, 0x1123⟩⟩ ∧
      ∃ table, ProgramMap.parse
          (ProgramMap.build 9 255 0xFFFF (List.replicate 816 ⟨.unknown 0x1B, 0x4101⟩) ++ [1, 2, 3]) = .ok table ∧
        table.number = 9 ∧ table.version = 31 ∧ table.clockPid = 0x1FFF ∧
        table.entries = List.replicate 816 (.ok ⟨.h264, 0x0101⟩) := by
  obtain ⟨programs, table, parsed, number, version, clockPid, streams⟩ :=
    tables_read_back 7 37 (⟨0, 0x10⟩ :: List.replicate 1020 ⟨9, 0xF123⟩)
      (by simp only [List.length_cons, List.length_replicate, Nat.reduceAdd, Nat.le_refl]) 9 255 0xFFFF
      (List.replicate 816 ⟨.unknown 0x1B, 0x4101⟩) (Nat.le_of_eq List.length_replicate) [1, 2, 3]
  rw [List.filter_cons_of_neg (by decide), List.filter_replicate_of_pos (by decide), List.map_replicate] at programs
  rw [List.map_replicate] at streams
  exact ⟨programs, table, parsed, number, version, clockPid, streams⟩

end Transport

end MpegRecorder
