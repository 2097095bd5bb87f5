import Mathlib.Data.List.TakeWhile
import MpegRecorder.Proofs.Pack.Boundary
import MpegRecorder.Proofs.Pack.Clock

/-!
Reading a program stream from pack to pack. A reader tells where a pack ends by its header and by the length of
the packet behind it. A length of zero tells nothing, and a muxer writes one where it is given a unit that is the
fixed part of a header and nothing else. At the pack of such a unit a reader gets stuck, and at no other.
-/

namespace MpegRecorder.Pack

open Elementary Transport

def packLength? (view : Bytes) : Option Nat :=
  (Header.parse view).toOption.bind fun header =>
    ((Pes.Header.parse (view.drop header.length)).toOption.bind Pes.Header.totalLength).map
      (header.length + ·)

theorem packLength?_pos {view : Bytes} {length : Nat} (told : packLength? view = some length) :
    0 < length ∧ 0 < view.length := by
  unfold packLength? at told
  obtain ⟨header, read, onward⟩ := Option.bind_eq_some_iff.mp told
  obtain ⟨total, -, rfl⟩ := Option.map_eq_some_iff.mp onward
  cases parsed : Header.parse view with
  | error error =>
    rw [parsed] at read
    cases read
  | ok first =>
    rw [parsed] at read
    cases read
    obtain ⟨least, long, -⟩ := Header.parse_append parsed []
    simp only [headerLength] at least long
    omega

/-- The packs that a reader visits, and what is left where it does not know how to go on. -/
def walk (view : Bytes) : List Bytes × Bytes :=
  match _told : packLength? view with
  | none => ([], view)
  | some length =>
    let (packs, rest) := walk (view.drop length)
    (view.take length :: packs, rest)
termination_by view.length
decreasing_by
  obtain ⟨some, there⟩ := packLength?_pos _told
  rw [List.length_drop]
  omega

theorem walk_of_some {view : Bytes} {length : Nat} (told : packLength? view = some length) :
    walk view = (view.take length :: (walk (view.drop length)).1, (walk (view.drop length)).2) := by
  rw [walk]
  split
  · next none => cases none.symm.trans told
  · next again =>
    cases again.symm.trans told
    rfl

theorem walk_of_none {view : Bytes} (untold : packLength? view = none) : walk view = ([], view) := by
  rw [walk]
  split
  · rfl
  · next told => cases told.symm.trans untold

def counts (pack : Bytes) : Bool :=
  (packLength? pack).isSome

namespace WellFormed

variable {pack : Bytes} (wellFormed : WellFormed pack)
include wellFormed

theorem packLength?_append (rest : Bytes) :
    packLength? (pack ++ rest) =
      if headerLength + Pes.fixedLength < pack.length then some pack.length else none := by
  obtain ⟨header, opens, plain⟩ := wellFormed.header
  obtain ⟨-, -, read⟩ := Header.parse_append opens (pack.drop headerLength ++ rest)
  obtain ⟨packet, parsed, length⟩ := wellFormed.packet_append rest
  rw [← List.append_assoc, List.take_append_drop] at read
  simp only [packLength?, read, plain, parsed, Except.toOption, Option.bind_some, Pes.Header.totalLength]
  by_cases empty : packet.packetLength = 0
  · rw [if_pos empty, if_neg (by omega)]
    rfl
  · rw [if_neg empty, if_pos (by omega), Option.map_some, ← Nat.add_assoc, length]

theorem counts_eq : counts pack = decide (headerLength + Pes.fixedLength < pack.length) := by
  have told := wellFormed.packLength?_append []
  rw [List.append_nil] at told
  rw [counts, told]
  split
  · next more => exact (decide_eq_true more).symm
  · next none => exact (decide_eq_false none).symm

theorem packLength?_eq (rest : Bytes) :
    packLength? (pack ++ rest) = if counts pack then some pack.length else none := by
  rw [wellFormed.packLength?_append, wellFormed.counts_eq]
  simp only [decide_eq_true_eq]

theorem counts_eq_false_iff :
    counts pack = false ↔
      ∃ header, Pes.Header.parse (Pack.packet pack) = .ok header ∧ header.packetLength = 0 := by
  obtain ⟨header, parsed, length⟩ := wellFormed.packet
  rw [wellFormed.counts_eq, decide_eq_false_iff_not]
  constructor
  · intro none
    exact ⟨header, parsed, by omega⟩
  · rintro ⟨other, again, zero⟩
    rw [Pack.packet, parsed] at again
    cases again
    omega

end WellFormed

theorem packLength?_endCode : packLength? endCode = none := by
  decide

theorem walk_packs {packs : List Bytes} {tail : Bytes} (wellFormed : ∀ pack ∈ packs, WellFormed pack)
    (ends : packLength? tail = none) :
    walk (packs.flatten ++ tail) = (packs.takeWhile counts, (packs.dropWhile counts).flatten ++ tail) := by
  induction packs with
  | nil => exact walk_of_none ends
  | cons pack later ih =>
    obtain ⟨here, others⟩ := List.forall_mem_cons.mp wellFormed
    have told := here.packLength?_eq (later.flatten ++ tail)
    rw [List.flatten_cons, List.append_assoc, List.takeWhile_cons, List.dropWhile_cons]
    by_cases counted : counts pack = true
    · rw [if_pos counted] at told
      rw [walk_of_some told, List.take_left' rfl, List.drop_left' rfl, ih others, if_pos counted,
        if_pos counted]
    · rw [if_neg counted] at told
      rw [walk_of_none told, if_neg counted, if_neg counted, List.flatten_cons, List.append_assoc]

theorem walk_packs_iff {packs : List Bytes} {tail : Bytes} (wellFormed : ∀ pack ∈ packs, WellFormed pack)
    (ends : packLength? tail = none) :
    walk (packs.flatten ++ tail) = (packs, tail) ↔ ¬ ∃ pack ∈ packs, counts pack = false := by
  have all : (¬ ∃ pack ∈ packs, counts pack = false) ↔ ∀ pack ∈ packs, counts pack = true := by
    simp only [not_exists, not_and, Bool.not_eq_false]
  rw [walk_packs wellFormed ends, all, Prod.mk.injEq, List.takeWhile_eq_self_iff, and_iff_left_iff_imp]
  intro counted
  rw [List.dropWhile_eq_nil_iff.mpr counted, List.flatten_nil, List.nil_append]

/-- A unit of a stream without an optional part, of which there is nothing but the fixed part of its header. -/
def Bare (unit : Bytes) : Prop :=
  ∃ streamId length, Pes.hasOptionalPart streamId = false ∧ unit = Pes.fixedPart streamId length

theorem Bare.parses {unit : Bytes} (bare : Bare unit) : ∃ header, Pes.Header.parse unit = .ok header := by
  obtain ⟨streamId, length, none, rfl⟩ := bare
  exact ⟨_, if_neg (by rw [none]; exact Bool.false_ne_true)⟩

theorem bare_of_length {unit : Bytes} {header : Pes.Header} (parsed : Pes.Header.parse unit = .ok header)
    (short : unit.length = Pes.fixedLength) : Bare unit := by
  have opens := Pes.Header.take_of_parse parsed
  obtain ⟨count, extent, -⟩ := Pes.Header.extent_of_parse parsed
  rw [List.drop_of_length_le (Nat.le_of_eq short)] at extent
  match unit, short, opens with
  | [_, _, _, _, high, low], _, opens =>
    simp only [List.take_succ_cons, List.take_zero, List.cons.injEq, and_true] at opens
    obtain ⟨rfl, rfl, rfl, rfl⟩ := opens
    cases extent with
    | plain none =>
      refine ⟨header.streamId, Bytes.toNat [high, low], none, ?_⟩
      rw [Pes.fixedPart, Bytes.ofWord_toNat]
      rfl

namespace Muxer

section Units

variable {header : Pes.Header} {unit : Bytes}

theorem counted_drop_eq_nil_iff (parsed : Pes.Header.parse unit = .ok header) :
    (counted header unit).drop Pes.fixedLength = [] ↔ Bare unit := by
  obtain ⟨-, -, -, long⟩ := extent_counted parsed
  rw [List.drop_eq_nil_iff]
  constructor
  · intro within
    have short := Nat.le_antisymm within long
    refine bare_of_length parsed ?_
    unfold counted Pes.Header.totalLength at short
    split at short
    · next total bounded =>
      split at bounded
      · cases bounded
      · cases bounded
        rw [List.length_take] at short
        omega
    · exact short
  · rintro ⟨streamId, length, -, rfl⟩
    unfold counted
    split
    · exact Nat.le_trans (List.length_take_le' ..) (Nat.le_refl _)
    · exact Nat.le_refl _

theorem counts_pack (clock : Nat) {streamId : UInt8} {count : Nat} {rest : Bytes}
    (extent : Pes.Extent streamId count rest) (fits : Pes.fixedLength + rest.length ≤ packRoom) :
    counts (pack clock (Pes.fixedPart streamId rest.length ++ rest)) = false ↔ rest = [] := by
  rw [(wellFormed_pack clock extent fits).counts_eq, decide_eq_false_iff_not, ← List.length_eq_zero_iff]
  simp only [pack, List.length_append, Header.length_toBytes, Pes.length_fixedPart]
  omega

theorem counts_continuationPacks (clock : Nat) (streamId : UInt8) (payload : Bytes) :
    ∃ packs : List Bytes, packs.flatten = continuationPacks clock streamId payload ∧
      ∀ pack ∈ packs, WellFormed pack ∧ counts pack = true := by
  fun_induction continuationPacks clock streamId payload with
  | case1 => exact ⟨[], rfl, List.forall_mem_nil _⟩
  | case2 payload more chunk ih =>
    obtain ⟨packs, spelled, all⟩ := ih
    have fits := continuation_fits streamId payload
    have here := wellFormed_continuation clock streamId chunk fits
    have longer : Pes.fixedLength < Pes.continuationLength streamId + chunk.length := by
      have some := List.length_pos_iff.mpr more
      simp only [chunk, List.length_take]
      simp only [Pes.continuationLength, Pes.fixedLength, packRoom, packSize, headerLength]
      split <;> omega
    refine ⟨_ :: packs, by rw [List.flatten_cons, spelled], List.forall_mem_cons.mpr ⟨⟨here, ?_⟩, all⟩⟩
    rw [here.counts_eq, decide_eq_true_iff, pack]
    simp only [List.length_append, Header.length_toBytes, Pes.length_continuation]
    omega

theorem counts_unitPacks (clock : Nat) (parsed : Pes.Header.parse unit = .ok header) :
    ∃ packs : List Bytes, packs.flatten = unitPacks clock header unit ∧
      (∀ pack ∈ packs, WellFormed pack) ∧ ((∃ pack ∈ packs, counts pack = false) ↔ Bare unit) := by
  obtain ⟨count, extent, -⟩ := extent_counted parsed
  obtain ⟨within, fits⟩ := first_fits extent
  let rest := (counted header unit).drop Pes.fixedLength
  let front := rest.take (packRoom - Pes.fixedLength)
  obtain ⟨packs, spelled, all⟩ :=
    counts_continuationPacks clock header.streamId (rest.drop (packRoom - Pes.fixedLength))
  have opens := counts_pack clock (extent.take within) fits
  have empty : front = [] ↔ rest = [] := by
    rw [List.take_eq_nil_iff, or_iff_right (by decide)]
  refine ⟨pack clock (Pes.fixedPart header.streamId front.length ++ front) :: packs, ?_,
    List.forall_mem_cons.mpr ⟨wellFormed_pack clock (extent.take within) fits, fun pack member =>
      (all pack member).1⟩, ?_⟩
  · rw [unitPacks_eq clock parsed, List.flatten_cons, spelled]
  · rw [← counted_drop_eq_nil_iff parsed, ← empty, ← opens]
    constructor
    · rintro ⟨pack, member, uncounted⟩
      rcases List.mem_cons.mp member with rfl | later
      · exact uncounted
      · rw [(all pack later).2] at uncounted
        cases uncounted
    · exact fun uncounted => ⟨_, List.mem_cons_self .., uncounted⟩

end Units

end Muxer

inductive Adds : Event → List Bytes → Prop where
  | reference {base : Nat} : Adds (.reference base) []
  | unit {data : Bytes} {packs : List Bytes} (wellFormed : ∀ pack ∈ packs, WellFormed pack)
      (stuck : (∃ pack ∈ packs, counts pack = false) ↔ Bare data) : Adds (.unit data) packs
  | ended : Adds .ended [endCode]

theorem Adds.packs {events : List Event} {rows : List (List Bytes)} (going : .ended ∉ events)
    (added : List.Forall₂ Adds (events ++ [.ended]) rows) :
    ∃ packs, rows.flatten = packs ++ [endCode] ∧ (∀ pack ∈ packs, WellFormed pack) ∧
      ((∃ pack ∈ packs, counts pack = false) ↔ ∃ unit, .unit unit ∈ events ∧ Bare unit) := by
  induction events generalizing rows with
  | nil =>
    obtain ⟨row, others, last, nothing, rfl⟩ := List.forall₂_cons_left_iff.mp added
    cases nothing
    cases last
    exact ⟨[], rfl, List.forall_mem_nil _, by simp⟩
  | cons event later ih =>
    obtain ⟨row, others, here, behind, rfl⟩ := List.forall₂_cons_left_iff.mp added
    obtain ⟨other, still⟩ := not_or.mp (List.mem_cons.not.mp going)
    obtain ⟨packs, spelled, all, stuck⟩ := ih still behind
    rw [List.flatten_cons, spelled]
    cases here with
    | reference => exact ⟨packs, rfl, all, by simpa using stuck⟩
    | @unit data row wellFormed own =>
      refine ⟨row ++ packs, (List.append_assoc ..).symm, List.forall_mem_append.mpr ⟨wellFormed, all⟩, ?_⟩
      simp only [List.mem_append, or_and_right, exists_or, List.mem_cons, Event.unit.injEq, own, stuck,
        exists_eq_left]
    | ended => exact absurd rfl other

namespace Muxer

theorem adds_emit (muxer : Muxer) (data : Bytes) :
    ∃ packs, Adds (.unit data) packs ∧ (muxer.emit data).1 = packs.flatten := by
  unfold emit
  split
  · next error refused =>
    refine ⟨[], .unit (List.forall_mem_nil _) ?_, rfl⟩
    simp only [List.not_mem_nil, false_and, exists_false, false_iff]
    intro bare
    obtain ⟨header, parsed⟩ := bare.parses
    cases parsed.symm.trans refused
  · next header parsed =>
    obtain ⟨packs, spelled, wellFormed, stuck⟩ := counts_unitPacks (muxer.clockAt header) parsed
    exact ⟨packs, .unit wellFormed stuck, spelled.symm⟩

theorem adds_invariant :
    EventInvariant fun _ events result =>
      ∃ rows, List.Forall₂ Adds events rows ∧ result.1 = rows.flatten.flatten where
  still _ _ := ⟨[], .nil, rfl⟩
  trans := by
    rintro _ _ _ _ _ _ _ ⟨rows, added, spelled⟩ ⟨others, more, written⟩
    refine ⟨rows ++ others, List.rel_append added more, ?_⟩
    dsimp only at spelled written ⊢
    rw [spelled, written, List.flatten_append, List.flatten_append]
  reference _ _ _ _ := ⟨[[]], .cons .reference .nil, rfl⟩
  unit muxer data := by
    obtain ⟨packs, added, spelled⟩ := muxer.adds_emit data
    exact ⟨[packs], .cons added .nil, by rw [spelled, List.flatten_singleton]⟩
  ended _ := ⟨[[endCode]], .cons .ended .nil, rfl⟩

theorem ended_not_mem_pending (data : Packed) : .ended ∉ pendingEvents data := by
  unfold pendingEvents
  split <;> simp

theorem ended_not_mem_call {muxer : Muxer} (call : Call) : .ended ∉ muxer.events (.call call) := by
  cases call with
  | setProgram program => exact List.not_mem_nil
  | pushPacket packet =>
    have references : .ended ∉ muxer.referenceEvents packet := by
      unfold referenceEvents
      split <;> simp
    have units (assembly : Assembly) (unitStart : Bool) (payload : Bytes) :
        .ended ∉ payloadEvents assembly unitStart payload := by
      have pending := ended_not_mem_pending assembly.data
      unfold payloadEvents
      split
      · rw [List.mem_append, not_or]
        constructor <;> split <;> first | exact pending | simp
      · exact List.not_mem_nil
    rw [events, packetEvents, List.mem_append, not_or]
    refine ⟨references, ?_⟩
    split
    · exact units _ _ _
    · exact List.not_mem_nil

theorem log_finish (muxer : Muxer) (calls : List Call) :
    ∃ events, muxer.log (calls.map .call ++ [.finish]) = events ++ [.ended] ∧ .ended ∉ events := by
  induction calls generalizing muxer with
  | nil =>
    refine ⟨_, List.append_nil _, ?_⟩
    rw [List.mem_flatMap]
    rintro ⟨assembly, -, member⟩
    exact ended_not_mem_pending _ member
  | cons call later ih =>
    obtain ⟨events, same, going⟩ := ih (muxer.serve (.call call)).2
    refine ⟨muxer.events (.call call) ++ events, ?_, ?_⟩
    · rw [List.map_cons, List.cons_append, log, same, List.append_assoc]
    · rw [List.mem_append, not_or]
      exact ⟨ended_not_mem_call call, going⟩

/--
Whatever programs a muxer follows and whatever packets it is given, a reader of its output visits the packs up to
the first whose packet has a length of zero. There is such a pack if and only if a bare unit left; without one,
the reader visits every pack and ends at the end code.
-/
theorem walk_ends_iff (calls : List Call) :
    let requests := calls.map Request.call ++ [.finish]
    let output := (new.serveAll requests).1
    let bare := ∃ unit, .unit unit ∈ new.log requests ∧ Bare unit
    ∃ packs : List Bytes, output = packs.flatten ++ endCode ∧ (∀ pack ∈ packs, WellFormed pack) ∧
      walk output = (packs.takeWhile counts, (packs.dropWhile counts).flatten ++ endCode) ∧
      (walk output = (packs, endCode) ↔ ¬ bare) ∧
      ((∃ pack ∈ packs, ∃ header, Pes.Header.parse (packet pack) = .ok header ∧ header.packetLength = 0) ↔
        bare) := by
  intro requests output bare
  obtain ⟨events, logged, going⟩ := new.log_finish calls
  obtain ⟨rows, added, spelled⟩ := adds_invariant.serveAll new requests
  rw [logged] at added
  obtain ⟨packs, pieces, wellFormed, stuck⟩ := Adds.packs going added
  have written : output = packs.flatten ++ endCode := by
    rw [pieces, List.flatten_append, List.flatten_singleton] at spelled
    exact spelled
  have same : (∃ unit, .unit unit ∈ events ∧ Bare unit) ↔ bare := by
    simp only [bare, requests, logged, List.mem_append, List.mem_singleton, reduceCtorEq, or_false]
  refine ⟨packs, written, wellFormed, ?_, ?_, ?_⟩
  · rw [written, walk_packs wellFormed packLength?_endCode]
  · rw [written, walk_packs_iff wellFormed packLength?_endCode, stuck, same]
  · rw [← same, ← stuck]
    refine exists_congr fun pack => and_congr_right fun member => ?_
    exact ((wellFormed pack member).counts_eq_false_iff).symm

def paddedCalls : List Call :=
  [.setProgram avProgram, .pushPacket (plain 0x101 true [0, 0, 1, 0xBE, 0, 0]),
    .pushPacket (plain 0x101 true [0, 0, 1, 0xC0, 0, 5, 0x80, 0, 0, 2, 3])]

/-- The first pack does not tell its length, so a reader does not get to the second, nor to the end. -/
theorem walk_stuck :
    let output := (new.serveAll (paddedCalls.map .call ++ [.finish])).1
    output.length = 20 + 25 + 4 ∧ walk output = ([], output) ∧
      ∃ header, Pes.Header.parse (packet output) = .ok header ∧ header.packetLength = 0 := by
  intro output
  have spelled : output = (Header.new 0 announcedRate).toBytes ++ [0, 0, 1, 0xBE, 0, 0] ++
      ((Header.new 0 announcedRate).toBytes ++ [0, 0, 1, 0xC0, 0, 5, 0x80, 0, 0, 2, 3]) ++ endCode := by
    decide +kernel
  rw [spelled]
  exact ⟨rfl, walk_of_none (by decide), _, rfl, rfl⟩

end Muxer

end MpegRecorder.Pack
