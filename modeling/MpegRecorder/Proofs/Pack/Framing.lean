import MpegRecorder.Pack.Muxer
import MpegRecorder.Proofs.Elementary.Extent
import MpegRecorder.Proofs.Pack.Header

/-!
A program stream is a row of packs. Whatever units a muxer takes out of transport packets, each pack that
it writes stays within the bound and holds one packet, whose length field counts the pack to its end.
-/

namespace MpegRecorder.Pack

open Elementary Transport

/-- A pack within the bound: a plain header, and one packet that reaches to the end of the pack. -/
structure WellFormed (pack : Bytes) : Prop where
  bounded : pack.length ≤ packSize
  header : ∃ header, Header.parse (pack.take headerLength) = .ok header ∧ header.length = headerLength
  packet : ∃ header, Pes.Header.parse (pack.drop headerLength) = .ok header ∧
    headerLength + Pes.fixedLength + header.packetLength = pack.length

def Framed (output : Bytes) : Prop :=
  ∃ packs : List Bytes, packs.flatten = output ∧ ∀ pack ∈ packs, WellFormed pack

namespace Framed

theorem nil : Framed [] := ⟨[], rfl, nofun⟩

theorem cons {pack output : Bytes} (wellFormed : WellFormed pack) (framed : Framed output) :
    Framed (pack ++ output) := by
  obtain ⟨packs, rfl, all⟩ := framed
  exact ⟨pack :: packs, rfl, List.forall_mem_cons.mpr ⟨wellFormed, all⟩⟩

theorem append {first second : Bytes} (left : Framed first) (right : Framed second) :
    Framed (first ++ second) := by
  obtain ⟨packs, rfl, all⟩ := left
  obtain ⟨more, rfl, others⟩ := right
  exact ⟨packs ++ more, List.flatten_append, List.forall_mem_append.mpr ⟨all, others⟩⟩

end Framed

namespace Muxer

section Packs

variable {streamId : UInt8} {count : Nat} {rest : Bytes}

theorem wellFormed_pack (clock : Nat) (extent : Pes.Extent streamId count rest)
    (fits : Pes.fixedLength + rest.length ≤ packRoom) :
    WellFormed (pack clock (Pes.fixedPart streamId rest.length ++ rest)) := by
  have length : (pack clock (Pes.fixedPart streamId rest.length ++ rest)).length =
      headerLength + Pes.fixedLength + rest.length := by
    simp only [pack, List.length_append, Header.length_toBytes, Pes.length_fixedPart]
    omega
  simp only [packRoom, packSize, headerLength, Pes.fixedLength] at fits
  refine ⟨?_, ?_, ?_⟩
  · rw [length]
    simp only [packSize, headerLength, Pes.fixedLength]
    omega
  · rw [pack, List.take_left' (Header.length_toBytes _)]
    exact ⟨_, List.append_nil (Header.toBytes _) ▸ Header.parse_toBytes _ [], rfl⟩
  · have short : rest.length < UInt16.size := by
      simp only [UInt16.size]
      omega
    obtain ⟨header, parsed, -, counted, -⟩ := Pes.Header.parse_fixedPart extent short
    rw [length, pack, List.drop_left' (Header.length_toBytes _)]
    exact ⟨header, parsed, by rw [counted]⟩

theorem wellFormed_continuation (clock : Nat) (streamId : UInt8) (chunk : Bytes)
    (fits : Pes.continuationLength streamId + chunk.length ≤ packRoom) :
    WellFormed (pack clock (Pes.continuation streamId chunk.length ++ chunk)) := by
  obtain ⟨count, rest, extent, -, length, spelled⟩ := Pes.extent_continuation streamId chunk
  rw [spelled]
  exact wellFormed_pack clock extent (by omega)

end Packs

theorem continuation_fits (streamId : UInt8) (payload : Bytes) :
    Pes.continuationLength streamId
      + (payload.take (packRoom - Pes.continuationLength streamId)).length ≤ packRoom := by
  have room : Pes.continuationLength streamId ≤ packRoom := by
    unfold Pes.continuationLength
    split <;> decide
  have within := List.length_take_le (packRoom - Pes.continuationLength streamId) payload
  omega

theorem framed_continuationPacks (clock : Nat) (streamId : UInt8) (payload : Bytes) :
    Framed (continuationPacks clock streamId payload) := by
  fun_induction continuationPacks clock streamId payload with
  | case1 => exact .nil
  | case2 payload more chunk ih =>
    exact .cons (wellFormed_continuation clock streamId chunk (continuation_fits ..)) ih

theorem first_fits {streamId : UInt8} {count : Nat} {rest : Bytes}
    (extent : Pes.Extent streamId count rest) :
    count ≤ packRoom - Pes.fixedLength
      ∧ Pes.fixedLength + (rest.take (packRoom - Pes.fixedLength)).length ≤ packRoom := by
  have limit := extent.count_le_limit
  have within := List.length_take_le (packRoom - Pes.fixedLength) rest
  simp only [Pes.fixedLength, Pes.headerLimit, packRoom, packSize, headerLength] at limit within ⊢
  omega

/-- The part of a unit that leaves: as far as its header counts, if it does. -/
def counted (header : Pes.Header) (unit : Bytes) : Bytes :=
  match header.totalLength with
  | some total => unit.take total
  | none => unit

section Units

variable {header : Pes.Header} {unit : Bytes}

theorem extent_counted (parsed : Pes.Header.parse unit = .ok header) :
    ∃ count, Pes.Extent header.streamId count ((counted header unit).drop Pes.fixedLength) ∧
      header.headerLength = Pes.fixedLength + count ∧
      Pes.fixedLength ≤ (counted header unit).length := by
  obtain ⟨count, extent, reach, long, covered⟩ := Pes.Header.extent_of_parse parsed
  refine ⟨count, ?_, reach, ?_⟩ <;> unfold counted Pes.Header.totalLength
  · split
    · next total bounded =>
      split at bounded
      · cases bounded
      · next counts =>
        cases bounded
        rw [List.drop_take, Nat.add_sub_cancel_left]
        exact extent.take (covered counts)
    · exact extent
  · split
    · next total bounded =>
      split at bounded
      · cases bounded
      · cases bounded
        rw [List.length_take]
        omega
    · exact long

theorem unitPacks_eq (clock : Nat) (parsed : Pes.Header.parse unit = .ok header) :
    unitPacks clock header unit =
      let rest := (counted header unit).drop Pes.fixedLength
      let first := rest.take (packRoom - Pes.fixedLength)
      pack clock (Pes.fixedPart header.streamId first.length ++ first)
        ++ continuationPacks clock header.streamId (rest.drop (packRoom - Pes.fixedLength)) := by
  obtain ⟨count, extent, reach, long⟩ := extent_counted parsed
  have covers := extent.count_le
  have limit := Nat.le_trans extent.count_le_limit (show Pes.headerLimit ≤ packRoom by decide)
  let sent := counted header unit
  let head := sent.take header.headerLength
  let room := packRoom - head.length
  let chunk := (sent.drop header.headerLength).take room
  have whole : Pes.fixedLength + count ≤ sent.length := by
    rw [List.length_drop] at covers
    exact Nat.add_comm .. ▸ Nat.add_le_of_le_sub long covers
  have headLength : head.length = Pes.fixedLength + count := by
    rw [List.length_take, reach, Nat.min_eq_left whole]
  have split : packRoom - Pes.fixedLength = count + room := by omega
  have front : head.drop Pes.fixedLength ++ chunk =
      (sent.drop Pes.fixedLength).take (packRoom - Pes.fixedLength) := by
    simp only [head, chunk, reach]
    rw [List.drop_take, Nat.add_sub_cancel_left, split, List.take_add, List.drop_drop]
  have behind : (sent.drop header.headerLength).drop room =
      (sent.drop Pes.fixedLength).drop (packRoom - Pes.fixedLength) := by
    simp only [reach, split, List.drop_drop, Nat.add_assoc]
  have length : head.length - Pes.fixedLength + chunk.length =
      ((sent.drop Pes.fixedLength).take (packRoom - Pes.fixedLength)).length := by
    rw [← front, List.length_append, List.length_drop]
  change pack clock
      (Pes.fixedPart header.streamId (head.length - Pes.fixedLength + chunk.length)
        ++ head.drop Pes.fixedLength ++ chunk)
    ++ continuationPacks clock header.streamId ((sent.drop header.headerLength).drop room) = _
  rw [length, List.append_assoc, front, behind]

theorem framed_unitPacks (clock : Nat) (parsed : Pes.Header.parse unit = .ok header) :
    Framed (unitPacks clock header unit) := by
  obtain ⟨count, extent, -⟩ := extent_counted parsed
  obtain ⟨within, fits⟩ := first_fits extent
  rw [unitPacks_eq clock parsed]
  exact .cons (wellFormed_pack clock (extent.take within) fits) (framed_continuationPacks ..)

end Units

variable (muxer : Muxer)

theorem framed_emit (unit : Bytes) : Framed (muxer.emit unit).1 := by
  unfold emit
  split
  · exact .nil
  · next header parsed => exact framed_unitPacks _ parsed

theorem framed_emitPending (data : Packed) : Framed (muxer.emitPending data).1 := by
  unfold emitPending
  split
  · exact .nil
  · exact muxer.framed_emit _

theorem framed_pushPayload (assembly : Assembly) (unitStart : Bool) (payload : Bytes) :
    Framed (muxer.pushPayload assembly unitStart payload).1 := by
  have before : Framed (if unitStart then muxer.emitPending assembly.data else ([], muxer)).1 := by
    split
    · exact muxer.framed_emitPending _
    · exact .nil
  unfold pushPayload
  generalize (if unitStart then muxer.emitPending assembly.data else ([], muxer)) = pending at before
  generalize (if unitStart then Packed.ofList payload else assembly.data.append payload) = data
  split
  · exact .nil
  · dsimp only
    split
    · exact before.append (framed_emit ..)
    · exact before

theorem framed_pushPacket (packet : Packet) : Framed (muxer.pushPacket packet).1 := by
  simp only [pushPacket]
  split
  · exact framed_pushPayload ..
  · exact .nil

theorem finish_eq : ∃ units, (muxer.finish).1 = units ++ endCode ∧ Framed units := by
  refine ⟨_, rfl, ?_⟩
  have fold (assemblies : List Assembly) (state : Bytes × Muxer) (framed : Framed state.1) :
      Framed (assemblies.foldl
        (fun state assembly =>
          (state.1 ++ (emitPending state.2 assembly.data).1, (emitPending state.2 assembly.data).2))
        state).1 := by
    induction assemblies generalizing state with
    | nil => exact framed
    | cons assembly rest ih => exact ih _ (framed.append (framed_emitPending ..))
  exact fold _ _ .nil

end Muxer

inductive Call where
  | setProgram (program : Program)
  | pushPacket (packet : Packet)

namespace Muxer

def call (muxer : Muxer) : Call → Bytes × Muxer
  | .setProgram program => ([], muxer.setProgram program)
  | .pushPacket packet => muxer.pushPacket packet

def run (muxer : Muxer) : List Call → Bytes × Muxer
  | [] => ([], muxer)
  | call :: calls =>
    let (front, muxer) := muxer.call call
    let (rest, muxer) := muxer.run calls
    (front ++ rest, muxer)

theorem framed_call (muxer : Muxer) (call : Call) : Framed (muxer.call call).1 := by
  cases call with
  | setProgram program => exact .nil
  | pushPacket packet => exact muxer.framed_pushPacket packet

theorem framed_run (muxer : Muxer) (calls : List Call) : Framed (muxer.run calls).1 := by
  induction calls generalizing muxer with
  | nil => exact .nil
  | cons call calls ih => exact (muxer.framed_call call).append (ih _)

/--
Whatever programs a muxer follows and whatever packets it is given, its output up to the end is a row of
well-formed packs behind which the end code stands.
-/
theorem run_finish_framed (calls : List Call) :
    ∃ packs : List Bytes,
      (new.run calls).1 ++ ((new.run calls).2.finish).1 = packs.flatten ++ endCode ∧
        ∀ pack ∈ packs, WellFormed pack := by
  obtain ⟨units, finished, last⟩ := (new.run calls).2.finish_eq
  obtain ⟨packs, spelled, all⟩ := (new.framed_run calls).append last
  exact ⟨packs, by rw [finished, ← List.append_assoc, spelled], all⟩

end Muxer

end MpegRecorder.Pack
