import Mathlib.Data.List.Forall2
import MpegRecorder.Proofs.Pack.Framing

/-!
What the packs of one unit hold. The first opens with the header of the unit, in which only the length
is another one; the packets of all of them belong to the stream of the unit, and what they carry behind
their headers is, one after the other, what the unit carries behind its own.
-/

namespace MpegRecorder.Pack

open Elementary

def packet (pack : Bytes) : Bytes :=
  pack.drop headerLength

structure Holds (streamId : UInt8) (data : Bytes) (pack : Bytes) : Prop extends WellFormed pack where
  read : ∃ header, Pes.Header.parse (Pack.packet pack) = .ok header ∧ header.streamId = streamId
    ∧ (Pack.packet pack).drop header.headerLength = data

/-- Packs of a unit: its header as it is but for the length, and its payload as far as it counts. -/
structure Carries (unit : Bytes) (header : Pes.Header) (packs : List Bytes) : Prop where
  parsed : Pes.Header.parse unit = .ok header
  chunks : ∃ chunks, List.Forall₂ (Holds header.streamId) chunks packs
    ∧ chunks.flatten = (Muxer.counted header unit).drop header.headerLength
  first : ∃ pack later length, packs = pack :: later
    ∧ (Pack.packet pack).take header.headerLength = unit.take 4 ++ Bytes.ofWord length
      ++ (unit.take header.headerLength).drop Pes.fixedLength

namespace Muxer

theorem packet_pack (clock : Nat) (content : Bytes) : packet (pack clock content) = content := by
  rw [packet, pack, List.drop_left' (Header.length_toBytes _)]

section Packs

variable {streamId : UInt8} {count : Nat} {rest : Bytes}

theorem holds_pack (clock : Nat) (extent : Pes.Extent streamId count rest)
    (fits : Pes.fixedLength + rest.length ≤ packRoom) :
    Holds streamId (rest.drop count) (pack clock (Pes.fixedPart streamId rest.length ++ rest)) where
  toWellFormed := wellFormed_pack clock extent fits
  read := by
    have short : rest.length < UInt16.size := by
      have small : packRoom < UInt16.size := by decide
      omega
    obtain ⟨header, parsed, same, -, reach⟩ := Pes.Header.parse_fixedPart extent short
    rw [packet_pack]
    refine ⟨header, parsed, same, ?_⟩
    rw [reach, ← List.drop_drop, List.drop_left' (Pes.length_fixedPart ..)]

theorem holds_continuation (clock : Nat) (streamId : UInt8) (chunk : Bytes)
    (fits : Pes.continuationLength streamId + chunk.length ≤ packRoom) :
    Holds streamId chunk (pack clock (Pes.continuation streamId chunk.length ++ chunk)) := by
  obtain ⟨count, rest, extent, carried, length, spelled⟩ := Pes.extent_continuation streamId chunk
  rw [spelled, ← carried]
  exact holds_pack clock extent (by omega)

end Packs

theorem holds_continuationPacks (clock : Nat) (streamId : UInt8) (payload : Bytes) :
    ∃ chunks packs, packs.flatten = continuationPacks clock streamId payload
      ∧ List.Forall₂ (Holds streamId) chunks packs ∧ chunks.flatten = payload
      ∧ ∀ each ∈ packs, ∃ content, each = pack clock content := by
  fun_induction continuationPacks clock streamId payload with
  | case1 => exact ⟨[], [], rfl, .nil, rfl, List.forall_mem_nil _⟩
  | case2 payload more chunk ih =>
    obtain ⟨chunks, packs, spelled, hold, whole, timed⟩ := ih
    have held := holds_continuation clock streamId chunk (continuation_fits ..)
    refine ⟨chunk :: chunks, _ :: packs, ?_, .cons held hold, ?_, List.forall_mem_cons.mpr ⟨⟨_, rfl⟩, timed⟩⟩
    · rw [List.flatten_cons, spelled]
    · rw [List.flatten_cons, whole, List.take_append_drop]

variable {header : Pes.Header} {unit : Bytes}

theorem take_counted (parsed : Pes.Header.parse unit = .ok header) :
    (counted header unit).take header.headerLength = unit.take header.headerLength := by
  obtain ⟨count, extent, reach, long⟩ := extent_counted parsed
  have covers := extent.count_le
  cases bounded : header.totalLength with
  | none => simp only [counted, bounded]
  | some total =>
    simp only [counted, bounded, List.length_drop, List.length_take] at covers long ⊢
    rw [List.take_take, Nat.min_eq_left (by omega)]

theorem carries_unitPacks (clock : Nat) (parsed : Pes.Header.parse unit = .ok header) :
    ∃ packs, packs.flatten = unitPacks clock header unit ∧ Carries unit header packs ∧
      ∀ each ∈ packs, ∃ content, each = pack clock content := by
  obtain ⟨count, extent, reach, -⟩ := extent_counted parsed
  obtain ⟨within, fits⟩ := first_fits extent
  let rest := (counted header unit).drop Pes.fixedLength
  let front := rest.take (packRoom - Pes.fixedLength)
  obtain ⟨chunks, packs, spelled, hold, whole, timed⟩ :=
    holds_continuationPacks clock header.streamId (rest.drop (packRoom - Pes.fixedLength))
  have covered : count ≤ front.length := by
    rw [List.length_take]
    exact Nat.le_min.mpr ⟨within, extent.count_le⟩
  have payload : front.drop count ++ chunks.flatten =
      (counted header unit).drop header.headerLength :=
    calc front.drop count ++ chunks.flatten
        = (front ++ rest.drop (packRoom - Pes.fixedLength)).drop count := by
          rw [whole, List.drop_append_of_le_length covered]
      _ = rest.drop count := by rw [List.take_append_drop]
      _ = (counted header unit).drop header.headerLength := by rw [reach, List.drop_drop]
  have head : (Pes.fixedPart header.streamId front.length ++ front).take header.headerLength =
      unit.take 4 ++ Bytes.ofWord (UInt16.ofNat front.length)
        ++ (unit.take header.headerLength).drop Pes.fixedLength := by
    have optional : front.take count = (unit.take header.headerLength).drop Pes.fixedLength := by
      rw [List.take_take, Nat.min_eq_left within, ← take_counted parsed, reach, List.drop_take,
        Nat.add_sub_cancel_left]
    rw [← optional, reach, ← Pes.length_fixedPart header.streamId front.length,
      List.take_length_add_append, Pes.Header.take_of_parse parsed]
    rfl
  refine ⟨pack clock (Pes.fixedPart header.streamId front.length ++ front) :: packs, ?_, ⟨parsed,
    ⟨front.drop count :: chunks, .cons (holds_pack clock (extent.take within) fits) hold, payload⟩,
    _, packs, UInt16.ofNat front.length, rfl, ?_⟩, List.forall_mem_cons.mpr ⟨⟨_, rfl⟩, timed⟩⟩
  · rw [unitPacks_eq clock parsed, List.flatten_cons, spelled]
  · rw [packet_pack]
    exact head

end Muxer

end MpegRecorder.Pack
