import MpegRecorder.Output.Cut
import MpegRecorder.Proofs.Capture.Blocks
import MpegRecorder.Transport.Synthetic

/-!
The search for a splice point among whole packets of a transport stream. A view of one or two packets has
no boundary that could be confirmed, so nothing is found in it; in any other view, it is the first packet
that can be read and that the new destination may start with.
-/

namespace MpegRecorder.Output

open Transport

def Aligned (packets : List Bytes) : Prop :=
  ∀ packet ∈ packets, packet.length = packetSize ∧ packet.head? = some syncByte

def Whole (data : Bytes) : Prop :=
  ∃ packets, Aligned packets ∧ packets.flatten = data

def packets (data : Bytes) : List Bytes :=
  data.wholeChunks packetSize

variable {family : Elementary.Family} {videoPid : UInt16}

def enters (family : Elementary.Family) (videoPid : UInt16) (packet : Bytes) : Bool :=
  (Packet.parse packet).toOption.any (isEntry family videoPid)

/--
The packet can be read, and it starts a unit of the video, without a transport error and with the marker of an
intra picture in its payload.
-/
def StartsIntra (family : Elementary.Family) (videoPid : UInt16) (packet : Bytes) : Prop :=
  ∃ read payload, Packet.parse packet = .ok read ∧ read.pid = videoPid ∧ read.unitStart = true ∧
    read.transportError = false ∧ read.payload = some payload ∧ (family.findIntra payload).isSome

theorem enters_iff {packet : Bytes} :
    enters family videoPid packet = true ↔ StartsIntra family videoPid packet := by
  unfold enters StartsIntra
  cases Packet.parse packet with
  | error refused => simp [Except.toOption]
  | ok read => simp [Except.toOption, isEntry, Option.any_eq_true, and_assoc]

instance (packet : Bytes) : Decidable (StartsIntra family videoPid packet) :=
  decidable_of_iff _ enters_iff

def firstEntry (family : Elementary.Family) (videoPid : UInt16) (view : Bytes) : Option Nat :=
  if (packets view).length < 3 then none else (packets view).findIdx? (enters family videoPid)

theorem Aligned.append {first second : List Bytes} (left : Aligned first) (right : Aligned second) :
    Aligned (first ++ second) := by
  intro packet member
  rcases List.mem_append.mp member with before | behind
  · exact left packet before
  · exact right packet behind

theorem Aligned.tail {packet : Bytes} {later : List Bytes} (aligned : Aligned (packet :: later)) :
    Aligned later :=
  fun other member => aligned other (List.mem_cons_of_mem _ member)

theorem Aligned.drop {all : List Bytes} (aligned : Aligned all) (count : Nat) :
    Aligned (all.drop count) :=
  fun packet member => aligned packet (List.mem_of_mem_drop member)

theorem Aligned.lengths {all : List Bytes} (aligned : Aligned all) :
    ∀ packet ∈ all, packet.length = packetSize :=
  fun packet member => (aligned packet member).1

theorem packets_nil : packets [] = [] :=
  Bytes.wholeChunks_of_short (by decide)

theorem packets_flatten {all : List Bytes} (aligned : Aligned all) : packets all.flatten = all :=
  Bytes.wholeChunks_flatten_blocks (by decide) aligned.lengths

theorem length_flatten {all : List Bytes} (aligned : Aligned all) :
    all.flatten.length = packetSize * all.length := by
  rw [Bytes.length_flatten_blocks aligned.lengths, Nat.mul_comm]

theorem Aligned.parted {all : List Bytes} (aligned : Aligned all) (count : Nat) :
    all.flatten.take (packetSize * count) = (all.take count).flatten ∧
      all.flatten.drop (packetSize * count) = (all.drop count).flatten := by
  rw [Nat.mul_comm]
  exact Bytes.parts_flatten_blocks aligned.lengths count

namespace Whole

theorem nil : Whole [] :=
  ⟨[], nofun, rfl⟩

variable {data more : Bytes}

theorem aligned (whole : Whole data) : Aligned (packets data) ∧ (packets data).flatten = data := by
  obtain ⟨all, aligned, rfl⟩ := whole
  rw [packets_flatten aligned]
  exact ⟨aligned, rfl⟩

theorem append (whole : Whole data) (other : Whole more) : Whole (data ++ more) := by
  obtain ⟨first, left, rfl⟩ := whole
  obtain ⟨second, right, rfl⟩ := other
  exact ⟨first ++ second, left.append right, List.flatten_append⟩

theorem packets_append (whole : Whole data) (more : Bytes) :
    packets (data ++ more) = packets data ++ packets more := by
  obtain ⟨all, aligned, rfl⟩ := whole
  rw [packets_flatten aligned]
  exact Bytes.wholeChunks_flatten_append (by decide) aligned.lengths more

theorem drop (whole : Whole data) (count : Nat) : Whole (data.drop (packetSize * count)) := by
  obtain ⟨all, aligned, rfl⟩ := whole
  exact ⟨all.drop count, aligned.drop count, (aligned.parted count).2.symm⟩

end Whole

theorem walkPackets_cons {packet : Bytes} (whole : packet.length = packetSize)
    (synced : packet.head? = some syncByte) (offset : Nat) (rest : Bytes) :
    walkPackets family videoPid offset (packet ++ rest) =
      if enters family videoPid packet then some offset
      else walkPackets family videoPid (offset + packetSize) rest := by
  have long : ¬ ((packet ++ rest).take packetSize).length < packetSize := by
    rw [List.take_left' whole, whole]
    exact Nat.lt_irrefl _
  have starts : ¬ (packet ++ rest).head? ≠ some syncByte := by
    rw [List.head?_append, synced]
    exact not_not_intro rfl
  rw [walkPackets, dif_neg long, if_neg starts, List.take_left' whole, List.drop_left' whole, enters]
  cases Packet.parse packet <;> rfl

theorem walkPackets_flatten {all : List Bytes} (aligned : Aligned all) (offset : Nat) :
    walkPackets family videoPid offset all.flatten =
      (all.findIdx? (enters family videoPid)).map (offset + packetSize * ·) := by
  induction all generalizing offset with
  | nil =>
    rw [List.flatten_nil, walkPackets]
    rfl
  | cons packet later ih =>
    obtain ⟨length, synced⟩ := aligned packet (List.mem_cons_self ..)
    rw [List.flatten_cons, walkPackets_cons length synced, ih aligned.tail, List.findIdx?_cons]
    split
    · rfl
    · rw [Option.map_map]
      congr 1
      funext index
      simp only [Function.comp, Nat.mul_succ]
      omega

theorem boundary?_flatten {all : List Bytes} (aligned : Aligned all) (enough : 3 ≤ all.length) :
    boundary? packetSize all.flatten = some 0 := by
  have full : Capture.InFull packetSize all := aligned
  have long : 0 + 2 * packetSize < all.flatten.length := by
    rw [length_flatten aligned]
    simp only [packetSize]
    omega
  have marked := full.aligned_flatten.marked (Nat.dvd_zero _) long
  exact boundary?_eq_some_iff.mpr ⟨marked, fun _ before => absurd before (Nat.not_lt_zero _)⟩

theorem findPacketCut_of_whole {view : Bytes} (whole : Whole view) :
    findPacketCut family videoPid view = (firstEntry family videoPid view).map (packetSize * ·) := by
  obtain ⟨aligned, same⟩ := whole.aligned
  rw [findPacketCut, find_eq_boundary?, firstEntry]
  by_cases few : (packets view).length < 3
  · have short : view.length ≤ 2 * packetSize := by
      rw [← same, length_flatten aligned]
      simp only [packetSize]
      omega
    rw [if_pos few, boundary?_of_length_le short]
    rfl
  · have confirmed : boundary? packetSize view = some 0 := by
      rw [← same]
      exact boundary?_flatten aligned (Nat.le_of_not_lt few)
    rw [if_neg few, confirmed]
    change walkPackets family videoPid 0 view = _
    rw [← same, walkPackets_flatten aligned, same]
    congr 1
    funext index
    exact Nat.zero_add _

/--
Three packets or more are searched without an error on either side: the place given is the start of the first
packet that starts a unit of the video with an intra picture, and none is given only where no packet does.
-/
theorem findPacketCut_exact {all : List Bytes} (aligned : Aligned all) (enough : 3 ≤ all.length)
    (family : Elementary.Family) (videoPid : UInt16) :
    (∀ offset, findPacketCut family videoPid all.flatten = some offset ↔
      ∃ (index : Nat) (inside : index < all.length), offset = packetSize * index ∧
        StartsIntra family videoPid all[index] ∧
        ∀ (earlier : Nat) (before : earlier < index), ¬ StartsIntra family videoPid all[earlier]) ∧
    (findPacketCut family videoPid all.flatten = none ↔
      ∀ packet ∈ all, ¬ StartsIntra family videoPid packet) := by
  have found : findPacketCut family videoPid all.flatten =
      (all.findIdx? (enters family videoPid)).map (packetSize * ·) := by
    rw [findPacketCut_of_whole ⟨all, aligned, rfl⟩, firstEntry, packets_flatten aligned,
      if_neg (Nat.not_lt_of_le enough)]
  rw [found]
  constructor
  · intro offset
    constructor
    · intro same
      obtain ⟨index, first, rfl⟩ := Option.map_eq_some_iff.mp same
      obtain ⟨inside, starts, least⟩ := List.findIdx?_eq_some_iff_getElem.mp first
      exact ⟨index, inside, rfl, enters_iff.mp starts, fun earlier before starts =>
        least earlier before (enters_iff.mpr starts)⟩
    · rintro ⟨index, inside, rfl, starts, least⟩
      refine Option.map_eq_some_iff.mpr ⟨index, List.findIdx?_eq_some_iff_getElem.mpr ?_, rfl⟩
      exact ⟨inside, enters_iff.mpr starts, fun earlier before starts =>
        least earlier before (enters_iff.mp starts)⟩
  · rw [Option.map_eq_none_iff, List.findIdx?_eq_none_iff]
    refine forall₂_congr fun packet member => ?_
    rw [← enters_iff, Bool.not_eq_true]

/-- Audio, a packet whose adaptation field runs over its end, and video with an intra picture of each family. -/
def mixed : List Bytes :=
  let stream := (Synthetic.empty.audio 4).packet Synthetic.videoPid true 0x03 [0xFF]
  ((stream.videoPackets 1).mpeg2Intra.h264Intra).packets.reverse

theorem findPacketCut_exact_mixed :
    Aligned mixed ∧ 3 ≤ mixed.length ∧
      findPacketCut .mpeg2 Synthetic.videoPid mixed.flatten = some (packetSize * 3) ∧
      findPacketCut .h264 Synthetic.audioPid mixed.flatten = none := by
  have aligned : Aligned mixed := by
    unfold Aligned
    decide +kernel
  have enough : 3 ≤ mixed.length := by decide +kernel
  refine ⟨aligned, enough, ?_, ?_⟩
  · exact ((findPacketCut_exact aligned enough .mpeg2 Synthetic.videoPid).1 _).mpr
      ⟨3, by decide +kernel, rfl, by decide +kernel, by decide +kernel⟩
  · exact (findPacketCut_exact aligned enough .h264 Synthetic.audioPid).2.mpr (by decide +kernel)

end MpegRecorder.Output
