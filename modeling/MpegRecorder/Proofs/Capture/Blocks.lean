import MpegRecorder.Proofs.Capture.Passage

/-!
Streams that are cut at regular places: into blocks of one length, or, where every packet has its sync
byte, into transfer units with nothing skipped between them. Packets in full make up such a stream.
-/

namespace MpegRecorder

namespace Bytes

variable {size unit : Nat} {data : Bytes}

theorem wholeChunks_of_short {data : Bytes} (short : data.length < size) :
    data.wholeChunks size = [] := by
  rw [wholeChunks, dif_pos]
  right
  rw [List.length_take]
  omega

theorem wholeChunks_append {block : Bytes} (positive : 0 < size) (whole : block.length = size)
    (data : Bytes) : wholeChunks size (block ++ data) = block :: data.wholeChunks size := by
  rw [wholeChunks, dif_neg]
  · rw [List.take_left' whole, List.drop_left' whole]
  · rw [List.take_left' whole]
    omega

theorem wholeChunks_of_long {data : Bytes} (positive : 0 < size) (long : size ≤ data.length) :
    data.wholeChunks size = data.take size :: wholeChunks size (data.drop size) := by
  have front := wholeChunks_append positive (List.length_take_of_le long) (data.drop size)
  rwa [List.take_append_drop] at front

theorem wholeChunks_flatten_append {blocks : List Bytes} (positive : 0 < size)
    (whole : ∀ block ∈ blocks, block.length = size) (data : Bytes) :
    wholeChunks size (blocks.flatten ++ data) = blocks ++ data.wholeChunks size := by
  induction blocks with
  | nil => rfl
  | cons block rest ih =>
    obtain ⟨first, others⟩ := List.forall_mem_cons.mp whole
    rw [List.flatten_cons, List.append_assoc, wholeChunks_append positive first, ih others]
    rfl

theorem length_flatten_blocks {blocks : List Bytes} (whole : ∀ block ∈ blocks, block.length = size) :
    blocks.flatten.length = blocks.length * size := by
  rw [List.length_flatten, List.map_congr_left whole, List.map_const', List.sum_replicate_nat]

theorem wholeChunks_flatten_blocks {blocks : List Bytes} (positive : 0 < size)
    (whole : ∀ block ∈ blocks, block.length = size) : wholeChunks size blocks.flatten = blocks := by
  have nothing : wholeChunks size [] = [] := wholeChunks_of_short positive
  have parts := wholeChunks_flatten_append positive whole []
  rwa [List.append_nil, nothing, List.append_nil] at parts

theorem parts_flatten_blocks {blocks : List Bytes} (whole : ∀ block ∈ blocks, block.length = size)
    (count : Nat) :
    blocks.flatten.take (count * size) = (blocks.take count).flatten ∧
      blocks.flatten.drop (count * size) = (blocks.drop count).flatten := by
  induction blocks generalizing count with
  | nil => simp
  | cons block rest ih =>
    obtain ⟨first, others⟩ := List.forall_mem_cons.mp whole
    cases count with
    | zero => simp
    | succ count =>
      obtain ⟨front, behind⟩ := ih others count
      rw [List.flatten_cons, Nat.succ_mul, Nat.add_comm, List.take_succ_cons, List.flatten_cons,
        List.drop_succ_cons, ← front, ← behind, ← first]
      exact ⟨List.take_length_add_append .., List.drop_length_add_append ..⟩

theorem flatten_wholeChunks (whole : size ∣ data.length) : (data.wholeChunks size).flatten = data := by
  fun_induction wholeChunks size data with
  | case1 data short =>
    have nothing : data.length = 0 := by
      rcases short with rfl | short
      · exact Nat.zero_dvd.mp whole
      · rw [List.length_take] at short
        exact Nat.eq_zero_of_dvd_of_lt whole (by omega)
    rw [List.length_eq_zero_iff.mp nothing, List.flatten_nil]
  | case2 data short ih =>
    have rest : size ∣ (data.drop size).length := by
      rw [List.length_drop]
      exact Nat.dvd_sub whole (Nat.dvd_refl size)
    rw [List.flatten_cons, ih rest, List.take_append_drop]

theorem wholeChunks_append_of_dvd (positive : 0 < size) (whole : size ∣ data.length) (more : Bytes) :
    wholeChunks size (data ++ more) = data.wholeChunks size ++ more.wholeChunks size := by
  have parts := wholeChunks_flatten_append positive
    (fun chunk (member : chunk ∈ data.wholeChunks size) => length_of_mem_wholeChunks member) more
  rwa [flatten_wholeChunks whole] at parts

theorem chunks_of_filled (positive : 0 < unit) (filled : data ≠ []) :
    data.chunks unit = data.take unit :: chunks unit (data.drop unit) := by
  rw [chunks, dif_neg (not_or.mpr ⟨Nat.pos_iff_ne_zero.mp positive, filled⟩)]

@[simp] theorem chunks_nil : chunks unit [] = [] := by
  rw [chunks, dif_pos (.inr rfl)]

theorem chunks_eq (positive : 0 < unit) (data : Bytes) :
    data.chunks unit = data.wholeChunks unit ++
      if data.drop (data.length / unit * unit) = [] then []
      else [data.drop (data.length / unit * unit)] := by
  fun_induction wholeChunks unit data with
  | case1 data short =>
    rw [List.length_take] at short
    have less : data.length < unit := by omega
    rw [Nat.div_eq_of_lt less, Nat.zero_mul, List.drop_zero, List.nil_append]
    split
    · next nothing => rw [nothing, chunks_nil]
    · next filled =>
      have inside := Nat.le_of_lt less
      rw [chunks_of_filled positive filled, List.take_of_length_le inside,
        List.drop_of_length_le inside, chunks_nil]
  | case2 data short ih =>
    rw [List.length_take] at short
    have long : unit ≤ data.length := by omega
    have filled : data ≠ [] := List.length_pos_iff.mp (by omega)
    have count : unit + (data.length - unit) / unit * unit = data.length / unit * unit := by
      rw [Nat.div_eq_sub_div positive long, Nat.succ_mul, Nat.add_comm]
    rw [chunks_of_filled positive filled, ih, List.drop_drop, List.length_drop, count, List.cons_append]

theorem flatMap_wholeChunks_chunks (positive : 0 < unit) (whole : size ∣ unit) (data : Bytes) :
    (data.chunks unit).flatMap (wholeChunks size) = data.wholeChunks size := by
  have some := Nat.pos_of_dvd_of_pos whole positive
  fun_induction chunks unit data with
  | case1 data done =>
    rcases done with zero | rfl
    · omega
    · rw [List.flatMap_nil, wholeChunks_of_short some]
  | case2 data more ih =>
    rw [List.flatMap_cons, ih]
    by_cases long : unit ≤ data.length
    · have front : size ∣ (data.take unit).length := by
        rw [List.length_take_of_le long]
        exact whole
      rw [← wholeChunks_append_of_dvd some front, List.take_append_drop]
    · have inside := Nat.le_of_not_le long
      have nothing : wholeChunks size [] = [] := wholeChunks_of_short some
      rw [List.take_of_length_le inside, List.drop_of_length_le inside, nothing, List.append_nil]

theorem dvd_length_of_mem_chunks (positive : 0 < unit) (whole : size ∣ unit)
    (full : size ∣ data.length) {chunk : Bytes} (member : chunk ∈ data.chunks unit) :
    size ∣ chunk.length := by
  rw [chunks_eq positive] at member
  rcases List.mem_append.mp member with taken | last
  · rw [length_of_mem_wholeChunks taken]
    exact whole
  · split at last
    · cases last
    · rw [List.mem_singleton.mp last, List.length_drop]
      exact Nat.dvd_sub full (Nat.dvd_mul_left_of_dvd whole _)

end Bytes

namespace Capture

open Transport

variable {size unit : Nat} {positive : 0 < unit} {stream : Bytes} {packets : List Bytes}

/-- A stream in which every packet has its sync byte. -/
def Aligned (size : Nat) (stream : Bytes) : Prop :=
  ∀ offset < stream.length, size ∣ offset → stream[offset]? = some 0x47

theorem Aligned.drop {count : Nat} (aligned : Aligned size stream) (whole : size ∣ count) :
    Aligned size (stream.drop count) := by
  intro offset inside multiple
  rw [List.length_drop] at inside
  rw [List.getElem?_drop]
  exact aligned _ (by omega) ((Nat.dvd_add_iff_right whole).mp multiple)

theorem Aligned.marked (aligned : Aligned size stream) {start : Nat} (whole : size ∣ start)
    (inside : start + 2 * size < stream.length) : Marked size stream start := by
  refine ⟨aligned _ (by omega) whole, aligned _ (by omega) ?_, aligned _ inside ?_⟩
  · exact Nat.dvd_add whole (Nat.dvd_refl size)
  · exact Nat.dvd_add whole (Nat.dvd_mul_left size 2)

/-- Nothing is skipped in such a stream, and what waits is what its last unit lacks of being whole. -/
theorem Aligned.cut (aligned : Aligned size stream) (whole : size ∣ unit) :
    cut size unit positive stream =
      ⟨stream.wholeChunks unit, stream.drop (stream.length / unit * unit), true, 0⟩ := by
  fun_induction Capture.cut size unit positive stream with
  | case1 => rw [Bytes.wholeChunks_of_short positive, List.drop_nil]
  | case2 later short =>
    rw [Bytes.wholeChunks_of_short short, Nat.div_eq_of_lt short, Nat.zero_mul, List.drop_zero]
  | case3 later long ih =>
    have inside : unit ≤ (0x47 :: later).length := Nat.le_of_not_lt long
    have count : unit + ((0x47 :: later).drop unit).length / unit * unit =
        (0x47 :: later).length / unit * unit := by
      rw [List.length_drop, Nat.div_eq_sub_div positive inside, Nat.succ_mul, Nat.add_comm]
    rw [ih (aligned.drop whole), Bytes.wholeChunks_of_long positive inside, List.drop_drop, count]
    rfl
  | case4 byte later lost | case5 byte later lost =>
    have lead := aligned 0 (Nat.zero_lt_succ _) (Nat.dvd_zero _)
    exact absurd (Option.some.inj lead) lost

def InFull (size : Nat) (packets : List Bytes) : Prop :=
  ∀ packet ∈ packets, packet.length = size ∧ packet.head? = some 0x47

theorem InFull.drop (full : InFull size packets) (count : Nat) : InFull size (packets.drop count) :=
  fun packet member => full packet (List.mem_of_mem_drop member)

theorem InFull.lengths (full : InFull size packets) : ∀ packet ∈ packets, packet.length = size :=
  fun packet member => (full packet member).1

theorem InFull.length_flatten (full : InFull size packets) :
    packets.flatten.length = packets.length * size :=
  Bytes.length_flatten_blocks full.lengths

theorem InFull.getElem?_flatten (full : InFull size packets) (index : Nat) {place : Nat}
    (inside : place < size) :
    packets.flatten[index * size + place]? = packets[index]?.bind (·[place]?) := by
  induction packets generalizing index with
  | nil => rfl
  | cons packet later ih =>
    obtain ⟨⟨length, -⟩, others⟩ := List.forall_mem_cons.mp full
    rw [List.flatten_cons]
    cases index with
    | zero =>
      rw [Nat.zero_mul, Nat.zero_add, List.getElem?_append_left (by omega)]
      rfl
    | succ index =>
      have behind : (index + 1) * size + place - packet.length = index * size + place := by
        rw [Nat.succ_mul]
        omega
      rw [List.getElem?_append_right (by rw [Nat.succ_mul]; omega), behind, ih others index]
      rfl

theorem InFull.aligned_flatten (full : InFull size packets) : Aligned size packets.flatten := by
  rintro offset inside ⟨index, rfl⟩
  rw [full.length_flatten, Nat.mul_comm] at inside
  have sized : 0 < size := Nat.pos_of_ne_zero fun zero => by
    rw [zero, Nat.mul_zero] at inside
    omega
  have here := Nat.lt_of_mul_lt_mul_right inside
  have byte := full.getElem?_flatten index sized
  rw [List.getElem?_eq_getElem here, Option.bind_some, ← List.head?_eq_getElem?,
    (full _ (List.getElem_mem here)).2, Nat.add_zero, Nat.mul_comm] at byte
  exact byte

end Capture

end MpegRecorder
