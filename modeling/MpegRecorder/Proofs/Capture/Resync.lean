import MpegRecorder.Proofs.Capture.Balance
import MpegRecorder.Proofs.Capture.Blocks

/-!
How a feeder comes back to the packets. Only the first byte of a unit is looked at, so a unit that begins on a
sync byte that starts no packet reaches into the packets behind it; where it ends between two of them, the next
one is found. Bytes that no boundary begins in are dropped, and nothing else is.
-/

namespace MpegRecorder.Capture

open Transport

variable {size unit : Nat} {positive : 0 < unit} {stream noise : Bytes} {packets : List Bytes}

/-- A stream whose sync bytes stand where its packets start, and nowhere else. -/
def Regular (size : Nat) (stream : Bytes) : Prop :=
  ∀ offset < stream.length, stream[offset]? = some 0x47 ↔ size ∣ offset

theorem Regular.aligned (regular : Regular size stream) : Aligned size stream :=
  fun offset inside => (regular offset inside).mpr

theorem InFull.regular_flatten (full : InFull size packets)
    (single : ∀ packet ∈ packets, 0x47 ∉ packet.tail) : Regular size packets.flatten := by
  intro offset inside
  refine ⟨fun sync => ?_, full.aligned_flatten offset inside⟩
  rw [full.length_flatten] at inside
  have sized : 0 < size := Nat.pos_of_ne_zero fun zero => by
    rw [zero, Nat.mul_zero] at inside
    omega
  have here : offset / size < packets.length := Nat.div_lt_of_lt_mul (by rwa [Nat.mul_comm])
  have byte := full.getElem?_flatten (offset / size) (Nat.mod_lt offset sized)
  rw [Nat.mul_comm, Nat.div_add_mod, sync, List.getElem?_eq_getElem here, Option.bind_some] at byte
  rw [Nat.dvd_iff_mod_eq_zero]
  cases place : offset % size with
  | zero => rfl
  | succ place =>
    rw [place, ← List.getElem?_tail] at byte
    exact absurd (List.mem_of_getElem? byte.symm) (single _ (List.getElem_mem here))

theorem Regular.cut_drop (regular : Regular size stream) {skip count : Nat}
    (before : skip ≤ count * size) (near : count * size < skip + size)
    (inside : count * size + 2 * size < stream.length) :
    cut size unit positive (stream.drop skip) =
      (cut size unit positive (stream.drop (count * size))).skip (count * size - skip) := by
  rcases Nat.eq_or_lt_of_le before with same | less
  · rw [same, Nat.sub_self, Passage.skip_zero]
  -- No position from here up to the packet is a multiple of the size.
  have between {offset : Nat} (behind : skip ≤ offset) (early : offset < count * size) :
      stream[offset]? ≠ some 0x47 := by
    intro sync
    obtain ⟨index, rfl⟩ := (regular offset (by omega)).mp sync
    have fewer : index + 1 ≤ count := by
      rw [Nat.mul_comm] at early
      exact Nat.lt_of_mul_lt_mul_right early
    have further := Nat.mul_le_mul_right size fewer
    rw [Nat.succ_mul, Nat.mul_comm] at further
    omega
  have lost : (stream.drop skip).head? ≠ some 0x47 := by
    rw [List.head?_drop]
    exact between (Nat.le_refl _) less
  have filled : stream.drop skip ≠ [] := by
    refine List.length_pos_iff.mp ?_
    rw [List.length_drop]
    omega
  have next : boundary? size (stream.drop skip) = some (count * size - skip) := by
    refine boundary?_eq_some_iff.mpr ⟨?_, fun earlier ahead => ?_⟩
    · rw [marked_drop, Nat.add_sub_of_le before]
      exact regular.aligned.marked (Nat.dvd_mul_left ..) inside
    · rw [marked_drop]
      exact fun marked => between (by omega) (by omega) marked.1
  rw [cut_of_lost lost filled, seek_of_some next, List.drop_drop, Nat.add_sub_of_le before]

theorem cut_chunks_of_short (short : stream.length < unit) :
    (cut size unit positive stream).chunks = [] := by
  refine List.eq_nil_iff_forall_not_mem.mpr fun chunk taken => ?_
  have length := (cut_chunks chunk taken).1
  have inside : chunk.length ≤ (cut size unit positive stream).chunks.flatten.length :=
    (List.sublist_flatten_of_mem taken).length_le
  have extent : (cut size unit positive stream).extent = stream.length := extent_cut
  rw [Passage.extent] at extent
  omega

theorem seek_chunks_append {start : Nat} (found : boundary? size (noise ++ stream) = some start)
    {count : Nat} (confirms : Sync.span size ≤ unit) (inside : start ≤ noise.length) :
    (seek size unit positive (noise ++ stream.take count)).chunks =
      (cut size unit positive (noise.drop start ++ stream.take count)).chunks := by
  cases early : boundary? size (noise ++ stream.take count) with
  | some first =>
    have more := boundary?_append_of_some early (stream.drop count)
    rw [List.append_assoc, List.take_append_drop, found] at more
    have same : start = first := Option.some.inj more
    rw [same] at inside ⊢
    rw [seek_of_some early, List.drop_append_of_le_length inside]
    rfl
  | none =>
    -- The bytes that confirm the boundary lie behind the place, so no unit ends before it.
    have short : (noise.drop start ++ stream.take count).length < unit := by
      by_contra long
      have marked := (boundary?_eq_some_iff.mp found).1
      rw [← List.take_append_drop count stream, ← List.append_assoc, marked_append_of_lt] at marked
      · exact boundary?_eq_none_iff.mp early start marked
      · simp only [Sync.span, List.length_append, List.length_drop] at long confirms ⊢
        omega
    rw [seek_of_none early, cut_chunks_of_short short]

/-- Bytes before a boundary of the packets do not hide it; they may hold another one before it. -/
theorem Aligned.boundary?_append (aligned : Aligned size stream) (long : 2 * size < stream.length)
    (noise : Bytes) :
    ∃ start ≤ noise.length, boundary? size (noise ++ stream) = some start := by
  have marked : Marked size (noise ++ stream) noise.length := by
    have first : Marked size stream 0 := aligned.marked (Nat.dvd_zero size) (by omega)
    have behind : (noise ++ stream).drop noise.length = stream := List.drop_left
    rwa [← behind, marked_drop, Nat.add_zero] at first
  cases found : boundary? size (noise ++ stream) with
  | none => exact absurd marked (boundary?_eq_none_iff.mp found _)
  | some start =>
    refine ⟨start, ?_, rfl⟩
    by_contra behind
    exact (boundary?_eq_some_iff.mp found).2 _ (Nat.lt_of_not_le behind) marked

theorem exists_packet_behind (positive : 0 < size) (place : Nat) :
    ∃ count, place ≤ count * size ∧ count * size < place + size := by
  have parts := Nat.div_add_mod (place + (size - 1)) size
  have rest := Nat.mod_lt (place + (size - 1)) positive
  refine ⟨(place + (size - 1)) / size, ?_, ?_⟩ <;> rw [Nat.mul_comm] <;> omega

theorem cut_overlap (regular : Regular size stream) (whole : size ∣ unit)
    (confirms : Sync.span size ≤ unit) (long : unit + 3 * size ≤ stream.length)
    (lead : noise.head? = some 0x47) (short : noise.length < unit) :
    ∃ count lost, count * size ≤ unit ∧
      cut size unit positive (noise ++ stream) =
        ((cut size unit positive (stream.drop (count * size))).skip lost).emit
          (cut size unit positive (noise ++ stream.take (count * size))).chunks := by
  have sized : 0 < size := Nat.pos_of_dvd_of_pos whole positive
  have filled : noise ≠ [] := by
    rintro rfl
    cases lead
  have begun := List.length_pos_iff.mpr filled
  have front (more : Bytes) : (noise ++ more).head? = some 0x47 := by
    rw [List.head?_append_of_ne_nil _ filled, lead]
  have taken (more : Bytes) : (noise ++ more).take unit = noise ++ more.take (unit - noise.length) := by
    rw [List.take_append, List.take_of_length_le (Nat.le_of_lt short)]
  have left (more : Bytes) : (noise ++ more).drop unit = more.drop (unit - noise.length) := by
    rw [List.drop_append, List.drop_of_length_le (Nat.le_of_lt short), List.nil_append]
  obtain ⟨count, behind, near⟩ := exists_packet_behind sized (unit - noise.length)
  have within : count * size ≤ unit := by
    obtain ⟨packets, rfl⟩ := whole
    rw [Nat.mul_comm size]
    refine Nat.mul_le_mul_right size (Nat.le_of_lt_succ (Nat.lt_of_mul_lt_mul_right (a := size) ?_))
    rw [Nat.succ_mul, Nat.mul_comm packets]
    omega
  refine ⟨count, count * size - (unit - noise.length), within, ?_⟩
  have rest : ((stream.take (count * size)).drop (unit - noise.length)).length < unit := by
    rw [List.length_drop, List.length_take]
    unfold Sync.span at confirms
    omega
  rw [cut_of_long (front stream) (by rw [List.length_append]; omega),
    cut_of_long (front _) (by rw [List.length_append, List.length_take]; omega), taken, taken, left, left,
    regular.cut_drop behind near (by omega), List.take_take, Nat.min_eq_left behind]
  simp only [Passage.emit, cut_chunks_of_short rest, List.append_nil]

/--
Whatever comes before the packets, the cut is on a packet within one unit of the first one. The chunks up
to there are those that come of the bytes up to there.
-/
theorem cut_resumes (positive : 0 < unit) (regular : Regular size stream) (whole : size ∣ unit)
    (confirms : Sync.span size ≤ unit) (long : unit + 3 * size ≤ stream.length) (noise : Bytes) :
    ∃ count lost, count * size ≤ unit ∧
      cut size unit positive (noise ++ stream) =
        ((cut size unit positive (stream.drop (count * size))).skip lost).emit
          (cut size unit positive (noise ++ stream.take (count * size))).chunks := by
  by_cases filled : noise = []
  · refine ⟨0, 0, by omega, ?_⟩
    rw [filled, Nat.zero_mul, List.take_zero, List.drop_zero, List.append_nil, cut_nil,
      Passage.skip_zero]
    rfl
  have begun := List.length_pos_iff.mpr filled
  have front (more : Bytes) : (noise ++ more).head? = noise.head? :=
    List.head?_append_of_ne_nil _ filled
  -- By induction on the noise: a unit ends in it or reaches over its end, or a boundary is sought.
  by_cases lead : noise.head? = some 0x47
  · by_cases inside : unit ≤ noise.length
    · obtain ⟨count, lost, near, resumes⟩ :=
        cut_resumes positive regular whole confirms long (noise.drop unit)
      refine ⟨count, lost, near, ?_⟩
      have taken (more : Bytes) : cut size unit positive (noise ++ more) =
          (cut size unit positive (noise.drop unit ++ more)).emit [noise.take unit] := by
        rw [cut_of_long ((front more).trans lead) (by rw [List.length_append]; omega),
          List.drop_append_of_le_length inside, List.take_append_of_le_length inside]
      rw [taken, taken, resumes, Passage.emit_emit]
      rfl
    · exact cut_overlap regular whole confirms long lead (Nat.lt_of_not_le inside)
  · have sought (more : Bytes) : cut size unit positive (noise ++ more) =
        seek size unit positive (noise ++ more) :=
      cut_of_lost (by rwa [front]) (List.append_ne_nil_of_left_ne_nil filled more)
    obtain ⟨start, inside, found⟩ := regular.aligned.boundary?_append (by omega) noise
    have ahead : 0 < start := by
      refine Nat.pos_of_ne_zero fun zero => lead ?_
      rw [← front stream, List.head?_eq_getElem?, ← zero]
      exact (boundary?_eq_some_iff.mp found).1.1
    obtain ⟨count, lost, near, resumes⟩ :=
      cut_resumes positive regular whole confirms long (noise.drop start)
    refine ⟨count, start + lost, near, ?_⟩
    rw [sought, sought, seek_of_some found, List.drop_append_of_le_length inside, resumes,
      seek_chunks_append found confirms inside, Passage.skip_emit, Passage.skip_skip]
termination_by noise.length
decreasing_by
  all_goals
    simp only [List.length_drop]
    omega

namespace Feeder

variable {feeder : Feeder}

theorem Fit.pushAll (fit : feeder.Fit) (pieces : List Bytes) :
    feeder.pushAll pieces = feeder.push pieces.flatten := by
  induction pieces generalizing feeder with
  | nil => rw [List.flatten_nil, push_nil, Feeder.pushAll]
  | cons piece later ih =>
    rw [List.flatten_cons, fit.push_append, Feeder.pushAll, ih (fit.push piece)]

def passAll (feeder : Feeder) (pieces : List Bytes) : List Bytes × Feeder :=
  let taken := feeder.pushAll pieces
  (taken.1 ++ taken.2.finish.1, taken.2.finish.2)

theorem finish_of_packets (sound : feeder.Sound) (synced : feeder.alignment.synced = true)
    (whole : feeder.packetSize ∣ feeder.pending.size) :
    feeder.finish.1 = (if feeder.pending.toList = [] then [] else [feeder.pending.toList]) ∧
      feeder.finish.2.dropped = feeder.dropped := by
  rw [Sound, Alignment.Sound, if_pos synced] at sound
  have settled : feeder.alignment.settle feeder.packetSize feeder.pending =
      (feeder.alignment, feeder.pending) := by
    refine if_pos ?_
    rw [← Packed.head?_toList, List.head?_eq_none_iff]
    exact sound.imp id (⟨synced, ·⟩)
  have empty : feeder.pending.size = 0 ↔ feeder.pending.toList = [] := by
    rw [← Packed.length_toList, List.length_eq_zero_iff]
  have last : (feeder.pending.take feeder.pending.size).toList = feeder.pending.toList := by
    rw [Packed.toList_take, ← Packed.length_toList, List.take_length]
  simp only [finish, settled, synced, if_true, Nat.div_mul_cancel whole, last, empty, dropped, withNothing,
    Nat.sub_self, Nat.add_zero, and_self]

theorem passAll_of_cut (positive : 0 < unit) (confirms : Sync.span size ≤ unit) (whole : size ∣ unit)
    (aligned : Aligned size stream) (full : size ∣ stream.length) {pieces early : List Bytes} {lost : Nat}
    (came : cut size unit positive pieces.flatten =
      ((cut size unit positive stream).skip lost).emit early) :
    ((new size unit positive).passAll pieces).1 = early ++ stream.chunks unit ∧
      ((new size unit positive).passAll pieces).2.dropped = lost := by
  have fit := Fit.new positive confirms
  have shown := fit.passage_push pieces.flatten
  have same : (new size unit positive).outlook pieces.flatten = cut size unit positive pieces.flatten :=
    Passage.skip_zero _
  rw [same, came, aligned.cut whole] at shown
  obtain ⟨chunks, pending, synced, dropped⟩ := Passage.mk.inj shown
  have packetSize := (fit.sizes_push pieces.flatten).1
  have rest : size ∣ (stream.drop (stream.length / unit * unit)).length := by
    rw [List.length_drop]
    exact Nat.dvd_sub full (Nat.dvd_mul_left_of_dvd whole _)
  have waiting : ((new size unit positive).push pieces.flatten).2.packetSize ∣
      ((new size unit positive).push pieces.flatten).2.pending.size := by
    rw [packetSize, ← Packed.length_toList, pending]
    exact rest
  obtain ⟨last, kept⟩ := finish_of_packets (fit.push pieces.flatten).sound synced waiting
  rw [passAll, fit.pushAll, last, kept, dropped, chunks, pending, Bytes.chunks_eq positive]
  exact ⟨List.append_assoc .., rfl⟩

/--
However the bytes are cut into pieces: packets whose only sync bytes are their first ones are passed on from
one of them on, which is no further than a unit behind whatever came before. They are passed on in order, each
once and in one piece, at a multiple of the packet size in its chunk; of what came before them, the feeder
passes on what it would without them, and drops the rest.
-/
theorem passAll_resumes (size unit : Nat) (positive : 0 < unit) (whole : size ∣ unit)
    (confirms : Sync.span size ≤ unit) (noise pieces packets : List Bytes) (full : InFull size packets)
    (single : ∀ packet ∈ packets, 0x47 ∉ packet.tail)
    (enough : unit + 3 * size ≤ packets.length * size) (parts : pieces.flatten = packets.flatten) :
    let passed := (new size unit positive).passAll (noise ++ pieces)
    ∃ count early late, count * size ≤ unit ∧ passed.1 = early ++ late ∧
      early = ((new size unit positive).push (noise.flatten ++ (packets.take count).flatten)).1 ∧
      early.flatten.length + passed.2.dropped = noise.flatten.length + count * size ∧
      (∀ chunk ∈ late, size ∣ chunk.length) ∧
      late.flatMap (Bytes.wholeChunks size) = packets.drop count := by
  intro passed
  have sized : 0 < size := Nat.pos_of_dvd_of_pos whole positive
  have regular := full.regular_flatten single
  have length := full.length_flatten
  obtain ⟨count, lost, near, came⟩ := cut_resumes positive regular whole confirms (by omega)
    noise.flatten
  have inside : count ≤ packets.length := Nat.le_of_mul_le_mul_right (by omega) sized
  obtain ⟨front, behind⟩ := Bytes.parts_flatten_blocks full.lengths count
  have rest := (full.drop count).length_flatten
  -- What is in no chunk and does not wait was dropped, so the lengths tell how much.
  have extent := congrArg Passage.extent came
  rw [extent_cut, Passage.extent_emit, Passage.extent_skip, extent_cut] at extent
  rw [front, behind] at came
  have alone : ((new size unit positive).push (noise.flatten ++ (packets.take count).flatten)).1 =
      (cut size unit positive (noise.flatten ++ (packets.take count).flatten)).chunks :=
    congrArg Passage.chunks ((Fit.new positive confirms).passage_push _)
  have left : size ∣ (packets.drop count).flatten.length := by
    rw [rest]
    exact Nat.dvd_mul_left ..
  rw [← parts, ← List.flatten_append] at came
  obtain ⟨chunks, dropped⟩ :=
    passAll_of_cut positive confirms whole (full.drop count).aligned_flatten left came
  refine ⟨count, _, _, near, chunks, alone.symm, ?_, ?_, ?_⟩
  · rw [dropped]
    simp only [front, behind, List.length_append, rest, List.length_drop] at extent
    rw [length] at extent
    have parted : (packets.length - count) * size + count * size = packets.length * size := by
      rw [← Nat.add_mul, Nat.sub_add_cancel inside]
    omega
  · exact fun chunk member => Bytes.dvd_length_of_mem_chunks positive whole left member
  · rw [Bytes.flatMap_wholeChunks_chunks positive whole, Bytes.wholeChunks_flatten_blocks sized (full.drop count).lengths]

/-- The first unit begins on a false sync byte and ends inside of the second packet. -/
theorem passAll_resumes_false_sync :
    let noise : List Bytes := [[0x47], [1, 0x47]]
    let packets : List Bytes := [[0x47, 1], [0x47, 2], [0x47, 3], [0x47, 4], [0x47, 5], [0x47, 6]]
    let pieces : List Bytes := [[0x47, 1, 0x47], [], [2, 0x47, 3, 0x47, 4, 0x47], [5, 0x47, 6]]
    let passed := (new 2 6 (by decide)).passAll (noise ++ pieces)
    2 ∣ 6 ∧ Sync.span 2 ≤ 6 ∧ InFull 2 packets ∧ (∀ packet ∈ packets, 0x47 ∉ packet.tail) ∧
      6 + 3 * 2 ≤ packets.length * 2 ∧ pieces.flatten = packets.flatten ∧
      passed.1 = [[0x47, 1, 0x47, 0x47, 1, 0x47], [0x47, 3, 0x47, 4, 0x47, 5], [0x47, 6]] ∧
      ∃ count early late, count * 2 ≤ 6 ∧ passed.1 = early ++ late ∧
        early.flatten.length + passed.2.dropped = 3 + count * 2 ∧
        late.flatMap (Bytes.wholeChunks 2) = packets.drop count := by
  intro noise packets pieces passed
  have full : InFull 2 packets := by unfold InFull; decide
  have single : ∀ packet ∈ packets, 0x47 ∉ packet.tail := by decide
  obtain ⟨count, early, late, near, parted, -, balance, -, behind⟩ :=
    passAll_resumes 2 6 (by decide) (by decide) (by decide) noise pieces packets full single (by decide) rfl
  exact ⟨by decide, by decide, full, single, by decide, rfl, by decide +kernel, count, early, late, near,
    parted, balance, behind⟩

/--
Bytes in front of packets that no boundary begins in cost exactly themselves, however the stream is cut into
pieces: all packets are passed on, a unit at a time, and nothing else.
-/
theorem passAll_behind_garbage (size unit : Nat) (positive : 0 < unit) (whole : size ∣ unit)
    (confirms : Sync.span size ≤ unit) (garbage : Bytes) (packets pieces : List Bytes)
    (full : InFull size packets) (enough : 3 ≤ packets.length) (filled : garbage ≠ [])
    (lead : garbage.head? ≠ some 0x47)
    (unmarked : ∀ offset < garbage.length, ¬ Marked size (garbage ++ packets.flatten) offset)
    (parts : pieces.flatten = garbage ++ packets.flatten) :
    let passed := (new size unit positive).passAll pieces
    passed.1 = Bytes.chunks unit packets.flatten ∧ passed.1.flatten = packets.flatten ∧
      passed.2.dropped = garbage.length := by
  intro passed
  have sized : 0 < size := Nat.pos_of_dvd_of_pos whole positive
  have length := full.length_flatten
  have aligned := full.aligned_flatten
  have long : 2 * size < packets.flatten.length := by
    rw [length]
    have more := Nat.mul_le_mul_right size enough
    omega
  have found : boundary? size (garbage ++ packets.flatten) = some garbage.length := by
    obtain ⟨start, inside, found⟩ := aligned.boundary?_append long garbage
    have marked := (boundary?_eq_some_iff.mp found).1
    rcases Nat.eq_or_lt_of_le inside with same | less
    · rw [found, same]
    · exact absurd marked (unmarked start less)
  have came : cut size unit positive pieces.flatten =
      ((cut size unit positive packets.flatten).skip garbage.length).emit [] := by
    rw [parts, cut_of_lost (by rwa [List.head?_append_of_ne_nil _ filled])
      (List.append_ne_nil_of_left_ne_nil filled _), seek_of_some found, List.drop_left]
    rfl
  have left : size ∣ packets.flatten.length := by
    rw [length]
    exact Nat.dvd_mul_left ..
  obtain ⟨chunks, dropped⟩ := passAll_of_cut positive confirms whole aligned left came
  rw [List.nil_append] at chunks
  exact ⟨chunks, by rw [chunks, Bytes.flatten_chunks positive], dropped⟩

/-- Two sync bytes a packet apart among the garbage, and a third before the last packets are there. -/
theorem passAll_behind_garbage_paired :
    let garbage : Bytes := [0, 0x47, 1, 0x47]
    let packets : List Bytes := [[0x47, 1], [0x47, 2], [0x47, 0x47], [0x47, 4]]
    let pieces : List Bytes := [[0, 0x47, 1, 0x47, 0x47], [1, 0x47], [2, 0x47, 0x47, 0x47], [4]]
    let passed := (new 2 6 (by decide)).passAll pieces
    2 ∣ 6 ∧ Sync.span 2 ≤ 6 ∧ InFull 2 packets ∧ 3 ≤ packets.length ∧ garbage ≠ [] ∧
      garbage.head? ≠ some 0x47 ∧
      (∀ offset < garbage.length, ¬ Marked 2 (garbage ++ packets.flatten) offset) ∧
      pieces.flatten = garbage ++ packets.flatten ∧
      passed.1 = [[0x47, 1, 0x47, 2, 0x47, 0x47], [0x47, 4]] ∧ passed.2.dropped = 4 := by
  intro garbage packets pieces passed
  have full : InFull 2 packets := by unfold InFull; decide
  have unmarked : ∀ offset < garbage.length, ¬ Marked 2 (garbage ++ packets.flatten) offset := by decide
  obtain ⟨chunks, -, dropped⟩ := passAll_behind_garbage 2 6 (by decide) (by decide) (by decide) garbage
    packets pieces full (by decide) (by decide) (by decide) unmarked rfl
  exact ⟨by decide, by decide, full, by decide, by decide, by decide, unmarked, rfl,
    chunks.trans (by decide +kernel), dropped⟩

end Feeder

end MpegRecorder.Capture
