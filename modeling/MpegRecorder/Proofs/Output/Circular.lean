import Mathlib.Data.List.Forall2
import MpegRecorder.Proofs.Output.Accepted
import MpegRecorder.Proofs.Storage.Calls

/-!
A ring keeps the newest bytes. Whatever its destination does to the calls made to it, the file is a
circular image of the bytes that it took: each place holds the last of them that fell on it, and the
rewinds say how often the limit was filled.
-/

namespace MpegRecorder.Output

open Storage

theorem mod_eq_sub {limit index : Nat} (round : Nat) (low : round * limit ≤ index)
    (high : index < round * limit + limit) : index % limit = index - round * limit := by
  obtain ⟨rest, rfl⟩ := Nat.exists_eq_add_of_le low
  rw [Nat.mul_add_mod_self_right, Nat.mod_eq_of_lt (by omega)]
  omega

/-- What a file of `limit` bytes holds after `taken` was written to it round by round. -/
structure Image (limit : Nat) (taken content : Bytes) : Prop where
  length : content.length = min taken.length limit
  newest : ∀ index, index < taken.length → taken.length ≤ index + limit →
    content[index % limit]? = taken[index]?

namespace Image

variable {limit : Nat} {taken content : Bytes}

theorem last (image : Image limit taken content) (limited : 0 < limit) {place : Nat}
    (inside : place < content.length) :
    ∃ index, index < taken.length ∧ index % limit = place ∧ content[place]? = taken[index]?
      ∧ ∀ other, other < taken.length → other % limit = place → other ≤ index := by
  have length := image.length
  -- the last index that falls on the place is whole rounds behind it
  let round := (taken.length - 1 - place) / limit
  have whole := Nat.div_add_mod (taken.length - 1 - place) limit
  have less := Nat.mod_lt (taken.length - 1 - place) limited
  have falls : (place + limit * round) % limit = place := by
    rw [Nat.add_mul_mod_self_left, Nat.mod_eq_of_lt (by omega)]
  have early : place + limit * round < taken.length := by
    change limit * round + _ = _ at whole
    omega
  have late : taken.length ≤ place + limit * round + limit := by
    change limit * round + _ = _ at whole
    omega
  refine ⟨place + limit * round, early, falls, ?_, ?_⟩
  · rw [← image.newest _ early late, falls]
  · intro other before same
    by_contra beyond
    have apart : limit ∣ other - (place + limit * round) :=
      Nat.dvd_of_mod_eq_zero (Nat.sub_mod_eq_zero_of_mod_eq (same.trans falls.symm))
    have := Nat.le_of_dvd (by omega) apart
    omega

theorem splice {held : Packed} {data : Bytes} {rounds position : Nat}
    (image : Image limit taken held.toList) (stands : taken.length = rounds * limit + position)
    (fits : position + data.length ≤ limit) :
    Image limit (taken ++ data) (File.splice held position data).toList := by
  by_cases empty : data = []
  · simpa [File.splice, empty] using image
  have filled := List.length_pos_iff.mpr empty
  have size := image.length
  have within : position ≤ held.size := by
    rw [Packed.length_toList] at size
    rcases Nat.eq_zero_or_pos rounds with rfl | positive
    · omega
    · have := Nat.le_mul_of_pos_left limit positive
      omega
  have front : (held.toList.take position).length = position := by
    rw [List.length_take, Packed.length_toList]
    omega
  have shape : (File.splice held position data).toList =
      held.toList.take position ++ data ++ held.toList.drop (position + data.length) := by
    rw [File.toList_splice empty, Nat.sub_eq_zero_of_le within, List.replicate_zero, List.append_nil]
  rw [shape]
  constructor
  · simp only [List.length_append, front, List.length_drop, size, stands]
    rcases Nat.eq_zero_or_pos rounds with rfl | positive
    · omega
    · have := Nat.le_mul_of_pos_left limit positive
      omega
  · intro index before recent
    simp only [List.length_append] at before recent
    by_cases added : taken.length ≤ index
    · have place : index % limit = position + (index - taken.length) := by
        rw [mod_eq_sub rounds (by omega) (by omega)]
        omega
      rw [place, List.getElem?_append_right added, List.append_assoc,
        List.getElem?_append_right (by omega), front, Nat.add_sub_cancel_left,
        List.getElem?_append_left (by omega)]
    · have old : (taken ++ data)[index]? = held.toList[index % limit]? := by
        rw [List.getElem?_append_left (by omega), image.newest index (by omega) (by omega)]
      rw [old]
      by_cases current : rounds * limit ≤ index
      · have place : index % limit < position := by
          rw [mod_eq_sub rounds current (by omega)]
          omega
        rw [List.append_assoc, List.getElem?_append_left (by omega), List.getElem?_take_of_lt place]
      · -- the byte is of the round before, and its place is behind what was written
        obtain ⟨earlier, rfl⟩ : ∃ earlier, rounds = earlier + 1 :=
          Nat.exists_eq_add_one.mpr (Nat.pos_of_ne_zero fun zero => by simp [zero] at current)
        rw [Nat.add_mul, Nat.one_mul] at current stands
        have place : index % limit = index - earlier * limit :=
          mod_eq_sub earlier (by omega) (by omega)
        have behind : position + data.length ≤ index % limit := by omega
        rw [List.getElem?_append_right (by simp only [List.length_append, front]; omega),
          List.length_append, front, List.getElem?_drop]
        congr 1
        omega

end Image

namespace Writer

/--
A writer on its way round its ring: it stands where its counter says, and its file, which was empty at
the start, is an image of what was taken since.
-/
structure Circles (start : Writer) (file : File) (now : Writer) (taken : Bytes) : Prop where
  kept : Kept start now
  stands : now.destination.position = now.ring.sinceWrap
  bound : now.ring.sinceWrap ≤ start.ring.limit
  turned : ∃ rounds held, now.storage.files[now.destination.file]? = some held
    ∧ Image start.ring.limit taken held.content.toList
    ∧ taken.length = rounds * start.ring.limit + now.ring.sinceWrap
    ∧ now.ring.wraps = start.ring.wraps + rounds ∧ held.rewinds = file.rewinds + rounds

variable {start now after : Writer} {file : File} {taken : Bytes}

theorem Circles.isDue_iff (circles : Circles start file now taken) (limited : 0 < start.ring.limit) :
    now.ring.isDue = true ↔ now.ring.sinceWrap = start.ring.limit := by
  have bound := circles.bound
  simp only [Ring.isDue, Ring.isEnabled, circles.kept.limit, Bool.and_eq_true, decide_eq_true_eq]
  omega

theorem isDue_of_wrap (limited : 0 < now.ring.limit) (wrapped : now.wrap = (.ok (), after)) :
    after.ring.isDue = false := by
  unfold wrap at wrapped
  split at wrapped
  · split at wrapped
    · cases wrapped
    · obtain ⟨-, rfl⟩ := Prod.mk.inj wrapped
      simp only [Ring.isDue, Bool.and_eq_false_iff, decide_eq_false_iff_not, Nat.not_le]
      exact .inr limited
  · next due =>
    obtain ⟨-, rfl⟩ := Prod.mk.inj wrapped
    exact eq_false_of_ne_true due

theorem Circles.wrap (circles : Circles start file now taken) (limited : 0 < start.ring.limit)
    {result : Except IoError Unit} (wrapped : now.wrap = (result, after)) :
    Circles start file after taken := by
  have kept := circles.kept.trans (kept_of_wrap wrapped)
  obtain ⟨rounds, held, found, image, filled, wraps, rewinds⟩ := circles.turned
  unfold Writer.wrap at wrapped
  split at wrapped
  · next due =>
    have full := (circles.isDue_iff limited).mp due
    split at wrapped
    · -- a rewind that fails is owed: the ring stays due
      next rewound =>
      obtain ⟨-, rfl⟩ := Prod.mk.inj wrapped
      obtain ⟨rfl, later, stored, same, count⟩ := rewind_failed found rewound
      exact ⟨kept, circles.stands, circles.bound, rounds, later, stored, same ▸ image, filled, wraps,
        count.trans rewinds⟩
    · next rewound =>
      obtain ⟨-, rfl⟩ := Prod.mk.inj wrapped
      obtain ⟨rfl, later, stored, same, count⟩ := rewind_done found rewound
      refine ⟨kept, rfl, Nat.zero_le _, rounds + 1, later, stored, same ▸ image, ?_, ?_, ?_⟩
      · rw [filled, full, Nat.add_mul, Nat.one_mul, Nat.add_zero]
      · dsimp only
        rw [wraps, Nat.add_assoc]
      · rw [count, rewinds, Nat.add_assoc]
  · obtain ⟨-, rfl⟩ := Prod.mk.inj wrapped
    exact circles

theorem Circles.failed (circles : Circles start file now taken) {data : Bytes} {error : IoError}
    (put : now.put data = (.error error, after)) : Circles start file after taken := by
  have kept := circles.kept.trans (kept_of_put put)
  obtain ⟨rounds, held, found, image, filled, wraps, rewinds⟩ := circles.turned
  obtain ⟨destination, storage, wrote, rfl⟩ := put_failed put
  obtain ⟨rfl, later, stored, same, count⟩ := write_failed found wrote
  exact ⟨kept, circles.stands, circles.bound, rounds, later, stored, same ▸ image, filled, wraps,
    count.trans rewinds⟩

theorem Circles.put (circles : Circles start file now taken) (limited : 0 < start.ring.limit)
    {data : Bytes} {count : Nat} (put : now.put data = (.ok count, after)) :
    Circles start file after (taken ++ data.take count) := by
  have kept := circles.kept.trans (kept_of_put put)
  have bound := circles.bound
  have inside := taken_le put
  obtain ⟨rounds, held, found, image, filled, wraps, rewinds⟩ := circles.turned
  obtain ⟨destination, storage, wrote, rfl⟩ := put_taken put
  obtain ⟨-, rfl, later, stored, spliced, same⟩ := write_taken found wrote
  have enabled : now.ring.isEnabled = true := decide_eq_true (circles.kept.limit ▸ limited)
  have offered : now.offer data = data.take (start.ring.limit - now.ring.sinceWrap) := by
    rw [offer, if_pos enabled, circles.kept.limit]
  rw [offered, List.length_take] at inside
  have front : (now.offer data).take count = data.take count := by
    rw [offered, List.take_take, Nat.min_eq_left (by omega)]
  have length : (data.take count).length = count := List.length_take_of_le (by omega)
  have fits : now.ring.sinceWrap + (data.take count).length ≤ start.ring.limit := by omega
  rw [front, circles.stands] at spliced
  refine ⟨kept, ?_, ?_, rounds, later, stored, spliced ▸ image.splice filled fits, ?_, wraps,
    same.trans rewinds⟩
  · dsimp only
    rw [circles.stands]
  · rwa [length] at fits
  · rw [List.length_append, length, filled, Nat.add_assoc]

theorem Circles.write (circles : Circles start file now taken) (limited : 0 < start.ring.limit)
    (data : Bytes) : Circles start file (now.write data).2 (taken ++ now.accepted data) :=
  write_induction (fun wrapped circles => circles.wrap limited wrapped)
    (fun _ put circles => circles.failed put) (fun _ put circles => circles.put limited put) circles
    data

/-- The file takes some of whatever it is offered and rewinds whenever it is told to. -/
def Sure (writer : Writer) : Prop :=
  ∃ behaviour, writer.storage.behaviour? writer.destination.file = some behaviour
    ∧ behaviour.Accepts ∧ ∀ call, behaviour.rewind call = .ok ()

theorem Sure.kept (sure : Sure now) (kept : Kept now after) : Sure after := by
  obtain ⟨behaviour, behaves, rest⟩ := sure
  exact ⟨behaviour, by rw [kept.file, kept.behaviour, behaves], rest⟩

theorem Sure.wrap (sure : Sure now) : ∃ after, now.wrap = (.ok (), after) := by
  obtain ⟨behaviour, behaves, -, rewinds⟩ := sure
  obtain ⟨held, found, rfl⟩ := Option.map_eq_some_iff.mp behaves
  unfold Writer.wrap
  split
  · simp only [rewind, found, File.rewind, rewinds]
    exact ⟨_, rfl⟩
  · exact ⟨now, rfl⟩

theorem offer_ne_nil (roomy : now.ring.isDue = false) {data : Bytes} (filled : data ≠ []) :
    now.offer data ≠ [] := by
  have length := List.length_pos_iff.mpr filled
  unfold offer
  split
  · next enabled =>
    rw [Ring.isDue, enabled, Bool.true_and, decide_eq_false_iff_not] at roomy
    rw [← List.length_pos_iff, List.length_take]
    omega
  · exact filled

theorem Sure.put (sure : Sure now) (roomy : now.ring.isDue = false) {data : Bytes}
    (filled : data ≠ []) : ∃ count after, now.put data = (.ok (count + 1), after) := by
  obtain ⟨behaviour, behaves, accepts, -⟩ := sure
  obtain ⟨held, found, rfl⟩ := Option.map_eq_some_iff.mp behaves
  obtain ⟨limit, answer, positive⟩ := accepts held.writeCalls
  have offered := List.length_pos_iff.mpr (offer_ne_nil roomy filled)
  have some : 0 < ((now.offer data).take (limit.getD (now.offer data).length)).length := by
    rw [List.length_take]
    cases limit with
    | none => simpa using offered
    | some limit =>
      have : limit ≠ 0 := fun zero => positive (congrArg _ zero)
      simp only [Option.getD_some]
      omega
  obtain ⟨count, equal⟩ := Nat.exists_eq_add_one.mpr some
  have wrote : (now.storage.write now.destination (now.offer data)).1 = .ok (count + 1) := by
    simp only [Storage.write, found, File.write, answer, equal]
  cases result : now.put data with
  | mk outcome after =>
    cases outcome with
    | error error =>
      obtain ⟨_, _, failed, -⟩ := put_failed result
      rw [failed] at wrote
      cases wrote
    | ok taken =>
      obtain ⟨_, _, took, -⟩ := put_taken result
      rw [took] at wrote
      cases wrote
      exact ⟨count, after, rfl⟩

theorem Sure.write (sure : Sure now) (limited : 0 < now.ring.limit) (roomy : now.ring.isDue = false)
    (data : Bytes) : ∃ last, now.write data = (.ok (), last) ∧ last.ring.isDue = false := by
  fun_induction Writer.write now data with
  | case1 writer => exact ⟨writer, rfl, roomy⟩
  | case2 writer data more error after wrapped =>
    obtain ⟨_, done⟩ := sure.wrap
    cases wrapped.symm.trans done
  | case3 writer data more _ after wrapped error last put =>
    obtain ⟨_, _, took⟩ := (sure.kept (kept_of_wrap wrapped)).put (isDue_of_wrap limited wrapped) more
    cases put.symm.trans took
  | case4 writer data more _ after wrapped last put =>
    obtain ⟨_, _, took⟩ := (sure.kept (kept_of_wrap wrapped)).put (isDue_of_wrap limited wrapped) more
    cases put.symm.trans took
  | case5 writer data more _ after wrapped taken wrote put error last again =>
    obtain ⟨_, done⟩ := ((sure.kept (kept_of_wrap wrapped)).kept (kept_of_put put)).wrap
    cases again.symm.trans done
  | case6 writer data more _ after wrapped taken wrote put _ last again ih =>
    have second := (kept_of_wrap wrapped).trans (kept_of_put put)
    have third := second.trans (kept_of_wrap again)
    exact ih (sure.kept third) (third.limit ▸ limited)
      (isDue_of_wrap (second.limit ▸ limited) again)

def writeAll (writer : Writer) (pieces : List Bytes) : Writer :=
  pieces.foldl (fun writer piece => (writer.write piece).2) writer

def acceptedAll (writer : Writer) : List Bytes → List Bytes
  | [] => []
  | piece :: later => writer.accepted piece :: (writer.write piece).2.acceptedAll later

theorem acceptedAll_fronts (writer : Writer) (pieces : List Bytes) :
    List.Forall₂ (· <+: ·) (writer.acceptedAll pieces) pieces := by
  induction pieces generalizing writer with
  | nil => exact .nil
  | cons piece later ih => exact .cons (writer.accepted_front piece) (ih _)

theorem Circles.writeAll (circles : Circles start file now taken) (limited : 0 < start.ring.limit)
    (pieces : List Bytes) :
    Circles start file (now.writeAll pieces) (taken ++ (now.acceptedAll pieces).flatten) := by
  induction pieces generalizing now taken with
  | nil =>
    rw [acceptedAll, List.flatten_nil, List.append_nil]
    exact circles
  | cons piece later ih =>
    rw [acceptedAll, List.flatten_cons, ← List.append_assoc]
    exact ih (circles.write limited piece)

theorem counters_writeAll (writer : Writer) (pieces : List Bytes) :
    (writer.writeAll pieces).counters =
      writer.counters.add (writer.acceptedAll pieces).flatten.length := by
  induction pieces generalizing writer with
  | nil => rfl
  | cons piece later ih =>
    rw [acceptedAll, List.flatten_cons, List.length_append]
    refine (ih (writer.write piece).2).trans ?_
    rw [write_counters]
    simp only [Counters.add, Nat.add_assoc]

theorem Sure.writeAll (sure : Sure now) (limited : 0 < now.ring.limit)
    (roomy : now.ring.isDue = false) (pieces : List Bytes) :
    now.acceptedAll pieces = pieces ∧ (now.writeAll pieces).ring.isDue = false := by
  induction pieces generalizing now with
  | nil => exact ⟨rfl, roomy⟩
  | cons piece later ih =>
    obtain ⟨last, wrote, still⟩ := sure.write limited roomy piece
    have kept := now.write_kept piece
    rw [wrote] at kept
    obtain ⟨rest, ending⟩ := ih (sure.kept kept) (kept.limit ▸ limited) still
    refine ⟨?_, ?_⟩
    · rw [acceptedAll, accepted_of_ok wrote, wrote, rest]
    · rw [Writer.writeAll, List.foldl_cons, wrote]
      exact ending

/--
Writes to an empty file in a ring of `limit` bytes, whatever becomes of the calls made to the file. The
bytes taken of each piece are its front. The destination stands where the ring counts, never beyond the
limit; the file is as long as the bytes taken in all, up to the limit, and each of its places holds the
last of them that falls on it; both counters grow by these bytes, and the file was rewound as often as
they fill the limit, once less as long as the last rewind is owed. Where nothing fails, everything is
taken and no rewind is owed.
-/
theorem writeAll_circular (writer : Writer) {file : File} {limit : Nat}
    (found : writer.storage.files[writer.destination.file]? = some file)
    (empty : file.content.toList = []) (atStart : writer.destination.position = 0)
    (fresh : writer.ring.sinceWrap = 0) (sized : writer.ring.limit = limit) (limited : 0 < limit)
    (pieces : List Bytes) :
    let last := writer.writeAll pieces
    let taken := (writer.acceptedAll pieces).flatten
    List.Forall₂ (· <+: ·) (writer.acceptedAll pieces) pieces
      ∧ last.destination.position = last.ring.sinceWrap
      ∧ last.ring.sinceWrap ≤ limit
      ∧ last.counters = writer.counters.add taken.length
      ∧ (∃ held rounds, last.storage.files[writer.destination.file]? = some held
        ∧ held.content.size = min taken.length limit
        ∧ (∀ place < held.content.size, ∃ index < taken.length, index % limit = place
          ∧ held.content.toList[place]? = taken[index]?
          ∧ ∀ other < taken.length, other % limit = place → other ≤ index)
        ∧ last.ring.wraps = writer.ring.wraps + rounds
        ∧ held.rewinds = file.rewinds + rounds
        ∧ rounds = if last.ring.isDue then taken.length / limit - 1 else taken.length / limit)
      ∧ (file.behaviour.Accepts → (∀ call, file.behaviour.rewind call = .ok ()) →
        last.ring.sinceWrap = taken.length % limit ∧ writer.acceptedAll pieces = pieces) := by
  subst sized
  intro last taken
  have start : Circles writer file writer [] := by
    refine ⟨.refl writer, atStart.trans fresh.symm, fresh ▸ Nat.zero_le _, 0, file, found,
      ⟨?_, nofun⟩, ?_, rfl, rfl⟩
    · rw [empty, List.length_nil, Nat.zero_min]
    · rw [fresh, List.length_nil, Nat.zero_mul]
  have circles : Circles writer file last taken := start.writeAll limited pieces
  have idle : writer.ring.isDue = false := by
    simp [Ring.isDue, fresh, Nat.not_le.mpr limited]
  obtain ⟨rounds, held, stored, image, filled, wraps, rewinds⟩ := circles.turned
  rw [circles.kept.file] at stored
  have size := image.length
  rw [Packed.length_toList] at size
  refine ⟨acceptedAll_fronts writer pieces, circles.stands, circles.bound,
    counters_writeAll writer pieces,
    ⟨held, rounds, stored, size, ?_, wraps, rewinds, ?_⟩, ?_⟩
  · intro place inside
    rw [← Packed.length_toList] at inside
    obtain ⟨index, before, falls, same, last⟩ := image.last limited inside
    exact ⟨index, before, falls, same, last⟩
  · have due := circles.isDue_iff limited
    split
    · next owed =>
      rw [filled, due.mp owed, ← Nat.succ_mul, Nat.mul_div_cancel _ limited]
      rfl
    · next settled =>
      have below : last.ring.sinceWrap < writer.ring.limit :=
        Nat.lt_of_le_of_ne circles.bound fun full => settled (due.mpr full)
      rw [filled, Nat.add_comm, Nat.add_mul_div_right _ _ limited, Nat.div_eq_of_lt below, Nat.zero_add]
  · intro accepts rewound
    have sure : Sure writer := ⟨file.behaviour, by rw [behaviour?, found]; rfl, accepts, rewound⟩
    obtain ⟨all, settled⟩ := sure.writeAll limited idle pieces
    have below : last.ring.sinceWrap < writer.ring.limit := by
      refine Nat.lt_of_le_of_ne circles.bound fun full => ?_
      exact Bool.false_ne_true (settled.symm.trans ((circles.isDue_iff limited).mpr full))
    refine ⟨?_, all⟩
    rw [filled, Nat.mul_add_mod_self_right, Nat.mod_eq_of_lt below]

def troubled : Behaviour where
  write
    | 2 => .error (.staged "scripted write failure")
    | 5 => .ok (some 0)
    | _ => .ok (some 3)
  rewind
    | 0 | 3 => .error (.staged "scripted rewind failure")
    | _ => .ok ()
  close := .ok ()

def troubledWriter : Writer :=
  ⟨⟨4, 0, 0⟩, .zero, ⟨0, 0, "ring.ts"⟩, ((Storage.empty []).addFile "ring.ts" troubled).2⟩

def troubledPieces : List Bytes :=
  [[1, 2, 3, 4, 5, 6], [7, 8], [9, 10, 11, 12], [13, 14], [15, 16, 17, 18, 19, 20]]

/-- The limit is filled three times, and the last rewind is owed. -/
theorem writeAll_circular_troubled :
    troubledWriter.storage.files[troubledWriter.destination.file]? = some (.new troubled)
      ∧ troubledWriter.destination.position = 0 ∧ troubledWriter.ring.sinceWrap = 0
      ∧ troubledWriter.ring.limit = 4 ∧ 0 < 4
      ∧ troubledWriter.acceptedAll troubledPieces =
        [[1, 2, 3, 4], [], [9, 10, 11, 12], [], [15, 16, 17, 18]]
      ∧ (troubledWriter.writeAll troubledPieces).destination.position = 4
      ∧ (troubledWriter.writeAll troubledPieces).counters = ⟨12, 12⟩
      ∧ ∃ held, (troubledWriter.writeAll troubledPieces).storage.files[0]? = some held
        ∧ held.content.size = 4 ∧ held.content.toList[1]? = some 16 ∧ held.rewinds = 2 := by
  have given : troubledWriter.acceptedAll troubledPieces =
      [[1, 2, 3, 4], [], [9, 10, 11, 12], [], [15, 16, 17, 18]] := by decide +kernel
  have owed : (troubledWriter.writeAll troubledPieces).ring.isDue = true := by decide +kernel
  have full : (troubledWriter.writeAll troubledPieces).ring.sinceWrap = 4 := by decide +kernel
  have stored : troubledWriter.storage.files[troubledWriter.destination.file]? =
      some (.new troubled) := rfl
  obtain ⟨-, stands, -, counted, ⟨held, rounds, found, size, image, -, rewinds, times⟩, -⟩ :=
    writeAll_circular troubledWriter stored rfl rfl rfl rfl (by decide) troubledPieces
  rw [given] at counted size image times
  rw [owed] at times
  have place : 1 < held.content.size := by
    rw [size]
    decide
  obtain ⟨index, before, falls, same, last⟩ := image 1 place
  have newest : index = 9 := by
    have late := last 9 (by decide) (by decide)
    change index < 12 at before
    change index % 4 = 1 at falls
    omega
  refine ⟨rfl, rfl, rfl, rfl, by decide, given, stands.trans full, counted, held, found, size, ?_, ?_⟩
  · rw [same, newest]
    rfl
  · rw [rewinds, times]
    rfl

end Writer

end MpegRecorder.Output
