import MpegRecorder.Capture.Feeder
import MpegRecorder.Proofs.Capture.Passage

/-!
A feeder cuts the stream, not the pieces. What is still to come of a feeder is the cut of the bytes it
keeps and of those that follow; neither aligning these nor pushing a piece changes that, so the pieces of
a stream leave no trace in the chunks, the bytes that wait, the alignment or the count of dropped bytes.
-/

namespace MpegRecorder.Capture

open Transport

namespace Alignment

/-- What comes of a window and of the bytes behind it. -/
def outlook (size unit : Nat) (positive : 0 < unit) (alignment : Alignment) (stream : Bytes) : Passage :=
  (resume size unit positive alignment.synced stream).skip alignment.dropped

/--
An aligned window starts with a sync byte, unless it is empty; in one that is not aligned, all but the
last two packets were looked at.
-/
def Sound (size : Nat) (alignment : Alignment) (window : Bytes) : Prop :=
  if alignment.synced then window = [] ∨ window.head? = some 0x47 else window.length ≤ 2 * size

variable {size unit : Nat} {positive : 0 < unit} {alignment : Alignment} {window : Bytes}

theorem Sound.empty (size : Nat) (alignment : Alignment) : alignment.Sound size [] := by
  unfold Sound
  split
  · exact .inl rfl
  · exact Nat.zero_le _

theorem Sound.outlook (sound : alignment.Sound size window) (short : window.length < unit) :
    alignment.outlook size unit positive window = ⟨[], window, alignment.synced, alignment.dropped⟩ := by
  unfold Sound at sound
  unfold Alignment.outlook resume
  split at sound
  · next synced =>
    rw [if_pos synced, synced]
    rcases sound with rfl | lead
    · rw [cut_nil]
      rfl
    · rw [cut_of_short lead short]
      rfl
  · next lost =>
    rw [if_neg lost, seek_of_none (boundary?_of_length_le sound), Nat.sub_eq_zero_of_le sound,
      List.drop_zero, eq_false_of_ne_true lost]
    rfl

theorem outlook_of_lost (filled : window ≠ [])
    (lost : ¬ (alignment.synced ∧ window.head? = some 0x47)) (more : Bytes) :
    alignment.outlook size unit positive (window ++ more) =
      (seek size unit positive (window ++ more)).skip alignment.dropped := by
  unfold outlook resume
  split
  · next synced =>
    have other : (window ++ more).head? ≠ some 0x47 := by
      rw [List.head?_append_of_ne_nil _ filled]
      exact fun lead => lost ⟨synced, lead⟩
    rw [cut_of_lost other (List.append_ne_nil_of_left_ne_nil filled more)]
  · rfl

theorem outlook_settle (alignment : Alignment) (window : Packed) (more : Bytes) :
    (alignment.settle size window).1.outlook size unit positive
        ((alignment.settle size window).2.toList ++ more) =
      alignment.outlook size unit positive (window.toList ++ more) := by
  unfold settle
  split
  · rfl
  · next unsettled =>
    rw [← Packed.head?_toList, not_or] at unsettled
    have filled : window.toList ≠ [] := fun empty => unsettled.1 (empty ▸ rfl)
    rw [outlook_of_lost filled unsettled.2 more, Sync.scan, find_eq_boundary?]
    cases found : boundary? size window.toList with
    | none =>
      rw [seek_append_of_none found, Passage.skip_skip, Packed.toList_drop]
      rfl
    | some start =>
      rw [seek_append_of_some found, Passage.skip_skip, Packed.toList_drop]
      rfl

theorem sound_settle (size : Nat) (alignment : Alignment) (window : Packed) :
    (alignment.settle size window).1.Sound size (alignment.settle size window).2.toList := by
  unfold settle
  split
  · next settled =>
    rw [← Packed.head?_toList] at settled
    rcases settled with none | ⟨synced, lead⟩
    · rw [List.head?_eq_none_iff.mp none]
      exact Sound.empty size alignment
    · rw [Sound, if_pos synced]
      exact .inr lead
  · rw [Sync.scan, find_eq_boundary?]
    cases found : boundary? size window.toList with
    | none =>
      simp only [Sound, Bool.false_eq_true, if_false, Packed.toList_drop, List.length_drop]
      omega
    | some start =>
      obtain ⟨⟨lead, -, -⟩, -⟩ := boundary?_eq_some_iff.mp found
      simp only [Sound, if_true, Packed.toList_drop, List.head?_drop]
      exact .inr lead

/-- A whole unit of a sound window is taken: one that is not aligned is never that long. -/
theorem Sound.outlook_whole (sound : alignment.Sound size window) (confirms : Sync.span size ≤ unit)
    (whole : window.length = unit) (more : Bytes) :
    alignment.outlook size unit positive (window ++ more) =
      (alignment.outlook size unit positive more).emit [window] := by
  unfold Sound at sound
  unfold Sync.span at confirms
  split at sound
  · next synced =>
    have filled : window ≠ [] := fun empty => by
      rw [empty, List.length_nil] at whole
      omega
    have lead : (window ++ more).head? = some 0x47 := by
      rw [List.head?_append_of_ne_nil _ filled]
      exact sound.resolve_left filled
    have long : unit ≤ (window ++ more).length := by
      rw [List.length_append, whole]
      exact Nat.le_add_right ..
    unfold Alignment.outlook resume
    rw [if_pos synced, if_pos synced, cut_of_long lead long, List.take_left' whole,
      List.drop_left' whole, Passage.skip_emit]
  · -- a window without a boundary is no longer than two packets, and a unit is
    omega

end Alignment

namespace Feeder

theorem unit_pos (feeder : Feeder) : 0 < feeder.unit :=
  Nat.zero_lt_of_lt feeder.pending_lt

def Sound (feeder : Feeder) : Prop :=
  feeder.alignment.Sound feeder.packetSize feeder.pending.toList

def outlook (feeder : Feeder) (stream : Bytes) : Passage :=
  feeder.alignment.outlook feeder.packetSize feeder.unit feeder.unit_pos
    (feeder.pending.toList ++ stream)

theorem outlook_extend (feeder : Feeder) (input more : Bytes) :
    (feeder.extend input).1.outlook feeder.packetSize feeder.unit feeder.unit_pos
        ((feeder.extend input).2.toList ++ (input.drop feeder.room ++ more)) =
      feeder.outlook (input ++ more) := by
  rw [extend, Alignment.outlook_settle, Packed.toList_append, List.append_assoc,
    ← List.append_assoc (input.take _), List.take_append_drop]
  rfl

theorem outlook_of_passes {feeder : Feeder} {input : Bytes} (passes : feeder.passes input = true)
    (more : Bytes) :
    feeder.outlook (input ++ more) =
      (feeder.outlook (input.drop feeder.unit ++ more)).emit [input.take feeder.unit] := by
  simp only [Feeder.passes, Bool.and_eq_true, decide_eq_true_eq] at passes
  obtain ⟨⟨⟨nothing, synced⟩, lead⟩, whole⟩ := passes
  have empty : feeder.pending.toList = [] := by
    rw [← List.length_eq_zero_iff, Packed.length_toList, nothing]
  have behind : (input ++ more).head? = some 0x47 := by
    rw [List.head?_append, lead]
    rfl
  have inside : feeder.unit ≤ input.length := by
    rw [← whole]
    exact List.length_take_le' ..
  have long : feeder.unit ≤ (input ++ more).length := by
    rw [List.length_append]
    exact Nat.le_add_right_of_le inside
  unfold outlook Alignment.outlook resume
  rw [empty, List.nil_append, List.nil_append, if_pos synced, if_pos synced, cut_of_long behind long,
    List.take_append_of_le_length inside, List.drop_append_of_le_length inside, Passage.skip_emit]

def passage (fed : List Bytes × Feeder) : Passage :=
  ⟨fed.1, fed.2.pending.toList, fed.2.alignment.synced, fed.2.dropped⟩

theorem Sound.outlook {feeder : Feeder} (sound : feeder.Sound) :
    feeder.outlook [] = passage ([], feeder) := by
  have short : feeder.pending.toList.length < feeder.unit := by
    rw [Packed.length_toList]
    exact feeder.pending_lt
  rw [Feeder.outlook, List.append_nil]
  exact Alignment.Sound.outlook sound short

structure Alike (feeder next : Feeder) : Prop where
  packetSize : next.packetSize = feeder.packetSize
  unit : next.unit = feeder.unit
  sound : next.Sound

/-- A piece moves chunks from what is to come to what was given, and nothing else. -/
theorem push_outlook (feeder : Feeder) (input more : Bytes) (sound : feeder.Sound)
    (confirms : Sync.span feeder.packetSize ≤ feeder.unit) :
    feeder.outlook (input ++ more) =
        ((feeder.push input).2.outlook more).emit (feeder.push input).1
      ∧ Alike feeder (feeder.push input).2 := by
  -- a step takes a unit as it is, or tops up the one under way, which then is complete or is not
  fun_induction push feeder input with
  | case1 feeder => exact ⟨rfl, rfl, rfl, sound⟩
  | case2 feeder byte later passes result ih =>
    obtain ⟨same, alike⟩ := ih sound confirms
    rw [outlook_of_passes passes, same, Passage.emit_emit]
    exact ⟨rfl, alike⟩
  | case3 feeder byte later slow settled rest incomplete ih =>
    obtain ⟨same, alike⟩ := ih (Alignment.sound_settle ..) confirms
    rw [← outlook_extend]
    exact ⟨same, alike.packetSize, alike.unit, alike.sound⟩
  | case4 feeder byte later slow settled rest complete result ih =>
    obtain ⟨same, alike⟩ := ih (Alignment.Sound.empty ..) confirms
    have whole : settled.2.toList.length = feeder.unit := by
      rw [Packed.length_toList]
      exact Decidable.not_not.mp complete
    have sound : settled.1.Sound feeder.packetSize settled.2.toList := Alignment.sound_settle ..
    refine ⟨?_, alike.packetSize, alike.unit, alike.sound⟩
    calc feeder.outlook (byte :: later ++ more)
      _ = settled.1.outlook feeder.packetSize feeder.unit feeder.unit_pos
            (settled.2.toList ++ (rest ++ more)) := (outlook_extend ..).symm
      _ = ((feeder.withNothing settled.1).outlook (rest ++ more)).emit [settled.2.toList] :=
        sound.outlook_whole confirms whole _
      _ = (result.2.outlook more).emit (settled.2.toList :: result.1) := by
        rw [same, Passage.emit_emit]
        rfl

def pushAll (feeder : Feeder) : List Bytes → List Bytes × Feeder
  | [] => ([], feeder)
  | piece :: later =>
    let first := feeder.push piece
    let rest := first.2.pushAll later
    (first.1 ++ rest.1, rest.2)

theorem pushAll_outlook (feeder : Feeder) (pieces : List Bytes) (sound : feeder.Sound)
    (confirms : Sync.span feeder.packetSize ≤ feeder.unit) :
    feeder.outlook pieces.flatten = passage (feeder.pushAll pieces) := by
  induction pieces generalizing feeder with
  | nil => exact sound.outlook
  | cons piece later ih =>
    obtain ⟨same, alike⟩ := push_outlook feeder piece later.flatten sound confirms
    rw [← alike.packetSize, ← alike.unit] at confirms
    rw [List.flatten_cons, same, ih _ alike.sound confirms]
    rfl

/--
However a stream is cut into pieces, a new feeder that takes them in order ends as the cut of the whole
stream says: in its chunks one by one, the bytes that wait, its alignment and the count of dropped bytes.
Every chunk is a whole unit that starts with a sync byte, and other pieces of the same stream give the
same.
-/
theorem pushAll_new_eq_cut (size unit : Nat) (positive : 0 < unit) (confirms : Sync.span size ≤ unit)
    (pieces : List Bytes) :
    passage ((new size unit positive).pushAll pieces) = cut size unit positive pieces.flatten
      ∧ (∀ chunk ∈ ((new size unit positive).pushAll pieces).1,
        chunk.length = unit ∧ chunk.head? = some 0x47)
      ∧ ∀ others, others.flatten = pieces.flatten →
        passage ((new size unit positive).pushAll others) =
          passage ((new size unit positive).pushAll pieces) := by
  have reference (given : List Bytes) :
      passage ((new size unit positive).pushAll given) = cut size unit positive given.flatten := by
    have fresh : (new size unit positive).Sound := Alignment.Sound.empty ..
    rw [← pushAll_outlook _ _ fresh confirms]
    exact Passage.skip_zero _
  refine ⟨reference pieces, ?_, ?_⟩
  · intro chunk given
    have taken : chunk ∈ (cut size unit positive pieces.flatten).chunks := by
      rw [← reference pieces]
      exact given
    exact cut_chunks chunk taken
  · intro others same
    rw [reference others, reference pieces, same]

/-- Each piece ends between the bytes that confirm the first boundary. -/
theorem pushAll_new_eq_cut_split :
    0 < 6 ∧ Sync.span 2 ≤ 6 ∧
      passage ((new 2 6 (by decide)).pushAll [[0, 0x47], [1, 0x47, 0], [0x47, 2, 0x47, 3]]) =
        ⟨[[0x47, 1, 0x47, 0, 0x47, 2]], [0x47, 3], true, 1⟩ := by
  refine ⟨by decide, by decide, ?_⟩
  have reference := (pushAll_new_eq_cut 2 6 (by decide) (by decide)
    [[0, 0x47], [1, 0x47, 0], [0x47, 2, 0x47, 3]]).1
  rw [reference]
  decide +kernel

end Feeder

end MpegRecorder.Capture
