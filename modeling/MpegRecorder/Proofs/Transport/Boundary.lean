import Mathlib.Data.List.Basic
import MpegRecorder.Transport.Sync

/-!
The first packet boundary of a stream: the least position with a sync byte at it, one packet behind it
and two packets behind it. More bytes never move a boundary that was found, and where none was found,
only the last two packets can still start one. So a scan that drops what can start no packet and goes on
with more bytes comes to what one scan of all of them finds.
-/

namespace MpegRecorder.Transport

/-- Three sync bytes sit exactly one packet apart, the first of them at `start`. -/
def Marked (size : Nat) (view : Bytes) (start : Nat) : Prop :=
  view[start]? = some 0x47 ∧ view[start + size]? = some 0x47 ∧ view[start + 2 * size]? = some 0x47

instance (size : Nat) (view : Bytes) : DecidablePred (Marked size view) := by
  unfold Marked
  infer_instance

def boundary? (size : Nat) (view : Bytes) : Option Nat :=
  (List.range view.length).find? fun start => decide (Marked size view start)

variable {size start : Nat} {view more : Bytes}

theorem Marked.lt_length (marked : Marked size view start) : start + 2 * size < view.length := by
  obtain ⟨-, -, last⟩ := marked
  exact (List.getElem?_eq_some_iff.mp last).1

theorem boundary?_eq_some_iff :
    boundary? size view = some start
      ↔ Marked size view start ∧ ∀ earlier, earlier < start → ¬ Marked size view earlier := by
  rw [boundary?, List.find?_range_eq_some]
  constructor
  · rintro ⟨marked, -, least⟩
    refine ⟨of_decide_eq_true marked, ?_⟩
    intro earlier before
    simpa using least earlier before
  · rintro ⟨marked, least⟩
    have bound := marked.lt_length
    refine ⟨decide_eq_true marked, List.mem_range.mpr (by omega), ?_⟩
    intro earlier before
    simpa using least earlier before

theorem boundary?_eq_none_iff :
    boundary? size view = none ↔ ∀ start, ¬ Marked size view start := by
  rw [boundary?, List.find?_range_eq_none]
  constructor
  · intro none start marked
    have bound := marked.lt_length
    have unmarked := none start (by omega)
    simp [marked] at unmarked
  · intro none start _
    simpa using none start

theorem marked_cons (byte : UInt8) :
    Marked size (byte :: view) (start + 1) ↔ Marked size view start := by
  simp only [Marked, Nat.add_right_comm start 1, List.getElem?_cons_succ]

theorem boundary?_cons (byte : UInt8) (view : Bytes) :
    boundary? size (byte :: view) =
      if Marked size (byte :: view) 0 then some 0 else (boundary? size view).map (· + 1) := by
  have shifted : (fun start => decide (Marked size (byte :: view) start)) ∘ Nat.succ
      = fun start => decide (Marked size view start) := by
    funext start
    exact decide_eq_decide.mpr (marked_cons byte)
  rw [boundary?, boundary?, List.length_cons, List.range_succ_eq_map, List.find?_cons, List.find?_map,
    shifted]
  by_cases marked : Marked size (byte :: view) 0
  · rw [decide_eq_true marked, if_pos marked]
  · rw [decide_eq_false marked, if_neg marked]

theorem confirmed_iff : Sync.confirmed size view = true ↔ Marked size view 0 := by
  simp [Sync.confirmed, Marked, syncByte, and_assoc]

theorem findFrom_eq (size offset : Nat) (view : Bytes) :
    Sync.findFrom size offset view = (boundary? size view).map (offset + ·) := by
  induction view generalizing offset with
  | nil => rfl
  | cons byte rest ih =>
    rw [Sync.findFrom, boundary?_cons]
    by_cases marked : Marked size (byte :: rest) 0
    · simp [confirmed_iff.mpr marked, marked]
    · have unconfirmed : ¬ Sync.confirmed size (byte :: rest) = true := mt confirmed_iff.mp marked
      rw [if_neg unconfirmed, if_neg marked, ih, Option.map_map]
      congr 1
      funext found
      simp only [Function.comp]
      omega

theorem find_eq_boundary? (size : Nat) (view : Bytes) : Sync.find size view = boundary? size view := by
  rw [Sync.find, findFrom_eq]
  simp

theorem marked_append_of_lt (inside : start + 2 * size < view.length) (more : Bytes) :
    Marked size (view ++ more) start ↔ Marked size view start := by
  rw [Marked, List.getElem?_append_left (by omega), List.getElem?_append_left (by omega),
    List.getElem?_append_left inside, Marked]

theorem marked_drop (skip : Nat) :
    Marked size (view.drop skip) start ↔ Marked size view (skip + start) := by
  simp only [Marked, List.getElem?_drop, Nat.add_assoc]

theorem boundary?_append_of_some (found : boundary? size view = some start) (more : Bytes) :
    boundary? size (view ++ more) = some start := by
  obtain ⟨marked, least⟩ := boundary?_eq_some_iff.mp found
  have bound := marked.lt_length
  refine boundary?_eq_some_iff.mpr ⟨(marked_append_of_lt bound more).mpr marked, ?_⟩
  intro earlier before again
  exact least earlier before ((marked_append_of_lt (by omega) more).mp again)

theorem boundary?_drop {skip : Nat} (unmarked : ∀ earlier, earlier < skip → ¬ Marked size view earlier) :
    boundary? size view = (boundary? size (view.drop skip)).map (skip + ·) := by
  cases found : boundary? size (view.drop skip) with
  | none =>
    have none := boundary?_eq_none_iff.mp found
    refine boundary?_eq_none_iff.mpr fun start marked => ?_
    by_cases before : start < skip
    · exact unmarked start before marked
    · obtain ⟨behind, rfl⟩ := Nat.exists_eq_add_of_le (Nat.le_of_not_lt before)
      exact none behind ((marked_drop skip).mpr marked)
  | some start =>
    obtain ⟨marked, least⟩ := boundary?_eq_some_iff.mp found
    rw [Option.map_some]
    refine boundary?_eq_some_iff.mpr ⟨(marked_drop skip).mp marked, ?_⟩
    intro earlier before again
    by_cases early : earlier < skip
    · exact unmarked earlier early again
    · obtain ⟨behind, rfl⟩ := Nat.exists_eq_add_of_le (Nat.le_of_not_lt early)
      exact least behind (by omega) ((marked_drop skip).mpr again)

/-- Where nothing was found, only the last two packets need to be looked at again. -/
theorem boundary?_append_of_none (none : boundary? size view = none) (more : Bytes) :
    boundary? size (view ++ more) =
      (boundary? size (view.drop (view.length - 2 * size) ++ more)).map
        (view.length - 2 * size + ·) := by
  have unmarked := boundary?_eq_none_iff.mp none
  rw [← List.drop_append_of_le_length (Nat.sub_le ..)]
  apply boundary?_drop
  intro earlier before marked
  exact unmarked earlier ((marked_append_of_lt (by omega) more).mp marked)

theorem boundary?_of_length_le (short : view.length ≤ 2 * size) : boundary? size view = none := by
  refine boundary?_eq_none_iff.mpr fun start marked => ?_
  have bound := marked.lt_length
  omega

namespace Sync

def Scan.shift (count : Nat) : Scan → Scan
  | .found start => .found (count + start)
  | .undecided droppable => .undecided (count + droppable)

theorem scan_of_some (found : boundary? size view = some start) : scan size view = .found start := by
  rw [scan, find_eq_boundary?, found]

theorem scan_of_none (none : boundary? size view = none) :
    scan size view = .undecided (view.length - 2 * size) := by
  rw [scan, find_eq_boundary?, none]

theorem scan_eq_found_iff : scan size view = .found start ↔ boundary? size view = some start := by
  refine ⟨fun scanned => ?_, scan_of_some⟩
  cases found : boundary? size view with
  | none =>
    rw [scan_of_none found] at scanned
    cases scanned
  | some other =>
    rw [scan_of_some found] at scanned
    cases scanned
    rfl

theorem scan_eq_undecided_iff {droppable : Nat} :
    scan size view = .undecided droppable ↔
      boundary? size view = none ∧ droppable = view.length - 2 * size := by
  constructor
  · intro scanned
    cases found : boundary? size view with
    | none =>
      rw [scan_of_none found] at scanned
      cases scanned
      exact ⟨rfl, rfl⟩
    | some start =>
      rw [scan_of_some found] at scanned
      cases scanned
  · rintro ⟨none, rfl⟩
    exact scan_of_none none

theorem scan_append_of_none (none : boundary? size view = none) (more : Bytes) :
    scan size (view ++ more) =
      (scan size (view.drop (view.length - 2 * size) ++ more)).shift (view.length - 2 * size) := by
  have shifted := boundary?_append_of_none none more
  cases found : boundary? size (view.drop (view.length - 2 * size) ++ more) with
  | none =>
    rw [found, Option.map_none] at shifted
    rw [scan_of_none found, scan_of_none shifted]
    simp only [Scan.shift, Scan.undecided.injEq, List.length_append, List.length_drop]
    omega
  | some start =>
    rw [found, Option.map_some] at shifted
    rw [scan_of_some found, scan_of_some shifted]
    rfl

/--
A scan finds the least position where three sync bytes sit one packet apart. Without one, all bytes but
those of the last two packets can go; and in either case more bytes lead to the same scan, whether it
starts anew or goes on with what was kept.
-/
theorem scan_exact (size : Nat) (view more : Bytes) :
    (∀ start, scan size view = .found start ↔
      Marked size view start ∧ ∀ earlier, earlier < start → ¬ Marked size view earlier) ∧
    (∀ droppable, scan size view = .undecided droppable ↔
      (∀ start, ¬ Marked size view start) ∧ droppable = view.length - 2 * size) ∧
    scan size (view ++ more) =
      match scan size view with
      | .found start => .found start
      | .undecided droppable => (scan size (view.drop droppable ++ more)).shift droppable := by
  refine ⟨fun start => scan_eq_found_iff.trans boundary?_eq_some_iff, fun droppable => ?_, ?_⟩
  · rw [scan_eq_undecided_iff, boundary?_eq_none_iff]
  · cases found : boundary? size view with
    | none =>
      rw [scan_of_none found]
      exact scan_append_of_none found more
    | some start =>
      rw [scan_of_some found]
      exact scan_of_some (boundary?_append_of_some found more)

end Sync

end MpegRecorder.Transport
