import MpegRecorder.Proofs.Transport.Boundary

/-!
How a whole stream is cut into transfer units, without regard to the pieces in which it comes. A unit
that starts with a sync byte is taken as it is; elsewhere the stream is skipped up to the next boundary.
-/

namespace MpegRecorder.Capture

open Transport

/-- What a stream is cut into, and what is left at its end. -/
structure Passage where
  chunks : List Bytes
  /-- Bytes that wait for more. -/
  rest : Bytes
  /-- Whether the bytes that wait start on a boundary. -/
  synced : Bool
  /-- Bytes skipped. -/
  dropped : Nat
deriving Repr, DecidableEq

namespace Passage

def emit (passage : Passage) (chunks : List Bytes) : Passage :=
  { passage with chunks := chunks ++ passage.chunks }

def skip (passage : Passage) (count : Nat) : Passage :=
  { passage with dropped := count + passage.dropped }

variable (passage : Passage)

theorem emit_emit (first second : List Bytes) :
    (passage.emit second).emit first = passage.emit (first ++ second) := by
  simp only [emit, List.append_assoc]

theorem skip_skip (first second : Nat) :
    (passage.skip second).skip first = passage.skip (first + second) := by
  simp only [skip, Nat.add_assoc]

theorem skip_emit (chunks : List Bytes) (count : Nat) :
    (passage.emit chunks).skip count = (passage.skip count).emit chunks := rfl

theorem skip_zero : passage.skip 0 = passage := by
  simp only [skip, Nat.zero_add]

end Passage

variable {size unit : Nat} {stream more : Bytes}

theorem boundary_pos {byte : UInt8} {later : Bytes} {start : Nat} (lost : byte ≠ 0x47)
    (found : boundary? size (byte :: later) = some start) : 0 < start := by
  obtain ⟨⟨lead, -, -⟩, -⟩ := boundary?_eq_some_iff.mp found
  refine Nat.pos_of_ne_zero fun zero => ?_
  rw [zero] at lead
  exact lost (Option.some.inj lead)

/--
Cuts a stream that is taken to start on a boundary. At a sync byte the next unit is taken, if it is
there; elsewhere everything before the next boundary is skipped, or, where none is to be seen, all but
the bytes that may still start one.
-/
def cut (size unit : Nat) (positive : 0 < unit) (stream : Bytes) : Passage :=
  match stream with
  | [] => ⟨[], [], true, 0⟩
  | byte :: later =>
    if _ : byte = 0x47 then
      if (byte :: later).length < unit then ⟨[], byte :: later, true, 0⟩
      else (cut size unit positive ((byte :: later).drop unit)).emit [(byte :: later).take unit]
    else
      match found : boundary? size (byte :: later) with
      | none =>
        ⟨[], (byte :: later).drop ((byte :: later).length - 2 * size), false,
          (byte :: later).length - 2 * size⟩
      | some start => (cut size unit positive ((byte :: later).drop start)).skip start
termination_by stream.length
decreasing_by
  · simp only [List.length_drop, List.length_cons]
    omega
  · have := boundary_pos ‹_› found
    simp only [List.length_drop, List.length_cons]
    omega

/-- Cuts a stream whose next boundary is yet to be found. -/
def seek (size unit : Nat) (positive : 0 < unit) (stream : Bytes) : Passage :=
  match boundary? size stream with
  | none => ⟨[], stream.drop (stream.length - 2 * size), false, stream.length - 2 * size⟩
  | some start => (cut size unit positive (stream.drop start)).skip start

def resume (size unit : Nat) (positive : 0 < unit) (synced : Bool) (stream : Bytes) : Passage :=
  if synced then cut size unit positive stream else seek size unit positive stream

variable {positive : 0 < unit}

@[simp] theorem cut_nil : cut size unit positive [] = ⟨[], [], true, 0⟩ := by
  rw [cut]

theorem cut_of_short (lead : stream.head? = some 0x47) (short : stream.length < unit) :
    cut size unit positive stream = ⟨[], stream, true, 0⟩ := by
  cases stream with
  | nil => cases lead
  | cons byte later =>
    rw [cut, dif_pos (Option.some.inj lead), if_pos short]

theorem cut_of_long (lead : stream.head? = some 0x47) (long : unit ≤ stream.length) :
    cut size unit positive stream =
      (cut size unit positive (stream.drop unit)).emit [stream.take unit] := by
  cases stream with
  | nil => cases lead
  | cons byte later =>
    rw [cut, dif_pos (Option.some.inj lead), if_neg (Nat.not_lt.mpr long)]

theorem cut_of_lost (lost : stream.head? ≠ some 0x47) (filled : stream ≠ []) :
    cut size unit positive stream = seek size unit positive stream := by
  cases stream with
  | nil => exact absurd rfl filled
  | cons byte later =>
    have other : byte ≠ 0x47 := fun same => lost (congrArg some same)
    rw [cut, dif_neg other, seek]
    split <;> next found => simp only [found]

theorem seek_of_some {start : Nat} (found : boundary? size stream = some start) :
    seek size unit positive stream = (cut size unit positive (stream.drop start)).skip start := by
  rw [seek, found]

theorem seek_of_none (none : boundary? size stream = none) :
    seek size unit positive stream =
      ⟨[], stream.drop (stream.length - 2 * size), false, stream.length - 2 * size⟩ := by
  rw [seek, none]

theorem seek_append_of_some {start : Nat} (found : boundary? size stream = some start) (more : Bytes) :
    seek size unit positive (stream ++ more) =
      (cut size unit positive (stream.drop start ++ more)).skip start := by
  have inside : start ≤ stream.length := by
    have bound := (boundary?_eq_some_iff.mp found).1.lt_length
    omega
  rw [seek_of_some (boundary?_append_of_some found more), List.drop_append_of_le_length inside]

theorem seek_append_of_none (none : boundary? size stream = none) (more : Bytes) :
    seek size unit positive (stream ++ more) =
      (seek size unit positive (stream.drop (stream.length - 2 * size) ++ more)).skip
        (stream.length - 2 * size) := by
  have shifted := boundary?_append_of_none none more
  have front : (stream ++ more).drop (stream.length - 2 * size) =
      stream.drop (stream.length - 2 * size) ++ more :=
    List.drop_append_of_le_length (Nat.sub_le ..)
  cases found : boundary? size (stream.drop (stream.length - 2 * size) ++ more) with
  | none =>
    rw [found, Option.map_none] at shifted
    rw [seek_of_none shifted, seek_of_none found]
    simp only [Passage.skip, Passage.mk.injEq, true_and, ← front, List.drop_drop,
      List.length_append, List.length_drop]
    constructor
    · congr 1
      omega
    · omega
  | some start =>
    rw [found, Option.map_some] at shifted
    rw [seek_of_some shifted, seek_of_some found, Passage.skip_skip, ← front, List.drop_drop]

theorem cut_chunks (chunk : Bytes) (taken : chunk ∈ (cut size unit positive stream).chunks) :
    chunk.length = unit ∧ chunk.head? = some 0x47 := by
  fun_induction cut size unit positive stream with
  | case1 => cases taken
  | case2 => cases taken
  | case3 later long ih =>
    rcases List.mem_append.mp taken with now | further
    · rw [List.mem_singleton.mp now]
      constructor
      · exact List.length_take_of_le (Nat.le_of_not_lt long)
      · rw [List.head?_take, if_neg (Nat.pos_iff_ne_zero.mp positive), List.head?_cons]
    · exact ih further
  | case4 => cases taken
  | case5 byte later lost start found ih => exact ih taken

end MpegRecorder.Capture
