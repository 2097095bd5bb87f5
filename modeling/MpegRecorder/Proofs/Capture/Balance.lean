import MpegRecorder.Proofs.Capture.Replay

/-!
No byte goes astray in a feeder. What it was given went into a chunk, waits for more, or was counted as
dropped; and what was counted once stays counted.
-/

namespace MpegRecorder.Capture

open Transport

namespace Passage

/-- How long the stream was that came to this. -/
def extent (passage : Passage) : Nat :=
  passage.chunks.flatten.length + passage.rest.length + passage.dropped

variable (passage : Passage)

theorem extent_emit (chunks : List Bytes) :
    (passage.emit chunks).extent = chunks.flatten.length + passage.extent := by
  simp only [extent, emit, List.flatten_append, List.length_append, Nat.add_assoc]

theorem extent_skip (count : Nat) : (passage.skip count).extent = count + passage.extent := by
  simp only [extent, skip]
  omega

end Passage

variable {size unit : Nat} {positive : 0 < unit} {stream : Bytes}

theorem boundary_le {start : Nat} (found : boundary? size stream = some start) :
    start ≤ stream.length := by
  have bound := (boundary?_eq_some_iff.mp found).1.lt_length
  omega

theorem extent_cut : (cut size unit positive stream).extent = stream.length := by
  fun_induction cut size unit positive stream with
  | case1 => rfl
  | case2 => simp only [Passage.extent, List.flatten_nil, List.length_nil, Nat.zero_add, Nat.add_zero]
  | case3 later long ih =>
    rw [Passage.extent_emit, ih, List.flatten_singleton, ← List.length_append, List.take_append_drop]
  | case4 =>
    simp only [Passage.extent, List.flatten_nil, List.length_nil, List.length_drop]
    omega
  | case5 byte later lost start found ih =>
    have inside := boundary_le found
    rw [Passage.extent_skip, ih, List.length_drop]
    omega

theorem Alignment.settle_balance (size : Nat) (alignment : Alignment) (window : Packed) :
    (alignment.settle size window).1.dropped + (alignment.settle size window).2.size =
      alignment.dropped + window.size := by
  unfold settle
  split
  · rfl
  · rw [Sync.scan, find_eq_boundary?]
    cases found : boundary? size window.toList with
    | none =>
      rw [Packed.length_toList]
      simp only [Packed.size_drop]
      omega
    | some start =>
      have inside := boundary_le found
      rw [Packed.length_toList] at inside
      simp only [Packed.size_drop]
      omega

namespace Feeder

variable {feeder : Feeder}

theorem length_last (window : Packed) {count : Nat} (inside : count ≤ window.size) :
    (if count = 0 then [] else [(window.take count).toList]).flatten.length = count := by
  split
  · next nothing => rw [nothing, List.flatten_nil, List.length_nil]
  · rw [List.flatten_singleton, Packed.length_toList, Packed.size_take]
    omega

theorem finish_balance (feeder : Feeder) :
    feeder.finish.1.flatten.length + feeder.finish.2.dropped =
      feeder.dropped + feeder.pending.size := by
  have settled := feeder.alignment.settle_balance feeder.packetSize feeder.pending
  simp only [finish, dropped, withNothing]
  generalize feeder.alignment.settle feeder.packetSize feeder.pending = aligned at settled ⊢
  have inside := Nat.div_mul_le_self aligned.2.size feeder.packetSize
  split
  · rw [length_last _ inside]
    omega
  · rw [length_last _ (Nat.zero_le _)]
    omega

theorem Fit.dropped_le_push (fit : feeder.Fit) (input : Bytes) :
    feeder.dropped ≤ (feeder.push input).2.dropped := by
  have dropped : (feeder.push input).2.dropped = (feeder.outlook input).dropped :=
    congrArg Passage.dropped (fit.passage_push input)
  rw [dropped]
  exact Nat.le_add_right ..

/-- A new feeder passes a stream on, keeps it waiting or drops it. -/
theorem new_balance (confirms : Sync.span size ≤ unit) (stream : Bytes) :
    let fed := (new size unit positive).push stream
    fed.1.flatten.length + fed.2.pending.size + fed.2.dropped = stream.length := by
  have all : passage ((new size unit positive).push stream) = cut size unit positive stream := by
    rw [(Fit.new positive confirms).passage_push]
    exact Passage.skip_zero _
  have extent := congrArg Passage.extent all
  rw [extent_cut] at extent
  rw [← extent, Passage.extent, passage, Packed.length_toList]

end Feeder

end MpegRecorder.Capture
