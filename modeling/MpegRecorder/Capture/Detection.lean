import MpegRecorder.Packed

/-!
The captured bytes that are retained until the container is known. The buffer starts at one limit
and doubles it up to a cap; when it is full there, its owner starts over.
-/

namespace MpegRecorder.Capture

structure Detection where
  retained : Packed
  limit : Nat
  cap : Nat
  size_le : retained.size ≤ limit

namespace Detection

def new (initial cap : Nat) : Detection :=
  ⟨.empty, min initial cap, cap, Nat.zero_le _⟩

def fitting (buffer : Detection) (input : Bytes) : Bytes :=
  input.take (buffer.limit - buffer.retained.size)

def append (buffer : Detection) (input : Bytes) : Detection :=
  { buffer with
    retained := buffer.retained.append (buffer.fitting input)
    size_le := by
      have := buffer.size_le
      simp only [fitting, Packed.size_append, List.length_take]
      omega }

def tail (buffer : Detection) (count : Nat) : Bytes :=
  (buffer.retained.drop (buffer.retained.size - count)).toList

def isFull (buffer : Detection) : Bool :=
  buffer.limit ≤ buffer.retained.size

def atCap (buffer : Detection) : Bool :=
  buffer.cap ≤ buffer.limit

def grow (buffer : Detection) : Detection :=
  if below : buffer.atCap then buffer
  else
    { buffer with
      limit := min (buffer.limit * 2) buffer.cap
      size_le := by
        have := buffer.size_le
        simp only [atCap, decide_eq_true_eq] at below
        omega }

def reset (buffer : Detection) : Detection :=
  { buffer with retained := .empty, size_le := Nat.zero_le _ }

@[simp] theorem limit_append (buffer : Detection) (input : Bytes) :
    (buffer.append input).limit = buffer.limit := rfl

@[simp] theorem toList_append (buffer : Detection) (input : Bytes) :
    (buffer.append input).retained.toList = buffer.retained.toList ++ buffer.fitting input :=
  Packed.toList_append ..

theorem limit_lt_cap {buffer : Detection} (below : ¬ buffer.atCap = true) :
    buffer.limit < buffer.cap := by
  simpa [atCap] using below

theorem limit_grow {buffer : Detection} (below : ¬ buffer.atCap = true) :
    buffer.grow.limit = min (buffer.limit * 2) buffer.cap := by
  rw [grow, dif_neg below]

theorem size_grow (buffer : Detection) : buffer.grow.retained.size = buffer.retained.size := by
  unfold grow
  split <;> rfl

theorem limit_le_grow (buffer : Detection) : buffer.limit ≤ buffer.grow.limit := by
  by_cases below : buffer.atCap = true
  · exact Nat.le_of_eq (by rw [grow, dif_pos below])
  · have := limit_lt_cap below
    rw [limit_grow below]
    omega

theorem isFull_grow {buffer : Detection} (positive : 0 < buffer.limit)
    (below : ¬ buffer.atCap = true) : buffer.grow.isFull = false := by
  have := buffer.size_le
  have := limit_lt_cap below
  rw [isFull, limit_grow below, size_grow]
  exact decide_eq_false (by omega)

theorem isFull_reset {buffer : Detection} (positive : 0 < buffer.limit) :
    buffer.reset.isFull = false :=
  decide_eq_false (Nat.not_le.mpr positive)

theorem isFull_of_fitting {buffer : Detection} {input : Bytes} (some : input ≠ [])
    (nothing : buffer.fitting input = []) : buffer.isFull = true := by
  have := List.length_pos_iff.mpr some
  have := congrArg List.length nothing
  simp only [fitting, List.length_take, List.length_nil] at this
  simp only [isFull, decide_eq_true_eq]
  omega

end Detection

end MpegRecorder.Capture
