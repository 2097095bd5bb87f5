/-!
Byte strings as lists, with the big-endian words that container formats are made of and the search
for a fixed pattern that splice points are found by.
-/

namespace MpegRecorder

abbrev Bytes := List UInt8

namespace Bytes

/-- The byte at an offset, zero beyond the end. -/
def byteAt (data : Bytes) (offset : Nat) : UInt8 :=
  data.getD offset 0

def wordAt (data : Bytes) (offset : Nat) : UInt16 :=
  (data.byteAt offset).toUInt16 <<< 8 ||| (data.byteAt (offset + 1)).toUInt16

/-- A 13 bit packet identifier, stored below three reserved bits. -/
def pidAt (data : Bytes) (offset : Nat) : UInt16 :=
  data.wordAt offset &&& 0x1FFF

/-- A 12 bit length, stored below four other bits. -/
def lengthAt (data : Bytes) (offset : Nat) : Nat :=
  (data.wordAt offset &&& 0x0FFF).toNat

def toNat (data : Bytes) : Nat :=
  data.foldl (fun value byte => value * 256 + byte.toNat) 0

def ofWord (word : UInt16) : Bytes :=
  [(word >>> 8).toUInt8, word.toUInt8]

def ofLongWord (word : UInt32) : Bytes :=
  [(word >>> 24).toUInt8, (word >>> 16).toUInt8, (word >>> 8).toUInt8, word.toUInt8]

@[simp] theorem length_ofWord (word : UInt16) : (ofWord word).length = 2 := rfl

@[simp] theorem length_ofLongWord (word : UInt32) : (ofLongWord word).length = 4 := rfl

/--
Looks for a pattern from left to right and gives the offset of the first occurrence that `accept`
takes, seen as the view from the occurrence on. A refused occurrence is passed over whole, so two
occurrences that overlap are never both tried. The first `pending` bytes are passed over, and the
offset counts from `offset`.
-/
def searchFrom (pattern : Bytes) (accept : Bytes → Bool) : (pending offset : Nat) → Bytes → Option Nat
  | _, _, [] => none
  | pending + 1, offset, _ :: rest => searchFrom pattern accept pending (offset + 1) rest
  | 0, offset, byte :: rest =>
    if pattern.isPrefixOf (byte :: rest) then
      if accept (byte :: rest) then some offset
      else searchFrom pattern accept (pattern.length - 1) (offset + 1) rest
    else searchFrom pattern accept 0 (offset + 1) rest

def findWhere (view pattern : Bytes) (accept : Bytes → Bool) : Option Nat :=
  searchFrom pattern accept 0 0 view

def find (view pattern : Bytes) : Option Nat :=
  view.findWhere pattern fun _ => true

/-- Cuts a byte string into chunks of `size` bytes; what is left at the end is dropped. -/
def wholeChunks (size : Nat) (data : Bytes) : List Bytes :=
  if _short : size = 0 ∨ (data.take size).length < size then []
  else data.take size :: wholeChunks size (data.drop size)
termination_by data.length
decreasing_by
  simp only [List.length_take, List.length_drop] at _short ⊢
  omega

/-- Cuts a byte string into chunks of `size` bytes, the last of which may be shorter. -/
def chunks (size : Nat) (data : Bytes) : List Bytes :=
  if _done : size = 0 ∨ data = [] then []
  else data.take size :: chunks size (data.drop size)
termination_by data.length
decreasing_by
  have := List.length_pos_iff.mpr (not_or.mp _done).2
  simp only [List.length_drop]
  omega

theorem flatten_chunks {size : Nat} (positive : 0 < size) (data : Bytes) :
    (chunks size data).flatten = data := by
  fun_induction chunks size data with
  | case1 data done => simp_all [Nat.pos_iff_ne_zero]
  | case2 data done ih => rw [List.flatten_cons, ih, List.take_append_drop]

theorem length_of_mem_wholeChunks {size : Nat} {data chunk : Bytes}
    (member : chunk ∈ wholeChunks size data) : chunk.length = size := by
  fun_induction wholeChunks size data with
  | case1 => cases member
  | case2 data whole ih =>
    rcases List.mem_cons.mp member with rfl | later
    · simp only [List.length_take] at whole ⊢
      omega
    · exact ih later

end Bytes

end MpegRecorder
