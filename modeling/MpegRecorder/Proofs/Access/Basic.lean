import MpegRecorder.Bytes

/-!
Access that can go wrong. Data is read by offset, in slices and in pieces, and lengths are subtracted; whatever
lies beyond the end, below zero or in pieces of no length is a fault. Where the bounds hold, an access gives
what the operations on lists and numbers give.
-/

namespace MpegRecorder

inductive Fault where
  | offset (offset length : Nat)
  | range (start stop length : Nat)
  | difference (left right : Nat)
  | pieceSize
deriving Repr, DecidableEq

namespace Access

variable {α β : Type}

@[simp] theorem ok_bind (value : α) (next : α → Except Fault β) :
    (Except.ok value >>= next) = next value := rfl

@[simp] theorem pure_eq_ok (value : α) : (pure value : Except Fault α) = .ok value := rfl

def index (items : List α) (offset : Nat) : Except Fault α :=
  if inside : offset < items.length then .ok items[offset]
  else .error (.offset offset items.length)

def slice (items : List α) (start stop : Nat) : Except Fault (List α) :=
  if start ≤ stop ∧ stop ≤ items.length then .ok ((items.take stop).drop start)
  else .error (.range start stop items.length)

def split (items : List α) (count : Nat) : Except Fault (List α × List α) :=
  if count ≤ items.length then .ok (items.splitAt count)
  else .error (.range 0 count items.length)

def change (items : List α) (offset : Nat) (step : α → α) : Except Fault (List α) :=
  if offset < items.length then .ok (items.modify offset step)
  else .error (.offset offset items.length)

def minus (left right : Nat) : Except Fault Nat :=
  if right ≤ left then .ok (left - right) else .error (.difference left right)

def wholePieces (size : Nat) (data : Bytes) : Except Fault (List Bytes) :=
  if size = 0 then .error .pieceSize else .ok (data.wholeChunks size)

def pieces (size : Nat) (data : Bytes) : Except Fault (List Bytes) :=
  if size = 0 then .error .pieceSize else .ok (data.chunks size)

variable {items : List α} {offset start stop count : Nat}

theorem index_of_lt (inside : offset < items.length) : index items offset = .ok items[offset] :=
  dif_pos inside

theorem index_of_getElem? {item : α} (there : items[offset]? = some item) :
    index items offset = .ok item := by
  obtain ⟨inside, same⟩ := List.getElem?_eq_some_iff.mp there
  rw [index_of_lt inside, same]

/-- Bytes inside are the bytes that a reader without bounds finds there. -/
theorem index_byte {data : Bytes} (inside : offset < data.length) :
    index data offset = .ok (data.byteAt offset) := by
  rw [index_of_lt inside, Bytes.byteAt, List.getD_eq_getElem?_getD, List.getElem?_eq_getElem inside,
    Option.getD_some]

theorem slice_of_le (ordered : start ≤ stop) (inside : stop ≤ items.length) :
    slice items start stop = .ok ((items.take stop).drop start) :=
  if_pos ⟨ordered, inside⟩

theorem slice_rest (inside : start ≤ items.length) :
    slice items start items.length = .ok (items.drop start) := by
  rw [slice_of_le inside (Nat.le_refl _), List.take_length]

theorem slice_front (items : List α) (count : Nat) :
    slice items 0 (min items.length count) = .ok (items.take count) := by
  rw [slice_of_le (Nat.zero_le _) (Nat.min_le_left ..), List.drop_zero, Nat.min_comm, ← List.take_take,
    List.take_length]

theorem slice_behind (items : List α) (count : Nat) :
    slice items (min items.length count) items.length = .ok (items.drop count) := by
  rw [slice_rest (Nat.min_le_left ..)]
  rcases Nat.le_total items.length count with less | more
  · rw [Nat.min_eq_left less, List.drop_length, List.drop_eq_nil_of_le less]
  · rw [Nat.min_eq_right more]

theorem split_of_le (inside : count ≤ items.length) :
    split items count = .ok (items.take count, items.drop count) := by
  rw [split, if_pos inside, List.splitAt_eq]

theorem change_of_lt (inside : offset < items.length) (step : α → α) :
    change items offset step = .ok (items.modify offset step) :=
  if_pos inside

theorem minus_of_le {left right : Nat} (ordered : right ≤ left) :
    minus left right = .ok (left - right) :=
  if_pos ordered

theorem wholePieces_of_pos {size : Nat} (positive : 0 < size) (data : Bytes) :
    wholePieces size data = .ok (data.wholeChunks size) :=
  if_neg (Nat.ne_of_gt positive)

theorem pieces_of_pos {size : Nat} (positive : 0 < size) (data : Bytes) :
    pieces size data = .ok (data.chunks size) :=
  if_neg (Nat.ne_of_gt positive)

theorem mapM_ok {read : α → Except Fault β} {value : α → β} {items : List α}
    (reads : ∀ item ∈ items, read item = .ok (value item)) :
    items.mapM read = .ok (items.map value) := by
  induction items with
  | nil => rfl
  | cons item rest ih =>
    obtain ⟨first, later⟩ := List.forall_mem_cons.mp reads
    rw [List.mapM_cons, first, ih later]
    rfl

theorem foldlM_ok {step : β → α → Except Fault β} {next : β → α → β} {items : List α}
    (steps : ∀ state, ∀ item ∈ items, step state item = .ok (next state item)) (state : β) :
    items.foldlM step state = .ok (items.foldl next state) := by
  induction items generalizing state with
  | nil => rfl
  | cons item rest ih =>
    have first := steps state item List.mem_cons_self
    have later := fun state item member => steps state item (List.mem_cons_of_mem _ member)
    rw [List.foldlM_cons, first, ok_bind, ih later]
    rfl

example : index ([1, 2] : Bytes) 2 = .error (.offset 2 2) ∧ minus 3 4 = .error (.difference 3 4)
    ∧ slice ([1, 2] : Bytes) 1 3 = .error (.range 1 3 2) :=
  ⟨rfl, rfl, rfl⟩

end Access

end MpegRecorder
