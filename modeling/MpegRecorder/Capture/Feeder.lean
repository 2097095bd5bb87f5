import MpegRecorder.Packed
import MpegRecorder.Transport.Sync

/-!
A feeder cuts captured bytes, which come in pieces of any length, into transfer units of one size
that start on a packet boundary. Bytes that can belong to no aligned packet are dropped.
-/

namespace MpegRecorder.Capture

open Transport

structure Alignment where
  /-- Whether the bytes to come are taken to start on a packet boundary. -/
  synced : Bool
  dropped : Nat
deriving Repr, DecidableEq

namespace Alignment

/--
Aligns a window. One that starts with a sync byte while aligned is left as it is; otherwise the
bytes before the first confirmed boundary go, or, without one, those that can start no packet.
-/
def settle (packetSize : Nat) (alignment : Alignment) (window : Packed) : Alignment × Packed :=
  if window.head? = none ∨ alignment.synced ∧ window.head? = some syncByte then (alignment, window)
  else
    match Sync.scan packetSize window.toList with
    | .found offset => (⟨true, alignment.dropped + offset⟩, window.drop offset)
    | .undecided droppable => (⟨false, alignment.dropped + droppable⟩, window.drop droppable)

theorem size_settle_le (packetSize : Nat) (alignment : Alignment) (window : Packed) :
    (alignment.settle packetSize window).2.size ≤ window.size := by
  unfold settle
  split
  · exact Nat.le_refl _
  · split <;> simp

end Alignment

structure Feeder where
  packetSize : Nat
  /-- The length of a transfer unit. -/
  unit : Nat
  alignment : Alignment
  /-- Bytes that wait for a unit to become complete. -/
  pending : Packed
  pending_lt : pending.size < unit

namespace Feeder

def new (packetSize unit : Nat) (positive : 0 < unit) : Feeder :=
  ⟨packetSize, unit, ⟨true, 0⟩, .empty, positive⟩

theorem size_empty_lt (feeder : Feeder) : Packed.empty.size < feeder.unit :=
  Nat.lt_of_le_of_lt (Nat.zero_le _) feeder.pending_lt

def withNothing (feeder : Feeder) (alignment : Alignment) : Feeder :=
  { feeder with alignment, pending := .empty, pending_lt := feeder.size_empty_lt }

def room (feeder : Feeder) : Nat :=
  feeder.unit - feeder.pending.size

theorem room_pos (feeder : Feeder) : 0 < feeder.room :=
  Nat.sub_pos_of_lt feeder.pending_lt

def extend (feeder : Feeder) (input : Bytes) : Alignment × Packed :=
  feeder.alignment.settle feeder.packetSize (feeder.pending.append (input.take feeder.room))

theorem size_extend_le (feeder : Feeder) (input : Bytes) :
    (feeder.extend input).2.size ≤ feeder.unit := by
  have := feeder.pending_lt
  refine Nat.le_trans (Alignment.size_settle_le ..) ?_
  simp only [room, Packed.size_append, List.length_take]
  omega

theorem size_extend_lt {feeder : Feeder} {input : Bytes}
    (incomplete : (feeder.extend input).2.size ≠ feeder.unit) :
    (feeder.extend input).2.size < feeder.unit :=
  Nat.lt_of_le_of_ne (feeder.size_extend_le input) incomplete

theorem length_drop_room_lt (feeder : Feeder) (byte : UInt8) (later : Bytes) :
    ((byte :: later).drop feeder.room).length < (byte :: later).length := by
  have := feeder.room_pos
  simp only [List.length_drop, List.length_cons]
  omega

/-- Whether a unit can be taken from the front of the input as it is. -/
def passes (feeder : Feeder) (input : Bytes) : Bool :=
  feeder.pending.size = 0 && feeder.alignment.synced && input.head? = some syncByte
    && (input.take feeder.unit).length = feeder.unit

theorem length_drop_unit_lt (feeder : Feeder) (byte : UInt8) (later : Bytes) :
    ((byte :: later).drop feeder.unit).length < (byte :: later).length := by
  have := feeder.pending_lt
  simp only [List.length_drop, List.length_cons]
  omega

/--
Takes a piece of the capture and gives the units that it completes. What completes none stays
pending.
-/
def push (feeder : Feeder) (input : Bytes) : List Bytes × Feeder :=
  match input with
  | [] => ([], feeder)
  | byte :: later =>
    if feeder.passes (byte :: later) then
      let result := push feeder ((byte :: later).drop feeder.unit)
      ((byte :: later).take feeder.unit :: result.1, result.2)
    else
      let settled := feeder.extend (byte :: later)
      let rest := (byte :: later).drop feeder.room
      if incomplete : settled.2.size ≠ feeder.unit then
        push
          { feeder with
            alignment := settled.1, pending := settled.2, pending_lt := size_extend_lt incomplete }
          rest
      else
        let result := push (feeder.withNothing settled.1) rest
        (settled.2.toList :: result.1, result.2)
termination_by input.length
decreasing_by
  · exact length_drop_unit_lt ..
  all_goals exact length_drop_room_lt ..

/--
Gives the whole packets that are still pending as one last chunk. An incomplete packet is dropped,
and so is everything when no boundary is known.
-/
def finish (feeder : Feeder) : List Bytes × Feeder :=
  let settled := feeder.alignment.settle feeder.packetSize feeder.pending
  let kept := settled.2.size
  let whole := if settled.1.synced then kept / feeder.packetSize * feeder.packetSize else 0
  (if whole = 0 then [] else [(settled.2.take whole).toList],
    feeder.withNothing { settled.1 with dropped := settled.1.dropped + (kept - whole) })

/-- Forgets the pending bytes and takes what comes next to be aligned. -/
def reset (feeder : Feeder) : Feeder :=
  feeder.withNothing { feeder.alignment with synced := true }

def dropped (feeder : Feeder) : Nat :=
  feeder.alignment.dropped

@[simp] theorem push_nil (feeder : Feeder) : feeder.push [] = ([], feeder) := by
  unfold push
  rfl

end Feeder

end MpegRecorder.Capture
