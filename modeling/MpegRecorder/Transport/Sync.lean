import MpegRecorder.Transport.Packet

/-!
Packet alignment. A position counts as a packet boundary when three sync bytes sit exactly one
packet apart; a position whose confirming bytes lie beyond the view is left undecided, so that it
can be looked at again once more bytes are there.
-/

namespace MpegRecorder.Transport.Sync

/-- The number of bytes that it takes to confirm a boundary at the first of them. -/
def span (size : Nat) : Nat := 2 * size + 1

def confirmed (size : Nat) (view : Bytes) : Bool :=
  view[0]? == some syncByte && view[size]? == some syncByte && view[2 * size]? == some syncByte

def findFrom (size : Nat) : (offset : Nat) → Bytes → Option Nat
  | _, [] => none
  | offset, byte :: rest =>
    if confirmed size (byte :: rest) then some offset else findFrom size (offset + 1) rest

def find (size : Nat) (view : Bytes) : Option Nat :=
  findFrom size 0 view

inductive Scan where
  | found (offset : Nat)
  /-- The first `droppable` bytes can start no packet; the rest needs more data. -/
  | undecided (droppable : Nat)
deriving Repr, DecidableEq

def scan (size : Nat) (view : Bytes) : Scan :=
  match find size view with
  | some offset => .found offset
  | none => .undecided (view.length - 2 * size)

end MpegRecorder.Transport.Sync
