import MpegRecorder.Storage.Basic

/-!
Writing to a destination, rewinding it each time a limit is reached: the oldest bytes of a ring
recording are overwritten by the newest.
-/

namespace MpegRecorder.Output

open Storage

structure Ring where
  /-- The length after which the destination rewinds; zero writes on without end. -/
  limit : Nat
  sinceWrap : Nat
  wraps : Nat
deriving Repr, DecidableEq

namespace Ring

def new : Ring := ⟨0, 0, 0⟩

def isEnabled (ring : Ring) : Bool :=
  0 < ring.limit

def isDue (ring : Ring) : Bool :=
  ring.isEnabled && ring.limit ≤ ring.sinceWrap

def restart (ring : Ring) : Ring :=
  { ring with sinceWrap := 0, wraps := 0 }

end Ring

structure Counters where
  current : Nat
  total : Nat
deriving Repr, DecidableEq

namespace Counters

def zero : Counters := ⟨0, 0⟩

def add (counters : Counters) (count : Nat) : Counters :=
  ⟨counters.current + count, counters.total + count⟩

def startDestination (counters : Counters) : Counters :=
  { counters with current := 0 }

end Counters

/-- A destination in the course of being written, with its ring and the bytes counted. -/
structure Writer where
  ring : Ring
  counters : Counters
  destination : Destination
  storage : Storage

namespace Writer

def wrap (writer : Writer) : Except IoError Unit × Writer :=
  if writer.ring.isDue then
    match writer.storage.rewind writer.destination with
    | (.error e, destination, storage) => (.error e, { writer with destination, storage })
    | (.ok _, destination, storage) =>
      (.ok (),
        { writer with
          destination, storage
          ring := { writer.ring with sinceWrap := 0, wraps := writer.ring.wraps + 1 } })
  else (.ok (), writer)

/-- One write call, of no more than the ring has room for. -/
def put (writer : Writer) (data : Bytes) : Except IoError Nat × Writer :=
  let chunk :=
    if writer.ring.isEnabled then data.take (writer.ring.limit - writer.ring.sinceWrap) else data
  match writer.storage.write writer.destination chunk with
  | (.error e, destination, storage) => (.error e, { writer with destination, storage })
  | (.ok taken, destination, storage) =>
    (.ok taken,
      { writer with
        destination, storage
        counters := writer.counters.add taken
        ring := { writer.ring with sinceWrap := writer.ring.sinceWrap + taken } })

/-- Writes all of `data`. The first failure, or a call that takes nothing, ends it. -/
def write (writer : Writer) (data : Bytes) : Except IoError Unit × Writer :=
  if _more : data = [] then (.ok (), writer)
  else
    match writer.wrap with
    | (.error e, writer) => (.error e, writer)
    | (.ok _, writer) =>
      match writer.put data with
      | (.error e, writer) => (.error e, writer)
      | (.ok 0, writer) => (.error .noProgress, writer)
      | (.ok (taken + 1), writer) =>
        match writer.wrap with
        | (.error e, writer) => (.error e, writer)
        | (.ok _, writer) => writer.write (data.drop (taken + 1))
termination_by data.length
decreasing_by
  have := List.length_pos_iff.mpr _more
  simp only [List.length_drop]
  omega

end Writer

end MpegRecorder.Output
