import MpegRecorder.Output.Basic
import MpegRecorder.Proofs.Output.Writing
import MpegRecorder.Proofs.Storage.Opening

/-!
Moves from one destination to the next. A move lets go of the current destination, and then either goes
on with one that was opened anew and gets all that waits, or is left without any while the request for
the next one stays.
-/

namespace MpegRecorder.Output

open Storage

/-- The recording has left its last destination and could not open the one asked for. -/
structure Stranded (output : Output) : Prop where
  shut : output.destination = none
  asked : output.request.isSome

structure Settled (output : Output) : Prop where
  isOpen : output.destination.isSome
  idle : output.request = none

/-- The destination was opened anew, and nothing but `data` was handed to it. -/
structure Began (output : Output) (storage : Storage) (destination : Destination)
    (data : Bytes) : Prop where
  isOpen : output.destination = some destination
  handed : ∃ start : Writer, start.storage.Fresh start.destination
    ∧ start.ring = output.ring.restart ∧ start.counters.current = 0
    ∧ (start.write data).2 = ⟨output.ring, output.counters, destination, storage⟩

variable {output : Output} {medium : Medium} {destination : Destination} {data : Bytes}

theorem Began.content {storage : Storage} (began : output.Began storage destination data)
    (off : output.ring.limit = 0) {behaviour : Behaviour}
    (behaves : storage.behaviour? destination.file = some behaviour) (accepts : behaviour.Accepts) :
    storage.content destination.file = data := by
  obtain ⟨-, start, fresh, ring, -, wrote⟩ := began
  have kept := start.write_kept data
  rw [wrote] at kept
  have startOff : start.ring.limit = 0 := ring ▸ off
  rw [kept.behaviour, kept.file, behaviour?, Option.map_eq_some_iff] at behaves
  obtain ⟨file, found, rfl⟩ := behaves
  have nothing : file.content.toList = [] := (content_of_getElem? found).symm.trans fresh.empty
  have atEnd : start.destination.position = file.content.size := by
    rw [fresh.start, ← Packed.length_toList, nothing, List.length_nil]
  obtain ⟨after, finished, result⟩ :=
    start.write_ready startOff ⟨file, found, accepts, atEnd⟩ data
  have last : after = ⟨output.ring, output.counters, destination, storage⟩ := by
    rw [← wrote, finished]
  have held := result.grown.content
  rwa [last, fresh.empty, List.nil_append, ← kept.file] at held

/-- Lets go of the current destination, which gets the first `cut` bytes that wait. -/
def release (output : Output) (medium : Medium) (cut : Nat) : Output × Medium :=
  let parted := { output with buffer := (output.buffer.splitTo cut).2 }.writeOut medium
    (output.buffer.splitTo cut).1
  parted.1.closeDestination parted.2

theorem moveAt_eq (output : Output) (medium : Medium) (request : Request) (cut : Nat) :
    output.moveAt medium request cut =
      match (output.release medium cut).1.opener.openFile (output.release medium cut).2.storage
        request.name request.token with
      | (.error _, opener, storage) =>
        (false, { (output.release medium cut).1 with opener },
          { (output.release medium cut).2 with storage })
      | (.ok destination, opener, storage) =>
        (true, { (output.release medium cut).1 with opener }.adopt
          { (output.release medium cut).2 with storage } destination) := rfl

structure Released (before after : Output) (cut : Nat) : Prop where
  shut : after.destination = none
  content : after.buffer.content = before.buffer.content.drop cut
  opener : after.opener = before.opener
  request : after.request = before.request
  path : after.path = before.path
  closed : after.closed = before.closed

theorem release_released (output : Output) (medium : Medium) (cut : Nat) :
    output.Released (output.release medium cut).1 cut := by
  cases current : output.destination with
  | none =>
    simp only [release, writeOut, closeDestination, current]
    exact ⟨rfl, rfl, rfl, rfl, rfl, rfl⟩
  | some destination =>
    simp only [release, writeOut, closeDestination, current]
    exact ⟨rfl, rfl, rfl, rfl, rfl, rfl⟩

theorem tree_release (output : Output) (medium : Medium) (cut : Nat) :
    (output.release medium cut).2.storage.tree = medium.storage.tree := by
  cases current : output.destination with
  | none => simp only [release, writeOut, closeDestination, current]
  | some destination =>
    simp only [release, writeOut, closeDestination, current, tree_close]
    exact (Writer.write_kept ..).tree

def enter (output : Output) (opener : Opener) (destination : Destination) : Output :=
  { output with
    opener
    destination := some destination
    path := destination.path
    request := none
    switches := output.switches + 1
    counters := output.counters.startDestination
    ring := output.ring.restart }

theorem moveAt_enter {request : Request} {cut : Nat} {opener : Opener} {storage : Storage}
    (opened : output.opener.openFile (output.release medium cut).2.storage request.name
      request.token = (.ok destination, opener, storage)) :
    let entered := ((output.release medium cut).1.enter opener destination).flushAll
      { (output.release medium cut).2 with storage }
    (output.moveAt medium request cut).2.1 = entered.1
      ∧ (output.moveAt medium request cut).2.2.storage = entered.2.storage := by
  have released := output.release_released medium cut
  rw [moveAt_eq, released.opener, opened]
  unfold adopt
  dsimp only
  split <;> exact ⟨rfl, rfl⟩

theorem flushAll_enter (output : Output) (opener : Opener)
    (fresh : medium.storage.Fresh destination) :
    let entered := (output.enter opener destination).flushAll medium
    entered.1.Settled ∧ entered.1.buffer.content = []
      ∧ ∃ later, later.file = destination.file
        ∧ entered.1.Began entered.2.storage later output.buffer.content := by
  let start : Writer :=
    ⟨output.ring.restart, output.counters.startDestination, destination, medium.storage⟩
  have kept := start.write_kept output.buffer.content
  have ring : start.ring = (start.write output.buffer.content).2.ring.restart := by
    rw [Ring.restart, kept.limit]
    rfl
  exact ⟨⟨rfl, rfl⟩, rfl, (start.write output.buffer.content).2.destination, kept.file,
    rfl, start, fresh, ring, rfl, rfl⟩

theorem moveAt_refused {request : Request} {cut : Nat} {error : IoError} {opener : Opener}
    {storage : Storage} (asked : output.request.isSome)
    (refused : output.opener.openFile (output.release medium cut).2.storage request.name
      request.token = (.error error, opener, storage)) :
    (output.moveAt medium request cut).2.1.Stranded
      ∧ (output.moveAt medium request cut).2.1.buffer.content = output.buffer.content.drop cut := by
  have released := output.release_released medium cut
  rw [moveAt_eq, released.opener, refused]
  refine ⟨⟨released.shut, ?_⟩, released.content⟩
  dsimp only
  rw [released.request]
  exact asked

theorem moveAt_opened {request : Request} {cut : Nat} {opener : Opener} {storage : Storage}
    (opened : output.opener.openFile (output.release medium cut).2.storage request.name
      request.token = (.ok destination, opener, storage)) :
    (output.moveAt medium request cut).2.1.Settled
      ∧ (output.moveAt medium request cut).2.1.buffer.content = []
      ∧ ∃ later, later.file = destination.file
        ∧ (output.moveAt medium request cut).2.1.Began
          (output.moveAt medium request cut).2.2.storage later
          (output.buffer.content.drop cut) := by
  have released := output.release_released medium cut
  have fresh : storage.Fresh destination := Opener.openFile_fresh opened
  obtain ⟨moved, stored⟩ := moveAt_enter opened
  rw [moved, stored, ← released.content]
  exact flushAll_enter _ opener fresh

theorem moveAt_outcome (asked : output.request.isSome) (medium : Medium) (request : Request)
    (cut : Nat) :
    let moved := (output.moveAt medium request cut).2
    moved.1.Stranded ∧ moved.1.buffer.content = output.buffer.content.drop cut
      ∨ moved.1.Settled ∧ moved.1.buffer.content = []
        ∧ ∃ destination, moved.1.Began moved.2.storage destination
            (output.buffer.content.drop cut) := by
  obtain ⟨result, opener, storage, opened⟩ : ∃ result opener storage,
      output.opener.openFile (output.release medium cut).2.storage request.name request.token
        = (result, opener, storage) := ⟨_, _, _, rfl⟩
  cases result with
  | error error => exact .inl (moveAt_refused asked opened)
  | ok destination =>
    obtain ⟨settled, empty, later, -, began⟩ := moveAt_opened opened
    exact .inr ⟨settled, empty, later, began⟩

end MpegRecorder.Output
