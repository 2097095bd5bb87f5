import MpegRecorder.Proofs.Output.Move
import MpegRecorder.Proofs.Storage.Granting

/-!
A recording whose opener never refuses and whose files take all bytes. Its destinations have a file
each, which are told apart by the order in which they were opened; only the last of them is written
to, and only at its end.
-/

namespace MpegRecorder.Output

open Storage

def files (first : Nat) (output : Output) : List Nat :=
  first :: output.opener.openedFiles

def delivered (first : Nat) (output : Output) (storage : Storage) : Bytes :=
  (files first output).flatMap storage.content

/-- Where all bytes handed over are: with a destination, or waiting. -/
def account (first : Nat) (output : Output) (storage : Storage) : Bytes :=
  delivered first output storage ++ output.buffer.content

/-- A recording between two destinations, each of which has a file of its own. -/
structure Paused (first : Nat) (output : Output) (storage : Storage) : Prop where
  ring_off : output.ring.limit = 0
  grants : output.opener.Grants
  distinct : (files first output).Nodup
  stored : ∀ id ∈ files first output, id < storage.files.length

structure Recording (first : Nat) (output : Output) (storage : Storage) : Prop extends
    Paused first output storage where
  current : ∃ destination earlier, output.destination = some destination
    ∧ storage.Ready destination ∧ files first output = earlier ++ [destination.file]

variable {first : Nat} {output : Output} {medium : Medium}

theorem Recording.congr {other : Output} {storage : Storage}
    (recording : Recording first output storage) (opener : other.opener = output.opener)
    (destination : other.destination = output.destination)
    (ring : other.ring.limit = output.ring.limit) : Recording first other storage := by
  have same : files first other = files first output := by rw [files, opener, files]
  obtain ⟨⟨off, grants, distinct, stored⟩, current⟩ := recording
  refine ⟨⟨ring.trans off, opener ▸ grants, same ▸ distinct, same ▸ stored⟩, ?_⟩
  rw [destination, same]
  exact current

theorem Recording.writeOut (recording : Recording first output medium.storage) (data : Bytes) :
    Recording first (output.writeOut medium data).1 (output.writeOut medium data).2.storage
      ∧ delivered first (output.writeOut medium data).1 (output.writeOut medium data).2.storage
        = delivered first output medium.storage ++ data
      ∧ (output.writeOut medium data).1.buffer = output.buffer := by
  obtain ⟨⟨off, grants, distinct, stored⟩, destination, earlier, isOpen, ready, last⟩ := recording
  obtain ⟨writer, finished, wrote⟩ := Writer.write_ready
    ⟨output.ring, output.counters, destination, medium.storage⟩ off ready data
  have step : output.writeOut medium data =
      ({ output with
          ring := writer.ring
          counters := writer.counters
          destination := some writer.destination },
        { medium with storage := writer.storage }) := by
    simp only [Output.writeOut, isOpen, finished]
  rw [step]
  refine ⟨⟨⟨wrote.ring.trans off, grants, distinct, ?_⟩, ?_⟩, ?_, rfl⟩
  · intro id member
    exact Nat.lt_of_lt_of_eq (stored id member) wrote.grown.count.symm
  · exact ⟨writer.destination, earlier, rfl, wrote.ready, by rw [wrote.file]; exact last⟩
  · change (files first output).flatMap _ = (files first output).flatMap _ ++ data
    rw [last] at distinct ⊢
    exact flatMap_content_grown wrote.grown distinct

theorem Recording.flushAll (recording : Recording first output medium.storage) :
    Recording first (output.flushAll medium).1 (output.flushAll medium).2.storage
      ∧ delivered first (output.flushAll medium).1 (output.flushAll medium).2.storage
        = account first output medium.storage
      ∧ (output.flushAll medium).1.buffer.content = [] := by
  have cleared : Recording first { output with buffer := output.buffer.clear } medium.storage :=
    recording.congr rfl rfl rfl
  obtain ⟨still, wrote, buffer⟩ := cleared.writeOut output.buffer.content
  exact ⟨still, wrote, congrArg Buffer.content buffer⟩

theorem Paused.closeDestination (paused : Paused first output medium.storage) :
    Paused first (output.closeDestination medium).1 (output.closeDestination medium).2.storage
      ∧ delivered first (output.closeDestination medium).1
          (output.closeDestination medium).2.storage
        = delivered first output medium.storage
      ∧ (output.closeDestination medium).1.buffer = output.buffer := by
  unfold Output.closeDestination
  split
  · exact ⟨paused, rfl, rfl⟩
  · next destination _ =>
    refine ⟨⟨paused.ring_off, paused.grants, paused.distinct, ?_⟩, ?_, rfl⟩
    · intro id member
      exact Nat.lt_of_lt_of_eq (paused.stored id member) (length_close ..).symm
    · exact List.flatMap_congr fun id _ => content_close medium.storage destination id

theorem Recording.release (recording : Recording first output medium.storage) (cut : Nat) :
    Paused first (output.release medium cut).1 (output.release medium cut).2.storage
      ∧ account first (output.release medium cut).1 (output.release medium cut).2.storage
        = account first output medium.storage := by
  have parted : Recording first { output with buffer := (output.buffer.splitTo cut).2 }
      medium.storage :=
    recording.congr rfl rfl rfl
  obtain ⟨wrote, sent, kept⟩ := parted.writeOut (output.buffer.splitTo cut).1
  obtain ⟨closed, same, still⟩ := wrote.toPaused.closeDestination
  refine ⟨closed, ?_⟩
  rw [account, Output.release, same, still, sent, kept, List.append_assoc]
  exact congrArg (delivered first output medium.storage ++ ·) (List.take_append_drop ..)

theorem Paused.openFile {storage : Storage} (paused : Paused first output storage)
    (name : String) (token : UInt32) :
    ∃ destination opener later,
      output.opener.openFile storage name token = (.ok destination, opener, later)
      ∧ ∀ moved : Output, moved.opener = opener → moved.destination = some destination →
        moved.ring.limit = 0 → Recording first moved later
          ∧ delivered first moved later = delivered first output storage := by
  obtain ⟨behaviour, opener, accepts, opened, grants, grown⟩ :=
    paused.grants.openFile storage name token
  refine ⟨_, _, _, opened, ?_⟩
  intro moved sameOpener isOpen off
  have next : files first moved = files first output ++ [storage.files.length] := by
    rw [files, sameOpener, grown, files, List.cons_append]
  refine ⟨⟨⟨off, sameOpener ▸ grants, ?_, ?_⟩, ?_⟩, ?_⟩
  · rw [next, List.nodup_append]
    refine ⟨paused.distinct, by simp, ?_⟩
    intro id member other last
    have := paused.stored id member
    rw [List.mem_singleton.mp last]
    omega
  · intro id member
    rw [next, List.mem_append, List.mem_singleton] at member
    rw [addFile, List.length_append, List.length_singleton]
    rcases member with earlier | rfl
    · exact Nat.lt_succ_of_lt (paused.stored id earlier)
    · exact Nat.lt_succ_self _
  · exact ⟨_, _, isOpen, ⟨_, getElem?_addFile_self .., accepts, rfl⟩, next⟩
  · have new : (storage.addFile name behaviour).2.content storage.files.length = [] :=
      content_of_getElem? (getElem?_addFile_self storage name behaviour)
    rw [delivered, next, List.flatMap_append, List.flatMap_singleton, new, List.append_nil]
    apply List.flatMap_congr
    intro id member
    exact content_congr (getElem?_addFile_of_lt (paused.stored id member) ..)

end MpegRecorder.Output
