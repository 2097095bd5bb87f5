import MpegRecorder.Proofs.Output.Accepted
import MpegRecorder.Proofs.Output.Operation
import MpegRecorder.Session.Basic

/-!
A recording to one destination that takes all bytes, with no request to move and no ring. What its file
holds and what still waits is all that was handed over, and the count of written bytes is the length of
the file.
-/

namespace MpegRecorder.Output

open Storage

/-- A recording to the file `file`, which was empty at first, that was handed `total`. -/
structure Steady (file : Nat) (output : Output) (storage : Storage) (total : Bytes) : Prop where
  idle : output.request = none
  off : output.ring.limit = 0
  current : ∃ destination, output.destination = some destination ∧ destination.file = file
    ∧ storage.Ready destination
  complete : storage.content file ++ output.buffer.content = total
  counted : output.counters.total = (storage.content file).length

variable {file : Nat} {output : Output} {medium : Medium} {total : Bytes}

theorem Steady.flushAll (steady : Steady file output medium.storage total) :
    Steady file (output.flushAll medium).1 (output.flushAll medium).2.storage total ∧
      (output.flushAll medium).1.buffer.content = [] ∧
      (output.flushAll medium).1.accepting = output.accepting := by
  obtain ⟨idle, off, ⟨destination, isOpen, same, ready⟩, complete, counted⟩ := steady
  let writer : Writer := ⟨output.ring, output.counters, destination, medium.storage⟩
  obtain ⟨after, finished, wrote⟩ := writer.write_ready off ready output.buffer.content
  have counters := writer.write_counters output.buffer.content
  rw [finished, Writer.accepted_of_ok finished] at counters
  have content : after.storage.content file = total := by
    rw [← complete, ← same]
    exact wrote.grown.content
  have step : output.flushAll medium =
      ({ output with
          buffer := output.buffer.clear
          ring := after.ring
          counters := after.counters
          destination := some after.destination },
        { medium with storage := after.storage }) := by
    simp only [Output.flushAll, Output.writeOut, isOpen]
    rw [finished]
  rw [step]
  refine ⟨⟨idle, wrote.ring.trans off, ⟨after.destination, rfl, wrote.file.trans same, wrote.ready⟩,
    ?_, ?_⟩, rfl, rfl⟩
  · rw [content]
    exact List.append_nil _
  · rw [content, ← complete, List.length_append, ← counted]
    exact congrArg Counters.total counters

theorem Steady.flush (steady : Steady file output medium.storage total) :
    Steady file (output.flush medium).1 (output.flush medium).2.storage total ∧
      (output.flush medium).1.accepting = output.accepting := by
  rw [flush_of_idle steady.idle]
  obtain ⟨still, -, accepting⟩ := steady.flushAll
  exact ⟨still, accepting⟩

theorem Steady.buffered {storage : Storage} (steady : Steady file output storage total)
    (buffer : Buffer) :
    Steady file { output with buffer } storage (storage.content file ++ buffer.content) :=
  ⟨steady.idle, steady.off, steady.current, rfl, steady.counted⟩

theorem Steady.append (steady : Steady file output medium.storage total) (data : Bytes) :
    Steady file (output.append medium data).1 (output.append medium data).2.storage
        (total ++ data) ∧
      (output.append medium data).1.accepting = output.accepting := by
  by_cases full : output.buffer.remaining < data.length
  · obtain ⟨still, accepting⟩ := steady.flush
    have room : ((output.flush medium).1.buffer.makeRoom data.length).content =
        (output.flush medium).1.buffer.content := Buffer.content_makeRoom ..
    rw [append_of_full full, ← still.complete, List.append_assoc, ← room]
    exact ⟨still.buffered _, accepting⟩
  · rw [append_of_room full, ← steady.complete, List.append_assoc]
    exact ⟨steady.buffered _, rfl⟩

theorem Steady.receive (steady : Steady file output medium.storage total)
    (accepting : output.accepting = true) (emission : Emission) :
    Steady file (output.receive medium emission).1 (output.receive medium emission).2.storage
        (total ++ Engine.written [emission]) ∧
      (output.receive medium emission).1.accepting = true := by
  unfold Output.receive
  rw [accepting, if_pos rfl]
  cases emission with
  | write data =>
    obtain ⟨still, same⟩ := steady.append data
    rw [Engine.written, List.flatMap_singleton]
    exact ⟨still, same.trans accepting⟩
  | flush =>
    obtain ⟨still, same⟩ := steady.flush
    rw [Engine.written, List.flatMap_singleton, List.append_nil]
    exact ⟨still, same.trans accepting⟩

theorem Steady.receiveAll (steady : Steady file output medium.storage total)
    (accepting : output.accepting = true) (emissions : List Emission) :
    Steady file (output.receiveAll medium emissions).1
        (output.receiveAll medium emissions).2.storage (total ++ Engine.written emissions) ∧
      (output.receiveAll medium emissions).1.accepting = true := by
  induction emissions generalizing output medium total with
  | nil =>
    rw [Engine.written, List.flatMap_nil, List.append_nil]
    exact ⟨steady, accepting⟩
  | cons emission rest ih =>
    obtain ⟨first, still⟩ := steady.receive accepting emission
    have split : Engine.written (emission :: rest) =
        Engine.written [emission] ++ Engine.written rest := by
      rw [Engine.written, List.flatMap_cons, Engine.written, List.flatMap_singleton, Engine.written]
    rw [split, ← List.append_assoc]
    exact ih first still

theorem closeDestination_kept (output : Output) (medium : Medium) (id : Nat) :
    (output.closeDestination medium).2.storage.content id = medium.storage.content id ∧
      (output.closeDestination medium).1.counters = output.counters := by
  unfold closeDestination
  split
  · exact ⟨rfl, rfl⟩
  · exact ⟨content_close .., rfl⟩

theorem Steady.finish (steady : Steady file output medium.storage total) :
    (output.finish medium).2.storage.content file = total ∧
      (output.finish medium).1.counters.total = total.length := by
  have ending : Steady file { output with closed := true } medium.storage total :=
    ⟨steady.idle, steady.off, steady.current, steady.complete, steady.counted⟩
  obtain ⟨flushed, empty, -⟩ := ending.flushAll
  have held := flushed.complete
  rw [empty, List.append_nil] at held
  let written := { output with closed := true }.flushAll medium
  obtain ⟨kept, counters⟩ := closeDestination_kept written.1 written.2 file
  rw [finish_of_idle steady.idle]
  refine ⟨kept.trans held, ?_⟩
  rw [← held]
  exact (congrArg Counters.total counters).trans flushed.counted

end MpegRecorder.Output
