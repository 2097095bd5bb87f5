import MpegRecorder.Proofs.Output.Operation

/-!
Invariants of a recording. What survives writing out, moving and handing over more bytes, and does not
depend on what is searched for, survives everything that callers can ask.
-/

namespace MpegRecorder.Output

structure Alike (output other : Output) : Prop where
  content : other.buffer.content = output.buffer.content
  destination : other.destination = output.destination
  path : other.path = output.path
  opener : other.opener = output.opener
  limit : other.ring.limit = output.ring.limit
  asked : output.request.isSome → other.request.isSome
  closed : other.closed = output.closed

theorem Alike.asking (output : Output) (request : Request) :
    Alike output { output with request := some request } :=
  ⟨rfl, rfl, rfl, rfl, rfl, fun _ => rfl, rfl⟩

/--
A property of an output, the storage and all bytes handed over that no step breaks, as long as the
lengths set for the ring are among `limits`.
-/
structure Invariant (limits : Nat → Prop) (P : Output → Storage → Bytes → Prop) : Prop where
  alike : ∀ {output other storage total}, Alike output other →
    P output storage total → P other storage total
  limit : ∀ {output storage total} limit, limits limit → P output storage total →
    P { output with ring := { output.ring with limit } } storage total
  extend : ∀ {output storage total} data, P output storage total →
    P { output with buffer := output.buffer.extend data } storage (total ++ data)
  flushAll : ∀ {output : Output} {medium total}, P output medium.storage total →
    P (output.flushAll medium).1 (output.flushAll medium).2.storage total
  moveAt : ∀ {output : Output} {medium total} request cut, output.request.isSome →
    P output medium.storage total →
    P (output.moveAt medium request cut).2.1 (output.moveAt medium request cut).2.2.storage total

namespace Invariant

variable {limits : Nat → Prop} {P : Output → Storage → Bytes → Prop}
  {output : Output} {medium : Medium} {total : Bytes}

theorem tryCut (invariant : Invariant limits P) (holds : P output medium.storage total)
    (force : Bool) :
    P (output.tryCut medium force).2.1 (output.tryCut medium force).2.2.storage total := by
  have asking (request : Request) :
      P { output with request := some request } medium.storage total :=
    invariant.alike (.asking output request) holds
  unfold Output.tryCut
  split
  · exact holds
  · split
    · exact holds
    · dsimp only
      split
      · exact invariant.moveAt _ _ rfl (asking _)
      · split
        · exact invariant.moveAt _ _ rfl (asking _)
        · exact invariant.flushAll (asking _)

theorem flush (invariant : Invariant limits P) (holds : P output medium.storage total) :
    P (output.flush medium).1 (output.flush medium).2.storage total := by
  unfold Output.flush
  split
  · exact invariant.tryCut holds false
  · exact invariant.flushAll holds

theorem append (invariant : Invariant limits P) (holds : P output medium.storage total)
    (data : Bytes) :
    P (output.append medium data).1 (output.append medium data).2.storage (total ++ data) := by
  by_cases full : output.buffer.remaining < data.length
  · have roomy : P { (output.flush medium).1 with
        buffer := (output.flush medium).1.buffer.makeRoom data.length }
        (output.flush medium).2.storage total :=
      invariant.alike ⟨Buffer.content_makeRoom .., rfl, rfl, rfl, rfl, id, rfl⟩
        (invariant.flush holds)
    rw [append_of_full full]
    exact invariant.extend data roomy
  · rw [append_of_room full]
    exact invariant.extend data holds

theorem startSwitch (invariant : Invariant limits P) (holds : P output medium.storage total)
    (name : String) (token : UInt32) :
    P (output.startSwitch medium name token).2.1
      (output.startSwitch medium name token).2.2.storage total := by
  have asking (request : Request) :
      P { output with request := some request } medium.storage total :=
    invariant.alike (.asking output request) holds
  unfold Output.startSwitch
  split
  · exact holds
  · exact invariant.tryCut (asking _) false

theorem perform (invariant : Invariant limits P) (holds : P output medium.storage total)
    (operation : Operation) (allowed : ∀ limit, operation = .setRingLimit limit → limits limit) :
    P (operation.perform (output, medium)).1 (operation.perform (output, medium)).2.storage
      (total ++ operation.data) := by
  cases operation with
  | append data => exact invariant.append holds data
  | flush =>
    simp only [Operation.data, List.append_nil]
    exact invariant.flush holds
  | startSwitch name token =>
    simp only [Operation.data, List.append_nil]
    exact invariant.startSwitch holds name token
  | forceSwitch =>
    simp only [Operation.data, List.append_nil]
    exact invariant.tryCut holds true
  | awaitSwitch =>
    simp only [Operation.data, List.append_nil, Operation.perform, awaitSwitch]
    split
    · exact holds
    · exact invariant.tryCut holds true
  | setPolicy kind family videoPid =>
    simp only [Operation.data, List.append_nil]
    refine invariant.alike ?_ holds
    exact ⟨rfl, rfl, rfl, rfl, rfl, id, rfl⟩
  | setRingLimit limit =>
    simp only [Operation.data, List.append_nil]
    exact invariant.limit limit (allowed limit rfl) holds
  | detach =>
    simp only [Operation.data, List.append_nil, Operation.perform, detach]
    split
    · refine invariant.alike ?_ holds
      exact ⟨rfl, rfl, rfl, rfl, rfl, id, rfl⟩
    · exact holds

theorem run (invariant : Invariant limits P) (total : Bytes)
    (holds : P output medium.storage total) (operations : List Operation)
    (allowed : ∀ limit, .setRingLimit limit ∈ operations → limits limit) :
    P (run operations (output, medium)).1 (run operations (output, medium)).2.storage
      (total ++ appended operations) := by
  induction operations generalizing output medium total with
  | nil =>
    simp only [appended, List.flatMap_nil, List.append_nil]
    exact holds
  | cons operation rest ih =>
    have next := invariant.perform holds operation
      fun limit same => allowed limit (same ▸ List.mem_cons_self ..)
    rw [appended, List.flatMap_cons, ← List.append_assoc]
    exact ih _ next fun limit member => allowed limit (List.mem_cons_of_mem _ member)

end Invariant

end MpegRecorder.Output
