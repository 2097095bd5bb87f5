import MpegRecorder.Proofs.Output.Invariant
import MpegRecorder.Proofs.Output.Move
import MpegRecorder.Session.Basic

/-!
Recordings without a destination. As long as a recording goes on, it is without one only because the
destination asked for could not be opened, and then the request for it is still there.
-/

namespace MpegRecorder.Output

variable {output : Output}

theorem flushAll_shut (shut : output.destination = none) (medium : Medium) :
    output.flushAll medium = ({ output with buffer := output.buffer.clear }, medium) := by
  simp only [flushAll, writeOut, shut]

theorem Settled.flush (settled : output.Settled) (medium : Medium) :
    (output.flush medium).1.Settled := by
  obtain ⟨isOpen, idle⟩ := settled
  obtain ⟨destination, current⟩ := Option.isSome_iff_exists.mp isOpen
  have flushed : output.flush medium = output.flushAll medium := by
    simp only [Output.flush, idle, Option.isSome_none, Bool.false_eq_true, ↓reduceIte]
  rw [flushed]
  simp only [flushAll, writeOut, current]
  exact ⟨rfl, idle⟩

def Operation.Feeds : Operation → Prop
  | append _ | flush => True
  | _ => False

theorem Settled.perform (settled : output.Settled) {operation : Operation}
    (feeds : operation.Feeds) (medium : Medium) :
    (operation.perform (output, medium)).1.Settled := by
  cases operation with
  | append data =>
    by_cases full : output.buffer.remaining < data.length
    · obtain ⟨isOpen, idle⟩ := settled.flush medium
      simp only [Operation.perform, append_of_full full]
      exact ⟨isOpen, idle⟩
    · simp only [Operation.perform, append_of_room full]
      exact ⟨settled.isOpen, settled.idle⟩
  | flush => exact settled.flush medium
  | _ => exact feeds.elim

theorem Settled.run (settled : output.Settled) {operations : List Operation}
    (feeding : ∀ operation ∈ operations, operation.Feeds) (medium : Medium) :
    (run operations (output, medium)).1.Settled := by
  induction operations generalizing output medium with
  | nil => exact settled
  | cons operation rest ih =>
    have next := settled.perform (feeding operation (List.mem_cons_self ..)) medium
    exact ih next (fun other member => feeding other (List.mem_cons_of_mem _ member)) _

/-- Where no destination is open, the request for the next one is still there. -/
def Held (output : Output) : Prop :=
  output.destination = none → output.Stranded

theorem Held.flushAll (held : output.Held) (medium : Medium) : (output.flushAll medium).1.Held := by
  cases current : output.destination with
  | none =>
    rw [flushAll_shut current]
    exact fun shut => ⟨shut, (held current).asked⟩
  | some destination =>
    intro shut
    simp only [Output.flushAll, writeOut, current] at shut
    cases shut

theorem Held.moveAt (asked : output.request.isSome) (medium : Medium) (request : Request)
    (cut : Nat) : (output.moveAt medium request cut).2.1.Held := by
  intro shut
  rcases moveAt_outcome asked medium request cut with stranded | settled
  · exact stranded.1
  · have isOpen := settled.1.isOpen
    rw [shut] at isOpen
    cases isOpen

theorem held_invariant : Invariant (fun _ => True) fun output _ _ => output.Held where
  alike same held := by
    intro shut
    exact ⟨shut, same.asked (held (same.destination ▸ shut)).asked⟩
  limit _ _ held := fun shut => ⟨shut, (held shut).asked⟩
  extend _ held := fun shut => ⟨shut, (held shut).asked⟩
  flushAll held := held.flushAll _
  moveAt request cut asked _ := Held.moveAt asked _ request cut

/-- Whatever was asked of a recording, it is without a destination only where one was refused. -/
theorem stranded_of_shut {φ : Type} (setup : Session.Setup φ) (recording : Nat) (medium : Medium)
    (operations : List Operation)
    (shut : (run operations (setup.newOutput recording, medium)).1.destination = none) :
    (run operations (setup.newOutput recording, medium)).1.Stranded := by
  have start : (setup.newOutput recording).Held := nofun
  have held : (run operations (setup.newOutput recording, medium)).1.Held :=
    held_invariant.run [] start operations fun _ _ => trivial
  exact held shut

end MpegRecorder.Output
