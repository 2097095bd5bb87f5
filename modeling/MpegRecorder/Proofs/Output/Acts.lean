import MpegRecorder.Proofs.Output.Frame
import MpegRecorder.Proofs.Output.Operation
import MpegRecorder.Proofs.Session.Reliable

/-!
What a session does to its output, act by act. The emissions of its engines come as appends and flushes while
the output takes them, and its end is a forced move before all is written out and closed.
-/

namespace MpegRecorder

namespace Output

inductive Act where
  | ask (operation : Operation)
  /-- Bytes of engines are taken from now on. -/
  | accept
  /-- No request is taken any more. -/
  | conclude
  | writeAll
  | shut
  /-- The registry lists the recording no longer. -/
  | leave

namespace Act

def perform : Act → Output × Medium → Output × Medium
  | ask operation, state => operation.perform state
  | accept, (output, medium) => ({ output with accepting := true }, medium)
  | conclude, (output, medium) => ({ output with closed := true }, medium)
  | writeAll, (output, medium) => output.flushAll medium
  | shut, (output, medium) =>
    ({ (output.closeDestination medium).1 with accepting := false }, (output.closeDestination medium).2)
  | leave, (output, medium) =>
    (output,
      if output.registered then
        { medium with registry := medium.registry.unregister output.path output.recording }
      else medium)

def after (acts : List Act) (state : Output × Medium) : Output × Medium :=
  acts.foldl (fun state act => act.perform state) state

theorem after_append (acts later : List Act) (state : Output × Medium) :
    after (acts ++ later) state = after later (after acts state) :=
  List.foldl_append ..

def ending : List Act :=
  [conclude, ask .forceSwitch, writeAll, shut]

theorem after_ending (output : Output) (medium : Medium) :
    after ending (output, medium) = output.finish medium := rfl

end Act

end Output

def Emission.operation : Emission → Output.Operation
  | write data => .append data
  | flush => .flush

namespace Output

/-- What emissions come to: nothing, unless the output takes them. -/
def taken (output : Output) (emissions : List Emission) : List Act :=
  if output.accepting then emissions.map fun emission => .ask emission.operation else []

theorem accepting_flush (output : Output) (medium : Medium) :
    (output.flush medium).1.accepting = output.accepting := by
  unfold flush
  split
  · exact (frame_tryCut output medium false).accepting
  · exact (frame_flushAll output medium).accepting

theorem accepting_emission (emission : Emission) (state : Output × Medium) :
    (emission.operation.perform state).1.accepting = state.1.accepting := by
  obtain ⟨output, medium⟩ := state
  cases emission with
  | write data =>
    by_cases full : output.buffer.remaining < data.length
    · simp only [Emission.operation, Operation.perform, append_of_full full]
      exact output.accepting_flush medium
    · simp only [Emission.operation, Operation.perform, append_of_room full]
  | flush => exact output.accepting_flush medium

theorem receiveAll_eq (output : Output) (medium : Medium) (emissions : List Emission) :
    output.receiveAll medium emissions = Act.after (output.taken emissions) (output, medium) := by
  by_cases accepts : output.accepting = true
  · rw [taken, if_pos accepts, Act.after, List.foldl_map, receiveAll]
    have takes (emissions : List Emission) (state : Output × Medium) (accepts : state.1.accepting = true) :
        emissions.foldl (fun state emission => state.1.receive state.2 emission) state =
          emissions.foldl (fun state emission => (Act.ask emission.operation).perform state) state := by
      induction emissions generalizing state with
      | nil => rfl
      | cons emission later ih =>
        have first : state.1.receive state.2 emission = emission.operation.perform state := by
          cases emission <;> exact if_pos accepts
        rw [List.foldl_cons, List.foldl_cons, first]
        exact ih _ ((accepting_emission emission state).trans accepts)
    exact takes emissions (output, medium) accepts
  · rw [taken, if_neg accepts]
    exact receiveAll_of_silent (Bool.not_eq_true _ ▸ accepts) medium emissions

end Output

end MpegRecorder
