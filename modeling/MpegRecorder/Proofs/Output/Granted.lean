import MpegRecorder.Proofs.Output.Acts
import MpegRecorder.Proofs.Output.Served
import MpegRecorder.Proofs.Storage.Granting

/-!
Recordings of which no move is refused. With an opener that grants whatever is asked of it, that is so whatever
is done to the recording.
-/

namespace MpegRecorder.Output

/-- No move was refused its destination. -/
def Granted (events : List Event) : Prop :=
  ∀ name token, .refused name token ∉ events

theorem granted_nil : Granted [] := nofun

theorem granted_append {events more : List Event} :
    Granted (events ++ more) ↔ Granted events ∧ Granted more := by
  simp only [Granted, List.mem_append, not_or, forall_and]

namespace Outside

variable {before after : Outside}

theorem Happens.granted {event : Event} (happens : before.Happens event after)
    (grants : before.opener.Grants) : Granted [event] ∧ after.opener.Grants := by
  have never {event : Event} (other : ∀ name token, event ≠ .refused name token) : Granted [event] :=
    fun name token member => other name token (List.mem_singleton.mp member).symm
  cases happens with
  | write => exact ⟨never nofun, grants⟩
  | rewind => exact ⟨never nofun, grants⟩
  | close => exact ⟨never nofun, grants⟩
  | @opened name token destination opener storage shut granted =>
    obtain ⟨behaviour, later, -, opened, still, -⟩ := grants.openFile before.storage name token
    cases granted.symm.trans opened
    exact ⟨never nofun, still⟩
  | @refused name token error opener storage shut denied =>
    obtain ⟨behaviour, later, -, opened, -⟩ := grants.openFile before.storage name token
    cases denied.symm.trans opened

theorem History.granted {events : List Event} (history : before.History events after)
    (grants : before.opener.Grants) : Granted events ∧ after.opener.Grants := by
  induction history with
  | nil => exact ⟨granted_nil, grants⟩
  | cons first _ ih =>
    obtain ⟨here, still⟩ := first.granted grants
    obtain ⟨later, last⟩ := ih still
    exact ⟨granted_append.mpr ⟨here, later⟩, last⟩

end Outside

namespace Act

def events : Act → Output × Medium → List Event
  | ask operation, state => operation.events state
  | _, _ => []

def history : List Act → Output × Medium → List Event
  | [], _ => []
  | act :: later, state => act.events state ++ history later (act.perform state)

theorem granted_events (act : Act) {state : Output × Medium} (grants : state.1.opener.Grants) :
    Granted (act.events state) ∧ (act.perform state).1.opener.Grants := by
  obtain ⟨output, medium⟩ := state
  cases act with
  | ask operation => exact (served_perform operation (output, medium)).happened.granted grants
  | accept => exact ⟨granted_nil, grants⟩
  | conclude => exact ⟨granted_nil, grants⟩
  | writeAll => exact ⟨granted_nil, ((history_flushAll output medium).granted grants).2⟩
  | shut => exact ⟨granted_nil, ((history_closeDestination output medium).granted grants).2⟩
  | leave => exact ⟨granted_nil, grants⟩

theorem granted_history (acts : List Act) {state : Output × Medium} (grants : state.1.opener.Grants) :
    Granted (history acts state) := by
  induction acts generalizing state with
  | nil => exact granted_nil
  | cons act later ih =>
    obtain ⟨here, still⟩ := act.granted_events grants
    exact granted_append.mpr ⟨here, ih still⟩

end Act

end MpegRecorder.Output
