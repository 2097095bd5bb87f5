import MpegRecorder.Proofs.Output.Acts
import MpegRecorder.Proofs.Session.Ended
import MpegRecorder.Proofs.Session.Steps
import MpegRecorder.Proofs.Session.Whereabouts

/-!
The acts of a session on its output, in the order in which they are done. The beginning of the recording sets
what is searched for; performed in a row, the acts of all calls lead the output where the calls lead it.
-/

namespace MpegRecorder

open Capture

namespace Session

open Output (Act)

variable {φ ε : Type} [Engine ε]

def remuxed (engine : ε) : List Bytes → List Emission × ε
  | [] => ([], engine)
  | chunk :: later =>
    let first := Engine.remux engine chunk
    let rest := remuxed first.2 later
    (first.1 ++ rest.1, rest.2)

theorem recordChunks_eq (engine : ε) (output : Output) (medium : Medium) (chunks : List Bytes) :
    recordChunks engine output medium chunks =
      ((remuxed engine chunks).2, output.receiveAll medium (remuxed engine chunks).1) := by
  induction chunks generalizing engine output medium with
  | nil => rfl
  | cons chunk later ih =>
    have step : recordChunks engine output medium (chunk :: later) =
        recordChunks (Engine.remux engine chunk).2
          (output.receiveAll medium (Engine.remux engine chunk).1).1
          (output.receiveAll medium (Engine.remux engine chunk).1).2 later := rfl
    rw [step, ih, remuxed, Output.receiveAll_append]

def emitted (session : Session φ ε) (data : Bytes) : List Emission :=
  match session.engine with
  | none => []
  | some engine => (remuxed engine (session.feeder.push data).1).1

def closing (session : Session φ ε) : List Emission :=
  match session.engine with
  | none => []
  | some engine => (Engine.close engine).1

/-- What is emitted when the session ends, for the packets that still wait and as its engine is closed. -/
def drained (session : Session φ ε) : List Emission :=
  match session.engine with
  | none => []
  | some engine =>
    let chunks := if session.container.isSome then session.feeder.finish.1 else []
    (remuxed engine chunks).1 ++ (Engine.close (remuxed engine chunks).2).1

variable (session : Session φ ε) (medium : Medium)

theorem outlet_record (data : Bytes) :
    outlet (session.record medium data) =
      Act.after (session.output.taken (session.emitted data)) (session.output, medium) := by
  rw [← Output.receiveAll_eq, emitted]
  cases running : session.engine with
  | none =>
    simp only [record, running]
    rfl
  | some engine =>
    simp only [record, running, recordChunks_eq]
    rfl

theorem outlet_drain :
    outlet (session.drain medium) =
      Act.after (session.output.taken session.drained) (session.output, medium) := by
  rw [← Output.receiveAll_eq, drained]
  cases running : session.engine with
  | none =>
    simp only [drain, running]
    rfl
  | some engine =>
    have waits : (if session.container.isSome then session.feeder.finish
        else ([], session.feeder)).1 =
        if session.container.isSome then session.feeder.finish.1 else [] := by
      split <;> rfl
    simp only [drain, running, recordChunks_eq, waits]
    exact (Output.receiveAll_append ..).symm

def beginActs (container : Container) : List Act :=
  [.ask (.setPolicy session.params.output container.family?
      (container.video.map fun stream => stream.pid)), .accept] ++
    (session.restartRetained.emitted session.retained).map fun emission => .ask emission.operation

theorem outlet_startRecording (container : Container) :
    outlet (session.startRecording medium container) =
      Act.after (session.beginActs container) (session.output, medium) := by
  have begun (started : Session φ ε) (output : started.output = session.output.begun session.params container)
      (engine : started.engine = session.engine) (feeder : started.feeder = session.feeder.reset) :
      outlet (started.record medium session.retained) =
        Act.after (session.beginActs container) (session.output, medium) := by
    have same : started.emitted session.retained = session.restartRetained.emitted session.retained := by
      rw [emitted, emitted, engine, feeder]
      rfl
    rw [outlet_record, Output.taken, output, same, beginActs, Act.after_append]
    rfl
  exact begun _ rfl rfl rfl

variable [EngineFactory φ ε]

theorem outlet_reopenEngine :
    outlet (session.reopenEngine medium).2 =
      Act.after (session.output.taken session.closing) (session.output, medium) := by
  rw [← Output.receiveAll_eq, closing]
  cases running : session.engine with
  | none =>
    simp only [reopenEngine, running]
    split <;> rfl
  | some engine =>
    simp only [reopenEngine, running]
    split <;> rfl

def pollActs : List Act :=
  match session.detected? with
  | none => if session.givesUp then session.output.taken session.closing else []
  | some container =>
    if session.params.output = .program ∧ container.needsTransport then
      session.output.taken session.closing ++
        match session.corrected.reopenEngine medium with
        | (false, _) => []
        | (true, reopened, _) =>
          match reopened.analyseRetained.detected? with
          | none => []
          | some container => reopened.analyseRetained.beginActs container
    else session.beginActs container

theorem outlet_poll :
    outlet (session.poll medium).2 = Act.after (session.pollActs medium) (session.output, medium) := by
  unfold poll pollActs
  cases found : session.detected? with
  | none =>
    simp only [onUndetected, givesUp, found, Option.isNone_none, Bool.true_and]
    by_cases full : session.detection.isFull = true
    · by_cases top : session.detection.atCap = true
      · simp only [full, top, Bool.and_self, Bool.not_true, Bool.false_eq_true, if_false, if_true]
        exact session.emptied.outlet_reopenEngine medium
      · simp only [full, top, Bool.and_false, Bool.not_true, Bool.not_false, Bool.false_eq_true, if_false,
          if_true]
        rfl
    · simp only [full, Bool.false_and, Bool.not_false, Bool.false_eq_true, if_false, if_true]
      rfl
  | some container =>
    dsimp only
    by_cases needed : session.params.output = .program ∧ container.needsTransport = true
    · have closed := session.corrected.outlet_reopenEngine medium
      change _ = Act.after (session.output.taken session.closing) (session.output, medium) at closed
      rw [onDetected_of_needed medium needed, if_pos needed, Act.after_append, ← closed]
      split
      · next failed =>
        rw [failed]
        rfl
      · next reopened now opened =>
        rw [opened]
        have kept : outlet (reopened.analyseRetained, now) = outlet (reopened, now) := by
          rw [outlet, outlet, analyseRetained_output]
        split
        · next missed =>
          simp only [missed]
          exact kept
        · next again there =>
          simp only [there]
          rw [outlet_startRecording]
          exact congrArg (Act.after _) kept
    · rw [if_neg needed, onDetected, if_neg needed]
      exact session.outlet_startRecording medium container

def Step.acts (step : Step φ ε) : List Act :=
  if step.session.container.isSome then step.session.output.taken (step.session.emitted step.rest)
  else (step.session.analyse step.rest).pollActs step.medium

theorem Step.outlet_next (step : Step φ ε) :
    outlet step.next = Act.after step.acts (step.session.output, step.medium) := by
  unfold next acts
  split
  · exact step.session.outlet_record ..
  · rw [outlet_poll, analyse_output]

theorem Step.Lead.outlet {first last : Session φ ε × Medium} {steps : List (Step φ ε)}
    (lead : Lead first steps last) :
    Session.outlet last = Act.after (steps.flatMap acts) (Session.outlet first) := by
  induction lead with
  | done => rfl
  | step came _ ih =>
    rw [ih, List.flatMap_cons, Act.after_append, ← came, outlet_next]
    rfl

def Call.acts (call : Call) (session : Session φ ε) (medium : Medium) : List Act :=
  match call with
  | feed data => if session.closed then [] else (session.stepsFrom medium data).flatMap Step.acts
  | startSwitch name token => [.ask (.startSwitch name token)]
  | forceSwitch => [.ask .forceSwitch]
  | awaitSwitch => [.ask .awaitSwitch]
  | detach => [.ask .detach]
  | close =>
    if session.closed then []
    else session.output.taken session.drained ++ Act.ending ++ [.leave]

theorem Call.outlet_perform (call : Call) (session : Session φ ε) (medium : Medium) :
    outlet (call.perform session medium) =
      Act.after (call.acts session medium) (session.output, medium) := by
  cases call with
  | feed data =>
    simp only [perform, acts, Session.feed]
    split
    · rfl
    · exact (session.stepsFrom_lead medium data).1.outlet
  | close =>
    simp only [perform, acts, Session.close]
    split
    · rfl
    · have drain := { session with closed := true }.outlet_drain medium
      change _ = Act.after (session.output.taken session.drained) (session.output, medium) at drain
      rw [Act.after_append, Act.after_append, ← drain, outlet, Act.after_ending]
      rfl
  | _ => rfl

def run (calls : List Call) (state : Session φ ε × Medium) : Session φ ε × Medium :=
  calls.foldl (fun state call => call.perform state.1 state.2) state

def acts : List Call → Session φ ε × Medium → List Act
  | [], _ => []
  | call :: later, state => call.acts state.1 state.2 ++ acts later (call.perform state.1 state.2)

/-- The acts of all calls lead the output where the calls lead it. -/
theorem outlet_run (calls : List Call) (state : Session φ ε × Medium) :
    outlet (run calls state) = Act.after (acts calls state) (outlet state) := by
  induction calls generalizing state with
  | nil => rfl
  | cons call later ih =>
    rw [acts, Act.after_append]
    refine (ih (call.perform state.1 state.2)).trans (congrArg (Act.after _) ?_)
    exact call.outlet_perform state.1 state.2

end Session

end MpegRecorder
