import MpegRecorder.Proofs.Session.Watching

/-!
A session that records. What the engine was given and where the feeder stands depend on the bytes since
the recording began and on nothing else, however they came; at the end the packets that still wait follow.
-/

namespace MpegRecorder

open Capture Config

def Config.forwarded {config : Config} (valid : config.Valid) (stream : Bytes) : List Bytes :=
  let fed := (newFeeder valid).push stream
  fed.1 ++ fed.2.finish.1

def Config.wasted {config : Config} (valid : config.Valid) (stream : Bytes) : Nat :=
  ((newFeeder valid).push stream).2.finish.2.dropped

namespace Output

/-- The output of a session from the moment on at which its container is known. -/
def begun (output : Output) (params : EngineParams) (container : Container) : Output :=
  { output with
    policy := { output.policy with
      output := params.output
      family := container.family?
      videoPid := container.video.map fun stream => stream.pid }
    accepting := true }

end Output

namespace Session

variable {φ ε : Type} [Engine ε] {config : Config} {valid : config.Valid}

theorem recordChunks_append (engine : ε) (output : Output) (medium : Medium)
    (chunks more : List Bytes) :
    recordChunks engine output medium (chunks ++ more) =
      recordChunks (recordChunks engine output medium chunks).1
        (recordChunks engine output medium chunks).2.1
        (recordChunks engine output medium chunks).2.2 more :=
  List.foldl_append ..

/--
A session that records since the bytes `since` began, when its engine, its output and the medium were the
given ones and `lost` bytes had been dropped.
-/
structure Underway (valid : config.Valid) (engine : ε) (output : Output) (medium : Medium)
    (lost : Nat) (since : Bytes) (session : Session φ ε) (now : Medium) : Prop where
  going : session.closed = false
  known : session.container.isSome = true
  replayed : session.feeder =
    ((newFeeder valid).push since).2.shift (lost + session.superseded)
  recorded : ∃ later, session.engine = some later ∧
    recordChunks engine output medium ((newFeeder valid).push since).1 = (later, session.output, now)

variable {session : Session φ ε} {engine : ε} {output : Output} {medium now : Medium} {lost : Nat}
  {since : Bytes}

theorem Underway.container_ne (underway : Underway valid engine output medium lost since session now) :
    session.container ≠ none :=
  Option.isSome_iff_ne_none.mp underway.known

theorem Underway.record (underway : Underway valid engine output medium lost since session now)
    (data : Bytes) :
    Underway valid engine output medium lost (since ++ data) (session.record now data).1
      (session.record now data).2 := by
  obtain ⟨going, known, replayed, later, running, recorded⟩ := underway
  have fit := fit_newFeeder valid
  have whole := fit.push_append since data
  have pushed : session.feeder.push data =
      ((((newFeeder valid).push since).2.push data).1,
        ((newFeeder valid).push (since ++ data)).2.shift (lost + session.superseded)) := by
    rw [replayed, (fit.push since).push_shift, whole]
  have step : session.record now data =
      ({ session with
          engine := some
            (recordChunks later session.output now (((newFeeder valid).push since).2.push data).1).1
          feeder := ((newFeeder valid).push (since ++ data)).2.shift (lost + session.superseded)
          output :=
            (recordChunks later session.output now
              (((newFeeder valid).push since).2.push data).1).2.1 },
        (recordChunks later session.output now
          (((newFeeder valid).push since).2.push data).1).2.2) := by
    simp only [Session.record, running, pushed]
  rw [step]
  refine ⟨going, known, rfl, _, rfl, ?_⟩
  rw [whole, recordChunks_append, recorded]

theorem Retaining.startRecording (retaining : Retaining valid output session)
    (running : session.engine = some engine) (medium : Medium) (container : Container) :
    Underway valid engine (output.begun session.params container) medium session.lost
      session.retained (session.startRecording medium container).1
      (session.startRecording medium container).2 := by
  have counted := retaining.counted
  have dropped := retaining.abreast.dropped
  have reset := retaining.abreast.reset_feeder
  have nothing : (newFeeder valid).push [] = ([], newFeeder valid) := Feeder.push_nil _
  let restarted : Session φ ε := { session with
    output := session.output.begun session.params container
    container := some container
    superseded := session.superseded + (session.feeder.dropped - session.droppedBefore)
    feeder := session.feeder.reset
    droppedBefore := session.feeder.dropped
    detection := session.detection.reset
    limit_pos := session.limit_pos }
  have start : Underway valid engine (output.begun session.params container) medium session.lost []
      restarted medium := by
    refine ⟨retaining.going, rfl, ?_, engine, running, ?_⟩
    · have count : session.feeder.dropped = session.lost + restarted.superseded := by
        simp only [lost, restarted]
        omega
      rw [nothing, ← count]
      exact reset
    · rw [nothing, ← retaining.output]
      rfl
  exact start.record session.retained

theorem close_of_going (going : session.closed = false) (medium : Medium) :
    let drained := { session with closed := true }.drain medium
    (session.close medium).1.output = (drained.1.output.finish drained.2).1 ∧
      (session.close medium).2.storage = (drained.1.output.finish drained.2).2.storage ∧
      (session.close medium).1.dropped = drained.1.dropped := by
  simp only [Session.close, going, Bool.false_eq_true, if_false]
  refine ⟨trivial, ?_, rfl⟩
  split <;> rfl

theorem close_shape (session : Session φ ε) (medium : Medium) :
    ∃ engine feeder output closed, (session.close medium).1 =
        { session with engine, feeder, output, closed } ∧
      (feeder = session.feeder ∨ feeder = session.feeder.finish.2) := by
  unfold Session.close
  split
  · exact ⟨_, _, _, _, rfl, .inl rfl⟩
  · unfold drain
    dsimp only
    split
    · exact ⟨_, _, _, _, rfl, .inl rfl⟩
    · refine ⟨_, _, _, _, rfl, ?_⟩
      split
      · exact .inr rfl
      · exact .inl rfl

theorem Underway.close (underway : Underway valid engine output medium lost since session now) :
    ∃ later written place, recordChunks engine output medium (forwarded valid since) =
        (later, written, place) ∧
      let closing := written.receiveAll place (Engine.close later).1
      (session.close now).1.output = (closing.1.finish closing.2).1 ∧
      (session.close now).2.storage = (closing.1.finish closing.2).2.storage ∧
      (session.close now).1.dropped = lost + wasted valid since := by
  obtain ⟨going, known, replayed, later, running, recorded⟩ := underway
  have finish : session.feeder.finish =
      (((newFeeder valid).push since).2.finish.1,
        ((newFeeder valid).push since).2.finish.2.shift (lost + session.superseded)) := by
    rw [replayed, Feeder.finish_shift]
  let last := recordChunks later session.output now ((newFeeder valid).push since).2.finish.1
  let closing := last.2.1.receiveAll last.2.2 (Engine.close last.1).1
  have drained : { session with closed := true }.drain now =
      ({ session with
          closed := true
          engine := none
          feeder := ((newFeeder valid).push since).2.finish.2.shift (lost + session.superseded)
          output := closing.1 },
        closing.2) := by
    simp only [drain, running, known, if_true, finish]
    rfl
  have ended := close_of_going going now
  rw [drained] at ended
  obtain ⟨output, storage, dropped⟩ := ended
  refine ⟨last.1, last.2.1, last.2.2, ?_, output, storage, dropped.trans ?_⟩
  · rw [forwarded, recordChunks_append, recorded]
  · simp only [Session.dropped, Feeder.dropped_shift, wasted]
    omega

theorem Retaining.close (retaining : Retaining valid output session)
    (running : session.engine = some engine) (silent : output.accepting = false) (medium : Medium) :
    (session.close medium).1.output = (output.finish medium).1 ∧
      (session.close medium).2.storage = (output.finish medium).2.storage ∧
      (session.close medium).1.dropped =
        session.lost + ((newFeeder valid).push session.retained).2.dropped := by
  have drained : { session with closed := true }.drain medium =
      ({ session with closed := true, engine := none, output }, medium) := by
    simp only [drain, running, retaining.unknown, recordChunks, List.foldl_nil, retaining.output,
      Output.receiveAll_of_silent silent, Option.isSome_none, Bool.false_eq_true, if_false]
  have ended := close_of_going retaining.going medium
  rw [drained] at ended
  obtain ⟨finished, storage, dropped⟩ := ended
  have counted := retaining.counted
  have total := retaining.abreast.dropped
  refine ⟨finished, storage, dropped.trans ?_⟩
  simp only [Session.dropped, lost]
  omega

end Session

end MpegRecorder
