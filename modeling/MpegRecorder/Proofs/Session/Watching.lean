import MpegRecorder.Proofs.Capture.Replay
import MpegRecorder.Proofs.Session.Reliable

/-!
A session that does not know its container. Its feeder stands where the retained bytes bring a new one,
its engine has seen the chunks that came of them, and nothing is written. One step keeps this: it waits
for more, starts over at the cap, looks again with another engine, or begins to record.
-/

namespace MpegRecorder

open Capture Transport

namespace Config

variable {config : Config}

def newFeeder (valid : config.Valid) : Feeder :=
  .new config.packetSize config.maxTransfer valid.transfer_pos

theorem Valid.confirms (valid : config.Valid) :
    Sync.span config.packetSize ≤ config.maxTransfer := by
  unfold Valid fault? at valid
  repeat' split at valid
  all_goals first | omega | cases valid

theorem Valid.cap_pos (valid : config.Valid) : 0 < config.maxDetection :=
  ne_zero_of_isAligned valid.aligned.2.2

theorem fit_newFeeder (valid : config.Valid) : (newFeeder valid).Fit :=
  .new _ valid.confirms

end Config

open Config

namespace Session

variable {φ ε : Type}

def retained (session : Session φ ε) : Bytes :=
  session.detection.retained.toList

/-- Bytes dropped before the retained ones, each counted once. -/
def lost (session : Session φ ε) : Nat :=
  session.droppedBefore - session.superseded

variable {config : Config} {valid : config.Valid} {output : Output}

def passed (valid : config.Valid) (session : Session φ ε) : List Bytes :=
  ((newFeeder valid).push session.retained).1

/-- The feeder stands where the retained bytes bring a new one. -/
def Abreast (valid : config.Valid) (session : Session φ ε) : Prop :=
  session.feeder = ((newFeeder valid).push session.retained).2.shift session.droppedBefore

section Abreast

variable {session : Session φ ε} (abreast : Abreast valid session)
include abreast

theorem Abreast.push (input : Bytes) :
    session.feeder.push input =
      (((newFeeder valid).push session.retained).2.push input |>.1,
        ((newFeeder valid).push (session.retained ++ input)).2.shift session.droppedBefore) := by
  have fit := fit_newFeeder valid
  have stands : session.feeder = _ := abreast
  rw [stands, (fit.push _).push_shift, fit.push_append]

theorem Abreast.reset_feeder :
    session.feeder.reset = (newFeeder valid).shift session.feeder.dropped := by
  obtain ⟨packetSize, unit⟩ := (fit_newFeeder valid).sizes_push session.retained
  have stands : session.feeder = _ := abreast
  exact Feeder.reset_eq _ (by rw [stands]; exact packetSize) (by rw [stands]; exact unit)

theorem Abreast.dropped :
    session.feeder.dropped =
      session.droppedBefore + ((newFeeder valid).push session.retained).2.dropped := by
  have stands : session.feeder = _ := abreast
  rw [stands, Feeder.dropped_shift]

/-- Set back, the feeder passes on what it did of the retained bytes, and ends where it stood. -/
theorem Abreast.replay :
    session.feeder.reset.push session.retained =
      (session.passed valid,
        ((newFeeder valid).push session.retained).2.shift session.feeder.dropped) := by
  rw [abreast.reset_feeder, (fit_newFeeder valid).push_shift]
  rfl

end Abreast

structure Retaining (valid : config.Valid) (output : Output) (session : Session φ ε) : Prop where
  going : session.closed = false
  unknown : session.container = none
  output : session.output = output
  cap : session.detection.cap = config.maxDetection
  level : session.detection.limit ≤ config.maxDetection
  replayed : session.feeder =
    ((newFeeder valid).push session.retained).2.shift session.droppedBefore
  counted : session.superseded ≤ session.droppedBefore

structure Same (session next : Session φ ε) : Prop where
  retained : next.retained = session.retained
  resets : next.stats.resets = session.stats.resets
  lost : next.lost = session.lost

theorem Same.refl (session : Session φ ε) : Same session session := ⟨rfl, rfl, rfl⟩

section Retaining

variable {session : Session φ ε} (retaining : Retaining valid output session)
include retaining

theorem Retaining.level_le : session.retained.length ≤ config.maxDetection := by
  rw [retained, Packed.length_toList]
  exact Nat.le_trans session.detection.size_le retaining.level

theorem Retaining.abreast : Abreast valid session :=
  retaining.replayed

end Retaining

section Watching

variable {usable : φ → EngineParams → Prop} {seen : List Bytes → ε → Prop} {session : Session φ ε}

/-- A session whose engine has seen all that the feeder passed on of the retained bytes. -/
structure Watching (valid : config.Valid) (usable : φ → EngineParams → Prop)
    (seen : List Bytes → ε → Prop) (output : Output) (session : Session φ ε) : Prop extends
    Retaining valid output session where
  able : usable session.factory session.params
  analysed : ∃ engine, session.engine = some engine ∧ seen (session.passed valid) engine

theorem Watching.grow (watching : Watching valid usable seen output session)
    (below : ¬ session.detection.atCap = true) (growths : Nat) :
    Watching valid usable seen output { session with
      detection := session.detection.grow
      limit_pos := Nat.lt_of_lt_of_le session.limit_pos session.detection.limit_le_grow
      stats := { session.stats with growths } } := by
  have kept : session.detection.grow.retained = session.detection.retained := by
    rw [Detection.grow, dif_neg below]
  have cap : session.detection.grow.cap = session.detection.cap := by
    rw [Detection.grow, dif_neg below]
  refine ⟨⟨watching.going, watching.unknown, watching.output, cap.trans watching.cap, ?_, ?_,
    watching.counted⟩, watching.able, ?_⟩
  · rw [Detection.limit_grow below, watching.cap]
    exact Nat.min_le_right ..
  · simp only [retained, kept]
    exact watching.replayed
  · simp only [passed, retained, kept]
    exact watching.analysed

variable [Engine ε]

theorem Abreast.analyseRetained_eq {engine : ε} (abreast : Abreast valid session)
    (running : session.engine = some engine) :
    session.analyseRetained = { session with
      superseded := session.superseded + (session.feeder.dropped - session.droppedBefore)
      feeder := ((newFeeder valid).push session.retained).2.shift session.feeder.dropped
      droppedBefore := session.feeder.dropped
      engine := some (analyseUntilDone engine (session.passed valid)) } := by
  have replay := abreast.replay
  rw [retained] at replay
  simp only [analyseRetained, restartRetained, running, replay]
  rfl

theorem Retaining.analyseRetained {engine : ε} (retaining : Retaining valid output session)
    (running : session.engine = some engine) :
    Retaining valid output session.analyseRetained ∧ Same session session.analyseRetained := by
  have counted := retaining.counted
  have dropped := retaining.abreast.dropped
  rw [retaining.abreast.analyseRetained_eq running]
  refine ⟨⟨retaining.going, retaining.unknown, retaining.output, retaining.cap, retaining.level, rfl,
    ?_⟩, rfl, rfl, ?_⟩
  · simp only
    omega
  · simp only [lost]
    omega

theorem analyse_of_running {engine : ε} (running : session.engine = some engine) (input : Bytes) :
    session.analyse input = { session with
      detection := session.detection.append input
      limit_pos := session.limit_pos
      engine := some ((session.feeder.push (session.detection.fitting input)).1.foldl
        (fun engine chunk => (Engine.analyse engine chunk).2) engine)
      feeder := (session.feeder.push (session.detection.fitting input)).2 } := by
  simp only [Session.analyse, running]

theorem Abreast.analyse {engine : ε} (abreast : Abreast valid session)
    (running : session.engine = some engine) (input : Bytes) :
    Abreast valid (session.analyse input) ∧
      (session.analyse input).retained = session.retained ++ session.detection.fitting input ∧
      (session.analyse input).passed valid =
        session.passed valid ++ (session.feeder.push (session.detection.fitting input)).1 := by
  have pushed := abreast.push (session.detection.fitting input)
  have whole := (fit_newFeeder valid).push_append session.retained (session.detection.fitting input)
  have kept : (session.analyse input).retained =
      session.retained ++ session.detection.fitting input := by
    rw [retained, analyse_detection, Detection.toList_append]
    rfl
  refine ⟨?_, kept, ?_⟩
  · rw [Abreast, kept, analyse_of_running running]
    exact congrArg Prod.snd pushed
  · rw [passed, kept, whole, ← congrArg Prod.fst pushed]
    rfl

variable [EngineFactory φ ε]

theorem Watching.analyse (watching : Watching valid usable seen output session)
    (reliable : Reliable usable seen) (input : Bytes) :
    Watching valid usable seen output (session.analyse input) ∧
      (session.analyse input).retained = session.retained ++ session.detection.fitting input ∧
      (session.analyse input).lost = session.lost := by
  obtain ⟨engine, running, saw⟩ := watching.analysed
  obtain ⟨abreast, kept, passed⟩ := watching.abreast.analyse running input
  have read := reliable.analyseAll saw (session.feeder.push (session.detection.fitting input)).1
  rw [analyse_of_running running] at abreast kept passed ⊢
  refine ⟨⟨⟨watching.going, watching.unknown, watching.output, watching.cap, watching.level, abreast,
    watching.counted⟩, watching.able, _, rfl, ?_⟩, kept, rfl⟩
  rw [passed]
  exact read

theorem reopenEngine_shape (session : Session φ ε) (medium : Medium) :
    ∃ factory engine output engineOpens, (session.reopenEngine medium).2.1 =
      { session with factory, engine, output, stats := { session.stats with engineOpens } } := by
  unfold reopenEngine
  split
  split <;> exact ⟨_, _, _, _, rfl⟩

theorem reopenEngine_eq (session : Session φ ε) (reliable : Reliable usable seen)
    (able : usable session.factory session.params) (silent : session.output.accepting = false)
    (medium : Medium) :
    ∃ engine next, session.reopenEngine medium =
        (true,
          { session with
            factory := next
            engine := some engine
            stats := { session.stats with engineOpens := session.stats.engineOpens + 1 } },
          medium) ∧
      usable next session.params ∧ seen [] engine := by
  obtain ⟨engine, next, opened, still, fresh⟩ := reliable.opens able
  refine ⟨engine, next, ?_, still, fresh⟩
  unfold reopenEngine
  cases session.engine with
  | none => simp only [opened]
  | some running => simp only [Output.receiveAll_of_silent silent, opened]

def emptied (session : Session φ ε) : Session φ ε :=
  { session with
    detection := session.detection.reset
    limit_pos := session.limit_pos
    feeder := session.feeder.reset
    droppedBefore := session.feeder.dropped
    params := { session.params with tuning := .automatic }
    stats := { session.stats with resets := session.stats.resets + 1 } }

omit [Engine ε] [EngineFactory φ ε] in
theorem Abreast.emptied (abreast : Abreast valid session) :
    Abreast valid session.emptied ∧ session.emptied.passed valid = [] := by
  have nothing : (newFeeder valid).push [] = ([], newFeeder valid) := Feeder.push_nil _
  constructor
  · change session.feeder.reset = ((newFeeder valid).push []).2.shift session.feeder.dropped
    rw [nothing, abreast.reset_feeder]
  · change ((newFeeder valid).push []).1 = []
    rw [nothing]

theorem Watching.startOver (watching : Watching valid usable seen output session)
    (reliable : Reliable usable seen) (silent : output.accepting = false) (medium : Medium) :
    ∃ next, session.emptied.reopenEngine medium = (true, next, medium) ∧
      Watching valid usable seen output next ∧ next.retained = [] ∧
      next.stats.resets = session.stats.resets + 1 ∧
      next.lost = session.lost + ((newFeeder valid).push session.retained).2.dropped := by
  obtain ⟨engine, factory, opened, able, fresh⟩ := reopenEngine_eq session.emptied reliable
    (reliable.retuned watching.able) (watching.output ▸ silent) medium
  have counted := watching.counted
  have dropped := watching.abreast.dropped
  obtain ⟨abreast, passed⟩ := watching.abreast.emptied
  refine ⟨_, opened, ⟨⟨watching.going, watching.unknown, watching.output, watching.cap, watching.level,
    abreast, ?_⟩, able, engine, rfl, ?_⟩, rfl, rfl, ?_⟩
  · simp only [emptied]
    omega
  · change seen (session.emptied.passed valid) engine
    rw [passed]
    exact fresh
  · simp only [lost, emptied]
    omega

def corrected (session : Session φ ε) : Session φ ε :=
  { session with
    params := { session.params with output := .transport }
    stats := { session.stats with corrections := session.stats.corrections + 1 } }

theorem onDetected_of_needed (medium : Medium) {container : Container}
    (needed : session.params.output = .program ∧ container.needsTransport = true) :
    session.onDetected medium container =
      match session.corrected.reopenEngine medium with
      | (false, session, medium) => (false, session, medium)
      | (true, session, medium) =>
        match session.analyseRetained.detected? with
        | none => (true, session.analyseRetained, medium)
        | some container => (true, session.analyseRetained.startRecording medium container) := by
  rw [onDetected, if_pos needed]
  rfl

theorem Retaining.lookAgain (retaining : Retaining valid output session)
    (reliable : Reliable usable seen) (able : usable session.factory session.corrected.params)
    (silent : output.accepting = false) (medium : Medium) :
    ∃ reopened engine, session.corrected.reopenEngine medium = (true, reopened, medium) ∧
      Retaining valid output reopened.analyseRetained ∧ Same session reopened.analyseRetained ∧
      usable reopened.analyseRetained.factory reopened.analyseRetained.params ∧
      reopened.analyseRetained.engine = some engine ∧
      (∃ front, front <+: session.passed valid ∧ seen front engine) ∧
      (Engine.container? engine = none → seen (session.passed valid) engine) := by
  obtain ⟨engine, factory, opened, able, fresh⟩ := reopenEngine_eq session.corrected reliable able
    (retaining.output ▸ silent) medium
  obtain ⟨reopened, named⟩ : ∃ reopened, reopened = (session.corrected.reopenEngine medium).2.1 :=
    ⟨_, rfl⟩
  rw [opened] at named
  have retaining : Retaining valid output reopened := by
    rw [named]
    exact ⟨retaining.going, retaining.unknown, retaining.output, retaining.cap, retaining.level,
      retaining.replayed, retaining.counted⟩
  have running : reopened.engine = some engine := by rw [named]
  obtain ⟨still, same⟩ := retaining.analyseRetained running
  have equal := retaining.abreast.analyseRetained_eq running
  refine ⟨reopened, analyseUntilDone engine (session.passed valid), ?_, still, ?_, ?_, ?_,
    reliable.analyseUntilDone fresh _⟩
  · rw [opened, named]
  · refine ⟨same.retained.trans ?_, same.resets.trans ?_, same.lost.trans ?_⟩ <;> rw [named] <;> rfl
  · rw [equal, named]
    exact able
  · rw [equal, named]
    rfl

theorem Watching.lookAgain (watching : Watching valid usable seen output session)
    (reliable : Reliable usable seen) (silent : output.accepting = false) (medium : Medium) :
    ∃ reopened engine, session.corrected.reopenEngine medium = (true, reopened, medium) ∧
      Retaining valid output reopened.analyseRetained ∧ Same session reopened.analyseRetained ∧
      usable reopened.analyseRetained.factory reopened.analyseRetained.params ∧
      reopened.analyseRetained.engine = some engine ∧
      (∃ front, front <+: session.passed valid ∧ seen front engine) ∧
      (Engine.container? engine = none → seen (session.passed valid) engine) :=
  watching.toRetaining.lookAgain reliable (reliable.corrected watching.able) silent medium

end Watching

end Session

end MpegRecorder
