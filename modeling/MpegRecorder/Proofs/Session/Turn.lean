import MpegRecorder.Proofs.Session.Underway

/-!
The steps of a feed. While the container is unknown a step waits for more, starts over at the cap, looks
again with another engine, or begins to record; a feed is a row of such steps, and then of bytes that are
recorded as they come.
-/

namespace MpegRecorder.Session

open Capture Config

section Parted

variable {φ ε : Type}

/-- The capture fed so far falls into the blocks given up and the bytes since. -/
structure Parted (capture : Bytes) (blocks : List Bytes) (since : Bytes) (session : Session φ ε) :
    Prop where
  spent : capture = blocks.flatten ++ since
  resets : session.stats.resets = blocks.length

variable {capture : Bytes} {blocks : List Bytes} {since : Bytes} {session next : Session φ ε}

theorem Parted.same (parted : Parted capture blocks session.retained session)
    (same : Same session next) : Parted capture blocks next.retained next :=
  ⟨same.retained ▸ parted.spent, same.resets.trans parted.resets⟩

theorem Parted.startedOver (parted : Parted capture blocks session.retained session)
    (empty : next.retained = []) (again : next.stats.resets = session.stats.resets + 1) :
    Parted capture (blocks ++ [session.retained]) next.retained next := by
  refine ⟨?_, ?_⟩
  · rw [parted.spent, empty, List.flatten_append, List.append_nil, List.flatten_singleton]
  · rw [again, parted.resets, List.length_append, List.length_singleton]

variable [Engine ε]

theorem Parted.analyse (parted : Parted capture blocks session.retained session) {input : Bytes}
    (kept : (session.analyse input).retained = session.retained ++ session.detection.fitting input) :
    Parted (capture ++ session.detection.fitting input) blocks (session.analyse input).retained
      (session.analyse input) := by
  refine ⟨?_, ?_⟩
  · rw [parted.spent, kept, List.append_assoc]
  · rw [analyse_stats, parted.resets]

theorem Parted.record (parted : Parted capture blocks since session) (medium : Medium)
    (data : Bytes) :
    Parted (capture ++ data) blocks (since ++ data) (session.record medium data).1 := by
  refine ⟨?_, ?_⟩
  · rw [parted.spent, List.append_assoc]
  · rw [record_stats, parted.resets]

theorem Parted.startRecording (parted : Parted capture blocks since session) (medium : Medium)
    (container : Container) :
    Parted capture blocks since (session.startRecording medium container).1 :=
  ⟨parted.spent, by rw [startRecording_stats, parted.resets]⟩

end Parted

variable {φ ε : Type} [Engine ε] {config : Config} {valid : config.Valid}
  {usable : φ → EngineParams → Prop} {seen : List Bytes → ε → Prop} {output : Output}
  {session : Session φ ε}

inductive Turned (valid : config.Valid) (usable : φ → EngineParams → Prop)
    (seen : List Bytes → ε → Prop) (output : Output) (medium : Medium) (session : Session φ ε)
    (result : Session φ ε × Medium) : Prop where
  /-- It records, from the first retained byte on. -/
  | recording {ready : Session φ ε} {engine : ε} {front : List Bytes} (container : Container)
      (found : session.detected?.isSome = true) (retaining : Retaining valid output ready)
      (same : Same session ready) (running : ready.engine = some engine)
      (part : front <+: session.passed valid) (saw : seen front engine)
      (came : result = ready.startRecording medium container)
  /-- The engine for the other output format has not found the container yet. -/
  | again {next : Session φ ε} (found : session.detected?.isSome = true)
      (program : session.params.output = .program) (still : next.detected? = none)
      (watching : Watching valid usable seen output next) (same : Same session next)
      (came : result = (next, medium))
  | waiting {next : Session φ ε} (missed : session.detected? = none)
      (below : session.retained.length < config.maxDetection) (still : next.detected? = none)
      (watching : Watching valid usable seen output next) (same : Same session next)
      (came : result = (next, medium))
  /-- The detection buffer was full at its cap, and analysis starts over behind it. -/
  | startedOver {next : Session φ ε} (missed : session.detected? = none)
      (full : session.retained.length = config.maxDetection)
      (watching : Watching valid usable seen output next) (empty : next.retained = [])
      (resets : next.stats.resets = session.stats.resets + 1)
      (lost : next.lost = session.lost + ((newFeeder valid).push session.retained).2.dropped)
      (came : result = (next, medium))

variable [EngineFactory φ ε] (reliable : Reliable usable seen) (silent : output.accepting = false)
include reliable silent

theorem Watching.onUndetected (watching : Watching valid usable seen output session)
    (missed : session.detected? = none) (medium : Medium) :
    Turned valid usable seen output medium session (session.onUndetected medium) := by
  have inside : session.retained.length ≤ session.detection.limit := by
    rw [retained, Packed.length_toList]
    exact session.detection.size_le
  have level := watching.level
  have cap := watching.cap
  unfold Session.onUndetected
  split
  · next room =>
    have below : session.retained.length < session.detection.limit := by
      rw [retained, Packed.length_toList]
      simpa [Detection.isFull] using room
    exact .waiting missed (Nat.lt_of_lt_of_le below level) missed watching (.refl session) rfl
  · next full =>
    split
    · next below =>
      have under : ¬ session.detection.atCap = true := by simpa using below
      have limit := Detection.limit_lt_cap under
      have kept : session.detection.grow.retained = session.detection.retained := by
        rw [Detection.grow, dif_neg under]
      have watches := watching.grow under (session.stats.growths + 1)
      refine .waiting missed (by omega) ?_ watches ⟨?_, rfl, rfl⟩ rfl
      · exact missed
      · simp only [retained, kept]
    · next top =>
      have whole : session.detection.limit ≤ session.retained.length := by
        rw [retained, Packed.length_toList]
        simpa [Detection.isFull] using full
      have limit : session.detection.cap ≤ session.detection.limit := by
        simpa [Detection.atCap] using top
      obtain ⟨next, opened, watches, empty, resets, lost⟩ :=
        watching.startOver reliable silent medium
      have step : (session.emptied.reopenEngine medium).2 = (next, medium) := by rw [opened]
      exact .startedOver missed (by omega) watches empty resets lost step

theorem Watching.onDetected (watching : Watching valid usable seen output session)
    {container : Container} (found : session.detected? = some container) (medium : Medium) :
    (session.onDetected medium container).1 = true ∧
      Turned valid usable seen output medium session (session.onDetected medium container).2 := by
  have isFound : session.detected?.isSome = true := by rw [found]; rfl
  unfold Session.onDetected
  split
  · next needed =>
    obtain ⟨reopened, engine, opened, retaining, same, able, running, ⟨front, part, saw⟩, all⟩ :=
      watching.lookAgain reliable silent medium
    have opened : Session.reopenEngine { session with
        params := { session.params with output := .transport }
        stats := { session.stats with corrections := session.stats.corrections + 1 } } medium =
        (true, reopened, medium) := opened
    simp only [opened]
    split
    · next missed =>
      have none : Engine.container? engine = .none := by
        rwa [detected?, running] at missed
      have read : seen (reopened.analyseRetained.passed valid) engine := by
        rw [passed, same.retained]
        exact all none
      exact ⟨rfl, .again isFound needed.1 missed ⟨retaining, able, engine, running, read⟩ same
        rfl⟩
    · exact ⟨rfl, .recording _ isFound retaining same running part saw rfl⟩
  · obtain ⟨engine, running, saw⟩ := watching.analysed
    exact ⟨rfl, .recording container isFound watching.toRetaining (.refl session) running
      List.prefix_rfl saw rfl⟩

/-- Asking for the container never fails here, and comes to one of four things. -/
theorem Watching.poll (watching : Watching valid usable seen output session) (medium : Medium) :
    (session.poll medium).1 = true ∧
      Turned valid usable seen output medium session (session.poll medium).2 := by
  unfold Session.poll
  split
  · next container found => exact watching.onDetected reliable silent found medium
  · next missed => exact ⟨rfl, watching.onUndetected reliable silent missed medium⟩

omit silent in
theorem start_watching (setup : Setup φ) (valid : setup.config.Valid)
    (able : usable setup.factory setup.params) (recording : Nat) (medium : Medium) :
    ∃ session started, start setup recording medium = .ok (session, started) ∧
      Watching valid usable seen (setup.newOutput recording) session ∧ session.retained = [] ∧
      session.stats.resets = 0 ∧ session.lost = 0 ∧ started.storage = medium.storage := by
  obtain ⟨engine, factory, opened, still, fresh⟩ := reliable.opens able
  have nothing : (newFeeder valid).push [] = ([], newFeeder valid) := Feeder.push_nil _
  have started {fault} (faulty : setup.config.fault? = some fault) : False := by
    rw [valid] at faulty
    cases faulty
  unfold start
  split
  · next faulty => exact (started faulty).elim
  · simp only [opened]
    refine ⟨_, _, rfl, ⟨⟨rfl, rfl, rfl, rfl, ?_, ?_, Nat.le_refl _⟩, still, engine, rfl, ?_⟩, rfl,
      rfl, rfl, ?_⟩
    · exact Nat.min_le_right ..
    · change _ = ((newFeeder valid).push []).2.shift 0
      rw [nothing]
      rfl
    · change seen ((newFeeder valid).push []).1 engine
      rw [nothing]
      exact fresh
    · split <;> rfl

omit [Engine ε] reliable silent in
theorem start_fresh {setup : Setup φ} {recording : Nat} {medium started : Medium}
    {session : Session φ ε} (opened : start setup recording medium = .ok (session, started)) :
    session.params = setup.params ∧ session.stats = ⟨0, 0, 1, 0⟩ ∧
      session.detection = .new setup.config.initialDetection setup.config.maxDetection ∧
      started = if setup.registered then
          { medium with registry := medium.registry.register setup.destination.path recording }
        else medium := by
  unfold start at opened
  split at opened
  · cases opened
  · split at opened
    · cases opened
    · obtain ⟨rfl, rfl⟩ := Prod.mk.inj (Except.ok.inj opened)
      exact ⟨rfl, rfl, rfl, rfl⟩

def feedAll (session : Session φ ε) (medium : Medium) : List Bytes → Bool × Session φ ε × Medium
  | [] => (true, session, medium)
  | piece :: later =>
    let fed := session.feed medium piece
    let rest := fed.2.1.feedAll fed.2.2 later
    (fed.1 && rest.1, rest.2)

end MpegRecorder.Session
