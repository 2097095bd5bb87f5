import MpegRecorder.Engine.Factory
import MpegRecorder.Proofs.Session.Acts

/-!
A first unit in which the container is found. The unit is analysed and then, in the same feed, handed to the
same engine again to be recorded.
-/

namespace MpegRecorder

open Output (Act)

theorem Capture.Feeder.push_unit {feeder : Feeder} {input : Bytes} (passes : feeder.passes input = true)
    (whole : input.length = feeder.unit) : feeder.push input = ([input], feeder) := by
  cases input with
  | nil =>
    have some := feeder.pending_lt
    rw [← whole] at some
    cases some
  | cons byte later =>
    rw [push, if_pos passes, List.take_of_length_le (Nat.le_of_eq whole),
      List.drop_of_length_le (Nat.le_of_eq whole), push_nil]

namespace Session

variable {φ ε : Type} {session : Session φ ε} {engine : ε} {unit : Bytes}

/-- A session that was fed nothing yet, and one unit for its engine, which is first kept for detection. -/
structure FirstUnit (session : Session φ ε) (engine : ε) (unit : Bytes) : Prop where
  going : session.closed = false
  unknown : session.container = none
  running : session.engine = some engine
  nothing : session.detection.retained = .empty
  fits : unit.length ≤ session.detection.limit
  fresh : session.feeder.reset = session.feeder
  passes : session.feeder.passes unit = true
  whole : unit.length = session.feeder.unit

namespace FirstUnit

theorem fitting (first : FirstUnit session engine unit) : session.detection.fitting unit = unit := by
  rw [Capture.Detection.fitting, first.nothing]
  exact List.take_of_length_le first.fits

variable [Engine ε]

theorem analysed (first : FirstUnit session engine unit) :
    session.analyse unit = { session with
      detection := session.detection.append unit
      limit_pos := session.limit_pos
      engine := some (Engine.analyse engine unit).2 } := by
  simp only [analyse, first.running, first.fitting, Capture.Feeder.push_unit first.passes first.whole]
  rfl

theorem retained (first : FirstUnit session engine unit) : (session.analyse unit).retained = unit := by
  rw [Session.retained, analyse_detection, Capture.Detection.toList_append, first.nothing, first.fitting]
  rfl

variable [EngineFactory φ ε]

theorem acts (first : FirstUnit session engine unit) {container : Container}
    (found : Engine.container? (Engine.analyse engine unit).2 = some container)
    (carries : ¬ (session.params.output = .program ∧ container.needsTransport = true)) (medium : Medium) :
    (Call.feed unit).acts session medium =
        [.ask (.setPolicy session.params.output container.family?
          (container.video.map fun stream => stream.pid)), .accept] ++
          (Engine.remux (Engine.analyse engine unit).2 unit).1.map (fun emission => .ask emission.operation) ∧
      (session.feed medium unit).2.1.params = session.params := by
  have detected : (session.analyse unit).detected? = some container := by
    rw [detected?, first.analysed]
    exact found
  have params : (session.analyse unit).params = session.params := analyse_params ..
  have polled : (session.analyse unit).poll medium =
      (true, (session.analyse unit).startRecording medium container) := by
    rw [poll, detected]
    exact if_neg (params ▸ carries)
  have goes : ((session.analyse unit).poll medium).1 = true := congrArg Prod.fst polled
  have emitted : (session.analyse unit).restartRetained.emitted unit =
      (Engine.remux (Engine.analyse engine unit).2 unit).1 := by
    have again : (session.analyse unit).restartRetained.feeder = session.feeder := by
      rw [first.analysed]
      exact first.fresh
    have running : (session.analyse unit).restartRetained.engine = some (Engine.analyse engine unit).2 := by
      rw [first.analysed]
      rfl
    rw [Session.emitted, running, again, Capture.Feeder.push_unit first.passes first.whole]
    exact List.append_nil _
  have going : ¬ session.closed = true := Bool.not_eq_true _ ▸ first.going
  have more : unit ≠ [] := by
    rintro rfl
    exact absurd first.whole (Nat.ne_of_lt (Nat.lt_of_le_of_lt (Nat.zero_le _) session.feeder.pending_lt))
  obtain ⟨fed, steps⟩ := feedFrom_of_fitting more first.unknown first.fitting goes
  constructor
  · rw [Call.acts, if_neg going, steps, List.flatMap_singleton, Step.acts,
      if_neg (Step.not_known first.unknown)]
    simp only
    rw [pollActs, detected]
    simp only
    rw [if_neg (params ▸ carries), beginActs, first.retained, emitted, params]
  · rw [feed, if_neg going, fed, polled, startRecording_params, params]

end FirstUnit

theorem start_firstUnit {setup : Setup Factory} {recording : Nat} {medium started : Medium}
    {session : Session Factory (MpegEngine ⊕ ScriptedEngine)} (plain : setup.factory = .mpeg)
    (opened : start setup recording medium = .ok (session, started)) {unit : Bytes}
    (whole : unit.length = setup.config.maxTransfer)
    (fits : unit.length ≤ min setup.config.initialDetection setup.config.maxDetection)
    (synced : unit.head? = some Transport.syncByte) :
    FirstUnit session (.inl (.new setup.params)) unit ∧ session.params = setup.params ∧
      session.output = setup.newOutput recording := by
  have engine : EngineFactory.openEngine setup.factory setup.params =
      (.ok (.inl (.new setup.params)), .mpeg) := by
    rw [plain]
    rfl
  unfold start at opened
  split at opened
  · cases opened
  · simp only [engine] at opened
    obtain ⟨rfl, -⟩ := Prod.mk.inj (Except.ok.inj opened)
    refine ⟨⟨rfl, rfl, rfl, rfl, fits, rfl, ?_, whole⟩, rfl, rfl⟩
    simp only [Capture.Feeder.passes, Capture.Feeder.new, Packed.size_empty, synced, ← whole,
      List.take_length, decide_true, Bool.and_self]

end Session

end MpegRecorder
