import MpegRecorder.Capture.Detection
import MpegRecorder.Capture.Feeder
import MpegRecorder.Config
import MpegRecorder.Engine.Basic
import MpegRecorder.Output.Basic

/-!
A session is one recording. It retains the capture while its engine looks for the container; once
that is known, the retained bytes are fed through again and recorded, and so is all that follows.
-/

namespace MpegRecorder

open Capture

structure Session.Stats where
  growths : Nat
  /-- How often the detection buffer was full at its cap and analysis started over. -/
  resets : Nat
  engineOpens : Nat
  /-- How often program stream output was given up for a transport stream. -/
  corrections : Nat
deriving Repr, DecidableEq

structure Session (φ ε : Type) where
  factory : φ
  params : EngineParams
  /-- Missing after the end, and while a new engine could not be opened. -/
  engine : Option ε
  feeder : Feeder
  detection : Detection
  limit_pos : 0 < detection.limit
  container : Option Container
  output : Output
  stats : Session.Stats
  /-- What the feeder had dropped when the retained bytes last started through it. -/
  droppedBefore : Nat
  /-- Dropped bytes that a later pass over the retained bytes counts again. -/
  superseded : Nat
  closed : Bool

namespace Output

/-- Takes a request of an engine, unless the container is not known yet or the recording has ended. -/
def receive (output : Output) (medium : Medium) (emission : Emission) : Output × Medium :=
  if output.accepting then
    match emission with
    | .write data => output.append medium data
    | .flush => output.flush medium
  else (output, medium)

def receiveAll (output : Output) (medium : Medium) (emissions : List Emission) : Output × Medium :=
  emissions.foldl (fun state emission => state.1.receive state.2 emission) (output, medium)

end Output

namespace Session

variable {φ ε : Type} [Engine ε]

structure Setup (φ : Type) where
  destination : Storage.Destination
  factory : φ
  opener : Storage.Opener
  output : Container.Kind
  capture : CaptureKind
  delivery : Delivery
  tuning : Tuning
  config : Config
  registered : Bool

def Setup.params (setup : Setup φ) : EngineParams :=
  { input := .transport
    output := setup.output
    standard := setup.capture.standard
    delivery := setup.delivery
    tuning := setup.tuning }

def Setup.newOutput (setup : Setup φ) (recording : Nat) : Output :=
  { recording
    buffer := .new setup.config.writeBuffer
    destination := some setup.destination
    path := setup.destination.path
    ring := .new
    counters := .zero
    policy := .new setup.output setup.config.packWindow
    request := none
    opener := setup.opener
    registered := setup.registered
    scanLimit := setup.config.scanLimit
    switches := 0
    accepting := false
    closed := false }

def recordChunks (engine : ε) (output : Output) (medium : Medium) (chunks : List Bytes) :
    ε × Output × Medium :=
  chunks.foldl
    (fun (engine, output, medium) chunk =>
      let (emissions, engine) := Engine.remux engine chunk
      (engine, output.receiveAll medium emissions))
    (engine, output, medium)

def record (session : Session φ ε) (medium : Medium) (data : Bytes) : Session φ ε × Medium :=
  match session.engine with
  | none => (session, medium)
  | some engine =>
    let (chunks, feeder) := session.feeder.push data
    let (engine, output, medium) := recordChunks engine session.output medium chunks
    ({ session with engine := some engine, feeder, output }, medium)

def analyse (session : Session φ ε) (input : Bytes) : Session φ ε :=
  let retaining :=
    { session with detection := session.detection.append input, limit_pos := session.limit_pos }
  match session.engine with
  | none => retaining
  | some engine =>
    let (chunks, feeder) := session.feeder.push (session.detection.fitting input)
    let engine := chunks.foldl (fun engine chunk => (Engine.analyse engine chunk).2) engine
    { retaining with engine := some engine, feeder }

def restartRetained (session : Session φ ε) : Session φ ε :=
  { session with
    superseded := session.superseded + (session.feeder.dropped - session.droppedBefore)
    feeder := session.feeder.reset
    droppedBefore := session.feeder.dropped }

def analyseUntilDone (engine : ε) (chunks : List Bytes) : ε :=
  (chunks.foldl
    (fun (needsMore, engine) chunk =>
      if needsMore then
        let (isDone, engine) := Engine.analyse engine chunk
        (!isDone, engine)
      else (needsMore, engine))
    (true, engine)).2

def analyseRetained (session : Session φ ε) : Session φ ε :=
  let session := session.restartRetained
  match session.engine with
  | none => session
  | some engine =>
    let (chunks, feeder) := session.feeder.push session.detection.retained.toList
    { session with engine := some (analyseUntilDone engine chunks), feeder }

def detected? (session : Session φ ε) : Option Container :=
  session.engine.bind Engine.container?

def startRecording (session : Session φ ε) (medium : Medium) (container : Container) :
    Session φ ε × Medium :=
  let policy := { session.output.policy with
    output := session.params.output
    family := container.family?
    videoPid := container.video.map fun stream => stream.pid }
  let restarted := { session with
    output := { session.output with policy, accepting := true }
    container := some container }.restartRetained
  { restarted with detection := session.detection.reset, limit_pos := session.limit_pos }.record
    medium session.detection.retained.toList

@[simp] theorem record_params (session : Session φ ε) (medium : Medium) (data : Bytes) :
    (session.record medium data).1.params = session.params := by
  unfold record
  split <;> rfl

@[simp] theorem record_detection (session : Session φ ε) (medium : Medium) (data : Bytes) :
    (session.record medium data).1.detection = session.detection := by
  unfold record
  split <;> rfl

@[simp] theorem record_container (session : Session φ ε) (medium : Medium) (data : Bytes) :
    (session.record medium data).1.container = session.container := by
  unfold record
  split <;> rfl

@[simp] theorem record_stats (session : Session φ ε) (medium : Medium) (data : Bytes) :
    (session.record medium data).1.stats = session.stats := by
  unfold record
  split <;> rfl

@[simp] theorem record_closed (session : Session φ ε) (medium : Medium) (data : Bytes) :
    (session.record medium data).1.closed = session.closed := by
  unfold record
  split <;> rfl

@[simp] theorem analyse_params (session : Session φ ε) (input : Bytes) :
    (session.analyse input).params = session.params := by
  unfold analyse
  split <;> rfl

@[simp] theorem analyse_detection (session : Session φ ε) (input : Bytes) :
    (session.analyse input).detection = session.detection.append input := by
  unfold analyse
  split <;> rfl

@[simp] theorem analyse_container (session : Session φ ε) (input : Bytes) :
    (session.analyse input).container = session.container := by
  unfold analyse
  split <;> rfl

@[simp] theorem analyse_stats (session : Session φ ε) (input : Bytes) :
    (session.analyse input).stats = session.stats := by
  unfold analyse
  split <;> rfl

@[simp] theorem analyseRetained_params (session : Session φ ε) :
    session.analyseRetained.params = session.params := by
  unfold analyseRetained
  dsimp only
  split <;> rfl

@[simp] theorem analyseRetained_detection (session : Session φ ε) :
    session.analyseRetained.detection = session.detection := by
  unfold analyseRetained
  dsimp only
  split <;> rfl

@[simp] theorem analyseRetained_container (session : Session φ ε) :
    session.analyseRetained.container = session.container := by
  unfold analyseRetained
  dsimp only
  split <;> rfl

@[simp] theorem analyseRetained_stats (session : Session φ ε) :
    session.analyseRetained.stats = session.stats := by
  unfold analyseRetained
  dsimp only
  split <;> rfl

@[simp] theorem startRecording_params (session : Session φ ε) (medium : Medium)
    (container : Container) :
    (session.startRecording medium container).1.params = session.params := by
  simp [startRecording, restartRetained]

@[simp] theorem startRecording_container (session : Session φ ε) (medium : Medium)
    (container : Container) :
    (session.startRecording medium container).1.container = some container := by
  simp [startRecording, restartRetained]

@[simp] theorem startRecording_stats (session : Session φ ε) (medium : Medium)
    (container : Container) :
    (session.startRecording medium container).1.stats = session.stats := by
  simp [startRecording, restartRetained]

variable [EngineFactory φ ε]

/--
Opens an engine and enters the session into the registry under the number `recording`. A
configuration with a fault is refused before anything is opened.
-/
def start (setup : Setup φ) (recording : Nat) (medium : Medium) :
    Except RecorderError (Session φ ε × Medium) :=
  match valid : setup.config.fault? with
  | some fault => .error (.invalidConfig fault.message)
  | none =>
    match EngineFactory.openEngine setup.factory setup.params with
    | (.error e, _) => .error e
    | (.ok engine, factory) =>
      .ok
        ({ factory
           params := setup.params
           engine := some engine
           feeder := .new setup.config.packetSize setup.config.maxTransfer
             (Config.Valid.transfer_pos valid)
           detection := .new setup.config.initialDetection setup.config.maxDetection
           limit_pos := Config.Valid.detection_pos valid
           container := none
           output := setup.newOutput recording
           stats := ⟨0, 0, 1, 0⟩
           droppedBefore := 0
           superseded := 0
           closed := false },
         if setup.registered then
           { medium with registry := medium.registry.register setup.destination.path recording }
         else medium)

def reopenEngine (session : Session φ ε) (medium : Medium) : Bool × Session φ ε × Medium :=
  let (output, medium) :=
    match session.engine with
    | none => (session.output, medium)
    | some engine => session.output.receiveAll medium (Engine.close engine).1
  match EngineFactory.openEngine session.factory session.params with
  | (.error _, factory) =>
    (false, { session with output, factory, engine := none }, medium)
  | (.ok engine, factory) =>
    (true,
      { session with
        output, factory
        engine := some engine
        stats := { session.stats with engineOpens := session.stats.engineOpens + 1 } },
      medium)

@[simp] theorem reopenEngine_params (session : Session φ ε) (medium : Medium) :
    (session.reopenEngine medium).2.1.params = session.params := by
  unfold reopenEngine
  dsimp only
  split <;> rfl

@[simp] theorem reopenEngine_detection (session : Session φ ε) (medium : Medium) :
    (session.reopenEngine medium).2.1.detection = session.detection := by
  unfold reopenEngine
  dsimp only
  split <;> rfl

@[simp] theorem reopenEngine_container (session : Session φ ε) (medium : Medium) :
    (session.reopenEngine medium).2.1.container = session.container := by
  unfold reopenEngine
  dsimp only
  split <;> rfl

/--
Goes on once the container is known. A program stream cannot carry every video; where it cannot, the
engine is opened again for a transport stream and has to find the container in the retained bytes
anew. False if it could not be opened.
-/
def onDetected (session : Session φ ε) (medium : Medium) (container : Container) :
    Bool × Session φ ε × Medium :=
  if session.params.output = .program ∧ container.needsTransport then
    let corrected := { session with
      params := { session.params with output := .transport }
      stats := { session.stats with corrections := session.stats.corrections + 1 } }
    match corrected.reopenEngine medium with
    | (false, session, medium) => (false, session, medium)
    | (true, session, medium) =>
      let session := session.analyseRetained
      match session.detected? with
      | none => (true, session, medium)
      | some container => (true, session.startRecording medium container)
  else (true, session.startRecording medium container)

/--
Makes room while the container is unknown: a full detection buffer grows, and at its cap it is
emptied, and analysis starts over with automatic tuning.
-/
def onUndetected (session : Session φ ε) (medium : Medium) : Session φ ε × Medium :=
  if !session.detection.isFull then (session, medium)
  else if !session.detection.atCap then
    ({ session with
        detection := session.detection.grow
        limit_pos := Nat.lt_of_lt_of_le session.limit_pos session.detection.limit_le_grow
        stats := { session.stats with growths := session.stats.growths + 1 } },
      medium)
  else
    let emptied := { session with
      detection := session.detection.reset
      limit_pos := session.limit_pos
      feeder := session.feeder.reset
      droppedBefore := session.feeder.dropped
      params := { session.params with tuning := .automatic }
      stats := { session.stats with resets := session.stats.resets + 1 } }
    (emptied.reopenEngine medium).2

def poll (session : Session φ ε) (medium : Medium) : Bool × Session φ ε × Medium :=
  match session.detected? with
  | some container => session.onDetected medium container
  | none => (true, session.onUndetected medium)

end Session

end MpegRecorder
