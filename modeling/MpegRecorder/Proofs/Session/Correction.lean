import MpegRecorder.Proofs.Output.Policy
import MpegRecorder.Proofs.Session.Recorded

/-!
Giving up program stream output leaves no trace. The engine that is opened for a transport stream finds the
program again in the retained bytes, in the same feed, and the recording is from then on, and at the end,
the one that a session comes to that was asked for a transport stream from the start.
-/

namespace MpegRecorder

open Capture Config Factory

namespace Config

variable {config : Config}

def emitted (valid : config.Valid) (stream : Bytes) : List Emission :=
  (forwarded valid stream).flatMap (fun chunk => MpegEngine.emission (packetsOf chunk).flatten) ++
    [.flush]

end Config

namespace Output

def recorded {config : Config} (valid : config.Valid) (output : Output) (medium : Medium)
    (stream : Bytes) : Output × Medium :=
  let written := { output with accepting := true }.receiveAll medium (emitted valid stream)
  written.1.finish written.2

theorem recorded_under {config : Config} (valid : config.Valid) {output : Output}
    (idle : output.request = none) (policy : CutPolicy) (medium : Medium) (stream : Bytes) :
    (output.under policy).recorded valid medium stream =
      ((output.recorded valid medium stream).1.under policy,
        (output.recorded valid medium stream).2) := by
  let accepting : Output := { output with accepting := true }
  have waits : accepting.request = none := idle
  have written := receiveAll_under policy waits medium (emitted valid stream)
  have still : (accepting.receiveAll medium (emitted valid stream)).1.request = none :=
    (whereabouts_receiveAll accepting medium (emitted valid stream)).idle waits
  have finished := finish_under policy still (accepting.receiveAll medium (emitted valid stream)).2
  unfold recorded
  change ((accepting.under policy).receiveAll medium (emitted valid stream)).1.finish
    ((accepting.under policy).receiveAll medium (emitted valid stream)).2 = _
  rw [written]
  exact finished

end Output

namespace Session

variable {config : Config} {valid : config.Valid} {output : Output} {medium now : Medium}
  {capture : Bytes} {engine : MpegEngine ⊕ ScriptedEngine}
  {session : Session Factory (MpegEngine ⊕ ScriptedEngine)}

theorem recordChunks_passing (passing : Passing engine) (output : Output) (medium : Medium)
    (chunks : List Bytes) :
    ∃ later, Passing later ∧ recordChunks engine output medium chunks =
      (later, output.receiveAll medium
        (chunks.flatMap fun chunk => MpegEngine.emission (packetsOf chunk).flatten)) := by
  induction chunks generalizing engine output medium with
  | nil => exact ⟨engine, passing, rfl⟩
  | cons chunk rest ih =>
    obtain ⟨mpeg, rfl, passes⟩ := passing
    obtain ⟨still, emits⟩ := passes.emits chunk
    have first : Engine.remux (.inl mpeg : MpegEngine ⊕ ScriptedEngine) chunk =
        (MpegEngine.emission (packetsOf chunk).flatten, .inl (mpeg.remux chunk).2) :=
      Prod.ext emits rfl
    obtain ⟨later, passing, others⟩ := ih ⟨_, rfl, still⟩
      (output.receiveAll medium (MpegEngine.emission (packetsOf chunk).flatten)).1
      (output.receiveAll medium (MpegEngine.emission (packetsOf chunk).flatten)).2
    refine ⟨later, passing, ?_⟩
    rw [List.flatMap_cons, Output.receiveAll_append, ← others, recordChunks, List.foldl_cons]
    dsimp only
    rw [first]
    rfl

theorem Underway.recorded_passing {params : EngineParams} {container : Container} {lost : Nat}
    {since : Bytes} (passing : Passing engine) (idle : output.request = none)
    (underway : Underway valid engine (output.begun params container) medium lost since session now) :
    (session.close now).2.storage = (output.recorded valid medium since).2.storage ∧
      (session.close now).1.output.counters = (output.recorded valid medium since).1.counters ∧
      (session.close now).1.dropped = lost + wasted valid since := by
  obtain ⟨later, written, place, recorded, last, stored, dropped⟩ := underway.close
  obtain ⟨same, ⟨mpeg, rfl, passes⟩, handed⟩ :=
    recordChunks_passing passing (output.begun params container) medium (forwarded valid since)
  obtain ⟨rfl, rest⟩ := Prod.mk.inj (recorded.symm.trans handed)
  have closing : written.receiveAll place (Engine.close (.inl mpeg : MpegEngine ⊕ ScriptedEngine)).1 =
      (output.begun params container).receiveAll medium (emitted valid since) := by
    have ends : (Engine.close (.inl mpeg : MpegEngine ⊕ ScriptedEngine)).1 = [.flush] :=
      passes.close_emits
    rw [ends, emitted, Output.receiveAll_append, ← rest]
  let policy : Output.CutPolicy := (output.begun params container).policy
  have all : ((output.begun params container).receiveAll medium (emitted valid since)).1.finish
      ((output.begun params container).receiveAll medium (emitted valid since)).2 =
        ((output.recorded valid medium since).1.under policy,
          (output.recorded valid medium since).2) :=
    Output.recorded_under valid idle policy medium since
  rw [closing, all] at last stored
  refine ⟨stored, ?_, dropped⟩
  rw [last]
  rfl

inductive Corrected (valid : config.Valid) (output : Output) (medium : Medium) (capture : Bytes) :
    Session Factory (MpegEngine ⊕ ScriptedEngine) × Medium → Prop where
  | underway {session : Session Factory (MpegEngine ⊕ ScriptedEngine)} {now : Medium}
      {blocks : List Bytes} {since : Bytes} {engine : MpegEngine ⊕ ScriptedEngine}
      {params : EngineParams} {container : Container} (parted : Parted capture blocks since session)
      (barren : ∀ block ∈ blocks, Barren valid discovers block)
      (found : finds valid discovers (since.take config.maxDetection) = true)
      (passing : Passing engine)
      (underway : Underway valid engine (output.begun params container) medium
        (droppedIn valid blocks) since session now)
      (transport : session.params.output = .transport) (once : session.stats.corrections = 1) :
      Corrected valid output medium capture (session, now)

/-- What a session asked for a program stream has come to: at most one correction, and never an open one. -/
structure Attempt (valid : config.Valid) (output : Output) (medium : Medium) (capture : Bytes)
    (state : Session Factory (MpegEngine ⊕ ScriptedEngine) × Medium) : Prop where
  course : Course valid Auto Follows discovers output medium capture state
  corrections : state.1.stats.corrections = 0 ∨ Corrected valid output medium capture state

theorem Corrected.state {state : Session Factory (MpegEngine ⊕ ScriptedEngine) × Medium}
    (corrected : Corrected valid output medium capture state) :
    state.1.container.isSome = true ∧ state.1.params.output = .transport ∧
      state.1.stats.corrections = 1 := by
  cases corrected with
  | underway _ _ _ _ underway transport once => exact ⟨underway.known, transport, once⟩

theorem Corrected.record (corrected : Corrected valid output medium capture (session, now))
    (data : Bytes) :
    Corrected valid output medium (capture ++ data) (session.record now data) := by
  cases corrected with
  | @underway _ _ blocks since engine params container parted barren found passing underway transport
      once =>
    have further : since.take config.maxDetection <+: (since ++ data).take config.maxDetection :=
      List.IsPrefix.take (List.prefix_append ..) _
    have still : (session.record now data).1.params.output = .transport := by
      rw [record_params, transport]
    have same : (session.record now data).1.stats.corrections = 1 := by rw [record_stats, once]
    exact .underway (parted.record now data) barren (finds_of_front plain_decisive further found) passing
      (underway.record data) still same

theorem Corrected.kept :
    FeedInvariant fun capture _ state => Corrected valid output medium capture state where
  going corrected := by
    cases corrected with
    | underway _ _ _ _ underway => exact underway.going
  turn input corrected unknown := by
    cases corrected with
    | underway _ _ _ _ underway => exact absurd unknown underway.container_ne
  record data corrected _ := corrected.record data

theorem reopenEngine_corrections {φ ε : Type} [Engine ε] [EngineFactory φ ε] (session : Session φ ε)
    (medium : Medium) :
    (session.reopenEngine medium).2.1.stats.corrections = session.stats.corrections := by
  obtain ⟨_, _, _, _, shape⟩ := session.reopenEngine_shape medium
  rw [shape]

theorem onUndetected_corrections {φ ε : Type} [Engine ε] [EngineFactory φ ε] (session : Session φ ε)
    (medium : Medium) :
    (session.onUndetected medium).1.stats.corrections = session.stats.corrections := by
  unfold onUndetected
  split
  · rfl
  · split
    · rfl
    · exact reopenEngine_corrections session.emptied medium

theorem Watching.correct (watching : Watching valid Auto Follows output session)
    (silent : output.accepting = false) {container : Container}
    (detected : session.detected? = some container)
    (needed : session.params.output = .program ∧ container.needsTransport = true) (medium : Medium) :
    ∃ ready engine again,
      session.onDetected medium container = (true, ready.startRecording medium again) ∧
      Retaining valid output ready ∧ Same session ready ∧ ready.engine = some engine ∧
      Passing engine ∧ ready.params.output = .transport ∧
      ready.stats.corrections = session.stats.corrections + 1 := by
  have able : Plain session.factory session.corrected.params :=
    ⟨watching.able.factory, watching.able.input, rfl, watching.able.automatic⟩
  obtain ⟨reopened, engine, opened, retaining, same, usable, running, ⟨front, -, saw⟩, all⟩ :=
    watching.toRetaining.lookAgain plain_reliable able silent medium
  -- A new engine stops reading once it reports a program, so it must not get through all of the chunks.
  have there : finds valid discovers session.retained = true := by
    rw [← watching.detected auto_decisive, detected]
    rfl
  have known : (Engine.container? engine).isSome = true := by
    rw [Option.isSome_iff_ne_none]
    intro missed
    have tells := plain_decisive.tells (all missed)
    rw [missed] at tells
    exact absurd (tells.trans there) Bool.false_ne_true
  obtain ⟨again, known⟩ := Option.isSome_iff_exists.mp known
  have redetected : reopened.analyseRetained.detected? = some again := by
    rw [detected?, running]
    exact known
  refine ⟨reopened.analyseRetained, engine, again, ?_, retaining, same, running, saw.passing,
    usable.output, ?_⟩
  · rw [onDetected_of_needed _ needed, opened]
    simp only [redetected]
  · have counted := reopenEngine_corrections session.corrected medium
    rw [opened] at counted
    rw [analyseRetained_stats]
    exact counted

theorem Attempt.start (setup : Setup Factory) (recording : Nat) (medium : Medium)
    (bundled : setup.factory = .mpeg) (automatic : setup.tuning.selection = .automatic)
    (valid : setup.config.Valid) :
    ∃ session started, start setup recording medium = .ok (session, started) ∧
      session.container = none ∧
      Attempt valid (setup.newOutput recording) started [] (session, started) := by
  have auto : Auto setup.factory setup.params := ⟨bundled, rfl, automatic⟩
  obtain ⟨session, started, opened, watching, nothing, resets, lost, -⟩ :=
    start_watching auto_reliable setup valid auto recording medium
  obtain ⟨-, stats, -⟩ := start_fresh opened
  refine ⟨session, started, opened, watching.unknown, .start auto_decisive watching nothing resets lost,
    .inl ?_⟩
  rw [stats]

theorem Attempt.uncorrected (attempt : Attempt valid output medium capture (session, now))
    (unknown : session.container = none) : session.stats.corrections = 0 := by
  rcases attempt.corrections with none | corrected
  · exact none
  · cases corrected with
    | underway _ _ _ _ underway => exact absurd unknown underway.container_ne

theorem Attempt.turn (silent : output.accepting = false)
    (attempt : Attempt valid output medium capture (session, now))
    (unknown : session.container = none) (input : Bytes) :
    ((session.analyse input).poll now).1 = true ∧
      Attempt valid output medium (capture ++ session.detection.fitting input)
        ((session.analyse input).poll now).2 := by
  have none := attempt.uncorrected unknown
  obtain ⟨course, -⟩ := attempt
  obtain ⟨polled, next⟩ := course.turn auto_reliable auto_decisive silent unknown input
  refine ⟨polled, next, ?_⟩
  cases course with
  | underway _ _ _ _ underway => exact absurd unknown underway.container_ne
  | @watching _ blocks parted barren short missed lost watching =>
    obtain ⟨watches, kept, level⟩ := watching.analyse auto_reliable input
    rw [poll]
    cases detected : (session.analyse input).detected? with
    | none =>
      refine .inl ?_
      dsimp only
      rw [onUndetected_corrections, analyse_stats, none]
    | some container =>
      by_cases needed :
          (session.analyse input).params.output = .program ∧ container.needsTransport = true
      · obtain ⟨ready, engine, again, came, retaining, same, running, passing, transport, once⟩ :=
          watches.correct silent detected needed medium
        -- This is the one correction, and the recording begins with it.
        have begun := retaining.startRecording running medium again
        have inside := retaining.level_le
        rw [same.lost, level, lost] at begun
        have found : finds valid discovers (ready.retained.take config.maxDetection) = true := by
          rw [List.take_of_length_le inside, same.retained, ← watches.detected auto_decisive, detected]
          rfl
        have given : (ready.startRecording medium again).1.params.output = .transport := by
          rw [startRecording_params, transport]
        have counted : (ready.startRecording medium again).1.stats.corrections = 1 := by
          rw [startRecording_stats, once, analyse_stats, none]
        have parted := ((parted.analyse kept).same same).startRecording medium again
        dsimp only
        rw [came]
        exact .inr (.underway parted barren found passing begun given counted)
      · refine .inl ?_
        dsimp only
        rw [onDetected, if_neg needed, startRecording_stats, analyse_stats, none]

theorem Attempt.kept (silent : output.accepting = false) :
    FeedInvariant fun capture _ state => Attempt valid output medium capture state where
  going attempt := attempt.course.going
  turn input attempt unknown := attempt.turn silent unknown input
  record data attempt known := by
    refine ⟨attempt.course.record auto_decisive known data, ?_⟩
    rcases attempt.corrections with none | corrected
    · refine .inl ?_
      rw [record_stats]
      exact none
    · exact .inr (corrected.record data)

theorem Attempt.corrects (silent : output.accepting = false)
    (attempt : Attempt valid output medium capture (session, now))
    (unknown : session.container = none) (asked : session.params.output = .program) {piece : Bytes}
    (more : piece ≠ []) {container : Container}
    (detected : (session.analyse piece).detected? = some container)
    (needs : container.needsTransport = true) :
    (session.feed now piece).2.1.stats.corrections = 1 := by
  obtain ⟨polled, next⟩ := attempt.turn silent unknown piece
  have counted : ((session.analyse piece).poll now).2.1.stats.corrections ≠ 0 := by
    obtain ⟨course, -⟩ := attempt
    cases course with
    | underway _ _ _ _ underway => exact absurd unknown underway.container_ne
    | watching _ _ _ _ _ watching =>
      obtain ⟨watches, -, -⟩ := watching.analyse auto_reliable piece
      have needed : (session.analyse piece).params.output = .program ∧
          container.needsTransport = true := ⟨by rw [analyse_params, asked], needs⟩
      obtain ⟨ready, engine, again, came, -, -, -, -, -, once⟩ :=
        watches.correct silent detected needed _
      rw [poll, detected]
      dsimp only
      rw [came, startRecording_stats, once]
      exact Nat.succ_ne_zero _
  have corrected := next.corrections.resolve_left counted
  obtain ⟨-, last⟩ := @FeedInvariant.feedFrom _ _ _ _ _ _ [] _ _ Corrected.kept corrected
    (piece.drop (session.detection.fitting piece).length)
  have going : session.feed now piece = session.feedFrom now piece := by
    rw [feed, attempt.course.going, if_neg Bool.false_ne_true]
  rw [going, feedFrom_of_going more unknown polled]
  exact last.state.2.2

/-- What is left of a session that is closed in this state, if it records the capture. -/
structure Closing (valid : config.Valid) (output : Output) (medium : Medium) (capture : Bytes)
    (state : Session Factory (MpegEngine ⊕ ScriptedEngine) × Medium) : Prop where
  storage : (state.1.close state.2).2.storage =
    (output.recorded valid medium (since valid discovers capture)).2.storage
  counters : (state.1.close state.2).1.output.counters =
    (output.recorded valid medium (since valid discovers capture)).1.counters
  dropped : (state.1.close state.2).1.dropped =
    droppedIn valid (givenUp valid discovers capture) + wasted valid (since valid discovers capture)

theorem Underway.closing {blocks : List Bytes} {since : Bytes} {params : EngineParams}
    {container : Container} (parted : Parted capture blocks since session)
    (barren : ∀ block ∈ blocks, Barren valid discovers block)
    (found : finds valid discovers (since.take config.maxDetection) = true)
    (passing : Passing engine) (idle : output.request = none)
    (underway : Underway valid engine (output.begun params container) medium
      (droppedIn valid blocks) since session now) :
    finds valid discovers (Config.since valid discovers capture) = true ∧
      Closing valid output medium capture (session, now) := by
  have given : givenUp valid discovers capture = blocks :=
    parted.spent ▸ givenUp_eq barren fun _ => found
  have behind : Config.since valid discovers capture = since :=
    parted.spent ▸ since_eq barren fun _ => found
  obtain ⟨storage, counters, dropped⟩ := underway.recorded_passing passing idle
  rw [← behind] at storage counters dropped
  rw [← given] at dropped
  refine ⟨?_, storage, counters, dropped⟩
  rw [behind]
  exact finds_of_front plain_decisive (List.take_prefix ..) found

theorem Corrected.closing {state : Session Factory (MpegEngine ⊕ ScriptedEngine) × Medium}
    (corrected : Corrected valid output medium capture state) (idle : output.request = none) :
    finds valid discovers (Config.since valid discovers capture) = true ∧
      Closing valid output medium capture state := by
  cases corrected with
  | underway parted barren found passing underway =>
    exact underway.closing parted barren found passing idle

theorem Course.closing {state : Session Factory (MpegEngine ⊕ ScriptedEngine) × Medium}
    (course : Course valid Plain Saw discovers output medium capture state)
    (found : finds valid discovers (since valid discovers capture) = true)
    (idle : output.request = none) : Closing valid output medium capture state := by
  cases course with
  | underway parted barren there saw underway =>
    exact (underway.closing parted barren there saw.passing idle).2
  | @watching session _ parted barren short missed lost watching =>
    have behind : since valid discovers capture = session.retained :=
      parted.spent ▸ since_eq barren fun long => absurd long (Nat.not_le.mpr short)
    rw [behind, missed] at found
    cases found

/--
However the capture is cut into pieces: once a session that was asked for a program stream has corrected
its output, which it does at most once, its container is known when the feed returns, and its output is a
transport stream for good. Whatever is fed further, at the end all files are as they are after the same
feeds of a session that was asked for a transport stream, and as many bytes were written and dropped.
-/
theorem correction_transparent (setup : Setup Factory) (recording : Nat) (medium : Medium)
    (bundled : setup.factory = .mpeg) (automatic : setup.tuning.selection = .automatic)
    (valid : setup.config.Valid) (pieces more : List Bytes) :
    ∃ asked started direct begun,
      start { setup with output := .program } recording medium = .ok (asked, started) ∧
      start { setup with output := .transport } recording medium = .ok (direct, begun) ∧
      let fed := asked.feedAll started pieces
      let last := fed.2.1.feedAll fed.2.2 more
      let ended := last.2.1.close last.2.2
      let other := direct.feedAll begun (pieces ++ more)
      let otherEnded := other.2.1.close other.2.2
      fed.1 = true ∧ last.1 = true ∧ other.1 = true ∧
        (fed.2.1.stats.corrections ≠ 0 →
          fed.2.1.container.isSome = true ∧
            last.2.1.params.output = .transport ∧ last.2.1.stats.corrections = 1 ∧
            ended.1.params.output = .transport ∧ ended.1.stats.corrections = 1 ∧
            ended.2.storage = otherEnded.2.storage ∧
            ended.1.output.counters = otherEnded.1.output.counters ∧
            ended.1.dropped = otherEnded.1.dropped) := by
  let program : Setup Factory := { setup with output := .program }
  let transport : Setup Factory := { setup with output := .transport }
  have plain : Plain transport.factory transport.params := ⟨bundled, rfl, rfl, automatic⟩
  have silent : (program.newOutput recording).accepting = false := rfl
  have idle : (transport.newOutput recording).request = none := rfl
  obtain ⟨asked, started, opened, -, attempt⟩ :=
    Attempt.start program recording medium bundled automatic valid
  obtain ⟨direct, begun, directly, looking, nothing, resets, lost, -⟩ :=
    start_watching plain_reliable transport valid plain recording medium
  have course : Course valid Plain Saw discovers (transport.newOutput recording) begun []
      (direct, begun) := .start plain_decisive looking nothing resets lost
  have same : started = begun := by
    obtain ⟨-, -, -, registers⟩ := start_fresh opened
    obtain ⟨-, -, -, likewise⟩ := start_fresh directly
    exact registers.trans likewise.symm
  obtain ⟨took, -, attempted, -⟩ := (Attempt.kept silent).feedAll [] attempt pieces
  obtain ⟨tookMore, -⟩ := (Attempt.kept silent).feedAll [] attempted more
  obtain ⟨tookAll, -, final, -⟩ :=
    (Course.kept plain_reliable plain_decisive rfl).feedAll [] course (pieces ++ more)
  refine ⟨asked, started, direct, begun, opened, directly, took, tookMore, tookAll, fun corrects => ?_⟩
  have corrected := attempted.corrections.resolve_left corrects
  obtain ⟨-, -, last, -⟩ := Corrected.kept.feedAll [] corrected more
  rw [List.append_assoc, ← List.flatten_append] at last
  obtain ⟨-, output, once⟩ := last.state
  obtain ⟨_, _, _, _, shape, -⟩ := ((asked.feedAll started pieces).2.1.feedAll
    (asked.feedAll started pieces).2.2 more).2.1.close_shape ((asked.feedAll started pieces).2.1.feedAll
      (asked.feedAll started pieces).2.2 more).2.2
  obtain ⟨found, closing⟩ := last.closing rfl
  have otherwise := final.closing found idle
  -- Both runs come to the recording of the same bytes; all that is left between them is the policy.
  have alike := Output.recorded_under valid idle (.new .program setup.config.packWindow) begun
    (since valid discovers ([] ++ (pieces ++ more).flatten))
  refine ⟨corrected.state.1, output, once, ?_, ?_, ?_, ?_, ?_⟩
  · rw [shape, output]
  · rw [shape, once]
  · rw [closing.storage, otherwise.storage, same]
    exact congrArg (fun state => state.2.storage) alike
  · rw [closing.counters, otherwise.counters, same]
    exact congrArg (fun state => state.1.counters) alike
  · rw [closing.dropped, otherwise.dropped]

/-- Detection ends with the first unit. -/
def promptSetup : Setup Factory :=
  { lateSetup with
    config := { standard with
      maxTransfer := 3 * 188, initialDetection := 3 * 188, maxDetection := 6 * 188 } }

theorem prompt_valid : promptSetup.config.Valid := by decide

def promptPiece : Bytes :=
  ((Transport.Synthetic.empty.tables .h264).videoPackets 1).bytes

theorem corrections_prompt {session : Session Factory (MpegEngine ⊕ ScriptedEngine)}
    {started : Medium}
    (opened : start { promptSetup with output := .program } 0 lateMedium = .ok (session, started)) :
    (session.feedAll started [promptPiece]).2.1.stats.corrections = 1 := by
  obtain ⟨_, _, same, unknown, attempt⟩ :=
    Attempt.start { promptSetup with output := .program } 0 lateMedium rfl rfl prompt_valid
  obtain ⟨rfl, rfl⟩ := Prod.mk.inj (Except.ok.inj (opened.symm.trans same))
  obtain ⟨params, -⟩ := start_fresh opened
  have asked : session.params.output = .program := by rw [params]; rfl
  have shown : (session.analyse promptPiece).detected?.any Container.needsTransport = true := by
    obtain ⟨rfl, rfl⟩ := Prod.mk.inj (Except.ok.inj opened)
    decide +kernel
  cases detected : (session.analyse promptPiece).detected? with
  | none =>
    rw [detected] at shown
    cases shown
  | some container =>
    rw [detected] at shown
    exact attempt.corrects rfl unknown asked (by decide +kernel) detected shown

/-- The capture that is fed after the correction has a byte in front that is no packet. -/
theorem correction_transparent_prompt :
    promptSetup.factory = .mpeg ∧ promptSetup.tuning.selection = .automatic ∧
      promptSetup.config.Valid ∧
      ∃ asked started direct begun,
        start { promptSetup with output := .program } 0 lateMedium = .ok (asked, started) ∧
        start { promptSetup with output := .transport } 0 lateMedium = .ok (direct, begun) ∧
        let fed := asked.feedAll started [promptPiece]
        let last := fed.2.1.feedAll fed.2.2 [0x33 :: lateCapture]
        let ended := last.2.1.close last.2.2
        let other := direct.feedAll begun [promptPiece, 0x33 :: lateCapture]
        let otherEnded := other.2.1.close other.2.2
        fed.2.1.stats.corrections = 1 ∧ fed.2.1.container.isSome = true ∧
          last.2.1.params.output = .transport ∧
          ended.2.storage.content 0 = otherEnded.2.storage.content 0 ∧
          ended.1.output.counters = otherEnded.1.output.counters ∧
          ended.1.dropped = otherEnded.1.dropped := by
  obtain ⟨asked, started, direct, begun, opened, directly, -, -, -, transparent⟩ :=
    correction_transparent promptSetup 0 lateMedium rfl rfl prompt_valid [promptPiece]
      [0x33 :: lateCapture]
  have once := corrections_prompt opened
  have corrects : (asked.feedAll started [promptPiece]).2.1.stats.corrections ≠ 0 := by
    rw [once]
    exact Nat.one_ne_zero
  obtain ⟨known, output, -, -, -, storage, counters, dropped⟩ := transparent corrects
  refine ⟨rfl, rfl, prompt_valid, asked, started, direct, begun, opened, directly, once, known, output, ?_,
    counters, dropped⟩
  exact congrArg (fun storage => storage.content 0) storage

end Session

end MpegRecorder
