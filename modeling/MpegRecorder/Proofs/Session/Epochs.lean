import MpegRecorder.Engine.Scripted
import MpegRecorder.Proofs.Capture.Blocks
import MpegRecorder.Proofs.Session.Journal

/-!
What no engine gets to see. The feeder hands packets on a unit at a time, so when analysis starts over at
the cap, or a session ends that has not found its container, the whole packets of a unit that is not
complete are thrown away.
-/

namespace MpegRecorder

open Capture Config

namespace Config

variable {config : Config}

def epoch (valid : config.Valid) (stream : Bytes) : List Session.Event :=
  ((newFeeder valid).push stream).1.map .handed ++
    [.discarded ((newFeeder valid).push stream).2.waiting]

end Config

namespace Session

variable {φ ε : Type} {config : Config} {valid : config.Valid}
  {usable : φ → EngineParams → Prop} {output : Output} {medium : Medium} {capture : Bytes}
  {events : List Event}

/-- What a session fed with the capture has done so far, and where it stands. -/
inductive Logged (valid : config.Valid) (usable : φ → EngineParams → Prop) (output : Output)
    (medium : Medium) (capture : Bytes) (events : List Event) : Session φ ε × Medium → Prop where
  | watching {session : Session φ ε} {blocks : List Bytes}
      (parted : Parted capture blocks session.retained session)
      (whole : ∀ block ∈ blocks, block.length = config.maxDetection)
      (logged : events = blocks.flatMap (epoch valid) ++ (session.passed valid).map .handed)
      (watching : Watching valid usable (fun _ _ => True) output session) :
      Logged valid usable output medium capture events (session, medium)
  | known {session : Session φ ε} {now : Medium} {blocks : List Bytes} {front more : Bytes}
      (parted : Parted capture blocks (front ++ more) session)
      (whole : ∀ block ∈ blocks, block.length = config.maxDetection)
      (logged : events =
        blocks.flatMap (epoch valid) ++ ((newFeeder valid).push front).1.map .handed)
      (known : session.container.isSome = true) (going : session.closed = false) :
      Logged valid usable output medium capture events (session, now)

theorem Logged.going {session : Session φ ε} {now : Medium}
    (logged : Logged valid usable output medium capture events (session, now)) :
    session.closed = false := by
  cases logged with
  | watching _ _ _ watching => exact watching.going
  | known _ _ _ _ going => exact going

theorem Logged.closeEvents {session : Session φ ε} {now : Medium}
    (logged : Logged valid usable output medium capture events (session, now)) :
    ∃ blocks rest, Parted capture blocks rest session ∧
      (∀ block ∈ blocks, block.length = config.maxDetection) ∧
      if session.container = none then
        events ++ session.closeEvents = (blocks ++ [rest]).flatMap (epoch valid)
      else
        ∃ front, front <+: rest ∧ events ++ session.closeEvents =
          blocks.flatMap (epoch valid) ++ ((newFeeder valid).push front).1.map .handed := by
  cases logged with
  | @watching _ blocks parted whole logged watching =>
    have left : session.closeEvents =
        [.discarded ((newFeeder valid).push session.retained).2.waiting] := by
      rw [Session.closeEvents, watching.going, watching.unknown, watching.replayed,
        Feeder.waiting_shift]
      rfl
    refine ⟨blocks, session.retained, parted, whole, ?_⟩
    rw [if_pos watching.unknown, logged, left, List.flatMap_append, List.flatMap_singleton, epoch,
      List.append_assoc, Session.passed]
  | @known _ _ blocks front more parted whole logged known going =>
    have left : session.closeEvents = [] := by
      rw [Session.closeEvents, known, Bool.or_true, if_pos rfl]
    refine ⟨blocks, front ++ more, parted, whole, ?_⟩
    rw [if_neg (Option.isSome_iff_ne_none.mp known), left, List.append_nil]
    exact ⟨front, List.prefix_append .., logged⟩

variable [Engine ε]

theorem Logged.record {session : Session φ ε} {now : Medium}
    (logged : Logged valid usable output medium capture events (session, now))
    (known : session.container.isSome = true) (data : Bytes) :
    Logged valid usable output medium (capture ++ data) events (session.record now data) := by
  cases logged with
  | watching _ _ _ watching =>
    rw [watching.unknown] at known
    cases known
  | @known _ _ blocks front more parted whole logged known going =>
    have further := parted.record now data
    rw [List.append_assoc] at further
    have still : (session.record now data).1.container.isSome = true := by
      rw [record_container, known]
    have stays : (session.record now data).1.closed = false := by rw [record_closed, going]
    exact .known further whole logged still stays

theorem Watching.passed_analyse [EngineFactory φ ε] {seen : List Bytes → ε → Prop}
    {session : Session φ ε} (watching : Watching valid usable seen output session)
    (reliable : Reliable usable seen) (input : Bytes) :
    (session.analyse input).passed valid = session.passed valid ++ session.offered input := by
  obtain ⟨engine, running, -⟩ := watching.analysed
  obtain ⟨-, kept, -⟩ := watching.analyse reliable input
  have pushed := watching.abreast.push (session.detection.fitting input)
  simp only [passed, kept, (fit_newFeeder valid).push_append, offered, running, pushed]

section Steps

variable [EngineFactory φ ε] (reliable : Reliable (ε := ε) usable fun _ _ => True)
  (silent : output.accepting = false)
include reliable silent

theorem Logged.turn {session : Session φ ε} {now : Medium}
    (logged : Logged valid usable output medium capture events (session, now))
    (unknown : session.container = none) (input : Bytes) :
    ((session.analyse input).poll now).1 = true ∧
      Logged valid usable output medium (capture ++ session.detection.fitting input)
        (events ++ session.turnEvents input) ((session.analyse input).poll now).2 := by
  cases logged with
  | known _ _ _ known =>
    rw [unknown] at known
    cases known
  | @watching _ blocks parted whole logged watching =>
    obtain ⟨watches, kept, -⟩ := watching.analyse reliable input
    obtain ⟨polled, turned⟩ := watches.poll reliable silent medium
    refine ⟨polled, ?_⟩
    have parted := parted.analyse kept
    have logged : events ++ (session.offered input).map .handed =
        blocks.flatMap (epoch valid) ++ ((session.analyse input).passed valid).map .handed := by
      rw [watching.passed_analyse reliable, logged, List.map_append, List.append_assoc]
    cases turned with
    | @recording ready engine front container found retaining same running part saw came =>
      have begun := retaining.startRecording running medium container
      have split := (parted.same same).startRecording medium container
      rw [same.retained, ← List.append_nil (session.analyse input).retained] at split
      have held := session.turnEvents_of_kept input medium
        (by rw [came, startRecording_stats, same.resets])
      rw [held, came]
      exact .known split whole logged begun.known begun.going
    | @again next found _ still watching same came =>
      rw [session.turnEvents_of_kept input medium (by rw [came, same.resets]), came]
      refine .watching (parted.same same) whole ?_ watching
      rw [logged, Session.passed, Session.passed, same.retained]
    | @waiting next missed below still watching same came =>
      rw [session.turnEvents_of_kept input medium (by rw [came, same.resets]), came]
      refine .watching (parted.same same) whole ?_ watching
      rw [logged, Session.passed, Session.passed, same.retained]
    | @startedOver next missed full watching empty again more came =>
      -- The units of the block were handed on before; what waits behind them is what is thrown away.
      have waits : (session.analyse input).feeder.waiting =
          ((newFeeder valid).push (session.analyse input).retained).2.waiting := by
        rw [watches.replayed, Feeder.waiting_shift]
      have all := List.forall_mem_append.mpr ⟨whole, List.forall_mem_singleton.mpr full⟩
      rw [session.turnEvents_of_reset input medium (by rw [came, again]), came]
      refine .watching (parted.startedOver empty again) all ?_ watching
      rw [← List.append_assoc, logged, waits, List.flatMap_append, List.flatMap_singleton,
        Session.passed, Session.passed, empty, Feeder.push_nil, List.map_nil, List.append_nil, epoch,
        List.append_assoc]

theorem Logged.kept : FeedInvariant fun capture events (state : Session φ ε × Medium) =>
    Logged valid usable output medium capture events state where
  going := Logged.going
  turn input logged unknown := logged.turn reliable silent unknown input
  record data logged known := logged.record known data

end Steps

end Session

section Opening

variable {φ ε : Type} [Engine ε] [EngineFactory φ ε] {good : φ → Prop}

structure Opening (good : φ → Prop) : Prop where
  opens : ∀ {factory params}, good factory → params.input = .transport → ∃ engine next,
    EngineFactory.openEngine factory params = (.ok engine, next) ∧ good next

def Asked (good : φ → Prop) (factory : φ) (params : EngineParams) : Prop :=
  good factory ∧ params.input = .transport

theorem Opening.reliable (opening : Opening good) :
    Reliable (Asked good) fun (_ : List Bytes) (_ : ε) => True where
  opens asked := by
    obtain ⟨engine, next, opened, still⟩ := opening.opens asked.1 asked.2
    exact ⟨engine, next, opened, ⟨still, asked.2⟩, trivial⟩
  retuned asked := asked
  corrected asked := asked
  analysed _ _ := trivial
  satisfied _ _ _ _ := trivial

end Opening

namespace Session

/--
Whatever its engines are like and however the capture is cut into pieces, a session looks at it in blocks
as long as the cap, each with a feeder of its own. The engine is handed the units that a block completes;
the whole packets behind the last of them are discarded unseen when analysis starts over, and at the end
of a session that has not found its container.
-/
theorem journal_of_capture {φ ε : Type} [Engine ε] [EngineFactory φ ε] {good : φ → Prop}
    (opening : Opening good) (setup : Setup φ) (able : good setup.factory)
    (valid : setup.config.Valid) (recording : Nat) (medium : Medium) (pieces : List Bytes) :
    ∃ session started, start setup recording medium = .ok (session, started) ∧
      let fed := session.feedAll started pieces
      let capture : Bytes := pieces.flatten
      let resets := fed.2.1.stats.resets
      let blocks := (capture.wholeChunks setup.config.maxDetection).take resets
      let rest := capture.drop (resets * setup.config.maxDetection)
      fed.1 = true ∧ blocks.length = resets ∧
        if fed.2.1.container = none then
          session.journal started pieces = (blocks ++ [rest]).flatMap (epoch valid)
        else
          ∃ front, front <+: rest ∧ session.journal started pieces =
            blocks.flatMap (epoch valid) ++ ((newFeeder valid).push front).1.map .handed := by
  have reliable := opening.reliable
  obtain ⟨session, started, opened, watching, nothing, resets, -, -⟩ :=
    start_watching reliable setup valid ⟨able, rfl⟩ recording medium
  have begun : Logged valid (Asked good) (setup.newOutput recording) started [] []
      (session, started) := by
    have parted : Parted [] [] session.retained session := ⟨by rw [nothing]; rfl, resets⟩
    refine .watching parted nofun ?_ watching
    rw [passed, nothing, Feeder.push_nil]
    rfl
  obtain ⟨took, all, logged, journal⟩ := (Logged.kept reliable rfl).feedAll [] begun pieces
  rw [List.nil_append] at logged journal
  obtain ⟨blocks, rest, parted, whole, ended⟩ := logged.closeEvents
  have taken : (Bytes.wholeChunks setup.config.maxDetection pieces.flatten).take
      (session.feedAll started pieces).2.1.stats.resets = blocks := by
    rw [parted.spent, parted.resets, Bytes.wholeChunks_flatten_append valid.cap_pos whole, List.take_left]
  have behind : pieces.flatten.drop
      ((session.feedAll started pieces).2.1.stats.resets * setup.config.maxDetection) = rest := by
    rw [parted.spent, parted.resets, ← Bytes.length_flatten_blocks whole, List.drop_left]
  refine ⟨session, started, opened, took, ?_, ?_⟩
  · rw [taken, parted.resets]
  · simp only [taken, behind, journal]
    exact ended

/-- A unit of three packets, a cap of four, and an engine that would know its container after four. -/
def unevenSetup : Setup ScriptedFactory where
  destination := ⟨0, 0, "uneven.ts"⟩
  factory := .new (.after 8) .h264 none
  opener := .files ⟨none, none⟩
  output := .transport
  capture := .other
  delivery := .unknown
  tuning := .automatic
  config := { standard with
    packetSize := 2, maxTransfer := 6, initialDetection := 8, maxDetection := 8 }
  registered := false

theorem uneven_valid : unevenSetup.config.Valid := by decide

def unevenMedium : Medium :=
  ⟨((Storage.empty []).addFile "uneven.ts" .healthy).2, .empty⟩

def unevenCapture : Bytes :=
  [0x47, 1, 0x47, 2, 0x47, 3, 0x47, 4, 0x47, 5, 0x47, 6, 0x47, 7, 0x47, 8]

theorem opening_scripted :
    Opening fun factory : ScriptedFactory => factory.script ≠ .failing where
  opens able _ := ⟨_, _, if_neg able, able⟩

theorem feedAll_uneven {session : Session ScriptedFactory ScriptedEngine} {started : Medium}
    (opened : start unevenSetup 0 unevenMedium = .ok (session, started)) :
    (session.feedAll started [unevenCapture]).2.1.container = none ∧
      (session.feedAll started [unevenCapture]).2.1.stats.resets = 2 := by
  obtain ⟨rfl, rfl⟩ := Prod.mk.inj (Except.ok.inj opened)
  simp only [feedAll, feed]
  rw [if_neg (by decide), feedFrom_of_going (by decide) rfl (by decide +kernel),
    feedFrom_of_going (by decide +kernel) (by decide +kernel) (by decide +kernel), feedFrom,
    dif_pos (by decide +kernel)]
  decide +kernel

/-- Two blocks are given up, and the fourth packet of each is discarded. -/
theorem journal_of_capture_uneven :
    unevenSetup.factory.script ≠ .failing ∧ unevenSetup.config.Valid ∧
      ∃ session started, start unevenSetup 0 unevenMedium = .ok (session, started) ∧
        (session.feedAll started [unevenCapture]).2.1.stats.resets = 2 ∧
        session.journal started [unevenCapture] =
          [.handed [0x47, 1, 0x47, 2, 0x47, 3], .discarded [[0x47, 4]],
            .handed [0x47, 5, 0x47, 6, 0x47, 7], .discarded [[0x47, 8]], .discarded []] := by
  have able : unevenSetup.factory.script ≠ .failing := by decide
  obtain ⟨session, started, opened, -, -, journal⟩ :=
    journal_of_capture opening_scripted unevenSetup able uneven_valid 0 unevenMedium [unevenCapture]
  obtain ⟨unknown, resets⟩ := feedAll_uneven opened
  rw [if_pos unknown, resets] at journal
  refine ⟨able, uneven_valid, session, started, opened, resets, journal.trans ?_⟩
  decide +kernel

/-- A packet on a boundary is discarded, and no chunk that an engine is handed holds it. -/
theorem discarded_unseen :
    ∃ session started, start unevenSetup 0 unevenMedium = .ok (session, started) ∧
      ∃ packets packet, .discarded packets ∈ session.journal started [unevenCapture] ∧
        packet ∈ packets ∧ ∀ chunk, .handed chunk ∈ session.journal started [unevenCapture] →
          packet ∉ chunk.wholeChunks unevenSetup.config.packetSize := by
  obtain ⟨session, started, opened⟩ :
      ∃ session started, start unevenSetup 0 unevenMedium = .ok (session, started) :=
    ⟨_, _, rfl⟩
  have journal : session.journal started [unevenCapture] =
      [.handed [0x47, 1, 0x47, 2, 0x47, 3], .discarded [[0x47, 4]],
        .handed [0x47, 5, 0x47, 6, 0x47, 7], .discarded [[0x47, 8]], .discarded []] := by
    obtain ⟨rfl, rfl⟩ := Prod.mk.inj (Except.ok.inj opened)
    simp only [Session.journal, feed]
    rw [if_neg (by decide), if_neg (by decide),
      journalFrom_of_going (by decide) rfl (by decide +kernel),
      journalFrom_of_going (by decide +kernel) (by decide +kernel) (by decide +kernel),
      feedFrom_of_going (by decide) rfl (by decide +kernel),
      feedFrom_of_going (by decide +kernel) (by decide +kernel) (by decide +kernel), journalFrom,
      dif_pos (by decide +kernel), feedFrom, dif_pos (by decide +kernel)]
    decide +kernel
  refine ⟨session, started, opened, [[0x47, 4]], [0x47, 4], ?_, List.mem_singleton_self _, ?_⟩
  · rw [journal]
    decide
  · intro chunk handed
    rw [journal] at handed
    simp only [List.mem_cons, Event.handed.injEq, reduceCtorEq, List.not_mem_nil, false_or,
      or_false] at handed
    rcases handed with rfl | rfl <;> decide +kernel

end Session

end MpegRecorder
