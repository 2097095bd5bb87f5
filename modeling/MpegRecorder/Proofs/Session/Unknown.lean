import Mathlib.Algebra.Group.Nat.Defs
import MpegRecorder.Proofs.Output.Operation
import MpegRecorder.Proofs.Session.Epochs
import MpegRecorder.Proofs.Storage.Growth

/-!
Sessions that never get to know their container. How often the detection buffer was grown and emptied, how
large it is and what it holds depends on the number of bytes fed and on nothing else, and nothing is written.
-/

namespace MpegRecorder

open Capture Config

/-- Factories that always open an engine for a transport stream, and never one that reports a container. -/
structure Mute {φ ε : Type} [Engine ε] [EngineFactory φ ε] (good : φ → Prop) (mute : ε → Prop) :
    Prop where
  opens : ∀ {factory params}, good factory → params.input = .transport → ∃ engine next,
    EngineFactory.openEngine factory params = (.ok engine, next) ∧ good next ∧ mute engine
  analysed : ∀ {engine} chunk, mute engine → mute (Engine.analyse engine chunk).2
  silent : ∀ {engine}, mute engine → Engine.container? engine = none

namespace Config

variable {config : Config} {count : Nat}

def doubled (config : Config) (count : Nat) : Nat :=
  min (config.initialDetection * 2 ^ count) config.maxDetection

theorem doubled_zero (config : Config) :
    config.doubled 0 = min config.initialDetection config.maxDetection := by
  rw [doubled, Nat.pow_zero, Nat.mul_one]

theorem doubled_succ (config : Config) (count : Nat) :
    config.doubled (count + 1) = min (config.doubled count * 2) config.maxDetection := by
  rw [doubled, doubled, Nat.pow_succ, ← Nat.mul_assoc]
  omega

theorem doubled_le_of_le {more : Nat} (further : count ≤ more) :
    config.doubled count ≤ config.doubled more := by
  have powers : 2 ^ count ≤ 2 ^ more := Nat.pow_le_pow_right (by decide) further
  have sizes := Nat.mul_le_mul_left config.initialDetection powers
  unfold doubled
  omega

theorem doubled_lt_succ (valid : config.Valid) (below : config.doubled count < config.maxDetection) :
    config.doubled count < config.doubled (count + 1) := by
  have positive : config.doubled 0 ≤ config.doubled count := doubled_le_of_le (Nat.zero_le _)
  have start := valid.detection_pos
  rw [doubled_zero] at positive
  rw [doubled_succ]
  omega

end Config

namespace Session

variable {φ ε : Type} {config : Config} {fed : Nat} {session : Session φ ε}

structure Paced (config : Config) (fed : Nat) (session : Session φ ε) : Prop where
  total : session.stats.resets * config.maxDetection + session.retained.length = fed
  limit : session.detection.limit = config.doubled session.stats.growths
  capped : 0 < session.stats.resets → session.detection.limit = config.maxDetection
  needed : ∀ count < session.stats.growths,
    config.doubled count < config.maxDetection ∧ config.doubled count ≤ fed
  opened : session.stats.engineOpens = 1 + session.stats.resets

theorem Paced.capacity (paced : Paced config fed session)
    (room : session.retained.length < session.detection.limit) :
    if config.maxDetection ≤ fed then session.detection.limit = config.maxDetection
    else fed < session.detection.limit ∧
      ∀ count, fed < config.doubled count → session.detection.limit ≤ config.doubled count := by
  have total := paced.total
  have inside : session.detection.limit ≤ config.maxDetection := by
    rw [paced.limit]
    exact Nat.min_le_right ..
  split
  · next long =>
    apply paced.capped
    apply Nat.pos_of_ne_zero
    intro never
    rw [never, Nat.zero_mul] at total
    omega
  · next short =>
    have never : session.stats.resets = 0 := by
      by_contra again
      have whole : 1 * config.maxDetection ≤ session.stats.resets * config.maxDetection :=
        Nat.mul_le_mul_right _ (Nat.pos_of_ne_zero again)
      omega
    rw [never, Nat.zero_mul] at total
    refine ⟨by omega, fun count larger => ?_⟩
    rw [paced.limit]
    apply doubled_le_of_le
    by_contra fewer
    have small := (paced.needed count (Nat.lt_of_not_le fewer)).2
    omega

theorem Paced.minimal (paced : Paced config fed session) (valid : config.Valid) (count : Nat)
    (fewer : count < session.stats.growths) : config.doubled count < session.detection.limit := by
  rw [paced.limit]
  exact Nat.lt_of_lt_of_le (doubled_lt_succ valid (paced.needed count fewer).1)
    (doubled_le_of_le fewer)

theorem Paced.blocks (paced : Paced config fed session)
    (inside : session.retained.length < config.maxDetection) :
    session.stats.resets = fed / config.maxDetection ∧
      session.retained.length = fed % config.maxDetection := by
  have total := paced.total
  have positive : 0 < config.maxDetection := Nat.lt_of_le_of_lt (Nat.zero_le _) inside
  have unique := (Nat.div_mod_unique (a := fed) (d := session.stats.resets)
    (c := session.retained.length) positive).mpr ⟨?_, inside⟩
  · exact ⟨unique.1.symm, unique.2.symm⟩
  · rw [Nat.mul_comm config.maxDetection]
    omega

variable [Engine ε]

theorem Paced.analyse (paced : Paced config fed session) {input : Bytes}
    (kept : (session.analyse input).retained = session.retained ++ session.detection.fitting input) :
    Paced config (fed + (session.detection.fitting input).length) (session.analyse input) := by
  have total := paced.total
  refine ⟨?_, ?_, ?_, fun count fewer => ?_, ?_⟩
  · rw [kept, analyse_stats, List.length_append]
    omega
  · rw [analyse_detection, analyse_stats, Detection.limit_append, paced.limit]
  · rw [analyse_detection, analyse_stats, Detection.limit_append]
    exact paced.capped
  · rw [analyse_stats] at fewer
    obtain ⟨below, small⟩ := paced.needed count fewer
    exact ⟨below, by omega⟩
  · rw [analyse_stats, paced.opened]

variable [EngineFactory φ ε] {valid : config.Valid} {usable : φ → EngineParams → Prop}
  {seen : List Bytes → ε → Prop} {output : Output}

theorem Paced.onUndetected (paced : Paced config fed session)
    (watching : Watching valid usable seen output session) (reliable : Reliable usable seen)
    (silent : output.accepting = false) (medium : Medium) :
    Paced config fed (session.onUndetected medium).1 ∧
      (session.onUndetected medium).1.retained.length <
        (session.onUndetected medium).1.detection.limit := by
  have total := paced.total
  have cap := watching.cap
  have inside : session.retained.length ≤ session.detection.limit := by
    rw [retained, Packed.length_toList]
    exact session.detection.size_le
  unfold Session.onUndetected
  -- A buffer with room is left alone, one below the cap is doubled, and one at the cap is emptied.
  split
  · next room =>
    refine ⟨paced, ?_⟩
    rw [retained, Packed.length_toList]
    simpa [Detection.isFull] using room
  · next full =>
    have whole : session.detection.limit ≤ session.retained.length := by
      rw [retained, Packed.length_toList]
      simpa [Detection.isFull] using full
    split
    · next below =>
      have under : ¬ session.detection.atCap = true := by simpa using below
      have short := Detection.limit_lt_cap under
      have kept : session.detection.grow.retained = session.detection.retained := by
        rw [Detection.grow, dif_neg under]
      have limit : session.detection.grow.limit = config.doubled (session.stats.growths + 1) := by
        rw [Detection.limit_grow under, doubled_succ, ← paced.limit, cap]
      have larger : session.detection.limit < session.detection.grow.limit := by
        rw [limit, paced.limit]
        apply doubled_lt_succ valid
        rw [← paced.limit, ← cap]
        exact short
      refine ⟨⟨?_, limit, fun again => ?_, fun count fewer => ?_, paced.opened⟩, ?_⟩
      · simp only [retained, kept]
        exact total
      · have capped := paced.capped again
        omega
      · rcases Nat.lt_succ_iff_lt_or_eq.mp fewer with before | rfl
        · exact paced.needed count before
        · rw [← paced.limit]
          exact ⟨by omega, by omega⟩
      · simp only [retained, kept]
        rw [← retained]
        omega
    · next top =>
      have limit : session.detection.cap ≤ session.detection.limit := by
        simpa [Detection.atCap] using top
      have level := watching.level
      obtain ⟨engine, factory, opened, -, -⟩ := reopenEngine_eq session.emptied reliable
        (reliable.retuned watching.able) (watching.output ▸ silent) medium
      change Paced config fed (session.emptied.reopenEngine medium).2.1 ∧
        (session.emptied.reopenEngine medium).2.1.retained.length <
          (session.emptied.reopenEngine medium).2.1.detection.limit
      rw [opened]
      have opens := paced.opened
      refine ⟨⟨?_, paced.limit, fun _ => ?_, paced.needed, ?_⟩, session.limit_pos⟩
      · change (session.stats.resets + 1) * config.maxDetection + 0 = fed
        rw [Nat.add_mul]
        omega
      · change session.detection.limit = config.maxDetection
        omega
      · change session.stats.engineOpens + 1 = 1 + (session.stats.resets + 1)
        omega

end Session

theorem Mute.reliable {φ ε : Type} [Engine ε] [EngineFactory φ ε] {good : φ → Prop}
    {mute : ε → Prop} (never : Mute good mute) :
    Reliable (Asked good) fun (_ : List Bytes) engine => mute engine where
  opens asked := by
    obtain ⟨engine, next, opened, still, silent⟩ := never.opens asked.1 asked.2
    exact ⟨engine, next, opened, ⟨still, asked.2⟩, silent⟩
  retuned asked := asked
  corrected asked := asked
  analysed chunk silent := never.analysed chunk silent
  satisfied silent _ _ _ := never.analysed _ silent

namespace Session

variable {φ ε : Type} [Engine ε] [EngineFactory φ ε] {config : Config} {valid : config.Valid}
  {good : φ → Prop} {mute : ε → Prop} {output : Output} {medium : Medium} {capture : Bytes}

structure Filling (valid : config.Valid) (good : φ → Prop) (mute : ε → Prop) (output : Output)
    (medium : Medium) (capture : Bytes) (state : Session φ ε × Medium) : Prop where
  watching : Watching valid (Asked good) (fun _ engine => mute engine) output state.1
  paced : Paced config capture.length state.1
  room : state.1.retained.length < state.1.detection.limit
  untouched : state.2 = medium

theorem Filling.turn (never : Mute good mute) (silent : output.accepting = false)
    {session : Session φ ε} {now : Medium}
    (filling : Filling valid good mute output medium capture (session, now)) (input : Bytes) :
    ((session.analyse input).poll now).1 = true ∧
      Filling valid good mute output medium (capture ++ session.detection.fitting input)
        ((session.analyse input).poll now).2 := by
  have reliable := never.reliable
  obtain ⟨watches, kept, -⟩ := filling.watching.analyse reliable input
  obtain ⟨engine, running, mutes⟩ := watches.analysed
  have missed : (session.analyse input).detected? = none := by
    rw [detected?, running]
    exact never.silent mutes
  have polled : (session.analyse input).poll now =
      (true, (session.analyse input).onUndetected now) := by
    rw [poll, missed]
  have paced := filling.paced.analyse kept
  rw [← List.length_append] at paced
  obtain ⟨goesOn, room⟩ := paced.onUndetected watches reliable silent now
  rw [polled]
  refine ⟨rfl, ?_⟩
  have turned := watches.onUndetected reliable silent missed now
  cases turned with
  | recording container found =>
    rw [missed] at found
    cases found
  | again found =>
    rw [missed] at found
    cases found
  | waiting missed below still watching same came =>
    rw [came] at goesOn room ⊢
    exact ⟨watching, goesOn, room, filling.untouched⟩
  | startedOver missed full watching empty resets lost came =>
    rw [came] at goesOn room ⊢
    exact ⟨watching, goesOn, room, filling.untouched⟩

theorem Filling.kept (never : Mute good mute) (silent : output.accepting = false) :
    FeedInvariant fun capture _ (state : Session φ ε × Medium) =>
      Filling valid good mute output medium capture state where
  going filling := filling.watching.going
  turn input filling _ := filling.turn never silent input
  record data filling known := by
    rw [filling.watching.unknown] at known
    cases known

omit [Engine ε] [EngineFactory φ ε] in
theorem Setup.finish (setup : Setup φ) (recording : Nat) (medium : Medium) :
    (setup.newOutput recording).finish medium =
      ({ setup.newOutput recording with destination := none, closed := true },
        { medium with storage := (medium.storage.close setup.destination).2 }) := by
  let ending : Output := { setup.newOutput recording with closed := true }
  have nothing : ending.flushAll medium = (ending, medium) := by
    have written (writer : Output.Writer) : writer.write [] = (.ok (), writer) := by
      rw [Output.Writer.write, dif_pos rfl]
    change ending.writeOut medium [] = (ending, medium)
    simp only [Output.writeOut, written]
    rfl
  rw [Output.finish_of_idle rfl, nothing]
  rfl

theorem Filling.start (never : Mute good mute) (setup : Setup φ) (able : good setup.factory)
    (valid : setup.config.Valid) (recording : Nat) (medium : Medium) :
    ∃ session started, start setup recording medium = .ok (session, started) ∧
      started.storage = medium.storage ∧
      Filling valid good mute (setup.newOutput recording) started [] (session, started) := by
  obtain ⟨session, started, opened, watching, nothing, -, -, stored⟩ :=
    start_watching never.reliable setup valid ⟨able, rfl⟩ recording medium
  obtain ⟨-, stats, detection, -⟩ := start_fresh opened
  refine ⟨session, started, opened, stored, watching, ⟨?_, ?_, ?_, ?_, ?_⟩, ?_, rfl⟩
  · rw [stats, nothing, Nat.zero_mul]
    rfl
  · rw [stats, detection, doubled_zero]
    rfl
  · rw [stats]
    nofun
  · rw [stats]
    nofun
  · rw [stats]
    rfl
  · rw [nothing]
    exact session.limit_pos

structure Idle (config : Config) (fed : Nat) (session : Session φ ε) : Prop where
  unknown : session.container = none
  resets : session.stats.resets = fed / config.maxDetection
  retained : session.retained.length = fed % config.maxDetection
  capacity : session.detection.limit = config.doubled session.stats.growths
  needed : if config.maxDetection ≤ fed then session.detection.limit = config.maxDetection
    else fed < session.detection.limit ∧
      ∀ count, fed < config.doubled count → session.detection.limit ≤ config.doubled count
  doublings : ∀ count < session.stats.growths, config.doubled count < session.detection.limit
  opened : session.stats.engineOpens = 1 + session.stats.resets

omit [Engine ε] [EngineFactory φ ε] in
theorem Filling.idle {session : Session φ ε} {now : Medium}
    (filling : Filling valid good mute output medium capture (session, now)) :
    Idle config capture.length session := by
  have paced := filling.paced
  have level := filling.watching.level
  obtain ⟨resets, retained⟩ := paced.blocks (Nat.lt_of_lt_of_le filling.room level)
  exact ⟨filling.watching.unknown, resets, retained, paced.limit, paced.capacity filling.room,
    paced.minimal valid, paced.opened⟩

/--
A session whose engines never report a container takes every piece. How often the detection buffer was
grown and emptied, how large it is and how much it retains follows from the number of bytes fed. No file
gets a byte: the storage stays as it is until the end, and then the destination is closed.
-/
theorem growth_of_undetected (never : Mute good mute) (setup : Setup φ) (able : good setup.factory)
    (valid : setup.config.Valid) (recording : Nat) (medium : Medium) (pieces : List Bytes) :
    ∃ session started, start setup recording medium = .ok (session, started) ∧
      let fed := session.feedAll started pieces
      let ended := fed.2.1.close fed.2.2
      fed.1 = true ∧ Idle setup.config pieces.flatten.length fed.2.1 ∧
        fed.2.2.storage = medium.storage ∧
        ended.2.storage = (medium.storage.close setup.destination).2 ∧
        (∀ file, ended.2.storage.content file = medium.storage.content file) ∧
        ended.1.output.counters = .zero := by
  obtain ⟨session, started, opened, stored, filling⟩ :=
    Filling.start never setup able valid recording medium
  have silent : (setup.newOutput recording).accepting = false := rfl
  obtain ⟨took, -, last, -⟩ := (Filling.kept never silent).feedAll [] filling pieces
  obtain ⟨engine, running, -⟩ := last.watching.analysed
  obtain ⟨written, closed, -⟩ := last.watching.toRetaining.close running silent
    (session.feedAll started pieces).2.2
  rw [last.untouched, setup.finish] at written closed
  refine ⟨session, started, opened, took, last.idle, ?_, ?_, fun file => ?_, ?_⟩
  · rw [last.untouched, stored]
  · rw [last.untouched, closed, stored]
  · rw [last.untouched, closed, stored]
    exact Storage.content_close ..
  · rw [last.untouched, written]
    rfl

theorem mute_scripted :
    Mute (fun factory : ScriptedFactory => factory.script = .never ∧ factory.reopened = none)
      fun engine : ScriptedEngine => engine.script = .never where
  opens := by
    rintro ⟨script, video, reopened, opened⟩ params ⟨rfl, rfl⟩ -
    exact ⟨_, _, rfl, ⟨rfl, rfl⟩, rfl⟩
  analysed _ never := never
  silent := by
    rintro ⟨script, analysed, container⟩ rfl
    rfl

def fruitlessSetup : Setup ScriptedFactory where
  destination := ⟨0, 0, "fruitless.ts"⟩
  factory := .new .never .h264 none
  opener := .files ⟨none, none⟩
  output := .transport
  capture := .other
  delivery := .unknown
  tuning := .automatic
  config := { standard with
    packetSize := 2, maxTransfer := 6, initialDetection := 6, maxDetection := 16 }
  registered := false

theorem fruitless_valid : fruitlessSetup.config.Valid := by decide

def fruitlessMedium : Medium :=
  ⟨((Storage.empty []).addFile "fruitless.ts" .healthy).2, .empty⟩

/-- The first piece makes the buffer grow twice, and the second one fills it at its cap. -/
def fruitlessPieces : List Bytes :=
  [List.replicate 13 0x47, List.replicate 8 0x47]

theorem growth_of_undetected_fruitless :
    fruitlessSetup.factory.script = .never ∧ fruitlessSetup.factory.reopened = none ∧
      fruitlessSetup.config.Valid ∧
      ∃ session started, start fruitlessSetup 0 fruitlessMedium = .ok (session, started) ∧
        let fed := session.feedAll started fruitlessPieces
        let ended := fed.2.1.close fed.2.2
        fed.1 = true ∧ fed.2.1.stats.resets = 1 ∧ fed.2.1.stats.engineOpens = 2 ∧
          fed.2.1.stats.growths = 2 ∧ fed.2.1.retained.length = 5 ∧ fed.2.1.detection.limit = 16 ∧
          ended.2.storage.content 0 = [] := by
  obtain ⟨session, started, opened, took, idle, -, -, content, -⟩ :=
    growth_of_undetected mute_scripted fruitlessSetup ⟨rfl, rfl⟩ fruitless_valid 0 fruitlessMedium
      fruitlessPieces
  have resets : (session.feedAll started fruitlessPieces).2.1.stats.resets = 1 := idle.resets
  have limit : (session.feedAll started fruitlessPieces).2.1.detection.limit = 16 := idle.needed
  refine ⟨rfl, rfl, fruitless_valid, session, started, opened, took, resets, ?_, ?_, idle.retained, limit,
    content 0⟩
  · rw [idle.opened, resets]
  · rcases Nat.lt_trichotomy (session.feedAll started fruitlessPieces).2.1.stats.growths 2 with
      fewer | exact | more
    · have once : fruitlessSetup.config.doubled _ ≤ fruitlessSetup.config.doubled 1 :=
        doubled_le_of_le (Nat.le_of_lt_succ fewer)
      rw [← idle.capacity, limit] at once
      exact absurd once (by decide)
    · exact exact
    · have third := idle.doublings 2 more
      rw [limit] at third
      exact absurd third (by decide)

end Session

end MpegRecorder
