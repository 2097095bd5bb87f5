import MpegRecorder.Proofs.Session.Steps

/-!
Where captured bytes go: a ledger that is kept along the steps of a feed. The retained bytes go through the
feeder up to three times, and each byte that is dropped there counts once.
-/

namespace MpegRecorder

open Capture Config

namespace Session

variable {φ ε : Type} [Engine ε]

variable [EngineFactory φ ε] {session : Session φ ε} {medium : Medium}

section Ready

variable {config : Config} {valid : config.Valid} {usable : φ → EngineParams → Prop}
  {seen : List Bytes → ε → Prop} {output : Output} {ready : Session φ ε} {place : Medium}
  {container : Container}

theorem Watching.of_ready (watching : Watching valid usable seen output session)
    (reliable : Reliable usable seen) (silent : output.accepting = false)
    (found : session.ready? medium = some (ready, place, container)) :
    Retaining valid output ready ∧ Same session ready ∧ ready.engine.isSome = true ∧
      place = medium := by
  unfold ready? at found
  split at found
  · cases found
  · split at found
    · obtain ⟨reopened, engine, opened, retaining, same, -, running, -⟩ :=
        watching.lookAgain reliable silent medium
      rw [opened] at found
      obtain ⟨last, -, equal⟩ := Option.map_eq_some_iff.mp found
      cases equal
      exact ⟨retaining, same, by rw [running]; rfl, rfl⟩
    · obtain ⟨engine, running, -⟩ := watching.analysed
      cases found
      exact ⟨watching.toRetaining, .refl session, by rw [running]; rfl, rfl⟩

omit [Engine ε] [EngineFactory φ ε] in
theorem Abreast.handed (abreast : Abreast valid session) (running : session.engine.isSome = true) :
    session.restartRetained.handed session.retained = session.passed valid := by
  obtain ⟨engine, running⟩ := Option.isSome_iff_exists.mp running
  simp only [Session.handed, restartRetained, running, abreast.replay]

omit [Engine ε] [EngineFactory φ ε] in
theorem Retaining.dropped_eq (retaining : Retaining valid output session) :
    session.dropped = session.lost + ((newFeeder valid).push session.retained).2.dropped := by
  have counted := retaining.counted
  have dropped := retaining.abreast.dropped
  unfold Session.dropped lost
  omega

omit [EngineFactory φ ε] in
theorem Underway.dropped_eq {engine : ε} {begun : Output} {lost : Nat} {since : Bytes} {now : Medium}
    (underway : Underway valid engine begun medium lost since session now) :
    session.dropped = lost + ((newFeeder valid).push since).2.dropped := by
  have replayed := congrArg Feeder.dropped underway.replayed
  rw [Feeder.dropped_shift] at replayed
  unfold Session.dropped
  omega

end Ready

structure Ledger where
  /-- Fed since analysis last started over. -/
  fed : Nat
  /-- What counted as dropped when analysis last started over. -/
  before : Nat
  /-- Handed to an engine to be recorded. -/
  handed : Nat
deriving Repr, DecidableEq

namespace Ledger

def opened (session : Session φ ε) : Ledger := ⟨0, session.dropped, 0⟩

def enter (ledger : Ledger) (step : Step φ ε) : Ledger where
  fed := if step.startsOver then 0 else ledger.fed + step.taken.length
  before := if step.startsOver then step.next.1.dropped else ledger.before
  handed := ledger.handed + step.handed.flatten.length

theorem enter_of_going {ledger : Ledger} {step : Step φ ε} (goes : step.startsOver = false) :
    ledger.enter step = ⟨ledger.fed + step.taken.length, ledger.before,
      ledger.handed + step.handed.flatten.length⟩ := by
  rw [enter, goes]
  rfl

theorem enter_of_over {ledger : Ledger} {step : Step φ ε} (begins : step.startsOver = true) :
    ledger.enter step =
      ⟨0, step.next.1.dropped, ledger.handed + step.handed.flatten.length⟩ := by
  rw [enter, begins]
  rfl

end Ledger

section Accounts

variable {config : Config} {valid : config.Valid} {good : φ → Prop} {output : Output}
  {ledger : Ledger} {now : Medium}

/-- What the ledger says of a session that looks for its container, or of one that records. -/
inductive Accounted (valid : config.Valid) (good : φ → Prop) (output : Output) (ledger : Ledger) :
    Session φ ε × Medium → Prop where
  | watching {session : Session φ ε} {now : Medium} (fed : ledger.fed = session.retained.length)
      (before : ledger.before = session.lost) (none : ledger.handed = 0)
      (watching : Watching valid (Asked good) (fun _ _ => True) output session) :
      Accounted valid good output ledger (session, now)
  | underway {session : Session φ ε} {now medium : Medium} {engine : ε} {begun : Output}
      {since : Bytes} (fed : ledger.fed = since.length)
      (handed : ledger.handed = ((newFeeder valid).push since).1.flatten.length)
      (underway : Underway valid engine begun medium ledger.before since session now) :
      Accounted valid good output ledger (session, now)

omit [EngineFactory φ ε] in
theorem Accounted.going (accounted : Accounted valid good output ledger (session, now)) :
    session.closed = false := by
  cases accounted with
  | watching _ _ _ watching => exact watching.going
  | underway _ _ underway => exact underway.going

omit [EngineFactory φ ε] in
theorem Accounted.covered (accounted : Accounted valid good output ledger (session, now)) :
    session.superseded ≤ session.feeder.dropped := by
  cases accounted with
  | watching _ _ _ watching =>
    have counted := watching.counted
    have dropped := watching.abreast.dropped
    omega
  | underway _ _ underway =>
    have replayed := congrArg Feeder.dropped underway.replayed
    rw [Feeder.dropped_shift] at replayed
    omega

/-- More of the same stream never makes fewer bytes dropped. -/
theorem dropped_push_le (valid : config.Valid) (stream more : Bytes) :
    ((newFeeder valid).push stream).2.dropped ≤
      ((newFeeder valid).push (stream ++ more)).2.dropped := by
  rw [(fit_newFeeder valid).push_append]
  exact ((fit_newFeeder valid).push stream).dropped_le_push more

theorem Accounted.record (accounted : Accounted valid good output ledger (session, now))
    (known : session.container.isSome = true) (data : Bytes) :
    Accounted valid good output (ledger.enter ⟨session, now, data⟩) (session.record now data) ∧
      session.dropped ≤ (session.record now data).1.dropped := by
  cases accounted with
  | watching _ _ _ watching =>
    rw [watching.unknown] at known
    cases known
  | @underway _ _ medium engine begun since fed handed underway =>
    have next := underway.record data
    have entered : ledger.enter ⟨session, now, data⟩ =
        ⟨ledger.fed + data.length, ledger.before,
          ledger.handed + (session.handed data).flatten.length⟩ := by
      rw [Ledger.enter_of_going (Step.startsOver_of_known known), Step.taken_of_known known,
        Step.handed_of_known known]
    obtain ⟨later, running, -⟩ := underway.recorded
    have given : session.handed data = (((newFeeder valid).push since).2.push data).1 := by
      have fit := (fit_newFeeder valid).push since
      simp only [Session.handed, running, underway.replayed, fit.push_shift]
    rw [entered]
    refine ⟨.underway ?_ ?_ next, ?_⟩
    · rw [fed, List.length_append]
    · rw [handed, given, (fit_newFeeder valid).push_append, List.flatten_append, List.length_append]
    · rw [underway.dropped_eq, next.dropped_eq]
      have more := dropped_push_le valid since data
      omega

section Steps

variable (reliable : Reliable (Asked good) fun (_ : List Bytes) (_ : ε) => True)

section Watching

variable {rest : Bytes}
  (watching : Watching valid (Asked good) (fun (_ : List Bytes) (_ : ε) => True) output session)
  (unknown : session.container = none)
include reliable watching

theorem Watching.dropped_le_analyse (rest : Bytes) :
    session.dropped ≤ (session.analyse rest).dropped := by
  obtain ⟨watches, kept, level⟩ := watching.analyse reliable rest
  have more := dropped_push_le valid session.retained (session.detection.fitting rest)
  rw [watching.dropped_eq, watches.dropped_eq, kept, level]
  omega

theorem Watching.setBack_covered (silent : output.accepting = false)
    (unknown : session.container = none) {replayed : Session φ ε}
    (member : replayed ∈ Step.setBack ⟨session, now, rest⟩) :
    replayed.droppedBefore ≤ replayed.feeder.dropped := by
  obtain ⟨watches, -, -⟩ := watching.analyse reliable rest
  have listed : Step.setBack ⟨session, now, rest⟩ =
      (((session.analyse rest).reopened? now).map Prod.fst).toList ++
        (((session.analyse rest).ready? now).map Prod.fst).toList :=
    Step.setBack_of_unknown unknown
  rw [listed] at member
  rcases List.mem_append.mp member with looked | records
  · rw [Option.mem_toList, Option.map_eq_some_iff] at looked
    obtain ⟨⟨reopened, place⟩, again, rfl⟩ := looked
    obtain ⟨feeder, before⟩ := feeder_of_reopened again
    have dropped := watches.abreast.dropped
    change reopened.droppedBefore ≤ reopened.feeder.dropped
    rw [feeder, before]
    omega
  · rw [Option.mem_toList, Option.map_eq_some_iff] at records
    obtain ⟨⟨ready, place, container⟩, found, rfl⟩ := records
    obtain ⟨retaining, -⟩ := watches.of_ready reliable silent found
    have dropped := retaining.abreast.dropped
    change ready.droppedBefore ≤ ready.feeder.dropped
    omega

variable (fed : ledger.fed = session.retained.length) (before : ledger.before = session.lost)
  (nothing : ledger.handed = 0)

include fed in
theorem Watching.length_analyse (rest : Bytes) :
    ledger.fed + (session.detection.fitting rest).length = (session.analyse rest).retained.length := by
  obtain ⟨-, kept, -⟩ := watching.analyse reliable rest
  rw [kept, List.length_append, fed]

include unknown nothing

theorem Watching.enter_over {next : Session φ ε}
    (unready : (session.analyse rest).ready? now = none)
    (still : Watching valid (Asked good) (fun (_ : List Bytes) (_ : ε) => True) output next)
    (empty : next.retained = [])
    (again : next.stats.resets = (session.analyse rest).stats.resets + 1)
    (lost : next.lost = (session.analyse rest).lost +
      ((newFeeder valid).push (session.analyse rest).retained).2.dropped)
    (result : ((session.analyse rest).poll now).2 = (next, now)) :
    Accounted valid good output (ledger.enter ⟨session, now, rest⟩) (next, now) ∧
      session.dropped ≤ next.dropped := by
  obtain ⟨watches, -, -⟩ := watching.analyse reliable rest
  have came : Step.next ⟨session, now, rest⟩ = (next, now) :=
    (Step.next_of_unknown unknown).trans result
  have begins : Step.startsOver ⟨session, now, rest⟩ = true := by
    rw [Step.startsOver, came, again, analyse_stats]
    exact decide_eq_true (Nat.succ_ne_self _)
  have total : next.dropped = next.lost := by
    rw [still.dropped_eq, empty, Feeder.push_nil]
    rfl
  rw [Ledger.enter_of_over begins, came, Step.handed_of_unready unknown unready]
  refine ⟨.watching ?_ total nothing still, ?_⟩
  · rw [empty]
    rfl
  · rw [total, lost, ← watches.dropped_eq]
    exact watching.dropped_le_analyse reliable rest

include fed before

theorem Watching.enter_same {next : Session φ ε}
    (unready : (session.analyse rest).ready? now = none)
    (still : Watching valid (Asked good) (fun (_ : List Bytes) (_ : ε) => True) output next)
    (same : Same (session.analyse rest) next)
    (result : ((session.analyse rest).poll now).2 = (next, now)) :
    Accounted valid good output (ledger.enter ⟨session, now, rest⟩) (next, now) ∧
      session.dropped ≤ next.dropped := by
  obtain ⟨watches, -, level⟩ := watching.analyse reliable rest
  have came : Step.next ⟨session, now, rest⟩ = (next, now) :=
    (Step.next_of_unknown unknown).trans result
  have goes : Step.startsOver ⟨session, now, rest⟩ = false := by
    rw [Step.startsOver, came, same.resets, analyse_stats]
    exact decide_eq_false fun differ => differ rfl
  rw [Ledger.enter_of_going goes, Step.taken_of_unknown unknown, Step.handed_of_unready unknown unready]
  refine ⟨.watching ?_ ?_ nothing still, ?_⟩
  · rw [same.retained, ← watching.length_analyse reliable fed rest]
  · rw [same.lost, level, ← before]
  · rw [still.dropped_eq, same.lost, same.retained, ← watches.dropped_eq]
    exact watching.dropped_le_analyse reliable rest

theorem Watching.enter_ready (silent : output.accepting = false) {ready : Session φ ε}
    {place : Medium} {container : Container}
    (found : (session.analyse rest).ready? now = some (ready, place, container)) :
    Accounted valid good output (ledger.enter ⟨session, now, rest⟩)
        (ready.startRecording place container) ∧
      session.dropped ≤ (ready.startRecording place container).1.dropped := by
  obtain ⟨watches, -, level⟩ := watching.analyse reliable rest
  obtain ⟨retaining, same, running, rfl⟩ := watches.of_ready reliable silent found
  have came : Step.next ⟨session, place, rest⟩ = ready.startRecording place container :=
    (Step.next_of_unknown unknown).trans (congrArg Prod.snd (poll_of_ready found))
  have goes : Step.startsOver ⟨session, place, rest⟩ = false := by
    rw [Step.startsOver, came, startRecording_stats, same.resets, analyse_stats]
    exact decide_eq_false fun differ => differ rfl
  obtain ⟨engine, isOpen⟩ := Option.isSome_iff_exists.mp running
  have begun := retaining.startRecording isOpen place container
  rw [same.lost, level, ← before, same.retained] at begun
  have floor := watching.dropped_le_analyse reliable rest
  rw [watches.dropped_eq, level, ← before] at floor
  rw [Ledger.enter_of_going goes, Step.taken_of_unknown unknown, Step.handed_of_ready unknown found,
    retaining.abreast.handed running, passed, same.retained]
  refine ⟨.underway (watching.length_analyse reliable fed rest) ?_ begun, ?_⟩
  · rw [nothing, Nat.zero_add]
  · rw [begun.dropped_eq]
    exact floor

end Watching

variable (silent : output.accepting = false)
include reliable silent

theorem Accounted.turn (accounted : Accounted valid good output ledger (session, now))
    (unknown : session.container = none) (rest : Bytes) :
    ((session.analyse rest).poll now).1 = true ∧
      (Accounted valid good output (ledger.enter ⟨session, now, rest⟩)
          ((session.analyse rest).poll now).2 ∧
        session.dropped ≤ ((session.analyse rest).poll now).2.1.dropped) ∧
      ∀ replayed ∈ Step.setBack ⟨session, now, rest⟩,
        replayed.droppedBefore ≤ replayed.feeder.dropped := by
  cases accounted with
  | underway _ _ underway => exact absurd unknown underway.container_ne
  | watching fed before nothing watching =>
    obtain ⟨watches, -, -⟩ := watching.analyse reliable rest
    obtain ⟨polled, turned⟩ := watches.poll reliable silent now
    refine ⟨polled, ?_, fun replayed => watching.setBack_covered reliable silent unknown⟩
    -- What is handed on goes by `ready?`, and what is retained by the outcome of the poll.
    cases found : (session.analyse rest).ready? now with
    | some state =>
      obtain ⟨ready, place, container⟩ := state
      rw [poll_of_ready found]
      exact watching.enter_ready reliable unknown fed before nothing silent found
    | none =>
      cases turned with
      | recording container _ _ _ _ _ _ result =>
        have missed := poll_of_unready found
        rw [result, startRecording_container, analyse_container, unknown] at missed
        cases missed
      | again _ _ _ still same result =>
        rw [result]
        exact watching.enter_same reliable unknown fed before nothing found still same result
      | waiting _ _ _ still same result =>
        rw [result]
        exact watching.enter_same reliable unknown fed before nothing found still same result
      | startedOver _ _ still empty again lost result =>
        rw [result]
        exact watching.enter_over reliable unknown nothing found still empty again lost result

end Steps

/-- What holds after the steps: the account, and what neither sum of dropped bytes ever does. -/
structure Booked (valid : config.Valid) (good : φ → Prop) (output : Output) (first : Ledger)
    (floor : Nat) (steps : List (Step φ ε)) (state : Session φ ε × Medium) : Prop where
  accounted : Accounted valid good output (steps.foldl .enter first) state
  least : floor ≤ state.1.dropped
  covered : ∀ step ∈ steps, ∀ replayed ∈ step.setBack,
    replayed.droppedBefore ≤ replayed.feeder.dropped

theorem Booked.open {first : Ledger} {state : Session φ ε × Medium}
    (accounted : Accounted valid good output first state) :
    Booked valid good output first state.1.dropped [] state :=
  ⟨accounted, Nat.le_refl _, List.forall_mem_nil _⟩

theorem Booked.kept (reliable : Reliable (Asked good) fun (_ : List Bytes) (_ : ε) => True)
    (silent : output.accepting = false) (first : Ledger) (floor : Nat) :
    StepInvariant (Booked (ε := ε) valid good output first floor) where
  going booked := booked.accounted.going
  turn rest booked unknown := by
    obtain ⟨polled, ⟨entered, more⟩, last⟩ := booked.accounted.turn reliable silent unknown rest
    refine ⟨polled, ?_, Nat.le_trans booked.least more, ?_⟩
    · rw [List.foldl_concat]
      exact entered
    · exact List.forall_mem_append.mpr ⟨booked.covered, List.forall_mem_singleton.mpr last⟩
  record {_ _ now} data booked known := by
    obtain ⟨entered, more⟩ := booked.accounted.record known data
    have none : Step.setBack ⟨_, now, data⟩ = [] := Step.setBack_of_known known
    refine ⟨?_, Nat.le_trans booked.least more, ?_⟩
    · rw [List.foldl_concat]
      exact entered
    · refine List.forall_mem_append.mpr ⟨booked.covered, List.forall_mem_singleton.mpr ?_⟩
      rw [none]
      exact List.forall_mem_nil _

theorem forwarded_balance (valid : config.Valid) (stream : Bytes) :
    (forwarded valid stream).flatten.length + wasted valid stream = stream.length := by
  have fed : ((newFeeder valid).push stream).1.flatten.length +
      ((newFeeder valid).push stream).2.pending.size + ((newFeeder valid).push stream).2.dropped =
        stream.length := Feeder.new_balance valid.confirms stream
  have finished := ((newFeeder valid).push stream).2.finish_balance
  rw [forwarded, wasted, List.flatten_append, List.length_append]
  omega

omit [EngineFactory φ ε] in
theorem Accounted.close (accounted : Accounted valid good output ledger (session, now))
    (known : session.container.isSome = true) :
    ledger.before ≤ (session.close now).1.dropped ∧
      ledger.fed = ledger.handed + session.handedAtEnd.flatten.length +
        ((session.close now).1.dropped - ledger.before) := by
  cases accounted with
  | watching _ _ _ watching =>
    rw [watching.unknown] at known
    cases known
  | @underway _ _ medium engine begun since fed handed underway =>
    obtain ⟨later, running, -⟩ := underway.recorded
    obtain ⟨-, -, -, -, -, -, dropped⟩ := underway.close
    have last : session.handedAtEnd = ((newFeeder valid).push since).2.finish.1 := by
      rw [handedAtEnd, running, underway.replayed, Feeder.finish_shift]
      exact if_pos known
    have balance := forwarded_balance valid since
    rw [forwarded, List.flatten_append, List.length_append] at balance
    rw [dropped, fed, handed, last]
    omega

end Accounts

def garbledSetup : Setup ScriptedFactory where
  destination := ⟨0, 0, "garbled.ts"⟩
  factory := .new .never .h264 (some 6)
  opener := .files ⟨none, none⟩
  output := .program
  capture := .other
  delivery := .unknown
  tuning := .automatic
  config := { standard with
    packetSize := 2, maxTransfer := 6, initialDetection := 12, maxDetection := 12 }
  registered := false

def garbledMedium : Medium :=
  ⟨((Storage.empty []).addFile "garbled.ts" .healthy).2, .empty⟩

end Session

end MpegRecorder
