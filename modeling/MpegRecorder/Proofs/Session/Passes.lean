import MpegRecorder.Proofs.Session.Ended
import MpegRecorder.Proofs.Session.Ledger
import MpegRecorder.Proofs.Session.Reopenings

/-!
What an engine is shown for analysis. A pass over the retained bytes begins with every engine that is opened
and goes on with what is fed. However the capture comes, and however often analysis starts over or looks again,
the pass is what a feeder makes of the retained bytes in one piece; so bytes that are looked at again, or
recorded, are cut as they were before.
-/

namespace MpegRecorder

open Capture Config

namespace Engine

variable {ε : Type} [Engine ε] {engine : ε}

def shown (engine : ε) (chunks : List Bytes) : ε :=
  chunks.foldl (fun engine chunk => (analyse engine chunk).2) engine

def wanted (engine : ε) : List Bytes → List Bytes
  | [] => []
  | chunk :: later =>
    let result := analyse engine chunk
    chunk :: if result.1 then [] else wanted result.2 later

/-- Whatever it was shown, the engine reports a container once it wants no more. -/
def Candid (engine : ε) : Prop :=
  ∀ chunks chunk, (analyse (shown engine chunks) chunk).1 = true →
    container? (analyse (shown engine chunks) chunk).2 ≠ none

theorem shown_append (engine : ε) (first more : List Bytes) :
    shown engine (first ++ more) = shown (shown engine first) more :=
  List.foldl_append ..

theorem Candid.analyse (candid : Candid engine) (chunk : Bytes) : Candid (analyse engine chunk).2 :=
  fun chunks => candid (chunk :: chunks)

theorem analyseUntilDone_eq (engine : ε) (chunks : List Bytes) :
    Session.analyseUntilDone engine chunks = shown engine (wanted engine chunks) := by
  rw [Reliable.analyseUntilDone_eq]
  induction chunks generalizing engine with
  | nil => rfl
  | cons chunk later ih =>
    rw [List.foldl_cons, Reliable.analyseWanted, if_pos rfl, wanted]
    cases wants : (Engine.analyse engine chunk).1 with
    | false => exact ih _
    | true => rw [Bool.not_true, Reliable.foldl_analyseWanted_done]; rfl

theorem Candid.wanted_eq (candid : Candid engine) {chunks : List Bytes}
    (missed : container? (shown engine (wanted engine chunks)) = none) : wanted engine chunks = chunks := by
  induction chunks generalizing engine with
  | nil => rfl
  | cons chunk later ih =>
    rw [wanted] at missed ⊢
    cases wants : (Engine.analyse engine chunk).1 with
    | false =>
      rw [wants] at missed
      rw [if_neg Bool.false_ne_true, ih (candid.analyse chunk) missed]
    | true =>
      rw [wants] at missed
      exact absurd missed (candid [] chunk wants)

end Engine

structure OpensCandid {φ ε : Type} [Engine ε] [EngineFactory φ ε] (good : φ → Prop) : Prop where
  opened : ∀ {factory params} {engine : ε} {next}, good factory →
    EngineFactory.openEngine factory params = (.ok engine, next) → good next ∧ Engine.Candid engine

namespace Session

variable {φ ε : Type} [Engine ε]

/-- The chunks that an engine is shown when it looks at the retained bytes from the first one on. -/
def offeredAgain (session : Session φ ε) : List Bytes :=
  match session.engine with
  | none => []
  | some engine => Engine.wanted engine (session.restartRetained.feeder.push session.retained).1

variable [EngineFactory φ ε]

namespace Step

/-- The pass after a step: what the engine has been shown since it was opened. -/
def pass (earlier : List Bytes) (step : Step φ ε) : List Bytes :=
  if step.session.container.isSome then earlier
  else
    match (step.session.analyse step.rest).reopened? step.medium with
    | some (reopened, _) => reopened.offeredAgain
    | none =>
      if (step.session.analyse step.rest).givesUp then []
      else earlier ++ step.session.offered step.rest

def attempts (step : Step φ ε) : List Reopening :=
  if step.session.container.isSome then [] else (step.session.analyse step.rest).tried step.medium

end Step

section Reopening

variable {session : Session φ ε} {medium : Medium}

theorem reopenEngine_of_opened (opened : (session.reopenEngine medium).1 = true) :
    ∃ engine next output engineOpens,
      EngineFactory.openEngine session.factory session.params = (.ok engine, next) ∧
        (session.reopenEngine medium).2.1 =
          { session with
            factory := next
            engine := some engine
            output
            stats := { session.stats with engineOpens } } := by
  revert opened
  unfold reopenEngine
  split
  · split
    · rintro ⟨⟩
    · next engine next opened => exact fun _ => ⟨engine, next, _, _, opened, rfl⟩

theorem poll_of_corrected {container : Container} (found : session.detected? = some container)
    (needed : session.params.output = .program ∧ container.needsTransport = true)
    (opened : ∀ attempt ∈ session.tried medium, attempt.opened = true) :
    ∃ reopened place, session.reopened? medium = some (reopened, place) ∧
      session.poll medium =
        match reopened.analyseRetained.detected? with
        | none => (true, reopened.analyseRetained, place)
        | some container => (true, reopened.analyseRetained.startRecording place container) := by
  cases result : session.corrected.reopenEngine medium with
  | mk answer state =>
    obtain ⟨reopened, place⟩ := state
    have tried : session.tried medium = [⟨.correct, session.corrected.params, answer⟩] := by
      simp only [Session.tried, reopening?, found, if_pos needed, result]
    rw [tried] at opened
    have answered : answer = true := opened _ (List.mem_singleton_self _)
    subst answered
    refine ⟨reopened, place, ?_, ?_⟩
    · simp only [reopened?, found, if_pos needed, result]
    · cases again : reopened.analyseRetained.detected? <;>
        simp only [poll, found, onDetected_of_needed medium needed, result, again]

end Reopening

variable {config : Config} {valid : config.Valid} {good : φ → Prop} {pass : List Bytes}
  {session : Session φ ε} {medium : Medium}

/-- A session whose engine has been shown, since it was opened, what a feeder makes of the retained bytes. -/
structure Rehearsed (valid : config.Valid) (good : φ → Prop) (pass : List Bytes)
    (session : Session φ ε) : Prop where
  unknown : session.container = none
  abreast : Abreast valid session
  passed : session.passed valid = pass
  running : ∃ factory fresh, good factory ∧
    EngineFactory.openEngine factory session.params = (.ok fresh, session.factory) ∧
    session.engine = some (Engine.shown fresh pass)

section Rehearsed

variable (rehearsed : Rehearsed valid good pass session)
include rehearsed

theorem Rehearsed.analyse (input : Bytes) :
    Rehearsed valid good (pass ++ session.offered input) (session.analyse input) := by
  obtain ⟨factory, fresh, able, opened, running⟩ := rehearsed.running
  obtain ⟨abreast, -, passed⟩ := rehearsed.abreast.analyse running input
  have offered : session.offered input =
      (session.feeder.push (session.detection.fitting input)).1 := by
    simp only [Session.offered, running]
  rw [offered]
  refine ⟨?_, abreast, ?_, factory, fresh, able, ?_, ?_⟩
  · rw [analyse_container, rehearsed.unknown]
  · rw [passed, rehearsed.passed]
  · rw [analyse_params, analyse_factory, opened]
  · rw [analyse_of_running running, Engine.shown_append]
    rfl

theorem Rehearsed.waits (missed : session.detected? = none) (stays : ¬ session.givesUp = true)
    (medium : Medium) : Rehearsed valid good pass (session.poll medium).2.1 := by
  simp only [givesUp, missed, Option.isNone_none, Bool.true_and, Bool.and_eq_true, not_and,
    Bool.not_eq_true] at stays
  simp only [poll, missed, onUndetected]
  split
  · exact rehearsed
  · next full =>
    have below := stays (by simpa using full)
    have kept : session.detection.grow.retained = session.detection.retained := by
      rw [Detection.grow, dif_neg (by rw [below]; exact Bool.false_ne_true)]
    rw [if_pos (by rw [below]; rfl)]
    refine ⟨rehearsed.unknown, ?_, ?_, rehearsed.running⟩
    · simp only [Abreast, retained, kept]
      exact rehearsed.abreast
    · simp only [Session.passed, retained, kept]
      exact rehearsed.passed

variable (candid : OpensCandid good)
include candid

theorem Rehearsed.able : good session.factory := by
  obtain ⟨factory, fresh, able, opened, -⟩ := rehearsed.running
  exact (candid.opened able opened).1

theorem Rehearsed.startOver (opened : (session.emptied.reopenEngine medium).1 = true) :
    Rehearsed valid good [] (session.emptied.reopenEngine medium).2.1 := by
  obtain ⟨engine, next, _, _, answer, shape⟩ := reopenEngine_of_opened opened
  obtain ⟨abreast, passed⟩ := rehearsed.abreast.emptied
  rw [shape]
  exact ⟨rehearsed.unknown, abreast, passed, _, engine, rehearsed.able candid, answer, rfl⟩

omit candid in
theorem Rehearsed.reopened {reopened : Session φ ε} {place : Medium}
    (again : session.reopened? medium = some (reopened, place)) :
    ∃ fresh, EngineFactory.openEngine session.factory reopened.params = (.ok fresh, reopened.factory) ∧
      reopened.engine = some fresh ∧ reopened.container = none ∧ Abreast valid reopened ∧
      reopened.passed valid = pass := by
  obtain ⟨_, -, -, opened⟩ := reopened?_eq_some again
  have able : (session.corrected.reopenEngine medium).1 = true := by rw [opened]
  obtain ⟨fresh, next, _, _, answer, shape⟩ := reopenEngine_of_opened able
  rw [opened] at shape
  dsimp only at shape
  rw [shape]
  exact ⟨fresh, answer, rfl, rehearsed.unknown, rehearsed.abreast, rehearsed.passed⟩

theorem Rehearsed.lookAgain {reopened : Session φ ε} {place : Medium}
    (again : session.reopened? medium = some (reopened, place))
    (missed : reopened.analyseRetained.detected? = none) :
    Rehearsed valid good reopened.offeredAgain reopened.analyseRetained := by
  obtain ⟨fresh, answer, running, unknown, abreast, -⟩ := rehearsed.reopened again
  have able := rehearsed.able candid
  have shown := abreast.analyseRetained_eq running
  have offered : reopened.offeredAgain = Engine.wanted fresh (reopened.passed valid) := by
    simp only [offeredAgain, running, restartRetained, abreast.replay]
  rw [Engine.analyseUntilDone_eq, ← offered] at shown
  have all : reopened.offeredAgain = reopened.passed valid := by
    rw [shown] at missed
    rw [offered] at missed ⊢
    exact (candid.opened able answer).2.wanted_eq missed
  rw [shown]
  exact ⟨unknown, rfl, all.symm, _, fresh, able, answer, rfl⟩

end Rehearsed

theorem Rehearsed.ready (rehearsed : Rehearsed valid good pass session) {ready : Session φ ε}
    {place : Medium} {container : Container}
    (found : session.ready? medium = some (ready, place, container)) :
    Abreast valid ready ∧ ready.passed valid = pass ∧ ready.engine.isSome = true := by
  obtain ⟨detected, cases⟩ := ready?_eq_some found
  have runs : ready.engine.isSome = true := by
    unfold detected? at detected
    obtain ⟨engine, running, -⟩ := Option.bind_eq_some_iff.mp detected
    rw [running]
    rfl
  rcases cases with rfl | ⟨reopened, again, rfl⟩
  · exact ⟨rehearsed.abreast, rehearsed.passed, runs⟩
  · obtain ⟨fresh, -, running, -, abreast, passed⟩ := rehearsed.reopened again
    rw [abreast.analyseRetained_eq running] at runs ⊢
    exact ⟨rfl, passed, runs⟩

namespace Step

variable {step : Step φ ε} (rehearsed : Rehearsed valid good pass step.session)
include rehearsed

theorem next_of_rehearsed (candid : OpensCandid good)
    (opened : ∀ attempt ∈ step.attempts, attempt.opened = true) :
    step.next.1.container ≠ none ∨ Rehearsed valid good (step.pass pass) step.next.1 := by
  have analysed := rehearsed.analyse step.rest
  rw [attempts, if_neg (not_known rehearsed.unknown)] at opened
  rw [next_of_unknown rehearsed.unknown, Step.pass, if_neg (not_known rehearsed.unknown)]
  -- Asking for the container comes to one of five things: waiting, starting over, looking again with or
  -- without success, and recording at once.
  cases detected : (step.session.analyse step.rest).detected? with
  | none =>
    have alone : (step.session.analyse step.rest).reopened? step.medium = none := by
      rw [reopened?, detected]
    rw [alone]
    dsimp only
    by_cases full : (step.session.analyse step.rest).givesUp = true
    · rw [if_pos full, poll_of_givesUp step.medium full]
      rw [tried_of_givesUp step.medium full] at opened
      exact .inr (analysed.startOver candid (opened _ (List.mem_singleton_self _)))
    · rw [if_neg full]
      exact .inr (analysed.waits detected full step.medium)
  | some container =>
    by_cases needed : (step.session.analyse step.rest).params.output = .program ∧
        container.needsTransport = true
    · obtain ⟨reopened, place, again, polled⟩ := poll_of_corrected detected needed opened
      rw [again, polled]
      cases missed : reopened.analyseRetained.detected? with
      | none => exact .inr (analysed.lookAgain candid again missed)
      | some container =>
        refine .inl ?_
        dsimp only
        rw [startRecording_container]
        exact Option.some_ne_none _
    · refine .inl ?_
      simp only [poll, detected, onDetected, if_neg needed, startRecording_container]
      exact Option.some_ne_none _

end Step

def Looking (valid : config.Valid) (good : φ → Prop) (pass : List Bytes) (session : Session φ ε) : Prop :=
  session.container ≠ none ∨ Rehearsed valid good pass session

theorem Step.looking_next {step : Step φ ε} (looking : Looking valid good pass step.session)
    (candid : OpensCandid good)
    (opened : ∀ attempt ∈ step.attempts, attempt.opened = true) :
    Looking valid good (step.pass pass) step.next.1 := by
  rcases looking with known | rehearsed
  · refine .inl ?_
    rw [next_of_known (Option.isSome_iff_ne_none.mpr known), record_container]
    exact known
  · exact next_of_rehearsed rehearsed candid opened

theorem Step.Lead.looking {first last : Session φ ε × Medium} {steps : List (Step φ ε)}
    (lead : Lead first steps last) (candid : OpensCandid good)
    (opened : ∀ step ∈ steps, ∀ attempt ∈ step.attempts, attempt.opened = true)
    (looking : Looking valid good pass first.1) :
    Looking valid good (steps.foldl Step.pass pass) last.1 ∧
      ∀ before step after, steps = before ++ step :: after →
        Looking valid good (before.foldl Step.pass pass) step.session := by
  induction lead generalizing pass with
  | done state => exact ⟨looking, fun before step after split => by simp at split⟩
  | @step session medium rest later next last came onward ih =>
    have here : Looking valid good (Step.pass pass ⟨session, medium, rest⟩)
        (Step.next ⟨session, medium, rest⟩).1 :=
      looking_next looking candid (opened _ (List.mem_cons_self ..))
    rw [came] at here
    obtain ⟨there, steps⟩ := ih (fun step member => opened step (List.mem_cons_of_mem _ member)) here
    refine ⟨there, fun before step after split => ?_⟩
    rcases List.cons_eq_append_iff.mp split with ⟨rfl, same⟩ | ⟨others, rfl, same⟩
    · obtain ⟨rfl, -⟩ := List.cons.inj same
      exact looking
    · exact steps others step after same

def Call.steps (call : Call) (session : Session φ ε) (medium : Medium) : List (Step φ ε) :=
  match call with
  | feed data => if session.closed then [] else session.stepsFrom medium data
  | _ => []

def stepsOf : List (Medium × Call) → Session φ ε → List (Step φ ε)
  | [], _ => []
  | (medium, call) :: later, session =>
    call.steps session medium ++ stepsOf later (call.perform session medium).1

/-- A session that looks for its container, has found it, or was closed before and is as it was then. -/
def Standing (valid : config.Valid) (good : φ → Prop) (pass : List Bytes) (session : Session φ ε) : Prop :=
  Looking valid good pass session ∨
    session.closed = true ∧ Abreast valid session ∧ session.passed valid = pass

omit [EngineFactory φ ε] in
theorem close_of_unknown (unknown : session.container = none) (medium : Medium) :
    ∃ engine output, (session.close medium).1 = { session with engine, output, closed := true } := by
  unfold Session.close
  split
  · next closed => exact ⟨session.engine, session.output, by rw [← closed]⟩
  · unfold drain
    dsimp only
    split
    · exact ⟨_, _, rfl⟩
    · rw [unknown]
      exact ⟨_, _, rfl⟩

theorem Standing.output (standing : Standing valid good pass session) (output : Output) :
    Standing valid good pass { session with output } := by
  rcases standing with (known | rehearsed) | ended
  · exact .inl (.inl known)
  · exact .inl (.inr ⟨rehearsed.unknown, rehearsed.abreast, rehearsed.passed, rehearsed.running⟩)
  · exact .inr ended

theorem Standing.close (standing : Standing valid good pass session) (medium : Medium) :
    Standing valid good pass (session.close medium).1 := by
  have ended (unknown : session.container = none) (abreast : Abreast valid session)
      (passed : session.passed valid = pass) :
      Standing valid good pass (session.close medium).1 := by
    obtain ⟨engine, output, shape⟩ := close_of_unknown unknown medium
    rw [shape]
    exact .inr ⟨rfl, abreast, passed⟩
  rcases standing with (known | rehearsed) | ⟨closed, abreast, passed⟩
  · obtain ⟨_, _, _, _, shape, -⟩ := session.close_shape medium
    rw [shape]
    exact .inl (.inl known)
  · exact ended rehearsed.unknown rehearsed.abreast rehearsed.passed
  · rw [Session.close, if_pos closed]
    exact .inr ⟨closed, abreast, passed⟩

theorem Standing.perform (standing : Standing valid good pass session) (call : Call) (medium : Medium)
    (candid : OpensCandid good)
    (opened : ∀ step ∈ call.steps session medium, ∀ attempt ∈ step.attempts, attempt.opened = true) :
    Standing valid good ((call.steps session medium).foldl Step.pass pass)
        (call.perform session medium).1 ∧
      ∀ before step after, call.steps session medium = before ++ step :: after →
        Looking valid good (before.foldl Step.pass pass) step.session := by
  have idle {before : List (Step φ ε)} {step : Step φ ε} {after : List (Step φ ε)}
      (split : [] = before ++ step :: after) :
      Looking valid good (before.foldl Step.pass pass) step.session := by
    simp at split
  cases call with
  | feed data =>
    simp only [Call.steps, Call.perform, feed] at opened ⊢
    by_cases closed : session.closed = true
    · rw [if_pos closed, if_pos closed]
      exact ⟨standing, fun _ _ _ => idle⟩
    · rw [if_neg closed] at opened ⊢
      rw [if_neg closed]
      rcases standing with looking | ⟨ended, -⟩
      · obtain ⟨there, steps⟩ := (session.stepsFrom_lead medium data).1.looking candid opened looking
        exact ⟨.inl there, steps⟩
      · exact absurd ended closed
  | close => exact ⟨standing.close medium, fun _ _ _ => idle⟩
  | _ => exact ⟨standing.output _, fun _ _ _ => idle⟩

theorem Standing.after (standing : Standing valid good pass session) (calls : List (Medium × Call))
    (candid : OpensCandid good)
    (opened : ∀ step ∈ stepsOf calls session, ∀ attempt ∈ step.attempts, attempt.opened = true) :
    Standing valid good ((stepsOf calls session).foldl Step.pass pass) (session.after calls) ∧
      ∀ before step after, stepsOf calls session = before ++ step :: after →
        Looking valid good (before.foldl Step.pass pass) step.session := by
  induction calls generalizing session pass with
  | nil => exact ⟨standing, fun before step after split => by simp [stepsOf] at split⟩
  | cons made later ih =>
    obtain ⟨medium, call⟩ := made
    rw [stepsOf] at opened ⊢
    obtain ⟨next, here⟩ := standing.perform call medium candid fun step member =>
      opened step (List.mem_append_left _ member)
    obtain ⟨last, others⟩ := ih next fun step member => opened step (List.mem_append_right _ member)
    rw [List.foldl_append]
    refine ⟨last, fun before step after split => ?_⟩
    -- The step is one of the later calls or of this one.
    rcases List.append_eq_append_iff.mp split with ⟨front, rfl, inLater⟩ | ⟨rest, inCall, same⟩
    · rw [List.foldl_append]
      exact others front step after inLater
    · rcases List.cons_eq_append_iff.mp same with ⟨rfl, inLater⟩ | ⟨rest, rfl, -⟩
      · rw [List.append_nil] at inCall
        rw [← inCall]
        exact others [] step after inLater
      · exact here before step rest inCall

theorem Standing.replay (standing : Standing valid good pass session) (unknown : session.container = none) :
    let once := session.feeder.reset.push session.retained
    once.2.pending = session.feeder.pending ∧
      once.2.alignment.synced = session.feeder.alignment.synced ∧
      (∃ drops, session.feeder.dropped = session.droppedBefore + drops ∧
        once.2.dropped = session.feeder.reset.dropped + drops) ∧
      once.1 = pass := by
  intro once
  have both : Abreast valid session ∧ session.passed valid = pass := by
    rcases standing with (known | rehearsed) | ⟨-, ended⟩
    · exact absurd unknown known
    · exact ⟨rehearsed.abreast, rehearsed.passed⟩
    · exact ended
  obtain ⟨abreast, passed⟩ := both
  have stands : session.feeder = _ := abreast
  have replay : once = _ := abreast.replay
  rw [replay]
  refine ⟨?_, ?_, ⟨_, abreast.dropped, rfl⟩, passed⟩
  · exact (congrArg Feeder.pending stands).symm
  · exact (congrArg (fun feeder => feeder.alignment.synced) stands).symm

end Session

end MpegRecorder
