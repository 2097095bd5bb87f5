import MpegRecorder.Engine.Factory
import MpegRecorder.Proofs.Session.Steps

/-!
The engines that a feed opens again, listed with what each was opened for and whether that worked. What the
feed returns tells of the corrections of the output format alone: a feed in which analysis starts over
without an engine reports that all of the piece was taken.
-/

namespace MpegRecorder.Session

open Capture

inductive Cause where
  /-- The detection buffer was full at its cap. -/
  | startOver
  /-- The container cannot be recorded as a program stream. -/
  | correct
deriving Repr, DecidableEq

structure Reopening where
  cause : Cause
  params : EngineParams
  opened : Bool
deriving Repr, DecidableEq

/-- A correction that fails is the only attempt that ends a feed. -/
def Reopening.Ends (attempt : Reopening) : Prop :=
  attempt.cause = .correct ∧ attempt.opened = false

theorem none_ends : ¬ ∃ attempt ∈ ([] : List Reopening), attempt.Ends := by
  rintro ⟨attempt, here, -⟩
  cases here

theorem Reopening.none_ends_alone {attempt : Reopening} (goesOn : ¬ attempt.Ends) :
    ¬ ∃ other ∈ [attempt], other.Ends := by
  rintro ⟨other, here, ends⟩
  exact goesOn (List.mem_singleton.mp here ▸ ends)

variable {φ ε : Type} [EngineFactory φ ε]

inductive Answered : φ → List Reopening → φ → Prop where
  | done (factory : φ) : Answered factory [] factory
  | next {factory last : φ} {attempt : Reopening} {later : List Reopening}
      (answer : (EngineFactory.openEngine factory attempt.params).1.isOk = attempt.opened)
      (onward : Answered (EngineFactory.openEngine factory attempt.params).2 later last) :
      Answered factory (attempt :: later) last

theorem Answered.append {first middle last : φ} {attempts more : List Reopening}
    (asked : Answered first attempts middle) (onward : Answered middle more last) :
    Answered first (attempts ++ more) last := by
  induction asked with
  | done => exact onward
  | next answer _ ih => exact .next answer (ih onward)

/-- What attempts leave behind: the last one decides whether there is an engine, and each is counted. -/
structure Reopened (before : Session φ ε) (attempts : List Reopening) (after : Session φ ε) : Prop where
  asked : Answered before.factory attempts after.factory
  engine : after.engine.isSome =
    (attempts.getLast?.map Reopening.opened).getD before.engine.isSome
  opens : after.stats.engineOpens = before.stats.engineOpens + attempts.countP (·.opened)
  resets : after.stats.resets = before.stats.resets + attempts.countP (·.cause = .startOver)
  corrections : after.stats.corrections =
    before.stats.corrections + attempts.countP (·.cause = .correct)

theorem Reopened.none {before after : Session φ ε} (factory : after.factory = before.factory)
    (engine : after.engine.isSome = before.engine.isSome) (stats : after.stats.engineOpens =
      before.stats.engineOpens ∧ after.stats.resets = before.stats.resets ∧
        after.stats.corrections = before.stats.corrections) : Reopened before [] after :=
  ⟨factory ▸ .done _, engine, stats.1, stats.2.1, stats.2.2⟩

theorem Reopened.trans {first middle last : Session φ ε} {attempts more : List Reopening}
    (came : Reopened first attempts middle) (onward : Reopened middle more last) :
    Reopened first (attempts ++ more) last := by
  refine ⟨came.asked.append onward.asked, ?_, ?_, ?_, ?_⟩
  · rw [onward.engine, came.engine, List.getLast?_append]
    cases more.getLast? <;> rfl
  · rw [onward.opens, came.opens, List.countP_append, Nat.add_assoc]
  · rw [onward.resets, came.resets, List.countP_append, Nat.add_assoc]
  · rw [onward.corrections, came.corrections, List.countP_append, Nat.add_assoc]

variable [Engine ε]

def reopening? (session : Session φ ε) : Option (Cause × Session φ ε) :=
  match session.detected? with
  | none => if session.givesUp then some (.startOver, session.emptied) else none
  | some container =>
    if session.params.output = .program ∧ container.needsTransport then
      some (.correct, session.corrected)
    else none

def tried (session : Session φ ε) (medium : Medium) : List Reopening :=
  match session.reopening? with
  | none => []
  | some (cause, state) => [⟨cause, state.params, (state.reopenEngine medium).1⟩]

def reopenings (session : Session φ ε) (medium : Medium) (data : Bytes) : List Reopening :=
  if session.closed then []
  else
    (session.stepsFrom medium data).flatMap fun step =>
      if step.session.container.isSome then [] else (step.session.analyse step.rest).tried step.medium

variable (session : Session φ ε) (medium : Medium)

theorem reopenEngine_answer :
    let again := session.reopenEngine medium
    let asked := EngineFactory.openEngine session.factory session.params
    asked.1.isOk = again.1 ∧ again.2.1.factory = asked.2 ∧ again.2.1.engine.isSome = again.1 ∧
      again.2.1.stats =
        { session.stats with engineOpens := session.stats.engineOpens + again.1.toNat } := by
  intro again asked
  have result : (EngineFactory.openEngine session.factory session.params) = asked := rfl
  simp only [again, reopenEngine]
  obtain ⟨opened, factory⟩ := asked
  cases opened <;> (simp only [result]; exact ⟨rfl, trivial, rfl, rfl⟩)

omit [EngineFactory φ ε] in
theorem record_engine (data : Bytes) :
    (session.record medium data).1.engine.isSome = session.engine.isSome := by
  unfold record
  split
  · rfl
  · next running => rw [running]; rfl

omit [EngineFactory φ ε] in
theorem record_factory (data : Bytes) : (session.record medium data).1.factory = session.factory := by
  unfold record
  split <;> rfl

omit [EngineFactory φ ε] in
theorem analyse_factory (input : Bytes) : (session.analyse input).factory = session.factory := by
  unfold analyse
  split <;> rfl

theorem reopened_record (data : Bytes) : Reopened session [] (session.record medium data).1 := by
  refine .none (record_factory ..) (record_engine ..) ?_
  rw [record_stats]
  exact ⟨rfl, rfl, rfl⟩

theorem reopened_startRecording (container : Container) :
    Reopened session [] (session.startRecording medium container).1 := by
  have recorded (started : Session φ ε) (data : Bytes) (factory : started.factory = session.factory)
      (engine : started.engine = session.engine) (stats : started.stats = session.stats) :
      Reopened session [] (started.record medium data).1 := by
    refine .none ((record_factory ..).trans factory) ((record_engine ..).trans (by rw [engine])) ?_
    rw [record_stats, stats]
    exact ⟨rfl, rfl, rfl⟩
  exact recorded _ _ rfl rfl rfl

theorem reopened_analyse (input : Bytes) : Reopened session [] (session.analyse input) := by
  refine .none (analyse_factory ..) ?_ ?_
  · rw [analyse_engine, Option.isSome_map]
  · rw [analyse_stats]
    exact ⟨rfl, rfl, rfl⟩

theorem reopened_analyseRetained : Reopened session [] session.analyseRetained := by
  refine .none ?_ ?_ ?_
  · unfold analyseRetained
    dsimp only
    split <;> rfl
  · unfold analyseRetained
    dsimp only
    split
    · rfl
    · next running =>
      have before : session.engine.isSome = true := by
        rw [show session.engine = _ from running]
        rfl
      exact before.symm
  · rw [analyseRetained_stats]
    exact ⟨rfl, rfl, rfl⟩

theorem reopened_startOver :
    Reopened session [⟨.startOver, session.emptied.params, (session.emptied.reopenEngine medium).1⟩]
      (session.emptied.reopenEngine medium).2.1 := by
  obtain ⟨answer, factory, engine, stats⟩ := session.emptied.reopenEngine_answer medium
  refine ⟨.next answer (factory ▸ .done _), engine, ?_, ?_, ?_⟩
  all_goals rw [stats, List.countP_singleton]
  · cases (session.emptied.reopenEngine medium).1 <;> rfl
  · rfl
  · rfl

theorem reopened_correct :
    Reopened session [⟨.correct, session.corrected.params, (session.corrected.reopenEngine medium).1⟩]
      (session.corrected.reopenEngine medium).2.1 := by
  obtain ⟨answer, factory, engine, stats⟩ := session.corrected.reopenEngine_answer medium
  refine ⟨.next answer (factory ▸ .done _), engine, ?_, ?_, ?_⟩
  all_goals rw [stats, List.countP_singleton]
  · cases (session.corrected.reopenEngine medium).1 <;> rfl
  · rfl
  · rfl

section GivesUp

variable {session} (full : session.givesUp = true)
include full

theorem poll_of_givesUp :
    session.poll medium = (true, (session.emptied.reopenEngine medium).2) := by
  obtain ⟨⟨missed, isFull⟩, atCap⟩ := by
    simpa only [givesUp, Bool.and_eq_true, Option.isNone_iff_eq_none] using full
  simp only [poll, missed, onUndetected, isFull, atCap, Bool.not_true, Bool.false_eq_true, if_false]
  rfl

theorem tried_of_givesUp : session.tried medium =
    [⟨.startOver, session.emptied.params, (session.emptied.reopenEngine medium).1⟩] := by
  obtain ⟨⟨missed, -⟩, -⟩ := by
    simpa only [givesUp, Bool.and_eq_true, Option.isNone_iff_eq_none] using full
  simp only [tried, reopening?, missed, if_pos full]

end GivesUp

theorem poll_of_waiting {session : Session φ ε} (medium : Medium)
    (missed : session.detected? = none) (waits : ¬ session.givesUp = true) :
    (session.poll medium).1 = true ∧ session.tried medium = [] ∧
      Reopened session [] (session.poll medium).2.1 := by
  refine ⟨by simp only [poll, missed], by simp only [tried, reopening?, missed, if_neg waits], ?_⟩
  simp only [givesUp, missed, Option.isNone_none, Bool.true_and, Bool.and_eq_true, not_and,
    Bool.not_eq_true] at waits
  simp only [poll, missed, onUndetected]
  split
  · exact .none rfl rfl ⟨rfl, rfl, rfl⟩
  · next holds =>
    have below := waits (by simpa using holds)
    rw [if_pos (by rw [below]; rfl)]
    exact .none rfl rfl ⟨rfl, rfl, rfl⟩

theorem poll_tried :
    Reopened session (session.tried medium) (session.poll medium).2.1 ∧
      ((session.poll medium).1 = false ↔ ∃ attempt ∈ session.tried medium, attempt.Ends) := by
  have goesOn : ¬ true = false := Bool.true_eq_false.mp
  cases found : session.detected? with
  | none =>
    by_cases full : session.givesUp = true
    · rw [poll_of_givesUp medium full, tried_of_givesUp medium full]
      have begins : ¬ Cause.startOver = .correct := by decide
      exact ⟨session.reopened_startOver medium,
        iff_of_false goesOn (Reopening.none_ends_alone fun ends => begins ends.1)⟩
    · obtain ⟨on, nothing, kept⟩ := poll_of_waiting medium found full
      rw [on, nothing]
      exact ⟨kept, iff_of_false goesOn none_ends⟩
  | some container =>
    unfold tried reopening? poll
    rw [found]
    dsimp only
    by_cases needed : session.params.output = .program ∧ container.needsTransport = true
    · rw [if_pos needed, onDetected_of_needed medium needed]
      dsimp only
      have again := session.reopened_correct medium
      -- The cases are those of the answer, and after a good one whether the container is found anew.
      split
      · next failed =>
        rw [failed] at again ⊢
        exact ⟨again, fun _ => ⟨_, List.mem_singleton_self _, rfl, rfl⟩, fun _ => rfl⟩
      · next reopened now opened =>
        rw [opened] at again ⊢
        have none := @Reopening.none_ends_alone ⟨.correct, session.corrected.params, true⟩
          fun ends => goesOn ends.2
        have looked := again.trans reopened.reopened_analyseRetained
        split
        · exact ⟨looked, iff_of_false goesOn none⟩
        · exact ⟨looked.trans (reopened_startRecording ..), iff_of_false goesOn none⟩
    · rw [if_neg needed, onDetected, if_neg needed]
      exact ⟨reopened_startRecording .., iff_of_false goesOn none_ends⟩

/--
Every attempt of a feed to open another engine is one that the factory was asked for, in this order and with
this answer, and the last of them decides whether the session is left with an engine. The feed says that it
failed exactly if the session is closed or a correction failed; where it says that all was taken and the
session has lost its engine, the last attempt was to start over.
-/
theorem feed_reports_corrections (data : Bytes) :
    let attempts := session.reopenings medium data
    let fed := session.feed medium data
    Reopened session attempts fed.2.1 ∧
      (fed.1 = false ↔ session.closed = true ∨ ∃ attempt ∈ attempts, attempt.Ends) ∧
      (fed.1 = true → session.engine.isSome = true → fed.2.1.engine = none →
        ∃ attempt, attempts.getLast? = some attempt ∧ attempt.cause = .startOver ∧
          attempt.opened = false) := by
  intro attempts fed
  -- The last part follows: an attempt that fails and does not end the feed is to start over.
  suffices both : Reopened session attempts fed.2.1 ∧
      (fed.1 = false ↔ session.closed = true ∨ ∃ attempt ∈ attempts, attempt.Ends) by
    obtain ⟨reopened, failed⟩ := both
    refine ⟨reopened, failed, fun took before after => ?_⟩
    have engine := reopened.engine
    rw [after, before] at engine
    cases last : attempts.getLast? with
    | none =>
      rw [last] at engine
      cases engine
    | some attempt =>
      rw [last] at engine
      have refused : attempt.opened = false := engine.symm
      refine ⟨attempt, rfl, ?_, refused⟩
      cases cause : attempt.cause with
      | startOver => rfl
      | correct =>
        have fails := failed.mpr (.inr ⟨attempt, List.mem_of_getLast? last, cause, refused⟩)
        rw [took] at fails
        cases fails
  simp only [attempts, fed, reopenings, feed]
  by_cases ended : session.closed = true
  · rw [if_pos ended, if_pos ended]
    exact ⟨.none rfl rfl ⟨rfl, rfl, rfl⟩, fun _ => .inl ended, fun _ => rfl⟩
  · rw [if_neg ended, if_neg ended, or_iff_right ended]
    clear ended attempts fed
    have goesOn : ¬ true = false := Bool.true_eq_false.mp
    fun_induction Session.feedFrom session medium data with
    | case1 session medium =>
      rw [stepsFrom, dif_pos rfl]
      exact ⟨.none rfl rfl ⟨rfl, rfl, rfl⟩, iff_of_false goesOn none_ends⟩
    | case2 session medium rest more container known =>
      have found : session.container.isSome = true := known ▸ rfl
      rw [stepsFrom_of_known more found, List.flatMap_singleton, if_pos found]
      exact ⟨reopened_record .., iff_of_false goesOn none_ends⟩
    | case3 session medium rest more unknown polled going =>
      rename_i ih
      obtain ⟨onward, fails⟩ := ih
      obtain ⟨here, stops⟩ := (session.analyse rest).poll_tried medium
      have noneHere : ¬ ∃ attempt ∈ (session.analyse rest).tried medium, attempt.Ends := fun ends =>
        Bool.false_ne_true ((stops.mpr ends).symm.trans going)
      rw [stepsFrom_of_going more unknown going, List.flatMap_cons, if_neg (Step.not_known unknown)]
      refine ⟨(reopened_analyse session rest).trans (here.trans onward), fails.trans ?_⟩
      simp only [List.mem_append, or_and_right, exists_or, noneHere, false_or]
      rfl
    | case4 session medium rest more unknown polled =>
      rename_i stuck
      obtain ⟨here, stops⟩ := (session.analyse rest).poll_tried medium
      rw [stepsFrom_of_stuck more unknown stuck, List.flatMap_singleton,
        if_neg (Step.not_known unknown)]
      refine ⟨(reopened_analyse session rest).trans here, fun _ => ?_, fun _ => rfl⟩
      exact stops.mp (Bool.not_eq_true _ ▸ stuck)

section Exhausted

variable {session} {data : Bytes} (more : data ≠ []) (going : session.closed = false)
  (unknown : session.container = none) (full : (session.analyse data).givesUp = true)
  (fits : data.length ≤ session.detection.limit - session.detection.retained.size)
include more going unknown full fits

theorem feed_of_exhausted :
    session.feed medium data = (true, ((session.analyse data).emptied.reopenEngine medium).2) ∧
      session.reopenings medium data =
        [⟨.startOver, (session.analyse data).emptied.params,
          ((session.analyse data).emptied.reopenEngine medium).1⟩] := by
  have polled := poll_of_givesUp medium full
  have goes : ((session.analyse data).poll medium).1 = true := by rw [polled]
  have ongoing : ¬ session.closed = true := by rw [going]; exact Bool.false_ne_true
  obtain ⟨fed, steps⟩ := feedFrom_of_fitting more unknown (List.take_of_length_le fits) goes
  constructor
  · rw [feed, if_neg ongoing, fed, polled]
  · rw [reopenings, if_neg ongoing, steps, List.flatMap_singleton, if_neg (Step.not_known unknown),
      tried_of_givesUp medium full]

end Exhausted

def exhaustedSetup : Setup Factory where
  destination := ⟨0, 0, "rec.ts"⟩
  factory := .planned ⟨fun attempt => if attempt = 0 then .mpeg else .failing, []⟩
  opener := .memory ⟨fun _ => some .healthy, 0, []⟩
  output := .transport
  capture := .other
  delivery := .unknown
  tuning := .automatic
  config := { Config.standard with maxTransfer := 752, initialDetection := 752, maxDetection := 752 }
  registered := false

def exhaustedCapture : Bytes :=
  (Transport.Synthetic.empty.stuffing 4).bytes

/-- Starting over fails, the session is left without an engine, and the feed says that all was taken. -/
theorem engine_lost_unreported :
    ∃ session started, start exhaustedSetup 0 ⟨.empty [], .empty⟩ = .ok (session, started) ∧
      let fed := session.feed started exhaustedCapture
      session.closed = false ∧ session.engine.isSome = true ∧
        session.reopenings started exhaustedCapture = [⟨.startOver, exhaustedSetup.params, false⟩] ∧
        fed.1 = true ∧ fed.2.1.engine.isNone = true := by
  obtain ⟨session, started, opened⟩ :
      ∃ session started, start exhaustedSetup 0 ⟨.empty [], .empty⟩ = .ok (session, started) :=
    ⟨_, _, rfl⟩
  have size : exhaustedCapture.length = 752 := by decide +kernel
  have more : exhaustedCapture ≠ [] := List.ne_nil_of_length_eq_add_one size
  obtain ⟨going, unknown, running, level⟩ : session.closed = false ∧ session.container = none ∧
      session.engine.isSome = true ∧ session.detection = .new 752 752 := by
    obtain ⟨rfl, rfl⟩ := Prod.mk.inj (Except.ok.inj opened)
    exact ⟨rfl, rfl, rfl, rfl⟩
  have fits : exhaustedCapture.length ≤ session.detection.limit - session.detection.retained.size := by
    rw [level, size]
    decide
  have missed : (session.analyse exhaustedCapture).detected?.isNone = true := by
    obtain ⟨rfl, rfl⟩ := Prod.mk.inj (Except.ok.inj opened)
    decide +kernel
  have full : (session.analyse exhaustedCapture).givesUp = true := by
    have brim : (session.detection.append exhaustedCapture).retained.size = 752 := by
      rw [Detection.append, Packed.size_append, Detection.fitting, List.length_take, level, size]
      rfl
    rw [givesUp, missed, analyse_detection, Detection.isFull, brim, Detection.atCap,
      Detection.limit_append, level]
    rfl
  obtain ⟨fed, attempts⟩ := feed_of_exhausted started more going unknown full fits
  have refused : ((session.analyse exhaustedCapture).emptied.reopenEngine started).1 = false ∧
      (session.analyse exhaustedCapture).emptied.params = exhaustedSetup.params := by
    obtain ⟨rfl, rfl⟩ := Prod.mk.inj (Except.ok.inj opened)
    decide +kernel
  have engine := ((session.analyse exhaustedCapture).emptied.reopenEngine_answer started).2.2.1
  rw [refused.1] at engine attempts
  rw [refused.2] at attempts
  refine ⟨session, started, opened, going, running, attempts, congrArg Prod.fst fed, ?_⟩
  rw [fed]
  simpa using engine

end MpegRecorder.Session
