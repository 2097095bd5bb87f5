import MpegRecorder.Proofs.Session.Passes

/-!
Why a feed ends, and how soon. A step takes nothing only where the detection buffer is still full after the
output format was corrected; that happens once, so the step that follows has room or knows its container, and
takes something. No more steps are made than two for each byte, and one.
-/

namespace MpegRecorder

open Capture

namespace Session

variable {φ ε : Type}

namespace Step

structure Follows (before step : Step φ ε) : Prop where
  rest : step.rest = before.rest.drop before.taken.length
  paced : before.taken ≠ [] ∨ step.taken ≠ []

theorem taken_prefix (step : Step φ ε) : step.taken <+: step.rest := by
  unfold taken
  split
  · exact List.prefix_rfl
  · exact List.take_prefix ..

theorem taken_ne_nil {step : Step φ ε} (more : step.rest ≠ [])
    (room : step.session.container = none → step.session.detection.isFull = false) : step.taken ≠ [] := by
  cases unknown : step.session.container with
  | none =>
    rw [taken_of_unknown unknown]
    intro nothing
    have full := Detection.isFull_of_fitting more nothing
    rw [room unknown] at full
    cases full
  | some container =>
    rw [taken_of_known (by rw [unknown]; rfl)]
    exact more

/-- Steps of which no two in a row take nothing are at most twice as many as the bytes they take, and one more. -/
theorem length_le_of_paced {steps : List (Step φ ε)} (paced : steps.IsChain Follows) :
    steps.length ≤ 2 * (steps.flatMap taken).length + 1 := by
  match steps with
  | [] => exact Nat.zero_le _
  | [_] => exact Nat.le_add_left ..
  | first :: second :: later =>
    obtain ⟨follows, onward⟩ := List.isChain_cons_cons.mp paced
    have others := length_le_of_paced onward.of_cons
    have some : 0 < first.taken.length + second.taken.length := by
      rcases follows.paced with here | next
      · exact Nat.lt_of_lt_of_le (List.length_pos_iff.mpr here) (Nat.le_add_right ..)
      · exact Nat.lt_of_lt_of_le (List.length_pos_iff.mpr next) (Nat.le_add_left ..)
    simp only [List.length_cons, List.flatMap_cons, List.length_append]
    omega

variable [Engine ε] [EngineFactory φ ε]

inductive Places (step : Step φ ε) : Prop where
  | retained (unknown : step.session.container = none)
      (kept : (step.session.analyse step.rest).retained = step.session.retained ++ step.taken)
      (came : step.next = ((step.session.analyse step.rest).poll step.medium).2)
  | recorded (known : step.session.container.isSome = true)
      (came : step.next = step.session.record step.medium step.taken)

def Stuck (step : Step φ ε) : Prop :=
  step.session.container = none ∧ ((step.session.analyse step.rest).poll step.medium).1 = false

theorem places (step : Step φ ε) : step.Places := by
  cases unknown : step.session.container with
  | none =>
    refine .retained unknown ?_ (next_of_unknown unknown)
    rw [Session.retained, analyse_detection, Detection.toList_append, taken_of_unknown unknown]
    rfl
  | some container =>
    have known : step.session.container.isSome = true := by rw [unknown]; rfl
    refine .recorded known ?_
    rw [next_of_known known, taken_of_known known]

end Step

/-- A session that could still be corrected has room for more. -/
structure Roomy (session : Session φ ε) : Prop where
  room : session.container = none → session.params.output = .program → session.detection.isFull = false

theorem Roomy.of_known {session : Session φ ε} (known : session.container.isSome = true) : session.Roomy :=
  ⟨fun unknown => absurd known (by rw [unknown]; exact Bool.false_ne_true)⟩

theorem Roomy.of_settled {session : Session φ ε} (settled : session.params.output ≠ .program) :
    session.Roomy :=
  ⟨fun _ program => absurd program settled⟩

variable [Engine ε] [EngineFactory φ ε]

omit [EngineFactory φ ε] in
theorem Roomy.startRecording (session : Session φ ε) (medium : Medium) (container : Container) :
    (session.startRecording medium container).1.Roomy :=
  .of_known (by rw [startRecording_container]; rfl)

theorem isFull_onUndetected (session : Session φ ε) (medium : Medium) :
    (session.onUndetected medium).1.detection.isFull = false := by
  unfold onUndetected
  by_cases full : session.detection.isFull = true
  · rw [full, Bool.not_true, if_neg Bool.false_ne_true]
    split
    · next below => exact Detection.isFull_grow session.limit_pos (by simpa using below)
    · rw [reopenEngine_detection]
      exact Detection.isFull_reset session.limit_pos
  · rw [Bool.not_eq_true] at full
    rw [full, Bool.not_false, if_pos rfl]
    exact full

theorem Roomy.poll (session : Session φ ε) (medium : Medium) : (session.poll medium).2.1.Roomy := by
  unfold Session.poll
  split
  · next container found =>
    by_cases needed : session.params.output = .program ∧ container.needsTransport = true
    · rw [onDetected_of_needed _ needed]
      have kept := reopenEngine_params session.corrected medium
      split
      · next reopened place opened =>
        rw [opened] at kept
        refine .of_settled ?_
        rw [show reopened.params = _ from kept]
        exact nofun
      · next reopened place opened =>
        split
        · rw [opened] at kept
          refine .of_settled ?_
          rw [analyseRetained_params, show reopened.params = _ from kept]
          exact nofun
        · exact .startRecording ..
    · rw [onDetected, if_neg needed]
      exact .startRecording ..
  · exact ⟨fun _ _ => isFull_onUndetected session medium⟩

theorem poll_of_settled {session : Session φ ε} (settled : session.params.output ≠ .program)
    (medium : Medium) :
    (session.poll medium).1 = true ∧
      ((session.poll medium).2.1.container = none →
        (session.poll medium).2.1.detection.isFull = false) := by
  unfold poll
  split
  · rw [onDetected, if_neg (fun needed => settled needed.1)]
    refine ⟨rfl, fun unknown => ?_⟩
    rw [startRecording_container] at unknown
    cases unknown
  · exact ⟨rfl, fun _ => isFull_onUndetected session medium⟩

theorem Roomy.feedFrom {session : Session φ ε} (roomy : session.Roomy) (medium : Medium) (rest : Bytes) :
    (session.feedFrom medium rest).2.1.Roomy := by
  fun_induction Session.feedFrom session medium rest with
  | case1 => exact roomy
  | case2 session medium rest more container known =>
    refine .of_known ?_
    rw [record_container, known]
    rfl
  | case3 session medium rest more unknown polled going ih => exact ih (.poll ..)
  | case4 => exact .poll ..

theorem Roomy.perform {session : Session φ ε} (roomy : session.Roomy) (call : Call) (medium : Medium) :
    (call.perform session medium).1.Roomy := by
  cases call with
  | feed data =>
    simp only [Call.perform, feed]
    split
    · exact roomy
    · exact roomy.feedFrom medium data
  | close =>
    obtain ⟨_, _, _, _, shape, -⟩ := session.close_shape medium
    rw [Call.perform, shape]
    exact ⟨roomy.room⟩
  | _ => exact ⟨roomy.room⟩

inductive Reached (setup : Setup φ) : Session φ ε → Prop where
  | started {recording : Nat} {medium started : Medium} {session : Session φ ε}
      (opened : start setup recording medium = .ok (session, started)) : Reached setup session
  | called {session : Session φ ε} (before : Reached setup session) (call : Call) (medium : Medium) :
      Reached setup (call.perform session medium).1
  | limited {session : Session φ ε} (before : Reached setup session) (limit : Nat) :
      Reached setup (session.setRingLimit limit)

variable {session : Session φ ε} {medium : Medium}

omit [Engine ε] in
theorem Roomy.start {setup : Setup φ} {recording : Nat} {started : Medium}
    (opened : start setup recording medium = .ok (session, started)) : session.Roomy := by
  unfold Session.start at opened
  split at opened
  · cases opened
  · split at opened
    · cases opened
    · cases opened
      exact ⟨fun _ _ => decide_eq_false (Nat.not_le.mpr (Config.Valid.detection_pos ‹_›))⟩

theorem Reached.roomy {setup : Setup φ} (reached : Reached setup session) : session.Roomy := by
  induction reached with
  | started opened => exact .start opened
  | called _ call medium roomy => exact roomy.perform call medium
  | limited _ _ roomy => exact ⟨roomy.room⟩

theorem stepsFrom_eq_cons (session : Session φ ε) (medium : Medium) {rest : Bytes} (more : rest ≠ []) :
    ∃ later, session.stepsFrom medium rest = ⟨session, medium, rest⟩ :: later := by
  rw [stepsFrom, dif_neg more]
  split
  · exact ⟨[], rfl⟩
  · dsimp only
    split
    · exact ⟨_, rfl⟩
    · exact ⟨[], rfl⟩

theorem Roomy.follows (roomy : session.Roomy) {rest : Bytes} (more : rest ≠ [])
    (unknown : session.container = none) {next : Step φ ε}
    (came : next.session = ((session.analyse rest).poll medium).2.1)
    (left : next.rest = rest.drop (session.detection.fitting rest).length) (further : next.rest ≠ []) :
    Step.Follows ⟨session, medium, rest⟩ next := by
  have taken : Step.taken ⟨session, medium, rest⟩ = session.detection.fitting rest :=
    Step.taken_of_unknown unknown
  refine ⟨by rw [taken, left], ?_⟩
  rw [taken]
  by_cases idle : session.detection.fitting rest = []
  · refine .inr (Step.taken_ne_nil further ?_)
    -- Nothing was taken because the buffer is full, and so the output format was corrected before.
    have full := Detection.isFull_of_fitting more idle
    have settled : (session.analyse rest).params.output ≠ .program := by
      rw [analyse_params]
      intro program
      rw [roomy.room unknown program] at full
      cases full
    rw [came]
    exact (poll_of_settled settled medium).2
  · exact .inl idle

theorem Roomy.stepsFrom_isChain (roomy : session.Roomy) (medium : Medium) (rest : Bytes) :
    (session.stepsFrom medium rest).IsChain Step.Follows := by
  fun_induction Session.feedFrom session medium rest with
  | case1 session medium =>
    rw [stepsFrom, dif_pos rfl]
    exact .nil
  | case2 session medium rest more container known =>
    rw [stepsFrom_of_known more (known ▸ rfl)]
    exact .singleton _
  | case3 session medium rest more unknown polled going ih =>
    have later := ih (.poll ..)
    rw [stepsFrom_of_going more unknown going]
    by_cases done : rest.drop (session.detection.fitting rest).length = []
    · rw [done, stepsFrom, dif_pos rfl]
      exact .singleton _
    · obtain ⟨others, begins⟩ := stepsFrom_eq_cons polled.2.1 polled.2.2 done
      rw [begins] at later ⊢
      exact .cons_cons (roomy.follows more unknown rfl rfl done) later
  | case4 session medium rest more unknown polled stuck =>
    rw [stepsFrom_of_stuck more unknown stuck]
    exact .singleton _

theorem stepsFrom_prefix (session : Session φ ε) (medium : Medium) (rest : Bytes) :
    (session.stepsFrom medium rest).flatMap Step.taken <+: rest := by
  fun_induction Session.feedFrom session medium rest with
  | case1 session medium =>
    rw [stepsFrom, dif_pos rfl]
    exact List.nil_prefix
  | case2 session medium rest more container known =>
    rw [stepsFrom_of_known more (known ▸ rfl), List.flatMap_singleton]
    exact Step.taken_prefix _
  | case3 session medium rest more unknown polled going ih =>
    rw [stepsFrom_of_going more unknown going, List.flatMap_cons, Step.taken_of_unknown unknown]
    conv => rhs; rw [← Detection.fitting_append_drop session.detection rest]
    exact (List.prefix_append_right_inj _).mpr ih
  | case4 session medium rest more unknown polled stuck =>
    rw [stepsFrom_of_stuck more unknown stuck, List.flatMap_singleton]
    exact Step.taken_prefix _

theorem stepsFrom_of_refused {session : Session φ ε} {medium : Medium} {rest : Bytes}
    (refused : (session.feedFrom medium rest).1 = false) :
    ∃ front last, session.stepsFrom medium rest = front ++ [last] ∧ last.Stuck := by
  fun_induction Session.feedFrom session medium rest with
  | case1 => cases refused
  | case2 => cases refused
  | case3 session medium rest more unknown polled going ih =>
    obtain ⟨front, last, steps, stuck⟩ := ih refused
    refine ⟨⟨session, medium, rest⟩ :: front, last, ?_, stuck⟩
    rw [stepsFrom_of_going more unknown going, steps, List.cons_append]
  | case4 session medium rest more unknown polled stuck =>
    rw [stepsFrom_of_stuck more unknown stuck]
    exact ⟨[], _, rfl, unknown, Bool.not_eq_true _ ▸ stuck⟩

/--
Whatever engines and factories do, and whatever a session went through since its start, a feed ends. The steps
that lead to its result are no more than two for each byte, and one; no two in a row take nothing, and each
retains or records what it takes. What they take is a front of the piece, and all of it if the feed says so; it
says otherwise only after the end, or if the last step could not open an engine again.
-/
theorem feed_progresses {setup : Setup φ} (reached : Reached setup session) (medium : Medium)
    (data : Bytes) :
    let fed := session.feed medium data
    let steps := (Call.feed data).steps session medium
    Step.Lead (session, medium) steps fed.2 ∧ steps.length ≤ 2 * data.length + 1 ∧
      steps.IsChain Step.Follows ∧ (∀ step ∈ steps, step.Places) ∧
      steps.flatMap Step.taken <+: data ∧ (fed.1 = true → steps.flatMap Step.taken = data) ∧
      (fed.1 = false → session.closed = true ∨ ∃ front last, steps = front ++ [last] ∧ last.Stuck) := by
  intro fed steps
  by_cases ended : session.closed = true
  · have refused : fed = (false, session, medium) := if_pos ended
    have still : steps = [] := if_pos ended
    rw [still, refused]
    exact ⟨.done _, Nat.zero_le _, .nil, List.forall_mem_nil _, List.nil_prefix, nofun,
      fun _ => .inl ended⟩
  · have takes : fed = session.feedFrom medium data := if_neg ended
    have listed : steps = session.stepsFrom medium data := if_neg ended
    rw [listed, takes]
    obtain ⟨lead, all⟩ := stepsFrom_lead session medium data
    have paced := reached.roomy.stepsFrom_isChain medium data
    have front := stepsFrom_prefix session medium data
    have few := Step.length_le_of_paced paced
    have within := front.length_le
    exact ⟨lead, by omega, paced, fun step _ => step.places, front, all,
      fun refused => .inr (stepsFrom_of_refused refused)⟩

def hesitantSetup : Setup ScriptedFactory :=
  { garbledSetup with
    factory := .new (.after 6) .h264 (some 12)
    config := { garbledSetup.config with initialDetection := 6 } }

def hesitantCapture : Bytes :=
  (List.replicate 7 [0x47, 1]).flatten

theorem hesitant_evaluated {session : Session ScriptedFactory ScriptedEngine} {started : Medium}
    (opened : start hesitantSetup 0 garbledMedium = .ok (session, started)) :
    (session.feed started hesitantCapture).1 = true ∧
      ((Call.feed hesitantCapture).steps session started).map (fun step => step.taken.length) =
        [6, 0, 6, 2] := by
  obtain ⟨rfl, rfl⟩ := Prod.mk.inj (Except.ok.inj opened)
  simp only [feed, Call.steps]
  rw [if_neg (by decide), if_neg (by decide), feedFrom_of_going (by decide) rfl (by decide +kernel),
    feedFrom_of_going (by decide +kernel) (by decide +kernel) (by decide +kernel),
    feedFrom_of_going (by decide +kernel) (by decide +kernel) (by decide +kernel),
    feedFrom_of_known _ (by decide +kernel) (by decide +kernel),
    stepsFrom_of_going (by decide) rfl (by decide +kernel),
    stepsFrom_of_going (by decide +kernel) (by decide +kernel) (by decide +kernel),
    stepsFrom_of_going (by decide +kernel) (by decide +kernel) (by decide +kernel),
    stepsFrom_of_known (by decide +kernel) (by decide +kernel)]
  decide +kernel

/-- The second step takes nothing: the buffer is full of what the first engine knew its container by. -/
theorem feed_progresses_hesitant :
    ∃ session started, start hesitantSetup 0 garbledMedium = .ok (session, started) ∧
      let steps := (Call.feed hesitantCapture).steps session started
      steps.map (fun step => step.taken.length) = [6, 0, 6, 2] ∧ steps.length ≤ 29 ∧
        steps.IsChain Step.Follows ∧ steps.flatMap Step.taken = hesitantCapture := by
  obtain ⟨session, started, opened⟩ :
      ∃ session started, start hesitantSetup 0 garbledMedium = .ok (session, started) := ⟨_, _, rfl⟩
  obtain ⟨fed, taken⟩ := hesitant_evaluated opened
  obtain ⟨-, few, paced, -, -, all, -⟩ := feed_progresses (.started opened) started hesitantCapture
  exact ⟨session, started, opened, taken, few, paced, all fed⟩

end Session

end MpegRecorder
