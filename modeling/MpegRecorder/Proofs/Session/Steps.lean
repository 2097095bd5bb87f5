import MpegRecorder.Proofs.Capture.Balance
import MpegRecorder.Proofs.Session.Epochs

/-!
The steps of a feed, listed as they are taken, with the bytes that each takes, what it hands to an engine to
be recorded, and which sessions it sets back to their first retained byte. They lead where the feed leads.
-/

namespace MpegRecorder

open Capture Config

namespace Session

variable {φ ε : Type} [Engine ε]

def handed (session : Session φ ε) (data : Bytes) : List Bytes :=
  match session.engine with
  | none => []
  | some _ => (session.feeder.push data).1

def handedAtEnd (session : Session φ ε) : List Bytes :=
  match session.engine with
  | none => []
  | some _ => if session.container.isSome then session.feeder.finish.1 else []

variable [EngineFactory φ ε]

def reopened? (session : Session φ ε) (medium : Medium) : Option (Session φ ε × Medium) :=
  match session.detected? with
  | none => none
  | some container =>
    if session.params.output = .program ∧ container.needsTransport then
      match session.corrected.reopenEngine medium with
      | (false, _) => none
      | (true, reopened) => some reopened
    else none

/-- The session that begins to record when the engine is asked for the container. -/
def ready? (session : Session φ ε) (medium : Medium) : Option (Session φ ε × Medium × Container) :=
  match session.detected? with
  | none => none
  | some container =>
    if session.params.output = .program ∧ container.needsTransport then
      match session.corrected.reopenEngine medium with
      | (false, _) => none
      | (true, reopened, medium) =>
        reopened.analyseRetained.detected?.map fun container =>
          (reopened.analyseRetained, medium, container)
    else some (session, medium, container)

variable {session : Session φ ε} {medium : Medium}

theorem poll_of_ready {ready : Session φ ε} {place : Medium} {container : Container}
    (found : session.ready? medium = some (ready, place, container)) :
    session.poll medium = (true, ready.startRecording place container) := by
  cases detected : session.detected? with
  | none =>
    simp only [ready?, detected, reduceCtorEq] at found
  | some first =>
    simp only [ready?, detected] at found
    simp only [poll, detected]
    split at found
    · next needed =>
      rw [onDetected_of_needed _ needed]
      split at found
      · cases found
      · next next now opened =>
        obtain ⟨last, again, same⟩ := Option.map_eq_some_iff.mp found
        cases same
        simp only [opened, again]
    · next plain =>
      cases found
      rw [onDetected, if_neg plain]

theorem poll_of_unready (none : session.ready? medium = none) :
    (session.poll medium).2.1.container = session.container := by
  cases detected : session.detected? with
  | none =>
    simp only [poll, detected, onUndetected]
    split
    · rfl
    · split
      · rfl
      · rw [reopenEngine_container]
  | some first =>
    simp only [ready?, detected] at none
    simp only [poll, detected]
    have kept := reopenEngine_container session.corrected medium
    split at none
    · next needed =>
      rw [onDetected_of_needed _ needed]
      split at none
      · next reopened opened =>
        rw [opened] at kept ⊢
        exact kept
      · next reopened now opened =>
        rw [opened] at kept
        rw [Option.map_eq_none_iff] at none
        simp only [opened, none, analyseRetained_container]
        exact kept
    · cases none

theorem reopened?_eq_some {reopened : Session φ ε} {now : Medium}
    (again : session.reopened? medium = some (reopened, now)) :
    ∃ container, session.detected? = some container ∧
      (session.params.output = .program ∧ container.needsTransport = true) ∧
      session.corrected.reopenEngine medium = (true, reopened, now) := by
  unfold reopened? at again
  split at again
  · cases again
  · next container found =>
    split at again
    · next needed =>
      split at again
      · cases again
      · next opened =>
        cases again
        exact ⟨container, found, needed, opened⟩
    · cases again

theorem ready?_eq_some {ready : Session φ ε} {place : Medium} {container : Container}
    (found : session.ready? medium = some (ready, place, container)) :
    ready.detected? = some container ∧
      (ready = session ∨ ∃ reopened, session.reopened? medium = some (reopened, place) ∧
        ready = reopened.analyseRetained) := by
  unfold ready? at found
  unfold reopened?
  cases detected : session.detected? with
  | none =>
    rw [detected] at found
    cases found
  | some first =>
    rw [detected] at found
    dsimp only at found ⊢
    split at found
    · next needed =>
      rw [if_pos needed]
      split at found
      · cases found
      · next reopened now opened =>
        obtain ⟨last, again, same⟩ := Option.map_eq_some_iff.mp found
        cases same
        refine ⟨again, .inr ⟨reopened, ?_, rfl⟩⟩
        rw [opened]
    · cases found
      exact ⟨detected, .inl rfl⟩

theorem feeder_of_reopened {reopened : Session φ ε} {now : Medium}
    (again : session.reopened? medium = some (reopened, now)) :
    reopened.feeder = session.feeder ∧ reopened.droppedBefore = session.droppedBefore := by
  obtain ⟨_, -, -, opened⟩ := reopened?_eq_some again
  obtain ⟨_, _, _, _, shape⟩ := session.corrected.reopenEngine_shape medium
  rw [opened] at shape
  dsimp only at shape
  rw [shape]
  exact ⟨rfl, rfl⟩

/-- A step of a feed: what is left of the piece, and where the session stands. -/
structure Step (φ ε : Type) where
  session : Session φ ε
  medium : Medium
  rest : Bytes

namespace Step

def taken (step : Step φ ε) : Bytes :=
  if step.session.container.isSome then step.rest else step.session.detection.fitting step.rest

def next (step : Step φ ε) : Session φ ε × Medium :=
  if step.session.container.isSome then step.session.record step.medium step.rest
  else ((step.session.analyse step.rest).poll step.medium).2

def handed (step : Step φ ε) : List Bytes :=
  if step.session.container.isSome then step.session.handed step.rest
  else
    match (step.session.analyse step.rest).ready? step.medium with
    | none => []
    | some (ready, _) => ready.restartRetained.handed ready.retained

/-- The sessions that are set back to their first retained byte in the step. -/
def setBack (step : Step φ ε) : List (Session φ ε) :=
  if step.session.container.isSome then []
  else
    (((step.session.analyse step.rest).reopened? step.medium).map Prod.fst).toList ++
      (((step.session.analyse step.rest).ready? step.medium).map Prod.fst).toList

def startsOver (step : Step φ ε) : Bool :=
  step.next.1.stats.resets ≠ step.session.stats.resets

section Known

variable {step : Step φ ε} (known : step.session.container.isSome = true)
include known

omit [Engine ε] [EngineFactory φ ε] in
theorem taken_of_known : step.taken = step.rest := if_pos known

theorem next_of_known : step.next = step.session.record step.medium step.rest := if_pos known

theorem handed_of_known : step.handed = step.session.handed step.rest := if_pos known

theorem setBack_of_known : step.setBack = [] := if_pos known

theorem startsOver_of_known : step.startsOver = false := by
  rw [startsOver, next_of_known known, record_stats]
  exact decide_eq_false (fun differ => differ rfl)

end Known

section Unknown

variable {step : Step φ ε} (unknown : step.session.container = none)
include unknown

omit [Engine ε] [EngineFactory φ ε] in
theorem not_known : ¬ step.session.container.isSome = true := by
  rw [unknown]
  exact Bool.false_ne_true

omit [Engine ε] [EngineFactory φ ε] in
theorem taken_of_unknown : step.taken = step.session.detection.fitting step.rest :=
  if_neg (not_known unknown)

theorem next_of_unknown :
    step.next = ((step.session.analyse step.rest).poll step.medium).2 :=
  if_neg (not_known unknown)

theorem setBack_of_unknown :
    step.setBack =
      (((step.session.analyse step.rest).reopened? step.medium).map Prod.fst).toList ++
        (((step.session.analyse step.rest).ready? step.medium).map Prod.fst).toList :=
  if_neg (not_known unknown)

theorem handed_of_ready {ready : Session φ ε} {place : Medium} {container : Container}
    (found : (step.session.analyse step.rest).ready? step.medium = some (ready, place, container)) :
    step.handed = ready.restartRetained.handed ready.retained := by
  rw [handed, if_neg (not_known unknown), found]

theorem handed_of_unready
    (none : (step.session.analyse step.rest).ready? step.medium = none) : step.handed = [] := by
  rw [handed, if_neg (not_known unknown), none]

end Unknown

inductive Lead : Session φ ε × Medium → List (Step φ ε) → Session φ ε × Medium → Prop where
  | done (state : Session φ ε × Medium) : Lead state [] state
  | step {session : Session φ ε} {medium : Medium} {rest : Bytes} {later : List (Step φ ε)}
      {next last : Session φ ε × Medium} (came : Step.next ⟨session, medium, rest⟩ = next)
      (onward : Lead next later last) :
      Lead (session, medium) (⟨session, medium, rest⟩ :: later) last

end Step

def stepsFrom (session : Session φ ε) (medium : Medium) (rest : Bytes) : List (Step φ ε) :=
  if _more : rest = [] then []
  else
    match _unknown : session.container with
    | some _ => [⟨session, medium, rest⟩]
    | none =>
      let polled := (session.analyse rest).poll medium
      if _going : polled.1 = true then
        ⟨session, medium, rest⟩ ::
          stepsFrom polled.2.1 polled.2.2 (rest.drop (session.detection.fitting rest).length)
      else [⟨session, medium, rest⟩]
termination_by (rest.length, session.patience)
decreasing_by exact turn_decreases session medium _more _unknown _going

section Equations

variable {rest : Bytes} (more : rest ≠ [])
include more

theorem stepsFrom_of_known (known : session.container.isSome = true) :
    session.stepsFrom medium rest = [⟨session, medium, rest⟩] := by
  rw [stepsFrom, dif_neg more]
  split
  · rfl
  · next unknown =>
    rw [unknown] at known
    cases known

theorem stepsFrom_of_going (unknown : session.container = none)
    (going : ((session.analyse rest).poll medium).1 = true) :
    session.stepsFrom medium rest = ⟨session, medium, rest⟩ ::
      ((session.analyse rest).poll medium).2.1.stepsFrom ((session.analyse rest).poll medium).2.2
        (rest.drop (session.detection.fitting rest).length) := by
  rw [stepsFrom, dif_neg more]
  split
  · next known => cases known.symm.trans unknown
  · exact dif_pos going

theorem stepsFrom_of_stuck (unknown : session.container = none)
    (stuck : ¬ ((session.analyse rest).poll medium).1 = true) :
    session.stepsFrom medium rest = [⟨session, medium, rest⟩] := by
  rw [stepsFrom, dif_neg more]
  split
  · next known => cases known.symm.trans unknown
  · exact dif_neg stuck

theorem feedFrom_of_fitting (unknown : session.container = none)
    (fits : session.detection.fitting rest = rest)
    (going : ((session.analyse rest).poll medium).1 = true) :
    session.feedFrom medium rest = (true, ((session.analyse rest).poll medium).2) ∧
      session.stepsFrom medium rest = [⟨session, medium, rest⟩] := by
  constructor
  · rw [feedFrom_of_going more unknown going, fits, List.drop_length, feedFrom, dif_pos rfl]
  · rw [stepsFrom_of_going more unknown going, fits, List.drop_length, stepsFrom, dif_pos rfl]

end Equations

def steps (session : Session φ ε) (medium : Medium) : List Bytes → List (Step φ ε)
  | [] => []
  | piece :: later =>
    (if session.closed then [] else session.stepsFrom medium piece) ++
      (session.feed medium piece).2.1.steps (session.feed medium piece).2.2 later

theorem Step.Lead.append {first middle last : Session φ ε × Medium} {steps more : List (Step φ ε)}
    (lead : Lead first steps middle) (onward : Lead middle more last) :
    Lead first (steps ++ more) last := by
  induction lead with
  | done => exact onward
  | step came _ ih => exact .step came (ih onward)

theorem stepsFrom_lead (session : Session φ ε) (medium : Medium) (rest : Bytes) :
    Step.Lead (session, medium) (session.stepsFrom medium rest) (session.feedFrom medium rest).2 ∧
      ((session.feedFrom medium rest).1 = true →
        (session.stepsFrom medium rest).flatMap Step.taken = rest) := by
  fun_induction Session.feedFrom session medium rest with
  | case1 session medium =>
    rw [stepsFrom, dif_pos rfl]
    exact ⟨.done _, fun _ => rfl⟩
  | case2 session medium rest more container known =>
    have found : session.container.isSome = true := known ▸ rfl
    rw [stepsFrom_of_known more found, List.flatMap_singleton]
    exact ⟨.step (Step.next_of_known found) (.done _), fun _ => Step.taken_of_known found⟩
  | case3 session medium rest more unknown polled going =>
    rename_i ih
    obtain ⟨lead, all⟩ := ih
    rw [stepsFrom_of_going more unknown going, List.flatMap_cons, Step.taken_of_unknown unknown]
    refine ⟨.step (Step.next_of_unknown unknown) lead, fun took => ?_⟩
    rw [all took, Detection.fitting_append_drop]
  | case4 session medium rest more unknown polled =>
    rename_i stuck
    rw [stepsFrom_of_stuck more unknown stuck]
    exact ⟨.step (Step.next_of_unknown unknown) (.done _), fun took => absurd took Bool.false_ne_true⟩

/-- What holds of the steps so far and of the state, and is kept by every step of a feed. -/
structure StepInvariant (holds : List (Step φ ε) → Session φ ε × Medium → Prop) : Prop where
  going : ∀ {steps session now}, holds steps (session, now) → session.closed = false
  turn : ∀ {steps session now} rest, holds steps (session, now) → session.container = none →
    ((session.analyse rest).poll now).1 = true ∧
      holds (steps ++ [⟨session, now, rest⟩]) ((session.analyse rest).poll now).2
  record : ∀ {steps session now} data, holds steps (session, now) →
    session.container.isSome = true →
    holds (steps ++ [⟨session, now, data⟩]) (session.record now data)

namespace StepInvariant

variable {holds : List (Step φ ε) → Session φ ε × Medium → Prop} {steps : List (Step φ ε)}
  {now : Medium}

theorem feedFrom (keeps : StepInvariant holds) (held : holds steps (session, now)) (rest : Bytes) :
    (session.feedFrom now rest).1 = true ∧
      holds (steps ++ session.stepsFrom now rest) (session.feedFrom now rest).2 := by
  fun_induction Session.feedFrom session now rest generalizing steps with
  | case1 session now =>
    rw [stepsFrom, dif_pos rfl, List.append_nil]
    exact ⟨rfl, held⟩
  | case2 session now rest more container known =>
    rw [stepsFrom_of_known more (known ▸ rfl)]
    exact ⟨rfl, keeps.record rest held (known ▸ rfl)⟩
  | case3 session now rest more unknown polled going =>
    rename_i ih
    obtain ⟨took, last⟩ := ih (keeps.turn rest held unknown).2
    rw [stepsFrom_of_going more unknown going, List.append_cons]
    exact ⟨took, last⟩
  | case4 session now rest more unknown polled =>
    rename_i stuck
    exact absurd (keeps.turn rest held unknown).1 stuck

theorem feedAll (keeps : StepInvariant holds) (held : holds steps (session, now))
    (pieces : List Bytes) :
    (session.feedAll now pieces).1 = true ∧
      holds (steps ++ session.steps now pieces) (session.feedAll now pieces).2 := by
  induction pieces generalizing session now steps with
  | nil =>
    rw [Session.steps, List.append_nil]
    exact ⟨rfl, held⟩
  | cons piece later ih =>
    have going := keeps.going held
    have step : session.feed now piece = session.feedFrom now piece := by
      rw [feed, going, if_neg Bool.false_ne_true]
    obtain ⟨took, next⟩ := keeps.feedFrom held piece
    obtain ⟨others, last⟩ := ih next
    rw [Session.steps, Session.feedAll, going, if_neg Bool.false_ne_true, step, took, others,
      ← List.append_assoc]
    exact ⟨rfl, last⟩

end StepInvariant

end Session

end MpegRecorder
