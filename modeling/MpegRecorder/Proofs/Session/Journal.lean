import Mathlib.Data.List.Infix
import MpegRecorder.Proofs.Session.Turn

/-!
What becomes of captured packets while the container is unknown, in the order in which it happens: chunks
go to an engine, and packets that wait in the feeder are thrown away. The journal goes along with a feed,
step by step. Retained bytes that another engine is given again are not listed a second time.
-/

namespace MpegRecorder

open Capture Config

/-- The whole packets on a boundary that wait in a feeder. -/
def Capture.Feeder.waiting (feeder : Feeder) : List Bytes :=
  if feeder.alignment.synced then feeder.pending.toList.wholeChunks feeder.packetSize else []

theorem Capture.Feeder.waiting_shift (feeder : Feeder) (count : Nat) :
    (feeder.shift count).waiting = feeder.waiting := rfl

theorem Capture.Detection.fitting_append_drop (buffer : Detection) (input : Bytes) :
    buffer.fitting input ++ input.drop (buffer.fitting input).length = input :=
  List.prefix_iff_eq_append.mp (List.take_prefix ..)

inductive Session.Event where
  /-- A chunk goes to an engine for analysis. -/
  | handed (chunk : Bytes)
  /-- The feeder is set back, or left, with these packets in it. -/
  | discarded (packets : List Bytes)
deriving Repr, DecidableEq

namespace Session

variable {φ ε : Type} [Engine ε]

def offered (session : Session φ ε) (input : Bytes) : List Bytes :=
  match session.engine with
  | none => []
  | some _ => (session.feeder.push (session.detection.fitting input)).1

def givesUp (session : Session φ ε) : Bool :=
  session.detected?.isNone && session.detection.isFull && session.detection.atCap

def turnEvents (session : Session φ ε) (input : Bytes) : List Event :=
  (session.offered input).map .handed ++
    if (session.analyse input).givesUp then [.discarded (session.analyse input).feeder.waiting] else []

/-- What happens when the session is closed: unless it records, the feeder is left as it is. -/
def closeEvents (session : Session φ ε) : List Event :=
  if session.closed || session.container.isSome then [] else [.discarded session.feeder.waiting]

/-- The chunks that a step hands on are those that its engine takes for analysis. -/
theorem analyse_engine (session : Session φ ε) (input : Bytes) :
    (session.analyse input).engine = session.engine.map fun engine =>
      (session.offered input).foldl (fun engine chunk => (Engine.analyse engine chunk).2) engine := by
  unfold analyse offered
  cases running : session.engine with
  | none => rfl
  | some engine => rfl

variable [EngineFactory φ ε]

theorem reopenEngine_resets (session : Session φ ε) (medium : Medium) :
    (session.reopenEngine medium).2.1.stats.resets = session.stats.resets := by
  obtain ⟨_, _, _, _, shape⟩ := session.reopenEngine_shape medium
  rw [shape]

theorem onDetected_resets (session : Session φ ε) (medium : Medium) (container : Container) :
    (session.onDetected medium container).2.1.stats.resets = session.stats.resets := by
  have reopened := reopenEngine_resets session.corrected medium
  change (session.corrected.reopenEngine medium).2.1.stats.resets = session.stats.resets at reopened
  unfold corrected at reopened
  unfold onDetected
  split
  · dsimp only
    split
    · next failed =>
      rw [failed] at reopened
      exact reopened
    · next opened =>
      rw [opened] at reopened
      split
      · rw [analyseRetained_stats]
        exact reopened
      · rw [startRecording_stats, analyseRetained_stats]
        exact reopened
  · rw [startRecording_stats]

theorem poll_resets (session : Session φ ε) (medium : Medium) :
    (session.poll medium).2.1.stats.resets =
      session.stats.resets + if session.givesUp then 1 else 0 := by
  unfold poll givesUp
  split
  · next container found =>
    rw [found]
    exact onDetected_resets session medium container
  · next missed =>
    rw [missed]
    unfold onUndetected
    split
    · next room =>
      rw [Bool.not_eq_true'] at room
      rw [room]
      rfl
    · next full =>
      rw [Bool.not_eq_true', Bool.not_eq_false] at full
      rw [full]
      split
      · next below =>
        rw [Bool.not_eq_true'] at below
        rw [below]
        rfl
      · next top =>
        rw [Bool.not_eq_true', Bool.not_eq_false] at top
        rw [top]
        exact reopenEngine_resets session.emptied medium

theorem turnEvents_of_kept (session : Session φ ε) (input : Bytes) (medium : Medium)
    (kept : ((session.analyse input).poll medium).2.1.stats.resets =
      (session.analyse input).stats.resets) :
    session.turnEvents input = (session.offered input).map .handed := by
  have counted := (session.analyse input).poll_resets medium
  have holds : ¬ (session.analyse input).givesUp = true := fun gaveUp => by
    rw [kept, if_pos gaveUp] at counted
    omega
  rw [turnEvents, if_neg holds, List.append_nil]

theorem turnEvents_of_reset (session : Session φ ε) (input : Bytes) (medium : Medium)
    (again : ((session.analyse input).poll medium).2.1.stats.resets =
      (session.analyse input).stats.resets + 1) :
    session.turnEvents input = (session.offered input).map .handed ++
      [.discarded (session.analyse input).feeder.waiting] := by
  have counted := (session.analyse input).poll_resets medium
  have gaveUp : (session.analyse input).givesUp = true := by
    by_contra holds
    rw [again, if_neg holds] at counted
    omega
  rw [turnEvents, if_pos gaveUp]

def journalFrom (session : Session φ ε) (medium : Medium) (rest : Bytes) : List Event :=
  if _more : rest = [] then []
  else
    match _unknown : session.container with
    | some _ => []
    | none =>
      let polled := (session.analyse rest).poll medium
      if _going : polled.1 = true then
        session.turnEvents rest ++
          journalFrom polled.2.1 polled.2.2 (rest.drop (session.detection.fitting rest).length)
      else session.turnEvents rest
termination_by (rest.length, session.patience)
decreasing_by exact turn_decreases session medium _more _unknown _going

section Going

variable {session : Session φ ε} {medium : Medium} {rest : Bytes} (more : rest ≠ [])
  (unknown : session.container = none) (going : ((session.analyse rest).poll medium).1 = true)
include more unknown going

theorem journalFrom_of_going :
    session.journalFrom medium rest = session.turnEvents rest ++
      ((session.analyse rest).poll medium).2.1.journalFrom ((session.analyse rest).poll medium).2.2
        (rest.drop (session.detection.fitting rest).length) := by
  rw [journalFrom, dif_neg more]
  split
  · next known => cases known.symm.trans unknown
  · exact dif_pos going

theorem feedFrom_of_going :
    session.feedFrom medium rest =
      ((session.analyse rest).poll medium).2.1.feedFrom ((session.analyse rest).poll medium).2.2
        (rest.drop (session.detection.fitting rest).length) := by
  rw [feedFrom, dif_neg more]
  split
  · next known => cases known.symm.trans unknown
  · exact dif_pos going

end Going

theorem journalFrom_of_known {session : Session φ ε} (medium : Medium) (rest : Bytes)
    (known : session.container.isSome = true) : session.journalFrom medium rest = [] := by
  rw [journalFrom]
  split
  · rfl
  · split
    · rfl
    · next unknown =>
      rw [unknown] at known
      cases known

theorem feedFrom_of_known {session : Session φ ε} (medium : Medium) {rest : Bytes} (more : rest ≠ [])
    (known : session.container.isSome = true) :
    session.feedFrom medium rest = (true, session.record medium rest) := by
  rw [feedFrom, dif_neg more]
  split
  · rfl
  · next unknown =>
    rw [unknown] at known
    cases known

def journal (session : Session φ ε) (medium : Medium) : List Bytes → List Event
  | [] => session.closeEvents
  | piece :: later =>
    (if session.closed then [] else session.journalFrom medium piece) ++
      (session.feed medium piece).2.1.journal (session.feed medium piece).2.2 later

/--
What holds of the bytes fed so far, of the journal and of the state, and is kept by every step of a feed.
-/
structure FeedInvariant (holds : Bytes → List Event → Session φ ε × Medium → Prop) : Prop where
  going : ∀ {capture events session now}, holds capture events (session, now) → session.closed = false
  turn : ∀ {capture events session now} input, holds capture events (session, now) →
    session.container = none → ((session.analyse input).poll now).1 = true ∧
      holds (capture ++ session.detection.fitting input) (events ++ session.turnEvents input)
        ((session.analyse input).poll now).2
  record : ∀ {capture events session now} data, holds capture events (session, now) →
    session.container.isSome = true → holds (capture ++ data) events (session.record now data)

namespace FeedInvariant

variable {holds : Bytes → List Event → Session φ ε × Medium → Prop} {capture : Bytes}
  {events : List Event} {session : Session φ ε} {now : Medium}

theorem feedFrom (keeps : FeedInvariant holds) (held : holds capture events (session, now))
    (rest : Bytes) :
    (session.feedFrom now rest).1 = true ∧
      holds (capture ++ rest) (events ++ session.journalFrom now rest)
        (session.feedFrom now rest).2 := by
  fun_induction Session.feedFrom session now rest generalizing capture events with
  | case1 session now =>
    rw [journalFrom, dif_pos rfl, List.append_nil, List.append_nil]
    exact ⟨rfl, held⟩
  | case2 session now rest more container known =>
    have found : session.container.isSome = true := known ▸ rfl
    rw [journalFrom_of_known now rest found, List.append_nil]
    exact ⟨rfl, keeps.record rest held found⟩
  | case3 session now rest more unknown polled going =>
    rename_i ih
    have step := journalFrom_of_going more unknown going
    obtain ⟨took, last⟩ := ih (keeps.turn rest held unknown).2
    refine ⟨took, ?_⟩
    rwa [List.append_assoc, List.append_assoc, Detection.fitting_append_drop, ← step] at last
  | case4 session now rest more unknown polled =>
    rename_i stuck
    exact absurd (keeps.turn rest held unknown).1 stuck

theorem feedAll (keeps : FeedInvariant holds) (events : List Event)
    (held : holds capture events (session, now)) (pieces : List Bytes) :
    (session.feedAll now pieces).1 = true ∧
      ∃ all, holds (capture ++ pieces.flatten) all (session.feedAll now pieces).2 ∧
        events ++ session.journal now pieces =
          all ++ (session.feedAll now pieces).2.1.closeEvents := by
  induction pieces generalizing session now capture events with
  | nil =>
    rw [List.flatten_nil, List.append_nil]
    exact ⟨rfl, events, held, rfl⟩
  | cons piece later ih =>
    obtain ⟨took, next⟩ := keeps.feedFrom held piece
    have going := keeps.going held
    have step : session.feed now piece = session.feedFrom now piece := by
      rw [feed, going, if_neg Bool.false_ne_true]
    obtain ⟨others, all, last, equal⟩ := ih _ next
    rw [Session.feedAll, step, took, others, List.flatten_cons, ← List.append_assoc]
    refine ⟨rfl, all, last, ?_⟩
    rw [journal, going, if_neg Bool.false_ne_true, step, ← List.append_assoc]
    exact equal

end FeedInvariant

end Session

end MpegRecorder
