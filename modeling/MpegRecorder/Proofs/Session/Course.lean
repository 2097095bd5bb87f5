import MpegRecorder.Proofs.Capture.Blocks
import MpegRecorder.Proofs.Session.Journal

/-!
The course of a session whose engines go by what they have seen. The capture falls into blocks as long as
the cap in which nothing is found, and the bytes behind them: either too few to tell, or those that are
recorded. Where the blocks end depends on the capture alone, not on the pieces that it comes in.
-/

namespace MpegRecorder

open Capture Config

/--
Engines that report a container as soon as they have seen certain chunks, and go on to report one.
-/
structure Decisive {ε : Type} [Engine ε] (seen : List Bytes → ε → Prop)
    (reports : List Bytes → Bool) : Prop where
  tells : ∀ {chunks engine}, seen chunks engine →
    (Engine.container? engine).isSome = reports chunks
  nothing : reports [] = false
  lasting : ∀ {front chunks}, front <+: chunks → reports front = true → reports chunks = true

namespace Config

variable {config : Config}

def finds (valid : config.Valid) (reports : List Bytes → Bool) (stream : Bytes) : Bool :=
  reports ((newFeeder valid).push stream).1

/-- The blocks in which analysis is given up, up to the first in which the container is found. -/
def givenUp (valid : config.Valid) (reports : List Bytes → Bool) (capture : Bytes) : List Bytes :=
  (capture.wholeChunks config.maxDetection).takeWhile fun block => !finds valid reports block

def since (valid : config.Valid) (reports : List Bytes → Bool) (capture : Bytes) : Bytes :=
  capture.drop ((givenUp valid reports capture).length * config.maxDetection)

def droppedIn (valid : config.Valid) (blocks : List Bytes) : Nat :=
  blocks.foldl (fun count block => count + ((newFeeder valid).push block).2.dropped) 0

variable {valid : config.Valid} {reports : List Bytes → Bool}

theorem droppedIn_concat (blocks : List Bytes) (block : Bytes) :
    droppedIn valid (blocks ++ [block]) =
      droppedIn valid blocks + ((newFeeder valid).push block).2.dropped :=
  List.foldl_append ..

theorem finds_nil {ε : Type} [Engine ε] {seen : List Bytes → ε → Prop}
    (decisive : Decisive seen reports) : finds valid reports [] = false := by
  rw [finds, Feeder.push_nil]
  exact decisive.nothing

theorem finds_of_front {ε : Type} [Engine ε] {seen : List Bytes → ε → Prop}
    (decisive : Decisive seen reports) {front stream : Bytes} (part : front <+: stream)
    (found : finds valid reports front = true) : finds valid reports stream = true := by
  obtain ⟨more, rfl⟩ := part
  refine decisive.lasting ?_ found
  rw [(fit_newFeeder valid).push_append]
  exact List.prefix_append ..

structure Barren (valid : config.Valid) (reports : List Bytes → Bool) (block : Bytes) : Prop where
  whole : block.length = config.maxDetection
  missed : finds valid reports block = false

section Split

variable {blocks : List Bytes} {rest : Bytes}

/-- Barren blocks are given up, and no more if what follows is too short or is not barren. -/
theorem givenUp_eq (barren : ∀ block ∈ blocks, Barren valid reports block)
    (ends : config.maxDetection ≤ rest.length →
      finds valid reports (rest.take config.maxDetection) = true) :
    givenUp valid reports (blocks.flatten ++ rest) = blocks := by
  have missed : ∀ block ∈ blocks, (!finds valid reports block) = true := fun block member => by
    rw [(barren block member).missed]
    rfl
  rw [givenUp, Bytes.wholeChunks_flatten_append valid.cap_pos fun block member =>
    (barren block member).whole, List.takeWhile_append_of_pos missed]
  by_cases long : config.maxDetection ≤ rest.length
  · have whole := List.length_take_of_le long
    have first := Bytes.wholeChunks_append valid.cap_pos whole (rest.drop config.maxDetection)
    rw [List.take_append_drop] at first
    rw [first, List.takeWhile_cons, ends long]
    exact List.append_nil _
  · rw [Bytes.wholeChunks_of_short (Nat.lt_of_not_le long)]
    exact List.append_nil _

theorem since_eq (barren : ∀ block ∈ blocks, Barren valid reports block)
    (ends : config.maxDetection ≤ rest.length →
      finds valid reports (rest.take config.maxDetection) = true) :
    since valid reports (blocks.flatten ++ rest) = rest := by
  rw [since, givenUp_eq barren ends, ← Bytes.length_flatten_blocks fun block member =>
    (barren block member).whole, List.drop_left]

end Split

end Config

namespace Session

variable {φ ε : Type} [Engine ε] {config : Config} {valid : config.Valid}
  {usable : φ → EngineParams → Prop} {seen : List Bytes → ε → Prop} {reports : List Bytes → Bool}
  {output : Output} {medium : Medium} {capture : Bytes} {blocks : List Bytes}

inductive Course (valid : config.Valid) (usable : φ → EngineParams → Prop)
    (seen : List Bytes → ε → Prop) (reports : List Bytes → Bool) (output : Output)
    (medium : Medium) (capture : Bytes) : Session φ ε × Medium → Prop where
  /-- It still looks for the container, in too few bytes to tell. -/
  | watching {session : Session φ ε} {blocks : List Bytes}
      (parted : Parted capture blocks session.retained session)
      (barren : ∀ block ∈ blocks, Barren valid reports block)
      (short : session.retained.length < config.maxDetection)
      (missed : finds valid reports session.retained = false)
      (lost : session.lost = droppedIn valid blocks)
      (watching : Watching valid usable seen output session) :
      Course valid usable seen reports output medium capture (session, medium)
  /-- It records the bytes behind the barren blocks. -/
  | underway {session : Session φ ε} {now : Medium} {blocks : List Bytes} {since : Bytes}
      {engine : ε} {front : List Bytes} {params : EngineParams} {container : Container}
      (parted : Parted capture blocks since session)
      (barren : ∀ block ∈ blocks, Barren valid reports block)
      (found : finds valid reports (since.take config.maxDetection) = true)
      (saw : seen front engine)
      (underway : Underway valid engine (output.begun params container) medium
        (droppedIn valid blocks) since session now) :
      Course valid usable seen reports output medium capture (session, now)

theorem Watching.detected {session : Session φ ε} (decisive : Decisive seen reports)
    (watching : Watching valid usable seen output session) :
    session.detected?.isSome = finds valid reports session.retained := by
  obtain ⟨engine, running, saw⟩ := watching.analysed
  rw [detected?, running]
  exact decisive.tells saw

theorem Course.start {session : Session φ ε} (decisive : Decisive seen reports)
    (watching : Watching valid usable seen output session) (empty : session.retained = [])
    (resets : session.stats.resets = 0) (lost : session.lost = 0) :
    Course valid usable seen reports output medium [] (session, medium) := by
  have parted : Parted [] [] session.retained session := ⟨by rw [empty]; rfl, resets⟩
  refine .watching parted nofun ?_ ?_ lost watching
  · rw [empty]
    exact valid.cap_pos
  · rw [empty]
    exact finds_nil decisive

theorem Course.going {session : Session φ ε} {now : Medium}
    (course : Course valid usable seen reports output medium capture (session, now)) :
    session.closed = false := by
  cases course with
  | watching _ _ _ _ _ watching => exact watching.going
  | underway _ _ _ _ underway => exact underway.going

theorem Course.record {session : Session φ ε} {now : Medium} (decisive : Decisive seen reports)
    (course : Course valid usable seen reports output medium capture (session, now))
    (known : session.container.isSome = true) (data : Bytes) :
    Course valid usable seen reports output medium (capture ++ data) (session.record now data) := by
  cases course with
  | watching _ _ _ _ _ watching =>
    rw [watching.unknown] at known
    cases known
  | @underway _ _ blocks since engine front params container parted barren found saw underway =>
    have further : since.take config.maxDetection <+: (since ++ data).take config.maxDetection :=
      List.IsPrefix.take (List.prefix_append ..) _
    exact .underway (parted.record now data) barren (finds_of_front decisive further found) saw
      (underway.record data)

section Steps

variable [EngineFactory φ ε] (reliable : Reliable usable seen) (decisive : Decisive seen reports)
  (silent : output.accepting = false)
include reliable decisive silent

theorem Course.turn {session : Session φ ε} {now : Medium}
    (course : Course valid usable seen reports output medium capture (session, now))
    (unknown : session.container = none) (input : Bytes) :
    ((session.analyse input).poll now).1 = true ∧
      Course valid usable seen reports output medium (capture ++ session.detection.fitting input)
        ((session.analyse input).poll now).2 := by
  cases course with
  | underway _ _ _ _ underway => exact absurd unknown underway.container_ne
  | @watching _ blocks parted barren short missed lost watching =>
    obtain ⟨watches, kept, level⟩ := watching.analyse reliable input
    obtain ⟨polled, turned⟩ := watches.poll reliable silent medium
    refine ⟨polled, ?_⟩
    have parted := parted.analyse kept
    have detected := watches.detected decisive
    have lost : (session.analyse input).lost = droppedIn valid blocks := level.trans lost
    cases turned with
    | @recording ready engine front container found retaining same running part saw came =>
      have inside := retaining.level_le
      have begun := retaining.startRecording running medium container
      rw [same.lost, lost] at begun
      rw [came]
      refine .underway ((parted.same same).startRecording medium container) barren ?_ saw begun
      rw [List.take_of_length_le inside, same.retained, ← detected, found]
    | @again next found _ still watching same _ =>
      -- An engine that has seen the same bytes knows the container as well, so this does not happen.
      have missed := watching.detected decisive
      rw [still, same.retained, ← detected, found] at missed
      cases missed
    | @waiting next missed below still watching same came =>
      rw [came]
      refine .watching (parted.same same) barren ?_ ?_ ?_ watching
      · rwa [same.retained]
      · rw [same.retained, ← detected, missed]
        rfl
      · rw [same.lost, lost]
    | @startedOver next missed full watching empty again more came =>
      have last : Barren valid reports (session.analyse input).retained :=
        ⟨full, by rw [← detected, missed]; rfl⟩
      have all := List.forall_mem_append.mpr ⟨barren, List.forall_mem_singleton.mpr last⟩
      rw [came]
      refine .watching (parted.startedOver empty again) all ?_ ?_ ?_ watching
      · rw [empty]
        exact valid.cap_pos
      · rw [empty]
        exact finds_nil decisive
      · rw [more, lost, droppedIn_concat]

/-- The course of a session does not depend on the pieces that the capture comes in. -/
theorem Course.kept : FeedInvariant fun capture _ (state : Session φ ε × Medium) =>
    Course valid usable seen reports output medium capture state where
  going := Course.going
  turn input course unknown := course.turn reliable decisive silent unknown input
  record data course known := course.record decisive known data

end Steps

end Session

end MpegRecorder
