import MpegRecorder.Proofs.Output.Invariant
import MpegRecorder.Proofs.Output.Received
import MpegRecorder.Proofs.Output.Recording

/-!
Every byte handed to an output reaches one destination, once and in order. Where no opening is refused
and no write call takes nothing, what the destinations received, one after the other in the order in
which they were opened, followed by what still waits in the buffer, is all that was handed over, wherever
the recording moved on the way. With an opener that never refuses and files that take all bytes this is
so of every run, and the files hold what the destinations received.
-/

namespace MpegRecorder.Output

open Storage

variable {first : Nat} {output : Output} {medium : Medium}

/-- A recording under way that was handed `total` and has kept all of it. -/
structure Keeps (first : Nat) (output : Output) (storage : Storage)
    (total : Bytes) : Prop where
  recording : Recording first output storage
  complete : account first output storage = total

variable {total : Bytes}

theorem Keeps.congr {other : Output} {storage : Storage}
    (keeps : Keeps first output storage total) (opener : other.opener = output.opener)
    (destination : other.destination = output.destination)
    (ring : other.ring.limit = output.ring.limit)
    (buffer : other.buffer.content = output.buffer.content) :
    Keeps first other storage total where
  recording := keeps.recording.congr opener destination ring
  complete := by
    rw [← keeps.complete, account, account, delivered, delivered, files, files, opener, buffer]

theorem Keeps.flushAll (keeps : Keeps first output medium.storage total) :
    Keeps first (output.flushAll medium).1 (output.flushAll medium).2.storage total := by
  obtain ⟨still, sent, empty⟩ := keeps.recording.flushAll
  exact ⟨still, by rw [account, sent, empty, List.append_nil, keeps.complete]⟩

theorem Keeps.moveAt (keeps : Keeps first output medium.storage total) (request : Request)
    (cut : Nat) :
    Keeps first (output.moveAt medium request cut).2.1
      (output.moveAt medium request cut).2.2.storage total := by
  obtain ⟨paused, kept⟩ := keeps.recording.release cut
  obtain ⟨destination, opener, later, opened, moved⟩ := paused.openFile request.name request.token
  let next := (output.release medium cut).1.enter opener destination
  let place : Medium := { (output.release medium cut).2 with storage := later }
  obtain ⟨recording, unchanged⟩ := moved next rfl rfl paused.ring_off
  have complete : account first next later = total := by
    rw [account, unchanged, ← keeps.complete, ← kept, account]
    rfl
  have started : Keeps first next place.storage total := ⟨recording, complete⟩
  rw [(output.release_released medium cut).opener] at opened
  obtain ⟨same, stored⟩ := moveAt_enter opened
  rw [same, stored]
  exact started.flushAll

theorem Keeps.extend {storage : Storage} (keeps : Keeps first output storage total)
    (data : Bytes) :
    Keeps first { output with buffer := output.buffer.extend data } storage (total ++ data) where
  recording := keeps.recording.congr rfl rfl rfl
  complete := by
    rw [← keeps.complete, account, account, List.append_assoc]
    rfl

theorem keeps_invariant (first : Nat) : Invariant (· = 0) (Keeps first) where
  alike same keeps := keeps.congr same.opener same.destination same.limit same.content
  limit _ off keeps := keeps.congr rfl rfl (off.trans keeps.recording.ring_off.symm) rfl
  extend data keeps := keeps.extend data
  flushAll keeps := keeps.flushAll
  moveAt request cut _ keeps := keeps.moveAt request cut

theorem Keeps.finish (keeps : Keeps first output medium.storage total) :
    (files first (output.finish medium).1).Nodup
      ∧ delivered first (output.finish medium).1 (output.finish medium).2.storage = total
      ∧ (output.finish medium).1.buffer.content = [] := by
  have ending : Keeps first { output with closed := true } medium.storage total :=
    keeps.congr rfl rfl rfl rfl
  have forced := (keeps_invariant first).tryCut ending true
  obtain ⟨flushed, sent, empty⟩ := forced.recording.flushAll
  obtain ⟨closed, same, kept⟩ := flushed.toPaused.closeDestination
  exact ⟨closed.distinct, same.trans (sent.trans forced.complete),
    (congrArg Buffer.content kept).trans empty⟩

variable {φ : Type}

theorem Keeps.start (setup : Session.Setup φ) (recording : Nat) {storage : Storage}
    (grants : setup.opener.Grants) (unused : setup.opener.openedFiles = [])
    (ready : storage.Ready setup.destination)
    (empty : storage.content setup.destination.file = []) :
    Keeps setup.destination.file (setup.newOutput recording) storage [] := by
  have only : files setup.destination.file (setup.newOutput recording)
      = [setup.destination.file] := by
    rw [files, Session.Setup.newOutput, unused]
  refine ⟨⟨⟨rfl, grants, by simp [only], ?_⟩, setup.destination, [], rfl, ready, only⟩, ?_⟩
  · intro id member
    obtain ⟨file, found, _⟩ := ready
    rw [only, List.mem_singleton] at member
    exact member ▸ (List.getElem?_eq_some_iff.mp found).1
  · rw [account, delivered, only, List.flatMap_singleton, empty]
    rfl

/--
No byte is lost, written twice or put out of order, in whatever order callers append, flush and switch,
and at the end nothing waits any more, unless an opening was refused or a write call took nothing. An
opener that grants all that is asked, with files that take all bytes, leaves room for neither.
-/
theorem delivered_exactly_once (setup : Session.Setup φ) (recording : Nat) (medium : Medium)
    (operations : List Operation) (off : ∀ limit, .setRingLimit limit ∈ operations → limit = 0) :
    let start := (setup.newOutput recording, medium)
    let now := run operations start
    let ended := now.1.finish now.2
    let events := along Operation.events operations start
    let ending := events ++ now.1.finishEvents now.2
    ((outside start).History events (outside now) ∧ (outside start).History ending (outside ended))
      ∧ ((outside start).unhindered events = true →
          (outside start).handed now.1.switches events ++ now.1.buffer.content = appended operations)
      ∧ ((outside start).unhindered ending = true →
          (outside start).handed ended.1.switches ending = appended operations
            ∧ ended.1.buffer.content = [])
      ∧ (setup.opener.Grants → setup.opener.openedFiles = [] →
          medium.storage.Ready setup.destination →
          medium.storage.content setup.destination.file = [] →
          let first := setup.destination.file
          (outside start).unhindered ending = true
            ∧ (files first now.1).Nodup
            ∧ delivered first now.1 now.2.storage ++ now.1.buffer.content = appended operations
            ∧ (files first ended.1).Nodup
            ∧ delivered first ended.1 ended.2.storage = appended operations
            ∧ ended.1.buffer.content = []) := by
  intro start now ended events ending
  have passed : Passed start (appended operations) events now := passed_run operations start off
  have closing : (outside now).History (now.1.finishEvents now.2) (outside ended) :=
    (counted_finish now.1 now.2).happened
  have whole : (outside start).History ending (outside ended) := passed.happened.append closing
  have flowing : start.1.Flowing := ⟨rfl, rfl⟩
  refine ⟨⟨passed.happened, whole⟩, fun free => ?_, fun free => ?_, fun grants unused ready empty => ?_⟩
  · have sent : appended operations = (outside start).stream events ++ now.1.buffer.content :=
      (passed.passes flowing free).2
    rw [sent, ← passed.happened.handed_eq_stream]
    rfl
  · have both := free
    rw [Outside.unhindered_append passed.happened, Bool.and_eq_true] at both
    obtain ⟨still, parted⟩ := passed.passes flowing both.1
    have sent : appended operations = (outside start).stream events ++ now.1.buffer.content := parted
    have last : (outside now).stream (now.1.finishEvents now.2) = now.1.buffer.content :=
      (still.finish both.2).2
    refine ⟨?_, (still.finish both.2).1⟩
    rw [sent, ← last, ← Outside.stream_append passed.happened]
    exact whole.handed_eq_stream
  · intro first
    have willing : (outside start).Willing := by
      obtain ⟨file, found, accepts, -⟩ := ready
      refine ⟨grants, fun destination same => ?_⟩
      cases same
      exact ⟨file.behaviour, Option.map_eq_some_iff.mpr ⟨file, found, rfl⟩, accepts⟩
    have kept := (keeps_invariant _).run [] (Keeps.start setup recording grants unused ready empty)
      operations off
    obtain ⟨distinct, sent, nothing⟩ := kept.finish
    exact ⟨whole.unhindered willing, kept.recording.distinct, kept.complete, distinct, sent, nothing⟩

def hesitant : Behaviour :=
  ⟨fun call => .ok (some (call % 3 + 1)), fun _ => .ok (), .ok ()⟩

theorem hesitant_accepts : hesitant.Accepts :=
  fun call => ⟨some (call % 3 + 1), rfl, by simp⟩

def hesitantSetup : Session.Setup Unit where
  destination := ⟨0, 0, "first.ts"⟩
  factory := ()
  opener := .memory ⟨fun _ => some hesitant, 0, []⟩
  output := .transport
  capture := .other
  delivery := .unknown
  tuning := .automatic
  config := .standard
  registered := false

def hesitantMedium : Medium :=
  ⟨((Storage.empty []).addFile "first.ts" hesitant).2, .empty⟩

def hesitantCalls : List Operation :=
  [.setPolicy .transport (some .h264) (some 0x100), .append [1, 2, 3], .flush,
    .append [4, 5, 6, 7], .startSwitch "second.ts" 0, .append [8, 9], .forceSwitch, .append [10]]

/-- The recording moves among files of a tree, and comes to one of them twice. -/
def returningSetup : Session.Setup Unit :=
  { hesitantSetup with opener := .files ⟨none, none⟩ }

def returningCalls : List Operation :=
  [.append [1, 2, 3], .startSwitch "second.ts" 0, .append [4, 5], .startSwitch "first.ts" 0,
    .append [6], .startSwitch "second.ts" 0]

theorem delivered_exactly_once_hesitant :
    (hesitantSetup.opener.Grants ∧ hesitantMedium.storage.Ready hesitantSetup.destination ∧
      let now := run hesitantCalls (hesitantSetup.newOutput 0, hesitantMedium)
      let ended := now.1.finish now.2
      files 0 ended.1 = [0, 1]
        ∧ delivered 0 now.1 now.2.storage ++ now.1.buffer.content = [1, 2, 3, 4, 5, 6, 7, 8, 9, 10]
        ∧ delivered 0 ended.1 ended.2.storage = [1, 2, 3, 4, 5, 6, 7, 8, 9, 10])
      ∧ let start := (returningSetup.newOutput 0, hesitantMedium)
        let now := run returningCalls start
        let ended := now.1.finish now.2
        let ending := along Operation.events returningCalls start ++ now.1.finishEvents now.2
        (outside start).unhindered ending = true
          ∧ (outside start).received 1 ending = [1, 2, 3] ∧ (outside start).received 3 ending = [6]
          ∧ (outside start).handed ended.1.switches ending = [1, 2, 3, 4, 5, 6]
          ∧ ended.1.buffer.content = [] := by
  have grants : hesitantSetup.opener.Grants := fun _ _ => ⟨hesitant, rfl, hesitant_accepts⟩
  have ready : hesitantMedium.storage.Ready hesitantSetup.destination :=
    ⟨.new hesitant, rfl, hesitant_accepts, rfl⟩
  obtain ⟨-, -, -, held⟩ := delivered_exactly_once hesitantSetup 0 hesitantMedium hesitantCalls
    (by simp [hesitantCalls])
  obtain ⟨-, -, kept, -, sent, -⟩ := held grants rfl ready rfl
  obtain ⟨-, -, given, -⟩ := delivered_exactly_once returningSetup 0 hesitantMedium returningCalls
    (by simp [returningCalls])
  refine ⟨⟨grants, ready, by decide +kernel, kept, sent⟩, ?_⟩
  intro start now ended ending
  have free : (outside start).unhindered ending = true := by decide +kernel
  obtain ⟨received, nothing⟩ := given free
  exact ⟨free, by decide +kernel, by decide +kernel, received, nothing⟩

end MpegRecorder.Output
