import MpegRecorder.Proofs.Output.Handover
import MpegRecorder.Proofs.Output.Hunt

/-!
What a search for a splice point comes to in a recording without faults. Nothing happens where nothing waits;
a search in vain writes out what it searched, and any other parts it between two destinations, unless the
next one is refused.
-/

namespace MpegRecorder.Output

open Storage

/--
Where a search moves: at a splice point, or in front of all that it searched, if it is forced or goes past
the limit.
-/
def Chosen (force : Bool) (request : Request) (output : Output) (cut : Nat) : Prop :=
  output.policy.findCut output.buffer.content = some cut ∨
    cut = 0 ∧ output.policy.findCut output.buffer.content = none ∧
      (force = true ∨ output.scanLimit < (request.after output).scanned)

structure Written (before after : Output × Medium) : Prop where
  switches : after.1.switches = before.1.switches
  file : after.1.file? = before.1.file?
  waiting : after.1.buffer.content = []
  gains : Gains before.2.storage after.2.storage before.1.file? before.1.buffer.content

inductive Searched (force : Bool) (before after : Output × Medium) : Prop where
  | rests (same : after = before)
      (nothing : before.1.request = none ∨ before.1.buffer.content = [] ∧ force = false)
  | misses {request : Request} (waits : before.1.request = some request) (unforced : force = false)
      (missed : before.1.policy.findCut before.1.buffer.content = none)
      (within : ¬ before.1.scanLimit < (request.after before.1).scanned)
      (asks : after.1.request = some (request.after before.1)) (written : Written before after)
  | refused {request : Request} {cut : Nat} (waits : before.1.request = some request)
      (chosen : Chosen force request before.1 cut) (refused : Refused cut before after)
      (happened : .refused request.name request.token ∈ before.1.cutEvents before.2 force)
  | moves {request : Request} {cut id : Nat} (waits : before.1.request = some request)
      (filled : before.1.buffer.content ≠ [] ∨ force = true) (chosen : Chosen force request before.1 cut)
      (waiting : after.1.buffer.content = []) (handover : HandedOver cut before after id)

variable {output : Output} {medium : Medium}

theorem Sound.written (sound : output.Sound medium.storage) :
    (output.flushAll medium).1.Sound (output.flushAll medium).2.storage ∧
      Written (output, medium) (output.flushAll medium) := by
  obtain ⟨still, file, empty, gains⟩ := sound.flushAll
  exact ⟨still, (stays_flushAll output medium).switches, file, empty, gains⟩

theorem Sound.parts (sound : output.Sound medium.storage) (request : Request) (cut : Nat) :
    let moved := (output.moveAt medium request cut).2
    moved.1.Sound moved.2.storage ∧
      (Refused cut (output, medium) moved ∧
          .refused request.name request.token ∈ output.moveEvents medium request cut ∨
        moved.1.buffer.content = [] ∧ ∃ id, HandedOver cut (output, medium) moved id) := by
  obtain ⟨result, opener, storage, opened⟩ : ∃ result opener storage,
      (output.release medium cut).1.opener.openFile (output.release medium cut).2.storage request.name
        request.token = (result, opener, storage) := ⟨_, _, _, rfl⟩
  cases result with
  | error error =>
    have event : .refused request.name request.token ∈ output.moveEvents medium request cut := by
      rw [moveEvents, opened]
      exact List.mem_append_right _ (List.mem_singleton_self _)
    rw [(output.release_released medium cut).opener] at opened
    obtain ⟨still, refused⟩ := sound.moveAt_refused opened
    exact ⟨still, .inl ⟨refused, event⟩⟩
  | ok destination =>
    rw [(output.release_released medium cut).opener] at opened
    obtain ⟨still, empty, handover⟩ := sound.moveAt_opened opened
    exact ⟨still, .inr ⟨empty, _, handover⟩⟩

theorem Sound.tryCut (sound : output.Sound medium.storage) (force : Bool) :
    let searched := (output.tryCut medium force).2
    searched.1.Sound searched.2.storage ∧ Searched force (output, medium) searched := by
  cases waits : output.request with
  | none =>
    rw [tryCut_of_idle waits]
    exact ⟨sound, .rests rfl (.inl waits)⟩
  | some request =>
    by_cases nothing : output.buffer.content = [] ∧ force = false
    · obtain ⟨empty, rfl⟩ := nothing
      rw [tryCut_of_empty empty]
      exact ⟨sound, .rests rfl (.inr ⟨empty, rfl⟩)⟩
    · have filled : output.buffer.content ≠ [] ∨ force = true := by
        rwa [not_and_or, Bool.not_eq_false] at nothing
      have asking : Sound { output with request := some (request.after output) } medium.storage :=
        sound.congr rfl rfl rfl
      -- What the request counts is of no account for what becomes of the files.
      have moves {cut : Nat} (chosen : Chosen force request output cut)
          (events : output.cutEvents medium force =
            { output with request := some (request.after output) }.moveEvents medium
              (request.after output) cut) :
          let moved := ({ output with request := some (request.after output) }.moveAt medium
            (request.after output) cut).2
          moved.1.Sound moved.2.storage ∧ Searched force (output, medium) moved := by
        intro moved
        obtain ⟨still, ⟨refused, happened⟩ | ⟨empty, id, handover⟩⟩ :=
          asking.parts (request.after output) cut
        · exact ⟨still, .refused waits chosen
            ⟨refused.shut, refused.switches, refused.waiting, refused.gains⟩ (events ▸ happened)⟩
        · exact ⟨still, .moves waits filled chosen empty handover.unasked⟩
      have searches : (output.buffer.content.isEmpty && !force) = false := by
        rcases filled with filled | rfl
        · simp [filled]
        · simp
      cases found : output.policy.findCut output.buffer.content with
      | some cut =>
        rw [tryCut_of_found waits filled found]
        exact moves (.inl found) (cutEvents_of_found waits filled found medium)
      | none =>
        by_cases gives : force = true ∨ output.scanLimit < (request.after output).scanned
        · rw [tryCut_of_given_up waits filled found gives]
          refine moves (.inr ⟨rfl, found, gives⟩) ?_
          simp only [cutEvents, waits, searches, found, Bool.false_eq_true, if_false]
          exact if_pos (by simpa using gives)
        · rw [not_or, Bool.not_eq_true] at gives
          obtain ⟨rfl, under⟩ := gives
          rw [tryCut_of_missing waits (filled.resolve_right Bool.false_ne_true) found under]
          obtain ⟨still, wrote⟩ := asking.written
          refine ⟨still, .misses waits rfl found under (request_flushAll _ medium) ?_⟩
          exact ⟨wrote.switches, wrote.file, wrote.waiting, wrote.gains⟩

theorem Sound.flush (sound : output.Sound medium.storage) :
    let flushed := output.flush medium
    flushed.1.Sound flushed.2.storage ∧
      (output.request = none ∧ flushed.1.request = none ∧ Written (output, medium) flushed ∨
        output.request.isSome ∧ Searched false (output, medium) flushed) := by
  unfold Output.flush
  split
  · next asked =>
    obtain ⟨still, searched⟩ := sound.tryCut false
    exact ⟨still, .inr ⟨asked, searched⟩⟩
  · next idle =>
    rw [Option.not_isSome_iff_eq_none] at idle
    obtain ⟨still, wrote⟩ := sound.written
    exact ⟨still, .inl ⟨idle, (request_flushAll output medium).trans idle, wrote⟩⟩

end MpegRecorder.Output
