import MpegRecorder.Proofs.Output.Whereabouts
import MpegRecorder.Proofs.Session.Underway

/-!
Where the output of a session is after the session was fed or closed. Whatever the session goes through
on the way, engines that are opened anew and bytes that are fed through again included, its output gets
nothing but what engines emit, so it stays or moves once; at its end a session removes its own entry.
-/

namespace MpegRecorder.Session

open Output (Whereabouts)

variable {φ ε : Type} [Engine ε]

def outlet (state : Session φ ε × Medium) : Output × Medium :=
  (state.1.output, state.2)

theorem whereabouts_recordChunks (engine : ε) (output : Output) (medium : Medium)
    (chunks : List Bytes) :
    Whereabouts (output, medium) (recordChunks engine output medium chunks).2 := by
  unfold recordChunks
  induction chunks generalizing engine output medium with
  | nil => exact .refl _
  | cons chunk rest ih => exact (Output.whereabouts_receiveAll output medium _).trans (ih ..)

variable (session : Session φ ε) (medium : Medium)

theorem whereabouts_record (data : Bytes) :
    Whereabouts (session.output, medium) (outlet (session.record medium data)) := by
  unfold record
  split
  · exact .refl _
  · exact whereabouts_recordChunks ..

theorem whereabouts_startRecording (container : Container) :
    Whereabouts (session.output, medium) (outlet (session.startRecording medium container)) := by
  have recorded (started : Session φ ε) (data : Bytes)
      (begun : started.output = session.output.begun session.params container) :
      Whereabouts (session.output, medium) (outlet (started.record medium data)) := by
    have begins : Whereabouts (session.output, medium) (started.output, medium) := by
      rw [begun]
      exact .stays ⟨rfl, rfl, rfl, rfl, rfl⟩ id
    exact begins.trans (whereabouts_record started medium data)
  exact recorded _ _ rfl

theorem analyse_output (input : Bytes) : (session.analyse input).output = session.output := by
  unfold analyse
  split <;> rfl

theorem analyseRetained_output : session.analyseRetained.output = session.output := by
  unfold analyseRetained
  dsimp only
  split <;> rfl

theorem whereabouts_drain :
    Whereabouts (session.output, medium) (outlet (session.drain medium)) := by
  unfold drain
  split
  · exact .refl _
  · exact (whereabouts_recordChunks ..).trans (Output.whereabouts_receiveAll ..)

variable [EngineFactory φ ε]

theorem whereabouts_reopenEngine :
    Whereabouts (session.output, medium) (outlet (session.reopenEngine medium).2) := by
  cases running : session.engine with
  | none =>
    simp only [reopenEngine, running]
    split <;> exact .refl _
  | some engine =>
    simp only [reopenEngine, running]
    split <;> exact Output.whereabouts_receiveAll ..

theorem whereabouts_onDetected (container : Container) :
    Whereabouts (session.output, medium) (outlet (session.onDetected medium container).2) := by
  unfold onDetected
  split
  · have reopened := whereabouts_reopenEngine { session with
      params := { session.params with output := .transport }
      stats := { session.stats with corrections := session.stats.corrections + 1 } } medium
    dsimp only
    split
    · next failed => rwa [failed] at reopened
    · next ready now opened =>
      rw [opened] at reopened
      have replayed : Whereabouts (session.output, medium) (ready.analyseRetained.output, now) := by
        rw [analyseRetained_output]
        exact reopened
      split
      · exact replayed
      · exact replayed.trans (whereabouts_startRecording ready.analyseRetained now _)
  · exact whereabouts_startRecording session medium container

theorem whereabouts_onUndetected :
    Whereabouts (session.output, medium) (outlet (session.onUndetected medium)) := by
  unfold onUndetected
  split
  · exact .refl _
  · split
    · exact .refl _
    · exact whereabouts_reopenEngine session.emptied medium

theorem whereabouts_poll :
    Whereabouts (session.output, medium) (outlet (session.poll medium).2) := by
  unfold poll
  split
  · exact whereabouts_onDetected ..
  · exact whereabouts_onUndetected session medium

theorem whereabouts_turn (input : Bytes) :
    Whereabouts (session.output, medium) (outlet ((session.analyse input).poll medium).2) := by
  rw [← session.analyse_output input]
  exact whereabouts_poll (session.analyse input) medium

theorem whereabouts_feedFrom (rest : Bytes) :
    Whereabouts (session.output, medium) (outlet (session.feedFrom medium rest).2) := by
  fun_induction feedFrom session medium rest with
  | case1 session medium => exact .refl _
  | case2 session medium rest more container known => exact whereabouts_record session medium rest
  | case3 session medium rest more unknown polled going ih =>
    exact (whereabouts_turn session medium rest).trans ih
  | case4 session medium rest more unknown polled stuck =>
    exact whereabouts_turn session medium rest

theorem whereabouts_feed (data : Bytes) :
    Whereabouts (session.output, medium) (outlet (session.feed medium data).2) := by
  unfold feed
  split
  · exact .refl _
  · exact whereabouts_feedFrom ..

end MpegRecorder.Session
